import PascalCheck.Proofs.Token.Layout

namespace PascalCheck

namespace Text

def terminators : List Char → Nat
  | [] => 0
  | '\r' :: '\n' :: rest => terminators rest + 1
  | '\r' :: rest => terminators rest + 1
  | '\n' :: rest => terminators rest + 1
  | _ :: rest => terminators rest

theorem terminators_eq_count (text : List Char) : terminators text = (normalize text).count '\n' := by
  rw [normalize_eq_feeds]
  fun_induction terminators text with
  | case1 => rfl
  | case2 rest ih => rw [ih,feeds,List.count_cons_self]
  | case3 rest alone ih =>
    rw [ih,feeds.eq_3 _ alone,List.count_cons_self]
  | case4 rest ih =>
    rw [ih,feeds,List.count_cons_self]
    · simp
    · simp
  | case5 c rest pair single feed ih =>
    rw [ih,feeds.eq_4 _ _ pair single,List.count_cons_of_ne]
    exact feed

-- A line feed ends its line whatever stands behind it, also as the second half of a pair.
theorem feeds_of_feed (front : List Char) :
    ∃ lines, ∀ behind, feeds (front ++ '\n' :: behind) = lines ++ '\n' :: feeds behind := by
  fun_induction feeds front with
  | case1 => exact ⟨[],fun _ => rfl⟩
  | case2 rest ih =>
    obtain ⟨lines,same⟩ := ih
    exact ⟨'\n' :: lines,fun behind => congrArg ('\n' :: ·) (same behind)⟩
  | case3 rest alone ih =>
    obtain ⟨lines,same⟩ := ih
    cases rest with
    | nil => exact ⟨[],fun _ => rfl⟩
    | cons c rest =>
      refine ⟨'\n' :: lines,fun behind => ?_⟩
      rw [List.cons_append,List.cons_append,feeds.eq_3,← List.cons_append,same,List.cons_append]
      intro others same
      exact alone rest (by rw [(List.cons.inj same).1])
  | case4 c rest pair single ih =>
    obtain ⟨lines,same⟩ := ih
    refine ⟨c :: lines,fun behind => ?_⟩
    rw [List.cons_append,feeds.eq_4 _ _ (fun _ same _ => single same) single,same,List.cons_append]

def Whole (text : List Char) : Prop := text = [] ∨ text.getLast? = some '\n'

instance (text : List Char) : Decidable (Whole text) := inferInstanceAs (Decidable (_ ∨ _))

theorem exists_of_whole {text : List Char} (whole : Whole text) : text = [] ∨ ∃ front, text = front ++ ['\n'] := by
  rcases whole with rfl | last
  · exact Or.inl rfl
  · exact Or.inr (List.getLast?_eq_some_iff.mp last)

theorem normalize_lines {lines : List Char} (whole : Whole lines) :
    Whole (normalize lines) ∧ ∀ behind, normalize (lines ++ behind) = normalize lines ++ normalize behind := by
  rcases exists_of_whole whole with rfl | ⟨front,rfl⟩
  · exact ⟨Or.inl rfl,fun _ => rfl⟩
  · obtain ⟨lines,same⟩ := feeds_of_feed front
    have alone : normalize (front ++ ['\n']) = lines ++ ['\n'] := by rw [normalize_eq_feeds,same,feeds]
    rw [alone]
    refine ⟨Or.inr (by simp),fun behind => ?_⟩
    rw [normalize_eq_feeds,normalize_eq_feeds,List.append_assoc,List.append_assoc]
    exact same behind

end Text

def Position.down (count : Nat) (place : Position) : Position := ⟨place.line + count,place.column⟩

def Token.down (count : Nat) (token : Token) : Token := { token with position := token.position.down count }

def Diagnostic.down (count reports : Nat) (entry : Diagnostic) : Diagnostic :=
  { entry with line := entry.line + count, number := entry.number + reports }

namespace Position

theorem after_lines {lines : List Char} (whole : Text.Whole lines) (text : List Char) :
    after (lines ++ text) = (after text).down (lines.count '\n') := by
  have none : lines.reverse.takeWhile (· != '\n') = [] := by
    rcases Text.exists_of_whole whole with rfl | ⟨front,rfl⟩
    · rfl
    · simp
  have column : (lines ++ text).reverse.takeWhile (· != '\n') = text.reverse.takeWhile (· != '\n') := by
    rw [List.reverse_append,List.takeWhile_append,none]
    split
    · rename_i flat
      rw [List.append_nil,(List.takeWhile_prefix _).eq_of_length flat]
    · rfl
  rw [after,after,column,List.count_append,Nat.add_comm]
  rfl

end Position

namespace Segment

variable {segment : Segment} {segments : List Segment} {onward other lines : List Char}

theorem placed_lines (whole : Text.Whole lines) (front : List Char) (segments : List Segment) :
    placed (lines ++ front) segments = (placed front segments).map fun part => (part.1.down (lines.count '\n'),part.2) := by
  induction segments generalizing front with
  | nil => rfl
  | cons segment others ih =>
    rw [placed,placed,List.map_cons,List.append_assoc,ih,Position.after_lines whole]

theorem given_lines {α β : Type} (whole : Text.Whole lines) (give : Segment → Option α) (put : Position → α → β)
    (down : β → β) (moved : ∀ place given, put (place.down (lines.count '\n')) given = down (put place given))
    (segments : List Segment) :
    (placed lines segments).filterMap (fun part => (give part.2).map (put part.1)) =
      ((placed [] segments).filterMap fun part => (give part.2).map (put part.1)).map down := by
  have placed := placed_lines whole [] segments
  rw [List.append_nil] at placed
  rw [placed,List.filterMap_map,List.map_filterMap]
  refine List.filterMap_congr fun part _ => ?_
  rw [Function.comp_apply,Option.map_map]
  exact Option.map_congr fun given _ => moved part.1 given

theorem tokensAfter_lines (whole : Text.Whole lines) (segments : List Segment) :
    tokensAfter lines segments = (tokensAfter [] segments).map (Token.down (lines.count '\n')) :=
  given_lines whole Segment.kind (fun place kind => Token.mk kind place) (Token.down (lines.count '\n'))
    (fun _ _ => rfl) segments

theorem complaintsAfter_lines (whole : Text.Whole lines) (segments : List Segment) :
    complaintsAfter lines segments =
      (complaintsAfter [] segments).map fun told => (told.1.down (lines.count '\n'),told.2) :=
  given_lines whole Segment.complaint Prod.mk (fun told => (told.1.down (lines.count '\n'),told.2))
    (fun _ _ => rfl) segments

-- A segment that ends with a line feed does not look at what stands behind it, unless it is a comment without its end.
theorem Fits.behind_feed (fits : segment.Fits onward) (feed : segment.text.getLast? = some '\n')
    (closed : ∀ told ∈ segment.complaint, told.1 ≠ .unterminatedComment) : segment.Fits other := by
  have last := List.mem_of_getLast? feed
  cases fits with
  | blank bright => exact .blank bright
  | braced inner => exact .braced inner
  | starred inner => exact .starred inner
  | quoted quote line => exact .quoted quote line
  | pair plain known => exact .pair plain known
  | bracedOpen inner => exact absurd rfl (closed _ rfl)
  | starredOpen inner => exact absurd rfl (closed _ rfl)
  | bracket single => simp [mark] at last
  | numeral some all stops => exact absurd rfl (Text.ne_of_test (all _ last) rfl)
  | word letter all stops =>
    rcases List.mem_cons.mp last with rfl | inside
    · exact absurd rfl (Text.ne_of_test letter rfl)
    · exact absurd rfl (Text.ne_of_test (all _ inside) rfl)
  | quotedOpen quote line ends => simp [openQuoted,line] at last
  | single plain known alone =>
    cases List.mem_singleton.mp last
    cases plain.dark
  | stray plain unknown alone =>
    cases List.mem_singleton.mp last
    cases plain.dark

theorem entry_down (lines reports i : Nat) (told : Position × Problem × String) :
    entry (i + reports) (told.1.down lines,told.2) = (entry i told).down lines reports := by
  have line : told.1.line + lines + 1 = told.1.line + 1 + lines := by omega
  have number : ((i + reports : Nat) : Int) + 1 = i + 1 + reports := by omega
  simp only [entry,Position.down,Diagnostic.down,line,number]

theorem mem_complaintsAfter {told : Problem × String} (front : List Char) (member : segment ∈ segments)
    (made : segment.complaint = some told) : ∃ place, (place,told) ∈ complaintsAfter front segments := by
  induction segments generalizing front with
  | nil => cases member
  | cons first others ih =>
    rw [complaintsAfter_cons]
    rcases List.mem_cons.mp member with rfl | later
    · exact ⟨.after front,List.mem_append_left _ (by simp [made])⟩
    · obtain ⟨place,found⟩ := ih (front ++ first.text) later
      exact ⟨place,List.mem_append_right _ found⟩

theorem getLast_textOf (tiles : Tiles segments onward) (found : segment ∈ segments.getLast?) :
    (textOf segments).getLast? = segment.text.getLast? := by
  obtain ⟨before,rfl⟩ := List.getLast?_eq_some_iff.mp found
  have some := tiles.ne_nil segment (by simp)
  rw [Scanner.textOf_append,List.getLast?_append_of_ne_nil _ (by simpa [textOf] using some)]
  simp [textOf]

theorem Tiles.behind_lines (tiles : Tiles segments []) (whole : Text.Whole (textOf segments))
    (closed : ∀ segment ∈ segments, ∀ told ∈ segment.complaint, told.1 ≠ .unterminatedComment) : Tiles segments other := by
  apply tiles.elsewhere
  intro last found fits
  have member := List.mem_of_getLast? found
  have ends := getLast_textOf tiles found
  rcases whole with none | feed
  · exact absurd (List.flatMap_eq_nil_iff.mp none last member) (tiles.ne_nil last member)
  · exact fits.behind_feed (ends.symm.trans feed) (closed last member)

end Segment

namespace Scanner
open Segment

variable {segments others : List Segment} {tokens : List Token} {sink : Sink}

theorem closed_of_gives (gives : Gives segments tokens sink)
    (closed : ∀ entry ∈ sink.toList, entry.code ≠ Problem.unterminatedComment.code) :
    ∀ segment ∈ segments, ∀ told ∈ segment.complaint, told.1 ≠ .unterminatedComment := by
  intro segment member told made cut
  obtain ⟨place,found⟩ := mem_complaintsAfter [] member made
  obtain ⟨i,inside,same⟩ := List.mem_iff_getElem.mp found
  have entry : entry i (place,told) ∈ sink.toList := by
    rw [gives.reports,List.mem_mapIdx]
    exact ⟨i,inside,by rw [same]⟩
  exact closed _ entry (congrArg Problem.code cut)

theorem gives_append {all : List Token} {whole : Sink} {later : List Token} {second : Sink}
    (lines : Text.Whole (textOf segments)) (here : Gives segments tokens sink) (there : Gives others later second)
    (both : Gives (segments ++ others) all whole) :
    all = tokens ++ later.map (Token.down ((textOf segments).count '\n')) ∧
      whole.toList = sink.toList ++
        second.toList.map (Diagnostic.down ((textOf segments).count '\n') sink.toList.length) := by
  constructor
  · rw [both.tokens,here.tokens,there.tokens,tokensAfter_append,List.nil_append,tokensAfter_lines lines]
  · rw [both.reports,here.reports,there.reports,complaintsAfter_append,List.nil_append,complaintsAfter_lines lines,
      List.mapIdx_append,List.length_mapIdx,List.append_cancel_left_eq]
    apply List.ext_getElem
    · simp
    · intro i _ _
      simp [entry_down]

end Scanner

-- What is found in whole lines and in a text behind them is what is found in each, with the places moved down.
theorem tokenize_lines (lines text : List Char) (first second : List Token) (sink later : Sink)
    (whole : Text.Whole lines) (scanned : tokenize lines = .ok (first,sink))
    (closed : ∀ entry ∈ sink.toList, entry.code ≠ Problem.unterminatedComment.code)
    (behind : tokenize text = .ok (second,later)) :
    ∃ reports, tokenize (lines ++ text) = .ok (first ++ second.map (Token.down (Text.terminators lines)),reports) ∧
      reports.toList = sink.toList ++
        later.toList.map (Diagnostic.down (Text.terminators lines) sink.toList.length) := by
  obtain ⟨segments,tiles,same,short,gives⟩ := Scanner.tiles_of_tokenize scanned
  obtain ⟨others,tilesBehind,sameBehind,shortBehind,givesBehind⟩ := Scanner.tiles_of_tokenize behind
  obtain ⟨ended,joins⟩ := Text.normalize_lines whole
  rw [← same] at ended
  have apart : Segment.Tiles segments (Segment.textOf others) :=
    tiles.behind_lines ended (Scanner.closed_of_gives gives closed)
  have text : Segment.textOf (segments ++ others) = Text.normalize (lines ++ text) := by
    rw [Scanner.textOf_append,same,sameBehind,joins]
  obtain ⟨tokens,reports,found,both⟩ := Scanner.tokenize_of_tiles (apart.join tilesBehind) text
    (List.forall_mem_append.mpr ⟨short,shortBehind⟩)
  obtain ⟨tokensBoth,reportsBoth⟩ := Scanner.gives_append ended gives givesBehind both
  rw [Text.terminators_eq_count,← same,found,tokensBoth]
  exact ⟨reports,rfl,reportsBoth⟩

theorem tokenize_lines_of_cut_strings :
    ∃ reports, tokenize ("a\r'b\r\n<\n".toList ++ "=?\n'".toList) =
        .ok ([⟨.ident,⟨0,0⟩⟩,⟨.string,⟨1,0⟩⟩,⟨.lt,⟨2,0⟩⟩,⟨.eq,⟨3,0⟩⟩,⟨.string,⟨4,0⟩⟩],reports) ∧
      reports.toList = [⟨2,1,301,1,"unterminated string literal"⟩,⟨4,2,302,2,"invalid character '?'"⟩,
        ⟨5,1,301,3,"unterminated string literal"⟩] := by
  have scanned : tokenize "a\r'b\r\n<\n".toList =
      .ok ([⟨.ident,⟨0,0⟩⟩,⟨.string,⟨1,0⟩⟩,⟨.lt,⟨2,0⟩⟩],⟨#[⟨2,1,301,1,"unterminated string literal"⟩]⟩) := by
    cbv
  have behind : tokenize "=?\n'".toList =
      .ok ([⟨.eq,⟨0,0⟩⟩,⟨.string,⟨1,0⟩⟩],
        ⟨#[⟨1,2,302,1,"invalid character '?'"⟩,⟨2,1,301,2,"unterminated string literal"⟩]⟩) := by
    cbv
  have closed : ∀ entry ∈ (⟨#[⟨2,1,301,1,"unterminated string literal"⟩]⟩ : Sink).toList,
      entry.code ≠ Problem.unterminatedComment.code := by
    decide
  exact tokenize_lines _ _ _ _ _ _ (Or.inr rfl) scanned closed behind

end PascalCheck
