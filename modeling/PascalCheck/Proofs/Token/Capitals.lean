import PascalCheck.Proofs.Text.LineEnd
import PascalCheck.Proofs.Token.Resumption

namespace PascalCheck

namespace Text

variable {c d : Char} {text other : List Char}

theorem capital_iff (c : Char) : ('A' ≤ c ∧ c ≤ 'Z') ↔ 65 ≤ c.toNat ∧ c.toNat ≤ 90 := by
  simp only [Char.le_def,UInt32.le_iff_toNat_le]
  rfl

theorem toLower_other (other : ¬ (65 ≤ c.toNat ∧ c.toNat ≤ 90)) : c.toLower = c := dif_neg other

theorem toNat_toLower (capital : 65 ≤ c.toNat ∧ c.toNat ≤ 90) : c.toLower.toNat = c.toNat + 32 := by
  have moved : c.toLower.val = c.val + 32 := congrArg Char.val (dif_pos capital)
  have sum : (c.val + 32).toNat = (c.val.toNat + 32) % 4294967296 := UInt32.toNat_add _ _
  have small : c.val.toNat ≤ 90 := capital.2
  change c.toLower.val.toNat = c.val.toNat + 32
  rw [moved,sum]
  omega

theorem letter_or_same (c : Char) : c.toLower = c ∨ isLetter c = true ∧ isLetter c.toLower = true := by
  by_cases capital : 65 ≤ c.toNat ∧ c.toNat ≤ 90
  · have size := toNat_toLower capital
    refine Or.inr ⟨?_,?_⟩
    · rw [isLetter_of_ascii c (by omega),isAsciiLetter_iff]
      omega
    · rw [isLetter_of_ascii _ (by omega),isAsciiLetter_iff]
      omega
  · exact Or.inl (toLower_other capital)

-- A test that no letter passes does not see whether letters are small.
theorem test_toLower {p : Char → Bool} (odd : ∀ c, isLetter c = true → p c = false) (c : Char) :
    p c.toLower = p c := by
  rcases letter_or_same c with same | ⟨before,after⟩
  · rw [same]
  · rw [odd _ before,odd _ after]

theorem isLetter_toLower (c : Char) : isLetter c.toLower = isLetter c := by
  rcases letter_or_same c with same | ⟨before,after⟩
  · rw [same]
  · rw [before,after]

theorem isBlank_toLower (c : Char) : isBlank c.toLower = isBlank c := test_toLower (fun _ => dark_of_isLetter) c

theorem isDigit_toLower (c : Char) : isDigit c.toLower = isDigit c := test_toLower (fun _ => not_isDigit_of_isLetter) c

theorem isWordChar_toLower (c : Char) : isWordChar c.toLower = isWordChar c := by
  rw [isWordChar,isWordChar,isLetter_toLower,isDigit_toLower]

theorem toLower_odd (odd : isLetter c = false) : c.toLower = c := by
  rcases letter_or_same c with same | ⟨before,_⟩
  · exact same
  · rw [odd] at before
    cases before

theorem odd_of_isDigit (digit : isDigit c = true) : isLetter c = false := by
  by_contra letter
  rw [Bool.not_eq_false] at letter
  rw [not_isDigit_of_isLetter letter] at digit
  cases digit

theorem toLower_eq_iff (odd : isLetter d = false) : c.toLower = d ↔ c = d := by
  constructor
  · rintro rfl
    rw [isLetter_toLower] at odd
    exact (toLower_odd odd).symm
  · rintro rfl
    exact toLower_odd odd

theorem beq_toLower (odd : isLetter d = false) (c : Char) : (c.toLower == d) = (c == d) := by
  rw [Bool.eq_iff_iff,beq_iff_eq,beq_iff_eq,toLower_eq_iff odd]

theorem lowered_toLower (c : Char) : lowered c.toLower = lowered c := by
  by_cases capital : 65 ≤ c.toNat ∧ c.toNat ≤ 90
  · have size := toNat_toLower capital
    have small : ¬ ('A' ≤ c.toLower ∧ c.toLower ≤ 'Z') := by
      rw [capital_iff]
      omega
    have other : c.toLower ≠ '\u212A' := by
      intro same
      rw [same] at size
      have kelvin : ('\u212A' : Char).toNat = 8490 := rfl
      omega
    rw [lowered,if_neg small,if_neg other,lowered,if_pos ((capital_iff c).mpr capital),← size,Char.ofNat_toNat]
  · rw [toLower_other capital]

theorem map_toLower_odd (odd : ∀ c ∈ text, isLetter c = false) : text.map Char.toLower = text :=
  (List.map_congr_left fun c member => toLower_odd (odd c member)).trans (List.map_id _)

theorem map_toLower_eq_iff (odd : ∀ c ∈ other, isLetter c = false) :
    text.map Char.toLower = other ↔ text = other := by
  constructor
  · rintro rfl
    have plain : ∀ c ∈ text, isLetter c = false := by
      intro c member
      rw [← isLetter_toLower]
      exact odd _ (List.mem_map_of_mem member)
    exact (map_toLower_odd plain).symm
  · rintro rfl
    exact map_toLower_odd odd

theorem mem_map_toLower (odd : isLetter d = false) : d ∈ text.map Char.toLower ↔ d ∈ text := by
  simp only [List.mem_map,toLower_eq_iff odd,exists_eq_right]

theorem infix_map_toLower (odd : ∀ c ∈ other, isLetter c = false) :
    other <:+: text.map Char.toLower ↔ other <:+: text := by
  rw [List.infix_map_iff]
  constructor
  · rintro ⟨part,inside,same⟩
    rwa [← (map_toLower_eq_iff odd).mp same.symm]
  · intro inside
    exact ⟨other,inside,(map_toLower_odd odd).symm⟩

theorem head_map_toLower (odd : isLetter d = false) :
    (text.map Char.toLower).head? = some d ↔ text.head? = some d := by
  simp only [List.head?_map,Option.map_eq_some_iff,toLower_eq_iff odd,exists_eq_right]

theorem normalize_toLower (text : List Char) : normalize (text.map Char.toLower) = (normalize text).map Char.toLower := by
  rw [normalize_eq_feeds,normalize_eq_feeds]
  fun_induction feeds text with
  | case1 => rfl
  | case2 rest ih => exact congrArg ('\n' :: ·) ih
  | case3 rest alone ih =>
    have carriage : ('\r' : Char).toLower = '\r' := rfl
    rw [List.map_cons,List.map_cons,carriage,← ih]
    refine feeds_ending .carriage fun _ feed => ?_
    obtain ⟨others,same⟩ := List.head?_eq_some_iff.mp ((head_map_toLower rfl).mp feed)
    exact alone others same
  | case4 c rest pair single ih =>
    have other : c.toLower ≠ '\r' := fun same => single ((toLower_eq_iff rfl).mp same)
    rw [List.map_cons,List.map_cons,← ih]
    exact feeds.eq_4 _ _ (fun _ same _ => other same) other

end Text

namespace TokenKind

theorem odd_of_mark : ∀ kind ∈ marks, ∀ c ∈ kind.spelling.toList, Text.isLetter c = false := by
  have all : (marks.all fun kind => kind.spelling.toList.all fun c => !Text.isLetter c) = true := rfl
  intro kind member c inside
  simpa using List.all_eq_true.mp (List.all_eq_true.mp all kind member) c inside

theorem mark_toLower (text : List Char) : mark? (text.map Char.toLower) = mark? text := by
  rw [mark?,mark?,← List.head?_filter,← List.head?_filter]
  refine congrArg List.head? (List.filter_congr fun kind member => ?_)
  rw [Bool.eq_iff_iff,beq_iff_eq,beq_iff_eq,eq_comm,Text.map_toLower_eq_iff (odd_of_mark kind member),eq_comm]

end TokenKind

namespace Segment

variable {segment : Segment} {segments : List Segment} {onward : List Char}

def small (segment : Segment) : Segment := { segment with text := segment.text.map Char.toLower }

theorem Stops.small {p : Char → Bool} (same : ∀ c, p c.toLower = p c) (stops : Stops p onward) :
    Stops p (onward.map Char.toLower) := by
  intro c found
  rw [List.head?_map] at found
  obtain ⟨d,head,rfl⟩ := Option.map_eq_some_iff.mp found
  rw [same]
  exact stops d head

theorem small_word (text : List Char) : (word text).small = word (text.map Char.toLower) := by
  have lowered : (text.map Char.toLower).map Text.lowered = text.map Text.lowered := by
    rw [List.map_map]
    exact List.map_congr_left fun c _ => Text.lowered_toLower c
  rw [Segment.small,word,word,lowered]

theorem alone_small {a : Char} (plain : Plain a) (alone : ∀ b ∈ onward.head?, TokenKind.mark? [a,b] = none) :
    ∀ b ∈ (onward.map Char.toLower).head?, TokenKind.mark? [a,b] = none := by
  intro b found
  rw [List.head?_map] at found
  obtain ⟨c,head,rfl⟩ := Option.map_eq_some_iff.mp found
  have same := TokenKind.mark_toLower [a,c]
  rw [List.map_cons,List.map_singleton,Text.toLower_odd plain.letter] at same
  rw [same]
  exact alone c head

theorem Fits.with_text {other : List Char} (fits : Fits { segment with text := other } onward)
    (same : segment.text.map Char.toLower = other) : segment.small.Fits onward := by
  rwa [Segment.small,same]

theorem odd_closer : ∀ c ∈ ['*',')'], Text.isLetter c = false :=
  List.forall_mem_cons.mpr ⟨rfl,List.forall_mem_singleton.mpr rfl⟩

theorem Fits.small (fits : segment.Fits onward) : segment.small.Fits (onward.map Char.toLower) := by
  cases fits with
  | blank bright => exact .blank ((Text.isBlank_toLower _).trans bright)
  | braced inner =>
    refine Fits.with_text (.braced (mt (Text.mem_map_toLower rfl).mp inner)) ?_
    exact List.map_append
  | bracedOpen inner => exact .bracedOpen (mt (Text.mem_map_toLower rfl).mp inner)
  | @starred _ body inner =>
    have inner : ¬ ['*',')'] <:+: body.map Char.toLower ++ ['*'] := by
      have whole : (body ++ ['*']).map Char.toLower = body.map Char.toLower ++ ['*'] := List.map_append
      rwa [← whole,Text.infix_map_toLower odd_closer]
    refine Fits.with_text (.starred inner) ?_
    exact List.map_append
  | starredOpen inner => exact .starredOpen (mt (Text.infix_map_toLower odd_closer).mp inner)
  | bracket single => exact .bracket (mt (Text.head_map_toLower rfl).mp single)
  | numeral some all stops =>
    have odd := fun c member => Text.odd_of_isDigit (all c member)
    exact Fits.with_text (.numeral some all (stops.small Text.isDigit_toLower)) (Text.map_toLower_odd odd)
  | word letter all stops =>
    rw [small_word]
    refine .word ((Text.isLetter_toLower _).trans letter) ?_ (stops.small Text.isWordChar_toLower)
    exact List.forall_mem_map.mpr fun c member => (Text.isWordChar_toLower c).trans (all c member)
  | quoted quote line =>
    have quote := mt (Text.mem_map_toLower rfl).mp quote
    refine Fits.with_text (.quoted quote (mt (Text.mem_map_toLower rfl).mp line)) ?_
    exact List.map_append
  | quotedOpen quote line ends =>
    refine .quotedOpen (mt (Text.mem_map_toLower rfl).mp quote) (mt (Text.mem_map_toLower rfl).mp line) ?_
    intro c found
    rw [List.head?_map] at found
    obtain ⟨d,head,rfl⟩ := Option.map_eq_some_iff.mp found
    rw [ends d head]
    rfl
  | @pair _ a b kind plain known =>
    have same := TokenKind.mark_toLower [a,b]
    rw [List.map_cons,List.map_singleton,Text.toLower_odd plain.letter,known] at same
    refine Fits.with_text (.pair plain same) ?_
    rw [mark,List.map_cons,List.map_singleton,Text.toLower_odd plain.letter]
  | single plain known alone =>
    refine Fits.with_text (.single plain known (alone_small plain alone)) ?_
    rw [mark,List.map_singleton,Text.toLower_odd plain.letter]
  | stray plain unknown alone =>
    refine Fits.with_text (.stray plain unknown (alone_small plain alone)) ?_
    rw [Segment.stray,List.map_singleton,Text.toLower_odd plain.letter]

theorem textOf_small (segments : List Segment) : textOf (segments.map small) = (textOf segments).map Char.toLower := by
  rw [textOf,textOf,List.flatMap_map,List.map_flatMap]
  rfl

theorem Tiles.small (tiles : Tiles segments onward) : Tiles (segments.map Segment.small) (onward.map Char.toLower) := by
  induction tiles with
  | nil => exact .nil
  | cons fits _ ih =>
    have here := fits.small
    rw [List.map_append,← textOf_small] at here
    exact .cons here ih

theorem after_small (front : List Char) : Position.after (front.map Char.toLower) = Position.after front := by
  have feed : (· == '\n') ∘ Char.toLower = (· == '\n') := funext (Text.beq_toLower rfl)
  have other : (· != '\n') ∘ Char.toLower = (· != '\n') := funext fun c => congrArg not (Text.beq_toLower rfl c)
  have row : (front.map Char.toLower).count '\n' = front.count '\n' := by
    rw [List.count_eq_countP,List.countP_map,feed,List.count_eq_countP]
  have column : (front.map Char.toLower).reverse.takeWhile (· != '\n') =
      (front.reverse.takeWhile (· != '\n')).map Char.toLower := by
    rw [← List.map_reverse,List.takeWhile_map,other]
  rw [Position.after,Position.after,row,column,List.length_map]

theorem placed_small (front : List Char) (segments : List Segment) :
    placed (front.map Char.toLower) (segments.map small) =
      (placed front segments).map fun part => (part.1,part.2.small) := by
  induction segments generalizing front with
  | nil => rfl
  | cons segment others ih =>
    have onward := ih (front ++ segment.text)
    rw [List.map_append] at onward
    rw [List.map_cons,placed,placed,List.map_cons,after_small,← onward]
    rfl

theorem placed_all_small (segments : List Segment) :
    placed [] (segments.map small) = (placed [] segments).map fun part => (part.1,part.2.small) :=
  placed_small [] segments

theorem tokensAfter_small (segments : List Segment) : tokensAfter [] (segments.map small) = tokensAfter [] segments := by
  rw [tokensAfter,tokensAfter,placed_all_small,List.filterMap_map]
  rfl

theorem complaintsAfter_small (segments : List Segment) :
    complaintsAfter [] (segments.map small) = complaintsAfter [] segments := by
  rw [complaintsAfter,complaintsAfter,placed_all_small,List.filterMap_map]
  rfl

theorem overlong_small (segment : Segment) : segment.small.Overlong ↔ segment.Overlong := by
  have head : segment.small.text.head?.any Text.isDigit = segment.text.head?.any Text.isDigit := by
    rw [Segment.small,List.head?_map,Option.any_map]
    exact congrArg (segment.text.head?.any ·) (funext Text.isDigit_toLower)
  have size : segment.small.text.length = segment.text.length := List.length_map _
  rw [Overlong,Overlong,head,size]

end Segment

namespace Scanner
open Segment

theorem cause_of_tiles {segments : List Segment} {scanner : Scanner} (tiles : Tiles segments [])
    (ahead : scanner.rest = textOf segments) :
    scanner.scan.cause? =
      (segments.find? fun segment => decide segment.Overlong).map fun number => .tooManyDigits number.text.length := by
  rcases scan_ends tiles ahead with ⟨short,ended⟩ | ⟨before,number,others,rfl,short,long,_,ended⟩
  · rw [ended,List.find?_eq_none.mpr fun segment member => by simpa using short segment member]
    rfl
  · rw [ended,List.find?_append,List.find?_eq_none.mpr fun segment member => by simpa using short segment member,
      List.find?_cons_of_pos (by simpa using long)]
    rfl

theorem cause_toLower (chars : List Char) :
    (ofText (chars.map Char.toLower)).scan.cause? = (ofText chars).scan.cause? := by
  obtain ⟨segments,same,tiles⟩ := exists_tiles (Text.normalize chars)
  have ahead : (ofText chars).rest = textOf segments := same.symm
  have aheadSmall : (ofText (chars.map Char.toLower)).rest = textOf (segments.map small) := by
    rw [textOf_small,same,← Text.normalize_toLower]
    rfl
  have overlong : (fun segment : Segment => decide segment.Overlong) ∘ small = fun segment => decide segment.Overlong :=
    funext fun segment => decide_eq_decide.mpr (overlong_small segment)
  have size : ∀ segment : Segment, segment.small.text.length = segment.text.length := fun _ => List.length_map _
  rw [cause_of_tiles tiles.small aheadSmall,cause_of_tiles tiles ahead,List.find?_map,overlong,Option.map_map]
  simp only [Function.comp_def,size]

end Scanner

theorem tokenize_error_iff (chars : List Char) (fault : Scanner.Fault) :
    tokenize chars = .error fault ↔ (Scanner.ofText chars).scan.cause? = some fault := by
  unfold tokenize
  cases (Scanner.ofText chars).scan <;> simp [Outcome.cause?]

theorem Scanner.Gives.unique {segments : List Segment} {first second : List Token} {sink other : Sink}
    (one : Scanner.Gives segments first sink) (two : Scanner.Gives segments second other) :
    first = second ∧ sink = other := by
  refine ⟨one.tokens.trans two.tokens.symm,?_⟩
  have entries : sink.entries.toList = other.entries.toList := one.reports.trans two.reports.symm
  exact congrArg Sink.mk (Array.toList_inj.mp entries)

-- A scan does not see which letters of ASCII are capitals.
theorem tokenize_toLower (chars : List Char) : tokenize (chars.map Char.toLower) = tokenize chars := by
  cases scanned : tokenize chars with
  | error fault => rwa [tokenize_error_iff,Scanner.cause_toLower,← tokenize_error_iff]
  | ok found =>
    obtain ⟨tokens,sink⟩ := found
    obtain ⟨segments,tiles,same,short,gives⟩ := Scanner.tiles_of_tokenize scanned
    have text : Segment.textOf (segments.map Segment.small) = Text.normalize (chars.map Char.toLower) := by
      rw [Segment.textOf_small,same,Text.normalize_toLower]
    have shortSmall : ∀ segment ∈ segments.map Segment.small, ¬ segment.Overlong :=
      List.forall_mem_map.mpr fun segment member => mt (Segment.overlong_small segment).mp (short segment member)
    obtain ⟨others,other,scannedSmall,tokensSmall,reportsSmall⟩ :=
      Scanner.tokenize_of_tiles tiles.small text shortSmall
    rw [Segment.tokensAfter_small] at tokensSmall
    rw [Segment.complaintsAfter_small] at reportsSmall
    obtain ⟨rfl,rfl⟩ := gives.unique ⟨tokensSmall,reportsSmall⟩
    exact scannedSmall

end PascalCheck
