import PascalCheck.Proofs.Token.Step

namespace PascalCheck

namespace Scanner
open Segment

def takeAll (segments : List Segment) (scanner : Scanner) : Scanner :=
  segments.foldl (fun state segment => state.take segment) scanner

theorem tape_take (segment : Segment) (scanner : Scanner) :
    (scanner.take segment).cursor.tape = (scanner.cursor.advanceBy segment.text.length).tape ∧
      (scanner.take segment).cursor.position = (scanner.cursor.advanceBy segment.text.length).position := by
  rcases segment with ⟨text,_ | kind,_ | ⟨problem,message⟩⟩ <;> exact ⟨rfl,rfl⟩

theorem rest_take (segment : Segment) (scanner : Scanner) :
    (scanner.take segment).rest = scanner.rest.drop segment.text.length := by
  rw [rest,Cursor.rest,(tape_take segment scanner).1]
  exact Cursor.rest_advanceBy _ _

theorem behind_take (segment : Segment) (scanner : Scanner) :
    (scanner.take segment).cursor.behind = scanner.cursor.behind ++ scanner.rest.take segment.text.length := by
  rw [Cursor.behind,(tape_take segment scanner).1]
  exact Cursor.behind_advanceBy _ _

theorem located_take {segment : Segment} {scanner : Scanner} (located : scanner.cursor.Located) :
    (scanner.take segment).cursor.Located := by
  have moved := located.advanceBy segment.text.length
  rw [Cursor.Located,Cursor.behind] at *
  rwa [(tape_take segment scanner).1,(tape_take segment scanner).2]

theorem tokens_take (segment : Segment) (scanner : Scanner) :
    (scanner.take segment).tokenList =
      scanner.tokenList ++ (segment.kind.map fun kind => ⟨kind,scanner.cursor.position⟩).toList := by
  rcases segment with ⟨text,_ | kind,_ | ⟨problem,message⟩⟩ <;> simp [take,tokenList,emit,advanceBy,report]

theorem reports_take (segment : Segment) (scanner : Scanner) :
    (scanner.take segment).cursor.sink.toList = scanner.cursor.sink.toList ++
      (segment.complaint.map fun told => entry scanner.cursor.sink.size (scanner.cursor.position,told)).toList := by
  rcases segment with ⟨text,_ | kind,_ | ⟨problem,message⟩⟩ <;>
    simp [take,emit,advanceBy,report,Cursor.report,Sink.entry,entry]

theorem size_take (segment : Segment) (scanner : Scanner) :
    (scanner.take segment).cursor.sink.size = scanner.cursor.sink.size + segment.complaint.toList.length := by
  rcases segment with ⟨text,_ | kind,_ | ⟨problem,message⟩⟩ <;> simp [take,emit,advanceBy,report,Cursor.report]

@[simp] theorem takeAll_cons (segment : Segment) (others : List Segment) (scanner : Scanner) :
    scanner.takeAll (segment :: others) = (scanner.take segment).takeAll others := rfl

theorem ahead_of_cons {segment : Segment} {others : List Segment} {onward : List Char} {scanner : Scanner}
    (ahead : scanner.rest = textOf (segment :: others) ++ onward) :
    scanner.rest = segment.text ++ (textOf others ++ onward) ∧ (scanner.take segment).rest = textOf others ++ onward := by
  have split : scanner.rest = segment.text ++ (textOf others ++ onward) := by simpa [textOf] using ahead
  refine ⟨split,?_⟩
  rw [rest_take,split,List.drop_left]

theorem found_of_takeAll {segments : List Segment} {onward : List Char} {scanner : Scanner}
    (located : scanner.cursor.Located) (ahead : scanner.rest = textOf segments ++ onward) :
    (scanner.takeAll segments).rest = onward ∧
      (scanner.takeAll segments).cursor.behind = scanner.cursor.behind ++ textOf segments ∧
      (scanner.takeAll segments).tokenList = scanner.tokenList ++ tokensAfter scanner.cursor.behind segments ∧
      (scanner.takeAll segments).cursor.sink.toList = scanner.cursor.sink.toList ++
        (complaintsAfter scanner.cursor.behind segments).mapIdx fun i told => entry (scanner.cursor.sink.size + i) told := by
  induction segments generalizing scanner with
  | nil =>
    refine ⟨ahead,?_,?_,?_⟩
    · simp [takeAll,textOf]
    · simp [takeAll,tokensAfter,placed]
    · simp [takeAll,complaintsAfter,placed]
  | cons segment others ih =>
    obtain ⟨split,left⟩ := ahead_of_cons ahead
    have behind : (scanner.take segment).cursor.behind = scanner.cursor.behind ++ segment.text := by
      rw [behind_take,split,List.take_left]
    obtain ⟨last,passed,found,told⟩ := ih (located_take located) left
    rw [behind] at passed found told
    rw [takeAll_cons,tokensAfter_cons,complaintsAfter_cons,← located]
    refine ⟨last,?_,?_,?_⟩
    · simpa [textOf] using passed
    · rw [found,tokens_take,List.append_assoc]
    · rw [told,reports_take,size_take,List.append_assoc]
      cases segment.complaint with
      | none => rfl
      | some problem => simp [Nat.add_assoc,Nat.add_comm 1]

theorem scan_of_tiles {segments : List Segment} {onward : List Char} {scanner : Scanner} (tiles : Tiles segments onward)
    (ahead : scanner.rest = textOf segments ++ onward) (short : ∀ segment ∈ segments, ¬ segment.Overlong) :
    scanner.scan = (scanner.takeAll segments).scan := by
  induction tiles generalizing scanner with
  | nil => rfl
  | @cons onward segment others fits tiles ih =>
    obtain ⟨split,left⟩ := ahead_of_cons ahead
    have more : scanner.rest ≠ [] := by simp [split,fits.ne_nil]
    rw [scan_step scanner more,step_of_fits fits split (short _ List.mem_cons_self)]
    exact ih left fun segment member => short segment (List.mem_cons_of_mem _ member)

theorem finished_of_tiles {segments : List Segment} {scanner : Scanner} (tiles : Tiles segments [])
    (located : scanner.cursor.Located) (ahead : scanner.rest = textOf segments)
    (short : ∀ segment ∈ segments, ¬ segment.Overlong) : scanner.scan = .finished (scanner.takeAll segments) := by
  rw [← List.append_nil (textOf segments)] at ahead
  rw [scan_of_tiles tiles ahead short,scan_at_end _ (found_of_takeAll located ahead).1]

-- A scan that finishes has met no number that is too long.
theorem short_of_finished {segments : List Segment} {onward : List Char} {scanner last : Scanner}
    (tiles : Tiles segments onward) (ahead : scanner.rest = textOf segments ++ onward)
    (finished : scanner.scan = .finished last) : ∀ segment ∈ segments, ¬ segment.Overlong := by
  induction tiles generalizing scanner with
  | nil => exact List.forall_mem_nil _
  | @cons onward segment others fits tiles ih =>
    obtain ⟨split,left⟩ := ahead_of_cons ahead
    have more : scanner.rest ≠ [] := by simp [split,fits.ne_nil]
    rw [scan_step scanner more] at finished
    have short : ¬ segment.Overlong := by
      intro long
      rw [step_of_overlong fits split long] at finished
      cases finished
    rw [step_of_fits fits split short] at finished
    exact List.forall_mem_cons.mpr ⟨short,ih left finished⟩

theorem entry_injective (count : Nat) (place : Position) :
    Function.Injective fun told : Problem × String => entry count (place,told) := by
  intro a b same
  obtain ⟨_,_,code,_,message⟩ := Diagnostic.mk.inj same
  have problem : a.1 = b.1 := by
    have found := Problem.ofCode_code a.1
    rw [show a.1.code = b.1.code from code,Problem.ofCode_code] at found
    exact (Option.some.inj found).symm
  exact Prod.ext problem message

theorem gives_of_take {a b : Segment} {scanner : Scanner} (same : scanner.take a = scanner.take b) :
    a.kind = b.kind ∧ a.complaint = b.complaint := by
  constructor
  · have tokens := congrArg tokenList same
    rw [tokens_take,tokens_take,List.append_cancel_left_eq] at tokens
    have first := congrArg List.head? tokens
    rw [Option.head?_toList,Option.head?_toList] at first
    exact Option.map_injective (fun _ _ same => (Token.mk.inj same).1) first
  · have reports := congrArg (fun state => state.cursor.sink.toList) same
    simp only [reports_take,List.append_cancel_left_eq] at reports
    have first := congrArg List.head? reports
    rw [Option.head?_toList,Option.head?_toList] at first
    exact Option.map_injective (entry_injective _ _) first

theorem unique_of_fits {a b : Segment} {x y : List Char} (fitsA : a.Fits x) (fitsB : b.Fits y)
    (same : a.text ++ x = b.text ++ y) (shortA : ¬ a.Overlong) (shortB : ¬ b.Overlong) : a = b ∧ x = y := by
  let scanner : Scanner := { cursor := { tape := .ofList (a.text ++ x) } }
  have steps : scanner.take a = scanner.take b := by
    have first := @step_of_fits scanner _ _ fitsA rfl shortA
    rw [@step_of_fits scanner _ _ fitsB same shortB] at first
    exact (Outcome.finished.inj first).symm
  have onward : x = y := by
    have left := congrArg rest steps
    rw [rest_take,rest_take] at left
    change (a.text ++ x).drop _ = (a.text ++ x).drop _ at left
    rwa [List.drop_left,same,List.drop_left] at left
  subst onward
  obtain ⟨kind,complaint⟩ := gives_of_take steps
  have text := List.append_cancel_right same
  cases a
  cases b
  simp only at kind complaint text
  subst kind complaint text
  exact ⟨rfl,rfl⟩

theorem unique_of_tiles {first second : List Segment} (tilesA : Tiles first []) (tilesB : Tiles second [])
    (same : textOf first = textOf second) (shortA : ∀ segment ∈ first, ¬ segment.Overlong)
    (shortB : ∀ segment ∈ second, ¬ segment.Overlong) : first = second := by
  induction first generalizing second with
  | nil =>
    cases second with
    | nil => rfl
    | cons b others =>
      obtain _ | ⟨fits,_⟩ := tilesB
      exact absurd (List.append_eq_nil_iff.mp same.symm).1 fits.ne_nil
  | cons a others ih =>
    obtain _ | ⟨fitsA,tilesA⟩ := tilesA
    cases second with
    | nil => exact absurd (List.append_eq_nil_iff.mp same).1 fitsA.ne_nil
    | cons b others =>
      obtain _ | ⟨fitsB,tilesB⟩ := tilesB
      rw [List.append_nil] at fitsA fitsB
      obtain ⟨hereA,laterA⟩ := List.forall_mem_cons.mp shortA
      obtain ⟨hereB,laterB⟩ := List.forall_mem_cons.mp shortB
      obtain ⟨rfl,later⟩ := unique_of_fits fitsA fitsB same hereA hereB
      rw [ih tilesA tilesB later laterA laterB]

-- What a scan has made of a text that it has read to the end: of each segment the token and the
-- report, at the place where the segment begins.
structure Tiling (chars : List Char) (scanner : Scanner) (segments : List Segment) : Prop where
  tiles : Tiles segments []
  text : textOf segments = Text.normalize chars
  only : ∀ others, Tiles others [] → textOf others = Text.normalize chars → others = segments
  filled : ∀ segment ∈ segments, segment.text ≠ []
  read : scanner.rest = []
  tokens : scanner.tokenList = tokensAfter [] segments
  reports : scanner.cursor.sink.toList = (complaintsAfter [] segments).mapIdx entry

theorem scan_finds_tiling (chars : List Char) (scanner : Scanner)
    (finished : (ofText chars).scan = .finished scanner) : ∃ segments, Tiling chars scanner segments := by
  obtain ⟨segments,text,tiles⟩ := exists_tiles (Text.normalize chars)
  have ahead : ∀ others, textOf others = Text.normalize chars → (ofText chars).rest = textOf others ++ [] := by
    intro others same
    rw [List.append_nil,same]
    rfl
  have short := short_of_finished tiles (ahead segments text) finished
  have located : (ofText chars).cursor.Located := Cursor.located_ofText chars
  have last : scanner = (ofText chars).takeAll segments := by
    rw [finished_of_tiles tiles located (by rw [ahead segments text,List.append_nil]) short] at finished
    exact (Outcome.finished.inj finished).symm
  obtain ⟨past,_,tokens,reports⟩ := found_of_takeAll located (ahead segments text)
  have none : (ofText chars).cursor.sink.toList = [] := rfl
  have zero : (ofText chars).cursor.sink.size = 0 := rfl
  refine ⟨segments,tiles,text,?_,tiles.ne_nil,last ▸ past,?_,?_⟩
  · intro others other same
    have shortOther := short_of_finished other (ahead others same) finished
    exact unique_of_tiles other tiles (same.trans text.symm) shortOther short
  · rw [last,tokens]
    rfl
  · rw [last,reports,none,zero,List.nil_append]
    simp only [Nat.zero_add]
    rfl

theorem tiling_of_cut_string :
    let chars := "70000..'(*\r\n".toList
    ∃ scanner, (ofText chars).scan = .finished scanner ∧ ∃ segments, Tiling chars scanner segments := by
  have finished : (ofText "70000..'(*\r\n".toList).scan = .finished (ofText "70000..'(*\r\n".toList).scan.after := by
    cbv
  exact ⟨_,finished,scan_finds_tiling _ _ finished⟩

end Scanner

end PascalCheck
