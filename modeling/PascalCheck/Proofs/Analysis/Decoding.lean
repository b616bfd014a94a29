import PascalCheck.Proofs.Analysis.Listing
import PascalCheck.Proofs.Diagnostic.Decoding
import PascalCheck.Proofs.Grammar.Wording

namespace PascalCheck

namespace Text

theorem hexDigit_ne_feed : ∀ n, n < 16 → hexDigit n ≠ '\n' := by decide

theorem flat_hexDigits (n width : Nat) : '\n' ∉ hexDigits n width := by
  induction width generalizing n with
  | zero => exact List.not_mem_nil
  | succ width ih =>
    rw [hexDigits,List.mem_append,List.mem_singleton]
    exact not_or.mpr ⟨ih _,(hexDigit_ne_feed _ (Nat.mod_lt _ (by decide))).symm⟩

theorem flat_quotedChar {mark : Char} (inner : mark ≠ '\n') (c : Char) : '\n' ∉ quotedChar mark c := by
  unfold quotedChar
  split
  · decide
  split
  · simpa using inner.symm
  split
  · decide
  split
  · decide
  rename_i feed
  split
  · decide
  split
  · simpa using Ne.symm feed
  split
  · simpa using flat_hexDigits _ _
  split
  · simpa using flat_hexDigits _ _
  · simpa using flat_hexDigits _ _

theorem oneRow_quoted (text : String) : Listing.OneRow (quoted text) := by
  have inner : markFor text.toList ≠ '\n' := by
    unfold markFor
    split <;> decide
  rw [Listing.OneRow,quoted,String.toList_ofList]
  simp only [List.mem_append,List.mem_cons,List.mem_flatMap,List.not_mem_nil,or_false]
  rintro ((mark | ⟨c,_,held⟩) | mark)
  · exact inner mark.symm
  · exact flat_quotedChar inner c held
  · exact inner mark.symm

end Text

namespace Segment

variable {segment : Segment} {segments : List Segment} {onward : List Char}

theorem Fits.oneRow (fits : segment.Fits onward) : ∀ told ∈ segment.complaint, Listing.OneRow told.2 := by
  cases fits with
  | bracedOpen _ =>
    rintro told ⟨⟩
    exact Problem.oneRow_message _
  | starredOpen _ =>
    rintro told ⟨⟩
    exact Problem.oneRow_message _
  | numeral _ _ _ =>
    intro told found
    dsimp only [Segment.numeral] at found
    split at found
    · cases found
      exact Problem.oneRow_message _
    · cases found
  | quotedOpen _ _ _ =>
    rintro told ⟨⟩
    exact Problem.oneRow_message _
  | stray _ _ _ =>
    rintro told ⟨⟩
    exact Listing.oneRow_append (Listing.oneRow_of_plain rfl) (Text.oneRow_quoted _)
  | _ => rintro told ⟨⟩

theorem oneRow_complaint (tiles : Tiles segments []) {told : Position × Problem × String}
    (member : told ∈ complaintsAfter [] segments) : Listing.OneRow told.2.2 := by
  obtain ⟨⟨place,lexeme⟩,part,made⟩ := List.mem_filterMap.mp member
  obtain ⟨complaint,known,rfl⟩ := Option.map_eq_some_iff.mp made
  obtain ⟨before,others,rfl,_⟩ := mem_placed part
  exact (fits_of_split tiles).oneRow complaint known

end Segment

namespace Analysis
open Listing (Listable)

variable {chars : List Char} {scanner : Scanner} {segments : List Segment}

theorem terse_of_adds (tiles : Segment.Tiles segments [])
    (adds : Scanner.Adds segments (Scanner.ofText chars) scanner) : (checked scanner).sink.Terse := by
  have lexical : scanner.cursor.sink.Terse := by
    intro entry member
    rw [adds.reports] at member
    rcases List.mem_append.mp member with none | made
    · cases none
    · obtain ⟨i,inside,rfl⟩ := List.mem_mapIdx.mp made
      exact Segment.oneRow_complaint tiles (List.getElem_mem inside)
  exact Checker.terse_program (Checker.ofTokens scanner.tokenList scanner.cursor.sink) lexical

theorem listable_of_analyze {file : String} {analysis : Analysis} (analyzed : analyze file chars = .ok analysis) :
    Listable analysis.lines analysis.diagnostics := by
  have marked := marked_of_analyze analyzed
  obtain ⟨scanner,finished,rfl⟩ := scan_of_analyze analyzed
  obtain ⟨segments,tiles,text,adds⟩ := Scanner.adds_of_scan finished
  have lines : (ofScan file scanner).lines = (Text.lines (Text.normalize chars)).map String.ofList :=
    lines_of_scan finished
  refine ⟨?_,?_,Sink.ordered_ranked _,Sink.numbers_ranked _,?_,?_⟩
  · intro line member
    rw [lines] at member
    obtain ⟨row,held,rfl⟩ := List.mem_map.mp member
    rw [Listing.OneRow,String.toList_ofList]
    exact Text.flat_lines _ row held
  · intro entry member
    obtain ⟨old,held,number,rfl⟩ := Sink.mem_ranked member
    exact terse_of_adds tiles adds old held
  · intro entry member
    obtain ⟨row,column,marks⟩ := marked entry member
    have listed := marks.listed
    have line := marks.inLine
    omega
  · intro entry member
    obtain ⟨row,column,marks⟩ := marked entry member
    have place := marks.inColumn
    omega

theorem normalize_of_lines {chars others : List Char} {file other : String} {first second : Analysis}
    (analyzed : analyze file chars = .ok first) (alike : analyze other others = .ok second)
    (same : first.lines = second.lines) : Text.normalize chars = Text.normalize others := by
  obtain ⟨scanner,finished,rfl⟩ := scan_of_analyze analyzed
  obtain ⟨twin,ended,rfl⟩ := scan_of_analyze alike
  have lines : (Text.lines (Text.normalize chars)).map String.ofList =
      (Text.lines (Text.normalize others)).map String.ofList := by
    rw [← lines_of_scan finished,← lines_of_scan ended]
    exact same
  have rows := List.map_injective_iff.mpr (fun _ _ => String.ofList_injective) lines
  have joined := congrArg (Text.joinWith '\n') rows
  rwa [Text.lines,Text.lines,Text.joinWith_splitAt,Text.joinWith_splitAt] at joined

theorem listing_of_normalize {chars others : List Char} {file other : String} {first second : Analysis}
    (analyzed : analyze file chars = .ok first) (alike : analyze other others = .ok second)
    (same : Text.normalize chars = Text.normalize others) : first.listing = second.listing := by
  obtain ⟨scanner,finished,rfl⟩ := scan_of_analyze analyzed
  obtain ⟨twin,ended,rfl⟩ := scan_of_analyze alike
  have start : Scanner.ofText chars = Scanner.ofText others := by
    rw [Scanner.ofText,Cursor.ofText,same]
    rfl
  rw [start,ended] at finished
  cases finished
  rfl

-- A listing can be read back, and so can that of every analysis; equal ones come from equal texts.
theorem listing_is_faithful :
    (∀ lines entries, Listable lines entries → Listing.read (Listing.render lines entries) = (lines,entries)) ∧
    (∀ lines entries others otherEntries, Listable lines entries → Listable others otherEntries →
      Listing.render lines entries = Listing.render others otherEntries → lines = others ∧ entries = otherEntries) ∧
    (∀ file chars analysis, analyze file chars = .ok analysis → Listable analysis.lines analysis.diagnostics) ∧
    ∀ file chars analysis other others twin, analyze file chars = .ok analysis → analyze other others = .ok twin →
      (analysis.listing = twin.listing → analysis.lines = twin.lines ∧ analysis.diagnostics = twin.diagnostics) ∧
        (analysis.listing = twin.listing ↔ Text.normalize chars = Text.normalize others) := by
  refine ⟨fun _ _ => Listing.read_render,fun _ _ _ _ => Listing.render_injective,fun _ _ _ => listable_of_analyze,?_⟩
  intro file chars analysis other others twin analyzed alike
  have recovered := Listing.render_injective (listable_of_analyze analyzed) (listable_of_analyze alike)
  refine ⟨recovered,?_,listing_of_normalize analyzed alike⟩
  intro same
  exact normalize_of_lines analyzed alike (recovered same).1

def lookalikeLines : List String := ["**01** ^ error code 302","","        a"]

def lookalikeEntries : List Diagnostic := [
  ⟨1,3,302,1,"invalid character '?'"⟩,⟨3,12,203,2,"integer constant out of range"⟩,⟨3,12,402,3,"'begin' expected"⟩]

theorem listable_lookalike : Listable lookalikeLines lookalikeEntries where
  flat := by
    simp only [lookalikeLines,List.forall_mem_cons]
    exact ⟨Listing.oneRow_of_plain rfl,Listing.oneRow_of_plain rfl,Listing.oneRow_of_plain rfl,List.forall_mem_nil _⟩
  told := by
    simp only [lookalikeEntries,List.forall_mem_cons]
    exact ⟨Listing.oneRow_of_plain rfl,Listing.oneRow_of_plain rfl,Listing.oneRow_of_plain rfl,List.forall_mem_nil _⟩
  ordered := by simp [lookalikeEntries]
  numbers := rfl
  listed := by simp [lookalikeLines,lookalikeEntries]
  columns := by simp [lookalikeEntries]

-- That listing is read back, and two texts that differ in a line end only have the same.
theorem faithful_of_lookalike :
    Listing.read (Listing.render lookalikeLines lookalikeEntries) = (lookalikeLines,lookalikeEntries) ∧
    ∃ analysis twin, analyze "t" "?\r\n'a".toList = .ok analysis ∧ analyze "u" "?\n'a".toList = .ok twin ∧
      Listable analysis.lines analysis.diagnostics ∧ analysis.listing = twin.listing ∧
      analysis.lines = twin.lines ∧ analysis.diagnostics = twin.diagnostics ∧
        Text.normalize "?\r\n'a".toList = Text.normalize "?\n'a".toList := by
  obtain ⟨reads,injective,listable,faithful⟩ := listing_is_faithful
  have finished : (Scanner.ofText "?\r\n'a".toList).scan =
      .finished (Scanner.ofText "?\r\n'a".toList).scan.after := by
    cbv
  have alike : Scanner.ofText "?\n'a".toList = Scanner.ofText "?\r\n'a".toList := rfl
  have analyzed := analyze_of_scan "t" finished
  have again : analyze "u" "?\n'a".toList = .ok (ofScan "u" (Scanner.ofText "?\r\n'a".toList).scan.after) := by
    apply analyze_of_scan
    rw [alike]
    exact finished
  obtain ⟨lines,diagnostics⟩ := injective _ _ _ _ (listable _ _ _ analyzed) (listable _ _ _ again) rfl
  obtain ⟨_,text⟩ := faithful _ _ _ _ _ _ analyzed again
  exact ⟨reads _ _ listable_lookalike,_,_,analyzed,again,listable _ _ _ analyzed,rfl,lines,diagnostics,text.mp rfl⟩

end Analysis

end PascalCheck
