import PascalCheck.Proofs.Analysis.Listing
import PascalCheck.Proofs.Grammar.Kinship
import PascalCheck.Proofs.Token.Layout

namespace PascalCheck

namespace Segment

theorem complaints_complaintsAfter (front : List Char) (segments : List Segment) :
    (complaintsAfter front segments).map Prod.snd = segments.filterMap Segment.complaint := by
  induction segments generalizing front with
  | nil => rfl
  | cons segment others ih =>
    rw [complaintsAfter_cons,List.map_append,ih,List.filterMap_cons]
    cases segment.complaint <;> rfl

theorem told_entries (complaints : List (Position × Problem × String)) (count : Nat) :
    (complaints.mapIdx fun i told => entry (count + i) told).map (fun entry => (entry.code,entry.message)) =
      (complaints.map Prod.snd).map fun told => (told.1.code,told.2) := by
  apply List.ext_getElem
  · simp
  · intro i _ _
    simp [entry]

end Segment

namespace Scanner
open Segment

variable {chars : List Char} {segments : List Segment} {scanner : Scanner}

theorem kinds_of_adds (adds : Adds segments (ofText chars) scanner) :
    scanner.tokenList.map Token.kind = segments.filterMap Segment.kind := by
  rw [adds.tokens,List.map_append,kinds_tokensAfter]
  rfl

theorem told_of_adds (adds : Adds segments (ofText chars) scanner) :
    scanner.cursor.sink.told = (segments.filterMap Segment.complaint).map fun told => (told.1.code,told.2) := by
  rw [Sink.told,adds.reports,List.map_append,told_entries,complaints_complaintsAfter]
  rfl

end Scanner

namespace Analysis
open Segment

variable {a b text : List Char} {first second state : Scanner}

-- Two scans and their checks, equal in everything but the places. Those reports are of the check which
-- come after the ones of the scan.
structure Agree (first second : Scanner) : Prop where
  kinds : second.tokenList.map Token.kind = first.tokenList.map Token.kind
  lexical : second.cursor.sink.told = first.cursor.sink.told
  syntactic : (checked second).sink.told.drop second.cursor.sink.size =
    (checked first).sink.told.drop first.cursor.sink.size
  reached : (checked second).tokens.index = (checked first).tokens.index
  journal : (checked second).journal = (checked first).journal

theorem agree_of_kinds (kinds : second.tokenList.map Token.kind = first.tokenList.map Token.kind)
    (told : second.cursor.sink.told = first.cursor.sink.told) : Agree first second := by
  have akin : Checker.Akin (checked second) (checked first) := Checker.akin_program kinds told
  have size : second.cursor.sink.size = first.cursor.sink.size := by
    simpa [Sink.told,Sink.toList,Sink.size] using congrArg List.length told
  refine ⟨kinds,told,?_,akin.index,akin.journal⟩
  rw [akin.told,size]

-- Where a text is parted by the loop of its scan, behind no string or comment that is cut off, layout may stand.
theorem layout_keeps_verdict (file : String) (a b text : List Char) (first state : Scanner) (plain : '\r' ∉ a ++ b)
    (finished : (Scanner.ofText (a ++ b)).scan = .finished first) (seam : Scanner.Seam (Scanner.ofText (a ++ b)) state)
    (here : state.cursor.offset = a.length) (layout : Layout text) (flat : '\r' ∉ text) :
    ∃ second, (Scanner.ofText (a ++ text ++ b)).scan = .finished second ∧
      analyze file (a ++ b) = .ok (ofScan file first) ∧
      analyze file (a ++ text ++ b) = .ok (ofScan file second) ∧ Agree first second := by
  obtain ⟨before,inner,after,second,adds,ended,other,silent,clean⟩ :=
    Scanner.scan_with_layout plain finished seam here layout flat
  have quiet : inner.filterMap Segment.complaint = [] := List.filterMap_eq_nil_iff.mpr clean
  have kinds : second.tokenList.map Token.kind = first.tokenList.map Token.kind := by
    rw [Scanner.kinds_of_adds adds,Scanner.kinds_of_adds other]
    simp only [List.filterMap_append,silent,List.nil_append]
  have told : second.cursor.sink.told = first.cursor.sink.told := by
    rw [Scanner.told_of_adds adds,Scanner.told_of_adds other]
    simp only [List.filterMap_append,quiet,List.nil_append]
  exact ⟨second,ended,analyze_of_scan file finished,analyze_of_scan file ended,agree_of_kinds kinds told⟩

theorem layout_behind_bracket :
    let a := ['(']
    let b := [')','\'','x']
    let text := ['\x7b','*','\x7d','\n','(','*',')',' ','*',')']
    ∃ first state, '\r' ∉ a ++ b ∧ (Scanner.ofText (a ++ b)).scan = .finished first ∧
      Scanner.Seam (Scanner.ofText (a ++ b)) state ∧ state.cursor.offset = a.length ∧ Layout text ∧ '\r' ∉ text ∧
      ∃ second, (Scanner.ofText (a ++ text ++ b)).scan = .finished second ∧
        analyze "t" (a ++ b) = .ok (ofScan "t" first) ∧
        analyze "t" (a ++ text ++ b) = .ok (ofScan "t" second) ∧ Agree first second := by
  intro a b text
  have plain : '\r' ∉ a ++ b := by decide
  have flat : '\r' ∉ text := by decide
  have finished : (Scanner.ofText ['(',')','\'','x']).scan = .finished (Scanner.ofText ['(',')','\'','x']).scan.after := by
    cbv
  have taken : (Scanner.ofText (a ++ b)).step = .finished (Scanner.ofText (a ++ b)).step.after := rfl
  have seam : Scanner.Seam (Scanner.ofText (a ++ b)) (Scanner.ofText (a ++ b)).step.after := by
    refine .behind .start (List.cons_ne_nil _ _) taken ?_
    intro entry member
    cases member
  have layout : Layout text := by
    have second : Layout ['(','*',')',' ','*',')'] := @Layout.starred [')',' '] _ (by decide) .nil
    exact @Layout.braced ['*'] _ (by decide) (.blank rfl second)
  have here : (Scanner.ofText (a ++ b)).step.after.cursor.offset = a.length := rfl
  exact ⟨_,_,plain,finished,seam,here,layout,flat,layout_keeps_verdict "t" a b text _ _ plain finished seam here layout flat⟩

end Analysis

end PascalCheck
