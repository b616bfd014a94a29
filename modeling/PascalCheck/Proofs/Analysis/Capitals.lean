import PascalCheck.Analysis
import PascalCheck.Proofs.Token.Capitals

namespace PascalCheck.Analysis

def unlisted (analysis : Analysis) : Analysis := { analysis with lines := [] }

theorem unlisted_ofScan (file : String) {first second : Scanner} (tokens : first.tokenList = second.tokenList)
    (sink : first.cursor.sink = second.cursor.sink) : (ofScan file first).unlisted = (ofScan file second).unlisted := by
  have same : checked first = checked second := by rw [checked,checked,tokens,sink]
  simp only [unlisted,ofScan,tokens,sink,same]

theorem unlisted_of_tokenize (file : String) {first second : List Char} (same : tokenize first = tokenize second) :
    (analyze file first).map unlisted = (analyze file second).map unlisted := by
  unfold tokenize at same
  unfold analyze
  cases one : (Scanner.ofText first).scan with
  | finished scanner =>
    cases two : (Scanner.ofText second).scan with
    | finished other =>
      rw [one,two] at same
      obtain ⟨tokens,sink⟩ := Prod.mk.inj (Except.ok.inj same)
      exact congrArg Except.ok (unlisted_ofScan file tokens sink)
    | stopped fault other =>
      rw [one,two] at same
      cases same
  | stopped fault scanner =>
    cases two : (Scanner.ofText second).scan with
    | finished other =>
      rw [one,two] at same
      cases same
    | stopped cause other =>
      rw [one,two] at same
      exact congrArg Except.error (Except.error.inj same)

-- Texts of one length that differ only in which letters of ASCII are capitals give the same tokens and the same
-- problems at the same places, or are cut short by the same fault.
theorem analysis_ignores_case (file : String) (first second : List Char)
    (alike : first.map Char.toLower = second.map Char.toLower) :
    (analyze file first).map unlisted = (analyze file second).map unlisted := by
  apply unlisted_of_tokenize
  rw [← tokenize_toLower first,alike,tokenize_toLower]

theorem case_ignored_in_cut_string :
    let first := "BEGIN (*A*) PAC\u212AED.B := 'C".toList
    let second := "beGIN (*a*) pac\u212AeD.b := 'c".toList
    first ≠ second ∧ first.map Char.toLower = second.map Char.toLower ∧
      (analyze "t" first).map unlisted = (analyze "t" second).map unlisted := by
  intro first second
  have alike : first.map Char.toLower = second.map Char.toLower := by decide
  exact ⟨by decide,alike,analysis_ignores_case "t" first second alike⟩

end PascalCheck.Analysis
