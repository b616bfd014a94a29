import PascalCheck.Proofs.Analysis.Listing
import PascalCheck.Proofs.Text.LineEnd

namespace PascalCheck

theorem analyze_normalize (file : String) (chars : List Char) : analyze file (Text.normalize chars) = analyze file chars := by
  have start : Scanner.ofText (Text.normalize chars) = Scanner.ofText chars := by
    rw [Scanner.ofText,Cursor.ofText,Text.normalize_normalize]
    rfl
  rw [analyze,analyze,start]

namespace Analysis
open Text

theorem lines_of_analyze {file : String} {chars : List Char} {analysis : Analysis}
    (analyzed : analyze file chars = .ok analysis) : analysis.lines = (Cursor.ofText chars).lines := by
  obtain ⟨scanner,finished,rfl⟩ := scan_of_analyze analyzed
  exact lines_of_scan finished

theorem lines_laidOut {rows : List EndedLine} {last : List Char} (whole : ∀ row ∈ rows, Unbroken row.line)
    (wholeLast : Unbroken last) (clear : Clear rows) :
    (Cursor.ofText (laidOut rows last)).lines = (linesOf rows last).map String.ofList := by
  have parts := lines_joinWith (flat_linesOf whole wholeLast) (by simp [linesOf])
  have text : (Cursor.ofText (laidOut rows last)).tape.toList = joinWith '\n' (linesOf rows last) :=
    (normalize_laidOut_iff whole wholeLast).mpr clear
  rw [Cursor.lines,text,parts]

-- One pass makes line feeds of all line ends, and a text whose line ends do not run into one another is analyzed
-- as its lines are with line feeds between them.
theorem line_ends_are_alike (file : String) (text : List Char) (rows : List EndedLine) (last : List Char)
    (whole : ∀ row ∈ rows, Unbroken row.line) (wholeLast : Unbroken last) (clear : Clear rows) :
    normalize text = feeds text ∧ '\r' ∉ normalize text ∧ normalize (normalize text) = normalize text ∧
      (Cursor.ofText (laidOut rows last)).lines = (linesOf rows last).map String.ofList ∧
      analyze file (laidOut rows last) = analyze file (joinWith '\n' (linesOf rows last)) ∧
      ∀ analysis, analyze file (laidOut rows last) = .ok analysis →
        analysis.lines = (linesOf rows last).map String.ofList := by
  have lines := lines_laidOut whole wholeLast clear
  refine ⟨normalize_eq_feeds text,not_mem_normalize text,normalize_normalize text,lines,?_,?_⟩
  · rw [← analyze_normalize,(normalize_laidOut_iff whole wholeLast).mpr clear]
  · intro analysis analyzed
    rw [lines_of_analyze analyzed,lines]

theorem line_ends_alike_of_cut_string :
    let rows : List EndedLine := [⟨['a'],.carriage⟩,⟨[],.pair⟩,⟨['\'','b'],.carriage⟩,⟨['?'],.feed⟩,⟨[],.feed⟩]
    laidOut rows ['1'] = "a\r\r\n'b\r?\n\n1".toList ∧ (∀ row ∈ rows, Unbroken row.line) ∧ Unbroken ['1'] ∧ Clear rows ∧
      normalize "\r\r\n\n\r".toList = feeds "\r\r\n\n\r".toList ∧ '\r' ∉ normalize "\r\r\n\n\r".toList ∧
      normalize (normalize "\r\r\n\n\r".toList) = normalize "\r\r\n\n\r".toList ∧
      (Cursor.ofText (laidOut rows ['1'])).lines = (linesOf rows ['1']).map String.ofList ∧
      analyze "t" (laidOut rows ['1']) = analyze "t" (joinWith '\n' (linesOf rows ['1'])) ∧
      ∀ analysis, analyze "t" (laidOut rows ['1']) = .ok analysis →
        analysis.lines = (linesOf rows ['1']).map String.ofList := by
  intro rows
  have whole : ∀ row ∈ rows, Unbroken row.line := by decide
  have wholeLast : Unbroken ['1'] := by decide
  have clear : Clear rows := by decide
  exact ⟨rfl,whole,wholeLast,clear,line_ends_are_alike "t" "\r\r\n\n\r".toList rows ['1'] whole wholeLast clear⟩

end Analysis

end PascalCheck
