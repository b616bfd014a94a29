import Mathlib.Data.List.Permutation
import PascalCheck.Analysis
import PascalCheck.Proofs.Diagnostic.Rows
import PascalCheck.Proofs.Grammar.History
import PascalCheck.Proofs.Source.Lines
import PascalCheck.Proofs.Token.Resumption

namespace PascalCheck

namespace Segment

variable {segments : List Segment} {segment : Segment} {front : List Char} {place : Position}

theorem mem_placed (member : (place,segment) ∈ placed front segments) :
    ∃ before others, segments = before ++ segment :: others ∧ place = .after (front ++ textOf before) := by
  induction segments generalizing front with
  | nil => cases member
  | cons first others ih =>
    rcases List.mem_cons.mp member with same | later
    · obtain ⟨rfl,rfl⟩ := Prod.mk.inj same
      exact ⟨[],others,rfl,by simp [textOf]⟩
    · obtain ⟨before,after,rfl,rfl⟩ := ih later
      exact ⟨first :: before,after,rfl,by simp [textOf]⟩

-- A lexeme that gives something begins here: neither a blank nor a comment that is closed.
structure Begins (segments : List Segment) (place : Position) (lexeme : Segment) : Prop where
  split : ∃ before others, segments = before ++ lexeme :: others ∧ place = .after (textOf before)
  gives : lexeme.kind ≠ none ∨ lexeme.complaint ≠ none

theorem begins_of_token {token : Token} (member : token ∈ tokensAfter [] segments) :
    ∃ lexeme, Begins segments token.position lexeme := by
  obtain ⟨⟨place,lexeme⟩,part,made⟩ := List.mem_filterMap.mp member
  obtain ⟨kind,known,rfl⟩ := Option.map_eq_some_iff.mp made
  have given : lexeme.kind = some kind := known
  exact ⟨lexeme,mem_placed part,Or.inl (by simp [given])⟩

theorem begins_of_complaint {told : Position × Problem × String} (member : told ∈ complaintsAfter [] segments) :
    ∃ lexeme, Begins segments told.1 lexeme := by
  obtain ⟨⟨place,lexeme⟩,part,made⟩ := List.mem_filterMap.mp member
  obtain ⟨complaint,known,rfl⟩ := Option.map_eq_some_iff.mp made
  have given : lexeme.complaint = some complaint := known
  exact ⟨lexeme,mem_placed part,Or.inr (by simp [given])⟩

theorem Fits.bright {onward : List Char} (fits : segment.Fits onward)
    (gives : segment.kind ≠ none ∨ segment.complaint ≠ none) :
    ∃ c others, segment.text = c :: others ∧ Text.isBlank c = false := by
  cases fits with
  | blank _ => simp [Segment.blank] at gives
  | braced _ => simp [remark] at gives
  | starred _ => simp [remark] at gives
  | @bracedOpen body _ => exact ⟨'\x7b',body,rfl,rfl⟩
  | @starredOpen body _ => exact ⟨'(','*' :: body,rfl,rfl⟩
  | bracket _ => exact ⟨'(',[],rfl,rfl⟩
  | numeral some all _ =>
    obtain ⟨c,run,rfl⟩ := List.exists_cons_of_ne_nil some
    exact ⟨c,run,rfl,Text.dark_of_isDigit (all c List.mem_cons_self)⟩
  | @word _ first others letter _ _ => exact ⟨first,others,rfl,Text.dark_of_isLetter letter⟩
  | @quoted _ body _ _ => exact ⟨'\'',body ++ ['\''],rfl,rfl⟩
  | @quotedOpen _ body _ _ _ => exact ⟨'\'',body,rfl,rfl⟩
  | @pair _ a b _ plain _ => exact ⟨a,[b],rfl,plain.dark⟩
  | @single _ a _ plain _ _ => exact ⟨a,[],rfl,plain.dark⟩
  | @stray _ a plain _ _ => exact ⟨a,[],rfl,plain.dark⟩

theorem fits_of_split {before others : List Segment}
    (tiles : Tiles (before ++ segment :: others) []) : segment.Fits (textOf others) := by
  induction before with
  | nil =>
    obtain _ | ⟨fits,_⟩ := tiles
    simpa using fits
  | cons first before ih =>
    obtain _ | ⟨_,tiles⟩ := tiles
    exact ih tiles

end Segment

namespace Analysis
open Segment

variable {chars : List Char} {scanner : Scanner} {segments : List Segment} {entry : Diagnostic}

-- In the lines of a text, the place of a character that is not blank and begins a lexeme.
structure Opens (chars : List Char) (lines : List String) (row column : Nat) (c : Char) : Prop where
  found : ∃ line, lines[row]? = some line ∧ line.toList[column]? = some c
  dark : Text.isBlank c = false
  begins : ∃ segments lexeme, Tiles segments [] ∧ textOf segments = Text.normalize chars ∧
    Begins segments ⟨row,column⟩ lexeme ∧ lexeme.text.head? = some c

structure Marks (chars : List Char) (lines : List String) (entry : Diagnostic) (row column : Nat) : Prop where
  inLine : entry.line = (row : Int) + 1
  inColumn : entry.column = (column : Int) + 1
  listed : row < lines.length
  stands : (row = 0 ∧ column = 0) ∨ ∃ c, Opens chars lines row column c

theorem lines_of_scan (finished : (Scanner.ofText chars).scan = .finished scanner) :
    scanner.cursor.lines = (Text.lines (Text.normalize chars)).map String.ofList := by
  have reached : Scanner.Reached chars (Scanner.ofText chars).scan.after := .scanned (.start {})
  have whole := (Scanner.located_of_reached reached).2
  rw [finished,Outcome.after_finished] at whole
  rw [Cursor.lines,show scanner.cursor.tape.toList = Text.normalize chars from whole]

-- The reports of the scan, and after them those of the check, stand at the start or where a lexeme begins.
theorem place_of_entry (adds : Scanner.Adds segments (Scanner.ofText chars) scanner)
    (member : entry ∈ (checked scanner).sink.toList) :
    entry.place = .start ∨ ∃ lexeme, Begins segments entry.place lexeme := by
  obtain ⟨added,reports,places⟩ := (Checker.proceeds_program
    (Checker.ofTokens scanner.tokenList scanner.cursor.sink)).reports
  rw [checked,reports,Checker.ofTokens] at member
  rcases List.mem_append.mp member with lexical | syntactic
  · rw [adds.reports] at lexical
    rcases List.mem_append.mp lexical with none | made
    · cases none
    obtain ⟨i,inside,rfl⟩ := List.mem_mapIdx.mp made
    simp only [Diagnostic.place,Segment.entry,Int.add_sub_cancel]
    exact Or.inr (begins_of_complaint (List.getElem_mem inside))
  · rcases places entry syntactic with start | ⟨token,held,same⟩
    · exact Or.inl start
    · have found : token ∈ scanner.tokenList := held
      rw [adds.tokens] at found
      rw [← same]
      exact Or.inr (begins_of_token found)

theorem marks_of_place (tiles : Tiles segments []) (text : textOf segments = Text.normalize chars)
    (stands : entry.place = .start ∨ ∃ lexeme, Begins segments entry.place lexeme) :
    ∃ row column, Marks chars ((Text.lines (Text.normalize chars)).map String.ofList) entry row column := by
  have told : entry.line = entry.place.line + 1 ∧ entry.column = entry.place.column + 1 := by
    simp [Diagnostic.place]
  rcases stands with start | ⟨lexeme,⟨before,others,same,place⟩,gives⟩
  · rw [start] at told
    refine ⟨0,0,told.1,told.2,?_,Or.inl ⟨rfl,rfl⟩⟩
    rw [List.length_map,Text.length_lines]
    omega
  · obtain ⟨c,inner,opens,dark⟩ := (fits_of_split (same ▸ tiles)).bright gives
    have whole : Text.normalize chars = textOf before ++ c :: (inner ++ textOf others) := by
      rw [← text,same,Scanner.textOf_split,opens]
      rfl
    have inLine : c ≠ '\n' := Ne.symm (Text.ne_of_test (p := Text.isBlank) rfl dark)
    obtain ⟨row,column,line,here,found,char⟩ := Position.exists_line (textOf before) (inner ++ textOf others) inLine
    rw [← whole] at found
    have inside : row < (Text.lines (Text.normalize chars)).length := (List.getElem?_eq_some_iff.mp found).1
    rw [place,here] at told
    refine ⟨row,column,told.1,told.2,by rwa [List.length_map],Or.inr ⟨c,⟨String.ofList line,?_,?_⟩,dark,?_⟩⟩
    · rw [List.getElem?_map,found]
      rfl
    · rwa [String.toList_ofList]
    · refine ⟨segments,lexeme,tiles,text,⟨⟨before,others,same,here.symm⟩,gives⟩,?_⟩
      rw [opens]
      rfl

theorem analyze_of_scan (file : String) (finished : (Scanner.ofText chars).scan = .finished scanner) :
    analyze file chars = .ok (ofScan file scanner) := by
  rw [analyze,finished]

theorem scan_of_analyze {file : String} {analysis : Analysis} (analyzed : analyze file chars = .ok analysis) :
    ∃ scanner, (Scanner.ofText chars).scan = .finished scanner ∧ analysis = ofScan file scanner := by
  cases ended : (Scanner.ofText chars).scan with
  | finished scanner =>
    rw [analyze_of_scan file ended] at analyzed
    exact ⟨scanner,rfl,(Except.ok.inj analyzed).symm⟩
  | stopped fault state =>
    rw [analyze,ended] at analyzed
    cases analyzed

theorem marked_of_analyze {file : String} {analysis : Analysis} (analyzed : analyze file chars = .ok analysis) :
    ∀ entry ∈ analysis.diagnostics, ∃ row column, Marks chars analysis.lines entry row column := by
  obtain ⟨scanner,finished,rfl⟩ := scan_of_analyze analyzed
  obtain ⟨segments,tiles,text,adds⟩ := Scanner.adds_of_scan finished
  have lines : (ofScan file scanner).lines = (Text.lines (Text.normalize chars)).map String.ofList :=
    lines_of_scan finished
  intro entry member
  obtain ⟨old,held,number,rfl⟩ := Sink.mem_ranked member
  have place := place_of_entry adds held
  rw [lines]
  exact marks_of_place tiles text place

-- Every entry of an analysis names a listed line, and the listing shows it there, once and in its turn.
theorem listing_shows_all (file : String) (chars : List Char) (analysis : Analysis)
    (analyzed : analyze file chars = .ok analysis) :
    (∀ entry ∈ analysis.diagnostics, ∃ row column, Marks chars analysis.lines entry row column) ∧
      analysis.diagnostics.map Diagnostic.number =
        ((List.range analysis.diagnostics.length).map fun i : Nat => (i : Int) + 1) ∧
      ∃ groups, Listing.Grouped Listing.told analysis.lines analysis.diagnostics groups analysis.listing := by
  have marked := marked_of_analyze analyzed
  obtain ⟨scanner,_,rfl⟩ := scan_of_analyze analyzed
  have listed : ∀ entry ∈ (ofScan file scanner).diagnostics,
      1 ≤ entry.line ∧ entry.line ≤ (ofScan file scanner).lines.length := by
    intro entry member
    obtain ⟨row,column,marks⟩ := marked entry member
    have inside := marks.listed
    have line := marks.inLine
    omega
  have numbers := Sink.numbers_ranked (checked scanner).sink
  have grouped := Listing.grouped_of_ordered (Sink.ordered_ranked _) listed
  exact ⟨marked,numbers,_,grouped.told fun entry member => Diagnostic.number_of_counted numbers member⟩

def cutText : List Char := "70000\n 'a\n.".toList

def cutReports : List Diagnostic := [
  ⟨1,1,203,1,"integer constant out of range"⟩,⟨2,2,301,2,"unterminated string literal"⟩,
  ⟨1,1,402,3,"'begin' expected"⟩,⟨1,1,403,4,"'.' expected"⟩]

def cutEntries : List Diagnostic := [
  ⟨1,1,203,1,"integer constant out of range"⟩,⟨1,1,402,2,"'begin' expected"⟩,⟨1,1,403,3,"'.' expected"⟩,
  ⟨2,2,301,4,"unterminated string literal"⟩]

theorem listing_of_cut_string :
    ∃ analysis, analyze "t" cutText = .ok analysis ∧ analysis.diagnostics = cutEntries ∧
      analysis.listing = "        70000\n**01** ^ error code 203\n****** integer constant out of range\n" ++
        "**02** ^ error code 402\n****** 'begin' expected\n**03** ^ error code 403\n****** '.' expected\n" ++
        "         'a\n**04**  ^ error code 301\n****** unterminated string literal\n        .\n\n" ++
        "Compilation finished: errors - 4 !\n" ∧
      (∀ entry ∈ cutEntries, ∃ row column, Marks cutText analysis.lines entry row column) ∧
      ∃ groups, Listing.Grouped Listing.told analysis.lines cutEntries groups analysis.listing := by
  let last : Scanner := {
    cursor := ⟨⟨cutText.reverse,[]⟩,2,1,⟨2,0⟩,
      ⟨#[⟨1,1,203,1,"integer constant out of range"⟩,⟨2,2,301,2,"unterminated string literal"⟩]⟩⟩
    tokens := #[⟨.number,⟨0,0⟩⟩,⟨.string,⟨1,1⟩⟩,⟨.dot,⟨2,0⟩⟩] }
  have scanned : (Scanner.ofText cutText).scan = .finished last := by
    cbv
  have told : (checked last).sink.toList = cutReports := by
    cbv
  have diagnostics : (ofScan "t" last).diagnostics = cutEntries := by
    rw [ofScan,Sink.toList_ranked,told]
    cbv
  have lines : (ofScan "t" last).lines = ["70000"," 'a","."] := by
    cbv
  have analyzed := analyze_of_scan "t" scanned
  obtain ⟨marked,_,groups,grouped⟩ := listing_shows_all "t" cutText _ analyzed
  refine ⟨_,analyzed,diagnostics,?_,diagnostics ▸ marked,groups,diagnostics ▸ grouped⟩
  rw [listing,lines,diagnostics]
  decide +kernel

end Analysis

end PascalCheck
