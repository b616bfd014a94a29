import PascalCheck.Proofs.Analysis.Decoding

namespace PascalCheck

namespace Text

theorem length_zeroPadded (width : Nat) {n : Int} (plain : 0 ≤ n) :
    (zeroPadded width n).length = max width (toString n.natAbs).toList.length := by
  rw [zeroPadded_unsigned width plain,List.length_append,fill,List.length_replicate]
  omega

theorem length_written_two (n : Nat) : (toString n).toList.length ≤ 2 ↔ n < 100 := Nat.length_repr_le_iff (by omega)

theorem length_written_three (n : Nat) : (toString n).toList.length ≤ 3 ↔ n < 1000 := Nat.length_repr_le_iff (by omega)

end Text

namespace Listing

def shown (parts : List (String × List Diagnostic)) : List String :=
  parts.flatMap fun part => (indent ++ part.1) :: part.2.flatMap entryRows

def caret? (row : String) : Option Nat := row.toList.idxOf? '^'

def numberWidth (entry : Diagnostic) : Nat := max 2 (toString entry.number.natAbs).toList.length

-- In the listing, an entry under the line of such a row, with the other entries of the line around it.
structure Under (lines : List String) (entries : List Diagnostic) (listing : String) (row : Nat) (line : String)
    (entry : Diagnostic) : Prop where
  found : ∃ front back above below,
    front.length = row ∧ front.map Prod.fst ++ line :: back.map Prod.fst = lines ∧
      (∀ other ∈ above ++ below, other.line = entry.line) ∧
      Text.lines listing.toList =
        (shown (front ++ (line,above ++ entry :: below) :: back)).map String.toList ++ [[],(summary entries).toList,[]]

variable {lines : List String} {entries : List Diagnostic} {entry : Diagnostic}

theorem split_at_row {α : Type} {items : List α} {row : Nat} {item : α} (found : items[row]? = some item) :
    ∃ front back, items = front ++ item :: back ∧ front.length = row := by
  obtain ⟨inside,rfl⟩ := List.getElem?_eq_some_iff.mp found
  refine ⟨items.take row,items.drop (row + 1),?_,?_⟩
  · rw [List.getElem_cons_drop,List.take_append_drop]
  · rw [List.length_take,Nat.min_eq_left (Nat.le_of_lt inside)]

theorem under_of_listable (listable : Listable lines entries) (member : entry ∈ entries) :
    ∃ (row : Nat) (line : String), entry.line = (row : Int) + 1 ∧ Under lines entries (render lines entries) row line entry := by
  obtain ⟨groups,⟨each,all,own,_⟩,rows⟩ := lines_render listable
  rw [← all] at member
  obtain ⟨group,held,mine⟩ := List.mem_flatten.mp member
  obtain ⟨row,found⟩ := List.getElem?_of_mem held
  obtain ⟨inside,_⟩ := List.getElem?_eq_some_iff.mp found
  have part : (lines.zip groups)[row]? = some (lines[row],group) :=
    List.getElem?_zip_eq_some.mpr ⟨List.getElem?_eq_getElem (each ▸ inside),found⟩
  obtain ⟨front,back,split,length⟩ := split_at_row part
  obtain ⟨above,below,around⟩ := List.append_of_mem mine
  refine ⟨row,lines[row],own row group found entry mine,⟨front,back,above,below,length,?_,?_,?_⟩⟩
  · have firsts : (lines.zip groups).map Prod.fst = lines := List.map_fst_zip (Nat.le_of_eq each.symm)
    rw [split,List.map_append] at firsts
    exact firsts
  · intro other beside
    have sibling : other ∈ group := by
      rw [around]
      rcases List.mem_append.mp beside with before | after
      · exact List.mem_append_left _ before
      · exact List.mem_append_right _ (List.mem_cons_of_mem _ after)
    rw [own row group found other sibling,own row group found entry mine]
  · rw [rows,split,around]
    rfl

theorem caret_of_front {front : List Char} (none : '^' ∉ front) (others : List Char) :
    (front ++ '^' :: others).idxOf? '^' = some front.length := by
  induction front with
  | nil => rw [List.nil_append,List.idxOf?_cons,if_pos (by rfl),List.length_nil]
  | cons c front ih =>
    obtain ⟨other,none⟩ := not_or.mp fun found => none (List.mem_cons.mpr found)
    rw [List.cons_append,List.idxOf?_cons,if_neg (by simpa using Ne.symm other),ih none]
    rfl

-- Nothing in front of the caret looks like one, so the row has it behind the marks, the number and the blanks.
theorem caret_entryRows {column : Nat} (inColumn : entry.column = (column : Int) + 1) (ranked : 0 ≤ entry.number) :
    ∃ row, entryRows entry = [row,"****** " ++ entry.message] ∧ caret? row = some (numberWidth entry + 5 + column) := by
  refine ⟨_,rfl,?_⟩
  obtain ⟨digits,_⟩ := Text.zeroPadded_written 2 ranked
  have margin : (entry.column - 1).toNat = column := by omega
  have none : '^' ∉ "**".toList ++ (Text.zeroPadded 2 entry.number ++ ("** ".toList ++ List.replicate column ' ')) := by
    simp only [List.mem_append,List.mem_replicate]
    rintro (marks | number | marks | blank)
    · simp at marks
    · cases digits _ number
    · simp at marks
    · cases blank.2
  have stands := caret_of_front none (" error code ".toList ++ (toString entry.code).toList)
  have width : ("**".toList ++ (Text.zeroPadded 2 entry.number ++ ("** ".toList ++ List.replicate column ' '))).length =
      numberWidth entry + 5 + column := by
    have marks : "**".toList.length = 2 ∧ "** ".toList.length = 3 := ⟨rfl,rfl⟩
    rw [List.length_append,List.length_append,List.length_append,Text.length_zeroPadded 2 ranked,
      List.length_replicate,marks.1,marks.2,numberWidth]
    omega
  have caret : "^ error code ".toList = '^' :: " error code ".toList := rfl
  rw [width,List.append_assoc,List.append_assoc,List.append_assoc] at stands
  simpa only [caret?,pointer,String.toList_append,String.toList_ofList,margin,caret,List.append_assoc,
    List.cons_append] using stands

theorem numberWidth_cases (ranked : 1 ≤ entry.number) :
    (entry.number ≤ 99 → numberWidth entry = 2) ∧ (100 ≤ entry.number → entry.number ≤ 999 → numberWidth entry = 3) ∧
      (1000 ≤ entry.number → 4 ≤ numberWidth entry) := by
  have two := Text.length_written_two entry.number.natAbs
  have three := Text.length_written_three entry.number.natAbs
  unfold numberWidth
  omega

end Listing

namespace Analysis

-- Where the caret of each entry stands: it goes with the number, the column of the line does not.
theorem caret_goes_with_number (file : String) (chars : List Char) (analysis : Analysis)
    (analyzed : analyze file chars = .ok analysis) :
    ∀ entry ∈ analysis.diagnostics, ∃ (row column : Nat) (line caretRow : String),
      Marks chars analysis.lines entry row column ∧
      Listing.Under analysis.lines analysis.diagnostics analysis.listing row line entry ∧
      (Listing.indent ++ line).toList[Listing.indent.length + column]? = line.toList[column]? ∧
      Listing.entryRows entry = [caretRow,"****** " ++ entry.message] ∧
      Listing.caret? caretRow = some (Listing.numberWidth entry + 5 + column) ∧
      (Listing.caret? caretRow = some (Listing.indent.length + column) ↔ 100 ≤ entry.number ∧ entry.number ≤ 999) := by
  intro entry member
  have listable := listable_of_analyze analyzed
  obtain ⟨row,column,marks⟩ := marked_of_analyze analyzed entry member
  obtain ⟨place,line,inLine,under⟩ := Listing.under_of_listable listable member
  have number := Listing.number_of_listable listable entry member
  obtain ⟨caretRow,rows,caret⟩ := Listing.caret_entryRows marks.inColumn (by omega)
  have same : place = row := by
    have line := marks.inLine
    omega
  refine ⟨row,column,line,caretRow,marks,same ▸ under,?_,rows,caret,?_⟩
  · have width : Listing.indent.toList.length = Listing.indent.length := rfl
    rw [String.toList_append,← width,List.getElem?_append_right (Nat.le_add_right _ _),Nat.add_sub_cancel_left]
  · obtain ⟨few,three,many⟩ := Listing.numberWidth_cases number
    have margin : Listing.indent.length = 8 := rfl
    rw [caret,Option.some_inj,margin]
    omega

def strayText : List Char := "begin ? end.".toList

def strayEntry : Diagnostic := ⟨1,7,302,1,"invalid character '?'"⟩

theorem analyze_stray : ∃ analysis, analyze "t" strayText = .ok analysis ∧ analysis.diagnostics = [strayEntry] := by
  let last : Scanner := {
    cursor := ⟨⟨strayText.reverse,[]⟩,0,12,⟨0,11⟩,⟨#[strayEntry]⟩⟩
    tokens := #[⟨.beginWord,⟨0,0⟩⟩,⟨.endWord,⟨0,8⟩⟩,⟨.dot,⟨0,11⟩⟩] }
  have scanned : (Scanner.ofText strayText).scan = .finished last := by
    cbv
  have told : (checked last).sink.toList = [strayEntry] := by
    cbv
  refine ⟨_,analyze_of_scan "t" scanned,?_⟩
  rw [ofScan,Sink.toList_ranked,told,List.mergeSort_singleton]
  rfl

-- Its caret stands under the blank in front of it.
theorem caret_goes_with_number_of_stray :
    ∃ analysis, analyze "t" strayText = .ok analysis ∧ strayEntry ∈ analysis.diagnostics ∧
      ∃ (row column : Nat) (line caretRow : String), Marks strayText analysis.lines strayEntry row column ∧
        Listing.Under analysis.lines analysis.diagnostics analysis.listing row line strayEntry ∧
        Listing.entryRows strayEntry = [caretRow,"****** invalid character '?'"] ∧
        Listing.caret? caretRow = some 13 ∧ (Listing.indent ++ line).toList[14]? = line.toList[6]? := by
  obtain ⟨analysis,analyzed,diagnostics⟩ := analyze_stray
  have member : strayEntry ∈ analysis.diagnostics := by simp [diagnostics]
  obtain ⟨row,column,line,caretRow,marks,under,stands,rows,caret,_⟩ :=
    caret_goes_with_number "t" strayText analysis analyzed strayEntry member
  have six : column = 6 := by
    have place : strayEntry.column = 7 := rfl
    have column := marks.inColumn
    omega
  subst six
  exact ⟨analysis,analyzed,member,row,6,line,caretRow,marks,under,rows,caret,stands⟩

theorem caret_not_under_column :
    ¬ ∀ (file : String) (chars : List Char) (analysis : Analysis), analyze file chars = .ok analysis →
      ∀ entry ∈ analysis.diagnostics, ∀ caretRow ∈ (Listing.entryRows entry).head?,
        Listing.caret? caretRow = some (Listing.indent.length + (entry.column - 1).toNat) := by
  intro under
  obtain ⟨analysis,analyzed,diagnostics⟩ := analyze_stray
  have caret := under "t" strayText analysis analyzed strayEntry (by simp [diagnostics]) _ rfl
  have stands : Listing.caret? "**01**       ^ error code 302" = some 13 := by decide
  exact absurd (stands.symm.trans caret) (by decide)

end Analysis

end PascalCheck
