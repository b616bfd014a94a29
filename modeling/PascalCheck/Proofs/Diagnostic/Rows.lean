import Mathlib.Data.List.Basic
import PascalCheck.Diagnostic.Listing
import PascalCheck.Proofs.Text.Numeral

namespace PascalCheck

namespace Diagnostic

variable {entries : List Diagnostic} {entry : Diagnostic}

theorem notAfter_total (a b : Diagnostic) : (notAfter a b || notAfter b a) = true := by
  simp only [notAfter,Bool.or_eq_true,Bool.and_eq_true,decide_eq_true_eq,beq_iff_eq]
  omega

theorem notAfter_trans (a b c : Diagnostic) (first : notAfter a b = true) (second : notAfter b c = true) :
    notAfter a c = true := by
  simp only [notAfter,Bool.or_eq_true,Bool.and_eq_true,decide_eq_true_eq,beq_iff_eq] at *
  omega

theorem line_le_of_notAfter {a b : Diagnostic} (order : notAfter a b = true) : a.line ≤ b.line := by
  simp only [notAfter,Bool.or_eq_true,Bool.and_eq_true,decide_eq_true_eq,beq_iff_eq] at order
  omega

theorem mem_numbered (member : entry ∈ numbered entries) :
    ∃ old ∈ entries, ∃ number, entry = { old with number := number } := by
  obtain ⟨i,inside,same⟩ := List.mem_mapIdx.mp member
  exact ⟨entries[i],List.getElem_mem inside,(i : Int) + 1,same.symm⟩

theorem lines_numbered (entries : List Diagnostic) : (numbered entries).map line = entries.map line := by
  apply List.ext_getElem
  · simp [numbered]
  · intro i _ _
    simp [numbered]

theorem numbers_numbered (entries : List Diagnostic) :
    (numbered entries).map number = (List.range entries.length).map fun i : Nat => (i : Int) + 1 := by
  apply List.ext_getElem
  · simp [numbered]
  · intro i _ _
    simp [numbered]

theorem number_of_counted {count : Nat} (numbers : entries.map number = (List.range count).map fun i : Nat => (i : Int) + 1)
    (member : entry ∈ entries) : 1 ≤ entry.number := by
  have counted : entry.number ∈ entries.map number := List.mem_map_of_mem member
  rw [numbers] at counted
  obtain ⟨i,_,same⟩ := List.mem_map.mp counted
  omega

def groups (count : Nat) (entries : List Diagnostic) : List (List Diagnostic) :=
  (List.range count).map fun row : Nat => entries.filter fun entry => entry.line == (row : Int) + 1

theorem groups_succ (count : Nat) (entries : List Diagnostic) :
    groups (count + 1) entries =
      groups count entries ++ [entries.filter fun entry => entry.line == (count : Int) + 1] := by
  simp [groups,List.range_succ]

-- In the order of the lines, the entries up to a line stand in front of all others.
theorem split_at_line (bound : Int) (ordered : entries.Pairwise fun a b => a.line ≤ b.line) :
    entries.filter (fun entry => decide (entry.line ≤ bound)) ++
      entries.filter (fun entry => decide (bound < entry.line)) = entries := by
  induction entries with
  | nil => rfl
  | cons first others ih =>
    obtain ⟨least,ordered⟩ := List.pairwise_cons.mp ordered
    by_cases early : first.line ≤ bound
    · have rest := ih ordered
      rw [List.filter_cons_of_pos (by simpa using early),List.filter_cons_of_neg (by simpa using early),
        List.cons_append,rest]
    · have late : ∀ entry ∈ first :: others, bound < entry.line := by
        intro entry member
        rcases List.mem_cons.mp member with rfl | later
        · omega
        · have above := least entry later
          omega
      have none : (first :: others).filter (fun entry => decide (entry.line ≤ bound)) = [] := by
        rw [List.filter_eq_nil_iff]
        intro entry member
        simpa using late entry member
      have all : (first :: others).filter (fun entry => decide (bound < entry.line)) = first :: others := by
        rw [List.filter_eq_self]
        intro entry member
        simpa using late entry member
      rw [none,all,List.nil_append]

theorem groups_of_early (count : Nat) (entries : List Diagnostic) :
    groups count (entries.filter fun entry => decide (entry.line ≤ (count : Int))) = groups count entries := by
  refine List.map_congr_left ?_
  intro row inside
  have below : row < count := List.mem_range.mp inside
  rw [List.filter_filter]
  refine List.filter_congr ?_
  intro entry _
  by_cases same : entry.line = (row : Int) + 1
  · simp [same]
    omega
  · simp [same]

theorem flatten_groups {count : Nat} (ordered : entries.Pairwise fun a b => a.line ≤ b.line)
    (listed : ∀ entry ∈ entries, 1 ≤ entry.line ∧ entry.line ≤ count) : (groups count entries).flatten = entries := by
  induction count generalizing entries with
  | zero =>
    have none : entries = [] := by
      apply List.eq_nil_iff_forall_not_mem.mpr
      intro entry member
      have bounds := listed entry member
      omega
    rw [none]
    rfl
  | succ count ih =>
    have early : (groups count entries).flatten = entries.filter fun entry => decide (entry.line ≤ (count : Int)) := by
      rw [← groups_of_early]
      apply ih (ordered.filter _)
      intro entry member
      obtain ⟨held,below⟩ := List.mem_filter.mp member
      exact ⟨(listed entry held).1,by simpa using below⟩
    have late : (entries.filter fun entry => entry.line == (count : Int) + 1) =
        entries.filter fun entry => decide ((count : Int) < entry.line) := by
      refine List.filter_congr ?_
      intro entry member
      have bounds := listed entry member
      rw [Bool.eq_iff_iff,beq_iff_eq,decide_eq_true_eq]
      omega
    rw [groups_succ,List.flatten_append,early,List.flatten_singleton,late,split_at_line _ ordered]

end Diagnostic

namespace Sink
open Diagnostic

variable {sink : Sink} {entry : Diagnostic}

theorem ordered_ranked (sink : Sink) : sink.ranked.toList.Pairwise fun a b => a.line ≤ b.line := by
  have order := List.pairwise_mergeSort notAfter_trans notAfter_total sink.toList
  have lines : ((sink.toList.mergeSort notAfter).map line).Pairwise (· ≤ ·) :=
    List.pairwise_map.mpr (order.imp line_le_of_notAfter)
  rw [← lines_numbered] at lines
  rw [toList_ranked]
  exact List.pairwise_map.mp lines

theorem numbers_ranked (sink : Sink) :
    sink.ranked.toList.map number = (List.range sink.ranked.toList.length).map fun i : Nat => (i : Int) + 1 := by
  rw [toList_ranked,numbers_numbered,numbered,List.length_mapIdx]

theorem mem_ranked (member : entry ∈ sink.ranked.toList) :
    ∃ old ∈ sink.toList, ∃ number, entry = { old with number := number } := by
  rw [toList_ranked] at member
  obtain ⟨old,held,number,same⟩ := mem_numbered member
  exact ⟨old,List.mem_mergeSort.mp held,number,same⟩

end Sink

namespace Listing

-- What is to be shown of an entry: its number in two digits or more, the code behind a caret that has a blank in front
-- of it for each column in front of that of the entry, and the message.
def told (entry : Diagnostic) : List String := [
  "**" ++ (if entry.number < 10 then "0" else "") ++ toString entry.number ++ "** " ++
    String.ofList (List.replicate (entry.column - 1).toNat ' ') ++ "^ error code " ++ toString entry.code,
  "****** " ++ entry.message]

-- Each line, and behind it the rows of each entry in its group. The groups one after the other are all the entries.
structure Grouped (rows : Diagnostic → List String) (lines : List String) (entries : List Diagnostic)
    (groups : List (List Diagnostic)) (listing : String) : Prop where
  each : groups.length = lines.length
  all : groups.flatten = entries
  own : ∀ (row : Nat) (group : List Diagnostic), groups[row]? = some group →
    ∀ entry ∈ group, entry.line = (row : Int) + 1
  text : listing = String.join ((((lines.zip groups).flatMap fun part =>
      ("        " ++ part.1) :: part.2.flatMap rows) ++
    ["","Compilation finished: errors - " ++ toString entries.length ++ " !"]).map (· ++ "\n"))

theorem written_number {n : Int} (plain : 0 ≤ n) :
    String.ofList (Text.zeroPadded 2 n) = (if n < 10 then "0" else "") ++ toString n := by
  obtain ⟨k,rfl⟩ := Int.eq_ofNat_of_zero_le plain
  have digits : (toString (k : Int)).toList = (toString k).toList := rfl
  have one : (toString k).toList.length ≤ 1 ↔ k < 10 := Nat.length_repr_le_iff (by omega)
  have some : 0 < (toString k).toList.length := List.length_pos_iff.mpr (Text.digits_written k).1
  rw [← String.toList_inj,String.toList_ofList,String.toList_append,Text.zeroPadded_unsigned 2 plain,Int.natAbs_natCast,
    Text.fill,digits]
  split
  · have lone : (toString k).toList.length = 1 := by omega
    rw [lone]
    rfl
  · have pair : 2 - (toString k).toList.length = 0 := by omega
    rw [pair]
    rfl

theorem entryRows_eq_told {entry : Diagnostic} (ranked : 1 ≤ entry.number) : entryRows entry = told entry := by
  rw [entryRows,written_number (by omega),told,pointer]
  simp only [String.append_assoc]

theorem lineRows_groups (lines : List String) (entries : List Diagnostic) :
    (lines.mapIdx fun row line => lineRows entries ((row : Int) + 1) line) =
      (lines.zip (Diagnostic.groups lines.length entries)).map fun part =>
        (indent ++ part.1) :: part.2.flatMap entryRows := by
  apply List.ext_getElem
  · simp [Diagnostic.groups]
  · intro row _ _
    simp [Diagnostic.groups,lineRows]

theorem grouped_of_ordered {lines : List String} {entries : List Diagnostic}
    (ordered : entries.Pairwise fun a b => a.line ≤ b.line)
    (listed : ∀ entry ∈ entries, 1 ≤ entry.line ∧ entry.line ≤ lines.length) :
    Grouped entryRows lines entries (Diagnostic.groups lines.length entries) (render lines entries) := by
  constructor
  · simp [Diagnostic.groups]
  · exact Diagnostic.flatten_groups ordered listed
  · intro row group found entry member
    simp only [Diagnostic.groups,List.getElem?_map,Option.map_eq_some_iff] at found
    obtain ⟨i,place,rfl⟩ := found
    have same : row = i := by
      obtain ⟨_,same⟩ := List.getElem?_eq_some_iff.mp place
      simpa using same
    have own := (List.mem_filter.mp member).2
    rw [same]
    simpa using own
  · rw [render,rows,lineRows_groups]
    rfl

theorem Grouped.told {lines : List String} {entries : List Diagnostic} {groups : List (List Diagnostic)} {listing : String}
    (grouped : Grouped entryRows lines entries groups listing) (ranked : ∀ entry ∈ entries, 1 ≤ entry.number) :
    Grouped told lines entries groups listing := by
  obtain ⟨each,all,own,text⟩ := grouped
  refine ⟨each,all,own,?_⟩
  have parts : ((lines.zip groups).flatMap fun part => ("        " ++ part.1) :: part.2.flatMap entryRows) =
      (lines.zip groups).flatMap fun part => ("        " ++ part.1) :: part.2.flatMap Listing.told := by
    refine List.flatMap_congr fun part member => ?_
    have inside : ∀ entry ∈ part.2, entry ∈ entries := by
      intro entry held
      rw [← all]
      exact List.mem_flatten.mpr ⟨part.2,(List.of_mem_zip member).2,held⟩
    rw [List.flatMap_congr fun entry held => entryRows_eq_told (ranked entry (inside entry held))]
  rw [text,parts]

end Listing

end PascalCheck
