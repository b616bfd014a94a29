import Mathlib.Data.List.TakeWhile
import PascalCheck.Proofs.Source.Place

namespace PascalCheck

namespace Text

theorem lines_feed (text : List Char) : lines ('\n' :: text) = [] :: lines text := rfl

theorem exists_lines (text : List Char) : ∃ line others, lines text = line :: others :=
  List.exists_cons_of_ne_nil (splitAt_ne_nil '\n' text)

theorem lines_of_flat {front text line : List Char} {others : List (List Char)} (flat : '\n' ∉ front)
    (split : lines text = line :: others) : lines (front ++ text) = (front ++ line) :: others := by
  induction front with
  | nil => exact split
  | cons c front ih =>
    obtain ⟨other,flat⟩ := not_or.mp fun found => flat (List.mem_cons.mpr found)
    have rest : splitAt '\n' (front ++ text) = (front ++ line) :: others := ih flat
    rw [List.cons_append,lines,splitAt,if_neg (Ne.symm other),rest]
    rfl

theorem lines_append (before after : List Char) : lines (before ++ '\n' :: after) = lines before ++ lines after := by
  induction before with
  | nil => rfl
  | cons c before ih =>
    by_cases feed : c = '\n'
    · subst feed
      rw [List.cons_append,lines_feed,lines_feed,ih]
      rfl
    · obtain ⟨line,others,split⟩ := exists_lines before
      have flat : '\n' ∉ [c] := by simpa using Ne.symm feed
      have joined : lines (before ++ '\n' :: after) = line :: (others ++ lines after) := by rw [ih,split]; rfl
      exact (lines_of_flat flat joined).trans (congrArg (· ++ lines after) (lines_of_flat flat split).symm)

theorem length_lines (text : List Char) : (lines text).length = text.count '\n' + 1 := by
  induction text with
  | nil => rfl
  | cons c text ih =>
    by_cases feed : c = '\n'
    · subst feed
      rw [lines_feed,List.length_cons,ih,List.count_cons_self]
    · obtain ⟨line,others,split⟩ := exists_lines text
      have flat : '\n' ∉ [c] := by simpa using Ne.symm feed
      rw [show lines (c :: text) = _ from lines_of_flat flat split,List.count_cons_of_ne feed,← ih,split]
      rfl

theorem flat_lines (text : List Char) : ∀ line ∈ lines text, '\n' ∉ line := by
  induction text with
  | nil => simp [lines,splitAt]
  | cons c text ih =>
    by_cases feed : c = '\n'
    · subst feed
      rw [lines_feed]
      exact List.forall_mem_cons.mpr ⟨by simp,ih⟩
    · obtain ⟨line,others,split⟩ := exists_lines text
      have lone : '\n' ∉ [c] := by simpa using Ne.symm feed
      have opened : lines (c :: text) = (c :: line) :: others := lines_of_flat lone split
      rw [split] at ih
      obtain ⟨here,later⟩ := List.forall_mem_cons.mp ih
      rw [opened]
      refine List.forall_mem_cons.mpr ⟨?_,later⟩
      rw [List.mem_cons]
      exact not_or.mpr ⟨Ne.symm feed,here⟩

theorem flat_or_last_feed (text : List Char) :
    '\n' ∉ text ∨ ∃ before line, text = before ++ '\n' :: line ∧ '\n' ∉ line := by
  by_cases feed : '\n' ∈ text
  · obtain ⟨later,earlier,split,flat⟩ := List.eq_append_cons_of_mem (List.mem_reverse.mpr feed)
    refine Or.inr ⟨earlier.reverse,later.reverse,?_,by simpa using flat⟩
    simpa using congrArg List.reverse split
  · exact Or.inl feed

end Text

namespace Position

theorem no_feed_back {line : List Char} (flat : '\n' ∉ line) : ∀ c ∈ line.reverse, (c != '\n') = true := by
  intro c member
  have other : c ≠ '\n' := fun same => flat (same ▸ List.mem_reverse.mp member)
  simpa using other

theorem after_flat {line : List Char} (flat : '\n' ∉ line) : after line = ⟨(0 : Nat),line.length⟩ := by
  rw [after,List.count_eq_zero_of_not_mem flat,List.takeWhile_eq_self_iff.mpr (no_feed_back flat),
    List.length_reverse]

theorem count_feed (before : List Char) {line : List Char} (flat : '\n' ∉ line) :
    (before ++ '\n' :: line).count '\n' = before.count '\n' + 1 := by
  rw [List.count_append,List.count_cons_self,List.count_eq_zero_of_not_mem flat,Nat.zero_add]

theorem after_feed (before : List Char) {line : List Char} (flat : '\n' ∉ line) :
    after (before ++ '\n' :: line) = ⟨(before.count '\n' + 1 : Nat),line.length⟩ := by
  have column : (before ++ '\n' :: line).reverse.takeWhile (· != '\n') = line.reverse := by
    rw [List.reverse_append,List.reverse_cons,List.append_assoc,List.takeWhile_append_of_pos (no_feed_back flat)]
    simp
  rw [after,count_feed before flat,column,List.length_reverse]

-- The line in which some text ends goes on with the first line of what is put behind it.
theorem exists_opened (front : List Char) :
    ∃ opened : List Char, after front = ⟨(front.count '\n' : Nat),opened.length⟩ ∧
      ∀ {rest line others}, Text.lines rest = line :: others →
        (Text.lines (front ++ rest))[front.count '\n']? = some (opened ++ line) := by
  rcases Text.flat_or_last_feed front with flat | ⟨before,opened,rfl,flat⟩
  · have none := List.count_eq_zero_of_not_mem flat
    refine ⟨front,by rw [after_flat flat,none],fun split => ?_⟩
    rw [Text.lines_of_flat flat split,none]
    rfl
  · refine ⟨opened,by rw [after_feed before flat,count_feed before flat],fun split => ?_⟩
    rw [count_feed before flat,List.append_assoc,List.cons_append,Text.lines_append,Text.lines_of_flat flat split,← Text.length_lines]
    simp

theorem exists_line (front : List Char) {c : Char} (others : List Char) (inner : c ≠ '\n') :
    ∃ row column : Nat, ∃ found, after front = ⟨row,column⟩ ∧
      (Text.lines (front ++ c :: others))[row]? = some found ∧ found[column]? = some c := by
  obtain ⟨line,later,split⟩ := Text.exists_lines others
  have lone : '\n' ∉ [c] := by simpa using Ne.symm inner
  obtain ⟨opened,place,found⟩ := exists_opened front
  exact ⟨_,_,_,place,found (Text.lines_of_flat lone split),by simp⟩

end Position

end PascalCheck
