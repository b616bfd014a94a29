import Mathlib.Data.List.GetD
import PascalCheck.Proofs.Source.Lines

namespace PascalCheck

namespace Text

theorem joinWith_eq_intercalate (separator : Char) (parts : List (List Char)) :
    joinWith separator parts = [separator].intercalate parts := by
  fun_induction joinWith separator parts with
  | case1 => rfl
  | case2 part => simp
  | case3 part parts more ih =>
    cases parts with
    | nil => exact absurd rfl more
    | cons next others =>
      rw [List.intercalate_cons_cons,ih,List.append_assoc]
      rfl

theorem exists_head (c : Char) (rest : List Char) :
    ∃ line others, lines (c :: rest) = line :: others ∧ line.headD '\n' = c := by
  by_cases feed : c = '\n'
  · exact ⟨[],lines rest,by rw [feed,lines_feed],feed.symm⟩
  · obtain ⟨line,others,split⟩ := exists_lines rest
    have lone : '\n' ∉ [c] := by simpa using Ne.symm feed
    exact ⟨c :: line,others,lines_of_flat lone split,rfl⟩

end Text

namespace Position

-- The place of the last character of a text. An empty one has none, and its start stands for it.
def ofLast (text : List Char) : Position := if text = [] then .start else .after text.dropLast

theorem ofLast_eq (text : List Char) : ofLast text = .after text.dropLast := by
  unfold ofLast
  split
  · rename_i empty
    rw [empty]
    rfl
  · rfl

end Position

namespace Cursor

def atStart (chars : List Char) (sink : Sink) : Cursor := { ofText chars with sink := sink }

inductive Led (cursor : Cursor) : Cursor → Prop where
  | here : Led cursor cursor
  | advance {last : Cursor} (led : Led cursor last) : Led cursor last.advance
  | report {last : Cursor} (led : Led cursor last) (code : Int) (place : Position) (message : Option String) :
      Led cursor (last.report code place message)

-- A cursor in some text that knows its place and that of the character behind it.
structure Follows (text : List Char) (cursor : Cursor) : Prop where
  text : cursor.tape.toList = text
  located : cursor.Located
  last : cursor.last = .after cursor.behind.dropLast

-- What a cursor shows, all of it about one offset in a text.
structure Oriented (text : List Char) (cursor : Cursor) : Prop where
  bounded : cursor.offset ≤ text.length
  place : cursor.position = .after (text.take cursor.offset)
  joined : "\n".intercalate cursor.lines = String.ofList text
  char : cursor.offset < text.length → text[cursor.offset]? = some cursor.char
  -- behind the end of a line stands the line feed that ends it
  row : ∃ row, cursor.lines[cursor.line]? = some row ∧ cursor.column ≤ row.length ∧
    (cursor.offset < text.length → row.toList.getD cursor.column '\n' = cursor.char) ∧
    (cursor.offset = text.length → cursor.line + 1 = cursor.lines.length ∧ cursor.column = row.length)
  told : ∀ code message, (cursor.tell code none message).sink.toList = cursor.sink.toList ++
    [cursor.sink.entry code (if cursor.offset < text.length then cursor.position else .ofLast text) message]

variable {text : List Char} {cursor between last : Cursor}

theorem Led.trans (first : Led cursor between) (second : Led between last) : Led cursor last := by
  induction second with
  | here => exact first
  | advance _ ih => exact ih.advance
  | report _ code place message ih => exact ih.report code place message

theorem Led.advanceBy (led : Led cursor last) (count : Nat) : Led cursor (last.advanceBy count) := by
  induction count generalizing last with
  | zero => exact led
  | succ count ih => exact ih led.advance

theorem follows_atStart (chars : List Char) (sink : Sink) : Follows (Text.normalize chars) (atStart chars sink) :=
  ⟨rfl,rfl,rfl⟩

theorem Follows.advance (follows : Follows text cursor) : Follows text cursor.advance := by
  refine ⟨?_,follows.located.advance,?_⟩
  · rw [tape_advance,Tape.toList_forward]
    exact follows.text
  · have passed := behind_advance cursor
    cases ahead : cursor.rest with
    | nil =>
      have stays : cursor.advance = cursor := by rw [Cursor.advance,ahead]
      rw [stays]
      exact follows.last
    | cons c others =>
      have kept : cursor.advance.last = cursor.position := by rw [Cursor.advance,ahead]
      rw [passed,ahead,List.take_succ_cons,List.take_zero,List.dropLast_concat,kept]
      exact follows.located

theorem Follows.led (follows : Follows text cursor) (led : Led cursor last) : Follows text last := by
  induction led with
  | here => exact follows
  | advance _ ih => exact ih.advance
  | report _ _ _ _ ih => exact ⟨ih.text,ih.located,ih.last⟩

theorem offset_eq_length (cursor : Cursor) : cursor.offset = cursor.behind.length := by
  simp [offset,behind,Tape.index]

-- The lines are parts of the text, and nothing but line feeds has gone from between them.
theorem intercalate_lines (cursor : Cursor) : "\n".intercalate cursor.lines = String.ofList cursor.tape.toList := by
  rw [← String.toList_inj,String.toList_intercalate,lines,List.map_map]
  have plain : (String.toList ∘ String.ofList) = id := by
    funext chars
    simp
  have joined : ['\n'].intercalate (Text.lines cursor.tape.toList) = cursor.tape.toList := by
    rw [← Text.joinWith_eq_intercalate]
    exact Text.joinWith_splitAt '\n' _
  rw [plain,List.map_id]
  exact joined.trans String.toList_ofList.symm

namespace Follows
variable (follows : Follows text cursor)
include follows

theorem split : text = cursor.behind ++ cursor.rest := follows.text.symm

theorem take_offset : text.take cursor.offset = cursor.behind := by
  rw [offset_eq_length,follows.split,List.take_left]

theorem offset_lt_iff : cursor.offset < text.length ↔ cursor.rest ≠ [] := by
  rw [offset_eq_length,follows.split,List.length_append,ne_eq,← List.length_eq_zero_iff]
  omega

theorem offset_eq_iff : cursor.offset = text.length ↔ cursor.rest = [] := by
  rw [offset_eq_length,follows.split,List.length_append,← List.length_eq_zero_iff]
  omega

theorem getElem_offset (more : cursor.rest ≠ []) : text[cursor.offset]? = some cursor.char := by
  obtain ⟨c,others,ahead⟩ := List.exists_cons_of_ne_nil more
  rw [offset_eq_length,follows.split,char_of_rest ahead,ahead,List.getElem?_append_right (Nat.le_refl _),Nat.sub_self]
  rfl

theorem line_eq_count : cursor.line = cursor.behind.count '\n' := by
  have place : (cursor.line : Int) = _ := congrArg Position.line follows.located
  exact Int.ofNat.inj place

-- The row that a cursor stands in is the line begun behind it, with the first line of what is ahead.
theorem exists_row : ∃ opened ahead others, Text.lines cursor.rest = ahead :: others ∧ cursor.column = opened.length ∧
    cursor.lines[cursor.line]? = some (String.ofList (opened ++ ahead)) := by
  obtain ⟨ahead,others,split⟩ := Text.exists_lines cursor.rest
  obtain ⟨opened,place,found⟩ := Position.exists_opened cursor.behind
  have column : (cursor.column : Int) = _ := congrArg Position.column (follows.located.trans place)
  refine ⟨opened,ahead,others,split,Int.ofNat.inj column,?_⟩
  rw [lines,follows.text,follows.split,List.getElem?_map,follows.line_eq_count,found split]
  rfl

theorem line_at_end (done : cursor.rest = []) : cursor.line + 1 = cursor.lines.length := by
  rw [lines,List.length_map,follows.text,Text.length_lines,follows.line_eq_count,follows.split,done,List.append_nil]

theorem reportPlace_eq :
    cursor.reportPlace = if cursor.offset < text.length then cursor.position else .ofLast text := by
  have atEnd : cursor.atEnd = true ↔ cursor.rest = [] := List.isEmpty_iff
  by_cases done : cursor.rest = []
  · have whole : text = cursor.behind := by rw [follows.split,done,List.append_nil]
    rw [if_neg (mt follows.offset_lt_iff.mp (not_not.mpr done)),reportPlace,if_pos (atEnd.mpr done),Position.ofLast_eq,whole]
    exact follows.last
  · rw [if_pos (follows.offset_lt_iff.mpr done),reportPlace,if_neg (mt atEnd.mp done)]

theorem row : ∃ row, cursor.lines[cursor.line]? = some row ∧ cursor.column ≤ row.length ∧
    (cursor.offset < text.length → row.toList.getD cursor.column '\n' = cursor.char) ∧
    (cursor.offset = text.length → cursor.line + 1 = cursor.lines.length ∧ cursor.column = row.length) := by
  obtain ⟨opened,ahead,others,split,column,found⟩ := follows.exists_row
  refine ⟨_,found,?_,fun more => ?_,fun done => ?_⟩
  · rw [String.length_ofList,List.length_append,column]
    exact Nat.le_add_right _ _
  · obtain ⟨c,later,rest⟩ := List.exists_cons_of_ne_nil (follows.offset_lt_iff.mp more)
    obtain ⟨line,_,opens,head⟩ := Text.exists_head c later
    rw [rest,opens] at split
    have same : line = ahead := (List.cons.inj split).1
    rw [String.toList_ofList,column,List.getD_append_right _ _ _ _ (Nat.le_refl _),Nat.sub_self,char_of_rest rest,← head,same]
    cases ahead <;> rfl
  · have ends := follows.offset_eq_iff.mp done
    have none : ahead = [] := by
      rw [ends] at split
      exact (List.cons.inj split).1.symm
    refine ⟨follows.line_at_end ends,?_⟩
    rw [String.length_ofList,column,none,List.append_nil]

theorem oriented : Oriented text cursor where
  bounded := by
    rw [offset_eq_length,follows.split,List.length_append]
    exact Nat.le_add_right _ _
  place := by
    rw [follows.take_offset]
    exact follows.located
  joined := by rw [intercalate_lines,follows.text]
  char := fun more => follows.getElem_offset (follows.offset_lt_iff.mp more)
  row := follows.row
  told := fun code message => by
    rw [← follows.reportPlace_eq]
    exact Sink.toList_report _ _ _ _

end Follows

end Cursor

end PascalCheck
