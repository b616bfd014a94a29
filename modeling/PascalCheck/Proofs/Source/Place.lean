import PascalCheck.Source.Cursor

namespace PascalCheck

namespace Position

-- The place of the character that comes after some text.
def after (text : List Char) : Position := ⟨text.count '\n',(text.reverse.takeWhile (· != '\n')).length⟩

theorem after_concat (text : List Char) (c : Char) :
    after (text ++ [c]) =
      if c = '\n' then ⟨(after text).line + 1,0⟩ else ⟨(after text).line,(after text).column + 1⟩ := by
  by_cases ends : c = '\n'
  · subst ends
    simp [after]
  · simp [after,ends]

end Position

namespace Cursor

def behind (cursor : Cursor) : List Char := cursor.tape.passed.reverse

def Located (cursor : Cursor) : Prop := cursor.position = .after cursor.behind

theorem located_ofText (chars : List Char) : (ofText chars).Located := rfl

theorem behind_advance (cursor : Cursor) : cursor.advance.behind = cursor.behind ++ cursor.rest.take 1 := by
  rcases cursor with ⟨⟨passed,_ | ⟨c,others⟩⟩,line,column,last,sink⟩
  · simp [advance,behind,rest]
  · simp [advance,behind,rest,Tape.forward]

theorem behind_advanceBy (cursor : Cursor) (count : Nat) :
    (cursor.advanceBy count).behind = cursor.behind ++ cursor.rest.take count := by
  induction count generalizing cursor with
  | zero => simp [advanceBy]
  | succ count ih =>
    rw [advanceBy,ih,behind_advance,rest_advance,List.append_assoc]
    cases cursor.rest <;> simp

theorem advanceBy_add (cursor : Cursor) (first second : Nat) :
    cursor.advanceBy (first + second) = (cursor.advanceBy first).advanceBy second := by
  induction first generalizing cursor with
  | zero => rw [Nat.zero_add]; rfl
  | succ first ih => rw [Nat.succ_add]; exact ih cursor.advance

theorem Located.advance {cursor : Cursor} (located : cursor.Located) : cursor.advance.Located := by
  have passed := behind_advance cursor
  rcases cursor with ⟨⟨before,_ | ⟨c,rest⟩⟩,line,column,last,sink⟩
  · exact located
  · have here : (⟨line,column⟩ : Position) = .after before.reverse := located
    rw [Located,passed]
    change (⟨_,_⟩ : Position) = .after (before.reverse ++ [c])
    rw [Position.after_concat,← here]
    by_cases ends : c = '\n' <;> simp [Cursor.advance,Cursor.rest,ends]

theorem Located.advanceBy {cursor : Cursor} (located : cursor.Located) (count : Nat) :
    (cursor.advanceBy count).Located := by
  induction count generalizing cursor with
  | zero => exact located
  | succ count ih => exact ih located.advance

end Cursor

end PascalCheck
