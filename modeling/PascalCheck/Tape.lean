namespace PascalCheck

-- passed holds the items before the place, the nearest one first.
structure Tape (α : Type) where
  passed : List α
  rest : List α
deriving DecidableEq, Repr

-- What a look at some distance finds. Beyond the end there is nothing to see; before
-- the start the items count back from the end, and that only once round.
inductive Sight (α : Type) where
  | item (seen : α)
  | beyond
  | unreachable
deriving DecidableEq, Repr

namespace Tape

def ofList (items : List α) : Tape α := ⟨[],items⟩

def toList (tape : Tape α) : List α := tape.passed.reverse ++ tape.rest

def index (tape : Tape α) : Nat := tape.passed.length

def atEnd (tape : Tape α) : Bool := tape.rest.isEmpty

def forward : Tape α → Tape α
  | ⟨passed,[]⟩ => ⟨passed,[]⟩
  | ⟨passed,head :: rest⟩ => ⟨head :: passed,rest⟩

def look (tape : Tape α) (distance : Int) : Sight α :=
  let items := tape.toList
  let place := (tape.index : Int) + distance
  let found := if place < 0 then place + items.length else place
  if found < 0 then .unreachable
  else match items[found.toNat]? with
    | some item => .item item
    | none => .beyond

@[simp] theorem toList_forward (tape : Tape α) : tape.forward.toList = tape.toList := by
  rcases tape with ⟨passed,_ | ⟨head,rest⟩⟩ <;> simp [forward,toList]

theorem rest_forward (tape : Tape α) : tape.forward.rest = tape.rest.tail := by
  rcases tape with ⟨passed,_ | ⟨head,rest⟩⟩ <;> rfl

theorem index_add_rest (tape : Tape α) : tape.index + tape.rest.length = tape.toList.length := by
  simp [index,toList]

theorem atEnd_iff (tape : Tape α) : tape.atEnd = true ↔ tape.index = tape.toList.length := by
  have total := tape.index_add_rest
  rw [atEnd,List.isEmpty_iff_length_eq_zero]
  omega

end Tape

end PascalCheck
