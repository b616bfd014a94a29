namespace PascalCheck

-- Whole numbers: a report may name any place, also one outside every text.
structure Position where
  line : Int
  column : Int
deriving DecidableEq, Repr

namespace Position

def start : Position := ⟨0,0⟩

-- Reading order: line by line, and along a line by column.
def Before (a b : Position) : Prop := a.line < b.line ∨ a.line = b.line ∧ a.column < b.column

instance : LT Position := ⟨Before⟩

instance : LE Position := ⟨fun a b => a < b ∨ a = b⟩

instance (a b : Position) : Decidable (a < b) := inferInstanceAs (Decidable (_ ∨ _))

instance (a b : Position) : Decidable (a ≤ b) := inferInstanceAs (Decidable (_ ∨ _))

def shown (place : Position) : String := toString (place.line + 1) ++ ":" ++ toString (place.column + 1)

def described (place : Position) : String :=
  "Position(line=" ++ toString place.line ++ ", column=" ++ toString place.column ++ ")"

def sorted (places : List Position) : List Position := places.mergeSort fun a b => decide (a ≤ b)

end Position

end PascalCheck
