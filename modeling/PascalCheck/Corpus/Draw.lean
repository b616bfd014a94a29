import PascalCheck.Corpus.Twister

namespace PascalCheck.Corpus

inductive Draw (α : Type) where
  | give (made : α)
  | upTo (most : Nat) (next : Fin (most + 1) → Draw α)
  | fraction (next : Fin (1 <<< 53) → Draw α)

namespace Draw

def andThen : Draw α → (α → Draw β) → Draw β
  | .give made,next => next made
  | .upTo most first,next => .upTo most fun drawn => (first drawn).andThen next
  | .fraction first,next => .fraction fun drawn => (first drawn).andThen next

instance : Monad Draw where
  pure := .give
  bind := andThen

-- What some results of the draws lead to.
inductive Allows : Draw α → α → Prop where
  | give : Allows (.give made) made
  | upTo (drawn : Fin (most + 1)) : Allows (next drawn) made → Allows (.upTo most next) made
  | fraction (drawn : Fin (1 <<< 53)) : Allows (next drawn) made → Allows (.fraction next) made

def run : Draw α → Twister → α × Twister
  | .give made,twister => (made,twister)
  | .upTo most next,twister =>
    let drawn := twister.below (most + 1)
    (next ⟨drawn.1,Twister.belowWithin_lt (Nat.succ_pos most) _ _⟩).run drawn.2
  | .fraction next,twister =>
    let drawn := twister.fraction
    (next ⟨drawn.1,twister.fraction_lt⟩).run drawn.2

theorem allows_run (plan : Draw α) (twister : Twister) : Allows plan (plan.run twister).1 := by
  induction plan generalizing twister with
  | give made => exact .give
  | upTo most next ih => exact .upTo _ (ih _ _)
  | fraction next ih => exact .fraction _ (ih _ _)

theorem allows_andThen {plan : Draw α} {next : α → Draw β} {made : β} :
    Allows (plan.andThen next) made ↔ ∃ middle, Allows plan middle ∧ Allows (next middle) made := by
  induction plan with
  | give first =>
    constructor
    · intro allowed; exact ⟨first,.give,allowed⟩
    · rintro ⟨_,⟨⟩,allowed⟩; exact allowed
  | upTo most first ih =>
    constructor
    · rintro ⟨⟩
      rename_i drawn allowed
      obtain ⟨middle,before,after⟩ := (ih drawn).mp allowed
      exact ⟨middle,.upTo drawn before,after⟩
    · rintro ⟨middle,⟨⟩,after⟩
      rename_i drawn before
      exact .upTo drawn ((ih drawn).mpr ⟨middle,before,after⟩)
  | fraction first ih =>
    constructor
    · rintro ⟨⟩
      rename_i drawn allowed
      obtain ⟨middle,before,after⟩ := (ih drawn).mp allowed
      exact ⟨middle,.fraction drawn before,after⟩
    · rintro ⟨middle,⟨⟩,after⟩
      rename_i drawn before
      exact .fraction drawn ((ih drawn).mpr ⟨middle,before,after⟩)

def between (least greatest : Nat) : Draw Nat := .upTo (greatest - least) fun drawn => .give (least + drawn)

def pick (items : List α) (some : 0 < items.length) : Draw α :=
  .upTo (items.length - 1) fun drawn => .give (items.get ⟨drawn.val, by omega⟩)

def times : Nat → Draw α → Draw (List α)
  | 0,_ => .give []
  | count + 1,plan => plan.andThen fun made => (times count plan).andThen fun others => .give (made :: others)

-- A share of the fractions, in hundredths: those below it, once it is rounded to 53 significant
-- bits, a tie to the even one. The result is the least fraction that is not below, in units of
-- 2 ^ -53.
def shareBound (hundredths : Nat) : Nat :=
  let shift := ((100 - 1) / hundredths).log2
  let scaled := hundredths <<< (53 + shift)
  let rounded := scaled / 100 + (if 100 < 2 * (scaled % 100) + scaled / 100 % 2 then 1 else 0)
  (rounded + ((1 <<< shift) - 1)) >>> shift

def isWithin (hundredths : Nat) (drawn : Fin (1 <<< 53)) : Bool := drawn.val < shareBound hundredths

def someFraction : Draw (Fin (1 <<< 53)) := .fraction .give

def chance (hundredths : Nat) : Draw Bool := someFraction.andThen fun drawn => .give (isWithin hundredths drawn)

end Draw

end PascalCheck.Corpus
