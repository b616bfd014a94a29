namespace PascalCheck

inductive Outcome (ε σ : Type) where
  | finished (state : σ)
  | stopped (cause : ε) (state : σ)
deriving DecidableEq, Repr

namespace Outcome

def after : Outcome ε σ → σ
  | .finished state => state
  | .stopped _ state => state

def cause? : Outcome ε σ → Option ε
  | .finished _ => none
  | .stopped cause _ => some cause

-- The second step runs on the state of the first, and only if that one finished.
def andThen : Outcome ε σ → (σ → Outcome ε σ) → Outcome ε σ
  | .finished state, step => step state
  | .stopped cause state, _ => .stopped cause state

@[simp] theorem after_finished (state : σ) : (finished state : Outcome ε σ).after = state := rfl

@[simp] theorem after_stopped (cause : ε) (state : σ) : (stopped cause state).after = state := rfl

@[simp] theorem andThen_finished (state : σ) (step : σ → Outcome ε σ) :
    (finished state).andThen step = step state := rfl

@[simp] theorem andThen_stopped (cause : ε) (state : σ) (step : σ → Outcome ε σ) :
    (stopped cause state).andThen step = stopped cause state := rfl

theorem after_andThen {P : σ → Prop} {first : Outcome ε σ} {step : σ → Outcome ε σ}
    (here : P first.after) (keeps : ∀ state, P state → P (step state).after) :
    P (first.andThen step).after := by
  cases first with
  | finished state => exact keeps state here
  | stopped cause state => exact here

end Outcome

end PascalCheck
