import PascalCheck.Proofs.Grammar.History

namespace PascalCheck.Checker

-- Codes of the reports after which a check goes on by itself. Any other report is of a mismatch.
def closing : List Int := [Problem.beginExpected.code,Problem.dotExpected.code,Problem.compoundEnd.code]

@[simp] theorem sink_synchronize (stop : TokenKind → Bool) (checker : Checker) :
    (checker.synchronize stop).sink = checker.sink := by
  unfold synchronize
  dsimp only
  split <;> rfl

-- Two checks that see the same, and that keep in step over every token but a stop.
structure InStep (stops : List TokenKind) (step : Checker → Checker → Prop) : Prop where
  current : ∀ {one two}, step one two → one.current = two.current
  following : ∀ {one two}, step one two → one.current = .dot → one.tokens.following = two.tokens.following
  next : ∀ {one two}, step one two → one.current ∉ stops → step one.next two.next

-- How one construct ends in two checks. A report is made in the words of the other, each where its check has come to.
inductive Alike (step : Checker → Checker → Prop) (one two : Checker) : Checked → Checked → Prop where
  | finished {here there : Checker} (first : Quiet one here) (second : Quiet two there) (same : step here there) :
      Alike step one two (.finished here) (.finished there)
  | failAfter {here there : Checker} (first : Quiet one here) (second : Quiet two there) (same : step here there)
      {code : Int} (mismatch : code ∉ closing) (message : Option String) :
      Alike step one two (here.failAfter code message) (there.failAfter code message)
  | failHere {here there : Checker} (first : Quiet one here) (second : Quiet two there) (same : step here there)
      {code : Int} (mismatch : code ∉ closing) (message : Option String) :
      Alike step one two (here.failHere code message) (there.failHere code message)

-- In one check: nothing is told, or one mismatch at the token passed last or at the current one.
def Once (checker : Checker) (outcome : Checked) : Prop :=
  (∃ state, outcome = .finished state ∧ Quiet checker state) ∨
  ∃ state code place message, outcome = .stopped .reported (state.report code place message) ∧ Quiet checker state ∧
    code ∉ closing ∧ (place = state.tokens.lastPosition ∨ place = state.tokens.currentPosition)

structure Straight (stops : List TokenKind) (construct : Checker → Checked) : Prop where
  alike : ∀ {step : Checker → Checker → Prop} {one two : Checker}, InStep stops step → step one two →
    Alike step one two (construct one) (construct two)

variable {stops : List TokenKind} {step : Checker → Checker → Prop} {one two here there : Checker}
  {first second : Checked} {construct other : Checker → Checked}

namespace Alike

theorem earlier (alike : Alike step here there first second) (before : Quiet one here) (beside : Quiet two there) :
    Alike step one two first second := by
  cases alike with
  | finished left right same => exact .finished (before.trans left) (beside.trans right) same
  | failAfter left right same mismatch message =>
    exact .failAfter (before.trans left) (beside.trans right) same mismatch message
  | failHere left right same mismatch message =>
    exact .failHere (before.trans left) (beside.trans right) same mismatch message

theorem andThen (alike : Alike step one two first second)
    (rest : ∀ {here there}, step here there → Alike step here there (construct here) (construct there)) :
    Alike step one two (first.andThen construct) (second.andThen construct) := by
  cases alike with
  | finished left right same => exact (rest same).earlier left right
  | failAfter left right same mismatch message => exact .failAfter left right same mismatch message
  | failHere left right same mismatch message => exact .failHere left right same mismatch message

theorem once (alike : Alike step one two first second) : Once one first := by
  cases alike with
  | finished quiet _ _ => exact Or.inl ⟨_,rfl,quiet⟩
  | failAfter quiet _ _ mismatch message => exact Or.inr ⟨_,_,_,_,rfl,quiet,mismatch,Or.inl rfl⟩
  | failHere quiet _ _ mismatch message => exact Or.inr ⟨_,_,_,_,rfl,quiet,mismatch,Or.inr rfl⟩

end Alike

namespace Straight

theorem finished : Straight stops .finished := by
  constructor
  intro step one two inStep same
  exact .finished (Quiet.refl _) (Quiet.refl _) same

theorem andThen (straight : Straight stops construct) (rest : Straight stops other) :
    Straight stops fun checker => (construct checker).andThen other := by
  constructor
  intro step one two inStep same
  apply (straight.alike inStep same).andThen
  intro here there between
  exact rest.alike inStep between

theorem beyond (straight : Straight stops construct) (inStep : InStep stops step) (same : step one two)
    (inner : one.current ∉ stops) : Alike step one two (construct one.next) (construct two.next) :=
  (straight.alike inStep (inStep.next same inner)).earlier (quiet_next _) (quiet_next _)

theorem rounds {again : Checker → Bool} {progress}
    (seen : ∀ {one two}, step one two → again one = again two)
    (round : ∀ {one two}, step one two → again one = true → Alike step one two (construct one) (construct two))
    (one two : Checker) (same : step one two) :
    Alike step one two (repeatWhile again construct progress one) (repeatWhile again construct progress two) := by
  by_cases more : again one = true
  · have alike := round same more
    have shorter := progress one more
    rw [repeatWhile_round more,repeatWhile_round (seen same ▸ more)]
    generalize construct one = first at alike shorter
    generalize construct two = second at alike
    cases alike with
    | finished left right between => exact (rounds seen round _ _ between).earlier left right
    | failAfter left right between mismatch message => exact .failAfter left right between mismatch message
    | failHere left right between mismatch message => exact .failHere left right between mismatch message
  · have done : again one = false := by simpa using more
    rw [repeatWhile_done done,repeatWhile_done (seen same ▸ done)]
    exact .finished (Quiet.refl _) (Quiet.refl _) same
termination_by one.left

theorem repeatWhile {again : Checker → Bool} {progress} (straight : Straight stops construct)
    (seen : ∀ {one two}, one.current = two.current → again one = again two)
    (inner : ∀ {checker}, again checker = true → checker.current ∉ stops) :
    Straight stops (repeatWhile again (fun checker => construct checker.next) progress) := by
  constructor
  intro step one two inStep same
  apply rounds
  · intro here there between
    exact seen (inStep.current between)
  · intro here there between more
    exact straight.beyond inStep between (inner more)
  · exact same

end Straight

theorem straight_expect {kind : TokenKind} {code : Int} (inner : kind ∉ stops) (mismatch : code ∉ closing)
    (message : Option String) : Straight stops (expect kind code message) := by
  constructor
  intro step one two inStep same
  unfold expect
  rw [← inStep.current same]
  by_cases here : one.current = kind
  · rw [if_pos here,if_pos here]
    exact Straight.finished.beyond inStep same (here ▸ inner)
  · rw [if_neg here,if_neg here]
    exact .failAfter (Quiet.refl _) (Quiet.refl _) same mismatch _

theorem straight_need {kind : TokenKind} (inner : kind ∉ stops) : Straight stops (need kind) :=
  straight_expect inner (by decide) _

theorem straight_choice {P : TokenKind → Prop} [DecidablePred P] {code : Int} (inner : ∀ kind, P kind → kind ∉ stops)
    (mismatch : code ∉ closing) :
    Straight stops fun checker =>
      if P checker.current then .finished checker.next else checker.failHere code none := by
  constructor
  intro step one two inStep same
  rw [← inStep.current same]
  by_cases here : P one.current
  · rw [if_pos here,if_pos here]
    exact Straight.finished.beyond inStep same (inner _ here)
  · rw [if_neg here,if_neg here]
    exact .failHere (Quiet.refl _) (Quiet.refl _) same mismatch _

variable (ends : stops ⊆ [.semi,.endWord])
include ends

theorem inner_of_ends {kind : TokenKind} (other : kind ≠ .semi ∧ kind ≠ .endWord) : kind ∉ stops := by
  intro member
  rcases List.mem_pair.mp (ends member) with same | same
  · exact other.1 same
  · exact other.2 same

theorem straight_term : Straight stops term := by
  refine straight_choice (P := fun kind => kind = .ident ∨ kind = .number) ?_ (by decide)
  rintro kind (rfl | rfl)
  · exact inner_of_ends ends (by decide)
  · exact inner_of_ends ends (by decide)

theorem straight_operations : Straight stops operations := by
  refine (straight_term ends).repeatWhile ?_ ?_
  · intro one two same
    simp only [atOperator,same]
  · intro checker more
    apply inner_of_ends ends
    constructor <;> intro same <;> simp [atOperator,same] at more

theorem straight_expression : Straight stops expression := (straight_term ends).andThen (straight_operations ends)

theorem straight_argument : Straight stops argument := by
  constructor
  intro step one two inStep same
  unfold argument
  rw [← inStep.current same]
  by_cases text : one.current = .string
  · rw [if_pos text,if_pos text]
    exact Straight.finished.beyond inStep same (inner_of_ends ends (by simp [text]))
  · rw [if_neg text,if_neg text]
    exact (straight_expression ends).alike inStep same

theorem straight_furtherArguments : Straight stops furtherArguments := by
  refine (straight_argument ends).repeatWhile ?_ ?_
  · intro one two same
    simp only [atComma,same]
  · intro checker more
    apply inner_of_ends ends
    constructor <;> intro same <;> simp [atComma,same] at more

theorem straight_arguments : Straight stops arguments := by
  constructor
  intro step one two inStep same
  unfold arguments
  rw [← inStep.current same]
  by_cases none : one.current = .rparen
  · rw [if_pos none,if_pos none]
    exact .finished (Quiet.refl _) (Quiet.refl _) same
  · rw [if_neg none,if_neg none]
    exact ((straight_argument ends).andThen (straight_furtherArguments ends)).alike inStep same

theorem straight_selector : Straight stops selector := by
  constructor
  intro step one two inStep same
  unfold selector
  rw [← inStep.current same]
  by_cases bracket : one.current = .lbracket
  · rw [if_pos bracket,if_pos bracket]
    have index : Straight stops fun checker => (checker.need .number).andThen (need .rbracket) :=
      (straight_need (inner_of_ends ends (by decide))).andThen (straight_need (inner_of_ends ends (by decide)))
    exact index.beyond inStep same (inner_of_ends ends (by simp [bracket]))
  rw [if_neg bracket,if_neg bracket]
  by_cases dotted : one.current = .dot ∧ one.tokens.following = .ident
  · have both : one.current = .dot ∧ two.tokens.following = .ident := by
      rwa [← inStep.following same dotted.1]
    rw [if_pos dotted,if_pos both]
    have name : one.next.current = .ident := by
      rw [← dotted.2]
      rcases one with ⟨⟨passed,_ | ⟨token,_ | ⟨other,rest⟩⟩⟩,sink,journal⟩ <;> rfl
    have between := inStep.next same (inner_of_ends ends (by simp [dotted.1]))
    have beyond := inStep.next between (inner_of_ends ends (by simp [name]))
    exact .finished ((quiet_next _).trans (quiet_next _)) ((quiet_next _).trans (quiet_next _)) beyond
  · have neither : ¬ (one.current = .dot ∧ two.tokens.following = .ident) := by
      intro both
      rw [← inStep.following same both.1] at both
      exact dotted both
    rw [if_neg dotted,if_neg neither]
    exact .finished (Quiet.refl _) (Quiet.refl _) same

theorem straight_action : Straight stops action := by
  constructor
  intro step one two inStep same
  unfold action
  rw [← inStep.current same]
  by_cases assign : one.current = .assign
  · rw [if_pos assign,if_pos assign]
    exact (straight_expression ends).beyond inStep same (inner_of_ends ends (by simp [assign]))
  rw [if_neg assign,if_neg assign]
  by_cases bracket : one.current = .lparen
  · rw [if_pos bracket,if_pos bracket]
    have call : Straight stops fun checker => checker.arguments.andThen (need .rparen) :=
      (straight_arguments ends).andThen (straight_need (inner_of_ends ends (by decide)))
    exact call.beyond inStep same (inner_of_ends ends (by simp [bracket]))
  · rw [if_neg bracket,if_neg bracket]
    exact .finished (Quiet.refl _) (Quiet.refl _) same

theorem straight_subject : Straight stops fun checker => checker.selector.andThen action :=
  (straight_selector ends).andThen (straight_action ends)

omit ends in
theorem statement_of_subject {checker : Checker} (subject : checker.current = .ident ∨ checker.current = .writelnWord) :
    checker.statement = checker.next.selector.andThen action := by
  have begins : ¬ (checker.current = .semi ∨ checker.current = .endWord) := by
    rcases subject with same | same <;> simp [same]
  rw [statement,if_neg begins,if_pos subject]

omit ends in
theorem statement_of_stranger {checker : Checker} (begins : ¬ (checker.current = .semi ∨ checker.current = .endWord))
    (stranger : ¬ (checker.current = .ident ∨ checker.current = .writelnWord)) :
    checker.statement = checker.failHere Problem.statementExpected.code none := by
  rw [statement,if_neg begins,if_neg stranger]

theorem straight_furtherNames : Straight stops furtherNames := by
  have name : Straight stops (expect .ident Problem.unexpectedToken.code (some "expected identifier after ','")) :=
    straight_expect (inner_of_ends ends (by decide)) (by decide) _
  refine name.repeatWhile ?_ ?_
  · intro one two same
    simp only [atComma,same]
  · intro checker more
    apply inner_of_ends ends
    constructor <;> intro same <;> simp [atComma,same] at more

theorem straight_standardType {code : Int} (mismatch : code ∉ closing) : Straight stops (standardType code) := by
  refine straight_choice (P := fun kind => isStandard kind = true) ?_ mismatch
  intro kind standard
  apply inner_of_ends ends
  constructor <;> intro same <;> simp [isStandard,same] at standard

theorem straight_constantValue : Straight stops constantValue := by
  refine straight_choice (P := fun kind => kind = .number) ?_ (by decide)
  rintro kind rfl
  exact inner_of_ends ends (by decide)

omit ends in
theorem straight_separator (apart : .semi ∉ stops) : Straight stops separator := by
  constructor
  intro step one two inStep same
  unfold separator
  rw [← inStep.current same]
  by_cases semi : one.current = .semi
  · rw [if_pos semi,if_pos semi]
    exact Straight.finished.beyond inStep same (semi ▸ apart)
  rw [if_neg semi,if_neg semi]
  by_cases past : one.current = .endWord ∨ one.current = .eof
  · rw [if_pos past,if_pos past]
    exact .finished (Quiet.refl _) (Quiet.refl _) same
  · rw [if_neg past,if_neg past]
    exact .failAfter (Quiet.refl _) (Quiet.refl _) same (by decide) _

omit ends in
theorem inStep_eq : InStep stops Eq := by
  constructor
  · rintro one two rfl
    rfl
  · rintro one two rfl _
    rfl
  · rintro one two rfl _
    rfl

omit ends in
theorem Straight.once (straight : Straight stops construct) (checker : Checker) : Once checker (construct checker) :=
  (straight.alike inStep_eq (rfl : checker = checker)).once

end PascalCheck.Checker
