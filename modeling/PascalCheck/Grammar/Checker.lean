import PascalCheck.Outcome
import PascalCheck.Diagnostic.Sink
import PascalCheck.Token.Stream

namespace PascalCheck

-- What a check has done: a report when so many tokens had been passed, or a recovery that skipped
-- so many.
inductive Note where
  | reported (passed : Nat)
  | recovered (skipped : Nat)
deriving DecidableEq, Repr

structure Checker where
  tokens : TokenStream
  sink : Sink := {}
  journal : Array Note := #[]
deriving DecidableEq, Repr

-- A construct is left at once after the mismatch in it has been reported.
inductive Mismatch where
  | reported
deriving DecidableEq, Repr

abbrev Checked := Outcome Mismatch Checker

namespace Checker

def ofTokens (tokens : List Token) (sink : Sink) : Checker := { tokens := .ofList tokens, sink := sink }

def left (checker : Checker) : Nat := checker.tokens.rest.length

def current (checker : Checker) : TokenKind := checker.tokens.current

def next (checker : Checker) : Checker := { checker with tokens := checker.tokens.forward }

def report (code : Int) (place : Position) (message : Option String) (checker : Checker) : Checker :=
  { checker with
    sink := checker.sink.report code place message
    journal := checker.journal.push (.reported checker.tokens.index) }

-- Something is missing after good input: told at the token passed last.
def reportAfter (code : Int) (message : Option String) (checker : Checker) : Checker :=
  checker.report code checker.tokens.lastPosition message

-- Something stands where it may not: told at that token.
def reportHere (code : Int) (message : Option String) (checker : Checker) : Checker :=
  checker.report code checker.tokens.currentPosition message

def failAfter (code : Int) (message : Option String) (checker : Checker) : Checked :=
  .stopped .reported (checker.reportAfter code message)

def failHere (code : Int) (message : Option String) (checker : Checker) : Checked :=
  .stopped .reported (checker.reportHere code message)

-- The message on a missing token names it, unless the report has words of its own: a message, or
-- the usual one of another code.
def missing (kind : TokenKind) (code : Int) (message : Option String) : Option String :=
  if message.isNone && code == Problem.unexpectedToken.code then some ("expected '" ++ kind.spelling ++ "'")
  else message

def expect (kind : TokenKind) (code : Int) (message : Option String) (checker : Checker) : Checked :=
  if checker.current = kind then .finished checker.next
  else checker.failAfter code (missing kind code message)

def need (kind : TokenKind) (checker : Checker) : Checked := checker.expect kind Problem.unexpectedToken.code none

-- The kinds at which a recovery comes to rest: a semicolon, and the ends of constructs.
def isStop (kind : TokenKind) : Bool := kind == .semi || kind == .endWord || kind == .dot

-- Skips to the next stop, and past it if it is a semicolon.
def synchronize (stop : TokenKind → Bool) (checker : Checker) : Checker :=
  let rested : Checker := { checker with
    tokens := checker.tokens.skipTo stop
    journal := checker.journal.push (.recovered (checker.tokens.before stop).length) }
  if rested.current = .semi then rested.next else rested

-- Runs a construct that a mismatch may cut short; after one, the check goes on from the next stop.
def recover (construct : Checker → Checked) (checker : Checker) : Checked :=
  match construct checker with
  | .finished state => .finished state
  | .stopped _ state => .finished (state.synchronize isStop)

@[simp] theorem left_failAfter (code : Int) (message : Option String) (checker : Checker) :
    (checker.failAfter code message).after.left = checker.left := rfl

theorem left_next_le (checker : Checker) : checker.next.left ≤ checker.left :=
  TokenStream.forward_no_longer checker.tokens

theorem left_next_lt {checker : Checker} (more : checker.current ≠ .eof) : checker.next.left < checker.left :=
  TokenStream.forward_shorter more

theorem left_expect_le (kind : TokenKind) (code : Int) (message : Option String) (checker : Checker) :
    (checker.expect kind code message).after.left ≤ checker.left := by
  unfold expect
  split
  · exact left_next_le checker
  · exact Nat.le_of_eq (left_failAfter _ _ _)

theorem left_need_le (kind : TokenKind) (checker : Checker) : (checker.need kind).after.left ≤ checker.left :=
  left_expect_le _ _ _ _

theorem left_synchronize_le (stop : TokenKind → Bool) (checker : Checker) :
    (checker.synchronize stop).left ≤ checker.left := by
  have skipped := TokenStream.skipTo_no_longer stop checker.tokens
  simp only [synchronize]
  split
  · exact Nat.le_trans (left_next_le _) skipped
  · exact skipped

theorem left_synchronize_lt {stop : TokenKind → Bool} {checker : Checker} (more : checker.current ≠ .eof)
    (go : stop checker.current = false) : (checker.synchronize stop).left < checker.left := by
  have skipped := TokenStream.skipTo_shorter more go
  simp only [synchronize]
  split
  · exact Nat.lt_of_le_of_lt (left_next_le _) skipped
  · exact skipped

theorem left_andThen_le {bound : Nat} {first : Checked} {construct : Checker → Checked}
    (here : first.after.left ≤ bound) (ahead : ∀ checker, (construct checker).after.left ≤ checker.left) :
    (first.andThen construct).after.left ≤ bound :=
  Outcome.after_andThen (P := fun state => state.left ≤ bound) here
    fun state held => Nat.le_trans (ahead state) held

theorem left_andThen_lt {bound : Nat} {first : Checked} {construct : Checker → Checked}
    (here : first.after.left < bound) (ahead : ∀ checker, (construct checker).after.left ≤ checker.left) :
    (first.andThen construct).after.left < bound :=
  Outcome.after_andThen (P := fun state => state.left < bound) here
    fun state held => Nat.lt_of_le_of_lt (ahead state) held

theorem left_recover_lt {construct : Checker → Checked} {bound : Nat} {checker : Checker}
    (held : (construct checker).after.left < bound) : (recover construct checker).after.left < bound := by
  unfold recover
  split
  · rename_i state h; rw [h] at held; exact held
  · rename_i state h; rw [h] at held; exact Nat.lt_of_le_of_lt (left_synchronize_le _ _) held

-- Rounds of one construct, as long as a condition holds where the next round would begin. Each
-- round has to take a token, so there are no more rounds than tokens.
def repeatWhile (again : Checker → Bool) (round : Checker → Checked)
    (progress : ∀ checker, again checker = true → (round checker).after.left < checker.left)
    (checker : Checker) : Checked :=
  if _ : again checker = true then
    match _ : round checker with
    | .finished state => repeatWhile again round progress state
    | .stopped cause state => .stopped cause state
  else .finished checker
termination_by checker.left
decreasing_by
  have shorter := progress checker ‹_›
  rwa [‹round checker = _›] at shorter

section
variable {again : Checker → Bool} {round : Checker → Checked}
  {progress : ∀ checker, again checker = true → (round checker).after.left < checker.left}

theorem repeatWhile_done {checker : Checker} (done : again checker = false) :
    repeatWhile again round progress checker = .finished checker := by
  rw [repeatWhile,dif_neg (by simp [done])]

theorem repeatWhile_round {checker : Checker} (more : again checker = true) :
    repeatWhile again round progress checker =
      (round checker).andThen (repeatWhile again round progress) := by
  rw [repeatWhile,dif_pos more]
  cases round checker <;> rfl

theorem after_repeatWhile {P : Checker → Prop} (checker : Checker) (here : P checker)
    (keeps : ∀ state, P state → again state = true → P (round state).after) :
    P (repeatWhile again round progress checker).after := by
  by_cases more : again checker = true
  · rw [repeatWhile_round more]
    have next := keeps checker here more
    have shorter := progress checker more
    cases h : round checker with
    | finished state =>
      rw [h] at next
      exact after_repeatWhile state next keeps
    | stopped cause state => rw [h] at next; exact next
  · rw [repeatWhile_done (by simpa using more)]
    exact here
termination_by checker.left
decreasing_by
  rwa [h] at shorter

theorem left_repeatWhile_le (checker : Checker) :
    (repeatWhile again round progress checker).after.left ≤ checker.left :=
  after_repeatWhile (P := fun state => state.left ≤ checker.left) checker (Nat.le_refl _)
    fun state held more => Nat.le_trans (Nat.le_of_lt (progress state more)) held

end

end Checker

end PascalCheck
