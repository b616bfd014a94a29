import PascalCheck.Grammar.Productions
import PascalCheck.Proofs.Diagnostic.Decoding

namespace PascalCheck

open Listing (OneRow)

def Sink.Terse (sink : Sink) : Prop := ∀ entry ∈ sink.toList, OneRow entry.message

theorem Problem.oneRow_message (problem : Problem) : OneRow problem.message := by
  cases problem <;> exact Listing.oneRow_of_plain rfl

theorem Problem.oneRow_messageOf (code : Int) : OneRow (messageOf code) := by
  unfold messageOf
  split
  · exact oneRow_message _
  · exact Listing.oneRow_of_plain rfl

theorem TokenKind.oneRow_spelling (kind : TokenKind) : OneRow kind.spelling := by
  cases kind <;> exact Listing.oneRow_of_plain rfl

namespace Checker

-- A construct that adds no message of more than one row.
def StaysTerse (construct : Checker → Checked) : Prop :=
  ∀ checker, checker.sink.Terse → (construct checker).after.sink.Terse

variable {construct other : Checker → Checked}

theorem terse_report {code : Int} {message : Option String} (words : ∀ text ∈ message, OneRow text) (place : Position)
    {checker : Checker} (terse : checker.sink.Terse) : (checker.report code place message).sink.Terse := by
  intro entry member
  rw [report,Sink.toList_report,List.mem_append,List.mem_singleton] at member
  rcases member with old | rfl
  · exact terse entry old
  · cases message with
    | none => exact Problem.oneRow_messageOf code
    | some text => exact words text rfl

theorem terse_synchronize (stop : TokenKind → Bool) (checker : Checker) :
    (checker.synchronize stop).sink = checker.sink := by
  simp only [synchronize]
  split <;> rfl

namespace StaysTerse

theorem finished : StaysTerse .finished := fun _ terse => terse

theorem next (stays : StaysTerse construct) : StaysTerse fun checker => construct checker.next :=
  fun checker => stays checker.next

theorem andThen (here : StaysTerse construct) (there : StaysTerse other) :
    StaysTerse fun checker => (construct checker).andThen other :=
  fun checker terse => Outcome.after_andThen (P := fun state : Checker => state.sink.Terse) (here checker terse) there

theorem choice {condition : Checker → Prop} [DecidablePred condition] (here : StaysTerse construct)
    (there : StaysTerse other) : StaysTerse fun checker => if condition checker then construct checker else other checker := by
  intro checker
  dsimp only
  split
  · exact here checker
  · exact there checker

theorem recover (stays : StaysTerse construct) : StaysTerse (recover construct) := by
  intro checker terse
  have held := stays checker terse
  unfold Checker.recover
  split <;> rename_i state same <;> rw [same] at held
  · exact held
  · rw [Outcome.after_finished,terse_synchronize]
    exact held

theorem repeatWhile {again : Checker → Bool} {progress} (stays : StaysTerse construct) :
    StaysTerse (repeatWhile again construct progress) :=
  fun checker terse => after_repeatWhile (P := fun state => state.sink.Terse) checker terse
    fun state held _ => stays state held

end StaysTerse

theorem terse_told (code : Int) : StaysTerse fun checker => .finished (checker.reportAfter code none) :=
  fun _ terse => terse_report (fun _ found => by cases found) _ terse

theorem terse_failAfter (code : Int) {message : Option String} (words : ∀ text ∈ message, OneRow text) :
    StaysTerse (failAfter code message) := fun _ terse => terse_report words _ terse

theorem terse_failHere (code : Int) : StaysTerse (failHere code none) :=
  fun _ terse => terse_report (fun _ found => by cases found) _ terse

theorem terse_step : StaysTerse fun checker => .finished checker.next := StaysTerse.finished.next

theorem oneRow_missing (kind : TokenKind) (code : Int) {message : Option String} (words : ∀ text ∈ message, OneRow text) :
    ∀ text ∈ missing kind code message, OneRow text := by
  unfold missing
  split
  · intro text found
    rw [← Option.some.inj found]
    exact Listing.oneRow_append (Listing.oneRow_append (Listing.oneRow_of_plain rfl) kind.oneRow_spelling)
      (Listing.oneRow_of_plain rfl)
  · exact words

theorem terse_expect (kind : TokenKind) (code : Int) {message : Option String} (words : ∀ text ∈ message, OneRow text) :
    StaysTerse (expect kind code message) := terse_step.choice (terse_failAfter _ (oneRow_missing kind code words))

theorem terse_usual (kind : TokenKind) (code : Int) : StaysTerse (expect kind code none) :=
  terse_expect kind code fun _ found => by cases found

theorem terse_need (kind : TokenKind) : StaysTerse (need kind) := terse_usual kind _

theorem terse_expression : StaysTerse expression := by
  have term : StaysTerse term := terse_step.choice (terse_failHere _)
  have operations : StaysTerse operations := term.next.repeatWhile
  exact term.andThen operations

theorem terse_argument : StaysTerse argument := terse_step.choice terse_expression

theorem terse_arguments : StaysTerse arguments := by
  have others : StaysTerse furtherArguments := terse_argument.next.repeatWhile
  exact StaysTerse.finished.choice (terse_argument.andThen others)

theorem terse_statement : StaysTerse statement := by
  have index : StaysTerse fun checker => (checker.next.need .number).andThen (need .rbracket) :=
    (terse_need _).next.andThen (terse_need _)
  have selector : StaysTerse selector := index.choice (terse_step.next.choice StaysTerse.finished)
  have call : StaysTerse fun checker => checker.next.arguments.andThen (need .rparen) :=
    terse_arguments.next.andThen (terse_need _)
  have action : StaysTerse action := terse_expression.next.choice (call.choice StaysTerse.finished)
  exact StaysTerse.finished.choice ((selector.next.andThen action).choice (terse_failHere _))

theorem terse_compound : StaysTerse compound := by
  have words : ∀ text ∈ some "expected ';' or 'end'", OneRow text := by
    rintro text ⟨⟩
    exact Listing.oneRow_of_plain rfl
  have separator : StaysTerse separator := terse_step.choice (StaysTerse.finished.choice (terse_failAfter _ words))
  have statements : StaysTerse statements := (terse_statement.andThen separator).recover.repeatWhile
  have ending : StaysTerse compoundEnd := terse_step.choice (terse_told _)
  exact statements.next.andThen ending

theorem terse_names : StaysTerse names := by
  have words : ∀ text ∈ some "expected identifier after ','", OneRow text := by
    rintro text ⟨⟩
    exact Listing.oneRow_of_plain rfl
  have another : StaysTerse furtherName := (terse_expect _ _ words).next
  have others : StaysTerse furtherNames := another.repeatWhile
  exact (terse_need _).andThen others

theorem terse_standardType (code : Int) : StaysTerse (standardType code) := terse_step.choice (terse_failHere code)

theorem terse_arrayType : StaysTerse arrayType := by
  have bounds : StaysTerse fun checker => (((checker.next.need .lbracket).andThen (need .number)).andThen
      (need .dotdot)).andThen (need .number) :=
    (((terse_need _).next.andThen (terse_need _)).andThen (terse_need _)).andThen (terse_need _)
  exact ((bounds.andThen (terse_need _)).andThen (terse_need _)).andThen (terse_standardType _)

theorem terse_typeSpec : StaysTerse typeSpec := by
  have item : StaysTerse fieldItem :=
    ((terse_names.andThen (terse_need _)).andThen (terse_standardType _)).andThen (terse_need _)
  have fields : StaysTerse fields := item.recover.repeatWhile
  have record : StaysTerse recordType := fields.next.andThen (terse_usual _ _)
  exact terse_arrayType.choice (record.choice (terse_standardType _))

theorem terse_sections : StaysTerse sections := by
  have declared : StaysTerse variableItem :=
    ((terse_names.andThen (terse_need _)).andThen terse_typeSpec).andThen (terse_need _)
  have value : StaysTerse constantValue := terse_step.choice (terse_failHere _)
  have constants : StaysTerse constantItem := ((terse_need _).next.andThen value).andThen (terse_need _)
  have varSection : StaysTerse varSection := declared.recover.repeatWhile.next
  have constSection : StaysTerse constSection := constants.recover.repeatWhile.next
  exact (varSection.choice constSection).repeatWhile

theorem terse_program : StaysTerse program := by
  have title : StaysTerse title := (terse_usual _ _).andThen (terse_need _)
  have heading : StaysTerse heading := title.recover.next.choice StaysTerse.finished
  have body : StaysTerse body := terse_compound.choice (terse_told _)
  have finalDot : StaysTerse finalDot := terse_step.choice (terse_told _)
  exact ((heading.andThen terse_sections).andThen body).andThen finalDot

end Checker

end PascalCheck
