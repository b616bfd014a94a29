import Mathlib.Data.List.Infix
import PascalCheck.Grammar.Productions

namespace PascalCheck

def Diagnostic.place (entry : Diagnostic) : Position := ⟨entry.line - 1,entry.column - 1⟩

@[simp] theorem Sink.place_entry (sink : Sink) (code : Int) (place : Position) (message : Option String) :
    (sink.entry code place message).place = place := by
  simp [Sink.entry,Diagnostic.place]

namespace Checker

def behind (checker : Checker) : List TokenKind := checker.tokens.passed.reverse.map Token.kind

def ahead (checker : Checker) : List TokenKind := checker.tokens.rest.map Token.kind

def StandsIn (tokens : List Token) (place : Position) : Prop :=
  place = .start ∨ ∃ token ∈ tokens, token.position = place

structure Later (earlier later : Checker) : Prop where
  tokens : later.tokens.toList = earlier.tokens.toList
  index : earlier.tokens.index ≤ later.tokens.index
  reports : ∃ added, later.sink.toList = earlier.sink.toList ++ added ∧
    ∀ entry ∈ added, StandsIn earlier.tokens.toList entry.place
  journal : earlier.journal.toList <+: later.journal.toList

structure Quiet (earlier later : Checker) : Prop where
  tokens : later.tokens.toList = earlier.tokens.toList
  index : earlier.tokens.index ≤ later.tokens.index
  sink : later.sink = earlier.sink
  journal : later.journal = earlier.journal

theorem Quiet.refl (checker : Checker) : Quiet checker checker := ⟨rfl,Nat.le_refl _,rfl,rfl⟩

theorem Quiet.trans {one two three : Checker} (first : Quiet one two) (second : Quiet two three) : Quiet one three :=
  ⟨second.tokens.trans first.tokens,Nat.le_trans first.index second.index,second.sink.trans first.sink,
    second.journal.trans first.journal⟩

theorem Quiet.later {earlier later : Checker} (quiet : Quiet earlier later) : Later earlier later :=
  ⟨quiet.tokens,quiet.index,⟨[],by simp [quiet.sink],by simp⟩,by rw [quiet.journal]⟩

theorem Later.refl (checker : Checker) : Later checker checker := (Quiet.refl checker).later

theorem Later.trans {one two three : Checker} (first : Later one two) (second : Later two three) : Later one three := by
  obtain ⟨old,oldSink,oldPlaces⟩ := first.reports
  obtain ⟨fresh,freshSink,freshPlaces⟩ := second.reports
  refine ⟨second.tokens.trans first.tokens,Nat.le_trans first.index second.index,
    ⟨old ++ fresh,by rw [freshSink,oldSink,List.append_assoc],?_⟩,first.journal.trans second.journal⟩
  intro entry member
  rcases List.mem_append.mp member with before | after
  · exact oldPlaces entry before
  · rw [← first.tokens]; exact freshPlaces entry after

theorem quiet_next (checker : Checker) : Quiet checker checker.next := by
  refine ⟨Tape.toList_forward _,?_,rfl,rfl⟩
  rcases checker with ⟨⟨passed,_ | ⟨token,rest⟩⟩,sink,journal⟩
  · exact Nat.le_refl _
  · exact Nat.le_succ _

theorem lastPosition_stands (stream : TokenStream) : StandsIn stream.toList stream.lastPosition := by
  rcases stream with ⟨_ | ⟨token,passed⟩,rest⟩
  · exact Or.inl rfl
  · exact Or.inr ⟨token,by simp [Tape.toList],rfl⟩

theorem currentPosition_stands (stream : TokenStream) : StandsIn stream.toList stream.currentPosition := by
  rcases stream with ⟨passed,_ | ⟨token,rest⟩⟩
  · exact lastPosition_stands _
  · exact Or.inr ⟨token,by simp [Tape.toList],rfl⟩

theorem later_report {checker : Checker} {place : Position} (stands : StandsIn checker.tokens.toList place)
    (code : Int) (message : Option String) : Later checker (checker.report code place message) := by
  refine ⟨rfl,Nat.le_refl _,⟨[checker.sink.entry code place message],Sink.toList_report _ _ _ _,?_⟩,by simp [report]⟩
  intro entry member
  rw [List.mem_singleton.mp member,Sink.place_entry]
  exact stands

theorem later_reportAfter (code : Int) (message : Option String) (checker : Checker) :
    Later checker (checker.reportAfter code message) := later_report (lastPosition_stands _) code message

theorem later_reportHere (code : Int) (message : Option String) (checker : Checker) :
    Later checker (checker.reportHere code message) := later_report (currentPosition_stands _) code message

theorem later_synchronize (stop : TokenKind → Bool) (checker : Checker) :
    Later checker (checker.synchronize stop) := by
  have rested : Later checker { checker with
      tokens := checker.tokens.skipTo stop
      journal := checker.journal.push (.recovered (checker.tokens.before stop).length) } := by
    refine ⟨TokenStream.toList_skipTo _ _,?_,⟨[],by simp,by simp⟩,by simp⟩
    simp [Tape.index,TokenStream.skipTo]
  simp only [synchronize]
  split
  · exact rested.trans (quiet_next _).later
  · exact rested

-- A construct that, finished or stopped, leaves a later state.
def Proceeds (construct : Checker → Checked) : Prop := ∀ checker, Later checker (construct checker).after

namespace Proceeds
variable {construct other : Checker → Checked}

theorem finished : Proceeds .finished := Later.refl

theorem next (proceeds : Proceeds construct) : Proceeds fun checker => construct checker.next :=
  fun checker => (quiet_next checker).later.trans (proceeds checker.next)

theorem andThen (here : Proceeds construct) (there : Proceeds other) :
    Proceeds fun checker => (construct checker).andThen other :=
  fun checker => Outcome.after_andThen (P := Later checker) (here checker) fun state held => held.trans (there state)

theorem choice {condition : Checker → Prop} [DecidablePred condition] (here : Proceeds construct)
    (there : Proceeds other) : Proceeds fun checker => if condition checker then construct checker else other checker := by
  intro checker
  dsimp only
  split
  · exact here checker
  · exact there checker

theorem recover (proceeds : Proceeds construct) : Proceeds (recover construct) := by
  intro checker
  have held := proceeds checker
  unfold Checker.recover
  split <;> rename_i state same <;> rw [same] at held
  · exact held
  · exact held.trans (later_synchronize _ _)

theorem repeatWhile {again : Checker → Bool} {progress} (proceeds : Proceeds construct) :
    Proceeds (repeatWhile again construct progress) :=
  fun checker => after_repeatWhile (P := Later checker) checker (Later.refl _)
    fun state held _ => held.trans (proceeds state)

end Proceeds

theorem proceeds_next : Proceeds fun checker => .finished checker.next := Proceeds.finished.next

theorem proceeds_failAfter (code : Int) (message : Option String) : Proceeds (failAfter code message) :=
  later_reportAfter code message

theorem proceeds_failHere (code : Int) (message : Option String) : Proceeds (failHere code message) :=
  later_reportHere code message

theorem proceeds_expect (kind : TokenKind) (code : Int) (message : Option String) :
    Proceeds (expect kind code message) := proceeds_next.choice (proceeds_failAfter _ _)

theorem proceeds_need (kind : TokenKind) : Proceeds (need kind) := proceeds_expect _ _ _

theorem proceeds_term : Proceeds term := proceeds_next.choice (proceeds_failHere _ _)

theorem proceeds_operations : Proceeds operations := proceeds_term.next.repeatWhile

theorem proceeds_expression : Proceeds expression := proceeds_term.andThen proceeds_operations

theorem proceeds_argument : Proceeds argument := proceeds_next.choice proceeds_expression

theorem proceeds_furtherArguments : Proceeds furtherArguments := proceeds_argument.next.repeatWhile

theorem proceeds_arguments : Proceeds arguments :=
  Proceeds.finished.choice (proceeds_argument.andThen proceeds_furtherArguments)

theorem proceeds_selector : Proceeds selector :=
  ((proceeds_need _).next.andThen (proceeds_need _)).choice (proceeds_next.next.choice Proceeds.finished)

theorem proceeds_action : Proceeds action :=
  proceeds_expression.next.choice ((proceeds_arguments.next.andThen (proceeds_need _)).choice Proceeds.finished)

theorem proceeds_statement : Proceeds statement :=
  Proceeds.finished.choice ((proceeds_selector.next.andThen proceeds_action).choice (proceeds_failHere _ _))

theorem proceeds_separator : Proceeds separator :=
  proceeds_next.choice (Proceeds.finished.choice (proceeds_failAfter _ _))

theorem proceeds_statementItem : Proceeds statementItem := proceeds_statement.andThen proceeds_separator

theorem proceeds_statements : Proceeds statements := proceeds_statementItem.recover.repeatWhile

theorem proceeds_compoundEnd : Proceeds compoundEnd :=
  proceeds_next.choice fun checker => later_reportAfter _ _ checker

theorem proceeds_compound : Proceeds compound := proceeds_statements.next.andThen proceeds_compoundEnd

theorem proceeds_furtherName : Proceeds furtherName := (proceeds_expect _ _ _).next

theorem proceeds_furtherNames : Proceeds furtherNames := proceeds_furtherName.repeatWhile

theorem proceeds_names : Proceeds names := (proceeds_need _).andThen proceeds_furtherNames

theorem proceeds_standardType (code : Int) : Proceeds (standardType code) :=
  proceeds_next.choice (proceeds_failHere _ _)

theorem proceeds_arrayType : Proceeds arrayType :=
  ((((((proceeds_need _).next.andThen (proceeds_need _)).andThen (proceeds_need _)).andThen
    (proceeds_need _)).andThen (proceeds_need _)).andThen (proceeds_need _)).andThen (proceeds_standardType _)

theorem proceeds_fieldItem : Proceeds fieldItem :=
  ((proceeds_names.andThen (proceeds_need _)).andThen (proceeds_standardType _)).andThen (proceeds_need _)

theorem proceeds_fields : Proceeds fields := proceeds_fieldItem.recover.repeatWhile

theorem proceeds_recordType : Proceeds recordType := proceeds_fields.next.andThen (proceeds_expect _ _ _)

theorem proceeds_typeSpec : Proceeds typeSpec :=
  proceeds_arrayType.choice (proceeds_recordType.choice (proceeds_standardType _))

theorem proceeds_variableItem : Proceeds variableItem :=
  ((proceeds_names.andThen (proceeds_need _)).andThen proceeds_typeSpec).andThen (proceeds_need _)

theorem proceeds_varSection : Proceeds varSection := proceeds_variableItem.recover.repeatWhile.next

theorem proceeds_constantValue : Proceeds constantValue := proceeds_next.choice (proceeds_failHere _ _)

theorem proceeds_constantItem : Proceeds constantItem :=
  ((proceeds_need _).next.andThen proceeds_constantValue).andThen (proceeds_need _)

theorem proceeds_constSection : Proceeds constSection := proceeds_constantItem.recover.repeatWhile.next

theorem proceeds_declarations : Proceeds declarations := proceeds_varSection.choice proceeds_constSection

theorem proceeds_sections : Proceeds sections := proceeds_declarations.repeatWhile

theorem proceeds_heading : Proceeds heading :=
  (((proceeds_expect _ _ _).andThen (proceeds_need _)).recover.next).choice Proceeds.finished

theorem proceeds_body : Proceeds body := proceeds_compound.choice fun checker => later_reportAfter _ _ checker

theorem proceeds_finalDot : Proceeds finalDot := proceeds_next.choice fun checker => later_reportAfter _ _ checker

theorem proceeds_program : Proceeds program :=
  ((proceeds_heading.andThen proceeds_sections).andThen proceeds_body).andThen proceeds_finalDot

def Finishes (construct : Checker → Checked) : Prop :=
  ∀ checker, construct checker = .finished (construct checker).after

namespace Finishes
variable {construct other : Checker → Checked}

theorem andThen (here : Finishes construct) (there : Finishes other) :
    Finishes fun checker => (construct checker).andThen other := by
  intro checker
  dsimp only
  rw [here checker,Outcome.andThen_finished]
  exact there _

theorem choice {condition : Checker → Prop} [DecidablePred condition] (here : Finishes construct)
    (there : Finishes other) : Finishes fun checker => if condition checker then construct checker else other checker := by
  intro checker
  dsimp only
  split
  · exact here checker
  · exact there checker

theorem recover (construct : Checker → Checked) : Finishes (recover construct) := by
  intro checker
  unfold Checker.recover
  split <;> rfl

theorem repeatWhile {again : Checker → Bool} {progress} (finishes : Finishes construct) :
    Finishes (repeatWhile again construct progress) := by
  intro checker
  by_cases more : again checker = true
  · have shorter := progress checker more
    rw [repeatWhile_round more,finishes checker,Outcome.andThen_finished]
    exact repeatWhile finishes _
  · rw [repeatWhile_done (by simpa using more),Outcome.after_finished]
termination_by checker => checker.left

end Finishes

theorem finishes_varSection : Finishes varSection := fun checker =>
  (Finishes.recover variableItem).repeatWhile checker.next

theorem finishes_constSection : Finishes constSection := fun checker =>
  (Finishes.recover constantItem).repeatWhile checker.next

theorem finishes_compound : Finishes compound := by
  have rounds : Finishes fun checker => checker.next.statements := fun checker =>
    (Finishes.recover statementItem).repeatWhile checker.next
  exact rounds.andThen (Finishes.choice (fun _ => rfl) fun _ => rfl)

theorem finishes_program : Finishes program := by
  have heading : Finishes heading :=
    Finishes.choice (fun checker => Finishes.recover title checker.next) fun _ => rfl
  have sections : Finishes sections := (finishes_varSection.choice finishes_constSection).repeatWhile
  have body : Finishes body := finishes_compound.choice fun _ => rfl
  exact ((heading.andThen sections).andThen body).andThen (Finishes.choice (fun _ => rfl) fun _ => rfl)

end Checker

end PascalCheck
