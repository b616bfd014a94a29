import PascalCheck.Proofs.Grammar.History

namespace PascalCheck.Checker

-- What can be called. Looks at the current token are left out: they lead to no other state.
inductive Call where
  | program | varSection | constSection | names | typeSpec | arrayType | recordType | compound
  | statement | arguments | argument | expression | term | next
  | standardType (code : Int)
  | reportAfter (code : Int) (message : Option String)
  | reportHere (code : Int) (message : Option String)
  | failHere (code : Int) (message : Option String)
  | expect (kind : TokenKind) (code : Int) (message : Option String)
  | synchronize (stop : TokenKind → Bool)

def Call.run : Call → Checker → Checked
  | .program,checker => checker.program
  | .varSection,checker => checker.varSection
  | .constSection,checker => checker.constSection
  | .names,checker => checker.names
  | .typeSpec,checker => checker.typeSpec
  | .arrayType,checker => checker.arrayType
  | .recordType,checker => checker.recordType
  | .compound,checker => checker.compound
  | .statement,checker => checker.statement
  | .arguments,checker => checker.arguments
  | .argument,checker => checker.argument
  | .expression,checker => checker.expression
  | .term,checker => checker.term
  | .next,checker => .finished checker.next
  | .standardType code,checker => checker.standardType code
  | .reportAfter code message,checker => .finished (checker.reportAfter code message)
  | .reportHere code message,checker => .finished (checker.reportHere code message)
  | .failHere code message,checker => checker.failHere code message
  | .expect kind code message,checker => checker.expect kind code message
  | .synchronize stop,checker => .finished (checker.synchronize stop)

def made (calls : List Call) (checker : Checker) : Checker :=
  calls.foldl (fun state call => (call.run state).after) checker

theorem proceeds_call (call : Call) : Proceeds call.run := by
  cases call with
  | program => exact proceeds_program
  | varSection => exact proceeds_varSection
  | constSection => exact proceeds_constSection
  | names => exact proceeds_names
  | typeSpec => exact proceeds_typeSpec
  | arrayType => exact proceeds_arrayType
  | recordType => exact proceeds_recordType
  | compound => exact proceeds_compound
  | statement => exact proceeds_statement
  | arguments => exact proceeds_arguments
  | argument => exact proceeds_argument
  | expression => exact proceeds_expression
  | term => exact proceeds_term
  | next => exact proceeds_next
  | standardType code => exact proceeds_standardType code
  | reportAfter code message => exact later_reportAfter code message
  | reportHere code message => exact later_reportHere code message
  | failHere code message => exact proceeds_failHere code message
  | expect kind code message => exact proceeds_expect kind code message
  | synchronize stop => exact later_synchronize stop

theorem later_made (calls : List Call) (checker : Checker) : Later checker (checker.made calls) := by
  induction calls generalizing checker with
  | nil => exact Later.refl checker
  | cons call others ih =>
    have here : Later checker (call.run checker).after := proceeds_call call checker
    exact here.trans (ih _)

theorem index_le_of_later {earlier later : Checker} (goes : Later earlier later) :
    later.tokens.index ≤ earlier.tokens.toList.length := by
  have bound := later.tokens.index_add_rest
  rw [goes.tokens] at bound
  omega

-- The constructs that hold a list of items deal with the mismatches in them by themselves.
theorem finishes_closed (checker : Checker) :
    ∀ call ∈ [Call.program,.varSection,.constSection,.compound],
      call.run checker = .finished (call.run checker).after := by
  intro call member
  simp only [List.mem_cons,List.not_mem_nil,or_false] at member
  rcases member with rfl | rfl | rfl | rfl
  · exact finishes_program checker
  · exact finishes_varSection checker
  · exact finishes_constSection checker
  · exact finishes_compound checker

-- What one call does to a check that other calls have led anywhere.
theorem calls_keep_history (tokens : List Token) (sink : Sink) (calls : List Call) (call : Call) :
    let before := (ofTokens tokens sink).made calls
    let after := (call.run before).after
    before.tokens.toList = tokens ∧ after.tokens.toList = tokens ∧
      before.tokens.index ≤ after.tokens.index ∧ after.tokens.index ≤ tokens.length ∧
      sink.toList <+: before.sink.toList ∧
      (∃ added, after.sink.toList = before.sink.toList ++ added ∧ ∀ entry ∈ added, StandsIn tokens entry.place) ∧
      ∀ closed ∈ [Call.program,.varSection,.constSection,.compound],
        closed.run before = .finished (closed.run before).after := by
  intro before after
  have led : Later (ofTokens tokens sink) before := later_made calls _
  have goes : Later before after := proceeds_call call before
  have run : before.tokens.toList = tokens := led.tokens
  have bound := index_le_of_later goes
  obtain ⟨told,kept,_⟩ := led.reports
  have reports := goes.reports
  rw [run] at bound reports
  exact ⟨run,goes.tokens.trans run,goes.index,bound,⟨told,kept.symm⟩,reports,finishes_closed before⟩

end PascalCheck.Checker
