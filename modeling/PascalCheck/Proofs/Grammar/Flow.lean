import PascalCheck.Proofs.Grammar.Calls

namespace PascalCheck.Checker

-- A recovery has a loop as well: it goes on to the next stop.
inductive Loop where
  | sections | variableRows | constantRows | fieldRows | statements | names | arguments | operations
  | skipping (stop : TokenKind → Bool)

namespace Loop

def again : Loop → Checker → Bool
  | .sections => atSection
  | .variableRows => atName
  | .constantRows => atName
  | .fieldRows => atName
  | .statements => inCompound
  | .names => atComma
  | .arguments => atComma
  | .operations => atOperator
  | .skipping stop => fun checker => !checker.tokens.atEnd && !stop checker.current

def round : Loop → Checker → Checked
  | .sections => declarations
  | .variableRows => recover variableItem
  | .constantRows => recover constantItem
  | .fieldRows => recover fieldItem
  | .statements => recover statementItem
  | .names => furtherName
  | .arguments => fun checker => checker.next.argument
  | .operations => fun checker => checker.next.term
  | .skipping _ => fun checker => .finished checker.next

-- A token of kind eof that stands in the run is skipped like any other.
theorem skipping_progress {checker : Checker} (inside : checker.tokens.atEnd = false) :
    checker.next.left < checker.left := by
  have more : checker.tokens.rest ≠ [] := by simpa [Tape.atEnd] using inside
  have some := List.length_pos_iff.mpr more
  rw [left,left,next,Tape.rest_forward,List.length_tail]
  omega

theorem left_round_lt (loop : Loop) (checker : Checker) (more : loop.again checker = true) :
    (loop.round checker).after.left < checker.left := by
  cases loop with
  | sections => exact section_progress checker more
  | variableRows => exact variable_progress checker more
  | constantRows => exact constant_progress checker more
  | fieldRows => exact field_progress checker more
  | statements => exact statement_progress checker more
  | names => exact Nat.lt_of_le_of_lt (left_expect_le _ _ _ _) (next_of_comma more)
  | arguments => exact Nat.lt_of_le_of_lt (left_argument_le _) (next_of_comma more)
  | operations => exact operation_progress checker more
  | skipping stop =>
    rw [again,Bool.and_eq_true,Bool.not_eq_true'] at more
    exact skipping_progress more.1

def run (loop : Loop) : Checker → Checked := repeatWhile loop.again loop.round loop.left_round_lt

theorem proceeds_round (loop : Loop) : Proceeds loop.round := by
  cases loop with
  | sections => exact proceeds_declarations
  | variableRows => exact proceeds_variableItem.recover
  | constantRows => exact proceeds_constantItem.recover
  | fieldRows => exact proceeds_fieldItem.recover
  | statements => exact proceeds_statementItem.recover
  | names => exact proceeds_furtherName
  | arguments => exact proceeds_argument.next
  | operations => exact proceeds_term.next
  | skipping _ => exact proceeds_next

theorem index_round_lt (loop : Loop) (checker : Checker) (more : loop.again checker = true) :
    checker.tokens.index < (loop.round checker).after.tokens.index := by
  have shorter := loop.left_round_lt checker more
  have before := checker.tokens.index_add_rest
  have after := (loop.round checker).after.tokens.index_add_rest
  rw [(loop.proceeds_round checker).tokens] at after
  simp only [left] at shorter
  omega

-- The loops that a round runs have lower ranks than its own loop.
def rank : Loop → Nat
  | .skipping _ => 0
  | .operations => 1
  | .names => 2
  | .arguments => 3
  | .fieldRows => 4
  | .statements => 5
  | .constantRows => 6
  | .variableRows => 7
  | .sections => 8

end Loop

def land (skipped : Nat) (rested : Checker) : Checker :=
  let noted : Checker := { rested with journal := rested.journal.push (.recovered skipped) }
  if noted.current = .semi then noted.next else noted

def resume (stop : TokenKind → Bool) (checker : Checker) : Checked :=
  ((Loop.skipping stop).run checker).andThen fun rested =>
    .finished (rested.land (rested.tokens.index - checker.tokens.index))

theorem skipTo_here {stop : TokenKind → Bool} {checker : Checker}
    (done : (Loop.skipping stop).again checker = false) : checker.tokens.skipTo stop = checker.tokens := by
  rcases checker with ⟨⟨passed,_ | ⟨token,rest⟩⟩,sink,journal⟩
  · rfl
  · have stops : stop token.kind = true := by simpa [Loop.again,Tape.atEnd,current,TokenStream.current] using done
    simp [TokenStream.skipTo,TokenStream.before,stops]

theorem skipTo_next {stop : TokenKind → Bool} {checker : Checker}
    (more : (Loop.skipping stop).again checker = true) :
    checker.next.tokens.skipTo stop = checker.tokens.skipTo stop := by
  rcases checker with ⟨⟨passed,_ | ⟨token,rest⟩⟩,sink,journal⟩
  · cases more
  · have goes : stop token.kind = false := by simpa [Loop.again,Tape.atEnd,current,TokenStream.current] using more
    simp [next,Tape.forward,TokenStream.skipTo,TokenStream.before,goes]

theorem run_skipping (stop : TokenKind → Bool) (checker : Checker) :
    (Loop.skipping stop).run checker = .finished { checker with tokens := checker.tokens.skipTo stop } := by
  by_cases more : (Loop.skipping stop).again checker = true
  · have shorter := (Loop.skipping stop).left_round_lt checker more
    have onward := run_skipping stop checker.next
    rw [skipTo_next more] at onward
    rw [Loop.run,repeatWhile_round more]
    exact onward
  · rw [Loop.run,repeatWhile_done (by simpa using more),skipTo_here (by simpa using more)]
termination_by checker.left

theorem resume_eq (stop : TokenKind → Bool) (checker : Checker) :
    resume stop checker = .finished (checker.synchronize stop) := by
  have skipped : (checker.tokens.skipTo stop).index - checker.tokens.index = (checker.tokens.before stop).length := by
    simp [TokenStream.skipTo,Tape.index]
  rw [resume,run_skipping,Outcome.andThen_finished,skipped]
  rfl

inductive Act where
  | stay | next
  | expect (kind : TokenKind) (code : Int) (message : Option String)
  | reportAfter (code : Int) (message : Option String)
  | reportHere (code : Int) (message : Option String)
  | failAfter (code : Int) (message : Option String)
  | failHere (code : Int) (message : Option String)

def Act.run : Act → Checker → Checked
  | .stay => .finished
  | .next => fun checker => .finished checker.next
  | .expect kind code message => Checker.expect kind code message
  | .reportAfter code message => fun checker => .finished (checker.reportAfter code message)
  | .reportHere code message => fun checker => .finished (checker.reportHere code message)
  | .failAfter code message => Checker.failAfter code message
  | .failHere code message => Checker.failHere code message

inductive Flow where
  | act (deed : Act)
  | seq (first second : Flow)
  | choose (test : Checker → Prop) [decides : DecidablePred test] (first second : Flow)
  | loop (rounds : Loop)
  | synchronize (stop : TokenKind → Bool)
  | recover (construct : Flow)

namespace Flow

def run : Flow → Checker → Checked
  | .act deed,checker => deed.run checker
  | .seq first second,checker => (first.run checker).andThen second.run
  | @choose test _ first second,checker => if test checker then first.run checker else second.run checker
  | .loop rounds,checker => rounds.run checker
  | .synchronize stop,checker => resume stop checker
  | .recover construct,checker =>
    match construct.run checker with
    | .finished state => .finished state
    | .stopped _ state => resume isStop state

theorem run_recover (construct : Flow) : (recover construct).run = Checker.recover construct.run := by
  funext checker
  simp only [run,Checker.recover]
  cases construct.run checker with
  | finished state => rfl
  | stopped cause state => exact resume_eq isStop state

def next : Flow := .act .next

def stay : Flow := .act .stay

def need (kind : TokenKind) : Flow := .act (.expect kind Problem.unexpectedToken.code none)

def term : Flow :=
  .choose (fun checker => checker.current = .ident ∨ checker.current = .number) next
    (.act (.failHere Problem.operandExpected.code none))

def expression : Flow := term.seq (.loop .operations)

def argument : Flow := .choose (fun checker => checker.current = .string) next expression

def arguments : Flow :=
  .choose (fun checker => checker.current = .rparen) stay (argument.seq (.loop .arguments))

def selector : Flow :=
  .choose (fun checker => checker.current = .lbracket) ((next.seq (need .number)).seq (need .rbracket))
    (.choose (fun checker => checker.current = .dot ∧ checker.tokens.following = .ident) (next.seq next) stay)

def action : Flow :=
  .choose (fun checker => checker.current = .assign) (next.seq expression)
    (.choose (fun checker => checker.current = .lparen) ((next.seq arguments).seq (need .rparen)) stay)

def statement : Flow :=
  .choose (fun checker => checker.current = .semi ∨ checker.current = .endWord) stay
    (.choose (fun checker => checker.current = .ident ∨ checker.current = .writelnWord)
      ((next.seq selector).seq action) (.act (.failHere Problem.statementExpected.code none)))

def separator : Flow :=
  .choose (fun checker => checker.current = .semi) next
    (.choose (fun checker => checker.current = .endWord ∨ checker.current = .eof) stay
      (.act (.failAfter Problem.unexpectedToken.code (some "expected ';' or 'end'"))))

def compound : Flow :=
  (next.seq (.loop .statements)).seq
    (.choose (fun checker => checker.current = .endWord) next (.act (.reportAfter Problem.compoundEnd.code none)))

def names : Flow := (need .ident).seq (.loop .names)

def standardType (code : Int) : Flow :=
  .choose (fun checker => isStandard checker.current = true) next (.act (.failHere code none))

def arrayType : Flow :=
  ((((((next.seq (need .lbracket)).seq (need .number)).seq (need .dotdot)).seq (need .number)).seq
    (need .rbracket)).seq (need .ofWord)).seq (standardType Problem.standardType.code)

def recordType : Flow :=
  (next.seq (.loop .fieldRows)).seq (.act (.expect .endWord Problem.recordEnd.code none))

def typeSpec : Flow :=
  .choose (fun checker => checker.current = .arrayWord) arrayType
    (.choose (fun checker => checker.current = .recordWord) recordType (standardType Problem.typeExpected.code))

def constantValue : Flow :=
  .choose (fun checker => checker.current = .number) next (.act (.failHere Problem.constantExpected.code none))

def varSection : Flow := next.seq (.loop .variableRows)

def constSection : Flow := next.seq (.loop .constantRows)

def title : Flow := .seq (.act (.expect .ident Problem.programName.code none)) (need .semi)

def heading : Flow := .choose (fun checker => checker.current = .programWord) (next.seq (.recover title)) stay

def body : Flow :=
  .choose (fun checker => checker.current = .beginWord) compound
    (.act (.reportAfter Problem.beginExpected.code none))

def finalDot : Flow :=
  .choose (fun checker => checker.current = .dot) next (.act (.reportAfter Problem.dotExpected.code none))

def program : Flow := ((heading.seq (.loop .sections)).seq body).seq finalDot

theorem run_heading : heading.run = Checker.heading := by
  funext checker
  change (if checker.current = .programWord then (Flow.recover title).run checker.next else .finished checker) = _
  rw [run_recover]
  rfl

theorem run_program : program.run = Checker.program := by
  funext checker
  simp only [program,run,run_heading]
  rfl

end Flow

def Loop.flow : Loop → Flow
  | .sections => .choose (fun checker => checker.current = .varWord) .varSection .constSection
  | .variableRows => .recover (((Flow.names.seq (.need .colon)).seq .typeSpec).seq (.need .semi))
  | .constantRows => .recover (((Flow.next.seq (.need .eq)).seq .constantValue).seq (.need .semi))
  | .fieldRows =>
    .recover (((Flow.names.seq (.need .colon)).seq (.standardType Problem.typeExpected.code)).seq (.need .semi))
  | .statements => .recover (Flow.statement.seq .separator)
  | .names => Flow.next.seq (.act (.expect .ident Problem.unexpectedToken.code (some "expected identifier after ','")))
  | .arguments => Flow.next.seq .argument
  | .operations => Flow.next.seq .term
  | .skipping _ => .next

theorem Loop.run_flow (loop : Loop) : loop.flow.run = loop.round := by
  cases loop with
  | variableRows => exact Flow.run_recover _
  | constantRows => exact Flow.run_recover _
  | fieldRows => exact Flow.run_recover _
  | statements => exact Flow.run_recover _
  | _ => rfl

def Call.flow : Call → Flow
  | .program => .program
  | .varSection => .varSection
  | .constSection => .constSection
  | .names => .names
  | .typeSpec => .typeSpec
  | .arrayType => .arrayType
  | .recordType => .recordType
  | .compound => .compound
  | .statement => .statement
  | .arguments => .arguments
  | .argument => .argument
  | .expression => .expression
  | .term => .term
  | .next => .next
  | .standardType code => .standardType code
  | .reportAfter code message => .act (.reportAfter code message)
  | .reportHere code message => .act (.reportHere code message)
  | .failHere code message => .act (.failHere code message)
  | .expect kind code message => .act (.expect kind code message)
  | .synchronize stop => .synchronize stop

theorem Call.run_flow (call : Call) : call.flow.run = call.run := by
  cases call with
  | program => exact Flow.run_program
  | synchronize stop => exact funext (resume_eq stop)
  | _ => rfl

theorem Flow.proceeds_run (flow : Flow) : Proceeds flow.run := by
  induction flow with
  | act deed =>
    cases deed with
    | stay => exact Proceeds.finished
    | next => exact proceeds_next
    | expect kind code message => exact proceeds_expect kind code message
    | reportAfter code message => exact later_reportAfter code message
    | reportHere code message => exact later_reportHere code message
    | failAfter code message => exact proceeds_failAfter code message
    | failHere code message => exact proceeds_failHere code message
  | seq first second here there => exact here.andThen there
  | choose test first second here there => exact here.choice there
  | loop rounds => exact rounds.proceeds_round.repeatWhile
  | synchronize stop =>
    rw [show (synchronize stop).run = _ from funext (resume_eq stop)]
    exact later_synchronize stop
  | recover construct here =>
    rw [run_recover]
    exact here.recover

end PascalCheck.Checker
