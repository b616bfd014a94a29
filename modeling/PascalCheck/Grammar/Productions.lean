import PascalCheck.Grammar.Checker

namespace PascalCheck.Checker

-- Expression := Term {(+ | - | * | /) Term}; Term := identifier | number
def term (checker : Checker) : Checked :=
  if checker.current = .ident ∨ checker.current = .number then .finished checker.next
  else checker.failHere Problem.operandExpected.code none

theorem left_term_le (checker : Checker) : checker.term.after.left ≤ checker.left := by
  unfold term
  split
  · exact left_next_le checker
  · exact Nat.le_refl _

def atOperator (checker : Checker) : Bool :=
  checker.current == .plus || checker.current == .minus || checker.current == .star || checker.current == .slash

theorem operation_progress (checker : Checker) (more : checker.atOperator = true) :
    checker.next.term.after.left < checker.left := by
  refine Nat.lt_of_le_of_lt (left_term_le _) (left_next_lt fun same => ?_)
  simp [atOperator,same] at more

def operations : Checker → Checked := repeatWhile atOperator (fun checker => checker.next.term) operation_progress

def expression (checker : Checker) : Checked := checker.term.andThen operations

theorem left_expression_le (checker : Checker) : checker.expression.after.left ≤ checker.left :=
  left_andThen_le (left_term_le checker) left_repeatWhile_le

-- Arguments := [Argument {, Argument}] before a closing bracket; Argument := string | Expression
def argument (checker : Checker) : Checked :=
  if checker.current = .string then .finished checker.next else checker.expression

theorem left_argument_le (checker : Checker) : checker.argument.after.left ≤ checker.left := by
  unfold argument
  split
  · exact left_next_le checker
  · exact left_expression_le checker

def atComma (checker : Checker) : Bool := checker.current == .comma

theorem next_of_comma {checker : Checker} (more : checker.atComma = true) : checker.next.left < checker.left :=
  left_next_lt fun same => by simp [atComma,same] at more

def furtherArguments : Checker → Checked :=
  repeatWhile atComma (fun checker => checker.next.argument)
    fun _ more => Nat.lt_of_le_of_lt (left_argument_le _) (next_of_comma more)

def arguments (checker : Checker) : Checked :=
  if checker.current = .rparen then .finished checker else checker.argument.andThen furtherArguments

theorem left_arguments_le (checker : Checker) : checker.arguments.after.left ≤ checker.left := by
  unfold arguments
  split
  · exact Nat.le_refl _
  · exact left_andThen_le (left_argument_le checker) left_repeatWhile_le

-- Statement := (identifier | writeln) [[ number ] | . identifier] [:= Expression | ( Arguments )]
-- A dot that no identifier follows is left to end the program.
def selector (checker : Checker) : Checked :=
  if checker.current = .lbracket then (checker.next.need .number).andThen (need .rbracket)
  else if checker.current = .dot ∧ checker.tokens.following = .ident then .finished checker.next.next
  else .finished checker

theorem left_selector_le (checker : Checker) : checker.selector.after.left ≤ checker.left := by
  unfold selector
  split
  · exact left_andThen_le (Nat.le_trans (left_need_le _ _) (left_next_le _)) (left_need_le _)
  · split
    · exact Nat.le_trans (left_next_le _) (left_next_le _)
    · exact Nat.le_refl _

def action (checker : Checker) : Checked :=
  if checker.current = .assign then checker.next.expression
  else if checker.current = .lparen then checker.next.arguments.andThen (need .rparen)
  else .finished checker

theorem left_action_le (checker : Checker) : checker.action.after.left ≤ checker.left := by
  unfold action
  split
  · exact Nat.le_trans (left_expression_le _) (left_next_le _)
  · split
    · exact left_andThen_le (Nat.le_trans (left_arguments_le _) (left_next_le _)) (left_need_le _)
    · exact Nat.le_refl _

-- Before a semicolon or an end a statement may be empty.
def statement (checker : Checker) : Checked :=
  if checker.current = .semi ∨ checker.current = .endWord then .finished checker
  else if checker.current = .ident ∨ checker.current = .writelnWord then checker.next.selector.andThen action
  else checker.failHere Problem.statementExpected.code none

-- Compound := begin {[Statement] ;} [Statement] end
def separator (checker : Checker) : Checked :=
  if checker.current = .semi then .finished checker.next
  else if checker.current = .endWord ∨ checker.current = .eof then .finished checker
  else checker.failAfter Problem.unexpectedToken.code (some "expected ';' or 'end'")

theorem left_separator_le (checker : Checker) : checker.separator.after.left ≤ checker.left := by
  unfold separator
  split
  · exact left_next_le checker
  · split <;> exact Nat.le_refl _

def statementItem (checker : Checker) : Checked := checker.statement.andThen separator

def inCompound (checker : Checker) : Bool :=
  !(checker.current == .endWord || checker.current == .dot || checker.current == .eof)

theorem statement_progress (checker : Checker) (more : checker.inCompound = true) :
    (recover statementItem checker).after.left < checker.left := by
  simp only [inCompound,Bool.not_eq_true',Bool.or_eq_false_iff,beq_eq_false_iff_ne] at more
  obtain ⟨⟨notEnd,notDot⟩,notEof⟩ := more
  by_cases empty : checker.current = .semi
  · apply left_recover_lt
    simp only [statementItem,statement,empty,true_or,if_true,Outcome.andThen_finished,separator]
    exact left_next_lt notEof
  · by_cases opens : checker.current = .ident ∨ checker.current = .writelnWord
    · apply left_recover_lt
      simp only [statementItem,statement,empty,notEnd,or_self,if_false,opens,if_true]
      exact left_andThen_lt (left_andThen_lt (Nat.lt_of_le_of_lt (left_selector_le _) (left_next_lt notEof))
        left_action_le) left_separator_le
    · have fails : statementItem checker = checker.failHere Problem.statementExpected.code none := by
        simp [statementItem,statement,empty,notEnd,opens,failHere]
      have go : isStop checker.current = false := by simp [isStop,empty,notEnd,notDot]
      have rested : ((checker.reportHere Problem.statementExpected.code none).synchronize isStop).left < checker.left :=
        left_synchronize_lt notEof go
      simpa only [recover,fails,failHere,Outcome.after_finished] using rested

def statements : Checker → Checked := repeatWhile inCompound (recover statementItem) statement_progress

def compoundEnd (checker : Checker) : Checked :=
  if checker.current = .endWord then .finished checker.next
  else .finished (checker.reportAfter Problem.compoundEnd.code none)

def compound (checker : Checker) : Checked := checker.next.statements.andThen compoundEnd

-- Names := identifier {, identifier}
def furtherName (checker : Checker) : Checked :=
  checker.next.expect .ident Problem.unexpectedToken.code (some "expected identifier after ','")

def furtherNames : Checker → Checked :=
  repeatWhile atComma furtherName fun _ more => Nat.lt_of_le_of_lt (left_expect_le _ _ _ _) (next_of_comma more)

def names (checker : Checker) : Checked := (checker.need .ident).andThen furtherNames

def atName (checker : Checker) : Bool := checker.current == .ident

theorem next_of_name {checker : Checker} (more : checker.atName = true) : checker.next.left < checker.left :=
  left_next_lt fun same => by simp [atName,same] at more

theorem left_names_lt {checker : Checker} (more : checker.atName = true) :
    checker.names.after.left < checker.left := by
  have named : checker.current = .ident := by simpa [atName] using more
  refine left_andThen_lt ?_ left_repeatWhile_le
  simp only [need,expect,named,if_true]
  exact next_of_name more

-- Standard := identifier | integer
def isStandard (kind : TokenKind) : Bool := kind == .ident || kind == .integerWord

def standardType (code : Int) (checker : Checker) : Checked :=
  if isStandard checker.current then .finished checker.next else checker.failHere code none

theorem left_standardType_le (code : Int) (checker : Checker) :
    (checker.standardType code).after.left ≤ checker.left := by
  unfold standardType
  split
  · exact left_next_le checker
  · exact Nat.le_refl _

-- Array := array [ number .. number ] of Standard
def arrayType (checker : Checker) : Checked :=
  ((((((checker.next.need .lbracket).andThen (need .number)).andThen (need .dotdot)).andThen
    (need .number)).andThen (need .rbracket)).andThen (need .ofWord)).andThen
    (standardType Problem.standardType.code)

theorem left_arrayType_le (checker : Checker) : checker.arrayType.after.left ≤ checker.left := by
  have opening : (checker.next.need .lbracket).after.left ≤ checker.left :=
    Nat.le_trans (left_need_le _ _) (left_next_le _)
  have bounds := left_andThen_le (left_andThen_le (left_andThen_le opening (left_need_le .number))
    (left_need_le .dotdot)) (left_need_le .number)
  exact left_andThen_le (left_andThen_le (left_andThen_le bounds (left_need_le _)) (left_need_le _))
    (left_standardType_le _)

-- Record := record {Names : Standard ;} end
def fieldItem (checker : Checker) : Checked :=
  ((checker.names.andThen (need .colon)).andThen (standardType Problem.typeExpected.code)).andThen (need .semi)

theorem field_progress (checker : Checker) (more : checker.atName = true) :
    (recover fieldItem checker).after.left < checker.left :=
  left_recover_lt (left_andThen_lt (left_andThen_lt (left_andThen_lt (left_names_lt more) (left_need_le _))
    (left_standardType_le _)) (left_need_le _))

def fields : Checker → Checked := repeatWhile atName (recover fieldItem) field_progress

def recordType (checker : Checker) : Checked :=
  checker.next.fields.andThen (expect .endWord Problem.recordEnd.code none)

theorem left_recordType_le (checker : Checker) : checker.recordType.after.left ≤ checker.left :=
  left_andThen_le (Nat.le_trans (left_repeatWhile_le _) (left_next_le _)) (left_expect_le _ _ _)

-- Type := Array | Record | Standard
def typeSpec (checker : Checker) : Checked :=
  if checker.current = .arrayWord then checker.arrayType
  else if checker.current = .recordWord then checker.recordType
  else checker.standardType Problem.typeExpected.code

theorem left_typeSpec_le (checker : Checker) : checker.typeSpec.after.left ≤ checker.left := by
  unfold typeSpec
  split
  · exact left_arrayType_le checker
  · split
    · exact left_recordType_le checker
    · exact left_standardType_le _ checker

-- Variables := var {Names : Type ;}
def variableItem (checker : Checker) : Checked :=
  ((checker.names.andThen (need .colon)).andThen typeSpec).andThen (need .semi)

theorem variable_progress (checker : Checker) (more : checker.atName = true) :
    (recover variableItem checker).after.left < checker.left :=
  left_recover_lt (left_andThen_lt (left_andThen_lt (left_andThen_lt (left_names_lt more) (left_need_le _))
    left_typeSpec_le) (left_need_le _))

def varSection (checker : Checker) : Checked := repeatWhile atName (recover variableItem) variable_progress checker.next

-- Constants := const {identifier = number ;}
def constantValue (checker : Checker) : Checked :=
  if checker.current = .number then .finished checker.next
  else checker.failHere Problem.constantExpected.code none

theorem left_constantValue_le (checker : Checker) : checker.constantValue.after.left ≤ checker.left := by
  unfold constantValue
  split
  · exact left_next_le checker
  · exact Nat.le_refl _

def constantItem (checker : Checker) : Checked :=
  ((checker.next.need .eq).andThen constantValue).andThen (need .semi)

theorem constant_progress (checker : Checker) (more : checker.atName = true) :
    (recover constantItem checker).after.left < checker.left :=
  left_recover_lt (left_andThen_lt (left_andThen_lt
    (Nat.lt_of_le_of_lt (left_need_le _ _) (next_of_name more)) left_constantValue_le) (left_need_le _))

def constSection (checker : Checker) : Checked := repeatWhile atName (recover constantItem) constant_progress checker.next

-- Sections := {Variables | Constants}
def atSection (checker : Checker) : Bool := checker.current == .varWord || checker.current == .constWord

def declarations (checker : Checker) : Checked :=
  if checker.current = .varWord then checker.varSection else checker.constSection

theorem section_progress (checker : Checker) (more : checker.atSection = true) :
    checker.declarations.after.left < checker.left := by
  have shorter : checker.next.left < checker.left := left_next_lt fun same => by simp [atSection,same] at more
  unfold declarations
  split
  · exact Nat.lt_of_le_of_lt (left_repeatWhile_le checker.next) shorter
  · exact Nat.lt_of_le_of_lt (left_repeatWhile_le checker.next) shorter

def sections : Checker → Checked := repeatWhile atSection declarations section_progress

-- Program := [program identifier ;] Sections Compound .
def title (checker : Checker) : Checked :=
  (checker.expect .ident Problem.programName.code none).andThen (need .semi)

def heading (checker : Checker) : Checked :=
  if checker.current = .programWord then recover title checker.next else .finished checker

def body (checker : Checker) : Checked :=
  if checker.current = .beginWord then checker.compound
  else .finished (checker.reportAfter Problem.beginExpected.code none)

def finalDot (checker : Checker) : Checked :=
  if checker.current = .dot then .finished checker.next
  else .finished (checker.reportAfter Problem.dotExpected.code none)

def program (checker : Checker) : Checked :=
  ((checker.heading.andThen sections).andThen body).andThen finalDot

end PascalCheck.Checker
