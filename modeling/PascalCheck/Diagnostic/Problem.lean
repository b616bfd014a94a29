namespace PascalCheck

inductive Problem where
  | numberOutOfRange | unterminatedString | invalidCharacter | unterminatedComment
  | programName | beginExpected | dotExpected | unexpectedToken | typeExpected
  | standardType | recordEnd | compoundEnd | operandExpected | statementExpected | constantExpected
deriving DecidableEq, Repr

namespace Problem

def all : List Problem := [
  .numberOutOfRange,.unterminatedString,.invalidCharacter,.unterminatedComment,
  .programName,.beginExpected,.dotExpected,.unexpectedToken,.typeExpected,
  .standardType,.recordEnd,.compoundEnd,.operandExpected,.statementExpected,.constantExpected
]

-- Codes from 201 tell of values, from 301 of characters, from 401 of the order of tokens.
def code : Problem → Int
  | .numberOutOfRange => 203
  | .unterminatedString => 301
  | .invalidCharacter => 302
  | .unterminatedComment => 304
  | .programName => 401
  | .beginExpected => 402
  | .dotExpected => 403
  | .unexpectedToken => 404
  | .typeExpected => 405
  | .standardType => 406
  | .recordEnd => 407
  | .compoundEnd => 408
  | .operandExpected => 409
  | .statementExpected => 410
  | .constantExpected => 411

def message : Problem → String
  | .numberOutOfRange => "integer constant out of range"
  | .unterminatedString => "unterminated string literal"
  | .invalidCharacter => "invalid character"
  | .unterminatedComment => "unterminated comment"
  | .programName => "program name expected"
  | .beginExpected => "'begin' expected"
  | .dotExpected => "'.' expected"
  | .unexpectedToken => "unexpected token"
  | .typeExpected => "type expected"
  | .standardType => "standard type expected"
  | .recordEnd => "'end' of record expected"
  | .compoundEnd => "'end' of compound statement expected"
  | .operandExpected => "identifier or number expected"
  | .statementExpected => "statement expected"
  | .constantExpected => "constant expected"

def ofCode? (code : Int) : Option Problem := all.find? fun problem => problem.code == code

def messageOf (code : Int) : String :=
  match ofCode? code with
  | some problem => problem.message
  | none => "unknown error"

theorem ofCode_code (problem : Problem) : ofCode? problem.code = some problem := by cases problem <;> decide

theorem messageOf_code (problem : Problem) : messageOf problem.code = problem.message := by
  simp [messageOf,ofCode_code]

end Problem

end PascalCheck
