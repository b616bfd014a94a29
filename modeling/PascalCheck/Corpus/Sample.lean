import PascalCheck.Corpus.Draw
import PascalCheck.Text.Letter
import PascalCheck.Token.Kind

namespace PascalCheck.Corpus

abbrev Word := List Char

inductive Operand where
  | name (word : Word)
  | number (value : Nat)

structure Expression where
  first : Operand
  others : List (Char × Operand)

inductive Argument where
  | text (body : Word)
  | value (expression : Expression)

inductive Target where
  | whole (name : Word)
  | item (name : Word) (index : Nat)
  | field (name part : Word)

inductive Statement where
  | write (arguments : List Argument)
  | assign (target : Target) (value : Expression)

inductive TypeText where
  | array (least greatest : Nat) (item : Word)
  | record (fields : List (Word × Word))
  | standard (name : Word)

inductive Declarations where
  | constantPart (rows : List (Word × Nat))
  | variablePart (rows : List (List Word × TypeText))

inductive Remark where
  | braced (body : Word)
  | starred (body : Word)

-- closed: the last statement has a semicolon behind it, too.
structure Sample where
  title : Option Word
  declarations : List Declarations
  remark : Option Remark
  statements : List Statement
  closed : Bool

namespace Draw

def smallLetters : List Char := (List.range 26).map fun i => Char.ofNat ('a'.toNat + i)

def letters : List Char := smallLetters ++ (List.range 26).map fun i => Char.ofNat ('A'.toNat + i)

def digits : List Char := (List.range 10).map fun i => Char.ofNat ('0'.toNat + i)

def letterOrDigit : Draw Char := pick (letters ++ digits) (by decide)

def letterOrSpace : Draw Char := pick (letters ++ [' ']) (by decide)

-- A reserved word is made a name by one more letter.
def freed (word : Word) : Word := if (TokenKind.reserved? (word.map Text.lowered)).isSome then word ++ ['x'] else word

def name : Draw Word := do
  let head ← pick letters (by decide)
  let count ← between 0 8
  let tail ← times count letterOrDigit
  return freed (head :: tail)

def number : Draw Nat := between 0 32767

def phrase (most : Nat) : Draw Word := (between 0 most).andThen fun count => times count letterOrSpace

def remark : Draw Remark := do
  let body ← phrase 16
  pick [.braced body,.starred body] (by simp)

def standardName : Draw Word :=
  pick ["integer".toList,"real".toList,"boolean".toList,"char".toList] (by simp)

def arrayText : Draw TypeText := do
  let least ← between 0 10
  let span ← between 0 100
  let item ← standardName
  return .array least (least + span) item

def fieldText : Draw (Word × Word) := do
  let field ← name
  let kind ← standardName
  return (field,kind)

def recordText : Draw TypeText := do
  let count ← between 0 3
  let fields ← times count fieldText
  return .record fields

def typeText : Draw TypeText :=
  someFraction.andThen fun drawn =>
    if isWithin 20 drawn then arrayText
    else if isWithin 35 drawn then recordText
    else standardName.andThen fun kind => .give (.standard kind)

def operand : Draw Operand := do
  let named ← pick [true,false] (by simp)
  if named then name.andThen fun word => .give (.name word)
  else number.andThen fun value => .give (.number value)

-- All operands are drawn before the first operator.
def expression : Draw Expression := do
  let more ← between 0 3
  let first ← operand
  let operands ← times more operand
  let operators ← times more (pick ['+','-','*','/'] (by simp))
  return ⟨first,operators.zip operands⟩

def argument : Draw Argument := do
  let quoted ← chance 50
  if quoted then (phrase 10).andThen fun body => .give (.text body)
  else expression.andThen fun value => .give (.value value)

def writeStatement : Draw Statement := do
  let count ← between 0 3
  let arguments ← times count argument
  return .write arguments

def target (drawn : Fin (1 <<< 53)) : Draw Target := do
  let word ← name
  if isWithin 35 drawn then number.andThen fun index => .give (.item word index)
  else if isWithin 50 drawn then name.andThen fun part => .give (.field word part)
  else .give (.whole word)

def assignment (drawn : Fin (1 <<< 53)) : Draw Statement := do
  let place ← target drawn
  let value ← expression
  return .assign place value

def statement : Draw Statement :=
  someFraction.andThen fun drawn => if isWithin 20 drawn then writeStatement else assignment drawn

def constantRow : Draw (Word × Nat) := do
  let word ← name
  let value ← number
  return (word,value)

def variableRow : Draw (List Word × TypeText) := do
  let count ← between 1 3
  let words ← times count name
  let kind ← typeText
  return (words,kind)

def constantPart : Draw Declarations := do
  let count ← between 1 3
  let rows ← times count constantRow
  return .constantPart rows

def variablePart : Draw Declarations := do
  let count ← between 1 4
  let rows ← times count variableRow
  return .variablePart rows

def declarations : Draw Declarations := (chance 50).andThen fun fixed => if fixed then constantPart else variablePart

def maybe (hundredths : Nat) (part : Draw α) : Draw (Option α) :=
  (chance hundredths).andThen fun there => if there then part.andThen fun made => .give (some made) else .give none

def sample : Draw Sample := do
  let title ← maybe 80 name
  let sections ← between 0 3
  let parts ← times sections declarations
  let note ← maybe 30 remark
  let count ← between 0 6
  let statements ← times count statement
  let closed ← if statements.isEmpty then .give false else chance 50
  return ⟨title,parts,note,statements,closed⟩

end Draw

def decimal (value : Nat) : Word := (toString value).toList

def separated (between : Word) : List Word → Word
  | [] => []
  | [text] => text
  | text :: others => text ++ between ++ separated between others

namespace Operand

def text : Operand → Word
  | .name word => word
  | .number value => decimal value

end Operand

namespace Expression

def text (expression : Expression) : Word :=
  expression.first.text ++ expression.others.flatMap fun part => ' ' :: part.1 :: ' ' :: part.2.text

end Expression

namespace Argument

def asText : Argument → Word
  | .text body => '\'' :: body ++ ['\'']
  | .value expression => expression.text

end Argument

namespace Target

def text : Target → Word
  | .whole name => name
  | .item name index => name ++ '[' :: decimal index ++ [']']
  | .field name part => name ++ '.' :: part

end Target

namespace Statement

def text : Statement → Word
  | .write arguments => "writeln(".toList ++ separated [',',' '] (arguments.map Argument.asText) ++ [')']
  | .assign target value => target.text ++ " := ".toList ++ value.text

end Statement

namespace TypeText

def text : TypeText → Word
  | .array least greatest item =>
    "array [".toList ++ decimal least ++ "..".toList ++ decimal greatest ++ "] of ".toList ++ item
  | .record fields =>
    "record ".toList ++ separated [' '] (fields.map fun field => field.1 ++ ": ".toList ++ field.2 ++ [';']) ++
      " end".toList
  | .standard name => name

end TypeText

def indented (row : Word) : Word := ' ' :: ' ' :: row

namespace Declarations

def rows : Declarations → List Word
  | .constantPart rows =>
    "const".toList :: rows.map fun row => indented (row.1 ++ " = ".toList ++ decimal row.2 ++ [';'])
  | .variablePart rows =>
    "var".toList :: rows.map fun row => indented (separated [',',' '] row.1 ++ ": ".toList ++ row.2.text ++ [';'])

end Declarations

namespace Remark

def text : Remark → Word
  | .braced body => '\x7b' :: body ++ ['\x7d']
  | .starred body => '(' :: '*' :: body ++ ['*',')']

end Remark

namespace Sample

-- A statement is closed if another one follows.
def statementRows (closed : Bool) : List Statement → List Word
  | [] => []
  | [last] => [indented (last.text ++ if closed then [';'] else [])]
  | statement :: others => indented (statement.text ++ [';']) :: statementRows closed others

def rows (sample : Sample) : List Word :=
  (sample.title.toList.map fun name => "program ".toList ++ name ++ [';']) ++
    sample.declarations.flatMap Declarations.rows ++
    sample.remark.toList.map Remark.text ++
    ["begin".toList] ++ statementRows sample.closed sample.statements ++ ["end.".toList]

def text (sample : Sample) : Word := sample.rows.flatMap (· ++ ['\n'])

end Sample

def samplesFrom : Nat → Twister → List Sample
  | 0,_ => []
  | count + 1,twister =>
    let drawn := Draw.sample.run twister
    drawn.1 :: samplesFrom count drawn.2

def samples (seed : Int) (count : Nat) : List Sample := samplesFrom count (.ofSeed seed)

end PascalCheck.Corpus
