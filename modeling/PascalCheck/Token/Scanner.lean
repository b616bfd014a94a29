import PascalCheck.Outcome
import PascalCheck.Source.Cursor
import PascalCheck.Text.Letter
import PascalCheck.Text.Numeral
import PascalCheck.Text.Quoted
import PascalCheck.Token.Basic

namespace PascalCheck

structure Scanner where
  cursor : Cursor
  tokens : Array Token := #[]
deriving DecidableEq, Repr

namespace Scanner

-- What cuts a step short: no digit where a number was to be read, more digits than a number may
-- have, or a comment whose closer is empty.
inductive Fault where
  | noDigits
  | tooManyDigits (count : Nat)
  | noCloser
deriving DecidableEq, Repr

def Fault.message : Fault → String
  | .noDigits => "invalid literal for int() with base 10: ''"
  | .tooManyDigits count => "Exceeds the limit (" ++ toString Text.maxDigits ++
      " digits) for integer string conversion: value has " ++ toString count ++
      " digits; use sys.set_int_max_str_digits() to increase the limit"
  | .noCloser => Cursor.outOfReach

-- Greater numbers are reported; those beyond the second bound are no tokens either.
def greatestPlain : Nat := 32767

def greatestKept : Nat := 2147483647

def ofText (chars : List Char) : Scanner := { cursor := .ofText chars }

def rest (scanner : Scanner) : List Char := scanner.cursor.rest

def tokenList (scanner : Scanner) : List Token := scanner.tokens.toList

def advanceBy (scanner : Scanner) (count : Nat) : Scanner :=
  { scanner with cursor := scanner.cursor.advanceBy count }

def emit (scanner : Scanner) (kind : TokenKind) (place : Position) : Scanner :=
  { scanner with tokens := scanner.tokens.push ⟨kind,place⟩ }

def report (scanner : Scanner) (problem : Problem) (place : Position) (message : Option String) : Scanner :=
  { scanner with cursor := scanner.cursor.report problem.code place message }

-- What precedes the first place where the closer stands. A closer is known by its first two
-- characters; past the end stands the end mark.
def beforeCloser (first : Char) (second : Option Char) : List Char → List Char
  | [] => []
  | c :: rest =>
    if c = first ∧ second.all (· == rest.headD Cursor.endMark) then []
    else c :: beforeCloser first second rest

def openerSize (closer : List Char) : Nat := if closer = ['*',')'] then 2 else 1

def comment (closer : List Char) (scanner : Scanner) : Outcome Fault Scanner :=
  let place := scanner.cursor.position
  let opened := scanner.advanceBy (openerSize closer)
  match closer with
  | [] =>
    if opened.rest.isEmpty then .finished (opened.report .unterminatedComment place none)
    else .stopped .noCloser opened
  | first :: others =>
    let closing := opened.advanceBy (beforeCloser first others.head? opened.rest).length
    if closing.rest.isEmpty then .finished (closing.report .unterminatedComment place none)
    else .finished (closing.advanceBy closer.length)

def number (scanner : Scanner) : Outcome Fault Scanner :=
  let place := scanner.cursor.position
  let digits := scanner.rest.takeWhile Text.isDigit
  let passed := scanner.advanceBy digits.length
  if digits.isEmpty then .stopped .noDigits passed
  else if Text.maxDigits < digits.length then .stopped (.tooManyDigits digits.length) passed
  else
    let value := Text.valueOf (digits.map fun c => c.toNat - '0'.toNat)
    let told := if greatestPlain < value then passed.report .numberOutOfRange place none else passed
    .finished (if greatestKept < value then told else told.emit .number place)

def wordKind (word : List Char) : TokenKind := (TokenKind.reserved? (word.map Text.lowered)).getD .ident

def word (scanner : Scanner) : Outcome Fault Scanner :=
  let place := scanner.cursor.position
  let chars := scanner.rest.takeWhile Text.isWordChar
  .finished ((scanner.advanceBy chars.length).emit (wordKind chars) place)

-- From the opening quote to the next one on the line. Without one the string ends with the line,
-- and is a token all the same.
def string (scanner : Scanner) : Outcome Fault Scanner :=
  let place := scanner.cursor.position
  let opened := scanner.advanceBy 1
  let body := opened.rest.takeWhile fun c => c != '\'' && c != '\n'
  let closing := opened.advanceBy body.length
  if closing.rest.head? = some '\'' then .finished ((closing.advanceBy 1).emit .string place)
  else .finished ((closing.report .unterminatedString place none).emit .string place)

-- A mark of two characters goes before one of one.
def mark (scanner : Scanner) : Outcome Fault Scanner :=
  let place := scanner.cursor.position
  let first := scanner.cursor.char
  match TokenKind.mark? [first,scanner.cursor.next] with
  | some kind => .finished ((scanner.advanceBy 2).emit kind place)
  | none =>
    let passed := scanner.advanceBy 1
    match TokenKind.mark? [first] with
    | some kind => .finished (passed.emit kind place)
    | none =>
      let message := "invalid character " ++ Text.quoted (String.singleton first)
      .finished (passed.report .invalidCharacter place (some message))

def step (scanner : Scanner) : Outcome Fault Scanner :=
  let c := scanner.cursor.char
  if Text.isBlank c then .finished (scanner.advanceBy 1)
  else if c = '\x7b' then scanner.comment ['\x7d']
  else if c = '(' then
    if scanner.cursor.next = '*' then scanner.comment ['*',')']
    else .finished ((scanner.emit .lparen scanner.cursor.position).advanceBy 1)
  else if Text.isDigit c then scanner.number
  else if Text.isLetter c then scanner.word
  else if c = '\'' then scanner.string
  else scanner.mark

@[simp] theorem rest_advanceBy (scanner : Scanner) (count : Nat) :
    (scanner.advanceBy count).rest = scanner.rest.drop count := Cursor.rest_advanceBy _ _

@[simp] theorem rest_emit (scanner : Scanner) (kind : TokenKind) (place : Position) :
    (scanner.emit kind place).rest = scanner.rest := rfl

@[simp] theorem rest_report (scanner : Scanner) (problem : Problem) (place : Position) (message : Option String) :
    (scanner.report problem place message).rest = scanner.rest := rfl

theorem drop_takeWhile (p : α → Bool) (items : List α) :
    items.drop (items.takeWhile p).length = items.dropWhile p := by
  induction items with
  | nil => rfl
  | cons item rest ih =>
    rw [List.takeWhile_cons,List.dropWhile_cons]
    cases p item <;> simp [ih]

theorem rest_number (scanner : Scanner) : scanner.number.after.rest = scanner.rest.dropWhile Text.isDigit := by
  simp only [number]
  split
  · simp [drop_takeWhile]
  · split
    · simp [drop_takeWhile]
    · rw [Outcome.after_finished]
      split <;> split <;> simp [drop_takeWhile]

theorem rest_word (scanner : Scanner) : scanner.word.after.rest = scanner.rest.dropWhile Text.isWordChar := by
  simp [word,drop_takeWhile]

theorem rest_comment_le (closer : List Char) (scanner : Scanner) :
    (scanner.comment closer).after.rest.length ≤ (scanner.rest.drop 1).length := by
  have opener : 1 ≤ openerSize closer := by unfold openerSize; split <;> omega
  simp only [comment]
  split <;> split <;>
    simp only [Outcome.after_finished,Outcome.after_stopped,rest_report,rest_advanceBy,List.length_drop] <;> omega

theorem rest_string_le (scanner : Scanner) : scanner.string.after.rest.length ≤ (scanner.rest.drop 1).length := by
  simp only [string]
  split <;> simp <;> omega

theorem rest_mark_le (scanner : Scanner) : scanner.mark.after.rest.length ≤ (scanner.rest.drop 1).length := by
  simp only [mark]
  split
  · simp; omega
  · split <;> simp

theorem dropWhile_shorter {p : α → Bool} {head : α} {rest : List α} (taken : p head = true) :
    ((head :: rest).dropWhile p).length < (head :: rest).length := by
  have := (List.dropWhile_sublist p (l := rest)).length_le
  simp only [List.dropWhile_cons,taken,if_true,List.length_cons]
  omega

-- However a step ends, it has passed the character it stood on.
theorem step_shorter (scanner : Scanner) (more : scanner.rest ≠ []) :
    scanner.step.after.rest.length < scanner.rest.length := by
  obtain ⟨c,rest,same⟩ := List.exists_cons_of_ne_nil more
  have here : scanner.cursor.char = c := Cursor.char_of_rest same
  have tail : (scanner.rest.drop 1).length < scanner.rest.length := by simp [same]
  simp only [step,here]
  split
  · simpa using tail
  split
  · exact Nat.lt_of_le_of_lt (rest_comment_le _ _) tail
  split
  · split
    · exact Nat.lt_of_le_of_lt (rest_comment_le _ _) tail
    · simpa using tail
  split
  · rename_i digit
    rw [rest_number,same]
    exact dropWhile_shorter digit
  split
  · rename_i letter
    rw [rest_word,same]
    exact dropWhile_shorter (by simp [Text.isWordChar,letter])
  split
  · exact Nat.lt_of_le_of_lt (rest_string_le _) tail
  · exact Nat.lt_of_le_of_lt (rest_mark_le _) tail

def scan (scanner : Scanner) : Outcome Fault Scanner :=
  if _ : scanner.rest = [] then .finished scanner
  else
    match _ : scanner.step with
    | .finished state => state.scan
    | .stopped fault state => .stopped fault state
termination_by scanner.rest.length
decreasing_by
  have shorter := step_shorter scanner ‹_›
  rwa [‹scanner.step = _›] at shorter

theorem scan_at_end (scanner : Scanner) (done : scanner.rest = []) : scanner.scan = .finished scanner := by
  rw [scan,dif_pos done]

theorem scan_step (scanner : Scanner) (more : scanner.rest ≠ []) : scanner.scan = scanner.step.andThen scan := by
  rw [scan,dif_neg more]
  cases scanner.step <;> rfl

end Scanner

def tokenize (chars : List Char) : Except Scanner.Fault (List Token × Sink) :=
  match (Scanner.ofText chars).scan with
  | .finished scanner => .ok (scanner.tokenList,scanner.cursor.sink)
  | .stopped fault _ => .error fault

end PascalCheck
