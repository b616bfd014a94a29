import PascalCheck.Diagnostic.Sink
import PascalCheck.Tape
import PascalCheck.Text.Line

namespace PascalCheck

-- line and column are those of the current character, last is the place of the one passed last.
structure Cursor where
  tape : Tape Char
  line : Nat := 0
  column : Nat := 0
  last : Position := .start
  sink : Sink := {}
deriving DecidableEq, Repr

namespace Cursor

-- What is seen past the end of every text. The same character may also stand inside one.
def endMark : Char := '\x00'

def outOfReach : String := "string index out of range"

def ofText (chars : List Char) : Cursor := { tape := .ofList (Text.normalize chars) }

def rest (cursor : Cursor) : List Char := cursor.tape.rest

def offset (cursor : Cursor) : Nat := cursor.tape.index

def atEnd (cursor : Cursor) : Bool := cursor.tape.atEnd

def lines (cursor : Cursor) : List String := (Text.lines cursor.tape.toList).map String.ofList

def position (cursor : Cursor) : Position := ⟨cursor.line,cursor.column⟩

def char (cursor : Cursor) : Char := cursor.rest.headD endMark

def next (cursor : Cursor) : Char := cursor.rest.tail.headD endMark

def advance (cursor : Cursor) : Cursor :=
  match cursor.rest with
  | [] => cursor
  | c :: _ => { cursor with
      tape := cursor.tape.forward
      line := if c = '\n' then cursor.line + 1 else cursor.line
      column := if c = '\n' then 0 else cursor.column + 1
      last := cursor.position }

def advanceBy : Cursor → Nat → Cursor
  | cursor,0 => cursor
  | cursor,count + 1 => cursor.advance.advanceBy count

-- Where a report goes that names no place: to the current character, or to the last one at the end.
def reportPlace (cursor : Cursor) : Position := if cursor.atEnd then cursor.last else cursor.position

def report (cursor : Cursor) (code : Int) (place : Position) (message : Option String) : Cursor :=
  { cursor with sink := cursor.sink.report code place message }

def tell (cursor : Cursor) (code : Int) (place : Option Position) (message : Option String) : Cursor :=
  cursor.report code (place.getD cursor.reportPlace) message

theorem char_of_rest {cursor : Cursor} {c : Char} {others : List Char} (ahead : cursor.rest = c :: others) :
    cursor.char = c := by
  rw [char,ahead]
  rfl

theorem next_of_rest {cursor : Cursor} {c : Char} {others : List Char} (ahead : cursor.rest = c :: others) :
    cursor.next = others.headD endMark := by
  rw [next,ahead]
  rfl

@[simp] theorem tape_advance (cursor : Cursor) : cursor.advance.tape = cursor.tape.forward := by
  rcases cursor with ⟨⟨passed,_ | ⟨c,rest⟩⟩,line,column,last,sink⟩ <;> rfl

@[simp] theorem sink_advance (cursor : Cursor) : cursor.advance.sink = cursor.sink := by
  rcases cursor with ⟨⟨passed,_ | ⟨c,rest⟩⟩,line,column,last,sink⟩ <;> rfl

@[simp] theorem rest_advance (cursor : Cursor) : cursor.advance.rest = cursor.rest.tail := by
  simp [rest,Tape.rest_forward]

@[simp] theorem rest_advanceBy (cursor : Cursor) (count : Nat) :
    (cursor.advanceBy count).rest = cursor.rest.drop count := by
  induction count generalizing cursor with
  | zero => rfl
  | succ count ih => rw [advanceBy,ih,rest_advance,List.drop_tail]

@[simp] theorem sink_advanceBy (cursor : Cursor) (count : Nat) : (cursor.advanceBy count).sink = cursor.sink := by
  induction count generalizing cursor with
  | zero => rfl
  | succ count ih => rw [advanceBy,ih,sink_advance]

end Cursor

end PascalCheck
