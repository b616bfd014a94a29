import PascalCheck.Diagnostic.Problem
import PascalCheck.Position

namespace PascalCheck

-- Lines and columns count from one. The number is the rank among the entries of the same sink.
structure Diagnostic where
  line : Int
  column : Int
  code : Int
  number : Int
  message : String
deriving DecidableEq, Repr

namespace Diagnostic

def shown (entry : Diagnostic) : String :=
  toString entry.line ++ ":" ++ toString entry.column ++ ": error " ++ toString entry.code ++ ": " ++ entry.message

def notAfter (a b : Diagnostic) : Bool := a.line < b.line || (a.line == b.line && a.column ≤ b.column)

def numbered (entries : List Diagnostic) : List Diagnostic :=
  entries.mapIdx fun i entry => { entry with number := (i : Int) + 1 }

end Diagnostic

structure Sink where
  entries : Array Diagnostic := #[]
deriving DecidableEq, Repr

namespace Sink

def toList (sink : Sink) : List Diagnostic := sink.entries.toList

def size (sink : Sink) : Nat := sink.entries.size

-- The entry that a report makes. A report without a message gets the usual one of its code.
def entry (sink : Sink) (code : Int) (place : Position) (message : Option String) : Diagnostic where
  line := place.line + 1
  column := place.column + 1
  code := code
  number := sink.size + 1
  message := message.getD (Problem.messageOf code)

def report (sink : Sink) (code : Int) (place : Position) (message : Option String) : Sink :=
  ⟨sink.entries.push (sink.entry code place message)⟩

-- Entries in reading order, numbered from one. Entries at one place keep the order of their reports.
def ranked (sink : Sink) : Sink := ⟨(Diagnostic.numbered (sink.toList.mergeSort Diagnostic.notAfter)).toArray⟩

@[simp] theorem toList_report (sink : Sink) (code : Int) (place : Position) (message : Option String) :
    (sink.report code place message).toList = sink.toList ++ [sink.entry code place message] := by
  simp [report,toList]

@[simp] theorem size_report (sink : Sink) (code : Int) (place : Position) (message : Option String) :
    (sink.report code place message).size = sink.size + 1 := by
  simp [report,size]

@[simp] theorem toList_ranked (sink : Sink) :
    sink.ranked.toList = Diagnostic.numbered (sink.toList.mergeSort Diagnostic.notAfter) := by
  simp [ranked,toList]

@[simp] theorem size_ranked (sink : Sink) : sink.ranked.size = sink.size := by
  simp [ranked,size,toList,Diagnostic.numbered]

end Sink

end PascalCheck
