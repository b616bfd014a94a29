import PascalCheck.Diagnostic.Sink
import PascalCheck.Text.Padded

namespace PascalCheck.Listing

def indent : String := "        "

def pointer (entry : Diagnostic) : String :=
  String.ofList (List.replicate (entry.column - 1).toNat ' ') ++ "^ error code " ++ toString entry.code

def entryRows (entry : Diagnostic) : List String := [
  "**" ++ String.ofList (Text.zeroPadded 2 entry.number) ++ "** " ++ pointer entry,
  "****** " ++ entry.message]

-- A line and the entries that name it, in their given order. Lines count from one.
def lineRows (entries : List Diagnostic) (number : Int) (line : String) : List String :=
  (indent ++ line) :: (entries.filter fun entry => entry.line == number).flatMap entryRows

def summary (entries : List Diagnostic) : String :=
  "Compilation finished: errors - " ++ toString entries.length ++ " !"

def rows (lines : List String) (entries : List Diagnostic) : List String :=
  (lines.mapIdx fun i line => lineRows entries ((i : Int) + 1) line).flatten ++ ["",summary entries]

def render (lines : List String) (entries : List Diagnostic) : String :=
  String.join ((rows lines entries).map (· ++ "\n"))

end PascalCheck.Listing
