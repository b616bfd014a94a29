import Mathlib.Data.List.Induction
import Mathlib.Data.List.Nodup
import PascalCheck.CommandLine.Check
import PascalCheck.Proofs.CommandLine.Clear
import PascalCheck.Proofs.CommandLine.Flags

namespace PascalCheck.CommandLine.Check
open Usage (Line words)

-- The values that an option is given in a command line, by any of its names. A switch has none.
def values (name : String) (items : List (Item Request)) : List (Option String) :=
  items.filterMap fun
    | .option entry => if name ∈ entry.1.names then some entry.2 else none
    | .word _ => none

end PascalCheck.CommandLine.Check
