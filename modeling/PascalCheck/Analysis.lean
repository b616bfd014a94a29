import PascalCheck.Diagnostic.Listing
import PascalCheck.Grammar.Productions
import PascalCheck.Token.Scanner
import PascalCheck.Token.Wire

namespace PascalCheck

inductive Event where
  | scanned (tokens diagnostics : Nat)
  | recovered (skipped : Nat)
  | analyzed (file : String) (tokens diagnostics : Nat)
deriving DecidableEq, Repr

def Event.text : Event → String
  | .scanned tokens diagnostics =>
    "scanned " ++ toString tokens ++ " tokens, " ++ toString diagnostics ++ " diagnostics"
  | .recovered skipped => "resynchronized after skipping " ++ toString skipped ++ " tokens"
  | .analyzed file tokens diagnostics =>
    file ++ ": " ++ toString tokens ++ " tokens, " ++ toString diagnostics ++ " diagnostics"

-- Of what a check does only its recoveries are told.
def Event.ofNote? : Note → Option Event
  | .reported _ => none
  | .recovered skipped => some (.recovered skipped)

structure Analysis where
  file : String
  lines : List String
  tokens : List Token
  diagnostics : List Diagnostic
  events : List Event
deriving DecidableEq, Repr

namespace Analysis

def ok (analysis : Analysis) : Bool := analysis.diagnostics.isEmpty

def codes (analysis : Analysis) : List Nat := analysis.tokens.map Token.code

def tokenCodes (wire : Bool) (analysis : Analysis) : String := renderCodes wire analysis.tokens

def listing (analysis : Analysis) : String := Listing.render analysis.lines analysis.diagnostics

def checked (scanner : Scanner) : Checker :=
  (Checker.ofTokens scanner.tokenList scanner.cursor.sink).program.after

def ofScan (file : String) (scanner : Scanner) : Analysis :=
  let tokens := scanner.tokenList
  let checker := checked scanner
  let diagnostics := checker.sink.ranked.toList
  { file := file
    lines := scanner.cursor.lines
    tokens := tokens
    diagnostics := diagnostics
    events := .scanned tokens.length scanner.cursor.sink.size ::
      checker.journal.toList.filterMap Event.ofNote? ++ [.analyzed file tokens.length diagnostics.length] }

end Analysis

def analyze (file : String) (chars : List Char) : Except Scanner.Fault Analysis :=
  match (Scanner.ofText chars).scan with
  | .finished scanner => .ok (Analysis.ofScan file scanner)
  | .stopped fault _ => .error fault

end PascalCheck
