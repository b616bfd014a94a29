import PascalCheck.CommandLine.Options
import PascalCheck.Files.Source
import PascalCheck.Settings

namespace PascalCheck.CommandLine

-- What a run cannot go on without: the value of an option, or a disk and a console that take what is written.
inductive Lack where
  | path
  | seed
  | count
  | outlet (why : String)
deriving DecidableEq, Repr

def Lack.message : Lack → String
  | .path => "expected str, bytes or os.PathLike object, not list"
  | .seed => "The only supported seed types are: None,\nint, float, str, bytes, and bytearray."
  | .count => "'list' object cannot be interpreted as an integer"
  | .outlet why => why

inductive Conclusion where
  | exit (status : Nat)
  | fault (fault : Files.Fault)
  | lack (lack : Lack)
deriving DecidableEq, Repr

structure Report where
  conclusion : Conclusion
  output : String := ""
  errors : String := ""
deriving DecidableEq, Repr

-- Where a run prints to. A text is taken whole or refused, and then it is said why.
structure Console where
  refusal? : String → Option String := fun _ => none

namespace Console

-- Texts one after the other, up to the first that is refused: what has been printed, and why no more.
def print (console : Console) : List String → String × Option String
  | [] => ("",none)
  | text :: others =>
    match console.refusal? text with
    | some why => ("",some why)
    | none => (text ++ (console.print others).1,(console.print others).2)

def close (console : Console) (status : Nat) (texts : List String) (errors : String) : Report :=
  let (output,refusal) := console.print texts
  match refusal with
  | some why => ⟨.lack (.outlet why),output,errors⟩
  | none => ⟨.exit status,output,errors⟩

end Console

def Stop.report (usage : Usage σ) (console : Console) : Stop → Report
  | .help => console.close 0 [usage.helpText] ""
  | .refused why => ⟨.exit 2,"",usage.refusalText why⟩

namespace Check

structure Request where
  source : String := ""
  tokensOut : Option String := some "output.txt"
  writesTokens : Bool := true
  settings : Settings := {}
deriving DecidableEq, Repr

def usage : Usage Request where
  program := "minipas"
  synopsis := "usage: minipas [-h] [-o TOKENS_OUT] [--no-tokens] [--wire-compatible] [-v]\n               source\n"
  details := "Scan and syntax-check a restricted Pascal program\n\n" ++
    "positional arguments:\n" ++
    "  source                Pascal source file\n\n" ++
    "options:\n" ++
    "  -h, --help            show this help message and exit\n" ++
    "  -o TOKENS_OUT, --tokens-out TOKENS_OUT\n" ++
    "                        Where to write the token codes (default: output.txt)\n" ++
    "  --no-tokens           Do not write the token codes file\n" ++
    "  --wire-compatible     Write token codes using the reference tool's shared\n" ++
    "                        codes for 'integer' and strings\n" ++
    "  -v, --verbose         Debug logging\n"
  choices := [
    ⟨["-h","--help"],.help⟩,
    ⟨["-o","--tokens-out"],.text fun path request => { request with tokensOut := path }⟩,
    ⟨["--no-tokens"],.switch fun request => { request with writesTokens := false }⟩,
    ⟨["--wire-compatible"],.switch fun request => { request with settings := { request.settings with wire := true } }⟩,
    ⟨["-v","--verbose"],.switch fun request => { request with settings := { request.settings with debug := true } }⟩]
  subject := some ("source",fun path request => { request with source := path })

def eventLines (events : List Event) : String := String.join (events.map fun event => "[DEBUG] " ++ event.text ++ "\n")

def status (analysis : Analysis) : Nat := if analysis.ok then 0 else 1

-- The note on the token file comes in pieces, as do the line ends behind it.
def writtenNote (path : Files.Path) : List String := ["Token codes written to: " ++ path.text,"\n","\n"]

def homeVariable : String := "HOME"

variable {m : Type → Type} [Monad m]

-- The token file is written before anything is printed, so a run that cannot write prints nothing.
def conclude (console : Console) (files : Files.Access m) (request : Request) (settings : Settings)
    (analysis : Analysis) : m Report := do
  let errors := if settings.debug then eventLines analysis.events else ""
  if request.writesTokens then
    match request.tokensOut with
    | none => return ⟨.lack .path,"",errors⟩
    | some out =>
      match (Files.Path.ofText out).usable with
      | .error why => return ⟨.fault (.badPath why),"",errors⟩
      | .ok path =>
        match ← files.write path (Text.Utf8.encode (analysis.tokenCodes settings.wire).toList) with
        | .error obstacle => return ⟨.fault (.file obstacle path),"",errors⟩
        | .ok (some why) => return ⟨.lack (.outlet why),"",errors⟩
        | .ok none => return console.close (status analysis) (writtenNote path ++ [analysis.listing]) errors
  else return console.close (status analysis) [analysis.listing] errors

-- A source that cannot be read is an answer of the run; any other fault cuts it short.
def answer (console : Console) (files : Files.Access m) (directory : Files.Place) (environment : Environment)
    (request : Request) : m Report := do
  match ← Files.analyzeFile files directory (environment.value? homeVariable) request.source with
  | .error (.source error) => return ⟨.exit 2,"","minipas: " ++ error.message ++ "\n"⟩
  | .error fault => return ⟨.fault fault,"",""⟩
  | .ok analysis => conclude console files request (request.settings.within environment) analysis

def runOn (console : Console) (files : Files.Access m) (directory : Files.Place) (environment : Environment)
    (arguments : List String) : m Report :=
  match usage.read {} arguments with
  | .error stop => return stop.report usage console
  | .ok request => answer console files directory environment request

def run (files : Files.Access m) (directory : Files.Place) (environment : Environment) (arguments : List String) :
    m Report :=
  runOn {} files directory environment arguments

end Check

end PascalCheck.CommandLine
