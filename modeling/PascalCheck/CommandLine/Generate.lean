import PascalCheck.CommandLine.Check
import PascalCheck.Corpus.Sample
import PascalCheck.Text.Padded

namespace PascalCheck.CommandLine.Generate

structure Request where
  seed : Option Int := some 1
  count : Option Int := some 200
  out : Option String := some "tests/fixtures/pascal_corpus"
deriving DecidableEq, Repr

def usage : Usage Request where
  program := "generate_corpus"
  synopsis := "usage: generate_corpus [-h] [--seed SEED] [--count COUNT] [--out OUT]\n"
  details := "Write generated Pascal programs as .pas files\n\n" ++
    "options:\n" ++
    "  -h, --help     show this help message and exit\n" ++
    "  --seed SEED\n" ++
    "  --count COUNT\n" ++
    "  --out OUT\n"
  choices := [
    ⟨["-h","--help"],.help⟩,
    ⟨["--seed"],.number fun seed request => { request with seed := seed }⟩,
    ⟨["--count"],.number fun count request => { request with count := count }⟩,
    ⟨["--out"],.text fun out request => { request with out := out }⟩]
  subject := none

def fileName (seed : Int) (i : Nat) : String :=
  "seed" ++ toString seed ++ "_" ++ String.ofList (Text.zeroPadded 5 i) ++ ".pas"

variable {m : Type → Type} [Monad m]

def tolerate (files : Files.Access m) (path : Files.Path) (obstacle : Files.Obstacle) : m (Except Files.Fault Unit) := do
  if ← files.isDirectory path then return .ok () else return .error (.file obstacle path)

-- Makes a directory and those above it that are missing.
def makeDirectories (files : Files.Access m) (start : Files.Start) :
    List String → m (Except Files.Fault Unit)
  | [] => do
    let path : Files.Path := ⟨start,[]⟩
    match ← files.makeDirectory path with
    | .ok () => return .ok ()
    | .error obstacle => tolerate files path obstacle
  | part :: above => do
    let path : Files.Path := ⟨start,(part :: above).reverse⟩
    match ← files.makeDirectory path with
    | .ok () => return .ok ()
    | .error .missing =>
      match ← makeDirectories files start above with
      | .error fault => return .error fault
      | .ok () =>
        match ← files.makeDirectory path with
        | .ok () => return .ok ()
        | .error obstacle => tolerate files path obstacle
    | .error obstacle => tolerate files path obstacle

def writeAll (files : Files.Access m) (directory : Files.Path) (seed : Int) :
    Nat → List Corpus.Sample → m (Option Conclusion)
  | _,[] => return none
  | i,sample :: others => do
    let path := directory.child (fileName seed i)
    match ← files.write path (Text.Utf8.encode sample.text) with
    | .error obstacle => return some (.fault (.file obstacle path))
    | .ok (some why) => return some (.lack (.outlet why))
    | .ok none => writeAll files directory seed (i + 1) others

def fill (console : Console) (files : Files.Access m) (path : Files.Path) (seed count : Int) : m Report := do
  let samples := Corpus.samples seed count.toNat
  match ← writeAll files path seed 0 samples with
  | some conclusion => return ⟨conclusion,"",""⟩
  | none =>
    return console.close 0 ["wrote " ++ toString samples.length ++ " programs to " ++ path.text,"\n"] ""

def answer (console : Console) (files : Files.Access m) (directory : Files.Place) (request : Request) : m Report := do
  match request.out with
  | none => return ⟨.lack .path,"",""⟩
  | some out =>
    match (Files.Path.ofText out).usable with
    | .error why => return ⟨.fault (.badPath why),"",""⟩
    | .ok path =>
      let path := path.resolved directory
      match ← makeDirectories files path.start path.parts.reverse with
      | .error fault => return ⟨.fault fault,"",""⟩
      | .ok () =>
        match request.seed,request.count with
        | none,_ => return ⟨.lack .seed,"",""⟩
        | some _,none => return ⟨.lack .count,"",""⟩
        | some seed,some count => fill console files path seed count

def runOn (console : Console) (files : Files.Access m) (directory : Files.Place) (arguments : List String) : m Report :=
  match usage.read {} arguments with
  | .error stop => return stop.report usage console
  | .ok request => answer console files directory request

def run (files : Files.Access m) (directory : Files.Place) (arguments : List String) : m Report :=
  runOn {} files directory arguments

end PascalCheck.CommandLine.Generate
