import PascalCheck.Analysis
import PascalCheck.Files.Store
import PascalCheck.Text.Utf8

namespace PascalCheck.Files

-- The operations on files that a run needs, whatever holds the files. One that writes empties the file first, and says
-- why if it cannot put all bytes into it then.
structure Access (m : Type → Type) where
  read : Path → m (Except Obstacle (List UInt8))
  write : Path → List UInt8 → m (Except Obstacle (Option String))
  makeDirectory : Path → m (Except Obstacle Unit)
  isDirectory : Path → m Bool

-- How many bytes a disk takes of those that it does not take whole, and why no more.
structure Disk where
  cut? : Store → List UInt8 → Option (Nat × String) := fun _ _ => none

def Disk.taken (disk : Disk) (store : Store) (bytes : List UInt8) : List UInt8 :=
  match disk.cut? store bytes with
  | none => bytes
  | some (count,_) => bytes.take count

-- Operations on a store, seen from a working directory. One that meets an obstacle changes nothing.
def Access.storedOn (disk : Disk) (directory : Place) : Access (StateM Store) where
  read path := fun store => (store.read directory path,store)
  write path bytes := fun store =>
    match store.write directory path (disk.taken store bytes) with
    | .ok changed => (.ok ((disk.cut? store bytes).map Prod.snd),changed)
    | .error obstacle => (.error obstacle,store)
  makeDirectory path := fun store =>
    match store.makeDirectory directory path with
    | .ok changed => (.ok (),changed)
    | .error obstacle => (.error obstacle,store)
  isDirectory path := fun store =>
    match store.find directory path with
    | .ok place => (store.entryAt? place == some .directory,store)
    | .error _ => (false,store)

-- A store on a disk that takes everything.
def Access.stored (directory : Place) : Access (StateM Store) := Access.storedOn {} directory

structure SourceError where
  path : String
  reason : String
deriving DecidableEq, Repr

def SourceError.message (error : SourceError) : String := error.path ++ ": " ++ error.reason

def SourceError.ofObstacle (path : Path) : Obstacle → SourceError
  | .missing => ⟨path.text,"file not found"⟩
  | obstacle => ⟨path.text,obstacle.reason⟩

def SourceError.ofFlaw (path : Path) (flaw : Text.Utf8.Flaw) : SourceError :=
  ⟨path.text,"not valid UTF-8: " ++ flaw.message⟩

-- Why a run over files is cut short, where that is not an answer of the run.
inductive Fault where
  | badPath (why : BadPath)
  | source (error : SourceError)
  | scan (fault : Scanner.Fault)
  | file (obstacle : Obstacle) (path : Path)
deriving DecidableEq, Repr

def Fault.message : Fault → String
  | .badPath why => why.message
  | .source error => error.message
  | .scan fault => fault.message
  | .file obstacle path => obstacle.message path

-- The text of a file, with its line ends made line feeds.
def contents (path : Path) (read : Except Obstacle (List UInt8)) : Except SourceError (List Char) := do
  let bytes ← read.mapError (SourceError.ofObstacle path)
  let chars ← (Text.Utf8.decodeMarked bytes).mapError (SourceError.ofFlaw path)
  return Text.normalize chars

variable {m : Type → Type} [Monad m]

def sourcePath (home : Option String) (path : String) : Except Fault Path :=
  (do (← (Path.ofText path).expanded home).usable).mapError .badPath

def readSource (files : Access m) (home : Option String) (path : String) : m (Except Fault (List Char)) := do
  match sourcePath home path with
  | .error fault => return .error fault
  | .ok path => return (contents path (← files.read path)).mapError .source

-- The check of a file reads it by its resolved path, and names it so.
def analyzeFile (files : Access m) (directory : Place) (home : Option String) (path : String) :
    m (Except Fault Analysis) := do
  match sourcePath home path with
  | .error fault => return .error fault
  | .ok path =>
    let path := path.resolved directory
    match contents path (← files.read path) with
    | .error error => return .error (.source error)
    | .ok chars => return (analyze path.text chars).mapError .scan

end PascalCheck.Files
