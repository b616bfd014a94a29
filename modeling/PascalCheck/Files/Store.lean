import PascalCheck.Files.Path
import PascalCheck.Text.Quoted

namespace PascalCheck.Files

inductive Entry where
  | directory
  | file (bytes : List UInt8)
deriving DecidableEq, Repr

structure Store where
  entries : List (Place × Entry) := []
deriving Repr

inductive Obstacle where
  | missing
  | exists
  | notDirectory
  | isDirectory
  | nameTooLong
deriving DecidableEq, Repr

namespace Obstacle

def number : Obstacle → Nat
  | .missing => 2
  | .exists => 17
  | .notDirectory => 20
  | .isDirectory => 21
  | .nameTooLong => 36

def reason : Obstacle → String
  | .missing => "No such file or directory"
  | .exists => "File exists"
  | .notDirectory => "Not a directory"
  | .isDirectory => "Is a directory"
  | .nameTooLong => "File name too long"

def message (obstacle : Obstacle) (path : Path) : String :=
  "[Errno " ++ toString obstacle.number ++ "] " ++ obstacle.reason ++ ": " ++ Text.quoted path.text

end Obstacle

-- The greatest sizes of a name and of a path, in bytes.
def maxName : Nat := 255

def maxPath : Nat := 4095

namespace Store

-- The root is always there.
def entryAt? (store : Store) (place : Place) : Option Entry :=
  if place = [] then some .directory else store.entries.lookup place

def put (store : Store) (place : Place) (entry : Entry) : Store :=
  ⟨(place,entry) :: store.entries.filter fun other => other.1 != place⟩

-- Part by part to the place that a path names. Each part but the last has to lead to a directory.
def walk (store : Store) : Place → List String → Except Obstacle Place
  | place,[] => .ok place
  | place,part :: parts =>
    match store.entryAt? place with
    | none => .error .missing
    | some (.file _) => .error .notDirectory
    | some .directory =>
      if maxName < part.utf8ByteSize then .error .nameTooLong else walk store (Path.enter place part) parts

def find (store : Store) (directory : Place) (path : Path) : Except Obstacle Place :=
  if maxPath < path.text.utf8ByteSize then .error .nameTooLong
  else store.walk (if path.start = .here then directory else []) path.parts

def read (store : Store) (directory : Place) (path : Path) : Except Obstacle (List UInt8) := do
  match store.entryAt? (← store.find directory path) with
  | none => .error .missing
  | some .directory => .error .isDirectory
  | some (.file bytes) => .ok bytes

def write (store : Store) (directory : Place) (path : Path) (bytes : List UInt8) : Except Obstacle Store := do
  let place ← store.find directory path
  match store.entryAt? place with
  | some .directory => .error .isDirectory
  | _ => .ok (store.put place (.file bytes))

def makeDirectory (store : Store) (directory : Place) (path : Path) : Except Obstacle Store := do
  let place ← store.find directory path
  match store.entryAt? place with
  | some _ => .error .exists
  | none => .ok (store.put place .directory)

theorem lookup_filter (kept : Place → Bool) (place : Place) (entries : List (Place × Entry)) :
    (entries.filter fun entry => kept entry.1).lookup place =
      if kept place = true then entries.lookup place else none := by
  induction entries with
  | nil => simp
  | cons head rest ih =>
    rcases head with ⟨there,entry⟩
    by_cases same : place = there
    · subst same
      cases keep : kept place <;> simp [keep,ih]
    · have skip : (place == there) = false := by simpa using same
      cases keep : kept there <;> simp [List.lookup_cons,keep,skip,ih]

theorem entryAt?_put (store : Store) (place other : Place) (entry : Entry) (below : place ≠ []) :
    (store.put place entry).entryAt? other = if other = place then some entry else store.entryAt? other := by
  by_cases same : other = place
  · subst same
    simp [entryAt?,put,below]
  · have skip : (other == place) = false := by simpa using same
    have keep : (other != place) = true := by simpa using same
    have found := lookup_filter (· != place) other store.entries
    simp [entryAt?,put,same,List.lookup_cons,skip,keep,found]

end Store

end PascalCheck.Files
