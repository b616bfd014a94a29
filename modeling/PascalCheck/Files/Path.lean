import PascalCheck.Text.Line

namespace PascalCheck.Files

-- A place is given by the names from the root of all files down to it.
abbrev Place := List String

-- What a path starts from: the working directory, or the root. Two slashes in front, and no third,
-- are kept as they are.
inductive Start where
  | here
  | root
  | doubleRoot
deriving DecidableEq, Repr

structure Path where
  start : Start
  parts : List String
deriving DecidableEq, Repr

namespace Path

def startOf (chars : List Char) : Start :=
  match (chars.takeWhile (· == '/')).length with
  | 0 => .here
  | 2 => .doubleRoot
  | _ => .root

-- Empty parts and single dots name nothing of their own.
def ofText (text : String) : Path :=
  ⟨startOf text.toList,((Text.splitAt '/' text.toList).map String.ofList).filter fun part => part != "" && part != "."⟩

def text (path : Path) : String :=
  let body := "/".intercalate path.parts
  match path.start with
  | .here => if path.parts.isEmpty then "." else body
  | .root => "/" ++ body
  | .doubleRoot => "//" ++ body

def enter (place : Place) (part : String) : Place := if part = ".." then place.dropLast else place ++ [part]

def place (directory : Place) (path : Path) : Place :=
  path.parts.foldl enter (if path.start = .here then directory else [])

def resolved (directory : Place) (path : Path) : Path := ⟨.root,path.place directory⟩

def child (path : Path) (name : String) : Path := { path with parts := path.parts ++ [name] }

-- The home directory by its path. Slashes at its end do not count.
def ofHome (home : String) : Path :=
  let trimmed := String.ofList (home.toList.reverse.dropWhile (· == '/')).reverse
  ofText (if trimmed = "" then "/" else trimmed)

def startsWithTilde (part : String) : Bool := part.toList.head? == some '~'

def hasNul (text : String) : Bool := text.toList.contains '\x00'

end Path

inductive BadPath where
  | noHome
  | nulInside
deriving DecidableEq, Repr

def BadPath.message : BadPath → String
  | .noHome => "Could not determine home directory."
  | .nulInside => "embedded null byte"

-- A tilde alone in front stands for the home directory; with a name it would stand for that user's,
-- and no other users are known. A home that itself begins with one leads nowhere.
def Path.expanded (home : Option String) (path : Path) : Except BadPath Path :=
  match path.start,path.parts with
  | .here,first :: others =>
    if first = "~" then
      match home with
      | none => .error .noHome
      | some home =>
        if Path.startsWithTilde home then .error .noHome
        else .ok { Path.ofHome home with parts := (Path.ofHome home).parts ++ others }
    else if Path.startsWithTilde first then .error (if Path.hasNul first then .nulInside else .noHome)
    else .ok path
  | _,_ => .ok path

def Path.usable (path : Path) : Except BadPath Path :=
  if Path.hasNul path.text then .error .nulInside else .ok path

end PascalCheck.Files
