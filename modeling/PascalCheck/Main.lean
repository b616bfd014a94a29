import PascalCheck.CommandLine.Check

namespace PascalCheck

def standsAtDirectory (path : String) : IO Bool := do
  try
    return (← (← IO.FS.realPath path).isDir)
  catch _ => return false

-- The obstacle that an error of the machine tells of. Errors of other kinds are passed on.
def obstacleOf (path : String) : IO.Error → IO Files.Obstacle
  | .noFileOrDirectory .. => return .missing
  | .alreadyExists .. => return .exists
  | .invalidArgument .. => return .nameTooLong
  | .inappropriateType .. => return if ← standsAtDirectory path then .isDirectory else .notDirectory
  | error => throw error

def attempt (path : Files.Path) (operation : String → IO α) : IO (Except Files.Obstacle α) := do
  try
    return .ok (← operation path.text)
  catch error => return .error (← obstacleOf path.text error)

-- A disk that runs full while a file is being written is no obstacle: the file has been emptied by then.
def writeFile (name : String) (bytes : List UInt8) : IO (Option String) := do
  try
    IO.FS.writeBinFile name ⟨bytes.toArray⟩
    return none
  catch
    | .resourceExhausted _ _ details => return some details
    | error => throw error

def machineFiles : Files.Access IO where
  read path := attempt path fun name => return (← IO.FS.readBinFile name).toList
  write path bytes := attempt path fun name => writeFile name bytes
  makeDirectory path := attempt path fun name => IO.FS.createDir name
  isDirectory path := standsAtDirectory path.text

def machineEnvironment : IO Environment := do
  let names := [CommandLine.Check.homeVariable,Settings.wireVariable,Settings.debugVariable]
  return (← names.mapM fun name => return (name,← IO.getEnv name)).filterMap fun entry =>
    entry.2.map fun value => (entry.1,value)

end PascalCheck

open PascalCheck in
def main (arguments : List String) : IO UInt32 := do
  let directory := (Files.Path.ofText (← IO.currentDir).toString).parts
  let report ← CommandLine.Check.run machineFiles directory (← machineEnvironment) arguments
  IO.print report.output
  IO.eprint report.errors
  match report.conclusion with
  | .exit status => return status.toUInt32
  | .fault fault =>
    IO.eprintln fault.message
    return 1
  | .lack lack =>
    IO.eprintln lack.message
    return 1
