import PascalCheck.Text.Blank
import PascalCheck.Text.Letter

namespace PascalCheck

-- The variables of an environment; of two with one name the first counts.
abbrev Environment := List (String × String)

namespace Environment

def value? (environment : Environment) (name : String) : Option String := environment.lookup name

-- The words that switch a setting on, in letters of either case and with blanks around.
def isOn (value : String) : Bool :=
  ["1","true","yes","on"].contains (String.ofList ((Text.strip value.toList).map Text.lowered))

def switchedOn (environment : Environment) (name : String) : Bool := (environment.value? name).any isOn

end Environment

-- wire: the token output shares codes between kinds. debug: the events of the run are told.
structure Settings where
  wire : Bool := false
  debug : Bool := false
deriving DecidableEq, Repr

namespace Settings

def wireVariable : String := "MINIPAS_WIRE_COMPATIBLE"

def debugVariable : String := "MINIPAS_DEBUG"

def within (environment : Environment) (asked : Settings) : Settings where
  wire := asked.wire || environment.switchedOn wireVariable
  debug := asked.debug || environment.switchedOn debugVariable

end Settings

end PascalCheck
