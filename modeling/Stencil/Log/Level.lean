import Stencil.Settings.Environment

/-!
Levels of log records. A record is kept if the number of its level is no less than that of the log;
a name that is none of the known ones stands for the level of information.
-/

namespace Stencil.Log

inductive Level where
  | debug
  | info
  | warning
  | error
  | critical
deriving DecidableEq, Repr

namespace Level

def all : List Level := [debug, info, warning, error, critical]

def name : Level → String
  | debug => "debug"
  | info => "info"
  | warning => "warning"
  | error => "error"
  | critical => "critical"

def number : Level → Nat
  | debug => 10
  | info => 20
  | warning => 30
  | error => 40
  | critical => 50

def ofName? (name : String) : Option Level := all.find? (·.name == name)

end Level

/-- The numbers of all names of thresholds, in capitals. -/
def thresholdNames : List (String × Nat) := [
  ("CRITICAL", 50), ("FATAL", 50), ("ERROR", 40), ("WARN", 30), ("WARNING", 30), ("INFO", 20),
  ("DEBUG", 10), ("NOTSET", 0)]

/-- The threshold that a name stands for in whatever case. -/
def thresholdOfName (name : String) : Nat :=
  let capitals := upperCase name
  ((thresholdNames.find? (·.1 == capitals)).map (·.2)).getD Level.info.number

/-- Whether the variable that asks for all records is set to anything. -/
def isDebugging (environment : Settings.Environment) : Bool :=
  ((Settings.Environment.find? environment "TYPEDHTML_DEBUG").getD "") != ""

/-- The threshold that a name stands for, unless the environment asks for all records. -/
def thresholdFor (environment : Settings.Environment) (name : String) : Nat :=
  if isDebugging environment then Level.debug.number else thresholdOfName name

/-- The threshold that the environment asks for. -/
def environmentThreshold (environment : Settings.Environment) : Nat :=
  thresholdFor environment
    ((Settings.Environment.find? environment "TYPEDHTML_LOG_LEVEL").getD "info")

end Stencil.Log
