import FilePaths.Text.Basic

/-!
# Log levels

How urgent a message is, and how much of it a reader wants to see.
-/

namespace FilePaths

/-- The urgency of a message, from the most to the least urgent. -/
inductive Severity
  | error
  | warn
  | info
  | debug
  | trace
  deriving DecidableEq, Repr

/-- The place of a severity in the order of urgency. -/
def Severity.rank : Severity → Nat
  | .error => 1
  | .warn => 2
  | .info => 3
  | .debug => 4
  | .trace => 5

/-- The name of a severity. -/
def Severity.name : Severity → String
  | .error => "ERROR"
  | .warn => "WARN"
  | .info => "INFO"
  | .debug => "DEBUG"
  | .trace => "TRACE"

/-- The severity with the given name, in any case. -/
def Severity.ofText? (text : Text) : Option Severity :=
  [Severity.error, .warn, .info, .debug, .trace].find? fun severity =>
    severity.name.toList == Text.upper text

/-- The word in front of a message; the two least urgent severities share one. -/
def Severity.label : Severity → String
  | .error => "ERROR"
  | .warn => "WARN"
  | .info => "INFO"
  | .debug => "DEBUG"
  | .trace => "DEBUG"

/-- How much is shown. -/
inductive LogLevel
  | quiet
  | normal
  | verbose
  deriving DecidableEq, Repr

namespace LogLevel

/-- The name of a level. -/
def name : LogLevel → String
  | .quiet => "quiet"
  | .normal => "normal"
  | .verbose => "verbose"

/-- The level with the given name, in any case. -/
def ofText? (text : Text) : Option LogLevel :=
  let name := Text.lower text
  if name = "quiet".toList then some .quiet
  else if name = "normal".toList then some .normal
  else if name = "verbose".toList then some .verbose
  else none

/-- The least urgent severity that a level shows, if it shows any. -/
def least? : LogLevel → Option Severity
  | .quiet => none
  | .normal => some .warn
  | .verbose => some .trace

/-- A message of the severity is shown at the level. -/
def admits (level : LogLevel) (severity : Severity) : Bool :=
  match level.least? with
  | none => false
  | some least => severity.rank ≤ least.rank

/-- The name of the least urgent severity that a level shows. -/
def filterName (level : LogLevel) : String :=
  match level.least? with
  | none => "OFF"
  | some least => least.name

/-- The line that a message makes at a level, if it is shown. -/
def line? (level : LogLevel) (severity : Severity) (message : String) : Option String :=
  if level.admits severity then some (severity.label ++ ": " ++ message) else none

/-- The level of a run: the wish for more wins over the wish for less, both win over the setting
of the environment, and a setting that names no level counts as none. -/
def choose (verbose quiet : Bool) (setting? : Option Text) : LogLevel :=
  if verbose then .verbose
  else if quiet then .quiet
  else (setting?.bind ofText?).getD .normal

end LogLevel
end FilePaths
