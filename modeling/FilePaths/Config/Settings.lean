import FilePaths.Glob.Flags
import FilePaths.Log.Level
import FilePaths.Symlink.Strategy

/-!
# Settings

A configuration says as much or as little as its source did: every setting may be absent, and so
may a whole section.  What an absent setting means is decided when it is used.
-/

namespace FilePaths

/-- How results are printed. -/
inductive OutputFormat
  | human
  | json
  deriving DecidableEq, Repr, Inhabited

namespace OutputFormat

/-- The name of a format. -/
def name : OutputFormat → String
  | .human => "human"
  | .json => "json"

/-- The format with exactly the given name. -/
def ofName? (name : Text) : Option OutputFormat :=
  if name = "human".toList then some .human
  else if name = "json".toList then some .json
  else none

/-- The format that a text names, in any case. -/
def ofText? (text : Text) : Option OutputFormat :=
  ofName? (Text.lower text)

/-- The format that a text names, or what is wrong with it. -/
def ofText (text : Text) : Except Error OutputFormat :=
  match ofText? text with
  | some format => .ok format
  | none => .error (.validation "output_format".toList (.unknownFormatName text))

end OutputFormat

/-- The settings of pattern matching. -/
structure GlobSection where
  /-- The names of the options used where a caller gives none. -/
  flags : Option (List Text) := none
  deriving DecidableEq, Repr

/-- The settings of canonical paths. -/
structure RealpathSection where
  /-- How canonical paths are found. -/
  strategy : Option Strategy := none
  /-- How many symbolic links one search may follow. -/
  maxDepth : Option Nat := none
  deriving DecidableEq, Repr

/-- A configuration. -/
structure Config where
  /-- The settings of pattern matching. -/
  glob : Option GlobSection := none
  /-- The settings of canonical paths. -/
  realpath : Option RealpathSection := none
  /-- The name of a log level. -/
  logMode : Option Text := none
  /-- How results are printed. -/
  outputFormat : Option OutputFormat := none
  deriving DecidableEq, Repr

/-- How many symbolic links one search may follow, unless a setting says otherwise. -/
def defaultMaxDepth : Nat := 40

/-- The greatest number that a setting can hold. -/
def greatestWord : Nat := 0xFFFFFFFFFFFFFFFF

namespace Config

/-- The setting of the glob options, if there is one. -/
def flagNames? (config : Config) : Option (List Text) :=
  config.glob.bind GlobSection.flags

/-- The setting of the strategy, if there is one. -/
def strategy? (config : Config) : Option Strategy :=
  config.realpath.bind RealpathSection.strategy

/-- The setting of the greatest number of links, if there is one. -/
def maxDepth? (config : Config) : Option Nat :=
  config.realpath.bind RealpathSection.maxDepth

/-- The glob options in force; a name that is none is an error of the setting. -/
def globFlags (config : Config) : Except Error GlobFlags :=
  match GlobFlags.ofNames (config.flagNames?.getD []) with
  | .ok flags => .ok flags
  | .error misuse => .error (.validation "glob.flags".toList (.argument misuse))

/-- The strategy in force. -/
def strategy (config : Config) : Strategy :=
  config.strategy?.getD .walk

/-- The greatest number of links in force. -/
def maxDepth (config : Config) : Nat :=
  config.maxDepth?.getD defaultMaxDepth

/-- The log level that is set, if any; a name that is none is an error of the setting. -/
def logLevel (config : Config) : Except Error (Option LogLevel) :=
  match config.logMode with
  | none => .ok none
  | some name =>
      match LogLevel.ofText? name with
      | some level => .ok (some level)
      | none => .error (.validation "log_mode".toList (.unknownLevel name))

/-- The output format in force. -/
def format (config : Config) : OutputFormat :=
  config.outputFormat.getD .human

end Config
end FilePaths
