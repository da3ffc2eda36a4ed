import FilePaths.Config.Settings
import FilePaths.System.Host

/-!
# Settings from the environment

Five variables of the environment replace one setting each.  They are applied in a fixed order,
and the first one that cannot be read ends the work; what was applied before it stays.
-/

namespace FilePaths

/-- The variables that hold settings. -/
inductive Variable
  | globFlags
  | strategy
  | maxDepth
  | logMode
  | outputFormat
  deriving DecidableEq, Repr

namespace Variable

/-- The variables in the order in which they are applied. -/
def all : List Variable :=
  [.globFlags, .strategy, .maxDepth, .logMode, .outputFormat]

/-- The name of a variable. -/
def name : Variable → String
  | .globFlags => "FILECORE_GLOB_FLAGS"
  | .strategy => "FILECORE_REALPATH_STRATEGY"
  | .maxDepth => "FILECORE_MAX_SYMLINK_DEPTH"
  | .logMode => "FILECORE_LOG_MODE"
  | .outputFormat => "FILECORE_OUTPUT_FORMAT"

/-- The configuration with the setting that a value of the variable stands for.  Options are
stored by their own names, and a log level in lower case. -/
def set (entry : Variable) (value : Text) (config : Config) : Except Defect Config :=
  match entry with
  | .globFlags =>
      match GlobFlags.ofList value with
      | .error misuse => .error (.argument misuse)
      | .ok flags =>
          let names := flags.names.map String.toList
          .ok { config with glob := some { config.glob.getD {} with flags := some names } }
  | .strategy =>
      match Strategy.ofText value with
      | .error misuse => .error (.argument misuse)
      | .ok found =>
          .ok
            { config with
              realpath := some { config.realpath.getD {} with strategy := some found } }
  | .maxDepth =>
      match Text.signedNumber? 10 greatestWord (Text.trim value) with
      | none => .error .depthNotNumber
      | some depth =>
          .ok
            { config with
              realpath := some { config.realpath.getD {} with maxDepth := some depth } }
  | .logMode =>
      match LogLevel.ofText? value with
      | none => .error (.unknownLevel value)
      | some _ => .ok { config with logMode := some (Text.lower value) }
  | .outputFormat =>
      match OutputFormat.ofText? value with
      | none => .error (.unknownFormat value)
      | some format => .ok { config with outputFormat := some format }

end Variable

namespace Config

/-- Applies the given variables in order, and gives the first error with the configuration as it
is then. -/
def applyVariables (environment : Environment) :
    List Variable → Config → Config × Option Error
  | [], config => (config, none)
  | entry :: entries, config =>
      match environment entry.name.toList with
      | none => applyVariables environment entries config
      | some value =>
          match entry.set value config with
          | .error defect => (config, some (.validation entry.name.toList defect))
          | .ok config => applyVariables environment entries config

/-- Applies all variables of the environment. -/
def applyEnvironment (environment : Environment) (config : Config) : Config × Option Error :=
  applyVariables environment Variable.all config

end Config
end FilePaths
