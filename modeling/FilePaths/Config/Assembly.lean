import FilePaths.Config.Environment
import FilePaths.Config.Layer
import FilePaths.Config.Source
import FilePaths.Config.Validity

/-!
# The configuration in force

The settings of all sources are laid over each other: the files at the bottom, then the
environment, then what the program itself asks for.  The result must be valid.
-/

namespace FilePaths
namespace Config

variable {World : Type}

/-- Which sources are read. -/
structure Plan where
  /-- The directory of the user's own file, if it is not the common one. -/
  directory : Option Text := none
  /-- The file that was asked for. -/
  named : Option Text := none
  /-- The settings that the program itself asks for. -/
  overrides : Option Config := none
  /-- No file is read. -/
  skipsFiles : Bool := false
  /-- The environment is not looked at. -/
  skipsEnvironment : Bool := false

/-- The settings of the files. -/
def ofFiles (host : Host World) (plan : Plan) : Run World Config :=
  if plan.skipsFiles then pure {}
  else do
    let sources ← loadAll host plan.directory plan.named
    pure (merge (sources.map Source.config))

/-- The settings with those of the environment on top. -/
def withEnvironment (host : Host World) (plan : Plan) (config : Config) : Except Error Config :=
  if plan.skipsEnvironment then .ok config
  else
    match applyEnvironment host.environment config with
    | (config, none) => .ok config
    | (_, some error) => .error error

/-- The settings with those on top that the program itself asks for. -/
def withOverrides (plan : Plan) (config : Config) : Config :=
  match plan.overrides with
  | none => config
  | some overrides => overrides.onTopOf config

/-- The configuration in force. -/
def assemble (host : Host World) (plan : Plan) : Run World Config := do
  let files ← ofFiles host plan
  let layered ← Run.ofExcept (withEnvironment host plan files)
  let config := withOverrides plan layered
  Run.ofExcept config.validate
  pure config

end Config
end FilePaths
