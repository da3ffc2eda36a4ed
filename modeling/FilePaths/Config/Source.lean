import FilePaths.System.Host
import FilePaths.System.Run

/-!
# Configuration files

Settings come from the user's own file, which may be missing, and from a file that was asked for,
which may not.
-/

namespace FilePaths
namespace Config

variable {World : Type}

/-- Where a configuration comes from. -/
inductive Origin
  /-- The user's own file. -/
  | user
  /-- A file that was asked for. -/
  | named
  deriving DecidableEq, Repr

/-- The rank of an origin; the settings of a higher one win. -/
def Origin.precedence : Origin → Nat
  | .user => 1
  | .named => 2

/-- A configuration with the file that it was read from. -/
structure Source where
  /-- The path of the file. -/
  path : Text
  /-- Why the file was read. -/
  origin : Origin
  /-- The settings. -/
  config : Config

/-- The path of a name in a directory. -/
def inDirectory (directory name : Text) : Text :=
  if directory = [] ∨ directory.getLast? = some '/' then directory ++ name
  else directory ++ '/' :: name

/-- The directory below the home directory that holds the user's own file. -/
def userDirectory : Text := ".filecore".toList

/-- The name of the user's own file. -/
def userFile : Text := "config.yaml".toList

/-- Reads the configuration in a file. -/
def load (host : Host World) (path : Text) : Run World Config := do
  let stream ← Run.call path (host.readFile path)
  match host.readConfig stream with
  | some config => pure config
  | none => Run.fail (.validation path .invalidYaml)

/-- The path of the user's own file: in the given directory, or below the home directory if that
is known. -/
def userPath? (host : Host World) (directory? : Option Text) : Run World (Option Text) :=
  match directory? with
  | some directory => pure (some (inDirectory directory userFile))
  | none => do
      let home? ← Run.ask host.system.homeDir
      pure (home?.map fun home => inDirectory (inDirectory home userDirectory) userFile)

/-- Reads the user's own file if there is one. -/
def loadUser (host : Host World) (directory? : Option Text) : Run World (List Source) := do
  match ← userPath? host directory? with
  | none => do
      Run.note .noHome
      pure []
  | some path =>
      match ← Run.attempt (host.system.stat path) with
      | .error _ => do
          Run.note (.noUserFile path)
          pure []
      | .ok _ => do
          Run.note (.loadingUserFile path)
          let config ← load host path
          pure [⟨path, .user, config⟩]

/-- Reads the file that was asked for, if any. -/
def loadNamed (host : Host World) (named? : Option Text) : Run World (List Source) :=
  match named? with
  | none => pure []
  | some path => do
      let config ← load host path
      pure [⟨path, .named, config⟩]

/-- Reads all files, the lowest rank first. -/
def loadAll (host : Host World) (directory? named? : Option Text) : Run World (List Source) := do
  let user ← loadUser host directory?
  let named ← loadNamed host named?
  pure (user ++ named)

end Config
end FilePaths
