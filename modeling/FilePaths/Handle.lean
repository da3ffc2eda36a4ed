import FilePaths.Change
import FilePaths.Config.Settings
import FilePaths.Glob.Match
import FilePaths.Path.Argument
import FilePaths.Symlink.Walk

/-!
# A configured file system

The calls of the operating system together with the settings that operations use where their
caller says nothing.
-/

namespace FilePaths

/-- The calls of a system, and the settings in force. -/
structure Handle (World : Type) where
  /-- The calls of the operating system. -/
  system : System World
  /-- The options of pattern matching. -/
  flags : GlobFlags := .empty
  /-- How canonical paths are found. -/
  strategy : Strategy := .walk
  /-- How many symbolic links one search may follow. -/
  maxDepth : Nat := defaultMaxDepth

namespace Handle

variable {World : Type}

/-- The handle with the settings of a configuration. -/
def configure (handle : Handle World) (config : Config) : Except Error (Handle World) := do
  let flags ← config.globFlags
  pure { handle with flags, strategy := config.strategy, maxDepth := config.maxDepth }

/-- A pattern matches a path under the given options, or under those of the handle. -/
def fnmatch
    (handle : Handle World)
    (flags? : Option GlobFlags)
    (pattern path : Text) :
    Run World Bool := do
  let flags := flags?.getD handle.flags
  if Glob.matchesExpansion flags pattern path then do
    Run.note (.matchedExpansion path pattern)
    pure true
  else pure (Glob.isMatch flags pattern path)

/-- The path without symbolic links that a path leads to. -/
def walk (handle : Handle World) (base? : Option Text) (path : Text) : Run World Text :=
  Symlink.walk handle.system handle.maxDepth base? path

/-- The canonical path of an existing file, by its text. -/
def resolve (handle : Handle World) (base? : Option Text) (path : Text) : Run World Text :=
  Symlink.realpath handle.system handle.strategy handle.maxDepth base? path

/-- The canonical path of an existing file. -/
def realpath
    (handle : Handle World)
    (base? : Option Text)
    (path : Path.Argument) :
    Run World Text := do
  handle.resolve base? (← Run.ofExcept path.toPath)

/-- The canonical path of a file that may be missing in an existing directory. -/
def realdirpath
    (handle : Handle World)
    (base? : Option Text)
    (path : Path.Argument) :
    Run World Text := do
  Symlink.realdirpath handle.system handle.maxDepth base? (← Run.ofExcept path.toPath)

/-- The absolute path that a path stands for, a tilde in front read as the home directory. -/
def expandPath
    (handle : Handle World)
    (base? : Option Text)
    (path : Path.Argument) :
    Run World Text := do
  Path.expand handle.system true base? (← Run.ofExcept path.toPath)

/-- The absolute path that a path stands for, a tilde being an ordinary character. -/
def absolutePath
    (handle : Handle World)
    (base? : Option Text)
    (path : Path.Argument) :
    Run World Text := do
  Path.expand handle.system false base? (← Run.ofExcept path.toPath)

end Handle
end FilePaths
