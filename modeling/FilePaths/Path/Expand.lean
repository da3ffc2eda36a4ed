import FilePaths.Path.Join
import FilePaths.System.Run

/-!
# Absolute paths

A relative path is read from a base directory or from the working directory, and a tilde in front
may stand for the home directory.  Dots are then resolved on the text; links are not followed.
-/

namespace FilePaths
namespace Path

variable {World : Type}

/-- The path with the tilde in front of it replaced by the home directory.  A tilde before a name
would mean the home of another user, which is refused. -/
def expandHome (system : System World) (path : Text) : Run World Text := do
  let rest := path.drop 1
  if rest ≠ [] ∧ !isAbsolute rest then Run.fail (.invalidArgument (.otherUser path))
  else
    match ← Run.ask system.homeDir with
    | none => Run.fail (.invalidArgument (.unknownHome path))
    | some home =>
        if isAbsolute home then pure (if rest = [] then home else join [home, rest])
        else Run.fail (.invalidArgument (.relativeHome home))

/-- The absolute path that a path stands for, if a relative path is read from the directory that
the given computation finds. -/
def expandFrom
    (system : System World)
    (tilde : Bool)
    (directory : Run World Text)
    (path : Text) :
    Run World Text := do
  Run.ofExcept (checkNull path)
  let absolute ←
    if tilde ∧ path.head? = some '~' then expandHome system path
    else if isAbsolute path then pure path
    else do
      let directory ← directory
      pure (if path = [] then directory else join [directory, path])
  pure (resolve absolute)

/-- The working directory. -/
def workingDirectory (system : System World) : Run World Text :=
  Run.call ['.'] system.currentDir

/-- The absolute path that a path stands for.  A base is expanded first, from the working
directory; it is not looked at if the path does not need it. -/
def expand
    (system : System World)
    (tilde : Bool)
    (base? : Option Text)
    (path : Text) :
    Run World Text :=
  match base? with
  | none => expandFrom system tilde (workingDirectory system) path
  | some base =>
      expandFrom system tilde (expandFrom system tilde (workingDirectory system) base) path

end Path
end FilePaths
