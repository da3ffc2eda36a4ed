import FilePaths.Config.Settings

/-!
# Valid configurations

A configuration is valid if its names are names of something and its number of links is within
bounds.
-/

namespace FilePaths
namespace Config

/-- The greatest number of links that may be set. -/
def depthLimit : Nat := 4096

/-- Checks the number of links that is set, if any. -/
def validateDepth (config : Config) : Except Error Unit :=
  match config.maxDepth? with
  | none => .ok ()
  | some depth =>
      if depth = 0 ∨ depthLimit < depth then
        .error
          (.validation "realpath.max_symlink_depth".toList (.depthOutOfRange depthLimit depth))
      else .ok ()

/-- Checks every setting; the first that is not valid is the error. -/
def validate (config : Config) : Except Error Unit := do
  let _ ← config.globFlags
  config.validateDepth
  let _ ← config.logLevel
  pure ()

end Config
end FilePaths
