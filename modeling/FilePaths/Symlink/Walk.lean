import FilePaths.Path.Expand
import FilePaths.Stat.Query
import FilePaths.Symlink.Strategy

/-!
# Canonical paths

A path is made canonical by looking at its starts, from the shortest on.  The first start that is
a symbolic link is replaced by the target of the link, and the search begins anew, until no start
is a link.  A link that is met twice ends the search, and so does one link too many.  What has
been looked at and what has not are kept apart, so that no start is asked about twice between two
links.
-/

namespace FilePaths
namespace Symlink

variable {World : Type}

/-- The path that is left when a link is replaced by its target.  The target is read from the
directory of the link, and a tilde in it means nothing. -/
def replaceLink (system : System World) (link rest : Text) : Run World Text := do
  let target ← Run.call link (system.readlink link)
  Run.note (.followed link target)
  let next := if rest = [] then target else Path.join [target, rest]
  Path.expand system false (some (Path.dirname link)) next

/-- A link is refused if it has been visited, or if there is one above the limit. -/
def isRefused (limit : Nat) (visited : List Text) (link : Text) : Bool :=
  visited.contains link || limit ≤ visited.length

theorem isRefused_iff
    {limit : Nat}
    {visited : List Text}
    {link : Text} :
    isRefused limit visited link = true ↔ link ∈ visited ∨ limit ≤ visited.length := by
  simp [isRefused]

/-- Looks at the starts of an absolute path, from the shortest on: `real` is what has been looked
at, `pending` what stands behind it.  A link that is not refused is replaced by its target, and the
search begins anew. -/
def advance
    (system : System World)
    (limit : Nat)
    (visited : List Text)
    (real : Text) :
    (pending : Text) → Run World Text
  | [] => pure real
  | slash :: behind => do
      let real := Path.join [real, slash :: behind.takeWhile fun c => !Path.isSlash c]
      let rest := behind.dropWhile fun c => !Path.isSlash c
      if ← Query.isSymlink system real then
        if _refused : isRefused limit visited real then
          Run.fail (.tooManySymlinks real)
        else do
          let pending ← replaceLink system real rest
          advance system limit (real :: visited) [] pending
      else advance system limit visited real rest
termination_by pending => (limit - visited.length, pending.length)
decreasing_by
  · have isWithin : visited.length < limit :=
      Nat.lt_of_not_le fun isFull => _refused (isRefused_iff.mpr (.inr isFull))
    exact .left _ _ (by simp only [List.length_cons]; omega)
  · exact .right _ (Nat.lt_succ_of_le (List.dropWhile_suffix _).length_le)

/-- The path without symbolic links that a path leads to, whether or not there is a file. -/
def walk
    (system : System World)
    (limit : Nat)
    (base? : Option Text)
    (path : Text) :
    Run World Text := do
  let pending ← Path.expand system true base? path
  advance system limit [] [] pending

/-- The canonical path by the given strategy.  Where the system has no call for it, the path is
walked. -/
def canonical
    (system : System World)
    (strategy : Strategy)
    (limit : Nat)
    (path : Text) :
    Run World Text :=
  match strategy with
  | .walk => walk system limit none path
  | .native => do
      match ← Run.attempt (system.realpath path) with
      | .ok real => pure real
      | .error cause =>
          if cause = .notImplemented then do
            Run.note (.nativeUnavailable path)
            walk system limit none path
          else Run.fail (Error.ofCause cause path)

/-- The canonical path of a file that must exist.  An absolute path is taken as it is. -/
def realpath
    (system : System World)
    (strategy : Strategy)
    (limit : Nat)
    (base? : Option Text)
    (path : Text) :
    Run World Text := do
  let target ←
    if Path.isAbsolute path then do
      Run.ofExcept (Path.checkNull path)
      pure path
    else Path.expand system true base? path
  let real ← canonical system strategy limit target
  if ← Query.fileExists system real then pure real else Run.fail (.notFound real)

/-- The canonical path of a file that may be missing, in a directory that must exist. -/
def realdirpath
    (system : System World)
    (limit : Nat)
    (base? : Option Text)
    (path : Text) :
    Run World Text := do
  let real ← walk system limit base? path
  if ← Query.isDirectory system (Path.dirname real) then pure real
  else Run.fail (.notFound real)

end Symlink
end FilePaths
