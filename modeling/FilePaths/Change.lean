import FilePaths.Stat.Query

/-!
# Changes

Operations that change the records of files, or the entries of directories.  An operation on a
list applies one change to each path in order; the first failure ends it, and what has been
changed before stays changed.
-/

namespace FilePaths
namespace Change

variable {World : Type}

/-- Applies a change to each path. -/
def forEach
    (operation : String)
    (change : Text → Call World Unit) :
    List Text → Run World Unit
  | [] => pure ()
  | path :: paths => do
      Run.note (.applied operation path)
      Run.call path (change path)
      forEach operation change paths

/-- Applies a change to each path, and gives the number of paths. -/
def count
    (operation : String)
    (change : Text → Call World Unit)
    (paths : List Text) :
    Run World Nat := do
  forEach operation change paths
  pure paths.length

/-- Sets the permission bits of each file. -/
def chmod (system : System World) (mode : Int) (paths : List Text) : Run World Nat :=
  count "chmod" (fun path => system.chmod path (Mode.ofNumber mode)) paths

/-- Sets the permission bits of each symbolic link itself, where the system can. -/
def lchmod (system : System World) (mode : Int) (paths : List Text) : Run World Nat := do
  if ← Run.ask system.hasLchmod then
    count "lchmod" (fun path => system.lchmod path (Mode.ofNumber mode)) paths
  else Run.fail (.unsupported "lchmod")

/-- Sets owner and group of each file; an absent id stays. -/
def chown
    (system : System World)
    (owner group : Option UInt32)
    (paths : List Text) :
    Run World Nat :=
  count "chown" (fun path => system.chown path owner group) paths

/-- Sets owner and group of each symbolic link itself. -/
def lchown
    (system : System World)
    (owner group : Option UInt32)
    (paths : List Text) :
    Run World Nat :=
  count "lchown" (fun path => system.lchown path owner group) paths

/-- Sets the times of each file; an absent time is the present one, read once. -/
def utime
    (system : System World)
    (accessed modified : Option Instant)
    (paths : List Text) :
    Run World Nat := do
  let now ← Run.ask system.now
  count "utime" (fun path => system.utimes path (accessed.getD now) (modified.getD now)) paths

/-- Sets the times of each symbolic link itself. -/
def lutime
    (system : System World)
    (accessed modified : Option Instant)
    (paths : List Text) :
    Run World Nat := do
  let now ← Run.ask system.now
  count "lutime" (fun path => system.lutimes path (accessed.getD now) (modified.getD now)) paths

/-- Takes each name away. -/
def unlink (system : System World) (paths : List Text) : Run World Nat :=
  count "unlink" system.unlink paths

/-- Gives a file another name; a failure is one of the new name. -/
def link (system : System World) (old new : Text) : Run World Unit :=
  Run.call new (system.link old new)

/-- Creates a symbolic link that holds the given target as it is. -/
def symlink (system : System World) (target new : Text) : Run World Unit :=
  Run.call new (system.symlink target new)

/-- Moves a file to another name; a failure is one of the old name. -/
def rename (system : System World) (source target : Text) : Run World Unit :=
  Run.call source (system.rename source target)

/-- The target of a symbolic link as it is. -/
def readlink (system : System World) (path : Text) : Run World Text :=
  Run.call path (system.readlink path)

/-- Sets the length of a file that must exist. -/
def truncate (system : System World) (path : Text) (length : UInt64) : Run World Unit := do
  if ← Query.fileExists system path then Run.call path (system.truncate path length)
  else Run.fail (.notFound path)

/-- The permission bits of a named pipe, unless others are asked for. -/
def defaultPipeMode : Mode := 0o666

/-- Creates a named pipe. -/
def mkfifo (system : System World) (path : Text) (mode : Option Mode) : Run World Unit :=
  Run.call path (system.mkfifo path (mode.getD defaultPipeMode))

/-- Sets the bits that new files do not get, and gives those set before.  They can only be read
by setting them, so reading sets them twice. -/
def umask (system : System World) (mask : Option Int) : Run World Mode :=
  match mask with
  | some mask => Run.ask (system.umask (Mode.ofNumber mask))
  | none => do
      let old ← Run.ask (system.umask 0)
      let _ ← Run.ask (system.umask old)
      pure old

/-- Sets the permission bits of an open file. -/
def fchmod (system : System World) (descriptor : Int) (mode : Int) : Run World Unit :=
  Run.call (Query.descriptorName descriptor) (system.fchmod descriptor (Mode.ofNumber mode))

/-- Sets owner and group of an open file. -/
def fchown
    (system : System World)
    (descriptor : Int)
    (owner group : Option UInt32) :
    Run World Unit :=
  Run.call (Query.descriptorName descriptor) (system.fchown descriptor owner group)

/-- Sets the length of an open file. -/
def ftruncate (system : System World) (descriptor : Int) (length : UInt64) : Run World Unit :=
  Run.call (Query.descriptorName descriptor) (system.ftruncate descriptor length)

end Change
end FilePaths
