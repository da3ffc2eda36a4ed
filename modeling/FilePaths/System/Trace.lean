import FilePaths.System.Interface

/-!
# Traces of calls

A system can be watched: the watched system answers as the system does and keeps a list of the
calls that reach it.  Questions about the process itself, such as its working directory, are not
listed.
-/

namespace FilePaths

/-- A call of the operating system with its arguments. -/
inductive SystemCall
  | stat (path : Text)
  | lstat (path : Text)
  | fstat (descriptor : Int)
  | readlink (path : Text)
  | realpath (path : Text)
  | chmod (path : Text) (mode : Mode)
  | fchmod (descriptor : Int) (mode : Mode)
  | lchmod (path : Text) (mode : Mode)
  | chown (path : Text) (owner group : Option UInt32)
  | fchown (descriptor : Int) (owner group : Option UInt32)
  | lchown (path : Text) (owner group : Option UInt32)
  | link (old new : Text)
  | symlink (target new : Text)
  | rename (source target : Text)
  | unlink (path : Text)
  | truncate (path : Text) (length : UInt64)
  | ftruncate (descriptor : Int) (length : UInt64)
  | utimes (path : Text) (accessed modified : Instant)
  | lutimes (path : Text) (accessed modified : Instant)
  | mkfifo (path : Text) (mode : Mode)
  | umask (mask : Mode)
  deriving DecidableEq, Repr

/-- A world and the calls that have reached it, the latest first. -/
structure Watched (World : Type) where
  /-- The world itself. -/
  world : World
  /-- The calls so far. -/
  calls : List SystemCall := []

namespace Watched

variable {World Value : Type}

/-- Passes a question on, and keeps no trace of it. -/
def pass (question : World → Value × World) :
    Watched World → Value × Watched World :=
  fun watched =>
    let (value, world) := question watched.world
    (value, { watched with world })

/-- Passes a question on, and keeps the call. -/
def keep (call : SystemCall) (question : World → Value × World) :
    Watched World → Value × Watched World :=
  fun watched =>
    let (value, world) := question watched.world
    (value, ⟨world, call :: watched.calls⟩)

end Watched

/-- The system with all its calls watched. -/
def System.watched {World : Type} (system : System World) :
    System (Watched World) where
  stat path := Watched.keep (.stat path) (system.stat path)
  lstat path := Watched.keep (.lstat path) (system.lstat path)
  fstat descriptor := Watched.keep (.fstat descriptor) (system.fstat descriptor)
  readlink path := Watched.keep (.readlink path) (system.readlink path)
  realpath path := Watched.keep (.realpath path) (system.realpath path)
  chmod path mode := Watched.keep (.chmod path mode) (system.chmod path mode)
  fchmod descriptor mode :=
    Watched.keep (.fchmod descriptor mode) (system.fchmod descriptor mode)
  lchmod path mode := Watched.keep (.lchmod path mode) (system.lchmod path mode)
  chown path owner group :=
    Watched.keep (.chown path owner group) (system.chown path owner group)
  fchown descriptor owner group :=
    Watched.keep (.fchown descriptor owner group) (system.fchown descriptor owner group)
  lchown path owner group :=
    Watched.keep (.lchown path owner group) (system.lchown path owner group)
  link old new := Watched.keep (.link old new) (system.link old new)
  symlink target new := Watched.keep (.symlink target new) (system.symlink target new)
  rename source target := Watched.keep (.rename source target) (system.rename source target)
  unlink path := Watched.keep (.unlink path) (system.unlink path)
  truncate path length := Watched.keep (.truncate path length) (system.truncate path length)
  ftruncate descriptor length :=
    Watched.keep (.ftruncate descriptor length) (system.ftruncate descriptor length)
  utimes path accessed modified :=
    Watched.keep (.utimes path accessed modified) (system.utimes path accessed modified)
  lutimes path accessed modified :=
    Watched.keep (.lutimes path accessed modified) (system.lutimes path accessed modified)
  mkfifo path mode := Watched.keep (.mkfifo path mode) (system.mkfifo path mode)
  currentDir := Watched.pass system.currentDir
  umask mask := Watched.keep (.umask mask) (system.umask mask)
  homeDir := Watched.pass system.homeDir
  effectiveIds := Watched.pass system.effectiveIds
  hasLchmod := Watched.pass system.hasLchmod
  now := Watched.pass system.now

end FilePaths
