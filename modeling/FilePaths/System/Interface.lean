import FilePaths.Error
import FilePaths.Stat.Record

/-!
# The operating system

Everything outside the library is reached through one record of calls.  A call takes the state of
the outside world and gives an answer and the state that it leaves behind, so that a world which
answers the same question differently from call to call is as good as any other.
-/

namespace FilePaths

/-- A call that may fail, over worlds of a given type. -/
abbrev Call (World Value : Type) :=
  World → Except Cause Value × World

/-- The calls of the operating system. -/
structure System (World : Type) where
  /-- The record of a file, symbolic links followed. -/
  stat : (path : Text) → Call World SystemRecord
  /-- The record of a file, the last symbolic link not followed. -/
  lstat : (path : Text) → Call World SystemRecord
  /-- The record of an open file. -/
  fstat : (descriptor : Int) → Call World SystemRecord
  /-- The target of a symbolic link. -/
  readlink : (path : Text) → Call World Text
  /-- The canonical path as the system itself finds it. -/
  realpath : (path : Text) → Call World Text
  /-- Sets the permission bits, symbolic links followed. -/
  chmod : (path : Text) → (mode : Mode) → Call World Unit
  /-- Sets the permission bits of an open file. -/
  fchmod : (descriptor : Int) → (mode : Mode) → Call World Unit
  /-- Sets the permission bits of a symbolic link itself. -/
  lchmod : (path : Text) → (mode : Mode) → Call World Unit
  /-- Sets owner and group, symbolic links followed; an absent id stays. -/
  chown : (path : Text) → (owner group : Option UInt32) → Call World Unit
  /-- Sets owner and group of an open file. -/
  fchown : (descriptor : Int) → (owner group : Option UInt32) → Call World Unit
  /-- Sets owner and group of a symbolic link itself. -/
  lchown : (path : Text) → (owner group : Option UInt32) → Call World Unit
  /-- Gives a file another name. -/
  link : (old new : Text) → Call World Unit
  /-- Creates a symbolic link at the second path that holds the first text. -/
  symlink : (target new : Text) → Call World Unit
  /-- Moves a file to another name. -/
  rename : (source target : Text) → Call World Unit
  /-- Takes a name away. -/
  unlink : (path : Text) → Call World Unit
  /-- Sets the length of a file. -/
  truncate : (path : Text) → (length : UInt64) → Call World Unit
  /-- Sets the length of an open file. -/
  ftruncate : (descriptor : Int) → (length : UInt64) → Call World Unit
  /-- Sets the times of access and change, symbolic links followed. -/
  utimes : (path : Text) → (accessed modified : Instant) → Call World Unit
  /-- Sets the times of a symbolic link itself. -/
  lutimes : (path : Text) → (accessed modified : Instant) → Call World Unit
  /-- Creates a named pipe. -/
  mkfifo : (path : Text) → (mode : Mode) → Call World Unit
  /-- Sets the bits that new files do not get, and gives the bits set before. -/
  umask : (mask : Mode) → World → Mode × World
  /-- The working directory. -/
  currentDir : Call World Text
  /-- The home directory, if it is known. -/
  homeDir : World → Option Text × World
  /-- The effective user and group ids. -/
  effectiveIds : World → (UInt32 × UInt32) × World
  /-- There is a call that sets the permission bits of a symbolic link. -/
  hasLchmod : World → Bool × World
  /-- The time by the clock. -/
  now : World → Instant × World

end FilePaths
