import FilePaths.Stat.Record
import FilePaths.System.Run

/-!
# Questions about files

A record can be asked for, which fails if there is no file.  Or a question is put to the record
of a path, and then a path where nothing stands is simply answered with no.
-/

namespace FilePaths
namespace Query

variable {World : Type}

/-- How a descriptor is named in a message. -/
def descriptorName (descriptor : Int) : Text :=
  'f' :: 'd' :: ' ' :: Text.decimal descriptor

/-- The record of a file, symbolic links followed. -/
def stat (system : System World) (path : Text) : Run World FileRecord := do
  pure (FileRecord.ofSystem (← Run.call path (system.stat path)))

/-- The record of a file, the last symbolic link not followed. -/
def lstat (system : System World) (path : Text) : Run World FileRecord := do
  pure (FileRecord.ofSystem (← Run.call path (system.lstat path)))

/-- The record of an open file. -/
def fstat (system : System World) (descriptor : Int) : Run World FileRecord := do
  pure (FileRecord.ofSystem (← Run.call (descriptorName descriptor) (system.fstat descriptor)))

/-- The record that a call finds for a path, or nothing if nothing stands there. -/
def probe (call : Call World SystemRecord) (path : Text) : Run World (Option FileRecord) := do
  match ← Run.attempt call with
  | .ok record => pure (some (FileRecord.ofSystem record))
  | .error cause =>
      if cause.isAbsence then pure none else Run.fail (Error.ofCause cause path)

/-- What is known of the file at a path, symbolic links followed. -/
def find (system : System World) (path : Text) : Run World (Option FileRecord) :=
  probe (system.stat path) path

/-- What is known of the entry at a path, a symbolic link being an entry of its own. -/
def findEntry (system : System World) (path : Text) : Run World (Option FileRecord) :=
  probe (system.lstat path) path

/-- The file at a path passes a test. -/
def holds (system : System World) (test : FileRecord → Bool) (path : Text) :
    Run World Bool := do
  pure ((← find system path).any test)

/-- There is a file. -/
def fileExists (system : System World) (path : Text) : Run World Bool :=
  holds system (fun _ => true) path

/-- There is a file of the given kind. -/
def isKind (system : System World) (kind : FileKind) (path : Text) : Run World Bool :=
  holds system (FileRecord.isKind kind) path

/-- There is a directory. -/
def isDirectory (system : System World) (path : Text) : Run World Bool :=
  isKind system .directory path

/-- There is a symbolic link. -/
def isSymlink (system : System World) (path : Text) : Run World Bool := do
  pure ((← findEntry system path).any (FileRecord.isKind .symlink))

/-- There is a file that runs with the rights of its owner. -/
def isSetuid (system : System World) (path : Text) : Run World Bool :=
  holds system (fun stat => Mode.isSetuid stat.mode) path

/-- There is a file that runs with the rights of its group. -/
def isSetgid (system : System World) (path : Text) : Run World Bool :=
  holds system (fun stat => Mode.isSetgid stat.mode) path

/-- There is a file with the sticky bit. -/
def isSticky (system : System World) (path : Text) : Run World Bool :=
  holds system (fun stat => Mode.isSticky stat.mode) path

/-- There is an empty file. -/
def isZero (system : System World) (path : Text) : Run World Bool :=
  holds system FileRecord.isZero path

/-- The access bits of a file that all others may read. -/
def worldReadable? (system : System World) (path : Text) : Run World (Option Mode) := do
  pure ((← find system path).bind fun stat => Mode.worldReadable? stat.mode)

/-- The access bits of a file that all others may write. -/
def worldWritable? (system : System World) (path : Text) : Run World (Option Mode) := do
  pure ((← find system path).bind fun stat => Mode.worldWritable? stat.mode)

/-- The size of a file that is not empty. -/
def nonzeroSize? (system : System World) (path : Text) : Run World (Option UInt64) := do
  pure ((← find system path).bind FileRecord.nonzeroSize?)

/-- A record passes a test that depends on the effective ids; these are looked up only if there
is a record. -/
def passes
    (system : System World)
    (test : FileRecord → (user group : UInt32) → Bool) :
    Option FileRecord → Run World Bool
  | none => pure false
  | some stat => do
      let (user, group) ← Run.ask system.effectiveIds
      pure (test stat user group)

/-- The process may read the file. -/
def isReadable (system : System World) (path : Text) : Run World Bool := do
  passes system FileRecord.isReadableBy (← find system path)

/-- The process may write the file. -/
def isWritable (system : System World) (path : Text) : Run World Bool := do
  passes system FileRecord.isWritableBy (← find system path)

/-- The process may run or search the file. -/
def isExecutable (system : System World) (path : Text) : Run World Bool := do
  passes system FileRecord.isExecutableBy (← find system path)

/-- The effective user owns the file. -/
def isOwned (system : System World) (path : Text) : Run World Bool := do
  passes system (fun stat user _ => stat.isOwnedBy user) (← find system path)

/-- The effective group owns the entry; a symbolic link is not followed. -/
def isGroupOwned (system : System World) (path : Text) : Run World Bool := do
  passes system (fun stat _ group => stat.isGroupOwnedBy group) (← findEntry system path)

/-- The size of a file. -/
def size (system : System World) (path : Text) : Run World UInt64 := do
  pure (← stat system path).size

/-- The kind of an entry. -/
def kind (system : System World) (path : Text) : Run World FileKind := do
  pure (← lstat system path).kind

/-- The last access. -/
def accessed (system : System World) (path : Text) : Run World Instant := do
  pure (← stat system path).accessed

/-- The last change of the contents. -/
def modified (system : System World) (path : Text) : Run World Instant := do
  pure (← stat system path).modified

/-- The last change of the record. -/
def changed (system : System World) (path : Text) : Run World Instant := do
  pure (← stat system path).changed

/-- Both paths lead to the same file; a path without a file leads to none. -/
def isIdentical (system : System World) (first second : Text) : Run World Bool := do
  match ← find system first with
  | none => pure false
  | some stat => holds system stat.sameFile second

/-- The descriptor is open on a directory. -/
def isDirectoryDescriptor (system : System World) (descriptor : Int) : Run World Bool := do
  pure ((← fstat system descriptor).isKind .directory)

/-- The size of an open file. -/
def sizeOfDescriptor (system : System World) (descriptor : Int) : Run World UInt64 := do
  pure (← fstat system descriptor).size

end Query
end FilePaths
