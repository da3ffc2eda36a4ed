import FilePaths.Stat.Mode
import FilePaths.Time.Instant

/-!
# What is known about a file

The record that the system keeps about a file, as it comes with stamps and as it is used with
instants, and what it says about a process with given effective ids.
-/

namespace FilePaths

/-- All that the record of a file holds except its times. -/
structure Attributes where
  /-- The device that holds the file. -/
  device : UInt64 := 0
  /-- The number of the file on its device. -/
  inode : UInt64 := 0
  /-- Kind and permission bits. -/
  mode : Mode := 0
  /-- The number of names of the file. -/
  links : UInt64 := 0
  /-- The user id of the owner. -/
  owner : UInt32 := 0
  /-- The group id. -/
  group : UInt32 := 0
  /-- The device that a special file stands for. -/
  special : UInt64 := 0
  /-- The length in bytes. -/
  size : UInt64 := 0
  /-- The block size that suits the file best. -/
  blockSize : UInt64 := 0
  /-- The number of allocated blocks of 512 bytes. -/
  blocks : UInt64 := 0
  deriving DecidableEq, Repr

/-- The record of a file as the system hands it out, its times as seconds and nanoseconds. -/
structure SystemRecord extends Attributes where
  /-- The last access. -/
  accessed : Int64 × Int64 := (0, 0)
  /-- The last change of the contents. -/
  modified : Int64 × Int64 := (0, 0)
  /-- The last change of the record. -/
  changed : Int64 × Int64 := (0, 0)
  deriving DecidableEq, Repr

/-- The record of a file at one moment. -/
structure FileRecord extends Attributes where
  /-- The last access. -/
  accessed : Instant
  /-- The last change of the contents. -/
  modified : Instant
  /-- The last change of the record. -/
  changed : Instant
  deriving DecidableEq, Repr

namespace FileRecord

/-- Reads the stamps of a record. -/
def ofSystem (record : SystemRecord) : FileRecord where
  toAttributes := record.toAttributes
  accessed := Instant.ofStamp record.accessed.1 record.accessed.2
  modified := Instant.ofStamp record.modified.1 record.modified.2
  changed := Instant.ofStamp record.changed.1 record.changed.2

/-- The kind of the file. -/
def kind (stat : FileRecord) : FileKind :=
  FileKind.ofMode stat.mode

/-- The permission bits. -/
def permissions (stat : FileRecord) : Mode :=
  stat.mode &&& Mode.permissionMask

/-- The file has the given kind. -/
def isKind (kind : FileKind) (stat : FileRecord) : Bool :=
  stat.kind == kind

/-- The file is empty. -/
def isZero (stat : FileRecord) : Bool :=
  stat.size == 0

/-- The size of a file that is not empty. -/
def nonzeroSize? (stat : FileRecord) : Option UInt64 :=
  if stat.size = 0 then none else some stat.size

/-- The user owns the file. -/
def isOwnedBy (stat : FileRecord) (user : UInt32) : Bool :=
  stat.owner == user

/-- The group owns the file. -/
def isGroupOwnedBy (stat : FileRecord) (group : UInt32) : Bool :=
  stat.group == group

/-- One of three bits is set: the first counts for the owner, the second for others of the
group, the third for everyone else. -/
def grants
    (stat : FileRecord)
    (user group : UInt32)
    (ownerBit groupBit otherBit : Mode) :
    Bool :=
  Mode.has stat.mode
    (if stat.owner = user then ownerBit
    else if stat.group = group then groupBit
    else otherBit)

/-- The process may read the file; the superuser may read any. -/
def isReadableBy (stat : FileRecord) (user group : UInt32) : Bool :=
  user == 0 || stat.grants user group 0o400 0o040 0o004

/-- The process may write the file; the superuser may write any. -/
def isWritableBy (stat : FileRecord) (user group : UInt32) : Bool :=
  user == 0 || stat.grants user group 0o200 0o020 0o002

/-- The process may run the file, or search it if it is a directory.  For the superuser one such
bit is enough, and a directory needs none. -/
def isExecutableBy (stat : FileRecord) (user group : UInt32) : Bool :=
  if user = 0 then Mode.has stat.mode 0o111 || stat.isKind .directory
  else stat.grants user group 0o100 0o010 0o001

/-- Two records are about the same file. -/
def sameFile (first second : FileRecord) : Bool :=
  first.device == second.device && first.inode == second.inode && first.kind == second.kind

end FileRecord
end FilePaths
