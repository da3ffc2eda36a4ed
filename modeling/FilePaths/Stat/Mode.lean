/-!
# File modes

The mode of a file is a word of bits: four bits say what kind of file it is, three bits change
how it is run or who may delete in it, and nine bits grant access to its owner, its group and
all others.
-/

namespace FilePaths

/-- The kind and the permission bits of a file. -/
abbrev Mode := UInt32

/-- The kinds of files. -/
inductive FileKind
  | regular
  | directory
  | charDevice
  | blockDevice
  | fifo
  | symlink
  | socket
  | unknown
  deriving DecidableEq, Repr

namespace FileKind

/-- The name of a kind. -/
def name : FileKind → String
  | .regular => "file"
  | .directory => "directory"
  | .charDevice => "characterSpecial"
  | .blockDevice => "blockSpecial"
  | .fifo => "fifo"
  | .symlink => "link"
  | .socket => "socket"
  | .unknown => "unknown"

/-- The kind that a mode says. -/
def ofMode (mode : Mode) : FileKind :=
  let bits := mode &&& 0xF000
  if bits = 0x8000 then .regular
  else if bits = 0x4000 then .directory
  else if bits = 0x2000 then .charDevice
  else if bits = 0x6000 then .blockDevice
  else if bits = 0x1000 then .fifo
  else if bits = 0xA000 then .symlink
  else if bits = 0xC000 then .socket
  else .unknown

/-- The bits that say a kind. -/
def bits : FileKind → Mode
  | .regular => 0x8000
  | .directory => 0x4000
  | .charDevice => 0x2000
  | .blockDevice => 0x6000
  | .fifo => 0x1000
  | .symlink => 0xA000
  | .socket => 0xC000
  | .unknown => 0

end FileKind

namespace Mode

/-- All bits but those of the kind. -/
def permissionMask : Mode := 0o7777

/-- The bits that grant access. -/
def accessMask : Mode := 0o777

/-- Some of the given bits are set. -/
def has (mode bits : Mode) : Bool :=
  mode &&& bits != 0

/-- The file runs with the rights of its owner. -/
def isSetuid (mode : Mode) : Bool := has mode 0o4000

/-- The file runs with the rights of its group. -/
def isSetgid (mode : Mode) : Bool := has mode 0o2000

/-- Only owners may delete in the directory. -/
def isSticky (mode : Mode) : Bool := has mode 0o1000

/-- The access bits, if all others may read. -/
def worldReadable? (mode : Mode) : Option Mode :=
  if has mode 0o4 then some (mode &&& accessMask) else none

/-- The access bits, if all others may write. -/
def worldWritable? (mode : Mode) : Option Mode :=
  if has mode 0o2 then some (mode &&& accessMask) else none

/-- The mode that a number given by a caller stands for: a number beyond sixteen bits, or below
zero, stands for no bits at all and is not cut to its low bits. -/
def ofNumber (number : Int) : Mode :=
  if 0 ≤ number ∧ number ≤ 0xFFFF then UInt32.ofNat number.toNat else 0

end Mode
end FilePaths
