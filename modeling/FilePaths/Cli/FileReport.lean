import FilePaths.Output.Datum
import FilePaths.Stat.Record
import FilePaths.Time.Calendar

/-!
# Reports on files

The record of a file as it is printed, either for people or for programs.
-/

namespace FilePaths
namespace Cli

/-- The record of a file and the path that it was asked for. -/
structure FileReport where
  /-- The path as it was given. -/
  path : Text
  /-- The record. -/
  stat : FileRecord

namespace FileReport

/-- The mode in octal digits. -/
def modeText (report : FileReport) : Text :=
  Text.digits 8 report.stat.mode.toNat

/-- The permission bits in octal digits, at least four. -/
def permissionText (report : FileReport) : Text :=
  Text.padZero 4 (Text.digits 8 report.stat.permissions.toNat)

/-- The report for programs, with its times printed in the given way. -/
def datumIn (report : FileReport) (showTime : Instant → Text) : Datum :=
  let stat := report.stat
  .record
    [("path", .text report.path), ("ftype", .text stat.kind.name.toList),
      ("mode", .text report.modeText), ("permissions", .text report.permissionText),
      ("dev", .number stat.device.toNat), ("ino", .number stat.inode.toNat),
      ("nlink", .number stat.links.toNat), ("uid", .number stat.owner.toNat),
      ("gid", .number stat.group.toNat), ("rdev", .number stat.special.toNat),
      ("size", .number stat.size.toNat), ("blksize", .number stat.blockSize.toNat),
      ("blocks", .number stat.blocks.toNat), ("atime", .text (showTime stat.accessed)),
      ("mtime", .text (showTime stat.modified)), ("ctime", .text (showTime stat.changed))]

/-- The report for programs, in universal time. -/
def datum (report : FileReport) : Datum :=
  report.datumIn Instant.toText

/-- A number in a line. -/
def shown (number : UInt64) : Text :=
  Text.digits 10 number.toNat

/-- The lines of the report for people, with its times printed in the given way. -/
def linesIn (report : FileReport) (showTime : Instant → Text) : List Text :=
  let stat := report.stat
  [ "  Path: ".toList ++ report.path
  , "  Type: ".toList ++ stat.kind.name.toList
  , "  Mode: ".toList ++ report.modeText ++ " (".toList ++ report.permissionText ++ [')']
  , "  Size: ".toList ++ shown stat.size ++ "  Blocks: ".toList ++ shown stat.blocks ++
      "  IO Block: ".toList ++ shown stat.blockSize
  , "Device: ".toList ++ shown stat.device ++ "  Inode: ".toList ++ shown stat.inode ++
      "  Links: ".toList ++ shown stat.links ++ "  Rdev: ".toList ++ shown stat.special
  , "   Uid: ".toList ++ Text.digits 10 stat.owner.toNat ++ "  Gid: ".toList ++
      Text.digits 10 stat.group.toNat
  , "Access: ".toList ++ showTime stat.accessed
  , "Modify: ".toList ++ showTime stat.modified
  , "Change: ".toList ++ showTime stat.changed ]

end FileReport
end Cli
end FilePaths
