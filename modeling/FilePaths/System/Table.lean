import FilePaths.System.Interface

/-!
# Systems that answer from a table

A system whose answers are written down beforehand.  Calls that would change something only say
whether they succeed; the bits that new files do not get are all that it remembers.
-/

namespace FilePaths

/-- The answers of a system, by path or by descriptor. -/
structure Table where
  /-- The records of files. -/
  stats : List (Text × Except Cause SystemRecord) := []
  /-- The records of entries, where they differ from those of the files. -/
  entries : List (Text × Except Cause SystemRecord) := []
  /-- The records of open files. -/
  descriptors : List (Int × Except Cause SystemRecord) := []
  /-- The targets of symbolic links. -/
  targets : List (Text × Except Cause Text) := []
  /-- The canonical paths that the system finds. -/
  canonical : List (Text × Except Cause Text) := []
  /-- The working directory. -/
  directory : Except Cause Text
  /-- The home directory. -/
  home : Option Text
  /-- The effective user and group ids. -/
  ids : UInt32 × UInt32
  /-- There is a call that sets the permission bits of a symbolic link. -/
  hasLchmod : Bool := false
  /-- The calls that fail, by their names and, behind a blank, what they are made for. -/
  failures : List (Text × Cause) := []
  /-- The time by the clock. -/
  clock : Instant := .epoch

namespace Table

/-- The answer to a question that changes nothing. -/
def answer
    {Key Value : Type}
    [BEq Key]
    (rows : List (Key × Except Cause Value))
    (otherwise : Except Cause Value)
    (key : Key) :
    Call Mode Value :=
  fun mask => ((rows.lookup key).getD otherwise, mask)

/-- The answer to a call that changes something. -/
def change (table : Table) (call : String) (key : Text) : Call Mode Unit :=
  fun mask =>
    match table.failures.lookup (call.toList ++ ' ' :: key) with
    | some cause => (.error cause, mask)
    | none => (.ok (), mask)

/-- The system that answers from a table. -/
def system (table : Table) : System Mode where
  stat := answer table.stats (.error .noEntry)
  lstat := answer (table.entries ++ table.stats) (.error .noEntry)
  fstat := answer table.descriptors (.error .badDescriptor)
  readlink := answer table.targets (.error .noEntry)
  realpath := answer table.canonical (.error .noEntry)
  chmod path _ := table.change "chmod" path
  fchmod descriptor _ := table.change "fchmod" (Text.decimal descriptor)
  lchmod path _ := table.change "lchmod" path
  chown path _ _ := table.change "chown" path
  fchown descriptor _ _ := table.change "fchown" (Text.decimal descriptor)
  lchown path _ _ := table.change "lchown" path
  link _ new := table.change "link" new
  symlink _ new := table.change "symlink" new
  rename source _ := table.change "rename" source
  unlink path := table.change "unlink" path
  truncate path _ := table.change "truncate" path
  ftruncate descriptor _ := table.change "ftruncate" (Text.decimal descriptor)
  utimes path _ _ := table.change "utimes" path
  lutimes path _ _ := table.change "lutimes" path
  mkfifo path _ := table.change "mkfifo" path
  currentDir mask := (table.directory, mask)
  umask mask old := (old, mask)
  homeDir mask := (table.home, mask)
  effectiveIds mask := (table.ids, mask)
  hasLchmod mask := (table.hasLchmod, mask)
  now mask := (table.clock, mask)

end Table
end FilePaths
