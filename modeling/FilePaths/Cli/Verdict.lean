import FilePaths.Cli.Command
import FilePaths.Stat.Query

/-!
# Answers to questions about files

Every question is answered with yes or no.  Some answers come with a value, and then are yes if
there is one.
-/

namespace FilePaths
namespace Cli

variable {World : Type}

/-- The answer to a question about a file. -/
structure Verdict where
  /-- Yes or no. -/
  holds : Bool
  /-- The value that comes with the answer. -/
  value : Option Text := none
  deriving DecidableEq, Repr

namespace Verdict

/-- An answer without a value. -/
def ofTruth (holds : Bool) : Verdict :=
  { holds }

/-- The answer that a value is. -/
def ofValue (value : Option Text) : Verdict where
  holds := value.isSome
  value := value

/-- The answer that a size is. -/
def ofSize (size? : Option UInt64) : Verdict :=
  ofValue (size?.map fun size => Text.digits 10 size.toNat)

/-- The answer that access bits are. -/
def ofBits (bits? : Option Mode) : Verdict :=
  ofValue (bits?.map fun bits => Text.digits 8 bits.toNat)

end Verdict

/-- The answer to a question about the file at a path. -/
def Predicate.verdict (system : System World) (path : Text) (predicate : Predicate) :
    Run World Verdict :=
  match predicate with
  | .exist => Verdict.ofTruth <$> Query.fileExists system path
  | .file => Verdict.ofTruth <$> Query.isKind system .regular path
  | .directory => Verdict.ofTruth <$> Query.isDirectory system path
  | .symlink => Verdict.ofTruth <$> Query.isSymlink system path
  | .socket => Verdict.ofTruth <$> Query.isKind system .socket path
  | .pipe => Verdict.ofTruth <$> Query.isKind system .fifo path
  | .blockdev => Verdict.ofTruth <$> Query.isKind system .blockDevice path
  | .chardev => Verdict.ofTruth <$> Query.isKind system .charDevice path
  | .setuid => Verdict.ofTruth <$> Query.isSetuid system path
  | .setgid => Verdict.ofTruth <$> Query.isSetgid system path
  | .sticky => Verdict.ofTruth <$> Query.isSticky system path
  | .readable => Verdict.ofTruth <$> Query.isReadable system path
  | .writable => Verdict.ofTruth <$> Query.isWritable system path
  | .executable => Verdict.ofTruth <$> Query.isExecutable system path
  | .owned => Verdict.ofTruth <$> Query.isOwned system path
  | .grpowned => Verdict.ofTruth <$> Query.isGroupOwned system path
  | .zero => Verdict.ofTruth <$> Query.isZero system path
  | .empty => Verdict.ofTruth <$> Query.isZero system path
  | .size => Verdict.ofSize <$> Query.nonzeroSize? system path
  | .worldReadable => Verdict.ofBits <$> Query.worldReadable? system path
  | .worldWritable => Verdict.ofBits <$> Query.worldWritable? system path

end Cli
end FilePaths
