import FilePaths.Config.Printer
import FilePaths.Main
import FilePaths.Proofs.Glob.Alternatives
import FilePaths.Proofs.Path.Sharing
import FilePaths.Proofs.Symlink.Agreement
import FilePaths.Proofs.Symlink.Refusal
import FilePaths.System.Table
import FilePaths.System.Trace
import FilePaths.Proofs.Path.Canonical
import FilePaths.Proofs.Symlink.Idempotence
import FilePaths.Proofs.Symlink.Endless
import FilePaths.Proofs.Symlink.Termination
import FilePaths.Proofs.Config.Precedence
import FilePaths.Proofs.Path.Relative
import FilePaths.Proofs.Path.Splitting
import FilePaths.Proofs.Braces.Escaping
import FilePaths.Proofs.Glob.Casefold
import FilePaths.Proofs.Symlink.Existence
import FilePaths.Proofs.Symlink.Limits
import FilePaths.Proofs.Symlink.Prefix
import FilePaths.Proofs.System.Lookups
import FilePaths.Proofs.Symlink.Lookups
import FilePaths.Proofs.Glob.Flags
import FilePaths.Proofs.Glob.Classes
import FilePaths.Proofs.Glob.Options
import FilePaths.Proofs.Glob.Literal
import FilePaths.Proofs.Path.Levels
import FilePaths.Proofs.Path.Extension
import FilePaths.Proofs.Path.Joining
import FilePaths.Proofs.Config.Overrides
import FilePaths.Proofs.Time.Stamps
import FilePaths.Proofs.Stat.Identity
import FilePaths.Proofs.Config.Validity
import FilePaths.Proofs.Change.Lists
import FilePaths.Proofs.Braces.Pushing
import FilePaths.Proofs.Glob.PathLoop
import FilePaths.Proofs.Cli.ExitCode
