import FilePaths.Config.Settings
import FilePaths.Path.Argument

/-!
# Commands

What the program can be asked to do, with everything that it has to know for it.
-/

namespace FilePaths
namespace Cli

/-- The shells that completions can be set up for. -/
inductive Shell
  | bash
  | elvish
  | fish
  | powershell
  | zsh
  deriving DecidableEq, Repr

namespace Shell

/-- All shells. -/
def all : List Shell :=
  [.bash, .elvish, .fish, .powershell, .zsh]

/-- The name of a shell. -/
def name : Shell → String
  | .bash => "bash"
  | .elvish => "elvish"
  | .fish => "fish"
  | .powershell => "powershell"
  | .zsh => "zsh"

/-- The shell with exactly the given name. -/
def ofName? (name : Text) : Option Shell :=
  all.find? fun shell => shell.name.toList == name

end Shell

/-- The questions that can be asked about a file. -/
inductive Predicate
  | exist
  | file
  | directory
  | symlink
  | socket
  | pipe
  | blockdev
  | chardev
  | setuid
  | setgid
  | sticky
  | readable
  | writable
  | executable
  | owned
  | grpowned
  | zero
  | empty
  | size
  | worldReadable
  | worldWritable
  deriving DecidableEq, Repr

namespace Predicate

/-- All questions. -/
def all : List Predicate :=
  [.exist, .file, .directory, .symlink, .socket, .pipe, .blockdev, .chardev, .setuid, .setgid,
    .sticky, .readable, .writable, .executable, .owned, .grpowned, .zero, .empty, .size,
    .worldReadable, .worldWritable]

/-- The name of a question. -/
def name : Predicate → String
  | .exist => "exist"
  | .file => "file"
  | .directory => "directory"
  | .symlink => "symlink"
  | .socket => "socket"
  | .pipe => "pipe"
  | .blockdev => "blockdev"
  | .chardev => "chardev"
  | .setuid => "setuid"
  | .setgid => "setgid"
  | .sticky => "sticky"
  | .readable => "readable"
  | .writable => "writable"
  | .executable => "executable"
  | .owned => "owned"
  | .grpowned => "grpowned"
  | .zero => "zero"
  | .empty => "empty"
  | .size => "size"
  | .worldReadable => "world-readable"
  | .worldWritable => "world-writable"

/-- The question with exactly the given name. -/
def ofName? (name : Text) : Option Predicate :=
  all.find? fun predicate => predicate.name.toList == name

end Predicate

/-- What holds for every command. -/
structure Options where
  /-- More is to be said about what happens. -/
  verbose : Bool := false
  /-- Nothing but results is to be printed. -/
  quiet : Bool := false
  /-- A further configuration file. -/
  config : Option Text := none
  /-- How results are to be printed, if not as configured. -/
  format : Option OutputFormat := none
  deriving DecidableEq, Repr

/-- What the program is asked to do. -/
inductive Command
  /-- The last component of a path, without a suffix. -/
  | basename (path : Text) (suffix : Option Text)
  /-- A path without its last components. -/
  | dirname (path : Text) (level : Int)
  /-- The extension of a path. -/
  | extname (path : Text)
  /-- A path of several parts. -/
  | join (parts : List Text)
  /-- The directory and the last component of a path. -/
  | split (path : Text)
  /-- The absolute path that a path stands for. -/
  | expand (path : Path.Argument) (base : Option Text) (keepsTilde : Bool)
  /-- Whether a pattern matches a path. -/
  | fnmatch (pattern path : Text) (flags : List Text)
  /-- The brace expansions of a pattern. -/
  | braces (pattern : Text) (flags : List Text)
  /-- The canonical path of an existing file. -/
  | realpath (path : Path.Argument) (base : Option Text)
  /-- The canonical path of a file that may be missing. -/
  | realdirpath (path : Path.Argument) (base : Option Text)
  /-- The record of a file, or of a symbolic link itself. -/
  | stat (path : Text) (ofLink : Bool)
  /-- The kind of a file. -/
  | ftype (path : Text)
  /-- A question about a file. -/
  | test (predicate : Predicate) (path : Text)
  /-- Whether two paths lead to the same file. -/
  | identical (first second : Text)
  /-- How completions are set up in a shell. -/
  | completions (shell : Shell)
  deriving DecidableEq, Repr

end Cli
end FilePaths
