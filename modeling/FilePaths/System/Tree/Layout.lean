import FilePaths.Config.Document
import FilePaths.System.Host
import FilePaths.System.Tree.System
import FilePaths.Time.Calendar

/-!
# Laying out file trees

A file tree is laid out by entries, one after the other, in a tree that has the directories which
every machine has.
-/

namespace FilePaths
namespace Tree

/-- What an entry puts into a tree. -/
inductive Planned
  | file (text : Text)
  | directory
  | symlink (target : Text)
  /-- Another name for a file that is there. -/
  | hardLink (old : Text)
  | fifo
  | device
  deriving DecidableEq, Repr

/-- An entry of a layout. -/
structure Entry where
  /-- The path. -/
  path : Text
  /-- What stands at the path. -/
  planned : Planned
  /-- The permission bits, if they are not the common ones. -/
  mode : Option Mode := none
  deriving DecidableEq, Repr

/-- Puts what is planned into a tree. -/
def place (path : Text) (planned : Planned) (tree : Tree) : Tree :=
  match planned with
  | .file text =>
      let data := Text.Utf8.encode text
      tree.create path (.file data data.length) 0o644
  | .directory => tree.create path (.directory []) 0o755
  | .symlink target => tree.create path (.symlink target) 0o777
  | .hardLink old => (tree.addLink old path).toOption.getD tree
  | .fifo => tree.create path .fifo 0o644
  | .device => tree.create path .device 0o666

/-- Puts an entry into a tree, with its permission bits. -/
def putPlanned (tree : Tree) (entry : Entry) : Tree :=
  let placed := tree.place entry.path entry.planned
  match entry.mode, placed.numberAt false entry.path with
  | some mode, .ok number => placed.change number (setPermissions mode)
  | _, _ => placed

/-- The tree with entries put into it in order. -/
def layOut (entries : List Entry) (tree : Tree) : Tree :=
  entries.foldl putPlanned tree

/-- The tree of a machine with an empty device and the given working and home directories. -/
def machine (directory home : Text) : Tree :=
  let bare := { empty directory with home := some home }
  ((bare.makeDirectories directory).makeDirectories home).layOut
    [⟨"/dev".toList, .directory, none⟩, ⟨"/dev/null".toList, .device, none⟩]

/-- The host whose files are a tree.  Configurations are written in YAML, and times are printed in
universal time. -/
def host (environment : Environment) : Host Tree where
  system := system
  readFile := readFile
  readConfig := Config.ofYaml?
  showTime := Instant.toText
  environment := environment

end Tree
end FilePaths
