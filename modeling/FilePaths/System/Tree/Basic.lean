import FilePaths.Path.Algebra
import FilePaths.System.Interface

/-!
# File trees

A file system kept as a value.  Every file is an inode, inodes are numbered, and a directory maps
names to numbers; the directory with the number zero is the root.  A path is looked up name by
name, as the system does it: the parent of a directory is the one that was physically passed, and
a symbolic link is replaced by the names of its target.
-/

namespace FilePaths

/-- What a file is. -/
inductive Content
  /-- A file with the given first bytes; all others up to its size are zero. -/
  | file (data : List UInt8) (size : Nat)
  | directory (entries : List (Text × Nat))
  | symlink (target : Text)
  | fifo
  | device
  deriving DecidableEq, Repr

namespace Content

/-- The kind of a file. -/
def kind : Content → FileKind
  | .file _ _ => .regular
  | .directory _ => .directory
  | .symlink _ => .symlink
  | .fifo => .fifo
  | .device => .charDevice

/-- The size that a record shows. -/
def size : Content → Nat
  | .file _ size => size
  | .directory _ => 4096
  | .symlink target => Text.Utf8.size target
  | .fifo => 0
  | .device => 0

/-- The entries of a directory. -/
def entries? : Content → Option (List (Text × Nat))
  | .directory entries => some entries
  | _ => none

/-- The target of a symbolic link. -/
def target? : Content → Option Text
  | .symlink target => some target
  | _ => none

/-- The content is a directory. -/
def isDirectory (content : Content) : Bool :=
  content.kind == .directory

end Content

/-- A file with its record. -/
structure Inode where
  /-- What the file is. -/
  content : Content
  /-- The permission bits. -/
  permissions : Mode
  /-- The user id of the owner. -/
  owner : UInt32 := 0
  /-- The group id. -/
  group : UInt32 := 0
  /-- The last access. -/
  accessed : Int64 × Int64 := (0, 0)
  /-- The last change of the contents. -/
  modified : Int64 × Int64 := (0, 0)
  deriving DecidableEq, Repr

/-- A file system and the state of the process that uses it. -/
structure Tree where
  /-- The files by their numbers. -/
  inodes : List Inode
  /-- The path of the working directory. -/
  directory : Text
  /-- The home directory, if it is known. -/
  home : Option Text := none
  /-- The bits that new files do not get. -/
  mask : Mode := 0o022
  /-- The numbers of open files. -/
  descriptors : List (Int × Nat) := []
  /-- The time by the clock. -/
  clock : Instant := .epoch
  deriving Repr

namespace Tree

/-- The number of the root directory. -/
def root : Nat := 0

/-- The greatest number of bytes in a name. -/
def nameLimit : Nat := 255

/-- The greatest number of bytes in a path. -/
def pathLimit : Nat := 4095

/-- The greatest number of symbolic links in one look-up. -/
def linkLimit : Nat := 40

/-- The file with the given number. -/
def inode? (tree : Tree) (number : Nat) : Option Inode :=
  tree.inodes[number]?

/-- The entries of the directory with the given number. -/
def entries? (tree : Tree) (number : Nat) : Option (List (Text × Nat)) :=
  (tree.inode? number).bind fun inode => inode.content.entries?

/-- The target of the symbolic link with the given number. -/
def target? (tree : Tree) (number : Nat) : Option Text :=
  (tree.inode? number).bind fun inode => inode.content.target?

/-- The names of a path in order.  A slash at the end counts as a dot: what stands before it must
be a directory. -/
def names (path : Text) : List Text :=
  Path.components path ++ (if path.getLast? = some '/' then [['.']] else [])

/-- The way from the root to a file: names and numbers, the last one first. -/
abbrev Trail := List (Text × Nat)

/-- The number of the file that a trail ends at. -/
def Trail.number (trail : Trail) : Nat :=
  match trail with
  | [] => root
  | (_, number) :: _ => number

/-- The path of a trail. -/
def Trail.path (trail : Trail) : Text :=
  Path.ofComponents (trail.reverse.map Prod.fst)

/-- Looks names up, starting from where the trail ends.  A symbolic link is followed unless it is
the last name and `follow` is off; one that holds no text leads nowhere. -/
def lookUp (tree : Tree) (follow : Bool) (links : Nat) (trail : Trail) (names : List Text) :
    Except Cause Trail :=
  match names with
  | [] => .ok trail
  | name :: names =>
      match tree.entries? trail.number with
      | none => .error .notDirectory
      | some entries =>
          if name = ['.'] then tree.lookUp follow links trail names
          else if name = ['.', '.'] then tree.lookUp follow links (trail.drop 1) names
          else if nameLimit < Text.Utf8.size name then .error .tooLong
          else
            match entries.lookup name with
            | none => .error .noEntry
            | some number =>
                match tree.target? number with
                | none => tree.lookUp follow links ((name, number) :: trail) names
                | some target =>
                    if names = [] ∧ !follow then .ok ((name, number) :: trail)
                    else if target = [] then .error .noEntry
                    else
                      match links with
                      | 0 => .error .tooManyLinks
                      | links + 1 =>
                          tree.lookUp follow links
                            (if Path.isAbsolute target then [] else trail)
                            (Tree.names target ++ names)
termination_by (links, names.length)

/-- Checks that a path can be looked up at all. -/
def checkPath (path : Text) : Except Cause Unit :=
  if path = [] then .error .noEntry
  else if pathLimit < Text.Utf8.size path then .error .tooLong
  else .ok ()

/-- The names from the root that a path stands for. -/
def namesFromRoot (tree : Tree) (path : Text) : List Text :=
  if Path.isAbsolute path then names path
  else Path.components tree.directory ++ names path

/-- Finds the file at a path. -/
def find (tree : Tree) (follow : Bool) (path : Text) : Except Cause Trail := do
  checkPath path
  tree.lookUp follow linkLimit [] (tree.namesFromRoot path)

/-- Where an entry is, or where it would be. -/
structure Place where
  /-- The way to the directory. -/
  trail : Trail
  /-- The entries of the directory. -/
  entries : List (Text × Nat)
  /-- The name of the entry; none if the path does not end with a name. -/
  name : Option Text
  /-- The path has a slash behind the name. -/
  slash : Bool

/-- The number of the directory. -/
def Place.directory (place : Place) : Nat :=
  place.trail.number

/-- The number of the file that a name in the directory leads to, if there is one. -/
def Place.look (place : Place) (name : Text) : Except Cause (Option Nat) :=
  if nameLimit < Text.Utf8.size name then .error .tooLong
  else .ok (place.entries.lookup name)

/-- Finds the directory of the entry that a path names. -/
def locate (tree : Tree) (path : Text) : Except Cause Place := do
  checkPath path
  let components := Path.components path
  let front := if Path.isAbsolute path then [] else Path.components tree.directory
  let trail ← tree.lookUp true linkLimit [] (front ++ components.dropLast)
  match tree.entries? trail.number with
  | none => .error .notDirectory
  | some entries =>
      let slash := path.getLast? = some '/'
      match components.getLast? with
      | none => .ok ⟨trail, entries, none, slash⟩
      | some name =>
          if name = ['.'] ∨ name = ['.', '.'] then .ok ⟨trail, entries, none, slash⟩
          else .ok ⟨trail, entries, some name, slash⟩

/-- Finds the place for a new entry. -/
def locateNew (tree : Tree) (path : Text) : Except Cause (Place × Text) := do
  let place ← tree.locate path
  match place.name with
  | none => .error .taken
  | some name => do
      if (← place.look name).isSome then .error .taken
      else if place.slash then .error .noEntry
      else .ok (place, name)

/-- The number of entries that lead to a file, and for a directory its own dots as well. -/
def linkCount (tree : Tree) (number : Nat) : Nat :=
  let entries := tree.inodes.flatMap fun inode => inode.content.entries?.getD []
  let named := entries.countP fun entry => entry.2 == number
  match tree.entries? number with
  | none => named
  | some inside =>
      2 + inside.countP fun entry => (tree.entries? entry.2).isSome

/-- The record of a file. -/
def record (tree : Tree) (number : Nat) : Except Cause SystemRecord :=
  match tree.inode? number with
  | none => .error .noEntry
  | some inode =>
      .ok
        { device := 1
          inode := UInt64.ofNat (number + 1)
          mode := inode.content.kind.bits ||| (inode.permissions &&& Mode.permissionMask)
          links := UInt64.ofNat (tree.linkCount number)
          owner := inode.owner
          group := inode.group
          size := UInt64.ofNat inode.content.size
          blockSize := 4096
          accessed := inode.accessed
          modified := inode.modified }

end Tree
end FilePaths
