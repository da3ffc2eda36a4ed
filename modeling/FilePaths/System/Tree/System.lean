import FilePaths.System.Tree.Basic

/-!
# A file tree as a system

The calls of the operating system on a file tree, for a process with all rights.
-/

namespace FilePaths
namespace Tree

/-- The tree with one file changed. -/
def change (tree : Tree) (number : Nat) (change : Inode → Inode) : Tree :=
  { tree with inodes := tree.inodes.modify number change }

/-- The tree with other entries in a directory. -/
def setEntries (tree : Tree) (number : Nat) (entries : List (Text × Nat)) : Tree :=
  tree.change number fun inode => { inode with content := .directory entries }

/-- The tree with a new file. -/
def add (tree : Tree) (place : Place) (name : Text) (inode : Inode) : Tree :=
  let number := tree.inodes.length
  { tree with inodes := tree.inodes ++ [inode] }.setEntries place.directory
    (place.entries ++ [(name, number)])

/-- A call that only looks. -/
def look {Value : Type} (answer : Tree → Except Cause Value) : Call Tree Value :=
  fun tree => (answer tree, tree)

/-- A call that changes the tree, unless it fails. -/
def alter (result : Tree → Except Cause Tree) : Call Tree Unit :=
  fun tree =>
    match result tree with
    | .ok tree => (.ok (), tree)
    | .error cause => (.error cause, tree)

/-- The path can be handed to the system. -/
def checkName (path : Text) : Except Cause Unit :=
  if path.contains '\x00' then
    .error (.plain .invalidInput "file name contained an unexpected NUL byte")
  else .ok ()

/-- The path can be handed to a call of the C library. -/
def checkString (path : Text) : Except Cause Unit :=
  if path.contains '\x00' then .error (.plain .invalidInput "path contains NUL") else .ok ()

/-- The number of an open file. -/
def opened (tree : Tree) (descriptor : Int) : Except Cause Nat :=
  match tree.descriptors.lookup descriptor with
  | none => .error .badDescriptor
  | some number => .ok number

/-- The number of the file at a path. -/
def numberAt (tree : Tree) (follow : Bool) (path : Text) : Except Cause Nat := do
  checkName path
  pure (← tree.find follow path).number

/-- The number of the file at a path for a call of the C library. -/
def numberAtString (tree : Tree) (follow : Bool) (path : Text) : Except Cause Nat := do
  checkString path
  pure (← tree.find follow path).number

/-- New permission bits. -/
def setPermissions (mode : Mode) (inode : Inode) : Inode :=
  { inode with permissions := mode &&& Mode.permissionMask }

/-- A new owner and group.  A file that is no directory then no longer runs with the rights of
its owner, nor, if its group may run it, with those of its group. -/
def setOwner (owner group : Option UInt32) (inode : Inode) : Inode :=
  let kept : Mode :=
    if inode.content.isDirectory then 0o7777
    else if Mode.has inode.permissions 0o010 then 0o1777
    else 0o3777
  { inode with
    owner := owner.getD inode.owner
    group := group.getD inode.group
    permissions := inode.permissions &&& kept }

/-- New times. -/
def setTimes (accessed modified : Instant) (inode : Inode) : Inode :=
  { inode with accessed := accessed.stamp, modified := modified.stamp }

/-- The length of a file as the system takes it. -/
def checkLength (length : UInt64) : Except Cause Unit :=
  if length.toNat < 0x8000000000000000 then .ok () else .error .tooLarge

/-- Sets the length of a file; what is not there yet is zero. -/
def resize (tree : Tree) (number : Nat) (length : Nat) (otherwise : Cause) :
    Except Cause Tree :=
  match tree.inode? number with
  | some { content := .file data _, .. } =>
      .ok (tree.change number fun inode =>
        { inode with content := .file (data.take length) length })
  | some { content := .directory _, .. } => .error otherwise
  | _ => .error .invalid

/-- Takes an entry out of a directory. -/
def removeEntry (tree : Tree) (directory : Nat) (name : Text) : Tree :=
  tree.setEntries directory
    (((tree.entries? directory).getD []).filter fun entry => entry.1 != name)

/-- Puts an entry into a directory, in place of one with the same name. -/
def putEntry (tree : Tree) (directory : Nat) (name : Text) (number : Nat) : Tree :=
  tree.setEntries directory
    (((tree.entries? directory).getD []).filter (fun entry => entry.1 != name) ++
      [(name, number)])

/-- Gives a file another name. -/
def addLink (tree : Tree) (old new : Text) : Except Cause Tree := do
  checkName old
  checkName new
  let number := (← tree.find false old).number
  let (place, name) ← tree.locateNew new
  if (tree.entries? number).isSome then .error .notPermitted
  else .ok (tree.putEntry place.directory name number)

/-- Creates a symbolic link. -/
def addSymlink (tree : Tree) (target new : Text) : Except Cause Tree := do
  checkName target
  checkName new
  checkPath target
  let (place, name) ← tree.locateNew new
  .ok (tree.add place name ⟨.symlink target, 0o777, 0, 0, (0, 0), (0, 0)⟩)

/-- Creates a named pipe. -/
def addFifo (tree : Tree) (path : Text) (mode : Mode) : Except Cause Tree := do
  checkString path
  if Mode.has mode 0xE000 then .error .invalid
  else do
    let (place, name) ← tree.locateNew path
    let permissions := mode &&& (tree.mask ^^^ 0o7777) &&& Mode.permissionMask
    .ok (tree.add place name ⟨.fifo, permissions, 0, 0, (0, 0), (0, 0)⟩)

/-- Takes a name away from a file that is no directory. -/
def removeLink (tree : Tree) (path : Text) : Except Cause Tree := do
  checkName path
  let place ← tree.locate path
  match place.name with
  | none => .error .isDirectory
  | some name => do
      match ← place.look name with
      | none => .error .noEntry
      | some number =>
          if (tree.entries? number).isSome then .error .isDirectory
          else if place.slash then .error .notDirectory
          else .ok (tree.removeEntry place.directory name)

/-- Whether a file may be moved onto another, or onto no file. -/
def checkReplace (tree : Tree) (number : Nat) (target : Option Nat) : Except Cause Unit :=
  match target with
  | none => .ok ()
  | some target =>
      match (tree.entries? number).isSome, tree.entries? target with
      | true, none => .error .notDirectory
      | true, some [] => .ok ()
      | true, some _ => .error .notEmpty
      | false, some _ => .error .isDirectory
      | false, none => .ok ()

/-- The directory of the entry is in use by the system itself. -/
def busy : Cause := .code 16

/-- Moves an entry to another name. -/
def move (tree : Tree) (source target : Text) : Except Cause Tree := do
  checkName source
  checkName target
  let origin ← tree.locate source
  let destination ← tree.locate target
  match origin.name, destination.name with
  | some oldName, some newName => do
      match ← origin.look oldName with
      | none => .error .noEntry
      | some number =>
          let replaced ← destination.look newName
          let isDirectory := (tree.entries? number).isSome
          let isOn (trail : Trail) (file : Nat) := trail.any fun entry => entry.2 == file
          if !isDirectory ∧ (origin.slash ∨ destination.slash) then .error .notDirectory
          else if isOn destination.trail number then .error .invalid
          else if replaced.any (isOn origin.trail) then .error .notEmpty
          else if replaced = some number then .ok tree
          else do
            tree.checkReplace number replaced
            .ok ((tree.removeEntry origin.directory oldName).putEntry
              destination.directory newName number)
  | _, _ => .error busy

/-- The system that works on a tree. -/
def system : System Tree where
  stat path := look fun tree => do tree.record (← tree.numberAt true path)
  lstat path := look fun tree => do tree.record (← tree.numberAt false path)
  fstat descriptor := look fun tree => do tree.record (← tree.opened descriptor)
  readlink path := look fun tree => do
    match tree.target? (← tree.numberAt false path) with
    | some target => .ok target
    | none => .error .invalid
  realpath path := look fun tree => do
    checkName path
    pure (← tree.find true path).path
  chmod path mode := alter fun tree => do
    pure (tree.change (← tree.numberAt true path) (setPermissions mode))
  fchmod descriptor mode := alter fun tree => do
    pure (tree.change (← tree.opened descriptor) (setPermissions mode))
  lchmod _ _ := alter fun _ => .error .notImplemented
  chown path owner group := alter fun tree => do
    pure (tree.change (← tree.numberAt true path) (setOwner owner group))
  fchown descriptor owner group := alter fun tree => do
    pure (tree.change (← tree.opened descriptor) (setOwner owner group))
  lchown path owner group := alter fun tree => do
    pure (tree.change (← tree.numberAt false path) (setOwner owner group))
  link old new := alter fun tree => tree.addLink old new
  symlink target new := alter fun tree => tree.addSymlink target new
  rename source target := alter fun tree => tree.move source target
  unlink path := alter fun tree => tree.removeLink path
  truncate path length := alter fun tree => do
    checkString path
    checkLength length
    tree.resize (← tree.find true path).number length.toNat .isDirectory
  ftruncate descriptor length := alter fun tree => do
    checkLength length
    tree.resize (← tree.opened descriptor) length.toNat .invalid
  utimes path accessed modified := alter fun tree => do
    pure (tree.change (← tree.numberAtString true path) (setTimes accessed modified))
  lutimes path accessed modified := alter fun tree => do
    pure (tree.change (← tree.numberAtString false path) (setTimes accessed modified))
  mkfifo path mode := alter fun tree => tree.addFifo path mode
  currentDir tree := (.ok tree.directory, tree)
  umask mask tree := (tree.mask, { tree with mask := mask &&& 0o777 })
  homeDir tree := (tree.home, tree)
  effectiveIds tree := ((0, 0), tree)
  hasLchmod tree := (false, tree)
  now tree := (tree.clock, tree)

/-- The text of the file at a path. -/
def readFile (path : Text) : Call Tree Text :=
  look fun tree => do
    let number ← tree.numberAt true path
    match (tree.inode? number).map Inode.content with
    | some (.file data size) =>
        match Text.Utf8.decode? (data ++ List.replicate (size - data.length) 0) with
        | some text => .ok text
        | none => .error (.plain .invalidData "stream did not contain valid UTF-8")
    | some (.directory _) => .error .isDirectory
    | _ => .ok []

/-! ## Building trees -/

/-- An empty file system. -/
def empty (directory : Text) : Tree where
  inodes := [⟨.directory [], 0o755, 0, 0, (0, 0), (0, 0)⟩]
  directory := directory

/-- The tree with a file at a path whose directory exists; otherwise the tree as it is. -/
def create (path : Text) (content : Content) (permissions : Mode) (tree : Tree) : Tree :=
  match tree.locateNew path with
  | .ok (place, name) => tree.add place name ⟨content, permissions, 0, 0, (0, 0), (0, 0)⟩
  | .error _ => tree

/-- The tree with a directory at a path, and at every start of the path. -/
def makeDirectories (path : Text) (tree : Tree) : Tree :=
  let components := Path.components path
  (List.range components.length).foldl
    (fun tree count =>
      tree.create (Path.ofComponents (components.take (count + 1))) (.directory []) 0o755)
    tree

/-- The tree with a file of the given text, in directories made as needed. -/
def writeFile (path text : Text) (tree : Tree) : Tree :=
  let data := Text.Utf8.encode text
  (tree.makeDirectories (Path.dirname path)).create path (.file data data.length) 0o644

/-- The tree with the file at a path open. -/
def openFile (descriptor : Int) (path : Text) (tree : Tree) : Tree :=
  match tree.numberAt true path with
  | .ok number => { tree with descriptors := (descriptor, number) :: tree.descriptors }
  | .error _ => tree

/-- The paths below a directory with the numbers of their files, to the given depth. -/
def listFrom (tree : Tree) : (depth : Nat) → (front : Text) → (number : Nat) →
    List (Text × Nat)
  | 0, _, _ => []
  | depth + 1, front, number =>
      ((tree.entries? number).getD []).flatMap fun entry =>
        (front ++ entry.1, entry.2) ::
          tree.listFrom depth (front ++ entry.1 ++ ['/']) entry.2

/-- The paths below a directory, relative to it, in the order of their bytes. -/
def list (tree : Tree) (directory : Text) : List (Text × Nat) :=
  match tree.find true directory with
  | .error _ => []
  | .ok trail =>
      (tree.listFrom tree.inodes.length [] trail.number).mergeSort fun first second =>
        Text.Utf8.encode first.1 ≤ Text.Utf8.encode second.1

end Tree
end FilePaths
