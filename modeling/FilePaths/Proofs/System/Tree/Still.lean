import FilePaths.Proofs.System.Steady
import FilePaths.Proofs.System.Tree.Passing

/-!
# Trees that nothing changes

The system on a tree that stays as it is.  Its answers are steady, and what it says of a path is
what looking up the names of the path finds.
-/

namespace FilePaths

/-- Permission bits do not hide the kind of a file. -/
theorem FileKind.ofMode_bits (kind : FileKind) (permissions : Mode) :
    FileKind.ofMode (kind.bits ||| (permissions &&& Mode.permissionMask)) = kind := by
  have noKind : permissions &&& Mode.permissionMask &&& 0xF000 = 0 := by
    rw [UInt32.and_assoc, show Mode.permissionMask &&& 0xF000 = 0 from rfl, UInt32.and_zero]
  have bits_eq :
      (kind.bits ||| (permissions &&& Mode.permissionMask)) &&& 0xF000 = kind.bits &&& 0xF000 := by
    have distributes (first second third : Mode) :
        (first ||| second) &&& third = first &&& third ||| second &&& third := by
      simp [← UInt32.toBitVec_inj, BitVec.and_or_distrib_right]
    rw [distributes, noKind, UInt32.or_zero]
  rw [FileKind.ofMode, bits_eq]
  cases kind <;> rfl

namespace Tree

/-- The system on a tree that stays as it is. -/
abbrev still (tree : Tree) : System Unit :=
  system.frozen tree

variable {tree : Tree} {path : Text} {trail : Trail} {number : Nat}

/-- Questions about files get the same answers on the tree itself, which they leave as it is. -/
theorem still_resolvesAlike (tree : Tree) :
    system.ResolvesAlike (fun world _ => world = tree) tree.still where
  stat path := by rintro _ _ rfl; exact ⟨rfl, rfl⟩
  lstat path := by rintro _ _ rfl; exact ⟨rfl, rfl⟩
  readlink path := by rintro _ _ rfl; exact ⟨rfl, rfl⟩
  realpath path := by rintro _ _ rfl; exact ⟨rfl, rfl⟩
  currentDir := by rintro _ _ rfl; exact ⟨rfl, rfl⟩
  homeDir := by rintro _ _ rfl; exact ⟨rfl, rfl⟩

/-- The record of a file says whether it is a symbolic link. -/
theorem isKind_symlink_of_record
    {record : SystemRecord}
    (record_eq : tree.record number = .ok record) :
    (FileRecord.ofSystem record).isKind .symlink = (tree.target? number).isSome := by
  rw [Tree.record] at record_eq
  split at record_eq
  · cases record_eq
  · rename_i inode inode_eq
    cases record_eq
    have kind_eq := FileKind.ofMode_bits inode.content.kind inode.permissions
    simp only [FileRecord.isKind, FileRecord.kind, FileRecord.ofSystem, kind_eq, Tree.target?,
      inode_eq, Option.bind_some]
    cases inode.content <;> rfl

theorem exists_record_of_target?
    {target : Text}
    (isLink : tree.target? number = some target) :
    ∃ record, tree.record number = .ok record := by
  obtain ⟨inode, inode_eq, -⟩ := Option.bind_eq_some_iff.mp isLink
  exact ⟨_, by rw [Tree.record, inode_eq]⟩

theorem lookUp_of_find
    {follow : Bool}
    (isAbsolute : Path.isAbsolute path = true)
    (found : tree.find follow path = .ok trail) :
    tree.lookUp follow linkLimit [] (names path) = .ok trail := by
  rw [find, namesFromRoot, if_pos isAbsolute] at found
  cases check_eq : checkPath path with
  | error cause => rw [check_eq] at found; cases found
  | ok _ => rw [check_eq] at found; exact found

theorem exists_find_of_numberAt
    {follow : Bool}
    (number_eq : tree.numberAt follow path = .ok number) :
    ∃ trail, tree.find follow path = .ok trail ∧ trail.number = number := by
  rw [numberAt] at number_eq
  cases check_eq : checkName path with
  | error cause => rw [check_eq] at number_eq; cases number_eq
  | ok _ =>
      rw [check_eq] at number_eq
      cases find_eq : tree.find follow path with
      | error cause => rw [find_eq] at number_eq; cases number_eq
      | ok trail =>
          rw [find_eq] at number_eq
          exact ⟨trail, rfl, Except.ok.inj number_eq⟩

/-- An answer about the file at an absolute path is about the file that its names lead to. -/
theorem exists_of_numberAt
    {Value : Type}
    {follow : Bool}
    {next : Nat → Except Cause Value}
    {value : Value}
    (isAbsolute : Path.isAbsolute path = true)
    (answer_eq : (tree.numberAt follow path >>= next) = .ok value) :
    ∃ trail, tree.lookUp follow linkLimit [] (names path) = .ok trail ∧
      next trail.number = .ok value := by
  cases number_eq : tree.numberAt follow path with
  | error cause => rw [number_eq] at answer_eq; cases answer_eq
  | ok number =>
      rw [number_eq] at answer_eq
      obtain ⟨trail, find_eq, rfl⟩ := exists_find_of_numberAt number_eq
      exact ⟨trail, lookUp_of_find isAbsolute find_eq, answer_eq⟩

theorem still_readlink (tree : Tree) (path : Text) :
    (tree.still.readlink path ()).1 =
      (tree.numberAt false path >>= fun number =>
        (tree.target? number).elim (.error .invalid) .ok) := by
  show (tree.numberAt false path >>= _) = _
  congr 1
  funext number
  cases tree.target? number <;> rfl

/-- What the system reads is the target of a file. -/
theorem target?_of_readlink
    {target : Text}
    (answer_eq : (tree.still.readlink path ()).1 = .ok target) :
    ∃ number, tree.numberAt false path = .ok number ∧ tree.target? number = some target := by
  rw [still_readlink] at answer_eq
  cases number_eq : tree.numberAt false path with
  | error cause =>
      rw [number_eq] at answer_eq
      cases answer_eq
  | ok number =>
      rw [number_eq] at answer_eq
      change (tree.target? number).elim (.error Cause.invalid) .ok = Except.ok target at answer_eq
      refine ⟨number, rfl, ?_⟩
      cases target_eq : tree.target? number with
      | none =>
          rw [target_eq] at answer_eq
          cases answer_eq
      | some found =>
          rw [target_eq] at answer_eq
          exact congrArg some (Except.ok.inj answer_eq)

/-- What a link holds is the target of the file that its names lead to. -/
theorem exists_of_readlink
    {target : Text}
    (isAbsolute : Path.isAbsolute path = true)
    (answers : Question.Answers (tree.still.readlink path) (.ok target)) :
    ∃ trail, tree.lookUp false linkLimit [] (names path) = .ok trail ∧
      tree.target? trail.number = some target := by
  obtain ⟨number, number_eq, isLink⟩ := target?_of_readlink (answers ())
  obtain ⟨trail, find_eq, rfl⟩ := exists_find_of_numberAt number_eq
  exact ⟨trail, lookUp_of_find isAbsolute find_eq, isLink⟩

/-- A path whose names can be looked up is refused only for its form, which is no absence. -/
theorem numberAt_of_lookUp
    {follow : Bool}
    (isAbsolute : Path.isAbsolute path = true)
    (found : tree.lookUp follow linkLimit [] (names path) = .ok trail) :
    tree.numberAt follow path = .ok trail.number ∨
      ∃ cause, tree.numberAt follow path = .error cause ∧ cause.isAbsence = false := by
  rw [numberAt, find, namesFromRoot, if_pos isAbsolute, found, checkName, checkPath]
  split
  · exact .inr ⟨_, rfl, rfl⟩
  · have notEmpty : path ≠ [] := by rintro rfl; cases isAbsolute
    rw [if_neg notEmpty]
    split
    · exact .inr ⟨_, rfl, rfl⟩
    · exact .inl rfl

/-- Where no link is seen, the names of the path lead to none. -/
theorem noLink_of_isSymlink
    (isAbsolute : Path.isAbsolute path = true)
    (gives : (Query.isSymlink tree.still path).Gives (.ok false))
    (found : tree.lookUp false linkLimit [] (names path) = .ok trail) :
    tree.target? trail.number = none := by
  have answer_eq := gives ⟨(), []⟩
  have lstat_eq : (tree.still.lstat path ()).1 =
      (tree.numberAt false path >>= fun number => tree.record number) := rfl
  rw [Query.isSymlink_result, lstat_eq] at answer_eq
  rcases numberAt_of_lookUp isAbsolute found with number_eq | ⟨cause, number_eq, notAbsent⟩
  · rw [number_eq] at answer_eq
    cases isLink : tree.target? trail.number with
    | none => rfl
    | some target =>
        obtain ⟨record, record_eq⟩ := exists_record_of_target? isLink
        have isKind_eq := isKind_symlink_of_record record_eq
        rw [isLink] at isKind_eq
        have sees : (.ok ((FileRecord.ofSystem record).isKind .symlink) : Except Error Bool) =
            .ok false := by
          simpa [bind, Except.bind, record_eq] using answer_eq
        rw [isKind_eq] at sees
        cases sees
  · rw [number_eq] at answer_eq
    simp [bind, Except.bind, notAbsent] at answer_eq

/-- A file is there if the names of the path lead to one. -/
theorem exists_of_fileExists
    (isAbsolute : Path.isAbsolute path = true)
    (gives : (Query.fileExists tree.still path).Gives (.ok true)) :
    ∃ trail record, tree.lookUp true linkLimit [] (names path) = .ok trail ∧
      tree.record trail.number = .ok record ∧ (tree.still.stat path ()).1 = .ok record := by
  have answer_eq := gives ⟨(), []⟩
  rw [Query.fileExists_result] at answer_eq
  have stat_eq : (tree.still.stat path ()).1 =
      (tree.numberAt true path >>= fun number => tree.record number) := rfl
  cases record_eq : (tree.still.stat path ()).1 with
  | ok record =>
      obtain ⟨trail, found, found_eq⟩ := exists_of_numberAt isAbsolute (stat_eq ▸ record_eq)
      exact ⟨trail, record, found, found_eq, rfl⟩
  | error cause =>
      rw [record_eq] at answer_eq
      dsimp only at answer_eq
      split at answer_eq <;> cases answer_eq

/-- The system's own canonical path is the path of the trail that the names lead to. -/
theorem exists_of_realpath
    {real : Text}
    (isAbsolute : Path.isAbsolute path = true)
    (answer_eq : (tree.still.realpath path ()).1 = .ok real) :
    ∃ trail, tree.lookUp true linkLimit [] (names path) = .ok trail ∧ real = trail.path ∧
      (tree.still.stat path ()).1 = tree.record trail.number := by
  have realpath_eq : (tree.still.realpath path ()).1 =
      (checkName path >>= fun _ => tree.find true path >>= fun trail => .ok trail.path) := rfl
  have stat_eq : (tree.still.stat path ()).1 =
      (checkName path >>= fun _ => tree.find true path >>= fun trail => .ok trail.number) >>=
        fun number => tree.record number := rfl
  rw [realpath_eq] at answer_eq
  rw [stat_eq]
  cases name_eq : checkName path with
  | error cause => rw [name_eq] at answer_eq; cases answer_eq
  | ok _ =>
      rw [name_eq] at answer_eq
      cases find_eq : tree.find true path with
      | error cause => rw [find_eq] at answer_eq; cases answer_eq
      | ok trail =>
          rw [find_eq] at answer_eq
          exact ⟨trail, lookUp_of_find isAbsolute find_eq, (Except.ok.inj answer_eq).symm, rfl⟩

/-- A tree always has the call for canonical paths. -/
theorem realpath_ne_notImplemented (tree : Tree) (path : Text) :
    (tree.still.realpath path ()).1 ≠ .error .notImplemented := by
  have realpath_eq : (tree.still.realpath path ()).1 =
      (checkName path >>= fun _ => tree.find true path >>= fun trail => .ok trail.path) := rfl
  rw [realpath_eq, checkName]
  split
  · nofun
  · rw [find, checkPath]
    split
    · nofun
    · split
      · nofun
      · have notThis := lookUp_ne_notImplemented tree true linkLimit [] (tree.namesFromRoot path)
        cases found : tree.lookUp true linkLimit [] (tree.namesFromRoot path) with
        | ok trail => nofun
        | error cause =>
            rintro fails
            cases fails
            exact notThis found

end Tree
end FilePaths
