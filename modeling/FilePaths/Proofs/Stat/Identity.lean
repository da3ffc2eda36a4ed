import FilePaths.Proofs.System.Results
import FilePaths.System.Table

/-!
# Identical files

Whether two paths lead to the same file is asked of both paths in order.  Where a record is found
for either path the answer is that of an equivalence.  Where the first path leads to no file the
second is not looked at, so that the order of the paths matters if the second cannot be examined:
one order has an answer and the other has none.
-/

namespace FilePaths

/-! ## Records -/

namespace FileRecord

theorem sameFile_iff {first second : FileRecord} :
    first.sameFile second = true ↔
      first.device = second.device ∧ first.inode = second.inode ∧ first.kind = second.kind := by
  simp only [sameFile, Bool.and_eq_true, beq_iff_eq, and_assoc]

/-- Being about the same file is an equivalence of records. -/
theorem sameFile_equivalence :
    Equivalence fun first second : FileRecord => first.sameFile second = true where
  refl _ := sameFile_iff.mpr ⟨rfl, rfl, rfl⟩
  symm isSame := by
    obtain ⟨device_eq, inode_eq, kind_eq⟩ := sameFile_iff.mp isSame
    exact sameFile_iff.mpr ⟨device_eq.symm, inode_eq.symm, kind_eq.symm⟩
  trans isSame isSame' := by
    obtain ⟨device_eq, inode_eq, kind_eq⟩ := sameFile_iff.mp isSame
    obtain ⟨device_eq', inode_eq', kind_eq'⟩ := sameFile_iff.mp isSame'
    exact sameFile_iff.mpr
      ⟨device_eq.trans device_eq', inode_eq.trans inode_eq', kind_eq.trans kind_eq'⟩

theorem sameFile_comm (first second : FileRecord) :
    first.sameFile second = second.sameFile first :=
  Bool.eq_iff_iff.mpr ⟨sameFile_equivalence.symm, sameFile_equivalence.symm⟩

end FileRecord

namespace Query

variable {World : Type} {system : System World}

/-! ## Fixed answers -/

/-- What is found at a path depends on the answer of the system alone. -/
theorem find_result_congr
    {path : Text}
    {scene other : Scene World}
    (sameAnswer : (system.stat path scene.world).1 = (system.stat path other.world).1) :
    (find system path scene).1 = (find system path other).1 := by
  rw [find, probe_result, probe_result, sameAnswer]

/-- On a system with fixed answers, two paths are compared by what is found at each of them, and the
second counts only if there is a file at the first. -/
theorem isIdentical_result
    (isFixed : ∀ path world other, (system.stat path world).1 = (system.stat path other).1)
    (scene : Scene World)
    (first second : Text) :
    (isIdentical system first second scene).1 =
      (find system first scene).1.bind fun
        | none => .ok false
        | some stat => (find system second scene).1.map (Option.any stat.sameFile) := by
  rw [isIdentical, Run.bind_result]
  congr 1
  funext found?
  cases found? with
  | none => rfl
  | some stat =>
      refine (Run.bind_pure_result (find system second) _ _).trans ?_
      rw [find_result_congr (isFixed second _ scene.world)]

/-- There is a record of a file exactly if something is found at its path. -/
theorem exists_stat_iff
    (path : Text)
    (scene : Scene World) :
    (∃ record, (stat system path scene).1 = .ok record) ↔
      ∃ record, (find system path scene).1 = .ok (some record) := by
  rw [stat, Run.bind_pure_result, Run.call_result, find, probe_result]
  cases (system.stat path scene.world).1 with
  | ok record => simp [Except.map]
  | error cause => cases isAbsence : cause.isAbsence <;> simp [Except.map, isAbsence]

/-! ## Answers for two paths -/

/-- Nothing stands at the first path, and the second cannot be examined. -/
def HidesFailure (system : System World) (scene : Scene World) (first second : Text) : Prop :=
  (find system first scene).1 = .ok none ∧ ∃ error, (find system second scene).1 = .error error

section

variable
  (isFixed : ∀ path world other, (system.stat path world).1 = (system.stat path other).1)
  {scene : Scene World}
  {first second third : Text}

include isFixed

/-- Two paths are identical exactly if both have records, and these are about the same file. -/
theorem isIdentical_eq_true_iff :
    (isIdentical system first second scene).1 = .ok true ↔
      ∃ stat other, (find system first scene).1 = .ok (some stat) ∧
        (find system second scene).1 = .ok (some other) ∧ stat.sameFile other = true := by
  rw [isIdentical_result isFixed]
  rcases (find system first scene).1 with error | _ | stat
  · simp [Except.bind]
  · simp [Except.bind]
  · rcases (find system second scene).1 with error | _ | other <;> simp [Except.bind, Except.map]

/-- Where nothing stands at the first path the second is not looked at. -/
theorem isIdentical_of_hidesFailure (hides : HidesFailure system scene first second) :
    (isIdentical system first second scene).1 = .ok false ∧
      ∃ error, (isIdentical system second first scene).1 = .error error := by
  obtain ⟨isNothing, error, isFailure⟩ := hides
  constructor
  · rw [isIdentical_result isFixed, isNothing]
    rfl
  · refine ⟨error, ?_⟩
    rw [isIdentical_result isFixed, isFailure]
    rfl

theorem not_hidesFailure_of_comm
    (isSymmetric : ∀ same, (isIdentical system first second scene).1 = .ok same ↔
      (isIdentical system second first scene).1 = .ok same) :
    ¬HidesFailure system scene first second := by
  intro hides
  obtain ⟨isFalse, error, isFailure⟩ := isIdentical_of_hidesFailure isFixed hides
  have isSuccess := (isSymmetric false).mp isFalse
  cases isFailure.symm.trans isSuccess

/-- The order of two paths matters only where one of them hides that the other cannot be
examined. -/
theorem isIdentical_comm_iff :
    (∀ same, (isIdentical system first second scene).1 = .ok same ↔
        (isIdentical system second first scene).1 = .ok same) ↔
      ¬HidesFailure system scene first second ∧ ¬HidesFailure system scene second first := by
  constructor
  · intro isSymmetric
    exact ⟨not_hidesFailure_of_comm isFixed isSymmetric,
      not_hidesFailure_of_comm isFixed fun same => (isSymmetric same).symm⟩
  · rintro ⟨notHidden, notHidden'⟩ same
    rw [isIdentical_result isFixed, isIdentical_result isFixed]
    rcases first_eq : (find system first scene).1 with error | _ | stat <;>
      rcases second_eq : (find system second scene).1 with error' | _ | other
    · simp [Except.bind]
    · exact absurd ⟨second_eq, error, first_eq⟩ notHidden'
    · simp [Except.bind, Except.map]
    · exact absurd ⟨first_eq, error', second_eq⟩ notHidden
    · simp [Except.bind]
    · simp [Except.bind, Except.map]
    · simp [Except.bind, Except.map]
    · simp [Except.bind, Except.map]
    · simp [Except.bind, Except.map, stat.sameFile_comm other]

theorem isIdentical_trans
    (isSame : (isIdentical system first second scene).1 = .ok true)
    (isSame' : (isIdentical system second third scene).1 = .ok true) :
    (isIdentical system first third scene).1 = .ok true := by
  rw [isIdentical_eq_true_iff isFixed] at isSame isSame' ⊢
  obtain ⟨stat, other, stat_eq, other_eq, sameFile⟩ := isSame
  obtain ⟨other', last, other_eq', last_eq, sameFile'⟩ := isSame'
  obtain rfl : other = other' := by
    simpa [other_eq] using other_eq'
  exact ⟨stat, last, stat_eq, last_eq, FileRecord.sameFile_equivalence.trans sameFile sameFile'⟩

theorem isIdentical_symm
    (isSame : (isIdentical system first second scene).1 = .ok true) :
    (isIdentical system second first scene).1 = .ok true := by
  rw [isIdentical_eq_true_iff isFixed] at isSame ⊢
  obtain ⟨stat, other, stat_eq, other_eq, sameFile⟩ := isSame
  exact ⟨other, stat, other_eq, stat_eq, FileRecord.sameFile_equivalence.symm sameFile⟩

/-- A path is identical to itself exactly if it has a record. -/
theorem isIdentical_self_iff :
    (isIdentical system first first scene).1 = .ok true ↔
      ∃ record, (stat system first scene).1 = .ok record := by
  rw [isIdentical_eq_true_iff isFixed, exists_stat_iff]
  constructor
  · rintro ⟨stat, _, stat_eq, -, -⟩
    exact ⟨stat, stat_eq⟩
  · rintro ⟨stat, stat_eq⟩
    exact ⟨stat, stat, stat_eq, stat_eq, FileRecord.sameFile_equivalence.refl stat⟩

/-- When two paths are compared makes no difference. -/
theorem isIdentical_result_congr (other : Scene World) :
    (isIdentical system first second other).1 = (isIdentical system first second scene).1 := by
  rw [isIdentical_result isFixed, isIdentical_result isFixed,
    find_result_congr (isFixed first other.world scene.world),
    find_result_congr (isFixed second other.world scene.world)]

end

/-- On a system with fixed answers, being identical is an equivalence of the paths that have
records.  Every answer is the same for both orders of the paths, unless nothing stands at one of
them and the other cannot be examined: then it is no in one order and an error in the other. -/
theorem isIdentical_laws
    (isFixed : ∀ path world other, (system.stat path world).1 = (system.stat path other).1)
    (scene : Scene World)
    (first second third : Text) :
    (∀ other,
        (isIdentical system first second other).1 = (isIdentical system first second scene).1) ∧
      ((isIdentical system first first scene).1 = .ok true ↔
        ∃ record, (stat system first scene).1 = .ok record) ∧
      ((isIdentical system first second scene).1 = .ok true →
        (isIdentical system second first scene).1 = .ok true) ∧
      ((isIdentical system first second scene).1 = .ok true →
        (isIdentical system second third scene).1 = .ok true →
        (isIdentical system first third scene).1 = .ok true) ∧
      ((∀ same, (isIdentical system first second scene).1 = .ok same ↔
          (isIdentical system second first scene).1 = .ok same) ↔
        ¬HidesFailure system scene first second ∧ ¬HidesFailure system scene second first) ∧
      (HidesFailure system scene first second →
        (isIdentical system first second scene).1 = .ok false ∧
          ∃ error, (isIdentical system second first scene).1 = .error error) :=
  ⟨isIdentical_result_congr isFixed, isIdentical_self_iff isFixed, isIdentical_symm isFixed,
    isIdentical_trans isFixed, isIdentical_comm_iff isFixed, isIdentical_of_hidesFailure isFixed⟩

/-- Three names of one file, and a path that may not be examined. -/
def guardedTable : Table where
  stats :=
    [("/a".toList, .ok { device := 1, inode := 7, mode := 0o100644 }),
      ("/b".toList, .ok { device := 1, inode := 7, mode := 0o100600 }),
      ("/c".toList, .ok { device := 1, inode := 7, mode := 0o100000 }),
      ("/guarded".toList, .error (.code 13))]
  directory := .ok ['/']
  home := none
  ids := (0, 0)

theorem guarded_isIdentical_laws :
    (isIdentical guardedTable.system "/b".toList "/a".toList ⟨0, []⟩).1 = .ok true ∧
      (isIdentical guardedTable.system "/a".toList "/c".toList ⟨0, []⟩).1 = .ok true ∧
      ¬∀ same,
        (isIdentical guardedTable.system "/none".toList "/guarded".toList ⟨0, []⟩).1 = .ok same ↔
          (isIdentical guardedTable.system "/guarded".toList "/none".toList ⟨0, []⟩).1 =
            .ok same := by
  have isFixed : ∀ path world other,
      (guardedTable.system.stat path world).1 = (guardedTable.system.stat path other).1 :=
    fun _ _ _ => rfl
  have onFiles := isIdentical_laws isFixed ⟨0, []⟩ "/a".toList "/b".toList "/c".toList
  have onGuarded := isIdentical_laws isFixed ⟨0, []⟩ "/none".toList "/guarded".toList []
  refine ⟨onFiles.2.2.1 rfl, onFiles.2.2.2.1 rfl rfl, fun isSymmetric => ?_⟩
  exact (onGuarded.2.2.2.2.1.mp isSymmetric).1 ⟨rfl, _, rfl⟩

/-- Nothing stands at one path, and the other may not be examined. -/
theorem isIdentical_depends_on_order :
    (isIdentical guardedTable.system "/none".toList "/guarded".toList ⟨0, []⟩).1 = .ok false ∧
      (isIdentical guardedTable.system "/guarded".toList "/none".toList ⟨0, []⟩).1 =
        .error (.permissionDenied "/guarded".toList) :=
  ⟨rfl, rfl⟩

end Query
end FilePaths
