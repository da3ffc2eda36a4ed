import FilePaths.Proofs.Path.Splitting
import Mathlib.Logic.Function.Iterate

/-!
# Levels of directories

Going up stops where a step changes nothing.  This makes no difference to where it ends: going up a
number of levels is taking the directory that often, so levels add up.  One step takes one component
away, whatever slashes stand around it, until at most one is left; the next ends at the root or at
the dot.  These two are their own directories, and no other path is.
-/

namespace FilePaths
namespace Path

variable {path : Text}

/-- Where going up ends: at the root, or at the dot if the path has no root. -/
def top (path : Text) : Text :=
  if isAbsolute path then ['/'] else ['.']

/-! ## One level -/

theorem isAbsolute_dirname_eq (path : Text) :
    isAbsolute (dirname path) = isAbsolute path := by
  cases isAbsolute_eq : isAbsolute path with
  | true => exact isAbsolute_dirname isAbsolute_eq
  | false =>
      rw [dirname_of_isRelative isAbsolute_eq]
      split
      · rfl
      · exact isAbsolute_middle path

theorem top_dirname (path : Text) :
    top (dirname path) = top path := by
  rw [top, isAbsolute_dirname_eq, top]

theorem components_eq_nil_iff : components path = [] ↔ dropSlashes path = [] := by
  constructor
  · intro isEmpty
    by_contra notEmpty
    rw [components_of_dropSlashes_ne notEmpty] at isEmpty
    simp at isEmpty
  · intro isEmpty
    rw [← components_dropSlashes, isEmpty, components_nil]

theorem middle_eq_nil_iff : middle path = [] ↔ (components path).length ≤ 1 := by
  have kept : dropSlashes (middle path) = middle path :=
    dropSlashes_of_getLast?_ne (getLast?_dropSlashes_ne _)
  rw [← kept, ← components_eq_nil_iff, components_middle, ← List.length_eq_zero_iff,
    List.length_dropLast]
  omega

/-- A path with at most one component is directly below the place where going up ends. -/
theorem dirname_of_length_le_one (isLast : (components path).length ≤ 1) :
    dirname path = top path := by
  have isEmpty : middle path = [] := middle_eq_nil_iff.mpr isLast
  rw [top]
  cases isAbsolute_eq : isAbsolute path with
  | true =>
      rw [dirname_of_isAbsolute isAbsolute_eq, isEmpty]
      rfl
  | false =>
      rw [dirname_of_isRelative isAbsolute_eq, if_pos isEmpty]
      rfl

/-- Of several components, a step takes the last one away. -/
theorem components_dirname_of_one_lt (hasMore : 1 < (components path).length) :
    components (dirname path) = (components path).dropLast := by
  cases isAbsolute_eq : isAbsolute path with
  | true => exact components_dirname isAbsolute_eq
  | false =>
      have notEmpty : middle path ≠ [] := fun isEmpty =>
        absurd (middle_eq_nil_iff.mp isEmpty) (Nat.not_le.mpr hasMore)
      rw [dirname_of_isRelative isAbsolute_eq, if_neg notEmpty, components_middle]

/-- The root and the dot are their own directories, and nothing else is. -/
theorem dirname_eq_self_iff : dirname path = path ↔ path = ['/'] ∨ path = ['.'] := by
  constructor
  · intro isFixed
    have isLast : (components path).length ≤ 1 := by
      by_contra hasMore
      have components_eq := components_dirname_of_one_lt (Nat.not_le.mp hasMore)
      have length_eq := congrArg List.length components_eq
      rw [isFixed, List.length_dropLast] at length_eq
      omega
    rw [← isFixed, dirname_of_length_le_one isLast, top]
    split
    · exact .inl rfl
    · exact .inr rfl
  · rintro (rfl | rfl) <;> rfl

/-! ## Several levels -/

/-- Going up takes the directory once a level; to stop early is to stay at a fixed point. -/
theorem ancestor_eq_iterate (level : Nat) (path : Text) :
    ancestor level path = dirname^[level] path := by
  induction level generalizing path with
  | zero => rfl
  | succ level ih =>
      rw [ancestor]
      split
      · rename_i isFixed
        exact (Function.iterate_fixed isFixed (level + 1)).symm
      · rw [ih, Function.iterate_succ_apply]

theorem ancestor_add (first second : Nat) (path : Text) :
    ancestor (first + second) path = ancestor second (ancestor first path) := by
  rw [ancestor_eq_iterate, ancestor_eq_iterate first, ancestor_eq_iterate second,
    Nat.add_comm, Function.iterate_add_apply]

theorem ancestor_succ (level : Nat) (path : Text) :
    ancestor (level + 1) path = dirname (ancestor level path) := by
  rw [ancestor_eq_iterate, ancestor_eq_iterate, Function.iterate_succ_apply']

/-- As many levels as there are components lead to the place where going up ends. -/
theorem ancestor_eq_top
    {level : Nat}
    (isEnough : (components path).length ≤ level + 1) :
    ancestor (level + 1) path = top path := by
  induction level generalizing path with
  | zero =>
      rw [ancestor_succ, ancestor]
      exact dirname_of_length_le_one isEnough
  | succ level ih =>
      rw [ancestor_eq_iterate, Function.iterate_succ_apply, ← ancestor_eq_iterate,
        ← top_dirname path]
      apply ih
      by_cases isLast : (components path).length ≤ 1
      · -- What is reached here may be the dot, which is a component too.
        rw [dirname_of_length_le_one isLast, top]
        split
        · exact Nat.zero_le _
        · exact Nat.le_add_left 1 level
      · rw [components_dirname_of_one_lt (Nat.not_le.mp isLast), List.length_dropLast]
        omega

theorem dirnameUp_of_nonneg
    {level : Int}
    (nonneg : 0 ≤ level)
    (path : Text) :
    dirnameUp level path = .ok (ancestor level.toNat path) := by
  rw [dirnameUp, if_neg (Int.not_lt.mpr nonneg)]

/-- No level is the path itself, and one is its directory.  Levels that are not negative add up,
each level more is one more directory, and from the first level on as many as there are components
lead to the root, or to the dot for want of one. -/
theorem dirnameUp_adds_up (path : Text) :
    dirnameUp 0 path = .ok path ∧
      dirnameUp 1 path = .ok (dirname path) ∧
      (∀ first second : Int, 0 ≤ first → 0 ≤ second →
        ∃ between above, dirnameUp first path = .ok between ∧
          dirnameUp second between = .ok above ∧ dirnameUp (first + second) path = .ok above) ∧
      (∀ level : Int, 0 ≤ level →
        ∃ below, dirnameUp level path = .ok below ∧
          dirnameUp (level + 1) path = .ok (dirname below)) ∧
      ∀ level : Int, 1 ≤ level → (components path).length ≤ level →
        dirnameUp level path = .ok (if isAbsolute path then ['/'] else ['.']) := by
  refine ⟨dirnameUp_of_nonneg (Int.le_refl 0) path, ?_, fun first second isFirst isSecond => ?_,
    fun level isLevel => ?_, fun level isLevel isEnough => ?_⟩
  · exact (dirnameUp_of_nonneg (by decide) path).trans (congrArg Except.ok (ancestor_succ 0 path))
  · refine ⟨_, _, dirnameUp_of_nonneg isFirst path, dirnameUp_of_nonneg isSecond _, ?_⟩
    rw [dirnameUp_of_nonneg (Int.add_nonneg isFirst isSecond), Int.toNat_add isFirst isSecond,
      ancestor_add]
  · refine ⟨_, dirnameUp_of_nonneg isLevel path, ?_⟩
    have toNat_eq : (level + 1).toNat = level.toNat + 1 := by omega
    rw [dirnameUp_of_nonneg (by omega), toNat_eq, ancestor_succ]
  · obtain ⟨level, rfl⟩ : ∃ below : Nat, level = below + 1 := ⟨(level - 1).toNat, by omega⟩
    have toNat_eq : ((level : Int) + 1).toNat = level + 1 := by omega
    rw [dirnameUp_of_nonneg (by omega), toNat_eq, ancestor_eq_top (by omega)]
    rfl

/-- Three components between runs of slashes, two of them dots. -/
theorem dirnameUp_adds_up_at_runs :
    (∃ between above, dirnameUp 1 ['/', '/', '.', '/', '/', 'b', '/', '.', '.', '/'] = .ok between ∧
        dirnameUp 1 between = .ok above ∧
        dirnameUp (1 + 1) ['/', '/', '.', '/', '/', 'b', '/', '.', '.', '/'] = .ok above) ∧
      (∃ below, dirnameUp 2 ['/', '/', '.', '/', '/', 'b', '/', '.', '.', '/'] = .ok below ∧
        dirnameUp (2 + 1) ['/', '/', '.', '/', '/', 'b', '/', '.', '.', '/'] =
          .ok (dirname below)) ∧
      dirnameUp 3 ['/', '/', '.', '/', '/', 'b', '/', '.', '.', '/'] = .ok ['/'] := by
  obtain ⟨-, -, adds, steps, settles⟩ :=
    dirnameUp_adds_up ['/', '/', '.', '/', '/', 'b', '/', '.', '.', '/']
  exact ⟨adds 1 1 (by decide) (by decide), steps 2 (by decide),
    settles 3 (by decide) (by decide)⟩

end Path
end FilePaths
