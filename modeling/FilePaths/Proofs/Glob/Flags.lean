import FilePaths.Glob.Flags
import Mathlib.Data.Nat.Bitwise

/-!
# Sets of options

Every flag but one is a bit of its own, so that a word of bits is a set of flags: union and toggling
act on each flag alone.  The flag without a bit belongs to every set.

A set of flags that has been put together from names can be written as names and read again.  The
names may be others then, since the flag without a bit is not written, but the set is the same.
-/

namespace FilePaths
namespace GlobFlags

variable {flag other : Flag}

/-- Every flag but the one without a bit is one bit. -/
theorem exists_position (hasBit : flag ≠ .syscase) :
    ∃ position, flag.bits.toNat = 2 ^ position := by
  cases flag with
  | noescape => exact ⟨0, rfl⟩
  | pathname => exact ⟨1, rfl⟩
  | dotmatch => exact ⟨2, rfl⟩
  | casefold => exact ⟨3, rfl⟩
  | extglob => exact ⟨4, rfl⟩
  | nosort => exact ⟨6, rfl⟩
  | syscase => exact absurd rfl hasBit

/-- An option is in a set if its bit is set. -/
theorem has_eq_testBit
    {position : Nat}
    (isBit : flag.bits.toNat = 2 ^ position)
    (flags : GlobFlags) :
    flags.has flag = flags.bits.toNat.testBit position := by
  rw [has, Bool.eq_iff_iff, beq_iff_eq, ← UInt32.toNat_inj, UInt32.toNat_and, isBit,
    Nat.and_two_pow]
  cases flags.bits.toNat.testBit position <;> simp [(Nat.two_pow_pos position).ne]

theorem has_syscase (flags : GlobFlags) : flags.has .syscase = true := by
  simp [has, Flag.bits]

theorem has_ofFlag (hasBit : other ≠ .syscase) :
    (ofFlag flag).has other = decide (flag = other) := by
  revert hasBit
  cases flag <;> cases other <;> decide

theorem has_union (first second : GlobFlags) (hasBit : flag ≠ .syscase) :
    (first.union second).has flag = (first.has flag || second.has flag) := by
  obtain ⟨position, isBit⟩ := exists_position hasBit
  simp only [has_eq_testBit isBit, union, UInt32.toNat_or, Nat.testBit_or]

/-- The set without the option if the option is in it, and with the option if it is not. -/
def toggle (flags : GlobFlags) (flag : Flag) : GlobFlags :=
  ⟨flags.bits ^^^ flag.bits⟩

/-- Toggling changes one option and leaves the others as they are. -/
theorem has_toggle (flags : GlobFlags) (flag : Flag) (hasBit : other ≠ .syscase) :
    (flags.toggle flag).has other = (flags.has other ^^ decide (flag = other)) := by
  obtain ⟨position, isBit⟩ := exists_position hasBit
  rw [← has_ofFlag hasBit]
  simp only [has_eq_testBit isBit, toggle, ofFlag, UInt32.toNat_xor, Nat.testBit_xor]

/-! ## Names -/

/-- The set of the given options. -/
def unionOf (found : List Flag) : GlobFlags :=
  found.foldl (fun flags flag => flags.union (ofFlag flag)) empty

theorem flagOfName?_name (flag : Flag) :
    flagOfName? flag.name.toList = some flag := by
  cases flag <;> decide

/-- Names are read as a set if each of them is one, and then their options are put to those found
before them. -/
theorem foldlM_ofName_eq_ok_iff
    {names : List Text}
    {start flags : GlobFlags} :
    names.foldlM (fun flags name => (ofName name).map flags.union) start = .ok flags ↔
      ∃ found : List Flag, names.map flagOfName? = found.map some ∧
        flags = found.foldl (fun flags flag => flags.union (ofFlag flag)) start := by
  induction names generalizing start with
  | nil =>
      constructor
      · intro isRead
        exact ⟨[], rfl, (Except.ok.inj isRead).symm⟩
      · rintro ⟨found, names_eq, rfl⟩
        obtain rfl : found = [] := List.map_eq_nil_iff.mp names_eq.symm
        rfl
  | cons name names ih =>
      rw [List.foldlM_cons, ofName, List.map_cons]
      cases flag_eq : flagOfName? name with
      | none =>
          constructor
          · intro isRead
            cases isRead
          · rintro ⟨found, names_eq, -⟩
            cases found <;> cases names_eq
      | some flag =>
          refine ih.trans ⟨?_, ?_⟩
          · rintro ⟨found, names_eq, rfl⟩
            exact ⟨flag :: found, by rw [names_eq, List.map_cons], rfl⟩
          · rintro ⟨found, names_eq, rfl⟩
            cases found with
            | nil => cases names_eq
            | cons first found =>
                rw [List.map_cons, List.cons.injEq, Option.some_inj] at names_eq
                obtain ⟨rfl, names_eq⟩ := names_eq
                exact ⟨found, names_eq, rfl⟩

theorem ofNames_eq_ok_iff {names : List Text} {flags : GlobFlags} :
    ofNames names = .ok flags ↔
      ∃ found : List Flag, names.map flagOfName? = found.map some ∧ flags = unionOf found :=
  foldlM_ofName_eq_ok_iff

theorem testBit_unionOf (found : List Flag) (position : Nat) :
    (unionOf found).bits.toNat.testBit position =
      found.any fun flag => flag.bits.toNat.testBit position := by
  suffices onStart : ∀ start : GlobFlags,
      (found.foldl (fun flags flag => flags.union (ofFlag flag)) start).bits.toNat.testBit
          position =
        (start.bits.toNat.testBit position ||
          found.any fun flag => flag.bits.toNat.testBit position) by
    rw [unionOf, onStart, empty]
    simp
  induction found with
  | nil => simp
  | cons flag found ih =>
      intro start
      rw [List.foldl_cons, ih, List.any_cons]
      simp only [union, ofFlag, UInt32.toNat_or, Nat.testBit_or, Bool.or_assoc]

/-- An option is in a set if all its bits are set. -/
theorem has_iff (flags : GlobFlags) (flag : Flag) :
    flags.has flag = true ↔ ∀ position, flag.bits.toNat.testBit position = true →
      flags.bits.toNat.testBit position = true := by
  rw [has, beq_iff_eq, ← UInt32.toNat_inj, UInt32.toNat_and]
  constructor
  · intro masked_eq position isSet
    rw [← masked_eq, Nat.testBit_and, Bool.and_eq_true] at isSet
    exact isSet.1
  · intro areSet
    apply Nat.eq_of_testBit_eq
    intro position
    rw [Nat.testBit_and]
    cases isSet : flag.bits.toNat.testBit position with
    | false => simp
    | true => simp [areSet position isSet]

/-- A set of named options is the set of the options that are listed for it. -/
theorem unionOf_flags (found : List Flag) :
    unionOf (unionOf found).flags = unionOf found := by
  suffices sameBits : (unionOf (unionOf found).flags).bits.toNat = (unionOf found).bits.toNat by
    exact congrArg GlobFlags.mk (UInt32.toNat_inj.mp sameBits)
  apply Nat.eq_of_testBit_eq
  intro position
  rw [Bool.eq_iff_iff]
  constructor
  · intro isSet
    rw [testBit_unionOf, List.any_eq_true] at isSet
    obtain ⟨flag, isListed, isSet⟩ := isSet
    rw [flags, List.mem_filter, Bool.and_eq_true] at isListed
    exact (has_iff _ flag).mp isListed.2.2 position isSet
  · intro isSet
    rw [testBit_unionOf, List.any_eq_true] at isSet ⊢
    obtain ⟨flag, isFound, isSet⟩ := isSet
    refine ⟨flag, List.mem_filter.mpr ⟨by cases flag <;> decide, ?_⟩, isSet⟩
    have hasBit : flag.bits ≠ 0 := by
      intro isZero
      rw [isZero] at isSet
      simp at isSet
    have isContained : (unionOf found).has flag = true := by
      refine (has_iff _ flag).mpr fun other isOther => ?_
      rw [testBit_unionOf, List.any_eq_true]
      exact ⟨flag, isFound, isOther⟩
    simp [hasBit, isContained]

/-- Named options survive being written as names. -/
theorem ofNames_names (found : List Flag) :
    ofNames ((unionOf found).names.map String.toList) = .ok (unionOf found) := by
  refine ofNames_eq_ok_iff.mpr ⟨(unionOf found).flags, ?_, (unionOf_flags found).symm⟩
  simp [names, flagOfName?_name]

end GlobFlags
end FilePaths
