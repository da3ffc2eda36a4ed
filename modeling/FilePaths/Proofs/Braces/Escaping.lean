import FilePaths.Proofs.Braces.Expansion

/-!
# Escaped braces

Read from its start, a pattern escapes a byte by a backslash that is not escaped itself.  A group is
never closed by an escaped brace.  It is opened by the first brace that could, and whether that one
is escaped is not asked: the search for it does not read the backslashes before it.  Behind it the
scanner agrees with the reading from the start again, since an opening brace escapes nothing.
-/

namespace FilePaths
namespace Braces

open Text.Utf8 (encode)

/-- The byte at the position stands behind a backslash that is not escaped itself. -/
def isEscaped (bytes : List UInt8) : (position : Nat) → Bool
  | 0 => false
  | position + 1 => bytes[position]? == some backslashByte && !isEscaped bytes position

section Scanning

variable {bytes rest : List UInt8} {byte : UInt8} {depth position later found : Nat}

theorem notEscaped_behind
    (isHere : bytes[position]? = some byte)
    (notBackslash : byte ≠ backslashByte) :
    isEscaped bytes (position + 1) = false := by
  rw [isEscaped, isHere]
  simp [notBackslash]

theorem isEscaped_behind
    (isHere : bytes[position]? = some backslashByte)
    (notEscaped : isEscaped bytes position = false) :
    isEscaped bytes (position + 1) = true := by
  rw [isEscaped, isHere, notEscaped]
  rfl

theorem notEscaped_behind_escaped (escaped : isEscaped bytes position = true) :
    isEscaped bytes (position + 1) = false := by
  rw [isEscaped, escaped]
  simp

theorem getElem?_of_drop_eq_cons (rest_eq : bytes.drop position = byte :: rest) :
    bytes[position]? = some byte ∧ bytes.drop (position + 1) = rest := by
  constructor
  · rw [← List.head?_drop, rest_eq]
    rfl
  · rw [← List.tail_drop, rest_eq]
    rfl

/-! ## The closing brace -/

/-- A search ends at a closing brace, and where a backslash escapes, a search that begins at no
escaped byte ends at no escaped brace. -/
theorem notEscaped_of_closing?
    {escape : Bool}
    (notEscaped : escape = true → isEscaped bytes position = false)
    (isClosing : closing? escape depth position (bytes.drop position) = some found) :
    bytes[found]? = some closingByte ∧ (escape = true → isEscaped bytes found = false) := by
  generalize rest_eq : bytes.drop position = rest at isClosing
  fun_induction closing? escape depth position rest with
  | case1 => simp at isClosing
  | case2 depth position rest ih =>
      obtain ⟨isHere, rest_eq⟩ := getElem?_of_drop_eq_cons rest_eq
      exact ih (fun _ => notEscaped_behind isHere (by decide)) rest_eq isClosing
  | case3 position rest notOpening =>
      obtain ⟨isHere, -⟩ := getElem?_of_drop_eq_cons rest_eq
      obtain rfl := Option.some.inj isClosing
      exact ⟨isHere, notEscaped⟩
  | case4 depth position rest notOpening notOutermost ih =>
      obtain ⟨isHere, rest_eq⟩ := getElem?_of_drop_eq_cons rest_eq
      exact ih (fun _ => notEscaped_behind isHere (by decide)) rest_eq isClosing
  | case5 => simp at isClosing
  | case6 depth position byte notOpening notClosing isBackslash hidden rest ih =>
      obtain ⟨isHere, hidden_eq⟩ := getElem?_of_drop_eq_cons rest_eq
      obtain ⟨-, rest_eq⟩ := getElem?_of_drop_eq_cons hidden_eq
      rw [isBackslash.1] at isHere
      have escaped := isEscaped_behind isHere (notEscaped isBackslash.2)
      exact ih (fun _ => notEscaped_behind_escaped escaped) rest_eq isClosing
  | case7 depth position byte rest notOpening notClosing notBackslash ih =>
      obtain ⟨isHere, rest_eq⟩ := getElem?_of_drop_eq_cons rest_eq
      refine ih (fun isEscape => notEscaped_behind isHere fun isBackslash => ?_) rest_eq isClosing
      exact notBackslash ⟨isBackslash, isEscape⟩

theorem lt_of_getElem?_ne
    {other : UInt8}
    (isHere : bytes[position]? = some byte)
    (isOther : byte ≠ other)
    (isBehind : position ≤ later)
    (isLater : bytes[later]? = some other) :
    position < later := by
  refine Nat.lt_of_le_of_ne isBehind ?_
  rintro rfl
  rw [isHere] at isLater
  exact isOther (Option.some.inj isLater)

/-- If all opening braces are escaped from where a search begins, a search that finds nothing has
met escaped closing braces only. -/
theorem isEscaped_of_closing?_eq_none
    (notEscaped : isEscaped bytes position = false)
    (areEscaped : ∀ later, position ≤ later → bytes[later]? = some openingByte →
      isEscaped bytes later = true)
    (isNone : closing? true 1 position (bytes.drop position) = none)
    (isBehind : position ≤ later)
    (isClosing : bytes[later]? = some closingByte) :
    isEscaped bytes later = true := by
  generalize rest_eq : bytes.drop position = rest at isNone
  generalize depth_eq : 1 = depth at isNone
  fun_induction closing? true depth position rest with
  | case1 depth position =>
      have atEnd := List.drop_eq_nil_iff.1 rest_eq
      rw [List.getElem?_eq_none (Nat.le_trans atEnd isBehind)] at isClosing
      cases isClosing
  | case2 depth position rest ih =>
      have isHere := (getElem?_of_drop_eq_cons rest_eq).1
      rw [areEscaped position (Nat.le_refl _) isHere] at notEscaped
      cases notEscaped
  | case3 => simp at isNone
  | case4 depth position rest notOutermost => exact absurd depth_eq.symm notOutermost
  | case5 depth position byte notOpening notClosing isBackslash =>
      obtain ⟨isHere, atEnd⟩ := getElem?_of_drop_eq_cons rest_eq
      have isLater := lt_of_getElem?_ne isHere notClosing isBehind isClosing
      rw [List.getElem?_eq_none (Nat.le_trans (List.drop_eq_nil_iff.1 atEnd) isLater)] at isClosing
      cases isClosing
  | case6 depth position byte notOpening notClosing isBackslash hidden rest ih =>
      obtain ⟨isHere, hidden_eq⟩ := getElem?_of_drop_eq_cons rest_eq
      obtain ⟨-, rest_eq⟩ := getElem?_of_drop_eq_cons hidden_eq
      have isLater := lt_of_getElem?_ne isHere notClosing isBehind isClosing
      rw [isBackslash.1] at isHere
      have escaped := isEscaped_behind isHere notEscaped
      -- The byte behind the backslash is passed over, and it is escaped.
      rcases Nat.eq_or_lt_of_le isLater with rfl | isLater
      · exact escaped
      · exact ih (notEscaped_behind_escaped escaped)
          (fun later isBehind => areEscaped later (by omega)) isLater rest_eq depth_eq isNone
  | case7 depth position byte rest notOpening notClosing notBackslash ih =>
      obtain ⟨isHere, rest_eq⟩ := getElem?_of_drop_eq_cons rest_eq
      have isLater := lt_of_getElem?_ne isHere notClosing isBehind isClosing
      exact ih (notEscaped_behind isHere (by simpa using notBackslash))
        (fun later isBehind => areEscaped later (by omega)) isLater rest_eq depth_eq isNone

end Scanning

/-! ## The group -/

/-- The first opening brace of a pattern stands at the position, escaped or not. -/
structure IsFirstOpening (bytes : List UInt8) (position : Nat) : Prop where
  isOpening : bytes[position]? = some openingByte
  noneBefore : ∀ earlier < position, bytes[earlier]? ≠ some openingByte

section Groups

variable {escape : Bool} {bytes : List UInt8} {position opening : Nat} {group : Group}

theorem findIdx?_eq_some_iff_isFirstOpening :
    bytes.findIdx? (· == openingByte) = some opening ↔ IsFirstOpening bytes opening := by
  rw [List.findIdx?_eq_some_iff_getElem]
  constructor
  · rintro ⟨inside, isOpening, noneBefore⟩
    refine ⟨by simpa [List.getElem?_eq_getElem inside] using isOpening, fun earlier isBefore => ?_⟩
    have isInside := Nat.lt_trans isBefore inside
    simpa [List.getElem?_eq_getElem isInside] using noneBefore earlier isBefore
  · rintro ⟨isOpening, noneBefore⟩
    obtain ⟨inside, isOpening⟩ := List.getElem?_eq_some_iff.1 isOpening
    refine ⟨inside, by simpa using isOpening, fun earlier isBefore => ?_⟩
    have isInside := Nat.lt_trans isBefore inside
    simpa [List.getElem?_eq_getElem isInside] using noneBefore earlier isBefore

theorem exists_isFirstOpening (isOpening : bytes[position]? = some openingByte) :
    ∃ opening ≤ position, IsFirstOpening bytes opening := by
  induction position using Nat.strongRecOn with
  | ind position ih =>
      by_cases isEarlier : ∃ earlier < position, bytes[earlier]? = some openingByte
      · obtain ⟨earlier, isBefore, isOpening⟩ := isEarlier
        obtain ⟨opening, notBehind, isFirst⟩ := ih earlier isBefore isOpening
        exact ⟨opening, Nat.le_trans notBehind (Nat.le_of_lt isBefore), isFirst⟩
      · simp only [not_exists, not_and] at isEarlier
        exact ⟨position, Nat.le_refl _, isOpening, isEarlier⟩

theorem group?_of_isFirstOpening (isFirst : IsFirstOpening bytes opening) :
    group? escape bytes =
      (closing? escape 1 (opening + 1) (bytes.drop (opening + 1))).map (⟨opening, ·⟩) := by
  rw [group?, findIdx?_eq_some_iff_isFirstOpening.2 isFirst]

theorem isFirstOpening_of_group? (isGroup : group? escape bytes = some group) :
    IsFirstOpening bytes group.opening ∧
      closing? escape 1 (group.opening + 1) (bytes.drop (group.opening + 1)) =
        some group.closing := by
  unfold group? at isGroup
  split at isGroup
  · simp at isGroup
  · rename_i opening isFirst
    obtain ⟨closing, isClosing, rfl⟩ := Option.map_eq_some_iff.1 isGroup
    exact ⟨findIdx?_eq_some_iff_isFirstOpening.1 isFirst, isClosing⟩

/-- What stands behind an opening brace is not escaped. -/
theorem IsFirstOpening.notEscaped_behind (isFirst : IsFirstOpening bytes opening) :
    isEscaped bytes (opening + 1) = false :=
  Braces.notEscaped_behind isFirst.isOpening (by decide)

/-- A pattern whose opening braces are all escaped has a group exactly if a closing brace behind
one of them is not escaped. -/
theorem group?_eq_none_iff_of_areEscaped
    (areEscaped : ∀ position, bytes[position]? = some openingByte →
      isEscaped bytes position = true) :
    group? true bytes = none ↔
      ∀ opening closing, opening < closing → bytes[opening]? = some openingByte →
        bytes[closing]? = some closingByte → isEscaped bytes closing = true := by
  constructor
  · intro isNone opening closing isBefore isOpening isClosing
    obtain ⟨first, notBehind, isFirst⟩ := exists_isFirstOpening isOpening
    rw [group?_of_isFirstOpening isFirst, Option.map_eq_none_iff] at isNone
    exact isEscaped_of_closing?_eq_none isFirst.notEscaped_behind
      (fun later _ => areEscaped later) isNone (by omega) isClosing
  · intro closingEscaped
    rw [Option.eq_none_iff_forall_ne_some]
    intro group isGroup
    obtain ⟨isFirst, isClosing⟩ := isFirstOpening_of_group? isGroup
    obtain ⟨isHere, notEscaped⟩ :=
      notEscaped_of_closing? (fun _ => isFirst.notEscaped_behind) isClosing
    have escaped := closingEscaped _ _ (group?_bounds isGroup).1 isFirst.isOpening isHere
    rw [notEscaped rfl] at escaped
    cases escaped

end Groups

/-! ## Expansions -/

theorem slices_ne_nil
    (escape : Bool)
    (closing start : Nat)
    (depth : Int)
    (position : Nat)
    (bytes : List UInt8) :
    slices escape closing start depth position bytes ≠ [] := by
  fun_induction slices escape closing start depth position bytes <;> simp_all

theorem expand_eq_nil_iff (flags : GlobFlags) (pattern : Text) :
    expand flags pattern = [] ↔ group? (!flags.has .noescape) (encode pattern) = none := by
  rw [expand, List.map_eq_nil_iff, expandBytes_eq, expandFirst]
  split
  · rename_i isNone
    simp [isNone]
  · rename_i group isGroup
    simp [isGroup, List.exists_mem_of_ne_nil _ (slices_ne_nil _ _ _ _ _ _)]

/-- Where a backslash escapes, the closing brace of a group is never escaped, while the opening one
is the first of the pattern in any case.  So a pattern whose opening braces are all escaped still
has expansions, unless all closing braces behind them are escaped too. -/
theorem group_closes_unescaped
    {flags : GlobFlags}
    (isEscape : flags.has .noescape = false)
    (pattern : Text) :
    (∀ group, group? (!flags.has .noescape) (encode pattern) = some group →
        IsFirstOpening (encode pattern) group.opening ∧
          (encode pattern)[group.closing]? = some closingByte ∧
          isEscaped (encode pattern) group.closing = false) ∧
      ((∀ position, (encode pattern)[position]? = some openingByte →
          isEscaped (encode pattern) position = true) →
        (expand flags pattern = [] ↔
          ∀ opening closing, opening < closing →
            (encode pattern)[opening]? = some openingByte →
            (encode pattern)[closing]? = some closingByte →
            isEscaped (encode pattern) closing = true)) := by
  rw [expand_eq_nil_iff, isEscape]
  constructor
  · intro group isGroup
    obtain ⟨isFirst, isClosing⟩ := isFirstOpening_of_group? isGroup
    obtain ⟨isHere, notEscaped⟩ :=
      notEscaped_of_closing? (fun _ => isFirst.notEscaped_behind) isClosing
    exact ⟨isFirst, isHere, notEscaped rfl⟩
  · exact group?_eq_none_iff_of_areEscaped

/-- A group with an escaped closing brace inside. -/
def escapedInside : Text :=
  ['x', '{', 'a', '\\', '}', ',', 'b', '}']

/-- Two braces, both escaped. -/
def escapedTwice : Text :=
  ['\\', '{', 'a', '\\', '}']

theorem group_closes_behind_escaped :
    GlobFlags.empty.has .noescape = false ∧
      (group? (!GlobFlags.empty.has .noescape) (encode escapedInside) = some ⟨1, 7⟩ ∧
        isEscaped (encode escapedInside) 4 = true ∧
        isEscaped (encode escapedInside) 7 = false) ∧
      (∀ position, (encode escapedTwice)[position]? = some openingByte →
        isEscaped (encode escapedTwice) position = true) ∧
      expand .empty escapedTwice = [] := by
  have isEscape : GlobFlags.empty.has .noescape = false := by decide
  have isGroup : group? (!GlobFlags.empty.has .noescape) (encode escapedInside) =
      some ⟨1, 7⟩ := by decide +kernel
  obtain ⟨-, -, notEscaped⟩ := (group_closes_unescaped isEscape escapedInside).1 _ isGroup
  have areEscaped : ∀ byte ∈ [openingByte, closingByte], ∀ position < 5,
      (encode escapedTwice)[position]? = some byte →
        isEscaped (encode escapedTwice) position = true := by decide +kernel
  have openingEscaped : ∀ position, (encode escapedTwice)[position]? = some openingByte →
      isEscaped (encode escapedTwice) position = true := fun position isHere =>
    areEscaped _ (by simp) position (List.getElem?_eq_some_iff.1 isHere).1 isHere
  refine ⟨isEscape, ⟨isGroup, by decide +kernel, notEscaped⟩, openingEscaped, ?_⟩
  apply ((group_closes_unescaped isEscape escapedTwice).2 openingEscaped).2
  intro opening closing _ _ isHere
  exact areEscaped _ (by simp) closing (List.getElem?_eq_some_iff.1 isHere).1 isHere

/-- An opening brace that is escaped, and a closing one that is not. -/
def escapedOnce : Text :=
  ['\\', '{', 'a', ',', 'b', '}']

/-- The only opening brace is escaped, and opens a group. -/
theorem escaped_opening_opens_group :
    GlobFlags.empty.has .noescape = false ∧
      (∀ position, (encode escapedOnce)[position]? = some openingByte →
        isEscaped (encode escapedOnce) position = true) ∧
      group? (!GlobFlags.empty.has .noescape) (encode escapedOnce) = some ⟨1, 5⟩ ∧
      isEscaped (encode escapedOnce) 1 = true ∧
      expand .empty escapedOnce = [['\\', 'a'], ['\\', 'b']] := by
  have areEscaped : ∀ position < 6, (encode escapedOnce)[position]? = some openingByte →
      isEscaped (encode escapedOnce) position = true := by decide +kernel
  refine ⟨by decide, fun position isHere => ?_, by decide +kernel, by decide +kernel,
    by decide +kernel⟩
  exact areEscaped position (List.getElem?_eq_some_iff.1 isHere).1 isHere

end Braces
end FilePaths
