import FilePaths.Glob.Flags

/-!
# Brace groups

A group in braces stands for each of its alternatives, which are separated by commas.  Expansion
takes the first group of a pattern, puts each alternative in its place, and goes on with the
results, so that groups inside and behind it multiply out.  All marks are single bytes, and the
scanner steps from byte to byte: it first looks for the closing brace, then cuts the group.  Both
times it counts open braces without a bound; a signed word of 32 bits comes to the same groups and
slices for all patterns with fewer than 2³² braces one inside the other.
-/

namespace FilePaths
namespace Braces

/-- The byte that opens a group. -/
def openingByte : UInt8 := 0x7B

/-- The byte that closes a group. -/
def closingByte : UInt8 := 0x7D

/-- The byte between alternatives. -/
def commaByte : UInt8 := 0x2C

/-- The byte that hides the next one. -/
def backslashByte : UInt8 := 0x5C

/-- The position of the brace that brings the depth back to zero, in bytes that start at the
given position. -/
def closing? (escape : Bool) : (depth position : Nat) → List UInt8 → Option Nat
  | _, _, [] => none
  | depth, position, byte :: rest =>
      if byte = openingByte then closing? escape (depth + 1) (position + 1) rest
      else if byte = closingByte then
        if depth = 1 then some position else closing? escape (depth - 1) (position + 1) rest
      else if byte = backslashByte ∧ escape then
        match rest with
        | [] => none
        | _ :: rest => closing? escape depth (position + 2) rest
      else closing? escape depth (position + 1) rest

/-- The positions of the braces of a group. -/
structure Group where
  /-- The position of the opening brace. -/
  opening : Nat
  /-- The position of the closing brace. -/
  closing : Nat
  deriving DecidableEq, Repr

/-- The group that the first opening brace of a pattern starts, if it is ever closed. -/
def group? (escape : Bool) (bytes : List UInt8) : Option Group :=
  match bytes.findIdx? (· == openingByte) with
  | none => none
  | some opening =>
      (closing? escape 1 (opening + 1) (bytes.drop (opening + 1))).map (⟨opening, ·⟩)

/-- A slice between two positions, the second not included. -/
structure Slice where
  /-- Where the slice starts. -/
  start : Nat
  /-- Where it has ended. -/
  stop : Nat
  deriving DecidableEq, Repr

/-- How a byte changes the depth of braces. -/
def depthAfter (depth : Int) (byte : UInt8) : Int :=
  if byte = openingByte then depth + 1
  else if byte = closingByte then depth - 1
  else depth

/-- The alternatives up to the closing brace: the bytes start at the given position, the current
alternative started at `start`, and `depth` braces are open in it. -/
def slices (escape : Bool) (closing start : Nat) :
    (depth : Int) → (position : Nat) → List UInt8 → List Slice
  | _, position, [] => [⟨start, min position closing⟩]
  | depth, position, byte :: rest =>
      if closing ≤ position then [⟨start, closing⟩]
      else if byte = commaByte ∧ depth = 0 then
        ⟨start, position⟩ :: slices escape closing (position + 1) 0 (position + 1) rest
      else if byte = backslashByte ∧ escape then
        match rest with
        | [] => [⟨start, min (position + 1) closing⟩]
        | _ :: after =>
            if position + 1 = closing then [⟨start, closing⟩]
            else slices escape closing start (depthAfter depth byte) (position + 2) after
      else slices escape closing start (depthAfter depth byte) (position + 1) rest

/-- The pattern with a slice of the group in place of the group. -/
def replaceGroup (bytes : List UInt8) (group : Group) (slice : Slice) : List UInt8 :=
  bytes.take group.opening ++ (bytes.take slice.stop).drop slice.start ++
    bytes.drop (group.closing + 1)

/-- The patterns with an alternative of the first group in place of the group. -/
def expandFirst (escape : Bool) (bytes : List UInt8) : List (List UInt8) :=
  match group? escape bytes with
  | none => []
  | some group =>
      (slices escape group.closing (group.opening + 1) 0 (group.opening + 1)
        (bytes.drop (group.opening + 1))).map (replaceGroup bytes group)

/-- The closing brace stands behind the place where the search began, within the bytes. -/
theorem closing?_bounds
    {escape : Bool}
    {depth position found : Nat}
    {bytes : List UInt8}
    (isClosing : closing? escape depth position bytes = some found) :
    position ≤ found ∧ found < position + bytes.length := by
  fun_induction closing? escape depth position bytes with
  | case1 => simp at isClosing
  | case2 depth position rest ih =>
      have := ih isClosing
      simp only [List.length_cons]; omega
  | case3 position rest notOpening =>
      simp only [Option.some.injEq] at isClosing
      simp only [List.length_cons]; omega
  | case4 depth position rest notOpening notOutermost ih =>
      have := ih isClosing
      simp only [List.length_cons]; omega
  | case5 => simp at isClosing
  | case6 depth position byte notOpening notBrace isEscape hidden rest ih =>
      have := ih isClosing
      simp only [List.length_cons]; omega
  | case7 depth position byte rest notOpening notBrace notEscape ih =>
      have := ih isClosing
      simp only [List.length_cons]; omega

/-- Every alternative lies between the place where the first one starts and the closing
brace. -/
theorem slices_bounds
    {escape : Bool}
    {closing start position : Nat}
    {depth : Int}
    {bytes : List UInt8}
    (inOrder : start ≤ position)
    (inside : position ≤ closing)
    {slice : Slice}
    (isSlice : slice ∈ slices escape closing start depth position bytes) :
    start ≤ slice.start ∧ slice.start ≤ slice.stop ∧ slice.stop ≤ closing := by
  fun_induction slices escape closing start depth position bytes with
  | case1 =>
      simp only [List.mem_singleton] at isSlice
      subst isSlice; simp only; omega
  | case2 =>
      simp only [List.mem_singleton] at isSlice
      subst isSlice; simp only; omega
  | case3 start depth position byte rest before isComma ih =>
      rcases List.mem_cons.1 isSlice with rfl | later
      · simp only; omega
      · have := ih (by omega) (by omega) later
        omega
  | case4 =>
      simp only [List.mem_singleton] at isSlice
      subst isSlice; simp only; omega
  | case5 =>
      simp only [List.mem_singleton] at isSlice
      subst isSlice; simp only; omega
  | case6 start depth position byte before notComma isEscape hidden after notLast ih =>
      exact ih (by omega) (by omega) isSlice
  | case7 start depth position byte rest before notComma notEscape ih =>
      exact ih (by omega) (by omega) isSlice

/-- The opening brace stands before the closing brace, and both stand in the pattern. -/
theorem group?_bounds
    {escape : Bool}
    {bytes : List UInt8}
    {group : Group}
    (isGroup : group? escape bytes = some group) :
    group.opening < group.closing ∧ group.closing < bytes.length := by
  unfold group? at isGroup
  split at isGroup
  · simp at isGroup
  · rename_i opening isFirst
    obtain ⟨closing, isClosing, rfl⟩ := Option.map_eq_some_iff.1 isGroup
    have := closing?_bounds isClosing
    simp only [List.length_drop] at this
    simp only; omega

/-- Replacing a group by a slice of what is between its braces takes both braces away. -/
theorem length_replaceGroup
    {bytes : List UInt8}
    {group : Group}
    {slice : Slice}
    (isWithin : group.closing < bytes.length)
    (behindOpening : group.opening < slice.start)
    (inOrder : slice.start ≤ slice.stop)
    (beforeClosing : slice.stop ≤ group.closing) :
    (replaceGroup bytes group slice).length + 2 ≤ bytes.length := by
  simp only [replaceGroup, List.length_append, List.length_take, List.length_drop]
  omega

theorem length_of_mem_expandFirst
    {escape : Bool}
    {bytes expanded : List UInt8}
    (isExpansion : expanded ∈ expandFirst escape bytes) :
    expanded.length + 2 ≤ bytes.length := by
  unfold expandFirst at isExpansion
  split at isExpansion
  · simp at isExpansion
  · rename_i group isGroup
    obtain ⟨slice, isSlice, rfl⟩ := List.mem_map.1 isExpansion
    have groupBounds := group?_bounds isGroup
    have sliceBounds := slices_bounds (Nat.le_refl _) (by omega) isSlice
    exact length_replaceGroup groupBounds.2 (by omega) sliceBounds.2.1 sliceBounds.2.2

/-- The expansions of a pattern in bytes, each followed by its own. -/
def expandBytes (escape : Bool) (bytes : List UInt8) : List (List UInt8) :=
  (expandFirst escape bytes).attach.flatMap fun ⟨expanded, _⟩ =>
    expanded :: expandBytes escape expanded
termination_by bytes.length
decreasing_by
  have := length_of_mem_expandFirst ‹_›
  omega

/-- The expansions of a pattern, the intermediate ones included, each followed by its own. -/
def expand (flags : GlobFlags) (pattern : Text) : List Text :=
  (expandBytes (!flags.has .noescape) (Text.Utf8.encode pattern)).map Text.Utf8.decodeLossy

end Braces
end FilePaths
