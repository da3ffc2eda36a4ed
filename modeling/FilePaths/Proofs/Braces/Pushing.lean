import FilePaths.Proofs.Braces.Nesting

/-!
# Expansions, pattern by pattern

What the loops push for a pattern is what expansion goes on with, one group at a time.  They end and
cut between characters for every pattern.  Their counts of open braces are right except where too
many stand one inside the other for a word to hold their number.
-/

namespace FilePaths
namespace Braces

open Text.Utf8 (encode decodeLossy decodeLossy_encode)

/-! ## The whole expansion -/

/-- The texts with an alternative of the first group of a pattern in place of the group. -/
def alternatives (flags : GlobFlags) (pattern : Text) : List Text :=
  (expandFirst (!flags.has .noescape) (encode pattern)).map decodeLossy

/-- The expansions of a pattern are its alternatives, each followed by its own expansions. -/
theorem expand_eq (flags : GlobFlags) (pattern : Text) :
    expand flags pattern =
      (alternatives flags pattern).flatMap fun expanded => expanded :: expand flags expanded := by
  rw [expand, expandBytes_eq, List.map_flatMap, alternatives, List.flatMap_map]
  apply List.flatMap_congr
  intro bytes isExpansion
  obtain ⟨result, rfl, -⟩ := exists_of_mem_expandFirst isExpansion
  rw [List.map_cons, decodeLossy_encode]
  rfl

/-- As long as a word can hold the count, the loops push the alternatives. -/
theorem pushes_alternatives
    {flags : GlobFlags}
    {pattern : Text}
    (isWord : nesting (!flags.has .noescape) (encode pattern) < 2 ^ 32) :
    Pushes flags pattern (alternatives flags pattern) := by
  have isFound := finder_endsWith_group? isWord
  unfold alternatives expandFirst
  split
  · rename_i isNone
    rw [isNone] at isFound
    exact .nothing isFound
  · rename_i group isGroup
    rw [isGroup] at isFound
    rw [List.map_map]
    exact .slices isFound (splitter_endsWith_slices isFound isWord)

/-- Both loops end for every pattern, what they push is at least two bytes shorter than the pattern,
and going on with it comes to an end.  A group is cut between characters, and on the way the scanner
stays inside of it.  The count of open braces stays in its word exactly if fewer than 2³¹ of them
are open, and then neither loop counts below zero. -/
theorem expand_cuts_between_characters (flags : GlobFlags) (pattern : Text) :
    let escape := !flags.has .noescape
    let bytes := encode pattern
    (WellFounded fun expanded pattern =>
        ∃ pushed, Pushes flags pattern pushed ∧ expanded ∈ pushed) ∧
      (∃ pushed, Pushes flags pattern pushed) ∧
      (∀ pushed, Pushes flags pattern pushed → ∀ expanded ∈ pushed,
        (encode expanded).length + 2 ≤ bytes.length) ∧
      (∀ group, (finder escape bytes).EndsWith (Search.first bytes) (some group) →
        let loop := splitter escape bytes group.closing
        group.closing < bytes.length ∧
          (∃ cuts, loop.EndsWith (.goesOn (.first group)) cuts ∧
            CutsBetween pattern group cuts) ∧
          ∀ scan, loop.Meets (.goesOn (.first group)) scan → scan.IsInside escape bytes group) ∧
      expand flags pattern =
        (alternatives flags pattern).flatMap
          (fun expanded => expanded :: expand flags expanded) ∧
      ((∀ search, (finder escape bytes).Meets (Search.first bytes) search →
          StaysInWord bytes search.depth search.position) ↔
        nesting escape bytes < 2 ^ 31) ∧
      (nesting escape bytes < 2 ^ 31 →
        Pushes flags pattern (alternatives flags pattern) ∧
          ∀ group, (finder escape bytes).EndsWith (Search.first bytes) (some group) →
            ∀ scan, (splitter escape bytes group.closing).Meets (.goesOn (.first group)) scan →
              StaysInWord bytes scan.depth scan.position) := by
  refine ⟨pushes_wellFounded flags, exists_pushes flags pattern,
    fun _ pushes _ => pushes.length_of_mem, fun group isFound => ?_, expand_eq flags pattern,
    finder_staysInWord_iff, fun isSmall => ⟨pushes_alternatives (Nat.lt_trans isSmall (by decide)),
      fun group isFound scan => splitter_staysInWord isFound isSmall⟩⟩
  have isReached := isReached_of_endsWith isFound
  obtain ⟨cuts, cutsBetween, isEnd⟩ := exists_splitter_endsWith isReached
  exact ⟨isReached.closing_lt_length, ⟨cuts, isEnd, cutsBetween⟩,
    fun scan => isInside_of_meets isReached⟩

/-- A group with an escaped character of two bytes and an inner group. -/
def accented : Text :=
  ['{', '\\', 'é', ',', '{', 'b', ',', 'c', '}', '}', 'x']

theorem accented_cuts_between_characters :
    nesting (!GlobFlags.empty.has .noescape) (encode accented) < 2 ^ 31 ∧
      Pushes .empty accented (alternatives .empty accented) ∧
      ∃ cuts,
        (splitter (!GlobFlags.empty.has .noescape) (encode accented) 10).EndsWith
          (.goesOn (.first ⟨0, 10⟩)) cuts ∧
        CutsBetween accented ⟨0, 10⟩ cuts := by
  have isSmall : nesting (!GlobFlags.empty.has .noescape) (encode accented) < 2 ^ 31 := by
    decide +kernel
  have isGroup : group? (!GlobFlags.empty.has .noescape) (encode accented) = some ⟨0, 10⟩ := by
    decide +kernel
  have isFound := finder_endsWith_group? (Nat.lt_trans isSmall (by decide))
  rw [isGroup] at isFound
  obtain ⟨-, -, -, ofGroup, -, -, ofNesting⟩ := expand_cuts_between_characters .empty accented
  exact ⟨isSmall, (ofNesting isSmall).1, (ofGroup ⟨0, 10⟩ isFound).2.1⟩

/-- Behind the backslash the scanner lands inside of a character. -/
example :
    (splitter true (encode accented) 10).Meets (.goesOn (.first ⟨0, 10⟩))
        { start := 1, position := 3 } ∧
      (encode accented)[3]? = some 0xA9 :=
  ⟨.later (.here _), by decide⟩

/-! ## Deep nesting -/

/-- A number of opening braces, and as many closing ones. -/
def nested : Nat → Text
  | 0 => []
  | count + 1 => '{' :: (nested count ++ ['}'])

theorem encode_nested_succ (count : Nat) :
    encode (nested (count + 1)) = openingByte :: (encode (nested count) ++ [closingByte]) := by
  rw [nested, encode_opening, Text.Utf8.encode_append, encode_closing]

theorem length_nested (count : Nat) : (encode (nested count)).length = 2 * count := by
  induction count with
  | zero => rfl
  | succ count ih =>
      rw [encode_nested_succ, List.length_cons, List.length_append, ih, List.length_singleton]
      omega

theorem count_nested (count : Nat) : (encode (nested count)).count openingByte = count := by
  induction count with
  | zero => rfl
  | succ count ih =>
      rw [encode_nested_succ, List.count_cons_self, List.count_append, ih]
      rfl

theorem passes_nested (escape : Bool) (count : Nat) : Passes escape 1 (encode (nested count)) := by
  induction count with
  | zero => exact .nil
  | succ count ih =>
      rw [encode_nested_succ]
      exact ih.group.mono

theorem getElem?_nested
    {count position : Nat}
    (isBefore : position < count) :
    (encode (nested count))[position]? = some openingByte := by
  induction count generalizing position with
  | zero => exact absurd isBefore (Nat.not_lt_zero _)
  | succ count ih =>
      rw [encode_nested_succ]
      cases position with
      | zero => rfl
      | succ position =>
          have isInner := ih (Nat.lt_of_succ_lt_succ isBefore)
          rw [List.getElem?_cons_succ,
            List.getElem?_append_left (List.getElem?_eq_some_iff.1 isInner).1, isInner]

theorem group?_nested (escape : Bool) (count : Nat) :
    group? escape (encode (nested (count + 1))) = some ⟨0, 2 * count + 1⟩ := by
  have isGroup : group? escape (withGroup [] (encode (nested count)) []) =
      some ⟨0, 0 + 1 + (encode (nested count)).length⟩ :=
    group?_withGroup [] (fun _ isNone => nomatch isNone) (passes_nested escape count)
  rw [length_nested, Nat.zero_add, Nat.add_comm] at isGroup
  rw [encode_nested_succ]
  exact isGroup

/-- The braces that open one inside the other are counted one by one. -/
theorem splitter_meets_nested
    {escape : Bool}
    {count depth : Nat}
    (isReached : Group.IsReached escape (encode (nested (count + 1))) ⟨0, 2 * count + 1⟩)
    (isInside : depth ≤ count) :
    (splitter escape (encode (nested (count + 1))) (2 * count + 1)).Meets
      (.goesOn (.first ⟨0, 2 * count + 1⟩))
      { start := 1, depth := .ofNat depth, position := depth + 1 } := by
  induction depth with
  | zero => exact .here _
  | succ depth ih =>
      have meets := ih (Nat.le_of_succ_le isInside)
      have inStep := Loop.forall_meets_of_leads (fun _ => IsInStep.leads isReached)
        (IsInStep.first isReached) meets
      have isNext := inStep.splitter_eq_past (show depth + 1 < 2 * count + 1 by omega)
        (getElem?_nested (Nat.succ_lt_succ isInside)) (by simp [openingByte, commaByte])
      refine meets.next (isNext.trans ?_)
      have notClosing : openingByte = closingByte → depth ≠ 0 := fun isClosing =>
        absurd isClosing (by decide)
      rw [Scan.past, stride_of_isBrace (.inl rfl), countAfter_ofNat notClosing, depthBehind,
        if_pos rfl]

/-- Where 2³¹ braces are open inside of a group, the count is below zero. -/
theorem nested_counts_below_zero :
    (finder (!GlobFlags.empty.has .noescape) (encode (nested (2 ^ 31 + 1)))).EndsWith
        (Search.first (encode (nested (2 ^ 31 + 1)))) (some ⟨0, 2 * 2 ^ 31 + 1⟩) ∧
      ∃ scan,
        (splitter (!GlobFlags.empty.has .noescape) (encode (nested (2 ^ 31 + 1)))
            (2 * 2 ^ 31 + 1)).Meets (.goesOn (.first ⟨0, 2 * 2 ^ 31 + 1⟩)) scan ∧
          scan.depth < 0 := by
  have isWord : nesting (!GlobFlags.empty.has .noescape) (encode (nested (2 ^ 31 + 1))) <
      2 ^ 32 := by
    refine Nat.lt_of_le_of_lt (nesting_le _ _) ?_
    rw [count_nested]
    decide
  have isFound := finder_endsWith_group? isWord
  rw [group?_nested] at isFound
  exact ⟨isFound, _, splitter_meets_nested (isReached_of_endsWith isFound) (Nat.le_refl _),
    by decide⟩

end Braces
end FilePaths
