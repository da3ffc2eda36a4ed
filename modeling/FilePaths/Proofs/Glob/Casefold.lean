import FilePaths.Proofs.Glob.Replacing

/-!
# Matching without regard to case

Two paths that differ only in the case of their letters should get the same answer under the
option for case.  Characters are compared in upper case, with one exception: the two ends of a
range belong to it as they stand.  For a range whose ends are in order in upper case that adds
nothing.  A range whose ends are in reverse order has nothing but its ends, and if one of them is a
letter, the other case of that letter is left out.

So an item of a class disregards case exactly if it is no such range, and a pattern without such
ranges, in itself and in everything it expands to, gives one answer for both cases.
-/

namespace FilePaths
namespace Glob

/-! ## Letters and their other case -/

/-- A character that is no letter is the upper case of nothing else. -/
theorem toUpper_eq_iff_of_not_isAlpha
    {c expected : Char}
    (noLetter : expected.isAlpha = false) :
    c.toUpper = expected ↔ c = expected := by
  rcases Rules.toUpper_cases c with same | ⟨isLower, isUpper⟩
  · rw [same]
  · obtain ⟨notUpper, notLower⟩ := Bool.or_eq_false_iff.1 noLetter
    refine iff_of_false ?_ ?_
    · rintro rfl
      simp [isUpper] at notUpper
    · rintro rfl
      simp [isLower] at notLower

theorem lt_of_isAlpha
    {c : Char}
    (isLetter : c.isAlpha = true) :
    c.toNat < 128 := by
  have isAlpha_eq : c.isAlpha =
      (decide (65 ≤ c.val ∧ c.val ≤ 90) || decide (97 ≤ c.val) && decide (c.val ≤ 122)) := rfl
  have toNat_eq : c.toNat = c.val.toNat := rfl
  simp [isAlpha_eq, UInt32.le_iff_toNat_le] at isLetter
  omega

/-- Every letter has another case. -/
theorem exists_other_case
    {c : Char}
    (isLetter : c.isAlpha = true) :
    ∃ d, d ≠ c ∧ d.toUpper = c.toUpper := by
  have table : ∀ n < 128, (Char.ofNat n).isAlpha = true →
      ((Char.ofNat n).toUpper ≠ Char.ofNat n ∧
        (Char.ofNat n).toUpper.toUpper = (Char.ofNat n).toUpper) ∨
      ((Char.ofNat n).toLower ≠ Char.ofNat n ∧
        (Char.ofNat n).toLower.toUpper = (Char.ofNat n).toUpper) := by
    decide +kernel
  have entry := table c.toNat (lt_of_isAlpha isLetter)
  rw [Char.ofNat_toNat] at entry
  rcases entry isLetter with ⟨isOther, same⟩ | ⟨isOther, same⟩
  · exact ⟨c.toUpper, isOther, same⟩
  · exact ⟨c.toLower, isOther, same⟩

/-! ## Items that disregard case -/

/-- The item has no end of a range that belongs to it in one case only: the ends are in order in
upper case, or both are no letters. -/
def ClassItem.IsCaseless : ClassItem → Prop
  | .single _ => True
  | .range low high =>
      low.toUpper ≤ high.toUpper ∨ (low.isAlpha = false ∧ high.isAlpha = false)

instance : DecidablePred ClassItem.IsCaseless
  | .single _ => inferInstanceAs (Decidable True)
  | .range low high =>
      inferInstanceAs (Decidable
        (low.toUpper ≤ high.toUpper ∨ (low.isAlpha = false ∧ high.isAlpha = false)))

namespace Rules

variable
  {rules : Rules}
  {low high c d : Char}

theorem fold_of_casefold
    (isCasefold : rules.casefold = true)
    (c : Char) :
    rules.fold c = c.toUpper := by
  simp [fold, isCasefold]

/-- A range whose ends are in order needs no rule for its ends. -/
theorem inRange_of_le (inOrder : rules.fold low ≤ rules.fold high) :
    rules.inRange low high c =
      (decide (rules.fold low ≤ rules.fold c) && decide (rules.fold c ≤ rules.fold high)) := by
  unfold inRange
  by_cases isLow : low = c
  · simp [← isLow, inOrder]
  · by_cases isHigh : high = c
    · simp [← isHigh, inOrder]
    · simp [isLow, isHigh]

/-- A range whose ends are in reverse order has nothing but its ends. -/
theorem inRange_of_not_le (reversed : ¬rules.fold low ≤ rules.fold high) :
    rules.inRange low high c = (low == c || high == c) := by
  have isEmpty : ¬(rules.fold low ≤ rules.fold c ∧ rules.fold c ≤ rules.fold high) :=
    fun ⟨first, second⟩ => reversed (Char.le_trans first second)
  simp [inRange, isEmpty]

/-- A character that is no letter is told from others in either case. -/
theorem beq_congr_of_not_isAlpha
    (noLetter : low.isAlpha = false)
    (same : rules.fold c = rules.fold d) :
    (low == c) = (low == d) := by
  rw [Bool.eq_iff_iff, beq_iff_eq, beq_iff_eq]
  constructor
  · rintro rfl
    exact (eq_of_fold noLetter same).symm
  · rintro rfl
    exact (eq_of_fold noLetter same.symm).symm

theorem isMember_congr
    (member : Char)
    (same : rules.fold c = rules.fold d) :
    rules.isMember member c = rules.isMember member d := by
  have only_fold : ∀ c, rules.isMember member c = (rules.fold member == rules.fold c) := by
    intro c
    by_cases isSame : member = c <;> simp [isMember, isSame]
  rw [only_fold, only_fold, same]

theorem inRange_congr
    (isCasefold : rules.casefold = true)
    (isCaseless : (ClassItem.range low high).IsCaseless)
    (same : rules.fold c = rules.fold d) :
    rules.inRange low high c = rules.inRange low high d := by
  by_cases inOrder : rules.fold low ≤ rules.fold high
  · rw [inRange_of_le inOrder, inRange_of_le inOrder, same]
  · rw [inRange_of_not_le inOrder, inRange_of_not_le inOrder]
    rw [fold_of_casefold isCasefold, fold_of_casefold isCasefold] at inOrder
    obtain ⟨lowNoLetter, highNoLetter⟩ := isCaseless.resolve_left inOrder
    rw [beq_congr_of_not_isAlpha lowNoLetter same, beq_congr_of_not_isAlpha highNoLetter same]

/-- A range whose ends are in reverse order, an end being a letter, has that letter in one case
only. -/
theorem exists_inRange_ne
    (isCasefold : rules.casefold = true)
    (notCaseless : ¬(ClassItem.range low high).IsCaseless) :
    ∃ c d, rules.fold c = rules.fold d ∧
      rules.inRange low high c = true ∧ rules.inRange low high d = false := by
  obtain ⟨reversed, hasLetter⟩ := not_or.1 notCaseless
  simp only [← fold_of_casefold isCasefold] at reversed
  have isEnd : ∃ c, (c = low ∨ c = high) ∧ c.isAlpha = true := by
    by_cases lowLetter : low.isAlpha = true
    · exact ⟨low, .inl rfl, lowLetter⟩
    · exact ⟨high, .inr rfl, by simpa [lowLetter] using hasLetter⟩
  obtain ⟨c, isEnd, isLetter⟩ := isEnd
  obtain ⟨d, isOther, same⟩ := exists_other_case isLetter
  simp only [← fold_of_casefold isCasefold] at same
  refine ⟨c, d, same.symm, ?_, ?_⟩
  · rw [inRange_of_not_le reversed]
    rcases isEnd with rfl | rfl <;> simp
  · have endsDiffer : rules.fold low ≠ rules.fold high :=
      fun isSame => reversed (isSame ▸ Char.le_refl _)
    rw [inRange_of_not_le reversed]
    rcases isEnd with rfl | rfl
    · have notHigh : high ≠ d := fun isHigh => endsDiffer (by rw [isHigh, same])
      simp [isOther.symm, notHigh]
    · have notLow : low ≠ d := fun isLow => endsDiffer (by rw [isLow, same])
      simp [isOther.symm, notLow]

end Rules

/-- An item has every letter in both cases or in none exactly if it is no range with ends in
reverse order of which one is a letter. -/
theorem ClassItem.isCaseless_iff
    {rules : Rules}
    (isCasefold : rules.casefold = true)
    (item : ClassItem) :
    item.IsCaseless ↔
      ∀ c d, rules.fold c = rules.fold d → item.admits rules c = item.admits rules d := by
  cases item with
  | single member =>
      exact iff_of_true trivial fun c d same => Rules.isMember_congr member same
  | range low high =>
      constructor
      · intro isCaseless c d same
        exact Rules.inRange_congr isCasefold isCaseless same
      · intro same
        refine Decidable.byContradiction fun notCaseless => ?_
        obtain ⟨c, d, isSame, isIn, isOut⟩ := Rules.exists_inRange_ne isCasefold notCaseless
        have := same c d isSame
        simp only [admits, isIn, isOut] at this
        contradiction

/-! ## Patterns without regard to case -/

/-- The element disregards case: all items of a class do. -/
def Element.IsCaseless : Element → Prop
  | .oneOf members => ∀ item ∈ members.items, item.IsCaseless
  | _ => True

instance : DecidablePred Element.IsCaseless
  | .oneOf members => inferInstanceAs (Decidable (∀ item ∈ members.items, item.IsCaseless))
  | .star => inferInstanceAs (Decidable True)
  | .anyChar => inferInstanceAs (Decidable True)
  | .unclosed => inferInstanceAs (Decidable True)
  | .literal _ => inferInstanceAs (Decidable True)

/-- The elements of a segment. -/
def Segment.elements : Segment → List Element
  | .spread => []
  | .single elements => elements

/-- The elements of a pattern, those of all its segments under the rule for path names. -/
def Rules.elements (rules : Rules) (pattern : Text) : List Element :=
  if rules.pathname then (rules.readSegments pattern).flatMap Segment.elements
  else (rules.read pattern).1

theorem head?_eq_of_upper_eq
    {text other : Text}
    {c : Char}
    (noLetter : c.isAlpha = false)
    (same : Text.upper text = Text.upper other) :
    text.head? = some c ↔ other.head? = some c := by
  have head?_upper : ∀ text, (Text.upper text).head? = some c ↔ text.head? = some c := by
    intro text
    simp [Text.upper, toUpper_eq_iff_of_not_isAlpha noLetter]
  rw [← head?_upper text, same, head?_upper other]

theorem isSlash_toUpper (c : Char) : Path.isSlash c.toUpper = Path.isSlash c := by
  have noLetter : '/'.isAlpha = false := rfl
  rw [Bool.eq_iff_iff]
  simp [Path.isSlash, toUpper_eq_iff_of_not_isAlpha noLetter]

/-- Whether a character belongs to a class is a matter of the items alone. -/
theorem CharClass.admits_of_items
    {rules other : Rules}
    {members : CharClass}
    {c d : Char}
    (sameItems : ∀ item ∈ members.items, item.admits rules c = item.admits other d) :
    members.admits rules c = members.admits other d := by
  have sameUnion : members.items.any (ClassItem.admits rules c) =
      members.items.any (ClassItem.admits other d) := by
    rw [Bool.eq_iff_iff, List.any_eq_true, List.any_eq_true]
    refine exists_congr fun item => and_congr_right fun isItem => ?_
    rw [sameItems item isItem]
  rw [admits, admits, sameUnion]

section Casefold

variable
  {rules : Rules}
  (isCasefold : rules.casefold = true)

include isCasefold

theorem CharClass.admits_congr
    {members : CharClass}
    {c d : Char}
    (areCaseless : ∀ item ∈ members.items, item.IsCaseless)
    (same : rules.fold c = rules.fold d) :
    members.admits rules c = members.admits rules d := by
  apply CharClass.admits_of_items
  intro item isItem
  exact (item.isCaseless_iff isCasefold).1 (areCaseless item isItem) c d same

theorem Element.admits_congr
    {element : Element}
    {c d : Char}
    (isCaseless : element.IsCaseless)
    (same : rules.fold c = rules.fold d) :
    element.admits rules c = element.admits rules d := by
  cases element with
  | star => rfl
  | anyChar => rfl
  | oneOf members => exact CharClass.admits_congr isCasefold isCaseless same
  | unclosed => rfl
  | literal expected => rw [admits, admits, same]

theorem replaces_of_upper_eq
    {text other : Text}
    (same : Text.upper text = Text.upper other) :
    Replaces rules rules (fun c d => rules.fold c = rules.fold d) text other where
  chars := by
    simp only [Rules.fold_of_casefold isCasefold]
    exact forall₂_of_map_eq same
  visible := fun isVisible isPeriod isDot =>
    isVisible isPeriod ((head?_eq_of_upper_eq rfl same).2 isDot)

end Casefold

theorem Rules.mem_elements
    {rules : Rules}
    {pattern : Text}
    {elements : List Element}
    {element : Element}
    (isSegment : .single elements ∈ rules.patternSegments pattern)
    (isMember : element ∈ elements) :
    element ∈ rules.elements pattern := by
  unfold patternSegments at isSegment
  unfold Rules.elements
  split
  · rename_i isPathname
    rw [if_pos isPathname] at isSegment
    exact List.mem_flatMap.2 ⟨_, isSegment, isMember⟩
  · rename_i notPathname
    rw [if_neg notPathname, List.mem_singleton] at isSegment
    rwa [← Segment.single.inj isSegment]

/-- A pattern whose elements disregard case matches a path in every case. -/
theorem isMatch_of_upper_eq
    {flags : GlobFlags}
    {pattern path other : Text}
    (isCasefold : flags.has .casefold = true)
    (areCaseless : ∀ element ∈ (Rules.ofFlags flags).elements pattern, element.IsCaseless)
    (same : Text.upper path = Text.upper other)
    (matchesPath : isMatch flags pattern path = true) :
    isMatch flags pattern other = true := by
  have isFolding : (Rules.ofFlags flags).casefold = true := isCasefold
  have sameSegments : ((Rules.ofFlags flags).pathSegments path).map Text.upper =
      ((Rules.ofFlags flags).pathSegments other).map Text.upper := by
    unfold Text.upper at same ⊢
    rw [← Rules.pathSegments_map isSlash_toUpper, same, Rules.pathSegments_map isSlash_toUpper]
  rw [isMatch_iff_acceptsSegments] at matchesPath ⊢
  refine matchesPath.of_forall₂ ((forall₂_of_map_eq sameSegments).imp fun text replaced =>
    replaces_of_upper_eq isFolding) ?_
  intro elements isSegment element isMember c d sameHere admitted
  have isCaseless := areCaseless element (Rules.mem_elements isSegment isMember)
  rwa [← element.admits_congr isFolding isCaseless sameHere]

/-! ## Groups -/

/-- The patterns that are tried in order: what a pattern expands to, under the option for groups,
and the pattern itself. -/
def attempts (flags : GlobFlags) (pattern : Text) : List Text :=
  (if flags.has .extglob then Braces.expand flags pattern else []) ++ [pattern]

theorem fnmatch_eq_any (flags : GlobFlags) (pattern path : Text) :
    fnmatch flags pattern path =
      (attempts flags pattern).any fun tried => isMatch flags tried path := by
  cases isExtglob : flags.has .extglob <;>
    simp [fnmatch, matchesExpansion, attempts, isExtglob]

/-- Under the option for case a pattern gives the same answer for paths that differ in the case of
letters only, if in everything that is tried for it no class has a range whose ends are in reverse
order and one of them a letter. -/
theorem fnmatch_ignores_case
    {flags : GlobFlags}
    {pattern path other : Text}
    (isCasefold : flags.has .casefold = true)
    (areCaseless : ∀ tried ∈ attempts flags pattern,
      ∀ element ∈ (Rules.ofFlags flags).elements tried, element.IsCaseless)
    (same : Text.upper path = Text.upper other) :
    fnmatch flags pattern path = fnmatch flags pattern other := by
  rw [fnmatch_eq_any, fnmatch_eq_any, Bool.eq_iff_iff, List.any_eq_true, List.any_eq_true]
  refine exists_congr fun tried => and_congr_right fun isTried => ⟨?_, ?_⟩
  · exact isMatch_of_upper_eq isCasefold (areCaseless tried isTried) same
  · exact isMatch_of_upper_eq isCasefold (areCaseless tried isTried) same.symm

theorem fnmatch_ignores_case_in_folders :
    (⟨0x1a⟩ : GlobFlags).has .casefold = true ∧
      (∀ tried ∈ attempts ⟨0x1a⟩ "**/{[!A-f],[_-^]x}*.Rs".toList,
        ∀ element ∈ (Rules.ofFlags ⟨0x1a⟩).elements tried, element.IsCaseless) ∧
      Text.upper "Src/mAin.rS".toList = Text.upper "sRC/MaIN.rs".toList ∧
      fnmatch ⟨0x1a⟩ "**/{[!A-f],[_-^]x}*.Rs".toList "Src/mAin.rS".toList =
        fnmatch ⟨0x1a⟩ "**/{[!A-f],[_-^]x}*.Rs".toList "sRC/MaIN.rs".toList := by
  have isCasefold : (⟨0x1a⟩ : GlobFlags).has .casefold = true := by decide
  have areCaseless : ∀ tried ∈ attempts ⟨0x1a⟩ "**/{[!A-f],[_-^]x}*.Rs".toList,
      ∀ element ∈ (Rules.ofFlags ⟨0x1a⟩).elements tried, element.IsCaseless := by
    decide +kernel
  have same : Text.upper "Src/mAin.rS".toList = Text.upper "sRC/MaIN.rs".toList := by
    decide
  exact ⟨isCasefold, areCaseless, same, fnmatch_ignores_case isCasefold areCaseless same⟩

/-- In upper case the ends of this range are in reverse order, and one case of its letter is left
out. -/
theorem reversed_range_tells_cases_apart :
    (⟨8⟩ : GlobFlags).has .casefold = true ∧
      Text.upper "a".toList = Text.upper "A".toList ∧
      fnmatch ⟨8⟩ "[_-a]".toList "a".toList = true ∧
      fnmatch ⟨8⟩ "[_-a]".toList "A".toList = false := by
  decide +kernel

end Glob
end FilePaths
