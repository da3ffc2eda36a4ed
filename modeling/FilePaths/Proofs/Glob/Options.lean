import FilePaths.Proofs.Braces.Boundaries
import FilePaths.Proofs.Glob.Casefold
import FilePaths.Proofs.Glob.Flags
import FilePaths.Proofs.Glob.Reading

/-!
# What an option can change

An option is idle for a pattern and a path if what it is about occurs in neither: then the answer is
the same with it and without it.  The option for hidden files is the only one that makes matching
laxer whatever it is used on, since it takes conditions away from the relation that allows all
choices, and adds none.

Both follow from one comparison: rules that read a pattern alike, and fold its characters and those
of a path alike, accept what others accept unless they hide a segment that was visible.
-/

namespace FilePaths
namespace Glob

/-! ## Rules that judge alike -/

section Rules

variable {rules other : Rules}

theorem ClassItem.admits_eq
    {item : ClassItem}
    {c : Char}
    (sameHere : rules.fold c = other.fold c)
    (sameItem : ∀ d ∈ item.chars, rules.fold d = other.fold d) :
    item.admits rules c = item.admits other c := by
  cases item with
  | single member =>
      have sameMember := sameItem member List.mem_cons_self
      rw [admits, admits, Rules.isMember, Rules.isMember, sameHere, sameMember]
  | range low high =>
      have sameLow := sameItem low List.mem_cons_self
      have sameHigh := sameItem high (List.mem_cons_of_mem _ List.mem_cons_self)
      rw [admits, admits, Rules.inRange, Rules.inRange, sameHere, sameLow, sameHigh]

/-- A character fits an element under both sets of rules if they fold all characters in question
alike. -/
theorem Element.admits_eq
    {element : Element}
    {c : Char}
    (sameHere : rules.fold c = other.fold c)
    (sameElement : ∀ d ∈ element.chars, rules.fold d = other.fold d) :
    element.admits rules c = element.admits other c := by
  cases element with
  | star => rfl
  | anyChar => rfl
  | oneOf members =>
      apply CharClass.admits_of_items
      intro item isItem
      exact item.admits_eq sameHere fun d isMember =>
        sameElement d (List.mem_flatMap.2 ⟨item, isItem, isMember⟩)
  | unclosed => rfl
  | literal expected =>
      rw [admits, admits, sameHere, sameElement expected List.mem_cons_self]

end Rules

end Glob

/-! ## Idle options -/

/-- What the option is about does not occur: no backslash in the pattern, no slash in the pattern
and the path, no hidden segment in the path, no letter in the pattern and the path, no opening brace
in the pattern.  The other two options are about nothing. -/
def Flag.IsIdle (pattern path : Text) : Flag → Prop
  | .noescape => '\\' ∉ pattern
  | .pathname => '/' ∉ pattern ∧ '/' ∉ path
  | .dotmatch => ∀ text ∈ Text.splitAt Path.isSlash path, text.head? ≠ some '.'
  | .casefold => (∀ c ∈ pattern, c.isAlpha = false) ∧ ∀ c ∈ path, c.isAlpha = false
  | .extglob => '{' ∉ pattern
  | .nosort => True
  | .syscase => True

instance (pattern path : Text) : DecidablePred (Flag.IsIdle pattern path)
  | .noescape => inferInstanceAs (Decidable ('\\' ∉ pattern))
  | .pathname => inferInstanceAs (Decidable ('/' ∉ pattern ∧ '/' ∉ path))
  | .dotmatch =>
      inferInstanceAs (Decidable
        (∀ text ∈ Text.splitAt Path.isSlash path, text.head? ≠ some '.'))
  | .casefold =>
      -- Named, since a search could go through all characters there are.
      @instDecidableAnd _ _ (List.decidableBAll _ pattern) (List.decidableBAll _ path)
  | .extglob => inferInstanceAs (Decidable ('{' ∉ pattern))
  | .nosort => inferInstanceAs (Decidable True)
  | .syscase => inferInstanceAs (Decidable True)

/-- An option that is idle for a pattern is idle for a part of it. -/
theorem Flag.IsIdle.of_subset
    {flag : Flag}
    {pattern part path : Text}
    (isIdle : flag.IsIdle pattern path)
    (isSubset : part ⊆ pattern) :
    flag.IsIdle part path := by
  cases flag with
  | noescape => exact fun isMember => isIdle (isSubset isMember)
  | pathname => exact ⟨fun isMember => isIdle.1 (isSubset isMember), isIdle.2⟩
  | dotmatch => exact isIdle
  | casefold => exact ⟨fun c isMember => isIdle.1 c (isSubset isMember), isIdle.2⟩
  | extglob => exact fun isMember => isIdle (isSubset isMember)
  | nosort => trivial
  | syscase => trivial

namespace Glob

theorem fold_eq_self
    (rules : Rules)
    {c : Char}
    (noLetter : c.isAlpha = false) :
    rules.fold c = c := by
  unfold Rules.fold
  split
  · exact (toUpper_eq_iff_of_not_isAlpha noLetter).2 rfl
  · rfl

/-- If a segment of a path is hidden, whichever way it is cut, then so is one between slashes. -/
theorem exists_hidden_of_mem_pathSegments
    {rules : Rules}
    {path text : Text}
    (isSegment : text ∈ rules.pathSegments path)
    (isDot : text.head? = some '.') :
    ∃ piece ∈ Text.splitAt Path.isSlash path, piece.head? = some '.' := by
  unfold Rules.pathSegments at isSegment
  split at isSegment
  · exact ⟨text, isSegment, isDot⟩
  · rw [List.mem_singleton.1 isSegment] at isDot
    obtain ⟨rest, rfl⟩ := List.head?_eq_some_iff.1 isDot
    obtain ⟨piece, pieces, pieces_eq⟩ :=
      List.exists_cons_of_ne_nil (Path.splitAt_ne_nil rest)
    refine ⟨'.' :: piece, ?_, rfl⟩
    rw [Text.splitAt, pieces_eq]
    exact List.mem_cons_self

/-- What is tried for a pattern is made of characters of the pattern. -/
theorem subset_of_mem_attempts
    {flags : GlobFlags}
    {pattern tried : Text}
    (isTried : tried ∈ attempts flags pattern) :
    tried ⊆ pattern := by
  rcases List.mem_append.1 isTried with isExpansion | isItself
  · split at isExpansion
    · exact (Braces.sublist_of_mem_expand isExpansion).subset
    · cases isExpansion
  · rw [List.mem_singleton.1 isItself]
    exact List.Subset.refl _

end Glob

/-! ## Laxer options -/

namespace GlobFlags

open Glob

/-- The second set of options is at least as lax as the first on a pattern and a path: the two
differ in idle options only, or in the option for hidden files, which the second one has. -/
def LoosensTo (first second : GlobFlags) (pattern path : Text) : Prop :=
  ∀ flag, first.has flag = second.has flag ∨ flag.IsIdle pattern path ∨
    (flag = .dotmatch ∧ second.has .dotmatch = true)

namespace LoosensTo

variable
  {first second : GlobFlags}
  {pattern path : Text}

theorem same_or_isIdle
    (loosens : first.LoosensTo second pattern path)
    (flag : Flag)
    (isOther : flag ≠ .dotmatch) :
    first.has flag = second.has flag ∨ flag.IsIdle pattern path :=
  (loosens flag).imp_right fun isLaxer => isLaxer.resolve_right fun isDotmatch =>
    isOther isDotmatch.1

theorem of_subset
    {part : Text}
    (loosens : first.LoosensTo second pattern path)
    (isSubset : part ⊆ pattern) :
    first.LoosensTo second part path := by
  intro flag
  exact (loosens flag).imp_right fun isLaxer =>
    isLaxer.imp_left fun isIdle => isIdle.of_subset isSubset

theorem readsAlike (loosens : first.LoosensTo second pattern path) :
    Rules.ReadsAlike (.ofFlags first) (.ofFlags second) pattern where
  escape := (loosens.same_or_isIdle .noescape (by simp)).imp_left (congrArg not)
  pathname := (loosens.same_or_isIdle .pathname (by simp)).imp_right And.left

theorem pathSegments_eq (loosens : first.LoosensTo second pattern path) :
    (Rules.ofFlags first).pathSegments path = (Rules.ofFlags second).pathSegments path :=
  Rules.pathSegments_congr
    ((loosens.same_or_isIdle .pathname (by simp)).imp_right And.right)

theorem fold_eq
    {c : Char}
    (loosens : first.LoosensTo second pattern path)
    (occurs : c ∈ pattern ∨ c ∈ path) :
    (Rules.ofFlags first).fold c = (Rules.ofFlags second).fold c := by
  rcases loosens.same_or_isIdle .casefold (by simp) with same | ⟨inPattern, inPath⟩
  · have same : (Rules.ofFlags first).casefold = (Rules.ofFlags second).casefold := same
    rw [Rules.fold, Rules.fold, same]
  · have noLetter : c.isAlpha = false := occurs.elim (inPattern c) (inPath c)
    rw [fold_eq_self _ noLetter, fold_eq_self _ noLetter]

theorem isVisible
    {text : Text}
    (loosens : first.LoosensTo second pattern path)
    (isSegment : text ∈ (Rules.ofFlags first).pathSegments path)
    (isVisible : (Rules.ofFlags first).IsVisible text) :
    (Rules.ofFlags second).IsVisible text := by
  intro isPeriod isDot
  have notDotmatch : second.has .dotmatch = false := by simpa [Rules.ofFlags] using isPeriod
  rcases loosens .dotmatch with same | noneHidden | ⟨-, isDotmatch⟩
  · exact isVisible (by simp [Rules.ofFlags, same, notDotmatch]) isDot
  · obtain ⟨piece, isPiece, isDot⟩ := exists_hidden_of_mem_pathSegments isSegment isDot
    exact noneHidden piece isPiece isDot
  · simp [isDotmatch] at notDotmatch

/-- A path that a pattern matches is matched under laxer options too. -/
theorem isMatch_mono
    (loosens : first.LoosensTo second pattern path)
    (matched : isMatch first pattern path = true) :
    isMatch second pattern path = true := by
  rw [isMatch_iff_acceptsSegments] at matched ⊢
  rw [← loosens.readsAlike.patternSegments_eq, ← loosens.pathSegments_eq]
  -- Every character of the path stands for itself.
  have areReplaced : List.Forall₂
      (Replaces (.ofFlags first) (.ofFlags second) fun c d => c = d ∧ c ∈ path)
      ((Rules.ofFlags first).pathSegments path) ((Rules.ofFlags first).pathSegments path) := by
    refine List.forall₂_same.2 fun text isSegment => ⟨?_, loosens.isVisible isSegment⟩
    exact List.forall₂_same.2 fun c isMember =>
      ⟨rfl, Rules.subset_of_mem_pathSegments isSegment isMember⟩
  refine matched.of_forall₂ areReplaced ?_
  rintro elements isSegment element isMember c _ ⟨rfl, inPath⟩ admitted
  have isWritten := Rules.chars_subset_of_mem_patternSegments isSegment
  rwa [← element.admits_eq (loosens.fold_eq (.inr inPath)) fun d isChar =>
    loosens.fold_eq (.inl (isWritten (List.mem_flatMap.2 ⟨element, isMember, isChar⟩)))]

/-- The same patterns are tried under laxer options. -/
theorem attempts_eq (loosens : first.LoosensTo second pattern path) :
    attempts first pattern = attempts second pattern := by
  have sameExpansions : Braces.expand first pattern = Braces.expand second pattern := by
    rcases loosens.same_or_isIdle .noescape (by simp) with same | noBackslash
    · rw [Braces.expand, Braces.expand, same]
    · exact Braces.expand_of_noBackslash noBackslash first second
  rcases loosens.same_or_isIdle .extglob (by simp) with same | noOpening
  · rw [attempts, attempts, same, sameExpansions]
  · rw [attempts, attempts, Braces.expand_of_noOpening noOpening,
      Braces.expand_of_noOpening noOpening, ite_self, ite_self]

theorem fnmatch_mono
    (loosens : first.LoosensTo second pattern path)
    (matched : fnmatch first pattern path = true) :
    fnmatch second pattern path = true := by
  rw [fnmatch_eq_any, List.any_eq_true] at matched ⊢
  obtain ⟨tried, isTried, matched⟩ := matched
  refine ⟨tried, loosens.attempts_eq ▸ isTried, ?_⟩
  exact (loosens.of_subset (subset_of_mem_attempts isTried)).isMatch_mono matched

end LoosensTo

end GlobFlags

namespace Glob

/-! ## Idle options, and the option for hidden files -/

/-- Options that differ in idle ones only give one answer. -/
theorem fnmatch_congr
    {first second : GlobFlags}
    {pattern path : Text}
    (areIdle : ∀ flag, first.has flag = second.has flag ∨ flag.IsIdle pattern path) :
    fnmatch first pattern path = fnmatch second pattern path := by
  have loosens : first.LoosensTo second pattern path := fun flag =>
    (areIdle flag).imp_right .inl
  have tightens : second.LoosensTo first pattern path := fun flag =>
    (areIdle flag).imp Eq.symm .inl
  rw [Bool.eq_iff_iff]
  exact ⟨loosens.fnmatch_mono, tightens.fnmatch_mono⟩

/-- An option other than the one for hidden files is in a set with that one added if it is in the
set. -/
theorem has_union_dotmatch
    (flags : GlobFlags)
    {flag : Flag}
    (isOther : flag ≠ .dotmatch) :
    (flags.union (.ofFlag .dotmatch)).has flag = flags.has flag := by
  by_cases hasBit : flag = .syscase
  · rw [hasBit, GlobFlags.has_syscase, GlobFlags.has_syscase]
  · rw [GlobFlags.has_union _ _ hasBit, GlobFlags.has_ofFlag hasBit]
    simp [Ne.symm isOther]

/-- Adding the option for hidden files loses no match, and it changes nothing for a path without
hidden segments. -/
theorem fnmatch_union_dotmatch (flags : GlobFlags) (pattern path : Text) :
    (fnmatch flags pattern path = true →
        fnmatch (flags.union (.ofFlag .dotmatch)) pattern path = true) ∧
      ((∀ text ∈ Text.splitAt Path.isSlash path, text.head? ≠ some '.') →
        fnmatch (flags.union (.ofFlag .dotmatch)) pattern path = fnmatch flags pattern path) := by
  have sameOthers : ∀ flag : Flag, flag ≠ .dotmatch →
      flags.has flag = (flags.union (.ofFlag .dotmatch)).has flag := fun flag isOther =>
    (has_union_dotmatch flags isOther).symm
  have isAdded : (flags.union (.ofFlag .dotmatch)).has .dotmatch = true := by
    simp [GlobFlags.has_union, GlobFlags.has_ofFlag]
  constructor
  · apply GlobFlags.LoosensTo.fnmatch_mono
    intro flag
    by_cases isDotmatch : flag = .dotmatch
    · exact .inr (.inr ⟨isDotmatch, isAdded⟩)
    · exact .inl (sameOthers flag isDotmatch)
  · intro noneHidden
    apply fnmatch_congr
    intro flag
    by_cases isDotmatch : flag = .dotmatch
    · rw [isDotmatch]
      exact .inr noneHidden
    · exact .inl (sameOthers flag isDotmatch).symm

theorem fnmatch_union_dotmatch_in_folders :
    fnmatch ⟨0x12⟩ "**/{x,.y}/*".toList "a/.y/b".toList = true ∧
      fnmatch ((⟨0x12⟩ : GlobFlags).union (.ofFlag .dotmatch)) "**/{x,.y}/*".toList
        "a/.y/b".toList = true ∧
      (∀ text ∈ Text.splitAt Path.isSlash "a/x/b".toList, text.head? ≠ some '.') ∧
      fnmatch ((⟨0x12⟩ : GlobFlags).union (.ofFlag .dotmatch)) "**/{x,.y}/*".toList
        "a/x/b".toList = fnmatch ⟨0x12⟩ "**/{x,.y}/*".toList "a/x/b".toList := by
  have matched : fnmatch ⟨0x12⟩ "**/{x,.y}/*".toList "a/.y/b".toList = true := by decide +kernel
  have noneHidden : ∀ text ∈ Text.splitAt Path.isSlash "a/x/b".toList, text.head? ≠ some '.' := by
    decide
  exact ⟨matched, (fnmatch_union_dotmatch _ _ _).1 matched, noneHidden,
    (fnmatch_union_dotmatch _ _ _).2 noneHidden⟩

/-- Toggling an option that is idle for a pattern and a path does not change the answer, whatever
the other options are. -/
theorem fnmatch_toggle
    (flags : GlobFlags)
    {flag : Flag}
    {pattern path : Text}
    (isIdle : flag.IsIdle pattern path) :
    fnmatch (flags.toggle flag) pattern path = fnmatch flags pattern path := by
  apply fnmatch_congr
  intro other
  by_cases isToggled : flag = other
  · exact .inr (isToggled ▸ isIdle)
  · refine .inl ?_
    by_cases hasBit : other = .syscase
    · rw [hasBit, GlobFlags.has_syscase, GlobFlags.has_syscase]
    · simp [GlobFlags.has_toggle flags flag hasBit, isToggled]

theorem fnmatch_toggle_for_digits :
    (∀ flag ∈ [Flag.noescape, .pathname, .casefold],
        flag.IsIdle "{?,.[!:-@]}?".toList ".1".toList ∧
          fnmatch ((⟨0x10⟩ : GlobFlags).toggle flag) "{?,.[!:-@]}?".toList ".1".toList =
            fnmatch ⟨0x10⟩ "{?,.[!:-@]}?".toList ".1".toList) ∧
      Flag.extglob.IsIdle ".[!:-@]".toList ".1".toList ∧
      fnmatch ((⟨0x10⟩ : GlobFlags).toggle .extglob) ".[!:-@]".toList ".1".toList =
        fnmatch ⟨0x10⟩ ".[!:-@]".toList ".1".toList := by
  have areIdle : ∀ flag ∈ [Flag.noescape, .pathname, .casefold],
      flag.IsIdle "{?,.[!:-@]}?".toList ".1".toList := by decide
  have noOpening : Flag.extglob.IsIdle ".[!:-@]".toList ".1".toList := by decide
  refine ⟨fun flag isMember => ?_, noOpening, fnmatch_toggle _ noOpening⟩
  exact ⟨areIdle flag isMember, fnmatch_toggle _ (areIdle flag isMember)⟩

end Glob
end FilePaths
