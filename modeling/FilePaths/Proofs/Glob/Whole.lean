import FilePaths.Glob.Match
import FilePaths.Proofs.Glob.Segment

/-!
# Whole paths, all choices

Without the option for path names a pattern describes whole paths, and a slash is a character like
any other.  A relation says so along the pattern, character by character, and leaves every choice
to a star; the matcher, which tries only its last star again and gives up as soon as the text has
ended, decides it.
-/

namespace FilePaths
namespace Glob

/-- The character stands for itself in a pattern. -/
def Rules.IsOrdinary (rules : Rules) (c : Char) : Prop :=
  c ≠ '*' ∧ c ≠ '?' ∧ c ≠ '[' ∧ (c = '\\' → rules.escape = false)

/-- A pattern describes a whole text: a star any run of characters, a question mark any character,
a class in brackets a character that belongs to it, and every other character itself, up to its
case where case does not matter.  A backslash makes the next character such a one, and stands for
nothing where none follows.  A class that is never closed describes no text. -/
inductive Describes (rules : Rules) : (pattern text : Text) → Prop
  | nil : Describes rules [] []
  | star
      {rest text : Text}
      (taken : Text)
      (behind : Describes rules rest text) :
      Describes rules ('*' :: rest) (taken ++ text)
  | question
      {rest text : Text}
      {c : Char}
      (behind : Describes rules rest text) :
      Describes rules ('?' :: rest) (c :: text)
  | bracket
      {rest after text : Text}
      {members : CharClass}
      {c : Char}
      (isClass : rules.readClass rest = some (members, after))
      (admitted : members.admits rules c = true)
      (behind : Describes rules after text) :
      Describes rules ('[' :: rest) (c :: text)
  | backslash
      (isEscape : rules.escape = true) :
      Describes rules ['\\'] []
  | escaped
      {rest text : Text}
      {hidden c : Char}
      (isEscape : rules.escape = true)
      (isSame : rules.fold hidden = rules.fold c)
      (behind : Describes rules rest text) :
      Describes rules ('\\' :: hidden :: rest) (c :: text)
  | ordinary
      {rest text : Text}
      {expected c : Char}
      (isOrdinary : rules.IsOrdinary expected)
      (isSame : rules.fold expected = rules.fold c)
      (behind : Describes rules rest text) :
      Describes rules (expected :: rest) (c :: text)

/-! ## Reading a whole pattern -/

namespace Rules

/-- Either a backslash in front has been taken away, or there is none that hides anything. -/
theorem unescape_cases (rules : Rules) (pattern : Text) :
    (rules.escape = true ∧ pattern = '\\' :: rules.unescape pattern) ∨
      (rules.unescape pattern = pattern ∧ (pattern.head? = some '\\' → rules.escape = false)) := by
  unfold unescape
  split
  · by_cases isEscape : rules.escape = true
    · simp [isEscape]
    · simp [isEscape]
  · rename_i notBackslash
    refine .inr ⟨rfl, fun isHead => ?_⟩
    obtain ⟨rest, isCons⟩ := List.head?_eq_some_iff.1 isHead
    exact (notBackslash rest isCons).elim

theorem unescape_backslash
    {rules : Rules}
    (isEscape : rules.escape = true)
    (rest : Text) :
    rules.unescape ('\\' :: rest) = rest := by
  simp [unescape, isEscape]

theorem IsOrdinary.unescape
    {rules : Rules}
    {c : Char}
    (isOrdinary : rules.IsOrdinary c)
    (rest : Text) :
    rules.unescape (c :: rest) = c :: rest := by
  rcases rules.unescape_cases (c :: rest) with ⟨isEscape, isCons⟩ | ⟨same, -⟩
  · have isBackslash := (List.cons.inj isCons).1
    simp [isOrdinary.2.2.2 isBackslash] at isEscape
  · exact same

theorem IsOrdinary.isPlain
    {rules : Rules}
    {c : Char}
    (isOrdinary : rules.IsOrdinary c)
    (rest : Text) :
    IsPlain (c :: rest) := by
  simp [IsPlain, isOrdinary.1, isOrdinary.2.1, isOrdinary.2.2.1]

theorem ends_cons_eq_false
    {rules : Rules}
    (notPathname : rules.pathname = false)
    (c : Char)
    (rest : Text) :
    rules.ends (c :: rest) = false := by
  simp [ends, notPathname]

theorem segment_of_notPathname
    {rules : Rules}
    (notPathname : rules.pathname = false)
    (text : Text) :
    rules.segment text = text := by
  induction text with
  | nil => rfl
  | cons c text ih => rw [segment_cons (by simp [ends_cons_eq_false notPathname]), ih]

end Rules

/-- What a pattern describes, the elements read from it match. -/
theorem Describes.matches
    {rules : Rules}
    {pattern text : Text}
    (notPathname : rules.pathname = false)
    (describes : Describes rules pattern text) :
    Matches rules (rules.read pattern).1 text := by
  induction describes with
  | nil =>
      rw [Rules.read_of_ends (by simp [Rules.IsPlain]) rfl]
      exact .nil
  | star taken _ ih =>
      rw [Rules.read_star]
      exact .star taken ih
  | question _ ih =>
      rw [Rules.read_question]
      exact .one rfl ih
  | bracket isClass admitted _ ih =>
      rw [Rules.read_bracket_of_some isClass]
      exact .one admitted ih
  | backslash isEscape =>
      have isNil := Rules.unescape_backslash isEscape []
      rw [Rules.read_of_ends (by simp [Rules.IsPlain]) (by rw [isNil]; rfl)]
      exact .nil
  | escaped isEscape isSame _ ih =>
      rw [Rules.read_of_literal (by simp [Rules.IsPlain]) (Rules.unescape_backslash isEscape _)
        (by simp [Rules.ends_cons_eq_false notPathname])]
      exact .one (by simpa [Element.admits] using isSame) ih
  | ordinary isOrdinary isSame _ ih =>
      rw [Rules.read_of_literal (isOrdinary.isPlain _) (isOrdinary.unescape _)
        (by simp [Rules.ends_cons_eq_false notPathname])]
      exact .one (by simpa [Element.admits] using isSame) ih

/-- An element that takes one character has one to take. -/
theorem exists_of_matches_cons
    {rules : Rules}
    {element : Element}
    {elements : List Element}
    {text : Text}
    (notStar : element ≠ .star)
    (isMatch : Matches rules (element :: elements) text) :
    ∃ c rest, text = c :: rest ∧ element.admits rules c = true ∧ Matches rules elements rest := by
  cases text with
  | nil => exact absurd isMatch (not_matches_cons_nil notStar)
  | cons c rest => exact ⟨c, rest, rfl, (matches_cons_iff notStar).1 isMatch⟩

/-- What the elements of a pattern match, the pattern describes. -/
theorem describes_of_matches
    {rules : Rules}
    {pattern text : Text}
    (notPathname : rules.pathname = false)
    (isMatch : Matches rules (rules.read pattern).1 text) :
    Describes rules pattern text := by
  fun_induction Rules.read rules pattern generalizing text with
  | case1 rest ih =>
      obtain ⟨start, ⟨taken, rfl⟩, behind⟩ := matches_star_iff.1 isMatch
      exact .star taken (ih behind)
  | case2 rest ih =>
      obtain ⟨c, left, rfl, -, behind⟩ := exists_of_matches_cons (by simp) isMatch
      exact .question (ih behind)
  | case3 rest isClass =>
      obtain ⟨c, left, -, admitted, -⟩ := exists_of_matches_cons (by simp) isMatch
      simp [Element.admits] at admitted
  | case4 rest members after isClass ih =>
      obtain ⟨c, left, rfl, admitted, behind⟩ := exists_of_matches_cons (by simp) isMatch
      exact .bracket isClass admitted (ih behind)
  | case5 pattern notStar notQuestion notBracket isNil =>
      cases text with
      | cons c text => exact absurd isMatch not_matches_nil_cons
      | nil =>
          rcases rules.unescape_cases pattern with ⟨isEscape, isCons⟩ | ⟨same, -⟩
          · rw [isCons, isNil]
            exact .backslash isEscape
          · rw [← same, isNil]
            exact .nil
  | case6 pattern notStar notQuestion notBracket c rest isLiteral isEnd =>
      simp [Rules.ends_cons_eq_false notPathname] at isEnd
  | case7 pattern notStar notQuestion notBracket expected rest isLiteral notEnd ih =>
      obtain ⟨c, left, rfl, admitted, behind⟩ := exists_of_matches_cons (by simp) isMatch
      have isSame : rules.fold expected = rules.fold c := by simpa [Element.admits] using admitted
      rcases rules.unescape_cases pattern with ⟨isEscape, isCons⟩ | ⟨same, notHidden⟩
      · rw [isCons, isLiteral]
        exact .escaped isEscape isSame (ih behind)
      · obtain rfl : pattern = expected :: rest := same.symm.trans isLiteral
        refine .ordinary ⟨?_, ?_, ?_, ?_⟩ isSame (ih behind)
        · rintro rfl
          exact notStar rest rfl
        · rintro rfl
          exact notQuestion rest rfl
        · rintro rfl
          exact notBracket rest rfl
        · rintro rfl
          exact notHidden rfl

theorem describes_iff_matches
    {rules : Rules}
    (notPathname : rules.pathname = false)
    (pattern text : Text) :
    Describes rules pattern text ↔ Matches rules (rules.read pattern).1 text :=
  ⟨Describes.matches notPathname, describes_of_matches notPathname⟩

/-! ## The matcher -/

/-- Without the option for path names a whole path is matched like one segment. -/
theorem isMatch_iff_segmentMatches
    {flags : GlobFlags}
    (notPathname : flags.has .pathname = false)
    (pattern path : Text) :
    isMatch flags pattern path = true ↔
      SegmentMatches (Rules.ofFlags flags) ((Rules.ofFlags flags).read pattern).1 path := by
  have isWhole : (Rules.ofFlags flags).pathname = false := notPathname
  have segment_eq := Rules.segment_of_notPathname isWhole path
  simp only [isMatch, isWhole, Bool.false_eq_true, if_false]
  cases matched : (Rules.ofFlags flags).matchSegment pattern path with
  | none =>
      have noMatch := Rules.not_segmentMatches_of_matchSegment matched
      rw [segment_eq] at noMatch
      exact iff_of_false (by simp) noMatch
  | some found =>
      obtain ⟨-, -, here⟩ := Rules.segmentMatches_of_matchSegment matched
      rw [segment_eq] at here
      exact iff_of_true rfl here

/-- Without the option for path names a pattern matches a path exactly if it describes the whole of
it, and spells out a dot in front of the path unless the options let it be matched like any other
character. -/
theorem isMatch_iff_describes
    {flags : GlobFlags}
    (notPathname : flags.has .pathname = false)
    (pattern path : Text) :
    isMatch flags pattern path = true ↔
      Describes (Rules.ofFlags flags) pattern path ∧
        (path.head? = some '.' →
          flags.has .dotmatch = true ∨
            ((Rules.ofFlags flags).unescape pattern).head? = some '.') := by
  rw [isMatch_iff_segmentMatches notPathname, SegmentMatches, describes_iff_matches notPathname,
    Rules.head?_read_eq_dot_iff]
  refine and_congr_right fun _ => ?_
  cases isDotmatch : flags.has .dotmatch <;> simp [Rules.ofFlags, isDotmatch]

/-- Stars around an escaped star, classes and a backslash at the end. -/
theorem describes_between_stars :
    GlobFlags.empty.has .pathname = false ∧
      Describes (Rules.ofFlags .empty) "\\.*[!x-z]\\**?[a-]*\\".toList ".ab*c*q-/".toList ∧
        (".ab*c*q-/".toList.head? = some '.' →
          GlobFlags.empty.has .dotmatch = true ∨
            ((Rules.ofFlags .empty).unescape "\\.*[!x-z]\\**?[a-]*\\".toList).head? = some '.') :=
  ⟨by decide, (isMatch_iff_describes (by decide) _ _).1 (by decide +kernel)⟩

end Glob
end FilePaths
