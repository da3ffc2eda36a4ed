import FilePaths.Proofs.Glob.Elements

/-!
# One segment, all choices

The matcher tries a star again only if it is the last one.  No match is lost by this: every
element between two stars takes exactly one character, so if the elements up to the next star can
be matched at all, matching them as early as possible leaves the most text to that star.

Each outcome of the matcher is given a meaning in terms of the relation that allows all choices,
and every outcome is shown to mean what it says.
-/

namespace FilePaths
namespace Glob

/-! ## Elements and texts -/

theorem not_matches_cons_nil
    {rules : Rules}
    {element : Element}
    {elements : List Element}
    (notStar : element ≠ .star) :
    ¬Matches rules (element :: elements) [] := by
  intro isMatch
  generalize empty_eq : ([] : Text) = empty at isMatch
  cases isMatch with
  | star => exact notStar rfl
  | one => simp at empty_eq

theorem not_matches_nil_cons
    {rules : Rules}
    {c : Char}
    {text : Text} :
    ¬Matches rules [] (c :: text) := by
  intro isMatch
  cases isMatch

theorem matches_cons_iff
    {rules : Rules}
    {element : Element}
    {elements : List Element}
    {c : Char}
    {text : Text}
    (notStar : element ≠ .star) :
    Matches rules (element :: elements) (c :: text) ↔
      element.admits rules c = true ∧ Matches rules elements text := by
  constructor
  · intro isMatch
    generalize whole_eq : c :: text = whole at isMatch
    cases isMatch with
    | star => exact absurd rfl notStar
    | one admitted behind =>
        obtain ⟨rfl, rfl⟩ := List.cons.inj whole_eq
        exact ⟨admitted, behind⟩
  · rintro ⟨admitted, behind⟩
    exact .one admitted behind

/-- A star leaves some end of the text to the elements behind it. -/
theorem matches_star_iff
    {rules : Rules}
    {elements : List Element}
    {text : Text} :
    Matches rules (.star :: elements) text ↔
      ∃ start, start <:+ text ∧ Matches rules elements start := by
  constructor
  · rintro (_ | ⟨taken, behind⟩ | ⟨admitted, -⟩)
    · exact ⟨_, List.suffix_append _ _, behind⟩
    · simp [Element.admits] at admitted
  · rintro ⟨start, ⟨taken, rfl⟩, behind⟩
    exact .star taken behind

/-- A star can take more characters. -/
theorem Matches.star_cons
    {rules : Rules}
    {elements : List Element}
    {text : Text}
    (isMatch : Matches rules (.star :: elements) text)
    (c : Char) :
    Matches rules (.star :: elements) (c :: text) := by
  obtain ⟨start, isSuffix, behind⟩ := matches_star_iff.1 isMatch
  exact matches_star_iff.2 ⟨start, isSuffix.trans (List.suffix_cons c text), behind⟩

theorem matches_star_cons_iff
    {rules : Rules}
    {elements : List Element}
    {c : Char}
    {text : Text} :
    Matches rules (.star :: elements) (c :: text) ↔
      Matches rules elements (c :: text) ∨ Matches rules (.star :: elements) text := by
  simp only [matches_star_iff, List.suffix_cons_iff]
  constructor
  · rintro ⟨start, rfl | isSuffix, behind⟩
    · exact .inl behind
    · exact .inr ⟨start, isSuffix, behind⟩
  · rintro (behind | ⟨start, isSuffix, behind⟩)
    · exact ⟨_, .inl rfl, behind⟩
    · exact ⟨start, .inr isSuffix, behind⟩

/-- Two stars are as good as one. -/
theorem matches_star_star_iff
    {rules : Rules}
    {elements : List Element}
    {text : Text} :
    Matches rules (.star :: .star :: elements) text ↔ Matches rules (.star :: elements) text := by
  simp only [matches_star_iff]
  constructor
  · rintro ⟨middle, isLater, start, isSuffix, behind⟩
    exact ⟨start, isSuffix.trans isLater, behind⟩
  · rintro ⟨start, isSuffix, behind⟩
    exact ⟨start, isSuffix, start, List.suffix_refl _, behind⟩

namespace Rules

/-! ## The end of a segment -/

theorem ends_eq_true_iff
    {rules : Rules}
    {text : Text} :
    rules.ends text = true ↔ rules.segment text = [] := by
  cases text with
  | nil => simp [ends, segment]
  | cons c rest => simp [ends, segment, inSegment, List.takeWhile_cons]

theorem inSegment_of_ends
    {rules : Rules}
    {c : Char}
    {text : Text}
    (notEnd : ¬rules.ends (c :: text) = true) :
    rules.inSegment c = true := by
  simpa only [ends, inSegment, Bool.not_eq_true', Bool.not_eq_true] using notEnd

theorem segment_cons
    {rules : Rules}
    {c : Char}
    {text : Text}
    (notEnd : ¬rules.ends (c :: text) = true) :
    rules.segment (c :: text) = c :: rules.segment text :=
  List.takeWhile_cons_of_pos (inSegment_of_ends notEnd)

theorem beyond_cons
    {rules : Rules}
    {c : Char}
    {text : Text}
    (notEnd : ¬rules.ends (c :: text) = true) :
    rules.beyond (c :: text) = rules.beyond text :=
  List.dropWhile_cons_of_pos (inSegment_of_ends notEnd)

end Rules

/-! ## The meaning of an outcome -/

/-- An outcome for a text says the truth about elements with a pattern behind them. -/
def Outcome.IsRight
    (rules : Rules)
    (elements : List Element)
    (behind text : Text) :
    Outcome → Prop
  | .matched after left =>
      after = behind ∧ rules.beyond left = rules.beyond text ∧
        Matches rules elements (rules.segment text)
  | .refused => ∀ start, start <:+ rules.segment text → ¬Matches rules elements start
  | .mismatch => ¬Matches rules elements (rules.segment text)

/-- What is final behind a star is final for the star too. -/
theorem Outcome.IsRight.star
    {rules : Rules}
    {elements : List Element}
    {behind text : Text}
    {outcome : Outcome}
    (isRight : outcome.IsRight rules elements behind text)
    (isFinal : outcome ≠ .mismatch) :
    outcome.IsRight rules (.star :: elements) behind text := by
  cases outcome with
  | matched after left =>
      obtain ⟨sameAfter, sameEnd, isMatch⟩ := isRight
      exact ⟨sameAfter, sameEnd, .star [] isMatch⟩
  | refused =>
      intro start isSuffix isMatch
      obtain ⟨later, isLater, behind⟩ := matches_star_iff.1 isMatch
      exact isRight later (isLater.trans isSuffix) behind
  | mismatch => exact absurd rfl isFinal

/-- If the elements behind a star do not match here, the star takes one more character, and the
outcome is the one behind that character. -/
theorem Outcome.IsRight.star_cons
    {rules : Rules}
    {elements : List Element}
    {behind text : Text}
    {c : Char}
    {outcome : Outcome}
    (isRight : outcome.IsRight rules (.star :: elements) behind text)
    (notEnd : ¬rules.ends (c :: text) = true)
    (noneHere : ¬Matches rules elements (rules.segment (c :: text))) :
    outcome.IsRight rules (.star :: elements) behind (c :: text) := by
  have segment_eq := Rules.segment_cons notEnd
  have beyond_eq := Rules.beyond_cons notEnd
  rw [segment_eq] at noneHere
  cases outcome with
  | matched after left =>
      refine ⟨isRight.1, isRight.2.1.trans beyond_eq.symm, ?_⟩
      rw [segment_eq]
      exact isRight.2.2.star_cons c
  | refused =>
      intro start isSuffix isMatch
      rw [segment_eq] at isSuffix
      rcases List.suffix_cons_iff.1 isSuffix with rfl | isLater
      · rcases matches_star_cons_iff.1 isMatch with whole | behind
        · exact noneHere whole
        · exact isRight _ (List.suffix_refl _) behind
      · exact isRight start isLater isMatch
  | mismatch =>
      simp only [Outcome.IsRight, segment_eq]
      intro isMatch
      rcases matches_star_cons_iff.1 isMatch with whole | behind
      · exact noneHere whole
      · exact isRight behind

/-- A star that takes characters until the attempt behind it does not fail by a mismatch has
taken all choices into account. -/
theorem isRight_absorb
    {rules : Rules}
    {elements : List Element}
    {behind : Text}
    {attempt : Text → Outcome}
    (isRight : ∀ text, (attempt text).IsRight rules elements behind text)
    (isFinal : ∀ text, rules.ends text = true → attempt text ≠ .mismatch)
    (text : Text) :
    (absorb attempt text).IsRight rules (.star :: elements) behind text := by
  induction text with
  | nil => exact (isRight []).star (isFinal [] rfl)
  | cons c rest ih =>
      unfold absorb
      split
      · rename_i failed
        have notEnd : ¬rules.ends (c :: rest) = true := fun isEnd => isFinal _ isEnd failed
        have noneHere := isRight (c :: rest)
        rw [failed] at noneHere
        exact ih.star_cons notEnd noneHere
      · rename_i notFailed
        exact (isRight (c :: rest)).star notFailed

/-- An element that takes one character, and the outcome behind it. -/
theorem Outcome.IsRight.cons
    {rules : Rules}
    {element : Element}
    {elements : List Element}
    {behind text : Text}
    {c : Char}
    {outcome : Outcome}
    (notStar : element ≠ .star)
    (notEnd : ¬rules.ends (c :: text) = true)
    (admitted : element.admits rules c = true)
    (isRight : outcome.IsRight rules elements behind text) :
    outcome.IsRight rules (element :: elements) behind (c :: text) := by
  have segment_eq := Rules.segment_cons notEnd
  have beyond_eq := Rules.beyond_cons notEnd
  cases outcome with
  | matched after left =>
      refine ⟨isRight.1, isRight.2.1.trans beyond_eq.symm, ?_⟩
      rw [segment_eq]
      exact .one admitted isRight.2.2
  | refused =>
      intro start isSuffix isMatch
      rw [segment_eq] at isSuffix
      cases start with
      | nil => exact not_matches_cons_nil notStar isMatch
      | cons d rest =>
          have isMatch := ((matches_cons_iff notStar).1 isMatch).2
          rcases List.suffix_cons_iff.1 isSuffix with equal | isLater
          · obtain ⟨-, rfl⟩ := List.cons.inj equal
            exact isRight _ (List.suffix_refl _) isMatch
          · exact isRight rest ((List.suffix_cons d rest).trans isLater) isMatch
  | mismatch =>
      simp only [Outcome.IsRight, segment_eq, matches_cons_iff notStar]
      rintro ⟨-, isMatch⟩
      exact isRight isMatch

/-- An element that takes one character fits no text that has ended. -/
theorem isRight_refused_of_ends
    {rules : Rules}
    {element : Element}
    {elements : List Element}
    {behind text : Text}
    (notStar : element ≠ .star)
    (isEnd : rules.ends text = true) :
    Outcome.refused.IsRight rules (element :: elements) behind text := by
  intro start isSuffix
  rw [Rules.ends_eq_true_iff.1 isEnd] at isSuffix
  rw [List.suffix_nil.1 isSuffix]
  exact not_matches_cons_nil notStar

/-- An element that takes one character fits no other character. -/
theorem isRight_mismatch_of_not_admits
    {rules : Rules}
    {element : Element}
    {elements : List Element}
    {behind text : Text}
    {c : Char}
    (notStar : element ≠ .star)
    (notEnd : ¬rules.ends (c :: text) = true)
    (notAdmitted : ¬element.admits rules c = true) :
    Outcome.mismatch.IsRight rules (element :: elements) behind (c :: text) := by
  simp only [Outcome.IsRight, Rules.segment_cons notEnd, matches_cons_iff notStar]
  exact fun isMatch => notAdmitted isMatch.1

namespace Rules

/-! ## Reading -/

@[simp] theorem read_star (rules : Rules) (rest : Text) :
    rules.read ('*' :: rest) = push .star (rules.read rest) := by
  rw [read]

@[simp] theorem read_question (rules : Rules) (rest : Text) :
    rules.read ('?' :: rest) = push .anyChar (rules.read rest) := by
  rw [read]

theorem read_bracket_of_none
    {rules : Rules}
    {rest : Text}
    (isClass : rules.readClass rest = none) :
    rules.read ('[' :: rest) = ([.unclosed], []) := by
  rw [read]
  split <;> simp_all

theorem read_bracket_of_some
    {rules : Rules}
    {rest after : Text}
    {members : CharClass}
    (isClass : rules.readClass rest = some (members, after)) :
    rules.read ('[' :: rest) = push (.oneOf members) (rules.read after) := by
  rw [read]
  split <;> simp_all

/-- The pattern does not start with a character that has a meaning of its own, except perhaps
with a backslash. -/
def IsPlain (pattern : Text) : Prop :=
  pattern.head? ≠ some '*' ∧ pattern.head? ≠ some '?' ∧ pattern.head? ≠ some '['

theorem read_of_ends
    {rules : Rules}
    {pattern : Text}
    (isPlain : IsPlain pattern)
    (isEnd : rules.ends (rules.unescape pattern) = true) :
    rules.read pattern = ([], rules.unescape pattern) := by
  unfold read
  split
  · simp [IsPlain] at isPlain
  · simp [IsPlain] at isPlain
  · simp [IsPlain] at isPlain
  · split
    · rename_i isLiteral
      rw [isLiteral]
    · rename_i isLiteral
      rw [isLiteral] at isEnd ⊢
      rw [if_pos isEnd]

theorem read_of_literal
    {rules : Rules}
    {pattern rest : Text}
    {c : Char}
    (isPlain : IsPlain pattern)
    (isLiteral : rules.unescape pattern = c :: rest)
    (notEnd : ¬rules.ends (c :: rest) = true) :
    rules.read pattern = push (.literal c) (rules.read rest) := by
  rw [read.eq_def]
  split
  · simp [IsPlain] at isPlain
  · simp [IsPlain] at isPlain
  · simp [IsPlain] at isPlain
  · split <;> simp_all

/-- Where the pattern has ended, it does not go on with a special character. -/
theorem isPlain_of_ends
    {rules : Rules}
    {pattern : Text}
    (isEnd : rules.ends (rules.unescape pattern) = true) :
    IsPlain pattern := by
  refine ⟨?_, ?_, ?_⟩ <;>
    · intro isHead
      obtain ⟨rest, rfl⟩ := List.head?_eq_some_iff.1 isHead
      simp [unescape, ends] at isEnd

/-- What is not the end of a segment and not a star starts with an element that takes one
character. -/
theorem exists_read_cons
    {rules : Rules}
    {pattern : Text}
    (notStar : pattern.head? ≠ some '*')
    (notEnd : ¬rules.ends (rules.unescape pattern) = true) :
    ∃ element elements, (rules.read pattern).1 = element :: elements ∧ element ≠ .star := by
  by_cases isPlain : IsPlain pattern
  · cases isLiteral : rules.unescape pattern with
    | nil => simp [isLiteral, ends] at notEnd
    | cons c rest =>
        rw [isLiteral] at notEnd
        exact ⟨.literal c, (rules.read rest).1,
          by rw [read_of_literal isPlain isLiteral notEnd]; rfl, by simp⟩
  · simp only [IsPlain, notStar, ne_eq, not_false_eq_true, true_and, not_and,
      Decidable.not_not] at isPlain
    by_cases isQuestion : pattern.head? = some '?'
    · obtain ⟨rest, rfl⟩ := List.head?_eq_some_iff.1 isQuestion
      exact ⟨.anyChar, (rules.read rest).1, by rw [read_question]; rfl, by simp⟩
    · obtain ⟨rest, rfl⟩ := List.head?_eq_some_iff.1 (isPlain isQuestion)
      cases isClass : rules.readClass rest with
      | none => exact ⟨.unclosed, [], by rw [read_bracket_of_none isClass], by simp⟩
      | some found =>
          obtain ⟨members, after⟩ := found
          exact ⟨.oneOf members, (rules.read after).1,
            by rw [read_bracket_of_some isClass]; rfl, by simp⟩

/-- A segment that has not been matched to its end, and goes on with a character, is refused where
the text has ended. -/
theorem isRight_refused_of_read
    {rules : Rules}
    {pattern text : Text}
    (notStar : pattern.head? ≠ some '*')
    (notEnd : ¬rules.ends (rules.unescape pattern) = true)
    (hasEnded : rules.ends text = true) :
    Outcome.refused.IsRight rules (rules.read pattern).1 (rules.read pattern).2 text := by
  obtain ⟨element, elements, read_eq, isSingle⟩ := exists_read_cons notStar notEnd
  rw [read_eq]
  exact isRight_refused_of_ends isSingle hasEnded

/-- A run of stars is read like its last star. -/
theorem read_dropWhile_star (rules : Rules) (rest : Text) :
    (rules.read rest).2 = (rules.read (rest.dropWhile (· == '*'))).2 ∧
      ∀ text, Matches rules (.star :: (rules.read rest).1) text ↔
        Matches rules (.star :: (rules.read (rest.dropWhile (· == '*'))).1) text := by
  induction rest with
  | nil => simp
  | cons c rest ih =>
      by_cases isStar : c = '*'
      · subst isStar
        rw [List.dropWhile_cons_of_pos (by rfl), read_star]
        refine ⟨ih.1, fun text => ?_⟩
        rw [← ih.2 text]
        exact matches_star_star_iff
      · rw [List.dropWhile_cons_of_neg (by simpa using isStar)]
        exact ⟨rfl, fun _ => Iff.rfl⟩

/-- Where the text has ended, the outcome is final. -/
theorem matchRest_ne_mismatch_of_ends
    {rules : Rules}
    {text : Text}
    (isEnd : rules.ends text = true)
    (pattern : Text) :
    rules.matchRest pattern text ≠ .mismatch := by
  unfold matchRest
  split
  · dsimp only
    rw [if_pos isEnd]
    split <;> simp
  · split
    · simp
    · simp [isEnd]
  · split
    · simp
    · simp [isEnd]
  · rw [if_pos isEnd]
    split <;> simp

end Rules

theorem Outcome.isRight_congr
    {rules : Rules}
    {elements others : List Element}
    {behind text : Text}
    {outcome : Outcome}
    (same : ∀ text, Matches rules elements text ↔ Matches rules others text) :
    outcome.IsRight rules elements behind text ↔ outcome.IsRight rules others behind text := by
  cases outcome <;> simp only [Outcome.IsRight, same]

namespace Rules

theorem isPlain_of_not_special
    {pattern : Text}
    (notStar : ∀ rest, pattern = '*' :: rest → False)
    (notQuestion : ∀ rest, pattern = '?' :: rest → False)
    (notBracket : ∀ rest, pattern = '[' :: rest → False) :
    IsPlain pattern := by
  refine ⟨?_, ?_, ?_⟩ <;> intro isHead <;> obtain ⟨rest, isCons⟩ := List.head?_eq_some_iff.1 isHead
  · exact notStar rest isCons
  · exact notQuestion rest isCons
  · exact notBracket rest isCons

theorem head?_dropWhile_star (rest : Text) :
    (rest.dropWhile (· == '*')).head? ≠ some '*' := by
  intro isHead
  have := List.head?_dropWhile_not (· == '*') rest
  rw [isHead] at this
  simp at this

/-- The matcher is right about what the pattern says. -/
theorem matchRest_isRight (rules : Rules) (pattern text : Text) :
    (rules.matchRest pattern text).IsRight rules (rules.read pattern).1 (rules.read pattern).2
      text := by
  fun_induction matchRest rules pattern text with
  | case1 text rest behind after isEnd =>
      obtain ⟨sameRest, sameMatches⟩ := rules.read_dropWhile_star rest
      have read_eq := read_of_ends (isPlain_of_ends isEnd) isEnd
      rw [read_star]
      refine ⟨?_, rfl, ?_⟩
      · simp only [push, sameRest, read_eq, behind, after]
      · refine (sameMatches _).2 ?_
        rw [read_eq]
        exact matches_star_iff.2 ⟨[], List.nil_suffix, .nil⟩
  | case2 text rest behind after notEnd hasEnded =>
      obtain ⟨sameRest, sameMatches⟩ := rules.read_dropWhile_star rest
      rw [read_star]
      refine (Outcome.isRight_congr sameMatches).2 ?_
      simp only [push, sameRest]
      exact (isRight_refused_of_read (head?_dropWhile_star rest) notEnd hasEnded).star (by simp)
  | case3 text rest behind after notEnd hasText ih =>
      obtain ⟨sameRest, sameMatches⟩ := rules.read_dropWhile_star rest
      rw [read_star]
      refine (Outcome.isRight_congr sameMatches).2 ?_
      simp only [push, sameRest]
      exact isRight_absorb ih (fun _ isEnd => matchRest_ne_mismatch_of_ends isEnd behind) text
  | case4 rest => exact isRight_refused_of_read (by simp) (by simp [unescape, ends]) rfl
  | case5 rest c text hasEnded =>
      exact isRight_refused_of_read (by simp) (by simp [unescape, ends]) hasEnded
  | case6 rest c text hasText ih =>
      rw [read_question]
      exact ih.cons (by simp) hasText rfl
  | case7 rest => exact isRight_refused_of_read (by simp) (by simp [unescape, ends]) rfl
  | case8 rest c text hasEnded =>
      exact isRight_refused_of_read (by simp) (by simp [unescape, ends]) hasEnded
  | case9 rest c text hasText noFit =>
      rw [bracket?_eq_readClass] at noFit
      cases isClass : rules.readClass rest with
      | none =>
          rw [read_bracket_of_none isClass]
          exact isRight_mismatch_of_not_admits (by simp) hasText (by simp [Element.admits])
      | some found =>
          obtain ⟨members, after⟩ := found
          rw [read_bracket_of_some isClass]
          refine isRight_mismatch_of_not_admits (by simp) hasText ?_
          simpa [isClass, Element.admits] using noFit
  | case10 rest c text hasText after isFit ih =>
      rw [bracket?_eq_readClass] at isFit
      obtain ⟨⟨members, behind⟩, isClass, isAdmitted⟩ := Option.bind_eq_some_iff.1 isFit
      dsimp only at isAdmitted
      split at isAdmitted
      · rename_i admitted
        obtain rfl := Option.some.inj isAdmitted
        rw [read_bracket_of_some isClass]
        exact ih.cons (by simp) hasText admitted
      · simp at isAdmitted
  | case11 text pattern notStar notQuestion notBracket hasEnded isEnd =>
      have isPlain := isPlain_of_not_special notStar notQuestion notBracket
      rw [read_of_ends isPlain isEnd]
      refine ⟨rfl, rfl, ?_⟩
      rw [ends_eq_true_iff.1 hasEnded]
      exact .nil
  | case12 text pattern notStar notQuestion notBracket hasEnded notEnd =>
      have isPlain := isPlain_of_not_special notStar notQuestion notBracket
      exact isRight_refused_of_read isPlain.1 notEnd hasEnded
  | case13 pattern notStar notQuestion notBracket literal rest c text isLiteral isEnd hasText =>
      have isPlain := isPlain_of_not_special notStar notQuestion notBracket
      rw [read_of_ends isPlain (by rwa [isLiteral])]
      simp only [Outcome.IsRight, segment_cons hasText]
      exact not_matches_nil_cons
  | case14 pattern notStar notQuestion notBracket literal rest c text isLiteral notEnd isSame
      hasText ih =>
      have isPlain := isPlain_of_not_special notStar notQuestion notBracket
      rw [read_of_literal isPlain isLiteral notEnd]
      exact ih.cons (by simp) hasText (by simp [Element.admits, isSame])
  | case15 pattern notStar notQuestion notBracket literal rest c text isLiteral notEnd notSame
      hasText =>
      have isPlain := isPlain_of_not_special notStar notQuestion notBracket
      rw [read_of_literal isPlain isLiteral notEnd]
      exact isRight_mismatch_of_not_admits (by simp) hasText (by simp [Element.admits, notSame])
  | case16 text pattern notStar notQuestion notBracket hasText noCharacter =>
      have isPlain := isPlain_of_not_special notStar notQuestion notBracket
      cases text with
      | nil => simp [ends] at hasText
      | cons c text =>
          cases isLiteral : rules.unescape pattern with
          | nil =>
              rw [read_of_ends isPlain (by rw [isLiteral]; rfl)]
              simp only [Outcome.IsRight, segment_cons hasText]
              exact not_matches_nil_cons
          | cons literal rest => exact (noCharacter literal rest c text isLiteral rfl).elim

/-! ## Hidden segments -/

/-- Only a lower-case letter has an upper case of its own. -/
theorem toUpper_cases (c : Char) :
    c.toUpper = c ∨ (c.isLower = true ∧ c.toUpper.isUpper = true) := by
  have lower_eq : c.isLower = (decide (97 ≤ c.val) && decide (c.val ≤ 122)) := rfl
  have upper_eq : ∀ d : Char, d.isUpper = decide (65 ≤ d.val ∧ d.val ≤ 90) :=
    fun _ => rfl
  rw [lower_eq, upper_eq]
  unfold Char.toUpper
  split
  · rename_i isLower
    simp only [UInt32.le_iff_toNat_le] at isLower
    simp at isLower
    refine .inr ⟨?_, ?_⟩
    · simp [UInt32.le_iff_toNat_le]
      omega
    · simp [UInt32.le_iff_toNat_le, UInt32.toNat_add]
      omega
  · exact .inl rfl

/-- A character that is no letter has no other case. -/
theorem eq_of_fold
    {rules : Rules}
    {expected c : Char}
    (noLetter : expected.isAlpha = false)
    (isSame : rules.fold expected = rules.fold c) :
    c = expected := by
  obtain ⟨notUpper, notLower⟩ := Bool.or_eq_false_iff.1 noLetter
  unfold fold at isSame
  split at isSame
  · rcases toUpper_cases expected with sameExpected | ⟨isLower, -⟩
    · rcases toUpper_cases c with same | ⟨-, isUpper⟩
      · rw [← same, ← isSame, sameExpected]
      · simp [← isSame, sameExpected, notUpper] at isUpper
    · simp [notLower] at isLower
  · exact isSame.symm

theorem head?_segment_eq_dot_iff (rules : Rules) (text : Text) :
    (rules.segment text).head? = some '.' ↔ text.head? = some '.' := by
  cases text with
  | nil => simp [segment]
  | cons c rest =>
      by_cases isEnd : rules.ends (c :: rest) = true
      · rw [ends_eq_true_iff.1 isEnd]
        simp only [ends, Bool.and_eq_true, beq_iff_eq] at isEnd
        simp [isEnd.2]
      · rw [segment_cons isEnd]
        simp

/-- The elements start with a dot if the pattern does, a backslash in front of the dot not
counted. -/
theorem head?_read_eq_dot_iff (rules : Rules) (pattern : Text) :
    (rules.read pattern).1.head? = some (.literal '.') ↔
      (rules.unescape pattern).head? = some '.' := by
  unfold read
  split
  · simp [push, unescape]
  · simp [push, unescape]
  · split <;> simp [push, unescape]
  · split
    · rename_i isLiteral
      simp [isLiteral]
    · rename_i c rest isLiteral
      split
      · rename_i isEnd
        simp only [ends, Bool.and_eq_true, beq_iff_eq] at isEnd
        simp [isLiteral, isEnd.2]
      · simp [isLiteral, push]

theorem isHidden_eq_false_iff (rules : Rules) (pattern text : Text) :
    rules.isHidden pattern text = false ↔
      (rules.period = true → (rules.segment text).head? = some '.' →
        (rules.read pattern).1.head? = some (.literal '.')) := by
  rw [head?_segment_eq_dot_iff, head?_read_eq_dot_iff]
  by_cases isPeriod : rules.period = true <;> by_cases isDot : text.head? = some '.' <;>
    simp [isHidden, isPeriod, isDot]

/-- What has been matched is the first segment of the text, by the first segment of the
pattern. -/
theorem segmentMatches_of_matchSegment
    {rules : Rules}
    {pattern text after left : Text}
    (isMatch : rules.matchSegment pattern text = some (after, left)) :
    after = (rules.read pattern).2 ∧ rules.beyond left = rules.beyond text ∧
      SegmentMatches rules (rules.read pattern).1 (rules.segment text) := by
  have isRight := rules.matchRest_isRight pattern text
  unfold matchSegment at isMatch
  split at isMatch
  · simp at isMatch
  · rename_i notHidden
    split at isMatch
    · rename_i outcome
      rw [outcome] at isRight
      obtain ⟨rfl, rfl⟩ := Prod.mk.inj (Option.some.inj isMatch)
      exact ⟨isRight.1, isRight.2.1, isRight.2.2,
        (rules.isHidden_eq_false_iff pattern text).1 (by simpa using notHidden)⟩
    · simp at isMatch

/-- What has not been matched cannot be. -/
theorem not_segmentMatches_of_matchSegment
    {rules : Rules}
    {pattern text : Text}
    (noMatch : rules.matchSegment pattern text = none) :
    ¬SegmentMatches rules (rules.read pattern).1 (rules.segment text) := by
  rintro ⟨isMatch, isSpelled⟩
  have notHidden := (rules.isHidden_eq_false_iff pattern text).2 isSpelled
  have isRight := rules.matchRest_isRight pattern text
  simp only [matchSegment, notHidden, Bool.false_eq_true, if_false] at noMatch
  cases outcome : rules.matchRest pattern text with
  | matched after left => simp [outcome] at noMatch
  | refused =>
      rw [outcome] at isRight
      exact isRight _ (List.suffix_refl _) isMatch
  | mismatch =>
      rw [outcome] at isRight
      exact isRight isMatch

end Rules
end Glob
end FilePaths
