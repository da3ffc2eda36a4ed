import FilePaths.Proofs.Glob.Reading
import FilePaths.Proofs.Loop
import Mathlib.Data.Prod.Basic

/-!
# Positions in pattern and text

The matcher works on what is left of pattern and text.  A loop that does the same stands at a
position in both, and keeps another one in each that it can go back to.
-/

namespace FilePaths
namespace Glob

/-! ## Places -/

/-- The position at which the rest of a text starts. -/
def placeOf (text rest : Text) : Nat :=
  text.length - rest.length

section Places

variable {text rest : Text} {position : Nat}

theorem placeOf_le (text rest : Text) : placeOf text rest ≤ text.length :=
  Nat.sub_le _ _

theorem drop_placeOf (isRest : rest <:+ text) : text.drop (placeOf text rest) = rest :=
  (List.suffix_iff_eq_drop.1 isRest).symm

theorem placeOf_drop (inside : position ≤ text.length) :
    placeOf text (text.drop position) = position := by
  rw [placeOf, List.length_drop]
  omega

theorem lt_placeOf (isLater : rest.length < (text.drop position).length) :
    position < placeOf text rest := by
  rw [List.length_drop] at isLater
  unfold placeOf
  omega

theorem placeOf_le_placeOf
    {other : Text}
    (isSuffix : other <:+ rest) :
    placeOf text rest ≤ placeOf text other :=
  Nat.sub_le_sub_left isSuffix.length_le _

theorem le_placeOf
    (inside : position ≤ text.length)
    (isSuffix : rest <:+ text.drop position) :
    position ≤ placeOf text rest :=
  calc
    position = placeOf text (text.drop position) := (placeOf_drop inside).symm
    _ ≤ placeOf text rest := placeOf_le_placeOf isSuffix

theorem lt_length_of_getElem? {c : Char} (isHere : text[position]? = some c) :
    position < text.length :=
  (List.getElem?_eq_some_iff.1 isHere).1

theorem lt_length_of_drop_eq_cons
    {c : Char}
    (isCons : text.drop position = c :: rest) :
    position < text.length := by
  rw [← Nat.not_le, ← List.drop_eq_nil_iff, isCons]
  simp

theorem drop_of_getElem?_eq_none (isEnd : text[position]? = none) : text.drop position = [] :=
  List.drop_eq_nil_iff.2 (List.getElem?_eq_none_iff.1 isEnd)

end Places

namespace Rules

/-- The position behind a backslash that hides the next character. -/
def unescapeAt (rules : Rules) (pattern : Text) (position : Nat) : Nat :=
  if rules.escape ∧ pattern[position]? = some '\\' then position + 1 else position

section Unescape

variable (rules : Rules) (pattern : Text) (position : Nat)

theorem drop_unescapeAt :
    pattern.drop (rules.unescapeAt pattern position) = rules.unescape (pattern.drop position) := by
  unfold unescapeAt
  split
  · rename_i isEscape
    rw [drop_of_getElem? isEscape.2, unescape]
    exact (if_pos isEscape.1).symm
  · rename_i notEscape
    unfold unescape
    split
    · rename_i rest drop_eq
      have isHere : pattern[position]? = some '\\' := by
        rw [← List.head?_drop, drop_eq]
        rfl
      rw [if_neg fun isEscape => notEscape ⟨isEscape, isHere⟩, drop_eq]
    · rfl

theorem le_unescapeAt : position ≤ rules.unescapeAt pattern position := by
  unfold unescapeAt
  split <;> omega

theorem unescapeAt_le (inside : position ≤ pattern.length) :
    rules.unescapeAt pattern position ≤ pattern.length := by
  unfold unescapeAt
  split
  · rename_i isEscape
    exact lt_length_of_getElem? isEscape.2
  · exact inside

end Unescape

/-! ## Ends of segments -/

/-- Nothing is left of the segment at a position. -/
def endsAt (rules : Rules) (text : Text) (position : Nat) : Bool :=
  match text[position]? with
  | none => true
  | some c => rules.pathname && c == '/'

/-- Where the segment ends that a position is in. -/
def segmentEnd (rules : Rules) (text : Text) (position : Nat) : Nat :=
  position + (rules.segment (text.drop position)).length

/-- The position behind a run of stars. -/
def skipStars (pattern : Text) (position : Nat) : Nat :=
  if pattern[position]? = some '*' then skipStars pattern (position + 1) else position
termination_by pattern.length - position
decreasing_by
  rename_i isStar
  exact Nat.sub_lt_sub_left (lt_length_of_getElem? isStar) (Nat.lt_succ_self _)

section Ends

variable (rules : Rules) (pattern text : Text) (position : Nat)

theorem endsAt_eq_ends : rules.endsAt text position = rules.ends (text.drop position) := by
  unfold endsAt
  split
  · rename_i isEnd
    rw [drop_of_getElem?_eq_none isEnd]
    rfl
  · rename_i isHere
    rw [drop_of_getElem? isHere]
    rfl

theorem ends_beyond : rules.ends (rules.beyond text) = true := by
  induction text with
  | nil => rfl
  | cons c rest ih =>
      by_cases isEnd : rules.ends (c :: rest) = true
      · rw [beyond, List.dropWhile_cons_of_neg]
        · exact isEnd
        · simpa [inSegment, ends] using isEnd
      · rw [beyond_cons isEnd]
        exact ih

theorem drop_segmentEnd :
    text.drop (rules.segmentEnd text position) = rules.beyond (text.drop position) := by
  have isWhole : rules.segment (text.drop position) ++ rules.beyond (text.drop position) =
      text.drop position :=
    List.takeWhile_append_dropWhile
  calc
    text.drop (rules.segmentEnd text position) =
        (text.drop position).drop (rules.segment (text.drop position)).length := by
      rw [segmentEnd, List.drop_drop]
    _ = (rules.segment (text.drop position) ++ rules.beyond (text.drop position)).drop
          (rules.segment (text.drop position)).length := by
      rw [isWhole]
    _ = rules.beyond (text.drop position) := List.drop_left

theorem endsAt_segmentEnd : rules.endsAt text (rules.segmentEnd text position) = true := by
  rw [endsAt_eq_ends, drop_segmentEnd]
  exact rules.ends_beyond _

theorem drop_skipStars :
    pattern.drop (skipStars pattern position) =
      (pattern.drop position).dropWhile (· == '*') := by
  fun_induction skipStars pattern position with
  | case1 position isStar ih =>
      rw [ih, drop_of_getElem? isStar]
      rfl
  | case2 position notStar =>
      cases drop_eq : pattern.drop position with
      | nil => rfl
      | cons c rest =>
          have isHere : pattern[position]? = some c := by
            rw [← List.head?_drop, drop_eq]
            rfl
          rw [List.dropWhile_cons_of_neg]
          rintro isStar
          exact notStar (by rw [isHere, beq_iff_eq.1 isStar])

theorem le_skipStars : position ≤ skipStars pattern position := by
  fun_induction skipStars pattern position with
  | case1 position _ ih => omega
  | case2 => exact Nat.le_refl _

end Ends

section Bounds

variable {rules : Rules} {pattern text : Text} {position start : Nat}

theorem skipStars_le (inside : position ≤ pattern.length) :
    skipStars pattern position ≤ pattern.length := by
  fun_induction skipStars pattern position with
  | case1 position isStar ih => exact ih (lt_length_of_getElem? isStar)
  | case2 => exact inside

theorem le_segmentEnd : position ≤ rules.segmentEnd text position :=
  Nat.le_add_right _ _

theorem segmentEnd_le (inside : position ≤ text.length) :
    rules.segmentEnd text position ≤ text.length := by
  have isPart : rules.segment (text.drop position) <+: text.drop position :=
    List.takeWhile_prefix rules.inSegment
  have isShorter := isPart.length_le
  rw [List.length_drop] at isShorter
  rw [segmentEnd]
  omega

/-- Where a segment has not ended, there is a character, which still belongs to it. -/
theorem exists_of_not_endsAt (notEnd : ¬rules.endsAt text position = true) :
    ∃ c, text[position]? = some c ∧
      ¬rules.ends (c :: text.drop (position + 1)) = true := by
  rw [endsAt_eq_ends] at notEnd
  cases isHere : text[position]? with
  | none => simp [drop_of_getElem?_eq_none isHere, ends] at notEnd
  | some c =>
      rw [drop_of_getElem? isHere] at notEnd
      exact ⟨c, rfl, notEnd⟩

theorem lt_segmentEnd
    (notEnd : ¬rules.endsAt text position = true)
    (inSegment : position ≤ rules.segmentEnd text start) :
    position < rules.segmentEnd text start := by
  apply Nat.lt_of_le_of_ne inSegment
  rintro rfl
  exact notEnd (rules.endsAt_segmentEnd text start)

end Bounds

end Rules

/-! ## Cursors -/

/-- Where matching stands, and where it can go back to. -/
structure Cursor where
  /-- What is next in the pattern. -/
  pattern : Nat
  /-- What is next in the text. -/
  text : Nat
  /-- Where the pattern goes on behind the last stars, and where in the text it has been tried
  last. -/
  resume : Option (Nat × Nat) := none
  deriving DecidableEq, Repr

namespace Cursor

/-- Further on in both. -/
def moveTo (cursor : Cursor) (pattern text : Nat) : Cursor :=
  { cursor with pattern, text }

/-- Behind stars, which leave the text from a position on to the rest of the pattern. -/
def resuming (behind tried : Nat) : Cursor where
  pattern := behind
  text := tried
  resume := some (behind, tried)

/-- A cursor and what it can go back to are in the pattern, and between two positions of the text,
in that order. -/
structure IsInside (pattern : Text) (start stop : Nat) (cursor : Cursor) : Prop where
  inPattern : cursor.pattern ≤ pattern.length
  notBefore : start ≤ cursor.text
  notBehind : cursor.text ≤ stop
  resume : ∀ behind tried, cursor.resume = some (behind, tried) →
    behind ≤ pattern.length ∧ start ≤ tried ∧ tried ≤ cursor.text

/-- What is left to do: first the room behind the place that has been tried last, then the rest of
the pattern. -/
def remainder (pattern : Text) (stop : Nat) (cursor : Cursor) : Nat × Nat :=
  (match cursor.resume with
    | none => stop + 1
    | some (_, tried) => stop - tried,
    pattern.length - cursor.pattern)

/-- Less is left to do. -/
def Less (pattern : Text) (stop : Nat) : Cursor → Cursor → Prop :=
  InvImage (Prod.Lex (· < ·) (· < ·)) (remainder pattern stop)

theorem less_wellFounded (pattern : Text) (stop : Nat) : WellFounded (Less pattern stop) :=
  InvImage.wf _ (Prod.lex Nat.lt_wfRel Nat.lt_wfRel).wf

theorem Less.trans
    {pattern : Text}
    {stop : Nat}
    {first second third : Cursor}
    (isLess : Less pattern stop first second)
    (isLater : Less pattern stop second third) :
    Less pattern stop first third :=
  Prod.Lex.trans isLess isLater

section Inside

variable {pattern : Text} {start stop position place : Nat} {cursor : Cursor}

theorem IsInside.moveTo
    (inside : cursor.IsInside pattern start stop)
    (inPattern : position ≤ pattern.length)
    (isLater : cursor.text ≤ place)
    (notBehind : place ≤ stop) :
    (cursor.moveTo position place).IsInside pattern start stop where
  inPattern := inPattern
  notBefore := Nat.le_trans inside.notBefore isLater
  notBehind := notBehind
  resume := fun behind tried isResume =>
    have ⟨inPattern, notBefore, isTried⟩ := inside.resume behind tried isResume
    ⟨inPattern, notBefore, Nat.le_trans isTried isLater⟩

theorem less_moveTo
    (isLater : cursor.pattern < position)
    (inPattern : position ≤ pattern.length) :
    Less pattern stop (cursor.moveTo position place) cursor :=
  .right _ (Nat.sub_lt_sub_left (Nat.lt_of_lt_of_le isLater inPattern) isLater)

theorem isInside_resuming
    (inPattern : position ≤ pattern.length)
    (notBefore : start ≤ place)
    (notBehind : place ≤ stop) :
    (resuming position place).IsInside pattern start stop where
  inPattern := inPattern
  notBefore := notBefore
  notBehind := notBehind
  resume := fun behind tried isResume => by
    obtain ⟨rfl, rfl⟩ := Prod.mk.inj (Option.some.inj isResume)
    exact ⟨inPattern, notBefore, Nat.le_refl _⟩

/-- Behind further stars less is left, even if the same place is tried. -/
theorem less_resuming
    (inside : cursor.IsInside pattern start stop)
    (isLater : cursor.pattern < position)
    (inPattern : position ≤ pattern.length) :
    Less pattern stop (resuming position cursor.text) cursor := by
  have isShorter : pattern.length - position < pattern.length - cursor.pattern := by omega
  have notBehind := inside.notBehind
  unfold Less InvImage remainder
  cases isResume : cursor.resume with
  | none => exact .left _ _ (by simp only [resuming]; omega)
  | some resume =>
      obtain ⟨behind, tried⟩ := resume
      have isTried := (inside.resume behind tried isResume).2.2
      rcases Nat.lt_or_eq_of_le isTried with isEarlier | same
      · exact .left _ _ (by simp only [resuming]; omega)
      · subst same
        exact .right _ isShorter

/-- Less is left where a later place is tried. -/
theorem less_of_resume
    {behind tried : Nat}
    (isResume : cursor.resume = some (behind, tried))
    (isLater : tried < place)
    (notBehind : place ≤ stop) :
    Less pattern stop (resuming behind place) cursor := by
  unfold Less InvImage remainder
  rw [isResume]
  exact .left _ _ (by simp only [resuming]; omega)

end Inside
end Cursor

end Glob
end FilePaths
