import FilePaths.Proofs.Glob.ClassLoop

/-!
# One segment, turn by turn

The matcher of a segment walks through pattern and text, and on a mismatch it goes back to the last
star in both.  What descends is first the room that is left behind the place where that star has
been tried last, and then what is left of the pattern.
-/

namespace FilePaths
namespace Glob

/-! ## The loop -/

/-- Lets the last star take one more character. -/
def Cursor.retry (cursor : Cursor) : Turn Cursor (Option (Nat × Nat)) :=
  match cursor.resume with
  | none => .ends none
  | some (behind, tried) => .goesOn (resuming behind (tried + 1))

namespace Rules

/-- Starts to match a segment, unless it is hidden. -/
def enterSegment (rules : Rules) (pattern text : Text) (position start : Nat) :
    Turn Cursor (Option (Nat × Nat)) :=
  if rules.period ∧ text[start]? = some '.' ∧
      pattern[rules.unescapeAt pattern position]? ≠ some '.' then .ends none
  else .goesOn { pattern := position, text := start }

section

variable (rules : Rules) (pattern text : Text) (cursor : Cursor)

/-- Stars match the rest of the segment, or leave it to the pattern behind them. -/
def turnAtStars : Turn Cursor (Option (Nat × Nat)) :=
  let behind := skipStars pattern cursor.pattern
  let after := rules.unescapeAt pattern behind
  if rules.endsAt pattern after then .ends (some (after, cursor.text))
  else if rules.endsAt text cursor.text then .ends none
  else .goesOn (.resuming behind cursor.text)

/-- A question mark takes any character. -/
def turnAtQuestion : Turn Cursor (Option (Nat × Nat)) :=
  if rules.endsAt text cursor.text then .ends none
  else .goesOn (cursor.moveTo (cursor.pattern + 1) (cursor.text + 1))

/-- A class takes a character that fits. -/
def turnAtClass : Turn Cursor (Option (Nat × Nat)) :=
  if rules.endsAt text cursor.text then .ends none
  else
    .look text cursor.text fun c =>
      match rules.classAt c pattern (cursor.pattern + 1) with
      | some behind => .goesOn (cursor.moveTo behind (cursor.text + 1))
      | none => cursor.retry

/-- Every other character takes itself. -/
def turnAtLiteral : Turn Cursor (Option (Nat × Nat)) :=
  let start := rules.unescapeAt pattern cursor.pattern
  if rules.endsAt text cursor.text then
    .ends (if rules.endsAt pattern start then some (start, cursor.text) else none)
  else if rules.endsAt pattern start then cursor.retry
  else
    .look pattern start fun literal =>
      .look text cursor.text fun c =>
        if rules.fold literal = rules.fold c then
          .goesOn (cursor.moveTo (start + 1) (cursor.text + 1))
        else cursor.retry

end

/-- Matches a segment, one element of the pattern a turn, and ends with the positions that pattern
and text have come to. -/
def segmentLoop (rules : Rules) (pattern text : Text) : Loop Cursor (Option (Nat × Nat)) :=
  fun cursor =>
    match pattern[cursor.pattern]? with
    | some '*' => rules.turnAtStars pattern text cursor
    | some '?' => rules.turnAtQuestion text cursor
    | some '[' => rules.turnAtClass pattern text cursor
    | _ => rules.turnAtLiteral pattern text cursor

end Rules

/-! ## What is settled -/

/-- The positions that a matched segment has come to in pattern and text. -/
def places (pattern text : Text) : Outcome → Option (Nat × Nat)
  | .matched after left => some (placeOf pattern after, placeOf text left)
  | .refused => none
  | .mismatch => none

theorem absorb_ne_mismatch
    {attempt : Text → Outcome}
    (isFinal : attempt [] ≠ .mismatch)
    (text : Text) :
    absorb attempt text ≠ .mismatch := by
  induction text with
  | nil => exact isFinal
  | cons c rest ih =>
      unfold absorb
      split
      · exact ih
      · assumption

/-- A star that takes characters leaves all of the text to the attempt behind it, or takes the first
character if that fails by a mismatch. -/
theorem absorb_eq
    {attempt : Text → Outcome}
    (isFinal : attempt [] ≠ .mismatch)
    (text : Text) :
    absorb attempt text =
      match attempt text with
      | .mismatch => absorb attempt text.tail
      | outcome => outcome := by
  cases text with
  | nil =>
      rw [absorb]
      split
      · contradiction
      · rfl
  | cons c rest =>
      rw [absorb]
      rfl

namespace Rules

/-- The outcome that going back leads to. -/
def resumed (rules : Rules) (pattern text : Text) : Option (Nat × Nat) → Outcome
  | none => .mismatch
  | some (behind, tried) =>
      absorb (rules.matchRest (pattern.drop behind)) (text.drop (tried + 1))

/-- The outcome, or the one that going back leads to. -/
def orResumed
    (rules : Rules)
    (pattern text : Text)
    (resume : Option (Nat × Nat)) :
    Outcome → Outcome
  | .mismatch => rules.resumed pattern text resume
  | outcome => outcome

/-- The outcome that is settled where the matching of a segment stands. -/
def outcomeAt (rules : Rules) (pattern text : Text) (cursor : Cursor) : Outcome :=
  rules.orResumed pattern text cursor.resume
    (rules.matchRest (pattern.drop cursor.pattern) (text.drop cursor.text))

/-- The positions that are settled where the matching of a segment stands. -/
def settledSegment (rules : Rules) (pattern text : Text) (cursor : Cursor) : Option (Nat × Nat) :=
  places pattern text (rules.outcomeAt pattern text cursor)

section Settled

variable {rules : Rules} {pattern text : Text} {cursor : Cursor}

theorem absorb_matchRest_ne_mismatch (pattern text : Text) :
    absorb (rules.matchRest pattern) text ≠ .mismatch :=
  absorb_ne_mismatch (matchRest_ne_mismatch_of_ends rfl pattern) text

/-- Behind a star is settled what the star comes to from there. -/
theorem outcomeAt_resuming (behind tried : Nat) :
    rules.outcomeAt pattern text (.resuming behind tried) =
      absorb (rules.matchRest (pattern.drop behind)) (text.drop tried) := by
  rw [absorb_eq (matchRest_ne_mismatch_of_ends rfl _), List.tail_drop]
  unfold outcomeAt orResumed resumed
  rfl

theorem outcomeAt_of_ne_mismatch
    {outcome : Outcome}
    (isOutcome : rules.matchRest (pattern.drop cursor.pattern) (text.drop cursor.text) = outcome)
    (isFinal : outcome ≠ .mismatch) :
    rules.outcomeAt pattern text cursor = outcome := by
  rw [outcomeAt, isOutcome]
  cases outcome with
  | mismatch => exact absurd rfl isFinal
  | matched => rfl
  | refused => rfl

/-- What is settled does not change with a step that both take. -/
theorem outcomeAt_moveTo
    {position place : Nat}
    (same : rules.matchRest (pattern.drop cursor.pattern) (text.drop cursor.text) =
      rules.matchRest (pattern.drop position) (text.drop place)) :
    rules.outcomeAt pattern text (cursor.moveTo position place) =
      rules.outcomeAt pattern text cursor := by
  unfold outcomeAt
  rw [same]
  rfl

theorem matchRest_stars
    {position : Nat}
    (isStar : pattern[position]? = some '*')
    (text : Text) :
    rules.matchRest (pattern.drop position) text =
      let behind := skipStars pattern position
      let after := rules.unescapeAt pattern behind
      if rules.endsAt pattern after then .matched (pattern.drop after) text
      else if rules.ends text then .refused
      else absorb (rules.matchRest (pattern.drop behind)) text := by
  have isBehind : pattern.drop (skipStars pattern position) =
      (pattern.drop (position + 1)).dropWhile (· == '*') := by
    rw [drop_skipStars, drop_of_getElem? isStar]
    rfl
  dsimp only
  rw [endsAt_eq_ends, drop_unescapeAt, isBehind, drop_of_getElem? isStar, matchRest.eq_def]
  rfl

theorem matchRest_question
    {c : Char}
    {text : Text}
    (notEnd : ¬rules.ends (c :: text) = true)
    (rest : Text) :
    rules.matchRest ('?' :: rest) (c :: text) = rules.matchRest rest text := by
  rw [matchRest.eq_def]
  exact if_neg notEnd

theorem matchRest_bracket
    {c : Char}
    {text : Text}
    (notEnd : ¬rules.ends (c :: text) = true)
    (rest : Text) :
    rules.matchRest ('[' :: rest) (c :: text) =
      match rules.bracket? c rest with
      | none => .mismatch
      | some rest => rules.matchRest rest text := by
  rw [matchRest.eq_def]
  refine (if_neg notEnd).trans ?_
  split <;> simp_all

/-- Where the text has ended, only the end of the pattern matches. -/
theorem matchRest_of_ends
    {pattern text : Text}
    (notStar : pattern.head? ≠ some '*')
    (hasEnded : rules.ends text = true) :
    rules.matchRest pattern text =
      if rules.ends (rules.unescape pattern) then .matched (rules.unescape pattern) text
      else .refused := by
  unfold matchRest
  split
  · simp at notStar
  · split <;> simp_all [unescape, ends]
  · split <;> simp_all [unescape, ends]
  · rw [if_pos hasEnded]

theorem matchRest_of_isPlain
    {c : Char}
    {text pattern : Text}
    (isPlain : IsPlain pattern)
    (notEnd : ¬rules.ends (c :: text) = true) :
    rules.matchRest pattern (c :: text) =
      match rules.unescape pattern with
      | [] => .mismatch
      | literal :: rest =>
          if rules.ends (literal :: rest) then .mismatch
          else if rules.fold literal = rules.fold c then rules.matchRest rest text
          else .mismatch := by
  rw [matchRest.eq_def]
  split
  · simp [IsPlain] at isPlain
  · simp [IsPlain] at isPlain
  · simp [IsPlain] at isPlain
  · rw [if_neg notEnd]
    split
    · simp_all
    · rename_i noCharacter
      cases isLiteral : rules.unescape pattern with
      | nil => rfl
      | cons literal rest => exact (noCharacter literal rest c text isLiteral rfl).elim

end Settled

/-! ## Turns -/

/-- A turn keeps the cursor inside of the segment, descends, and keeps what is settled. -/
abbrev SegmentKeeps
    (rules : Rules)
    (pattern text : Text)
    (start : Nat)
    (cursor : Cursor) :
    Turn Cursor (Option (Nat × Nat)) → Prop :=
  Loop.Keeps (Cursor.IsInside pattern start (rules.segmentEnd text start))
    (Cursor.Less pattern (rules.segmentEnd text start)) (rules.settledSegment pattern text) cursor

section Turns

variable
  {rules : Rules}
  {pattern text : Text}
  {start : Nat}
  {cursor : Cursor}

/-- A mismatch leads back to the last star, which takes one more character of the segment. -/
theorem keeps_retry
    (inside : cursor.IsInside pattern start (rules.segmentEnd text start))
    (notEnd : ¬rules.endsAt text cursor.text = true)
    (isMismatch :
      rules.matchRest (pattern.drop cursor.pattern) (text.drop cursor.text) = .mismatch) :
    rules.SegmentKeeps pattern text start cursor cursor.retry := by
  have isBefore := lt_segmentEnd notEnd inside.notBehind
  have outcome_eq : rules.outcomeAt pattern text cursor =
      rules.resumed pattern text cursor.resume := by
    rw [outcomeAt, isMismatch]
    rfl
  unfold Cursor.retry
  cases isResume : cursor.resume with
  | none =>
      apply Loop.Keeps.ends
      rw [settledSegment, outcome_eq, isResume]
      rfl
  | some resume =>
      obtain ⟨behind, tried⟩ := resume
      obtain ⟨inPattern, notBefore, isTried⟩ := inside.resume behind tried isResume
      have inSegment : tried + 1 ≤ rules.segmentEnd text start :=
        Nat.lt_of_le_of_lt isTried isBefore
      refine .goesOn
        (Cursor.isInside_resuming inPattern (Nat.le_add_right_of_le notBefore) inSegment)
        (Cursor.less_of_resume isResume (Nat.lt_succ_self tried) inSegment) ?_
      rw [settledSegment, settledSegment, outcome_eq, isResume, outcomeAt_resuming]
      rfl

/-- A match leads one character on in the segment. -/
theorem keeps_moveTo
    {position : Nat}
    (inside : cursor.IsInside pattern start (rules.segmentEnd text start))
    (notEnd : ¬rules.endsAt text cursor.text = true)
    (isLater : cursor.pattern < position)
    (inPattern : position ≤ pattern.length)
    (same : rules.matchRest (pattern.drop cursor.pattern) (text.drop cursor.text) =
      rules.matchRest (pattern.drop position) (text.drop (cursor.text + 1))) :
    rules.SegmentKeeps pattern text start cursor
      (.goesOn (cursor.moveTo position (cursor.text + 1))) := by
  refine .goesOn
    (inside.moveTo inPattern (Nat.le_add_right _ _) (lt_segmentEnd notEnd inside.notBehind))
    (Cursor.less_moveTo isLater inPattern) ?_
  rw [settledSegment, outcomeAt_moveTo same]
  rfl

/-- Where the text has ended, the loop ends. -/
theorem keeps_ends_none
    (hasEnded : rules.endsAt text cursor.text = true)
    (notStar : (pattern.drop cursor.pattern).head? ≠ some '*')
    (notEnd : ¬rules.ends (rules.unescape (pattern.drop cursor.pattern)) = true) :
    rules.SegmentKeeps pattern text start cursor (.ends none) := by
  apply Loop.Keeps.ends
  rw [endsAt_eq_ends] at hasEnded
  have outcome_eq := matchRest_of_ends notStar hasEnded
  rw [if_neg notEnd] at outcome_eq
  rw [settledSegment, outcomeAt_of_ne_mismatch outcome_eq (by simp)]
  rfl

theorem settledSegment_of_matched
    {position place : Nat}
    (inPattern : position ≤ pattern.length)
    (inText : place ≤ text.length)
    (isMatched : rules.matchRest (pattern.drop cursor.pattern) (text.drop cursor.text) =
      .matched (pattern.drop position) (text.drop place)) :
    rules.settledSegment pattern text cursor = some (position, place) := by
  rw [settledSegment, outcomeAt_of_ne_mismatch isMatched (by simp), places,
    placeOf_drop inPattern, placeOf_drop inText]

theorem keeps_turnAtStars
    (inside : cursor.IsInside pattern start (rules.segmentEnd text start))
    (inText : cursor.text ≤ text.length)
    (isStar : pattern[cursor.pattern]? = some '*') :
    rules.SegmentKeeps pattern text start cursor (rules.turnAtStars pattern text cursor) := by
  have inPattern := skipStars_le inside.inPattern
  have isLater : cursor.pattern < skipStars pattern cursor.pattern := by
    rw [skipStars, if_pos isStar]
    exact le_skipStars pattern (cursor.pattern + 1)
  have outcome_eq := rules.matchRest_stars isStar (text.drop cursor.text)
  dsimp only at outcome_eq
  rw [← endsAt_eq_ends] at outcome_eq
  unfold turnAtStars
  dsimp only
  split
  · rename_i isEnd
    rw [if_pos isEnd] at outcome_eq
    apply Loop.Keeps.ends
    exact (settledSegment_of_matched (rules.unescapeAt_le _ _ inPattern) inText outcome_eq).symm
  rename_i notEnd
  rw [if_neg notEnd] at outcome_eq
  split
  · rename_i hasEnded
    rw [if_pos hasEnded] at outcome_eq
    apply Loop.Keeps.ends
    rw [settledSegment, outcomeAt_of_ne_mismatch outcome_eq (by simp)]
    rfl
  · rename_i hasText
    rw [if_neg hasText] at outcome_eq
    refine .goesOn (Cursor.isInside_resuming inPattern inside.notBefore inside.notBehind)
      (Cursor.less_resuming inside isLater inPattern) ?_
    rw [settledSegment, settledSegment, outcomeAt_resuming,
      outcomeAt_of_ne_mismatch outcome_eq (absorb_matchRest_ne_mismatch _ _)]

theorem keeps_turnAtQuestion
    (inside : cursor.IsInside pattern start (rules.segmentEnd text start))
    (isQuestion : pattern[cursor.pattern]? = some '?') :
    rules.SegmentKeeps pattern text start cursor (rules.turnAtQuestion text cursor) := by
  have isHere := drop_of_getElem? isQuestion
  unfold turnAtQuestion
  split
  · rename_i hasEnded
    exact keeps_ends_none hasEnded (by simp [isQuestion]) (by simp [isHere, unescape, ends])
  · rename_i notEnd
    obtain ⟨c, isCharacter, hasText⟩ := exists_of_not_endsAt notEnd
    refine keeps_moveTo inside notEnd (Nat.lt_succ_self _) (lt_length_of_getElem? isQuestion) ?_
    rw [isHere, drop_of_getElem? isCharacter, matchRest_question hasText]

theorem bracket?_suffix
    {c : Char}
    {after : Text}
    (isClass : rules.bracket? c pattern = some after) :
    after <:+ pattern := by
  rw [bracket?_eq_readClass] at isClass
  obtain ⟨⟨members, behind⟩, isRead, isAdmitted⟩ := Option.bind_eq_some_iff.1 isClass
  dsimp only at isAdmitted
  split at isAdmitted
  · obtain rfl := Option.some.inj isAdmitted
    exact (suffix_of_readClass isRead).2
  · simp at isAdmitted

theorem keeps_turnAtClass
    (inside : cursor.IsInside pattern start (rules.segmentEnd text start))
    (isBracket : pattern[cursor.pattern]? = some '[') :
    rules.SegmentKeeps pattern text start cursor (rules.turnAtClass pattern text cursor) := by
  have isHere := drop_of_getElem? isBracket
  unfold turnAtClass
  split
  · rename_i hasEnded
    exact keeps_ends_none hasEnded (by simp [isBracket]) (by simp [isHere, unescape, ends])
  · rename_i notEnd
    obtain ⟨c, isCharacter, hasText⟩ := exists_of_not_endsAt notEnd
    have outcome_eq := matchRest_bracket hasText (pattern.drop (cursor.pattern + 1))
    rw [← isHere, ← drop_of_getElem? isCharacter] at outcome_eq
    rw [Turn.look_of_getElem? isCharacter, classAt]
    cases isClass : rules.bracket? c (pattern.drop (cursor.pattern + 1)) with
    | none =>
        rw [isClass] at outcome_eq
        exact keeps_retry inside notEnd outcome_eq
    | some after =>
        rw [isClass] at outcome_eq
        have isSuffix := (bracket?_suffix isClass).trans (List.drop_suffix _ pattern)
        have isLater := lt_placeOf (bracket?_length isClass)
        refine keeps_moveTo inside notEnd (by omega) (placeOf_le pattern after) ?_
        rw [outcome_eq, drop_placeOf isSuffix]

theorem keeps_turnAtLiteral
    (inside : cursor.IsInside pattern start (rules.segmentEnd text start))
    (inText : cursor.text ≤ text.length)
    (isPlain : IsPlain (pattern.drop cursor.pattern)) :
    rules.SegmentKeeps pattern text start cursor (rules.turnAtLiteral pattern text cursor) := by
  have isLater := rules.le_unescapeAt pattern cursor.pattern
  have inPattern := rules.unescapeAt_le pattern cursor.pattern inside.inPattern
  have isLiteral := rules.drop_unescapeAt pattern cursor.pattern
  unfold turnAtLiteral
  dsimp only
  generalize rules.unescapeAt pattern cursor.pattern = place at isLater inPattern isLiteral
  split
  · rename_i hasEnded
    split
    · rename_i isEnd
      apply Loop.Keeps.ends
      rw [endsAt_eq_ends] at hasEnded isEnd
      have outcome_eq := matchRest_of_ends isPlain.1 hasEnded
      rw [← isLiteral, if_pos isEnd] at outcome_eq
      exact (settledSegment_of_matched inPattern inText outcome_eq).symm
    · rename_i notEnd
      rw [endsAt_eq_ends, isLiteral] at notEnd
      exact keeps_ends_none hasEnded isPlain.1 notEnd
  rename_i notEnd
  obtain ⟨c, isCharacter, hasText⟩ := exists_of_not_endsAt notEnd
  have outcome_eq := matchRest_of_isPlain isPlain hasText
  rw [← isLiteral, ← drop_of_getElem? isCharacter] at outcome_eq
  split
  · rename_i isEnd
    apply keeps_retry inside notEnd
    rw [endsAt_eq_ends] at isEnd
    rw [outcome_eq]
    split
    · rfl
    · rename_i isHere
      rw [isHere] at isEnd
      exact if_pos isEnd
  · rename_i goesOn
    obtain ⟨literal, isHere, notLast⟩ := exists_of_not_endsAt goesOn
    rw [Turn.look_of_getElem? isHere, Turn.look_of_getElem? isCharacter]
    rw [drop_of_getElem? isHere] at outcome_eq
    dsimp only at outcome_eq
    rw [if_neg notLast] at outcome_eq
    split
    · rename_i isSame
      rw [if_pos isSame] at outcome_eq
      exact keeps_moveTo inside notEnd (Nat.lt_succ_of_le isLater) (lt_length_of_getElem? isHere)
        outcome_eq
    · rename_i notSame
      rw [if_neg notSame] at outcome_eq
      exact keeps_retry inside notEnd outcome_eq

/-- Every turn keeps the cursor inside of the segment, descends, and keeps what is settled. -/
theorem segmentLoop_keeps
    (inText : start ≤ text.length)
    (inside : cursor.IsInside pattern start (rules.segmentEnd text start)) :
    rules.SegmentKeeps pattern text start cursor (rules.segmentLoop pattern text cursor) := by
  have cursorInText := Nat.le_trans inside.notBehind (segmentEnd_le inText)
  unfold segmentLoop
  split
  · rename_i isStar
    exact keeps_turnAtStars inside cursorInText isStar
  · rename_i isQuestion
    exact keeps_turnAtQuestion inside isQuestion
  · rename_i isBracket
    exact keeps_turnAtClass inside isBracket
  · rename_i notStar notQuestion notBracket
    refine keeps_turnAtLiteral inside cursorInText ?_
    rw [IsPlain, List.head?_drop]
    exact ⟨notStar, notQuestion, notBracket⟩

end Turns

/-! ## The whole segment -/

/-- The positions in pattern and text that a segment comes to if it matches. -/
def stopsAt (rules : Rules) (pattern text : Text) (position start : Nat) : Option (Nat × Nat) :=
  (rules.matchSegment (pattern.drop position) (text.drop start)).map fun (after, left) =>
    (placeOf pattern after, placeOf text left)

section Segments

variable
  {rules : Rules}
  {pattern text : Text}
  {position start : Nat}

/-- What is left of the text is an end of it. -/
theorem matchRest_suffix
    {after left : Text}
    (isMatch : rules.matchRest pattern text = .matched after left) :
    left <:+ text := by
  fun_induction matchRest rules pattern text with
  | case1 text =>
      obtain ⟨-, rfl⟩ := Outcome.matched.inj isMatch
      exact List.suffix_refl text
  | case3 text rest behind found notEnd hasText ih =>
      obtain ⟨start, isSuffix, isAttempt⟩ := exists_of_absorb isMatch
      exact (ih start isAttempt).trans isSuffix
  | case6 rest c text hasText ih => exact (ih isMatch).trans (List.suffix_cons c text)
  | case10 rest c text hasText rest isClass ih =>
      exact (ih isMatch).trans (List.suffix_cons c text)
  | case11 text pattern =>
      obtain ⟨-, rfl⟩ := Outcome.matched.inj isMatch
      exact List.suffix_refl text
  | case14 pattern _ _ _ literal rest c text isLiteral _ _ _ ih =>
      exact (ih isMatch).trans (List.suffix_cons c text)
  | case2 => cases isMatch
  | case4 => cases isMatch
  | case5 => cases isMatch
  | case7 => cases isMatch
  | case8 => cases isMatch
  | case9 => cases isMatch
  | case12 => cases isMatch
  | case13 => cases isMatch
  | case15 => cases isMatch
  | case16 => cases isMatch

theorem suffix_of_matchSegment
    {after left : Text}
    (isMatch : rules.matchSegment pattern text = some (after, left)) :
    after <:+ pattern ∧ left <:+ text := by
  constructor
  · rw [(segmentMatches_of_matchSegment isMatch).1]
    exact (rules.read_suffix pattern).2
  · unfold matchSegment at isMatch
    split at isMatch
    · cases isMatch
    · split at isMatch
      · rename_i outcome
        obtain ⟨rfl, rfl⟩ := Prod.mk.inj (Option.some.inj isMatch)
        exact matchRest_suffix outcome
      · cases isMatch

theorem matchSegment_of_stopsAt
    {stop place : Nat}
    (stops : rules.stopsAt pattern text position start = some (stop, place)) :
    rules.matchSegment (pattern.drop position) (text.drop start) =
      some (pattern.drop stop, text.drop place) := by
  obtain ⟨⟨after, left⟩, isMatch, isStop⟩ := Option.map_eq_some_iff.1 stops
  obtain ⟨rfl, rfl⟩ := Prod.mk.inj isStop
  obtain ⟨isAfter, isLeft⟩ := suffix_of_matchSegment isMatch
  rw [isMatch, drop_placeOf (isAfter.trans (List.drop_suffix _ _)),
    drop_placeOf (isLeft.trans (List.drop_suffix _ _))]

/-- A segment that matches stops in the pattern where reading it stops, and inside of the segment
of the text. -/
structure StopsInside
    (rules : Rules)
    (pattern text : Text)
    (position start stop place : Nat) : Prop where
  notBefore : position ≤ stop
  inPattern : stop ≤ pattern.length
  isRead : pattern.drop stop = (rules.read (pattern.drop position)).2
  atEnd : stop = pattern.length ∨ rules.pathname = true ∧ pattern[stop]? = some '/'
  behindStart : start ≤ place
  inSegment : place ≤ rules.segmentEnd text start
  isBeyond : rules.beyond (text.drop place) = rules.beyond (text.drop start)

/-- Where a segment ends, the pattern ends too, or a slash separates. -/
theorem endsAt_iff (inPattern : position ≤ pattern.length) :
    rules.endsAt pattern position = true ↔
      position = pattern.length ∨ rules.pathname = true ∧ pattern[position]? = some '/' := by
  unfold endsAt
  cases isHere : pattern[position]? with
  | none => simp [Nat.le_antisymm inPattern (List.getElem?_eq_none_iff.1 isHere)]
  | some c => simp [Nat.ne_of_lt (lt_length_of_getElem? isHere)]

theorem stopsInside_of_stopsAt
    {stop place : Nat}
    (inPattern : position ≤ pattern.length)
    (inText : start ≤ text.length)
    (stops : rules.stopsAt pattern text position start = some (stop, place)) :
    StopsInside rules pattern text position start stop place := by
  obtain ⟨⟨after, left⟩, isMatch, isStop⟩ := Option.map_eq_some_iff.1 stops
  obtain ⟨rfl, rfl⟩ := Prod.mk.inj isStop
  obtain ⟨isAfter, isLeft⟩ := suffix_of_matchSegment isMatch
  obtain ⟨isRead, isBeyond, -⟩ :=
    segmentMatches_of_matchSegment (matchSegment_of_stopsAt stops)
  have isEnd := rules.ends_read (pattern.drop position)
  rw [← isRead, ← endsAt_eq_ends] at isEnd
  have isWithin : placeOf text left ≤ rules.segmentEnd text start := by
    rw [← placeOf_drop (segmentEnd_le inText), drop_segmentEnd, ← isBeyond,
      drop_placeOf (isLeft.trans (List.drop_suffix _ _))]
    exact placeOf_le_placeOf (List.dropWhile_suffix _)
  exact {
    notBefore := le_placeOf inPattern isAfter
    inPattern := placeOf_le pattern after
    isRead := isRead
    atEnd := (endsAt_iff (placeOf_le pattern after)).1 isEnd
    behindStart := le_placeOf inText isLeft
    inSegment := isWithin
    isBeyond := isBeyond }

/-- The first turn refuses a hidden segment, and otherwise the segment is settled behind it. -/
theorem enterSegment_settles (inPattern : position ≤ pattern.length) :
    Loop.Settles (Cursor.IsInside pattern start (rules.segmentEnd text start))
      (rules.settledSegment pattern text) (rules.enterSegment pattern text position start)
      (rules.stopsAt pattern text position start) := by
  have hidden_iff : rules.isHidden (pattern.drop position) (text.drop start) = true ↔
      rules.period ∧ text[start]? = some '.' ∧
        pattern[rules.unescapeAt pattern position]? ≠ some '.' := by
    simp [isHidden, ← drop_unescapeAt, List.head?_drop, and_assoc]
  unfold enterSegment stopsAt matchSegment
  rw [ite_congr (propext hidden_iff) (fun _ => rfl) (fun _ => rfl)]
  split
  · exact .ends _
  · refine .goesOn
      ⟨inPattern, Nat.le_refl _, le_segmentEnd, fun _ _ isResume => by cases isResume⟩ ?_
    unfold settledSegment outcomeAt
    dsimp only
    cases rules.matchRest (pattern.drop position) (text.drop start) <;> rfl

theorem segmentLoop_endsWith
    (inPattern : position ≤ pattern.length)
    (inText : start ≤ text.length) :
    (rules.segmentLoop pattern text).EndsWith (rules.enterSegment pattern text position start)
      (rules.stopsAt pattern text position start) :=
  Loop.endsWith_of_settles (fun _ => segmentLoop_keeps inText)
    (Cursor.less_wellFounded pattern (rules.segmentEnd text start))
    (enterSegment_settles inPattern)

theorem isInside_of_meets_segment
    {cursor : Cursor}
    (inPattern : position ≤ pattern.length)
    (inText : start ≤ text.length)
    (meets : (rules.segmentLoop pattern text).Meets
      (rules.enterSegment pattern text position start) cursor) :
    cursor.IsInside pattern start (rules.segmentEnd text start) :=
  Loop.forall_meets_of_settles (fun _ => segmentLoop_keeps inText)
    (enterSegment_settles inPattern) meets

end Segments
end Rules

end Glob
end FilePaths
