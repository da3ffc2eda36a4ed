import FilePaths.Proofs.Glob.SegmentLoop

/-!
# All segments, turn by turn

A path is matched one segment a turn, and on a mismatch the last pair of stars takes one more
segment.  Behind a segment that has been matched one character is skipped in pattern and text.  It
is a slash in both, as the cursors stand where a segment starts in front of every turn.
-/

namespace FilePaths
namespace Glob

/-! ## Starts of segments -/

/-- The position behind all pairs of stars with a slash. -/
def skipSpreads (pattern : Text) (position : Nat) : Nat :=
  if startsWithSpread (pattern.drop position) then skipSpreads pattern (position + 3)
  else position
termination_by pattern.length - position
decreasing_by
  rename_i isSpread
  have notNil : pattern.drop position ≠ [] := by
    intro isNil
    simp [isNil, startsWithSpread] at isSpread
  have := List.drop_eq_nil_iff.not.1 notNil
  omega

/-- The position of the next slash, or the end of the text. -/
def skipSegment (text : Text) (position : Nat) : Nat :=
  if inside : position < text.length then
    if text[position] = '/' then position else skipSegment text (position + 1)
  else position

/-- A segment starts at a position: it is the first one, or a slash stands in front of it. -/
def IsStart (text : Text) : Nat → Prop
  | 0 => True
  | before + 1 => text[before]? = some '/'

section Starts

variable {pattern text : Text} {position : Nat}

/-- A pair of stars ends with a slash. -/
theorem behind_spread (isSpread : startsWithSpread (pattern.drop position) = true) :
    position + 3 ≤ pattern.length ∧ IsStart pattern (position + 3) ∧
      dropSpreads (pattern.drop position) = dropSpreads (pattern.drop (position + 3)) := by
  unfold startsWithSpread at isSpread
  split at isSpread
  · rename_i rest drop_eq
    have length_eq := congrArg List.length drop_eq
    simp only [List.length_drop, List.length_cons] at length_eq
    refine ⟨by omega, ?_, ?_⟩
    · rw [IsStart, ← List.getElem?_drop, drop_eq]
      rfl
    · rw [← List.drop_drop, drop_eq, dropSpreads]
      rfl
  · cases isSpread

theorem drop_skipSpreads :
    pattern.drop (skipSpreads pattern position) = dropSpreads (pattern.drop position) := by
  fun_induction skipSpreads pattern position with
  | case1 position isSpread ih => rw [ih, (behind_spread isSpread).2.2]
  | case2 position notSpread =>
      exact (Rules.dropSpreads_of_starts (Bool.eq_false_iff.2 notSpread)).symm

theorem le_skipSpreads : position ≤ skipSpreads pattern position := by
  fun_induction skipSpreads pattern position with
  | case1 position _ ih => omega
  | case2 => exact Nat.le_refl _

theorem lt_skipSpreads (isSpread : startsWithSpread (pattern.drop position) = true) :
    position < skipSpreads pattern position := by
  rw [skipSpreads, if_pos isSpread]
  exact Nat.lt_of_lt_of_le (by omega) le_skipSpreads

theorem skipSpreads_le (inside : position ≤ pattern.length) :
    skipSpreads pattern position ≤ pattern.length := by
  fun_induction skipSpreads pattern position with
  | case1 position isSpread ih => exact ih (behind_spread isSpread).1
  | case2 => exact inside

theorem isStart_skipSpreads (isStart : IsStart pattern position) :
    IsStart pattern (skipSpreads pattern position) := by
  fun_induction skipSpreads pattern position with
  | case1 position isSpread ih => exact ih (behind_spread isSpread).2.1
  | case2 => exact isStart

/-- Under the rule for path names the segment ends at the next slash. -/
theorem skipSegment_eq
    {rules : Rules}
    (isPathname : rules.pathname = true)
    (text : Text)
    (position : Nat) :
    skipSegment text position = rules.segmentEnd text position := by
  fun_induction skipSegment text position with
  | case1 position inside isSlash =>
      rw [Rules.segmentEnd, List.drop_eq_getElem_cons inside, isSlash]
      simp [Rules.segment, Rules.inSegment, isPathname]
  | case2 position inside notSlash ih =>
      rw [ih, Rules.segmentEnd, Rules.segmentEnd, List.drop_eq_getElem_cons inside,
        Rules.segment_cons (by simp [Rules.ends, notSlash]), List.length_cons]
      omega
  | case3 position atEnd =>
      rw [Rules.segmentEnd, List.drop_eq_nil_iff.2 (Nat.not_lt.1 atEnd)]
      rfl

end Starts

/-! ## The loop -/

/-- Past all pairs of stars, to which the matching can go back. -/
def Cursor.pastSpreads (pattern : Text) (cursor : Cursor) : Cursor :=
  if startsWithSpread (pattern.drop cursor.pattern) then
    .resuming (skipSpreads pattern cursor.pattern) cursor.text
  else cursor

namespace Rules

/-- Lets the last pair of stars take one more segment, unless it is hidden. -/
def retrySpread (rules : Rules) (text : Text) (cursor : Cursor) : Turn Cursor Bool :=
  match cursor.resume with
  | none => .ends false
  | some (behind, tried) =>
      if rules.period ∧ text[tried]? = some '.' then .ends false
      else
        let boundary := skipSegment text tried
        if text.length ≤ boundary then .ends false
        else .goesOn (.resuming behind (boundary + 1))

/-- Matches one segment, and skips the slash behind it in pattern and text. -/
def turnAtSegment (rules : Rules) (pattern text : Text) (cursor : Cursor) : Turn Cursor Bool :=
  match rules.stopsAt pattern text cursor.pattern cursor.text with
  | none => rules.retrySpread text cursor
  | some (stop, place) =>
      let boundary := skipSegment text place
      if stop < pattern.length ∧ boundary < text.length then
        .goesOn (cursor.moveTo (stop + 1) (boundary + 1))
      else if pattern.length ≤ stop ∧ text.length ≤ boundary then .ends true
      else rules.retrySpread text cursor

/-- Matches a path, one segment a turn, and ends with whether it matches. -/
def pathLoop (rules : Rules) (pattern text : Text) : Loop Cursor Bool :=
  fun cursor => rules.turnAtSegment pattern text (cursor.pastSpreads pattern)

/-! ## What is settled -/

/-- The verdict that going back leads to. -/
def spreadAgain (rules : Rules) (pattern text : Text) : Option (Nat × Nat) → Verdict
  | none => .mismatch
  | some (behind, tried) =>
      match laterSegments (text.drop tried) with
      | [] => .refused
      | next :: later =>
          if rules.period && (text.drop tried).head? == some '.' then .refused
          else
            spread rules.period (rules.matchThen rules.matchSegments (pattern.drop behind)) next
              later

/-- The verdict, or the one that going back leads to. -/
def orSpread
    (rules : Rules)
    (pattern text : Text)
    (resume : Option (Nat × Nat)) :
    Verdict → Verdict
  | .mismatch => rules.spreadAgain pattern text resume
  | verdict => verdict

/-- The verdict that is settled where the matching of a path stands. -/
def verdictAt (rules : Rules) (pattern text : Text) (cursor : Cursor) : Verdict :=
  rules.orSpread pattern text cursor.resume
    (rules.matchSegments (pattern.drop cursor.pattern) (text.drop cursor.text))

/-- Whether the path matches is settled where the matching stands. -/
def settledPath (rules : Rules) (pattern text : Text) (cursor : Cursor) : Bool :=
  rules.verdictAt pattern text cursor == .accepted

section Settled

variable {rules : Rules} {pattern text : Text} {cursor : Cursor}

theorem spread_ne_mismatch
    {period : Bool}
    {attempt : Text → Verdict}
    (text : Text)
    (later : List Text) :
    spread period attempt text later ≠ .mismatch := by
  induction later generalizing text with
  | nil =>
      unfold spread
      split
      · simp
      · assumption
  | cons next later ih =>
      unfold spread
      split
      · split
        · simp
        · exact ih next
      · assumption

theorem orSpread_of_ne_mismatch
    {verdict : Verdict}
    (isFinal : verdict ≠ .mismatch)
    (resume : Option (Nat × Nat)) :
    rules.orSpread pattern text resume verdict = verdict := by
  cases verdict with
  | mismatch => exact absurd rfl isFinal
  | accepted => rfl
  | refused => rfl

/-- What stands behind a pair of stars is no other pair. -/
theorem matchSegments_eq_of_starts
    (isPathname : rules.pathname = true)
    (notSpread : startsWithSpread pattern = false)
    (text : Text) :
    rules.matchSegments pattern text = rules.matchThen rules.matchSegments pattern text := by
  rw [matchSegments_eq_matchThen isPathname, notSpread, dropSpreads_of_starts notSpread]
  rfl

/-- Behind a pair of stars is settled what the stars come to from there. -/
theorem verdictAt_resuming
    {behind : Nat}
    (isPathname : rules.pathname = true)
    (notSpread : startsWithSpread (pattern.drop behind) = false)
    (tried : Nat) :
    rules.verdictAt pattern text (.resuming behind tried) =
      spread rules.period (rules.matchThen rules.matchSegments (pattern.drop behind))
        (text.drop tried) (laterSegments (text.drop tried)) := by
  unfold verdictAt
  dsimp only [Cursor.resuming]
  rw [matchSegments_eq_of_starts isPathname notSpread]
  cases later_eq : laterSegments (text.drop tried) with
  | nil =>
      rw [spread]
      cases rules.matchThen rules.matchSegments (pattern.drop behind) (text.drop tried) <;>
        simp only [orSpread, spreadAgain, later_eq]
  | cons next later =>
      rw [spread]
      cases rules.matchThen rules.matchSegments (pattern.drop behind) (text.drop tried) <;>
        simp only [orSpread, spreadAgain, later_eq]

/-- Pairs of stars take no hidden segment. -/
theorem spreadAgain_of_hidden
    {tried : Nat}
    (isHidden : rules.period = true ∧ text[tried]? = some '.')
    (behind : Nat) :
    rules.spreadAgain pattern text (some (behind, tried)) = .refused := by
  unfold spreadAgain
  dsimp only
  split
  · rfl
  · simp [List.head?_drop, isHidden]

/-- Pairs of stars leave the last segment to the pattern behind them. -/
theorem spreadAgain_of_last
    {tried : Nat}
    (isPathname : rules.pathname = true)
    (isLast : text.length ≤ rules.segmentEnd text tried)
    (behind : Nat) :
    rules.spreadAgain pattern text (some (behind, tried)) = .refused := by
  have later_eq := laterSegments_eq_beyond isPathname (text.drop tried)
  rw [← drop_segmentEnd, List.drop_eq_nil_iff.2 isLast] at later_eq
  rw [spreadAgain, later_eq]

/-- Pairs of stars that take a segment leave the text behind its slash to the pattern. -/
theorem spreadAgain_of_next
    {behind tried : Nat}
    (isPathname : rules.pathname = true)
    (notSpread : startsWithSpread (pattern.drop behind) = false)
    (notHidden : ¬(rules.period = true ∧ text[tried]? = some '.'))
    (hasNext : rules.segmentEnd text tried < text.length) :
    rules.spreadAgain pattern text (some (behind, tried)) =
      rules.verdictAt pattern text (.resuming behind (rules.segmentEnd text tried + 1)) := by
  have later_eq := laterSegments_eq_beyond isPathname (text.drop tried)
  rw [← drop_segmentEnd, List.drop_eq_getElem_cons hasNext] at later_eq
  rw [verdictAt_resuming isPathname notSpread, spreadAgain, later_eq]
  exact if_neg (by simpa [List.head?_drop] using notHidden)

/-- Behind a segment that has been matched the matching goes on behind a slash in pattern and text,
or both have ended. -/
theorem matchThen_of_stopsAt
    {position start stop place : Nat}
    (stops : rules.stopsAt pattern text position start = some (stop, place))
    (next : (pattern text : Text) → Verdict) :
    rules.matchThen next (pattern.drop position) (text.drop start) =
      let boundary := rules.segmentEnd text place
      if stop < pattern.length ∧ boundary < text.length then
        next (pattern.drop (stop + 1)) (text.drop (boundary + 1))
      else if pattern.length ≤ stop ∧ text.length ≤ boundary then .accepted
      else .mismatch := by
  rw [matchThen, matchSegment_of_stopsAt stops]
  dsimp only
  rw [← drop_segmentEnd]
  by_cases goesOn : stop < pattern.length ∧ rules.segmentEnd text place < text.length
  · rw [if_pos goesOn, List.drop_eq_getElem_cons goesOn.1, List.drop_eq_getElem_cons goesOn.2]
  by_cases hasEnded : pattern.length ≤ stop ∧ text.length ≤ rules.segmentEnd text place
  · rw [if_neg goesOn, if_pos hasEnded, List.drop_eq_nil_iff.2 hasEnded.1,
      List.drop_eq_nil_iff.2 hasEnded.2]
  rw [if_neg goesOn, if_neg hasEnded]
  split
  · rename_i isEnd isTextEnd
    exact absurd ⟨List.drop_eq_nil_iff.1 isEnd, List.drop_eq_nil_iff.1 isTextEnd⟩ hasEnded
  · rename_i isRest isTextRest
    exact absurd ⟨lt_length_of_drop_eq_cons isRest, lt_length_of_drop_eq_cons isTextRest⟩ goesOn
  · rfl

/-- To skip pairs of stars changes nothing in what is settled. -/
theorem verdictAt_pastSpreads (isPathname : rules.pathname = true) :
    rules.verdictAt pattern text (cursor.pastSpreads pattern) =
      rules.verdictAt pattern text cursor := by
  unfold Cursor.pastSpreads
  split
  · rename_i isSpread
    have notSpread := startsWithSpread_dropSpreads (pattern.drop cursor.pattern)
    rw [← drop_skipSpreads] at notSpread
    rw [verdictAt_resuming isPathname notSpread, verdictAt, matchSegments_eq_matchThen isPathname,
      if_pos isSpread, drop_skipSpreads, orSpread_of_ne_mismatch (spread_ne_mismatch _ _)]
  · rfl

end Settled

/-! ## Turns -/

/-- A cursor stands where a segment starts in pattern and text, and can go back only to where no
further pair of stars stands. -/
structure IsAtStart (pattern text : Text) (cursor : Cursor) : Prop where
  inside : cursor.IsInside pattern 0 text.length
  inPattern : IsStart pattern cursor.pattern
  inText : IsStart text cursor.text
  resume : ∀ behind tried, cursor.resume = some (behind, tried) →
    IsStart pattern behind ∧ startsWithSpread (pattern.drop behind) = false

/-- A turn keeps the cursor at the start of a segment, descends, and keeps what is settled. -/
abbrev PathKeeps (rules : Rules) (pattern text : Text) (cursor : Cursor) :
    Turn Cursor Bool → Prop :=
  Loop.Keeps (IsAtStart pattern text) (Cursor.Less pattern text.length)
    (rules.settledPath pattern text) cursor

section Turns

variable {rules : Rules} {pattern text : Text} {cursor : Cursor}

theorem isAtStart_resuming
    {behind tried : Nat}
    (inPattern : behind ≤ pattern.length)
    (inText : tried ≤ text.length)
    (patternStart : IsStart pattern behind)
    (textStart : IsStart text tried)
    (notSpread : startsWithSpread (pattern.drop behind) = false) :
    IsAtStart pattern text (.resuming behind tried) where
  inside := Cursor.isInside_resuming inPattern (Nat.zero_le _) inText
  inPattern := patternStart
  inText := textStart
  resume := fun other place isResume => by
    obtain ⟨rfl, rfl⟩ := Prod.mk.inj (Option.some.inj isResume)
    exact ⟨patternStart, notSpread⟩

/-- Behind a segment of a text that does not end there a slash stands. -/
theorem slash_at_segmentEnd
    {position : Nat}
    (isBefore : rules.segmentEnd text position < text.length) :
    text[rules.segmentEnd text position]? = some '/' := by
  have isEnd := rules.endsAt_segmentEnd text position
  rcases (endsAt_iff isBefore.le).1 isEnd with atEnd | ⟨-, isSlash⟩
  · omega
  · exact isSlash

/-- A mismatch leads back to the last pair of stars, which takes one more segment. -/
theorem keeps_retrySpread
    (isPathname : rules.pathname = true)
    (atStart : IsAtStart pattern text cursor)
    (isMismatch :
      rules.matchSegments (pattern.drop cursor.pattern) (text.drop cursor.text) = .mismatch) :
    rules.PathKeeps pattern text cursor (rules.retrySpread text cursor) := by
  have verdict_eq : rules.verdictAt pattern text cursor =
      rules.spreadAgain pattern text cursor.resume := by
    rw [verdictAt, isMismatch]
    rfl
  unfold retrySpread
  cases isResume : cursor.resume with
  | none =>
      apply Loop.Keeps.ends
      rw [settledPath, verdict_eq, isResume]
      rfl
  | some resume =>
      obtain ⟨behind, tried⟩ := resume
      obtain ⟨inPattern, -, -⟩ := atStart.inside.resume behind tried isResume
      obtain ⟨patternStart, notSpread⟩ := atStart.resume behind tried isResume
      rw [isResume] at verdict_eq
      dsimp only
      rw [skipSegment_eq isPathname]
      split
      · rename_i isHidden
        apply Loop.Keeps.ends
        rw [settledPath, verdict_eq, spreadAgain_of_hidden isHidden]
        rfl
      rename_i notHidden
      split
      · rename_i isLast
        apply Loop.Keeps.ends
        rw [settledPath, verdict_eq, spreadAgain_of_last isPathname isLast]
        rfl
      · rename_i notLast
        have hasNext := Nat.not_le.1 notLast
        refine .goesOn
          (isAtStart_resuming inPattern hasNext patternStart (slash_at_segmentEnd hasNext)
            notSpread)
          (Cursor.less_of_resume isResume (Nat.lt_succ_of_le le_segmentEnd) hasNext) ?_
        rw [settledPath, settledPath, verdict_eq,
          spreadAgain_of_next isPathname notSpread notHidden hasNext]

/-- Behind pairs of stars every turn keeps the cursor at the start of a segment. -/
theorem keeps_turnAtSegment
    (isPathname : rules.pathname = true)
    (notSpread : startsWithSpread (pattern.drop cursor.pattern) = false)
    (atStart : IsAtStart pattern text cursor) :
    rules.PathKeeps pattern text cursor (rules.turnAtSegment pattern text cursor) := by
  have verdict_eq := matchSegments_eq_of_starts isPathname notSpread (text.drop cursor.text)
  unfold turnAtSegment
  cases stops : rules.stopsAt pattern text cursor.pattern cursor.text with
  | none =>
      rw [matchThen, Option.map_eq_none_iff.1 stops] at verdict_eq
      exact keeps_retrySpread isPathname atStart verdict_eq
  | some stop =>
      obtain ⟨stop, place⟩ := stop
      have stopsInside := stopsInside_of_stopsAt atStart.inside.inPattern atStart.inside.notBehind
        stops
      have isLater : cursor.text ≤ rules.segmentEnd text place :=
        Nat.le_trans stopsInside.behindStart le_segmentEnd
      rw [matchThen_of_stopsAt stops] at verdict_eq
      dsimp only at verdict_eq ⊢
      rw [skipSegment_eq isPathname]
      split
      · rename_i goesOn
        obtain ⟨inPattern, inText⟩ := goesOn
        rw [if_pos ⟨inPattern, inText⟩] at verdict_eq
        have nextAtStart : IsAtStart pattern text
            (cursor.moveTo (stop + 1) (rules.segmentEnd text place + 1)) := {
          inside := atStart.inside.moveTo inPattern (Nat.le_succ_of_le isLater) inText
          inPattern := (stopsInside.atEnd.resolve_left (Nat.ne_of_lt inPattern)).2
          inText := slash_at_segmentEnd inText
          resume := atStart.resume }
        refine .goesOn nextAtStart
          (Cursor.less_moveTo (Nat.lt_succ_of_le stopsInside.notBefore) inPattern) ?_
        rw [settledPath, settledPath, verdictAt, verdictAt, verdict_eq]
        rfl
      rename_i notOn
      rw [if_neg notOn] at verdict_eq
      split
      · rename_i hasEnded
        rw [if_pos hasEnded] at verdict_eq
        apply Loop.Keeps.ends
        rw [settledPath, verdictAt, verdict_eq]
        rfl
      · rename_i notEnded
        rw [if_neg notEnded] at verdict_eq
        exact keeps_retrySpread isPathname atStart verdict_eq

/-- To skip pairs of stars leads to the start of a segment, or does nothing. -/
theorem pastSpreads_isAtStart (atStart : IsAtStart pattern text cursor) :
    IsAtStart pattern text (cursor.pastSpreads pattern) ∧
      startsWithSpread (pattern.drop (cursor.pastSpreads pattern).pattern) = false ∧
      (cursor.pastSpreads pattern = cursor ∨
        Cursor.Less pattern text.length (cursor.pastSpreads pattern) cursor) := by
  unfold Cursor.pastSpreads
  split
  · rename_i isSpread
    have inPattern := skipSpreads_le atStart.inside.inPattern
    have notSpread := startsWithSpread_dropSpreads (pattern.drop cursor.pattern)
    rw [← drop_skipSpreads] at notSpread
    exact ⟨isAtStart_resuming inPattern atStart.inside.notBehind
        (isStart_skipSpreads atStart.inPattern) atStart.inText notSpread,
      notSpread, .inr (Cursor.less_resuming atStart.inside (lt_skipSpreads isSpread) inPattern)⟩
  · rename_i notSpread
    exact ⟨atStart, Bool.eq_false_iff.2 notSpread, .inl rfl⟩

/-- Every turn keeps the cursor at the start of a segment, descends, and keeps what is settled. -/
theorem pathLoop_keeps
    (isPathname : rules.pathname = true)
    (atStart : IsAtStart pattern text cursor) :
    rules.PathKeeps pattern text cursor (rules.pathLoop pattern text cursor) := by
  obtain ⟨stillAtStart, notSpread, isLess⟩ := pastSpreads_isAtStart atStart
  have same : rules.settledPath pattern text (cursor.pastSpreads pattern) =
      rules.settledPath pattern text cursor := by
    rw [settledPath, settledPath, verdictAt_pastSpreads isPathname]
  exact (keeps_turnAtSegment isPathname notSpread stillAtStart).of_step Cursor.Less.trans isLess
    same

end Turns

/-! ## The whole matcher -/

section Paths

variable {rules : Rules} {pattern text : Text}

theorem isAtStart_first : IsAtStart pattern text { pattern := 0, text := 0 } where
  inside := ⟨Nat.zero_le _, Nat.le_refl _, Nat.zero_le _, fun _ _ isResume => by cases isResume⟩
  inPattern := trivial
  inText := trivial
  resume := fun _ _ isResume => by cases isResume

theorem pathLoop_endsWith (isPathname : rules.pathname = true) :
    (rules.pathLoop pattern text).EndsWith (.goesOn { pattern := 0, text := 0 })
      (rules.matchSegments pattern text == .accepted) := by
  have settled_eq : rules.settledPath pattern text { pattern := 0, text := 0 } =
      (rules.matchSegments pattern text == .accepted) := by
    change (rules.orSpread pattern text none (rules.matchSegments pattern text) == _) = _
    cases rules.matchSegments pattern text <;> rfl
  rw [← settled_eq]
  exact Loop.endsWith_of_keeps (fun _ => pathLoop_keeps isPathname)
    (Cursor.less_wellFounded pattern text.length) isAtStart_first

theorem isAtStart_of_meets
    {cursor : Cursor}
    (isPathname : rules.pathname = true)
    (meets : (rules.pathLoop pattern text).Meets (.goesOn { pattern := 0, text := 0 }) cursor) :
    IsAtStart pattern text cursor :=
  Loop.forall_meets_of_keeps (fun _ => pathLoop_keeps isPathname) isAtStart_first meets

end Paths

/-- The reading of a class ends with its result, and stays inside of the pattern. -/
structure ClassRun (rules : Rules) (c : Char) (pattern : Text) (position : Nat) : Prop where
  ends : (rules.classLoop c pattern).EndsWith (enterClass pattern position)
    (rules.classAt c pattern position)
  isInside : ∀ cursor, (rules.classLoop c pattern).Meets (enterClass pattern position) cursor →
    cursor.position ≤ pattern.length

/-- The matching of a segment ends with its result, stays inside of the pattern and of the segment
with everything that it can go back to, and stops where both segments allow it. -/
structure SegmentRun (rules : Rules) (pattern text : Text) (position start : Nat) : Prop where
  ends : (rules.segmentLoop pattern text).EndsWith
    (rules.enterSegment pattern text position start) (rules.stopsAt pattern text position start)
  isInside : ∀ cursor,
    (rules.segmentLoop pattern text).Meets (rules.enterSegment pattern text position start)
      cursor → cursor.IsInside pattern start (rules.segmentEnd text start)
  inText : rules.segmentEnd text start ≤ text.length
  stopsInside : ∀ stop place, rules.stopsAt pattern text position start = some (stop, place) →
    StopsInside rules pattern text position start stop place

/-- The matching of a path ends with its result, and every turn starts in front of a segment, as
does the matching of that segment. -/
structure PathRun (rules : Rules) (pattern text : Text) (result : Bool) : Prop where
  ends : (rules.pathLoop pattern text).EndsWith (.goesOn { pattern := 0, text := 0 }) result
  atStart : ∀ cursor,
    (rules.pathLoop pattern text).Meets (.goesOn { pattern := 0, text := 0 }) cursor →
      IsAtStart pattern text cursor ∧ IsAtStart pattern text (cursor.pastSpreads pattern)

end Rules

/-- For every set of options, every pattern and every path the loops of the matcher come to an end,
with the results that the matcher has, and never look outside of pattern and text.  A star that is
tried again stays in its segment.  A segment that matches stops at the end of the pattern, or at a
slash that ends the segment there. -/
theorem matcher_stays_inside (flags : GlobFlags) (pattern path : Text) :
    (∀ c position, (Rules.ofFlags flags).ClassRun c pattern position) ∧
      (∀ position start, position ≤ pattern.length → start ≤ path.length →
        (Rules.ofFlags flags).SegmentRun pattern path position start) ∧
      ((Rules.ofFlags flags).pathname = true →
        (Rules.ofFlags flags).PathRun pattern path (isMatch flags pattern path)) ∧
      ((Rules.ofFlags flags).pathname = false →
        isMatch flags pattern path =
          ((Rules.ofFlags flags).stopsAt pattern path 0 0).isSome) := by
  refine ⟨fun c position => ?_, fun position start inPattern inText => ?_, fun isPathname => ?_,
    fun notPathname => ?_⟩
  · exact ⟨Rules.classLoop_endsWith _ c pattern position, fun _ => Rules.le_length_of_meets⟩
  · exact {
      ends := Rules.segmentLoop_endsWith inPattern inText
      isInside := fun _ => Rules.isInside_of_meets_segment inPattern inText
      inText := Rules.segmentEnd_le inText
      stopsInside := fun _ _ => Rules.stopsInside_of_stopsAt inPattern inText }
  · rw [isMatch, if_pos isPathname]
    refine ⟨Rules.pathLoop_endsWith isPathname, fun cursor meets => ?_⟩
    have atStart := Rules.isAtStart_of_meets isPathname meets
    exact ⟨atStart, (Rules.pastSpreads_isAtStart atStart).1⟩
  · rw [isMatch, if_neg (by simp [notPathname]), Rules.stopsAt, Option.isSome_map]
    rfl

/-- Both a pair of stars and a star have to be tried again. -/
theorem retried_stars_stay_inside :
    let pattern := "**/*a[!b]/?".toList
    let path := "x/baab/aac/y".toList
    (Rules.ofFlags ⟨2⟩).PathRun pattern path true ∧
      (Rules.ofFlags ⟨2⟩).SegmentRun pattern path 3 7 ∧
      (Rules.ofFlags ⟨2⟩).StopsInside pattern path 3 7 9 10 := by
  intro pattern path
  obtain ⟨-, segment, segmentwise, -⟩ := matcher_stays_inside ⟨2⟩ pattern path
  have isMatch_eq : isMatch ⟨2⟩ pattern path = true := by decide +kernel
  have segmentRun := segment 3 7 (by decide) (by decide)
  have run := segmentwise (by decide)
  rw [isMatch_eq] at run
  exact ⟨run, segmentRun, segmentRun.stopsInside 9 10 (by decide +kernel)⟩

end Glob
end FilePaths
