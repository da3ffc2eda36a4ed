import FilePaths.Glob.Match
import FilePaths.Path.Algebra
import FilePaths.Proofs.Glob.Segment

/-!
# Path names, all choices

Under the option for path names a pattern is a sequence of segments, and two stars with a slash
at the start of a segment may take any number of segments of the path.  A relation allows every
distribution of the segments over all such pairs of stars; the matcher, which tries only the last
pair again, decides it.

The argument is an exchange.  Suppose that what stands between two pairs of stars can be matched
at an early place and at a later one, and that the first pair of stars has taken the segments in
between.  None of these is hidden, so nothing that was matched at the early place is hidden, for
otherwise the patterns of the same hidden segment would stand at two places.  Then nothing up to
the end of the later match is hidden either, and the second pair of stars can take it.
-/

namespace FilePaths
namespace Glob

/-- A segment of a pattern. -/
inductive Segment
  /-- Two stars and a slash. -/
  | spread
  | single (elements : List Element)
  deriving DecidableEq, Repr

/-- The segments of a pattern, as slashes outside of brackets separate them. -/
def Rules.readSegments (rules : Rules) (pattern : Text) : List Segment :=
  match pattern with
  | '*' :: '*' :: '/' :: rest => .spread :: rules.readSegments rest
  | pattern =>
      .single (rules.read pattern).1 ::
        match _isRest : (rules.read pattern).2 with
        | [] => []
        | _ :: rest => rules.readSegments rest
termination_by pattern.length
decreasing_by
  · simp only [List.length_cons]; omega
  · have := rules.read_length pattern
    rw [_isRest] at this
    exact this

/-- A segment that two stars may take. -/
def Rules.IsVisible (rules : Rules) (text : Text) : Prop :=
  rules.period = true → text.head? ≠ some '.'

/-- The segments of a pattern accept the segments of a path: two stars take any number of visible
segments with a segment behind each, every other segment of the pattern takes one segment of the
path, and nothing is left over. -/
inductive Accepts (rules : Rules) : List Segment → List Text → Prop
  | nil : Accepts rules [] []
  | single
      {elements : List Element}
      {text : Text}
      {segments : List Segment}
      {texts : List Text}
      (here : SegmentMatches rules elements text)
      (behind : Accepts rules segments texts) :
      Accepts rules (.single elements :: segments) (text :: texts)
  | stop
      {segments : List Segment}
      {texts : List Text}
      (behind : Accepts rules segments texts) :
      Accepts rules (.spread :: segments) texts
  | take
      {text : Text}
      {segments : List Segment}
      {texts : List Text}
      (isVisible : rules.IsVisible text)
      (hasNext : texts ≠ [])
      (behind : Accepts rules (.spread :: segments) texts) :
      Accepts rules (.spread :: segments) (text :: texts)

/-- The second list is what is left of the first when a pair of stars has taken some segments. -/
inductive Skips (rules : Rules) : List Text → List Text → Prop
  | refl (texts : List Text) : Skips rules texts texts
  | step
      {text : Text}
      {texts later : List Text}
      (isVisible : rules.IsVisible text)
      (behind : Skips rules texts later) :
      Skips rules (text :: texts) later

theorem Skips.trans
    {rules : Rules}
    {texts middle later : List Text}
    (first : Skips rules texts middle)
    (second : Skips rules middle later) :
    Skips rules texts later := by
  induction first with
  | refl => exact second
  | step isVisible _ ih => exact .step isVisible (ih second)

/-! ## What the relation allows -/

theorem accepts_single_iff
    {rules : Rules}
    {elements : List Element}
    {segments : List Segment}
    {text : Text}
    {texts : List Text} :
    Accepts rules (.single elements :: segments) (text :: texts) ↔
      SegmentMatches rules elements text ∧ Accepts rules segments texts := by
  constructor
  · rintro (_ | ⟨here, behind⟩)
    exact ⟨here, behind⟩
  · rintro ⟨here, behind⟩
    exact .single here behind

theorem Accepts.ne_nil
    {rules : Rules}
    {segments : List Segment}
    {texts : List Text}
    {elements : List Element}
    (isMember : .single elements ∈ segments)
    (accepts : Accepts rules segments texts) :
    texts ≠ [] := by
  induction accepts with
  | nil => simp at isMember
  | single => simp
  | stop behind ih => exact ih (by simpa using isMember)
  | take => simp

/-- A pair of stars leaves some later segments to what stands behind it. -/
theorem accepts_spread_iff
    {rules : Rules}
    {segments : List Segment}
    {texts : List Text}
    {elements : List Element}
    (isMember : .single elements ∈ segments) :
    Accepts rules (.spread :: segments) texts ↔
      ∃ later, Skips rules texts later ∧ Accepts rules segments later := by
  constructor
  · intro accepts
    generalize whole_eq : .spread :: segments = whole at accepts
    induction accepts with
    | nil => simp at whole_eq
    | single => simp at whole_eq
    | stop behind =>
        obtain rfl := (List.cons.inj whole_eq).2
        exact ⟨_, .refl _, behind⟩
    | take isVisible hasNext behind ih =>
        obtain ⟨later, skips, accepts⟩ := ih whole_eq
        exact ⟨later, .step isVisible skips, accepts⟩
  · rintro ⟨later, skips, accepts⟩
    induction skips with
    | refl => exact .stop accepts
    | step isVisible _ ih =>
        have behind := ih accepts
        exact .take isVisible (behind.ne_nil (List.mem_cons_of_mem _ isMember)) behind

theorem not_accepts_spread_cons
    {rules : Rules}
    {segments : List Segment}
    {text : Text}
    {texts : List Text}
    {elements : List Element}
    (isMember : .single elements ∈ segments)
    (noneHere : ¬Accepts rules segments (text :: texts))
    (noneBehind : ¬Accepts rules (.spread :: segments) texts) :
    ¬Accepts rules (.spread :: segments) (text :: texts) := by
  rw [accepts_spread_iff isMember] at noneBehind ⊢
  rintro ⟨later, skips, accepts⟩
  cases skips with
  | refl => exact noneHere accepts
  | step _ behind => exact noneBehind ⟨later, behind, accepts⟩

/-- Two pairs of stars are as good as one. -/
theorem accepts_spread_spread_iff
    {rules : Rules}
    {segments : List Segment}
    {texts : List Text}
    {elements : List Element}
    (isMember : .single elements ∈ segments) :
    Accepts rules (.spread :: .spread :: segments) texts ↔
      Accepts rules (.spread :: segments) texts := by
  simp only [accepts_spread_iff (List.mem_cons_of_mem _ isMember), accepts_spread_iff isMember]
  constructor
  · rintro ⟨middle, first, later, second, accepts⟩
    exact ⟨later, first.trans second, accepts⟩
  · rintro ⟨later, skips, accepts⟩
    exact ⟨texts, .refl _, later, skips, accepts⟩

/-! ## The exchange -/

/-- One segment of a pattern matches hidden segments only, or none at all. -/
theorem SegmentMatches.isVisible
    {rules : Rules}
    {elements : List Element}
    {text other : Text}
    (isMatch : SegmentMatches rules elements text)
    (isVisible : rules.IsVisible text)
    (otherMatch : SegmentMatches rules elements other) :
    rules.IsVisible other := by
  intro isPeriod isDot
  obtain ⟨rest, rfl⟩ := List.head?_eq_some_iff.1 (otherMatch.2 isPeriod isDot)
  refine isVisible isPeriod ?_
  have isMatch := isMatch.1
  cases text with
  | nil => exact absurd isMatch (not_matches_cons_nil (by simp))
  | cons c text =>
      have admitted := ((matches_cons_iff (by simp)).1 isMatch).1
      have isDot : c = '.' := Rules.eq_of_fold rfl (by simpa [Element.admits] using admitted)
      rw [isDot]
      rfl

/-- If what stands behind a segment of the pattern fails wherever a pair of stars might lead from
here, then so it does behind any later place for that segment. -/
theorem not_accepts_of_skips
    {rules : Rules}
    {elements : List Element}
    {segments : List Segment}
    {text : Text}
    {texts later : List Text}
    (here : SegmentMatches rules elements text)
    (noneBehind : ∀ later, Skips rules texts later → ¬Accepts rules segments later)
    (skips : Skips rules (text :: texts) later) :
    ¬Accepts rules (.single elements :: segments) later := by
  intro accepts
  cases skips with
  | refl => exact noneBehind texts (.refl _) (accepts_single_iff.1 accepts).2
  | step isVisible behind =>
      cases accepts with
      | single there accepts =>
          have alsoVisible := here.isVisible isVisible there
          exact noneBehind _ (behind.trans (.step alsoVisible (.refl _))) accepts

/-! ## The meaning of a verdict -/

/-- A verdict for the segments of a path says the truth about the segments of a pattern. -/
def Verdict.IsRight
    (rules : Rules)
    (segments : List Segment)
    (texts : List Text) :
    Verdict → Prop
  | .accepted => Accepts rules segments texts
  | .refused => ∀ later, Skips rules texts later → ¬Accepts rules segments later
  | .mismatch => ¬Accepts rules segments texts

namespace Rules

theorem splitAt_eq_segment_cons
    {rules : Rules}
    (isPathname : rules.pathname = true)
    (text : Text) :
    Text.splitAt Path.isSlash text =
      rules.segment text ::
        match rules.beyond text with
        | [] => []
        | _ :: rest => Text.splitAt Path.isSlash rest := by
  induction text with
  | nil => rfl
  | cons c rest ih =>
      by_cases isSlash : c = '/'
      · simp [Text.splitAt, Path.isSlash, segment, beyond, inSegment, isPathname, isSlash]
      · have notEnd : ¬rules.ends (c :: rest) = true := by simp [ends, isSlash]
        rw [segment_cons notEnd, beyond_cons notEnd, Text.splitAt, ih]
        simp [Path.isSlash, isSlash]

theorem laterSegments_eq_beyond
    {rules : Rules}
    (isPathname : rules.pathname = true)
    (text : Text) :
    laterSegments text =
      match rules.beyond text with
      | [] => []
      | _ :: rest => rest :: laterSegments rest := by
  induction text with
  | nil => rfl
  | cons c rest ih =>
      by_cases isSlash : c = '/'
      · simp [laterSegments, beyond, inSegment, isPathname, isSlash]
      · have notEnd : ¬rules.ends (c :: rest) = true := by simp [ends, isSlash]
        rw [beyond_cons notEnd, laterSegments, ih]
        simp [isSlash]

theorem isVisible_segment_iff (rules : Rules) (text : Text) :
    rules.IsVisible (rules.segment text) ↔
      (rules.period && text.head? == some '.') = false := by
  simp only [IsVisible, ne_eq, head?_segment_eq_dot_iff]
  by_cases isPeriod : rules.period = true <;> simp [isPeriod]

end Rules

namespace Verdict.IsRight

variable
  {rules : Rules}
  {segments others : List Segment}
  {elements : List Element}
  {text : Text}
  {texts : List Text}
  {verdict : Verdict}

/-- What is refused behind a pair of stars is refused wherever the stars might lead. -/
theorem spread_of_refused
    (isMember : .single elements ∈ segments)
    (noneLater : ∀ later, Skips rules texts later → ¬Accepts rules segments later) :
    Verdict.refused.IsRight rules (.spread :: segments) texts := by
  intro middle first accepts
  obtain ⟨later, second, accepts⟩ := (accepts_spread_iff isMember).1 accepts
  exact noneLater later (first.trans second) accepts

/-- What is final behind a pair of stars is final for the stars too. -/
theorem spread
    (isMember : .single elements ∈ segments)
    (isRight : verdict.IsRight rules segments texts)
    (isFinal : verdict ≠ .mismatch) :
    verdict.IsRight rules (.spread :: segments) texts := by
  cases verdict with
  | accepted => exact .stop isRight
  | refused => exact spread_of_refused isMember isRight
  | mismatch => exact absurd rfl isFinal

/-- No pair of stars takes the last segment of a path. -/
theorem spread_last
    (isMember : .single elements ∈ segments)
    (noneHere : ¬Accepts rules segments [text]) :
    Verdict.refused.IsRight rules (.spread :: segments) [text] := by
  refine spread_of_refused isMember fun later skips accepts => ?_
  cases skips with
  | refl => exact noneHere accepts
  | step _ behind =>
      cases behind
      exact accepts.ne_nil isMember rfl

/-- No pair of stars takes a hidden segment. -/
theorem spread_hidden
    (isMember : .single elements ∈ segments)
    (isHidden : ¬rules.IsVisible text)
    (noneHere : ¬Accepts rules segments (text :: texts)) :
    Verdict.refused.IsRight rules (.spread :: segments) (text :: texts) := by
  refine spread_of_refused isMember fun later skips accepts => ?_
  cases skips with
  | refl => exact noneHere accepts
  | step isVisible _ => exact isHidden isVisible

/-- If what stands behind a pair of stars does not accept a path, the stars take the first segment,
and the verdict is the one behind it. -/
theorem spread_cons
    (isMember : .single elements ∈ segments)
    (isVisible : rules.IsVisible text)
    (noneHere : ¬Accepts rules segments (text :: texts))
    (isRight : verdict.IsRight rules (.spread :: segments) texts) :
    verdict.IsRight rules (.spread :: segments) (text :: texts) := by
  cases verdict with
  | accepted =>
      have hasNext := isRight.ne_nil (List.mem_cons_of_mem _ isMember)
      exact .take isVisible hasNext isRight
  | refused =>
      intro later skips accepts
      cases skips with
      | refl => exact not_accepts_spread_cons isMember noneHere (isRight _ (.refl _)) accepts
      | step _ skips => exact isRight later skips accepts
  | mismatch => exact not_accepts_spread_cons isMember noneHere isRight

/-- A verdict behind a segment that matches is the verdict for the segment too. -/
theorem single
    (here : SegmentMatches rules elements text)
    (isRight : verdict.IsRight rules segments texts) :
    verdict.IsRight rules (.single elements :: segments) (text :: texts) := by
  cases verdict with
  | accepted => exact .single here isRight
  | refused => exact fun later skips => not_accepts_of_skips here isRight skips
  | mismatch => exact fun accepts => isRight (accepts_single_iff.1 accepts).2

theorem eq_accepted_iff (isRight : verdict.IsRight rules segments texts) :
    verdict = .accepted ↔ Accepts rules segments texts := by
  cases verdict with
  | accepted => exact iff_of_true rfl isRight
  | refused => exact iff_of_false (by simp) (isRight _ (.refl _))
  | mismatch => exact iff_of_false (by simp) isRight

/-- Segments that accept the same paths have the same verdicts. -/
theorem congr
    (isRight : verdict.IsRight rules others texts)
    (same : ∀ texts, Accepts rules segments texts ↔ Accepts rules others texts) :
    verdict.IsRight rules segments texts := by
  cases verdict with
  | accepted => exact (same texts).2 isRight
  | refused => exact fun later skips accepts => isRight later skips ((same later).1 accepts)
  | mismatch => exact fun accepts => isRight ((same texts).1 accepts)

end Verdict.IsRight

/-- A pair of stars that takes segments until the attempt behind it does not fail by a mismatch
has taken all choices into account. -/
theorem isRight_spread
    {rules : Rules}
    {segments : List Segment}
    {elements : List Element}
    {attempt : Text → Verdict}
    (isPathname : rules.pathname = true)
    (isMember : .single elements ∈ segments)
    (isRight : ∀ text,
      (attempt text).IsRight rules segments (Text.splitAt Path.isSlash text))
    (text : Text) :
    (spread rules.period attempt text (laterSegments text)).IsRight rules (.spread :: segments)
      (Text.splitAt Path.isSlash text) := by
  induction later_eq : laterSegments text generalizing text with
  | nil =>
      rw [Rules.laterSegments_eq_beyond isPathname] at later_eq
      split at later_eq
      · rename_i isEnd
        have here := isRight text
        have split_eq := Rules.splitAt_eq_segment_cons isPathname text
        simp only [isEnd] at split_eq
        unfold spread
        split
        · rename_i failed
          rw [failed, split_eq] at here
          rw [split_eq]
          exact .spread_last isMember here
        · rename_i notFailed
          exact here.spread isMember notFailed
      · cases later_eq
  | cons next later ih =>
      rw [Rules.laterSegments_eq_beyond isPathname] at later_eq
      split at later_eq
      · cases later_eq
      · rename_i slash rest isBeyond
        obtain ⟨rfl, rfl⟩ := List.cons.inj later_eq
        have here := isRight text
        have split_eq := Rules.splitAt_eq_segment_cons isPathname text
        simp only [isBeyond] at split_eq
        unfold spread
        split
        · rename_i failed
          rw [failed, split_eq] at here
          rw [split_eq]
          have visible_iff := rules.isVisible_segment_iff text
          split
          · rename_i isHidden
            exact .spread_hidden isMember (by simp [visible_iff, isHidden]) here
          · rename_i notHidden
            exact .spread_cons isMember (by simpa [visible_iff] using notHidden) here (ih rest rfl)
        · rename_i notFailed
          exact here.spread isMember notFailed

/-! ## All segments -/

namespace Rules

theorem readSegments_of_starts
    {rules : Rules}
    {pattern : Text}
    (notSpread : startsWithSpread pattern = false) :
    rules.readSegments pattern =
      .single (rules.read pattern).1 ::
        match (rules.read pattern).2 with
        | [] => []
        | _ :: rest => rules.readSegments rest := by
  rw [readSegments.eq_def]
  split
  · simp [startsWithSpread] at notSpread
  · congr 1
    split <;> simp_all

theorem startsWithSpread_eq_false
    {pattern : Text}
    (notSpread : ∀ rest, pattern = '*' :: '*' :: '/' :: rest → False) :
    startsWithSpread pattern = false := by
  unfold startsWithSpread
  split
  · rename_i rest
    exact (notSpread rest rfl).elim
  · rfl

theorem startsWithSpread_dropSpreads (pattern : Text) :
    startsWithSpread (dropSpreads pattern) = false := by
  fun_induction dropSpreads pattern with
  | case1 rest ih => exact ih
  | case2 pattern notSpread => exact startsWithSpread_eq_false notSpread

/-- The last segment of a pattern is no pair of stars. -/
theorem exists_single_mem_readSegments (rules : Rules) (pattern : Text) :
    ∃ elements, .single elements ∈ rules.readSegments pattern := by
  fun_induction readSegments rules pattern with
  | case1 rest ih =>
      obtain ⟨elements, isMember⟩ := ih
      exact ⟨elements, List.mem_cons_of_mem _ isMember⟩
  | case2 pattern => exact ⟨(rules.read pattern).1, List.mem_cons_self⟩

theorem dropSpreads_of_starts
    {pattern : Text}
    (notSpread : startsWithSpread pattern = false) :
    dropSpreads pattern = pattern := by
  unfold dropSpreads
  split
  · simp [startsWithSpread] at notSpread
  · rfl

/-- All pairs of stars at the start of a pattern are as good as one. -/
theorem accepts_readSegments_of_starts
    {rules : Rules}
    {pattern : Text}
    {texts : List Text}
    (isSpread : startsWithSpread pattern = true) :
    Accepts rules (rules.readSegments pattern) texts ↔
      Accepts rules (.spread :: rules.readSegments (dropSpreads pattern)) texts := by
  fun_induction dropSpreads pattern generalizing texts with
  | case1 rest ih =>
      rw [readSegments]
      by_cases goesOn : startsWithSpread rest = true
      · obtain ⟨elements, isMember⟩ := rules.exists_single_mem_readSegments rest
        obtain ⟨others, isOther⟩ := rules.exists_single_mem_readSegments (dropSpreads rest)
        rw [← accepts_spread_spread_iff isOther, accepts_spread_iff isMember,
          accepts_spread_iff (List.mem_cons_of_mem _ isOther)]
        simp only [ih goesOn]
      · rw [dropSpreads_of_starts (by simpa using goesOn)]
  | case2 pattern notSpread => simp [startsWithSpread_eq_false notSpread] at isSpread

/-- Matches one segment, and goes on behind it in the given way. -/
def matchThen
    (rules : Rules)
    (next : (pattern text : Text) → Verdict)
    (pattern text : Text) :
    Verdict :=
  match rules.matchSegment pattern text with
  | none => .mismatch
  | some (rest, left) =>
      match rest, rules.beyond left with
      | [], [] => .accepted
      | _ :: rest, _ :: left => next rest left
      | _, _ => .mismatch

theorem matchSegments_eq_matchThen
    {rules : Rules}
    (isPathname : rules.pathname = true)
    (pattern text : Text) :
    rules.matchSegments pattern text =
      if startsWithSpread pattern then
        spread rules.period (rules.matchThen rules.matchSegments (dropSpreads pattern)) text
          (laterSegments text)
      else rules.matchThen rules.matchSegments (dropSpreads pattern) text := by
  have inSegment_eq : rules.inSegment = fun c => c != '/' := by
    funext c
    simp [inSegment, isPathname, bne]
  unfold matchSegments
  extract_lets attempt
  have attempt_eq : attempt = rules.matchThen rules.matchSegments (dropSpreads pattern) := by
    funext text
    simp only [attempt, matchThen, beyond, inSegment_eq]
    split
    · rename_i noMatch
      rw [noMatch]
    · rename_i rest left isMatch
      simp only [isMatch]
      split
      · simp [*]
      · simp [*]
      · rename_i notDone notNext
        split
        · exact (notDone ‹_› rfl ‹_› HEq.rfl).elim
        · exact (notNext _ _ _ _ ‹_› rfl ‹_› HEq.rfl).elim
        · rfl
  rw [attempt_eq]

/-- Matching one segment is right about all segments if going on behind it is. -/
theorem matchThen_isRight
    {rules : Rules}
    {next : (pattern text : Text) → Verdict}
    {pattern : Text}
    (isPathname : rules.pathname = true)
    (notSpread : startsWithSpread pattern = false)
    (isRight : ∀ slash rest text, (rules.read pattern).2 = slash :: rest →
      (next rest text).IsRight rules (rules.readSegments rest)
        (Text.splitAt Path.isSlash text))
    (text : Text) :
    (rules.matchThen next pattern text).IsRight rules (rules.readSegments pattern)
      (Text.splitAt Path.isSlash text) := by
  rw [readSegments_of_starts notSpread, splitAt_eq_segment_cons isPathname text]
  unfold matchThen
  cases matched : rules.matchSegment pattern text with
  | none =>
      intro accepts
      exact not_segmentMatches_of_matchSegment matched (accepts_single_iff.1 accepts).1
  | some found =>
      obtain ⟨rest, left⟩ := found
      obtain ⟨rest_eq, left_eq, here⟩ := segmentMatches_of_matchSegment matched
      simp only [← rest_eq, left_eq]
      cases rest with
      | nil =>
          cases isBeyond : rules.beyond text with
          | nil => exact .single here .nil
          | cons slash later =>
              intro accepts
              have accepts := (accepts_single_iff.1 accepts).2
              simp only [splitAt_eq_segment_cons isPathname later] at accepts
              cases accepts
      | cons slash rest =>
          cases isBeyond : rules.beyond text with
          | nil =>
              intro accepts
              obtain ⟨elements, isMember⟩ := rules.exists_single_mem_readSegments rest
              exact (accepts_single_iff.1 accepts).2.ne_nil isMember rfl
          | cons slash later =>
              exact (isRight _ rest later rest_eq.symm).single here

/-- The matcher is right about what the segments of a pattern accept. -/
theorem matchSegments_isRight
    (rules : Rules)
    (isPathname : rules.pathname = true)
    (pattern text : Text) :
    (rules.matchSegments pattern text).IsRight rules (rules.readSegments pattern)
      (Text.splitAt Path.isSlash text) := by
  induction length_eq : pattern.length using Nat.strongRecOn generalizing pattern text with
  | ind length ih =>
      subst length_eq
      have attempt_isRight : ∀ text,
          (rules.matchThen rules.matchSegments (dropSpreads pattern) text).IsRight rules
            (rules.readSegments (dropSpreads pattern)) (Text.splitAt Path.isSlash text) := by
        refine matchThen_isRight isPathname (startsWithSpread_dropSpreads pattern) ?_
        intro slash rest text isRest
        refine ih rest.length ?_ rest text rfl
        have readBound := rules.read_length (dropSpreads pattern)
        have dropBound := dropSpreads_length pattern
        rw [isRest, List.length_cons] at readBound
        omega
      rw [matchSegments_eq_matchThen isPathname]
      split
      · rename_i isSpread
        obtain ⟨elements, isMember⟩ := rules.exists_single_mem_readSegments (dropSpreads pattern)
        exact (isRight_spread isPathname isMember attempt_isRight text).congr
          fun _ => accepts_readSegments_of_starts isSpread
      · rename_i notSpread
        have isRight := attempt_isRight text
        rwa [dropSpreads_of_starts (by simpa using notSpread)] at isRight ⊢

end Rules

/-- Under the option for path names a pattern matches a path exactly if some distribution of the
path's segments over the segments of the pattern is allowed. -/
theorem isMatch_iff_accepts
    {flags : GlobFlags}
    (isPathname : flags.has .pathname = true)
    (pattern path : Text) :
    isMatch flags pattern path = true ↔
      Accepts (Rules.ofFlags flags) ((Rules.ofFlags flags).readSegments pattern)
        (Text.splitAt Path.isSlash path) := by
  have isRight := (Rules.ofFlags flags).matchSegments_isRight isPathname pattern path
  have isSegmentwise : (Rules.ofFlags flags).pathname = true := isPathname
  simp only [isMatch, isSegmentwise, if_true, beq_iff_eq]
  cases verdict : (Rules.ofFlags flags).matchSegments pattern path with
  | accepted =>
      rw [verdict] at isRight
      exact iff_of_true rfl isRight
  | refused =>
      rw [verdict] at isRight
      exact iff_of_false (by simp) (isRight _ (.refl _))
  | mismatch =>
      rw [verdict] at isRight
      exact iff_of_false (by simp) isRight

/-- Two pairs of stars around a hidden segment. -/
theorem accepts_hidden_between_spreads :
    (⟨2⟩ : GlobFlags).has .pathname = true ∧
      Accepts (Rules.ofFlags ⟨2⟩) ((Rules.ofFlags ⟨2⟩).readSegments "**/a/**/.b/**/?".toList)
        (Text.splitAt Path.isSlash "x/a/a/y/.b/z/c".toList) :=
  ⟨by decide, (isMatch_iff_accepts (by decide) _ _).1 (by decide +kernel)⟩

end Glob
end FilePaths
