import FilePaths.Proofs.Braces.Boundaries
import FilePaths.Proofs.Loop
import Mathlib.Logic.Relation

/-!
# Finding and cutting a group, turn by turn

The first group of a pattern is found by one loop and cut at its commas by another.  Each of them
counts open braces in a word of its own, and each skips on its own what a backslash escapes.  The
second one steps where the first one has stepped, whatever the words hold.  So it does not pass the
brace that the first one has found, and all the places where it cuts stand between characters.
-/

namespace FilePaths
namespace Braces

open Text.Utf8 (encode decodeLossy decodeLossy_encode IsCut isCut_of_getElem?)

/-! ## The loops -/

/-- How a byte changes the number of open braces, as far as a word can hold it. -/
def countAfter (depth : Int32) (byte : UInt8) : Int32 :=
  if byte = openingByte then depth + 1
  else if byte = closingByte then depth - 1
  else depth

/-- How many bytes are stepped over at a byte: a backslash that escapes takes the next one along. -/
def stride (escape : Bool) (byte : UInt8) : Nat :=
  if byte = backslashByte ∧ escape then 2 else 1

/-- Where the search for a group stands. -/
structure Search where
  /-- The position of the brace that opens the group. -/
  opening? : Option Nat := none
  /-- How many braces are open. -/
  depth : Int32 := 0
  /-- The byte that is looked at next. -/
  position : Nat
  deriving DecidableEq, Repr

namespace Search

/-- In front of the first opening brace, if there is one. -/
def first (bytes : List UInt8) : Turn Search (Option Group) :=
  match bytes.findIdx? (· == openingByte) with
  | none => .ends none
  | some opening => .goesOn { position := opening }

/-- Behind a byte that has been counted. -/
def past (escape : Bool) (search : Search) (byte : UInt8) : Search where
  opening? :=
    if byte = openingByte ∧ search.depth = 0 then some search.position else search.opening?
  depth := countAfter search.depth byte
  position := search.position + stride escape byte

end Search

/-- Searches the brace that brings the count back to zero. -/
def finder (escape : Bool) (bytes : List UInt8) : Loop Search (Option Group) :=
  fun search =>
    if bytes.length ≤ search.position then .ends none
    else
      .look bytes search.position fun byte =>
        let next := search.past escape byte
        if next.depth = 0 then .ends (next.opening?.map (⟨·, search.position⟩)) else .goesOn next

/-- Where the cutting of a group stands. -/
structure Scan where
  /-- The alternatives that have been cut. -/
  done : List Slice := []
  /-- Where the current alternative starts. -/
  start : Nat
  /-- How many braces are open in the current alternative. -/
  depth : Int32 := 0
  /-- The byte that is looked at next. -/
  position : Nat
  deriving DecidableEq, Repr

namespace Scan

/-- At the first byte behind the opening brace. -/
def first (group : Group) : Scan where
  start := group.opening + 1
  position := group.opening + 1

/-- The alternatives, if the current one stops at the position. -/
def cut (scan : Scan) (position : Nat) : List Slice :=
  scan.done ++ [⟨scan.start, position⟩]

/-- In front of the alternative behind a comma. -/
def behindComma (scan : Scan) : Scan where
  done := scan.cut scan.position
  start := scan.position + 1
  position := scan.position + 1

/-- At a later position of the same alternative, with a byte counted. -/
def past (scan : Scan) (byte : UInt8) (position : Nat) : Scan :=
  { scan with depth := countAfter scan.depth byte, position }

end Scan

/-- Cuts a group at its commas, with one byte a turn, or two if the second one is escaped. -/
def splitter (escape : Bool) (bytes : List UInt8) (closing : Nat) : Loop Scan (List Slice) :=
  fun scan =>
    if closing ≤ scan.position then .ends (scan.cut scan.position)
    else
      .look bytes scan.position fun byte =>
        if byte = commaByte ∧ scan.depth = 0 then .goesOn scan.behindComma
        else if byte = backslashByte ∧ escape then
          if scan.position + 1 = closing then .ends (scan.cut (scan.position + 1))
          else .goesOn (scan.past byte (scan.position + 2))
        else .goesOn (scan.past byte (scan.position + 1))

/-- What the loops push for a pattern: nothing if they find no group, or else the pattern with each
slice of the group in the place of the group. -/
inductive Pushes (flags : GlobFlags) (pattern : Text) : List Text → Prop
  | nothing
      (isNone : (finder (!flags.has .noescape) (encode pattern)).EndsWith
        (Search.first (encode pattern)) none) :
      Pushes flags pattern []
  | slices
      {group : Group}
      {cuts : List Slice}
      (isFound : (finder (!flags.has .noescape) (encode pattern)).EndsWith
        (Search.first (encode pattern)) (some group))
      (areCut : (splitter (!flags.has .noescape) (encode pattern) group.closing).EndsWith
        (.goesOn (.first group)) cuts) :
      Pushes flags pattern
        (cuts.map fun slice => decodeLossy (replaceGroup (encode pattern) group slice))

/-! ## Steps -/

section Steps

variable {escape : Bool} {bytes : List UInt8} {position next target : Nat}

theorem stride_pos (escape : Bool) (byte : UInt8) : 0 < stride escape byte := by
  unfold stride
  split <;> decide

theorem stride_backslash (isEscape : escape = true) : stride escape backslashByte = 2 := by
  rw [stride, if_pos ⟨rfl, isEscape⟩]

theorem stride_of_notEscape
    {byte : UInt8}
    (notEscape : ¬(byte = backslashByte ∧ escape = true)) :
    stride escape byte = 1 :=
  if_neg notEscape

/-- One step over the bytes, whatever is counted. -/
def Steps (escape : Bool) (bytes : List UInt8) (position next : Nat) : Prop :=
  ∃ byte, bytes[position]? = some byte ∧ next = position + stride escape byte

/-- Some steps lead from one position to another. -/
def Reaches (escape : Bool) (bytes : List UInt8) : Nat → Nat → Prop :=
  Relation.ReflTransGen (Steps escape bytes)

theorem Steps.lt (isStep : Steps escape bytes position next) : position < next := by
  obtain ⟨byte, -, rfl⟩ := isStep
  exact Nat.lt_add_of_pos_right (stride_pos escape byte)

theorem Reaches.le (reaches : Reaches escape bytes position target) : position ≤ target := by
  induction reaches with
  | refl => exact Nat.le_refl _
  | tail _ isStep ih => exact Nat.le_trans ih (Nat.le_of_lt isStep.lt)

/-- The first step to a later position is over a byte that stands there. -/
theorem Reaches.exists_byte
    (reaches : Reaches escape bytes position target)
    (isBefore : position < target) :
    ∃ byte, bytes[position]? = some byte ∧
      Reaches escape bytes (position + stride escape byte) target := by
  rcases Relation.ReflTransGen.cases_head reaches with rfl | ⟨_, ⟨byte, isHere, rfl⟩, behind⟩
  · exact absurd isBefore (Nat.lt_irrefl _)
  · exact ⟨byte, isHere, behind⟩

theorem Reaches.behind
    {byte : UInt8}
    (reaches : Reaches escape bytes position target)
    (isBefore : position < target)
    (isHere : bytes[position]? = some byte) :
    Reaches escape bytes (position + stride escape byte) target := by
  obtain ⟨_, isHere', behind⟩ := reaches.exists_byte isBefore
  cases isHere.symm.trans isHere'
  exact behind

end Steps

/-! ## Finding a group -/

/-- The steps from behind an opening brace lead to the other brace of the group. -/
structure Group.IsReached (escape : Bool) (bytes : List UInt8) (group : Group) : Prop where
  isOpening : bytes[group.opening]? = some openingByte
  isBrace : bytes[group.closing]? = some openingByte ∨ bytes[group.closing]? = some closingByte
  reaches : Reaches escape bytes (group.opening + 1) group.closing

namespace Group.IsReached

variable {escape : Bool} {bytes : List UInt8} {group : Group} {text : Text}

theorem closing_lt_length (isReached : group.IsReached escape bytes) :
    group.closing < bytes.length := by
  rcases isReached.isBrace with isHere | isHere <;> exact (List.getElem?_eq_some_iff.1 isHere).1

theorem notBackslash (isReached : group.IsReached escape bytes) :
    bytes[group.closing]? ≠ some backslashByte := by
  rcases isReached.isBrace with isHere | isHere <;> rw [isHere] <;> decide

theorem isCut_closing (isReached : group.IsReached escape (encode text)) :
    IsCut text group.closing ∧ IsCut text (group.closing + 1) := by
  rcases isReached.isBrace with isHere | isHere <;> exact isCut_of_getElem? (by decide) isHere

end Group.IsReached

section Finding

variable {escape : Bool} {bytes : List UInt8} {opening : Nat} {search : Search} {byte : UInt8}

/-- A search that began at an opening brace has stepped to its position, and knows of the brace as
soon as any is counted. -/
structure IsSearching
    (escape : Bool)
    (bytes : List UInt8)
    (opening : Nat)
    (search : Search) : Prop where
  reaches : Reaches escape bytes opening search.position
  atOpening : search.depth = 0 → search.position = opening
  isOpen : search.depth ≠ 0 → search.opening? = some opening ∧ opening < search.position

namespace IsSearching

theorem first (escape : Bool) (bytes : List UInt8) (opening : Nat) :
    IsSearching escape bytes opening { position := opening } where
  reaches := .refl
  atOpening _ := rfl
  isOpen isOpen := absurd rfl isOpen

theorem past
    (isSearching : IsSearching escape bytes opening search)
    (isOpening : bytes[opening]? = some openingByte)
    (isHere : bytes[search.position]? = some byte) :
    (search.past escape byte).opening? = some opening ∧
      Reaches escape bytes opening (search.past escape byte).position ∧
      opening < (search.past escape byte).position := by
  have isStep : Steps escape bytes search.position (search.past escape byte).position :=
    ⟨byte, isHere, rfl⟩
  refine ⟨?_, isSearching.reaches.tail isStep,
    Nat.lt_of_le_of_lt isSearching.reaches.le isStep.lt⟩
  by_cases isFirst : search.depth = 0
  · have position_eq := isSearching.atOpening isFirst
    rw [position_eq, isOpening] at isHere
    rw [Search.past, if_pos ⟨(Option.some.inj isHere).symm, isFirst⟩, position_eq]
  · rw [Search.past, if_neg fun isFirst' => isFirst isFirst'.2]
    exact (isSearching.isOpen isFirst).1

/-- Where the count comes back to zero, the group is reached. -/
theorem isReached
    (isSearching : IsSearching escape bytes opening search)
    (isOpening : bytes[opening]? = some openingByte)
    (isHere : bytes[search.position]? = some byte)
    (isZero : countAfter search.depth byte = 0) :
    Group.IsReached escape bytes ⟨opening, search.position⟩ := by
  have isLater : search.depth ≠ 0 := by
    intro isFirst
    rw [isSearching.atOpening isFirst, isOpening] at isHere
    cases Option.some.inj isHere
    rw [isFirst] at isZero
    exact absurd isZero (by decide)
  refine ⟨isOpening, ?_, ?_⟩
  · rw [isHere]
    by_contra notBrace
    have notOpening : byte ≠ openingByte := fun same => notBrace (.inl (congrArg some same))
    have notClosing : byte ≠ closingByte := fun same => notBrace (.inr (congrArg some same))
    rw [countAfter, if_neg notOpening, if_neg notClosing] at isZero
    exact isLater isZero
  · have behind := isSearching.reaches.behind (isSearching.isOpen isLater).2 isOpening
    rwa [stride_of_notEscape (by simp [openingByte, backslashByte])] at behind

/-- A turn of the search ends it with nothing or with a group that is reached, or it goes on further
behind the opening brace. -/
theorem leads
    (isOpening : bytes[opening]? = some openingByte)
    (isSearching : IsSearching escape bytes opening search) :
    Loop.Leads (IsSearching escape bytes opening)
      (InvImage (· < ·) fun search => bytes.length - search.position)
      (fun group? => ∀ group ∈ group?, group.IsReached escape bytes) search
      (finder escape bytes search) := by
  unfold finder
  split
  · exact .ends (fun _ isNone => nomatch isNone)
  · rename_i isWithin
    have isHere := List.getElem?_eq_getElem (Nat.not_le.1 isWithin)
    rw [Turn.look_of_getElem? isHere]
    obtain ⟨opening_eq, reaches, isBehind⟩ := isSearching.past isOpening isHere
    dsimp only
    split
    · rename_i isZero
      rw [opening_eq]
      apply Loop.Leads.ends
      rintro group isGroup
      cases Option.mem_some.1 isGroup
      exact isSearching.isReached isOpening isHere isZero
    · rename_i notZero
      refine .goesOn ⟨reaches, fun isZero => absurd isZero notZero, fun _ => ⟨opening_eq, isBehind⟩⟩
        (Nat.sub_lt_sub_left (Nat.not_le.1 isWithin) ?_)
      exact Nat.lt_add_of_pos_right (stride_pos _ _)

end IsSearching

/-- The search for a group ends, and a group that it finds is reached. -/
theorem exists_finder_endsWith (escape : Bool) (bytes : List UInt8) :
    ∃ found? : Option Group, (∀ group ∈ found?, group.IsReached escape bytes) ∧
      (finder escape bytes).EndsWith (Search.first bytes) found? := by
  unfold Search.first
  split
  · exact ⟨none, (fun _ isNone => nomatch isNone), .ends none⟩
  · rename_i opening isFirst
    have isOpening := (findIdx?_eq_some_iff_isFirstOpening.1 isFirst).isOpening
    exact Loop.exists_endsWith_of_leads (fun _ => IsSearching.leads isOpening)
      (InvImage.wf _ Nat.lt_wfRel.wf) (.first escape bytes opening)

theorem isReached_of_endsWith
    {group : Group}
    (isFound : (finder escape bytes).EndsWith (Search.first bytes) (some group)) :
    group.IsReached escape bytes := by
  obtain ⟨_, isReached, isEnd⟩ := exists_finder_endsWith escape bytes
  exact isReached group (isEnd.unique isFound)

end Finding

/-! ## Cutting a group -/

section Cutting

variable {escape : Bool} {pattern : Text} {group : Group} {scan : Scan}

/-- The cutting of a group steps towards its closing brace, and what it has cut are slices of the
group. -/
structure IsInStep (escape : Bool) (pattern : Text) (group : Group) (scan : Scan) : Prop where
  behindOpening : group.opening < scan.start
  inOrder : scan.start ≤ scan.position
  reaches : Reaches escape (encode pattern) scan.position group.closing
  startCut : IsCut pattern scan.start
  areWithin : ∀ slice ∈ scan.done, slice.IsWithin pattern group

namespace IsInStep

theorem first (isReached : group.IsReached escape (encode pattern)) :
    IsInStep escape pattern group (.first group) where
  behindOpening := Nat.lt_succ_self _
  inOrder := Nat.le_refl _
  reaches := isReached.reaches
  startCut := (isCut_of_getElem? (by decide) isReached.isOpening).2
  areWithin _ isNone := nomatch isNone

/-- The current alternative may stop wherever the cutting stands between characters. -/
theorem cut
    (inStep : IsInStep escape pattern group scan)
    (isCut : IsCut pattern scan.position) :
    ∀ slice ∈ scan.cut scan.position, slice.IsWithin pattern group := by
  intro slice isSlice
  rcases List.mem_append.1 isSlice with isDone | isLast
  · exact inStep.areWithin slice isDone
  · rw [List.mem_singleton.1 isLast]
    exact ⟨inStep.startCut, isCut, inStep.behindOpening, inStep.inOrder, inStep.reaches.le⟩

theorem behindComma
    (inStep : IsInStep escape pattern group scan)
    (isBefore : scan.position < group.closing)
    (isHere : (encode pattern)[scan.position]? = some commaByte) :
    IsInStep escape pattern group scan.behindComma := by
  obtain ⟨isCut, isCutBehind⟩ := isCut_of_getElem? (by decide) isHere
  refine ⟨?_, Nat.le_refl _, ?_, isCutBehind, inStep.cut isCut⟩
  · exact Nat.lt_succ_of_lt (Nat.lt_of_lt_of_le inStep.behindOpening inStep.inOrder)
  · have behind := inStep.reaches.behind isBefore isHere
    rwa [stride_of_notEscape (by simp [commaByte, backslashByte])] at behind

theorem past
    {byte : UInt8}
    (inStep : IsInStep escape pattern group scan)
    (isBefore : scan.position < group.closing)
    (isHere : (encode pattern)[scan.position]? = some byte) :
    IsInStep escape pattern group (scan.past byte (scan.position + stride escape byte)) where
  behindOpening := inStep.behindOpening
  inOrder := Nat.le_add_right_of_le inStep.inOrder
  reaches := inStep.reaches.behind isBefore isHere
  startCut := inStep.startCut
  areWithin := inStep.areWithin

/-- The byte behind a backslash that escapes is not the closing brace. -/
theorem skipsInside
    (inStep : IsInStep escape pattern group scan)
    (isBefore : scan.position < group.closing)
    (isEscape : escape = true)
    (isHere : (encode pattern)[scan.position]? = some backslashByte) :
    scan.position + 1 < group.closing := by
  have behind := (inStep.reaches.behind isBefore isHere).le
  rwa [stride_backslash isEscape] at behind

theorem splitter_eq_ends (atClosing : scan.position = group.closing) :
    splitter escape (encode pattern) group.closing scan = .ends (scan.cut scan.position) :=
  if_pos (Nat.le_of_eq atClosing.symm)

theorem splitter_eq_behindComma
    (isBefore : scan.position < group.closing)
    (isHere : (encode pattern)[scan.position]? = some commaByte)
    (isOutside : scan.depth = 0) :
    splitter escape (encode pattern) group.closing scan = .goesOn scan.behindComma := by
  rw [splitter, if_neg (Nat.not_le.2 isBefore), Turn.look_of_getElem? isHere]
  exact if_pos ⟨rfl, isOutside⟩

/-- In step, the cutting never comes to an end behind a backslash. -/
theorem splitter_eq_past
    {byte : UInt8}
    (inStep : IsInStep escape pattern group scan)
    (isBefore : scan.position < group.closing)
    (isHere : (encode pattern)[scan.position]? = some byte)
    (notComma : ¬(byte = commaByte ∧ scan.depth = 0)) :
    splitter escape (encode pattern) group.closing scan =
      .goesOn (scan.past byte (scan.position + stride escape byte)) := by
  rw [splitter, if_neg (Nat.not_le.2 isBefore), Turn.look_of_getElem? isHere, if_neg notComma]
  split
  · rename_i isEscape
    obtain ⟨rfl, isEscape⟩ := isEscape
    rw [if_neg (Nat.ne_of_lt (inStep.skipsInside isBefore isEscape isHere)),
      stride_backslash isEscape]
  · rename_i notEscape
    rw [stride_of_notEscape notEscape]

/-- A turn of the cutting ends it with slices of the group, or it goes on further in step. -/
theorem leads
    (isReached : group.IsReached escape (encode pattern))
    (inStep : IsInStep escape pattern group scan) :
    Loop.Leads (IsInStep escape pattern group)
      (InvImage (· < ·) fun scan => group.closing - scan.position)
      (fun cuts => ∀ slice ∈ cuts, slice.IsWithin pattern group) scan
      (splitter escape (encode pattern) group.closing scan) := by
  rcases Nat.lt_or_eq_of_le inStep.reaches.le with isBefore | atClosing
  · obtain ⟨byte, isHere, -⟩ := inStep.reaches.exists_byte isBefore
    by_cases isComma : byte = commaByte ∧ scan.depth = 0
    · obtain ⟨rfl, isOutside⟩ := isComma
      rw [splitter_eq_behindComma isBefore isHere isOutside]
      exact .goesOn (inStep.behindComma isBefore isHere)
        (Nat.sub_lt_sub_left isBefore (Nat.lt_succ_self _))
    · rw [inStep.splitter_eq_past isBefore isHere isComma]
      exact .goesOn (inStep.past isBefore isHere)
        (Nat.sub_lt_sub_left isBefore (Nat.lt_add_of_pos_right (stride_pos _ _)))
  · rw [splitter_eq_ends atClosing]
    refine .ends (inStep.cut ?_)
    rw [atClosing]
    exact isReached.isCut_closing.1

end IsInStep

/-- The cutting of a group ends, and all cuts are between characters. -/
theorem exists_splitter_endsWith (isReached : group.IsReached escape (encode pattern)) :
    ∃ cuts, CutsBetween pattern group cuts ∧
      (splitter escape (encode pattern) group.closing).EndsWith (.goesOn (.first group)) cuts := by
  obtain ⟨cuts, areWithin, isEnd⟩ := Loop.exists_endsWith_of_leads
    (fun _ => IsInStep.leads isReached) (InvImage.wf _ Nat.lt_wfRel.wf) (IsInStep.first isReached)
  exact ⟨cuts, ⟨(isCut_of_getElem? (by decide) isReached.isOpening).1, isReached.isCut_closing.2,
    areWithin⟩, isEnd⟩

/-- The cutting stands inside of the group, and a byte that is skipped is not the closing brace. -/
structure Scan.IsInside
    (escape : Bool)
    (bytes : List UInt8)
    (group : Group)
    (scan : Scan) : Prop where
  behindOpening : group.opening < scan.start
  inOrder : scan.start ≤ scan.position
  notBehindClosing : scan.position ≤ group.closing
  skipsInside : escape = true → bytes[scan.position]? = some backslashByte →
    scan.position + 1 < group.closing

theorem isInside_of_meets
    (isReached : group.IsReached escape (encode pattern))
    (meets : (splitter escape (encode pattern) group.closing).Meets (.goesOn (.first group)) scan) :
    scan.IsInside escape (encode pattern) group := by
  have inStep := Loop.forall_meets_of_leads (fun _ => IsInStep.leads isReached)
    (IsInStep.first isReached) meets
  refine ⟨inStep.behindOpening, inStep.inOrder, inStep.reaches.le, fun isEscape isHere => ?_⟩
  refine inStep.skipsInside (Nat.lt_of_le_of_ne inStep.reaches.le ?_) isEscape isHere
  intro atClosing
  rw [atClosing] at isHere
  exact isReached.notBackslash isHere

end Cutting

/-! ## Pushing -/

section Pushing

variable {flags : GlobFlags} {pattern : Text} {pushed : List Text}

theorem exists_pushes (flags : GlobFlags) (pattern : Text) :
    ∃ pushed, Pushes flags pattern pushed := by
  obtain ⟨found?, isReached, isEnd⟩ :=
    exists_finder_endsWith (!flags.has .noescape) (encode pattern)
  cases found? with
  | none => exact ⟨_, .nothing isEnd⟩
  | some group =>
      obtain ⟨cuts, -, areCut⟩ := exists_splitter_endsWith (isReached group rfl)
      exact ⟨_, .slices isEnd areCut⟩

/-- What is pushed is shorter than the pattern by the two braces at least. -/
theorem Pushes.length_of_mem
    {expanded : Text}
    (pushes : Pushes flags pattern pushed)
    (isPushed : expanded ∈ pushed) :
    (encode expanded).length + 2 ≤ (encode pattern).length := by
  cases pushes with
  | nothing => cases isPushed
  | @slices group cuts isFound areCut =>
      have isReached := isReached_of_endsWith isFound
      obtain ⟨cuts', cutsBetween, areCut'⟩ := exists_splitter_endsWith isReached
      cases areCut.unique areCut'
      obtain ⟨slice, isSlice, rfl⟩ := List.mem_map.1 isPushed
      obtain ⟨-, -, behindOpening, inOrder, beforeClosing⟩ := cutsBetween.areWithin slice isSlice
      have isShorter :=
        length_replaceGroup isReached.closing_lt_length behindOpening inOrder beforeClosing
      obtain ⟨result, result_eq, -⟩ := cutsBetween.exists_replaceGroup isSlice
      rwa [result_eq, decodeLossy_encode, ← result_eq]

/-- Going on with what is pushed comes to an end. -/
theorem pushes_wellFounded (flags : GlobFlags) :
    WellFounded fun expanded pattern =>
      ∃ pushed, Pushes flags pattern pushed ∧ expanded ∈ pushed := by
  have isShorter : Subrelation
      (fun expanded pattern => ∃ pushed, Pushes flags pattern pushed ∧ expanded ∈ pushed)
      (InvImage (· < ·) fun text : Text => (encode text).length) := by
    rintro expanded pattern ⟨pushed, pushes, isPushed⟩
    have := pushes.length_of_mem isPushed
    simp only [InvImage]
    omega
  exact isShorter.wf (InvImage.wf _ Nat.lt_wfRel.wf)

end Pushing

end Braces
end FilePaths
