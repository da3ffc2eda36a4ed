import FilePaths.Proofs.Braces.Scanning

/-!
# Open braces in a word

Both loops count open braces in a signed word of 32 bits.  The count stays in the word, and does not
fall below zero, as long as fewer than 2³¹ braces are open at once.  Up to 2³² open braces the words
cannot be told from numbers without a bound by what is compared with zero, so that the loops find
the group that expansion takes and cut it into the same slices.
-/

namespace FilePaths
namespace Braces

open Text.Utf8 (encode)

/-! ## Counting in a word -/

section Words

variable {depth : Nat} {byte : UInt8}

theorem zero_le_ofNat (isSmall : depth < 2 ^ 31) : 0 ≤ Int32.ofNat depth := by
  rw [Int32.le_iff_toInt_le, Int32.toInt_ofNat_of_lt isSmall]
  exact Int.natCast_nonneg depth

theorem ofNat_lt_maxValue_iff (isSmall : depth < 2 ^ 31) :
    Int32.ofNat depth < Int32.maxValue ↔ depth + 1 < 2 ^ 31 := by
  rw [Int32.lt_iff_toInt_lt, Int32.toInt_ofNat_of_lt isSmall, Int32.toInt_maxValue]
  omega

theorem ofNat_eq_zero_iff (isWord : depth < 2 ^ 32) : Int32.ofNat depth = 0 ↔ depth = 0 := by
  constructor
  · intro isZero
    have isZeroInt := congrArg Int32.toInt isZero
    rw [Int32.toInt_ofNat', Int32.toInt_zero] at isZeroInt
    have isMultiple := Int.dvd_of_bmod_eq_zero isZeroInt
    simp only [Int32.size] at isMultiple
    omega
  · rintro rfl
    rfl

/-- How a byte changes the number of open braces, where none is closed that is not open. -/
def depthBehind (depth : Nat) (byte : UInt8) : Nat :=
  if byte = openingByte then depth + 1
  else if byte = closingByte then depth - 1
  else depth

theorem countAfter_ofNat (isOpen : byte = closingByte → depth ≠ 0) :
    countAfter (.ofNat depth) byte = .ofNat (depthBehind depth byte) := by
  unfold countAfter depthBehind
  split
  · exact (Int32.ofNat_add depth 1).symm
  · split
    · rename_i isClosing
      obtain ⟨before, rfl⟩ := Nat.exists_eq_succ_of_ne_zero (isOpen isClosing)
      rw [Nat.succ_eq_add_one, Int32.ofNat_add]
      exact Int32.add_sub_cancel _ _
    · rfl

theorem depthAfter_natCast (isOpen : byte = closingByte → depth ≠ 0) :
    depthAfter depth byte = depthBehind depth byte := by
  unfold depthAfter depthBehind
  split
  · rfl
  · split
    · rename_i isClosing
      have := isOpen isClosing
      omega
    · rfl

theorem depthBehind_succ (isOpen : byte = closingByte → depth ≠ 0) :
    depthBehind (depth + 1) byte = depthBehind depth byte + 1 := by
  unfold depthBehind
  split
  · rfl
  · split
    · rename_i isClosing
      have := isOpen isClosing
      omega
    · rfl

/-- Behind a byte no brace is open if it closes the last one, or if none was open before. -/
theorem depthBehind_eq_zero_iff
    (isOpening : depth = 0 → byte = openingByte) :
    depthBehind depth byte = 0 ↔ byte = closingByte ∧ depth = 1 := by
  unfold depthBehind
  split
  · rename_i isHere
    simp [isHere, openingByte, closingByte]
  · rename_i notOpening
    have isPositive : depth ≠ 0 := fun isZero => notOpening (isOpening isZero)
    split
    · rename_i isClosing
      rw [and_iff_right isClosing]
      omega
    · rename_i notClosing
      simp [notClosing, isPositive]

end Words

/-! ## How deep braces are nested -/

/-- The greatest number of braces that are open at once, up to the brace that closes the last of
those that are open in the beginning. -/
def nestingFrom (escape : Bool) : (depth : Nat) → List UInt8 → Nat
  | depth, [] => depth
  | depth, byte :: rest =>
      if byte = openingByte then nestingFrom escape (depth + 1) rest
      else if byte = closingByte then
        if depth = 1 then depth else max depth (nestingFrom escape (depth - 1) rest)
      else if byte = backslashByte ∧ escape then
        match rest with
        | [] => depth
        | _ :: rest => nestingFrom escape depth rest
      else nestingFrom escape depth rest

/-- The greatest number of braces that are open at once in the first group of a pattern. -/
def nesting (escape : Bool) (bytes : List UInt8) : Nat :=
  match bytes.findIdx? (· == openingByte) with
  | none => 0
  | some opening => nestingFrom escape 1 (bytes.drop (opening + 1))

section Steps

variable
  {escape : Bool}
  {bytes : List UInt8}
  {position depth start : Nat}
  {byte : UInt8}

theorem le_nestingFrom (escape : Bool) (depth : Nat) (bytes : List UInt8) :
    depth ≤ nestingFrom escape depth bytes := by
  fun_induction nestingFrom escape depth bytes <;> omega

/-- Each byte that opens a brace counts once, and no other byte counts. -/
theorem nestingFrom_le (escape : Bool) (depth : Nat) (bytes : List UInt8) :
    nestingFrom escape depth bytes ≤ depth + bytes.count openingByte := by
  have count_le : ∀ byte rest, List.count openingByte rest ≤ (byte :: rest).count openingByte :=
    fun _ _ => List.count_le_count_cons
  fun_induction nestingFrom escape depth bytes with
  | case1 | case3 | case5 => exact Nat.le_add_right _ _
  | case2 depth rest ih =>
      rw [List.count_cons_self]
      omega
  | case4 depth rest notOpening notOutermost ih =>
      have := count_le closingByte rest
      omega
  | case6 depth byte notOpening notClosing isEscape hidden rest ih =>
      have := count_le hidden rest
      have := count_le byte (hidden :: rest)
      omega
  | case7 depth byte rest notOpening notClosing notEscape ih =>
      have := count_le byte rest
      omega

theorem stride_of_isBrace (isBrace : byte = openingByte ∨ byte = closingByte) :
    stride escape byte = 1 := by
  apply stride_of_notEscape
  rcases isBrace with rfl | rfl <;> simp [openingByte, closingByte, backslashByte]

theorem nestingFrom_outermost (escape : Bool) (rest : List UInt8) :
    nestingFrom escape 1 (closingByte :: rest) = 1 := by
  rw [nestingFrom.eq_def]
  simp [closingByte, openingByte]

theorem drop_behind_hidden (bytes : List UInt8) (position : Nat) :
    bytes.drop (position + 2) = (bytes.drop (position + 1)).tail :=
  List.tail_drop.symm

/-- The search for the closing brace goes on behind a byte that is not this brace. -/
theorem closing?_drop
    (isHere : bytes[position]? = some byte)
    (notLast : ¬(byte = closingByte ∧ depth = 1)) :
    closing? escape depth position (bytes.drop position) =
      closing? escape (depthBehind depth byte) (position + stride escape byte)
        (bytes.drop (position + stride escape byte)) := by
  rw [drop_of_getElem? isHere, closing?.eq_def]
  unfold depthBehind
  dsimp only
  split
  · rename_i isOpening
    rw [stride_of_isBrace (.inl isOpening)]
  · split
    · rename_i isClosing
      rw [if_neg fun isLast => notLast ⟨isClosing, isLast⟩, stride_of_isBrace (.inr isClosing)]
    · split
      · rename_i isEscape
        rw [stride, if_pos isEscape, drop_behind_hidden]
        cases bytes.drop (position + 1) <;> rfl
      · rename_i notEscape
        rw [stride_of_notEscape notEscape]

/-- The greatest number of open braces behind a byte that does not close the last one. -/
theorem nestingFrom_drop
    (isHere : bytes[position]? = some byte)
    (notLast : ¬(byte = closingByte ∧ depth = 1)) :
    nestingFrom escape depth (bytes.drop position) =
      max depth (nestingFrom escape (depthBehind depth byte)
        (bytes.drop (position + stride escape byte))) := by
  rw [drop_of_getElem? isHere, nestingFrom.eq_def]
  unfold depthBehind
  dsimp only
  split
  · rename_i isOpening
    have := le_nestingFrom escape (depth + 1) (bytes.drop (position + 1))
    rw [stride_of_isBrace (.inl isOpening), Nat.max_eq_right (by omega)]
  · split
    · rename_i isClosing
      rw [if_neg fun isLast => notLast ⟨isClosing, isLast⟩, stride_of_isBrace (.inr isClosing)]
    · rw [Nat.max_eq_right (le_nestingFrom _ _ _)]
      split
      · rename_i isEscape
        rw [stride, if_pos isEscape, drop_behind_hidden]
        cases bytes.drop (position + 1) <;> rfl
      · rename_i notEscape
        rw [stride_of_notEscape notEscape]

/-- The nesting is that of the bytes from the first opening brace on. -/
theorem nesting_eq
    (escape : Bool)
    {opening : Nat}
    (isFirst : bytes.findIdx? (· == openingByte) = some opening) :
    nesting escape bytes = nestingFrom escape 0 (bytes.drop opening) := by
  have isOpening := (findIdx?_eq_some_iff_isFirstOpening.1 isFirst).isOpening
  rw [nestingFrom_drop isOpening (by decide), stride_of_isBrace (.inl rfl), Nat.zero_max, nesting,
    isFirst]
  rfl

theorem nesting_le (escape : Bool) (bytes : List UInt8) :
    nesting escape bytes ≤ bytes.count openingByte := by
  cases isFirst : bytes.findIdx? (· == openingByte) with
  | none =>
      rw [nesting, isFirst]
      exact Nat.zero_le _
  | some opening =>
      rw [nesting_eq escape isFirst]
      have isBounded := nestingFrom_le escape 0 (bytes.drop opening)
      rw [Nat.zero_add] at isBounded
      exact Nat.le_trans isBounded ((List.drop_sublist _ _).count_le _)

/-- The cutting goes on behind a byte that is not a comma between alternatives. -/
theorem slices_drop
    {closing : Nat}
    (isHere : bytes[position]? = some byte)
    (isBefore : position + stride escape byte ≤ closing)
    (isWithin : closing < bytes.length)
    (notComma : ¬(byte = commaByte ∧ depth = 0)) :
    slices escape closing start depth position (bytes.drop position) =
      slices escape closing start (depthAfter depth byte) (position + stride escape byte)
        (bytes.drop (position + stride escape byte)) := by
  have isBehind := stride_pos escape byte
  rw [drop_of_getElem? isHere, slices.eq_def]
  dsimp only
  have notComma' : ¬(byte = commaByte ∧ (depth : Int) = 0) := fun isComma =>
    notComma ⟨isComma.1, Int.natCast_eq_zero.1 isComma.2⟩
  rw [if_neg (by omega), if_neg notComma']
  split
  · rename_i isEscape
    rw [stride, if_pos isEscape] at isBefore ⊢
    have isHidden := List.getElem?_eq_getElem (show position + 1 < bytes.length by omega)
    rw [drop_of_getElem? isHidden]
    exact if_neg (by omega)
  · rename_i notEscape
    rw [stride_of_notEscape notEscape]

end Steps

/-! ## Counting while a group is searched -/

/-- A count of open braces is not negative, and to count the byte that is looked at next does not
lead out of the word. -/
structure StaysInWord (bytes : List UInt8) (depth : Int32) (position : Nat) : Prop where
  notNegative : 0 ≤ depth
  notFull : bytes[position]? = some openingByte → depth < Int32.maxValue

theorem staysInWord_ofNat
    {bytes : List UInt8}
    {depth position : Nat}
    (isSmall : depth < 2 ^ 31)
    (notFull : bytes[position]? = some openingByte → depth + 1 < 2 ^ 31) :
    StaysInWord bytes (.ofNat depth) position :=
  ⟨zero_le_ofNat isSmall, fun isOpening => (ofNat_lt_maxValue_iff isSmall).2 (notFull isOpening)⟩

section Finding

variable
  {escape : Bool}
  {bytes : List UInt8}
  {opening depth : Nat}
  {search : Search}
  {byte : UInt8}

/-- A search counts the braces that are open, and the group that it will find is settled. -/
structure Search.Counts
    (escape : Bool)
    (bytes : List UInt8)
    (opening depth : Nat)
    (search : Search) : Prop where
  isDepth : search.depth = .ofNat depth
  isBounded : nestingFrom escape depth (bytes.drop search.position) ≤ nesting escape bytes
  isSettled :
    (closing? escape depth search.position (bytes.drop search.position)).map (⟨opening, ·⟩) =
      group? escape bytes

namespace IsSearching

variable
  (isSearching : IsSearching escape bytes opening search)
  (isOpening : bytes[opening]? = some openingByte)
  (isDepth : search.depth = .ofNat depth)
  (isHere : bytes[search.position]? = some byte)

include isSearching isOpening isDepth isHere

/-- No brace is open only at the opening brace itself. -/
theorem isOpening_of_depth (isZero : depth = 0) : byte = openingByte := by
  subst isZero
  rw [isSearching.atOpening isDepth, isOpening] at isHere
  exact (Option.some.inj isHere).symm

theorem past_depth : (search.past escape byte).depth = .ofNat (depthBehind depth byte) := by
  rw [Search.past, isDepth, countAfter_ofNat]
  rintro rfl isZero
  exact absurd (isSearching.isOpening_of_depth isOpening isDepth isHere isZero) (by decide)

/-- The search goes on at every byte but the closing brace, as long as a word can hold the count. -/
theorem finder_eq_goesOn
    (notLast : ¬(byte = closingByte ∧ depth = 1))
    (isWord : depthBehind depth byte < 2 ^ 32) :
    finder escape bytes search = .goesOn (search.past escape byte) := by
  have isWithin := (List.getElem?_eq_some_iff.1 isHere).1
  have notZero : (search.past escape byte).depth ≠ 0 := by
    rw [isSearching.past_depth isOpening isDepth isHere, Ne, ofNat_eq_zero_iff isWord,
      depthBehind_eq_zero_iff (isSearching.isOpening_of_depth isOpening isDepth isHere)]
    exact notLast
  rw [finder, if_neg (Nat.not_le.2 isWithin), Turn.look_of_getElem? isHere]
  exact if_neg notZero

/-- At the closing brace the search ends with the group. -/
theorem finder_eq_ends (isLast : byte = closingByte ∧ depth = 1) :
    finder escape bytes search = .ends (some ⟨opening, search.position⟩) := by
  have isWithin := (List.getElem?_eq_some_iff.1 isHere).1
  have isZero : (search.past escape byte).depth = 0 := by
    rw [isSearching.past_depth isOpening isDepth isHere, isLast.1, isLast.2]
    rfl
  rw [finder, if_neg (Nat.not_le.2 isWithin), Turn.look_of_getElem? isHere]
  dsimp only
  rw [if_pos isZero, (isSearching.past isOpening isHere).1]
  rfl

end IsSearching

namespace Search.Counts

theorem first (isFirst : bytes.findIdx? (· == openingByte) = some opening) :
    Search.Counts escape bytes opening 0 { position := opening } := by
  have isOpening := (findIdx?_eq_some_iff_isFirstOpening.1 isFirst).isOpening
  refine ⟨rfl, Nat.le_of_eq (nesting_eq escape isFirst).symm, ?_⟩
  rw [closing?_drop isOpening (by decide), stride_of_isBrace (.inl rfl), group?, isFirst]
  rfl

/-- The count of a search is kept up to the closing brace, as long as a word can hold it. -/
theorem leads
    (isOpening : bytes[opening]? = some openingByte)
    (isWord : nesting escape bytes < 2 ^ 32)
    (isSearching : IsSearching escape bytes opening search)
    (counts : search.Counts escape bytes opening depth) :
    Loop.Leads (fun next => ∃ depth, next.Counts escape bytes opening depth) (fun _ _ => True)
      (· = group? escape bytes) search (finder escape bytes search) := by
  obtain ⟨isDepth, isBounded, isSettled⟩ := counts
  cases isHere : bytes[search.position]? with
  | none =>
      have isEnd := List.getElem?_eq_none_iff.1 isHere
      rw [List.drop_eq_nil_iff.2 isEnd] at isSettled
      rw [finder, if_pos isEnd]
      exact .ends isSettled
  | some byte =>
      by_cases isLast : byte = closingByte ∧ depth = 1
      · rw [isSearching.finder_eq_ends isOpening isDepth isHere isLast]
        rw [drop_of_getElem? isHere, isLast.1, isLast.2, closing?_outermost] at isSettled
        exact .ends isSettled
      · rw [nestingFrom_drop isHere isLast] at isBounded
        rw [closing?_drop isHere isLast] at isSettled
        have stillBounded := Nat.le_trans (Nat.le_max_right _ _) isBounded
        have isWordBehind :=
          Nat.lt_of_le_of_lt (Nat.le_trans (le_nestingFrom _ _ _) stillBounded) isWord
        rw [isSearching.finder_eq_goesOn isOpening isDepth isHere isLast isWordBehind]
        exact .goesOn
          ⟨_, isSearching.past_depth isOpening isDepth isHere, stillBounded, isSettled⟩ trivial

end Search.Counts

/-- A turn of a search that counts goes on with a search that counts. -/
theorem leads_of_counts
    (isOpening : bytes[opening]? = some openingByte)
    (isWord : nesting escape bytes < 2 ^ 32) :
    ∀ search, (IsSearching escape bytes opening search ∧
        ∃ depth, search.Counts escape bytes opening depth) →
      Loop.Leads
        (fun next => IsSearching escape bytes opening next ∧
          ∃ depth, next.Counts escape bytes opening depth)
        (InvImage (· < ·) fun search => bytes.length - search.position)
        (fun found? => (∀ group ∈ found?, group.IsReached escape bytes) ∧
          found? = group? escape bytes)
        search (finder escape bytes search) := by
  rintro search ⟨isSearching, depth, counts⟩
  exact (isSearching.leads isOpening).and (counts.leads isOpening isWord isSearching)

/-- The search finds the group that expansion takes. -/
theorem finder_endsWith_group? (isWord : nesting escape bytes < 2 ^ 32) :
    (finder escape bytes).EndsWith (Search.first bytes) (group? escape bytes) := by
  unfold Search.first
  split
  · rename_i isNone
    rw [group?, isNone]
    exact .ends none
  · rename_i opening isFirst
    have isOpening := (findIdx?_eq_some_iff_isFirstOpening.1 isFirst).isOpening
    obtain ⟨_, ⟨-, rfl⟩, isEnd⟩ := Loop.exists_endsWith_of_leads
      (leads_of_counts isOpening isWord) (InvImage.wf _ Nat.lt_wfRel.wf)
      ⟨.first escape bytes opening, 0, .first isFirst⟩
    exact isEnd

/-- A search that never leaves its word comes to less braces than that at once. -/
theorem IsSearching.nestingFrom_lt
    (isSearching : IsSearching escape bytes opening search)
    (isOpening : bytes[opening]? = some openingByte)
    (isDepth : search.depth = .ofNat depth)
    (isSmall : depth < 2 ^ 31)
    (staysInWord : ∀ other, (finder escape bytes).Meets (.goesOn search) other →
      StaysInWord bytes other.depth other.position) :
    nestingFrom escape depth (bytes.drop search.position) < 2 ^ 31 := by
  induction left_eq : bytes.length - search.position using Nat.strongRecOn
    generalizing search depth with
  | ind left ih =>
      subst left_eq
      cases isHere : bytes[search.position]? with
      | none =>
          rw [List.drop_eq_nil_iff.2 (List.getElem?_eq_none_iff.1 isHere)]
          exact isSmall
      | some byte =>
          by_cases isLast : byte = closingByte ∧ depth = 1
          · obtain ⟨rfl, rfl⟩ := isLast
            rw [drop_of_getElem? isHere, nestingFrom_outermost]
            decide
          · have behindSmall : depthBehind depth byte < 2 ^ 31 := by
              unfold depthBehind
              split
              · rename_i isOpeningByte
                have notFull := (staysInWord search (.here search)).notFull
                rw [isDepth, ofNat_lt_maxValue_iff isSmall] at notFull
                exact notFull (isOpeningByte ▸ isHere)
              · split <;> omega
            have isNext := isSearching.finder_eq_goesOn isOpening isDepth isHere isLast
              (Nat.lt_trans behindSmall (by decide))
            have keeps := isSearching.leads isOpening
            rw [isNext] at keeps
            rw [nestingFrom_drop isHere isLast]
            refine Nat.max_lt.2 ⟨isSmall, ?_⟩
            cases keeps with
            | goesOn stillSearching isLess =>
                refine ih _ isLess stillSearching
                  (isSearching.past_depth isOpening isDepth isHere) behindSmall ?_ rfl
                intro other meets
                refine staysInWord other (.later ?_)
                rwa [isNext]

/-- The count of a search stays in its word exactly if fewer braces are open at once than it can
hold. -/
theorem finder_staysInWord_iff :
    (∀ search, (finder escape bytes).Meets (Search.first bytes) search →
        StaysInWord bytes search.depth search.position) ↔
      nesting escape bytes < 2 ^ 31 := by
  cases isFirst : bytes.findIdx? (· == openingByte) with
  | none =>
      rw [Search.first, nesting, isFirst]
      exact ⟨fun _ => Nat.two_pow_pos 31, fun _ search meets => nomatch meets⟩
  | some opening =>
      have isOpening := (findIdx?_eq_some_iff_isFirstOpening.1 isFirst).isOpening
      have isSearching := IsSearching.first escape bytes opening
      rw [Search.first, isFirst]
      constructor
      · intro staysInWord
        rw [nesting_eq escape isFirst]
        exact isSearching.nestingFrom_lt isOpening rfl (by decide) staysInWord
      · intro isSmall search meets
        obtain ⟨-, depth, counts⟩ := Loop.forall_meets_of_leads
          (leads_of_counts isOpening (Nat.lt_trans isSmall (by decide)))
          ⟨isSearching, 0, .first isFirst⟩ meets
        have isBounded := Nat.lt_of_le_of_lt counts.isBounded isSmall
        rw [counts.isDepth]
        refine staysInWord_ofNat (Nat.lt_of_le_of_lt (le_nestingFrom _ _ _) isBounded) ?_
        intro isHere
        rw [nestingFrom_drop isHere (by simp [openingByte, closingByte]), depthBehind,
          if_pos rfl] at isBounded
        exact Nat.lt_of_le_of_lt (Nat.le_trans (le_nestingFrom _ _ _) (Nat.le_max_right _ _))
          isBounded

end Finding

/-! ## Counting while a group is cut -/

/-- The slices that expansion cuts a group into. -/
def Group.slices (escape : Bool) (bytes : List UInt8) (group : Group) : List Slice :=
  Braces.slices escape group.closing (group.opening + 1) 0 (group.opening + 1)
    (bytes.drop (group.opening + 1))

section Cutting

variable
  {escape : Bool}
  {pattern : Text}
  {group : Group}
  {depth : Nat}
  {scan : Scan}
  {byte : UInt8}

/-- The cutting of a group counts the braces that are open in the group, and its slices are
settled. -/
structure Scan.Counts
    (escape : Bool)
    (bytes : List UInt8)
    (group : Group)
    (depth : Nat)
    (scan : Scan) : Prop where
  isDepth : scan.depth = .ofNat depth
  isBounded : nestingFrom escape (depth + 1) (bytes.drop scan.position) ≤ nesting escape bytes
  isClosing :
    closing? escape (depth + 1) scan.position (bytes.drop scan.position) = some group.closing
  isSettled :
    scan.done ++
        slices escape group.closing scan.start depth scan.position (bytes.drop scan.position) =
      group.slices escape bytes

namespace Scan.Counts

theorem first
    {bytes : List UInt8}
    (isGroup : group? escape bytes = some group) :
    Scan.Counts escape bytes group 0 (.first group) := by
  obtain ⟨isFirst, isClosing⟩ := isFirstOpening_of_group? isGroup
  refine ⟨rfl, ?_, isClosing, rfl⟩
  rw [nesting, findIdx?_eq_some_iff_isFirstOpening.2 isFirst]
  exact Nat.le_refl _

variable
  (counts : scan.Counts escape (encode pattern) group depth)
  (isBefore : scan.position < group.closing)
  (isHere : (encode pattern)[scan.position]? = some byte)

include counts isBefore isHere

theorem isOpen (isClosing : byte = closingByte) : depth ≠ 0 := by
  rintro rfl
  have atClosing := counts.isClosing
  rw [drop_of_getElem? isHere, isClosing, Nat.zero_add, closing?_outermost] at atClosing
  exact Nat.ne_of_lt isBefore (Option.some.inj atClosing)

/-- Behind a byte the search would go on for the same brace. -/
theorem behind :
    nestingFrom escape (depthBehind depth byte + 1)
          ((encode pattern).drop (scan.position + stride escape byte)) ≤
        nesting escape (encode pattern) ∧
      closing? escape (depthBehind depth byte + 1) (scan.position + stride escape byte)
          ((encode pattern).drop (scan.position + stride escape byte)) =
        some group.closing := by
  have isOpen := counts.isOpen isBefore isHere
  have notLast : ¬(byte = closingByte ∧ depth + 1 = 1) := fun isLast =>
    isOpen isLast.1 (Nat.succ.inj isLast.2)
  have isBounded := counts.isBounded
  have isClosing := counts.isClosing
  rw [nestingFrom_drop isHere notLast, depthBehind_succ isOpen] at isBounded
  rw [closing?_drop isHere notLast, depthBehind_succ isOpen] at isClosing
  exact ⟨Nat.le_trans (Nat.le_max_right _ _) isBounded, isClosing⟩

theorem past
    (isWithin : group.closing < (encode pattern).length)
    (notComma : ¬(byte = commaByte ∧ depth = 0)) :
    (scan.past byte (scan.position + stride escape byte)).Counts escape (encode pattern) group
      (depthBehind depth byte) := by
  obtain ⟨isBounded, isClosing⟩ := counts.behind isBefore isHere
  have isOpen := counts.isOpen isBefore isHere
  have isSettled := counts.isSettled
  rw [slices_drop isHere (closing?_bounds isClosing).1 isWithin notComma,
    depthAfter_natCast isOpen] at isSettled
  refine ⟨?_, isBounded, isClosing, isSettled⟩
  rw [Scan.past, counts.isDepth, countAfter_ofNat isOpen]

omit isHere in
theorem behindComma
    (isComma : (encode pattern)[scan.position]? = some commaByte)
    (isOutside : depth = 0) :
    scan.behindComma.Counts escape (encode pattern) group 0 := by
  subst isOutside
  obtain ⟨isBounded, isClosing⟩ := counts.behind isBefore isComma
  have isSettled := counts.isSettled
  rw [stride_of_notEscape (by simp [commaByte, backslashByte])] at isBounded isClosing
  refine ⟨rfl, isBounded, isClosing, ?_⟩
  rw [← isSettled, drop_of_getElem? isComma, Int.natCast_zero, slices_comma isBefore]
  simp [Scan.behindComma, Scan.cut]

end Scan.Counts

/-- A turn of a cutting that counts goes on with one that counts, with the same slices settled. -/
theorem Scan.Counts.leads
    (isWord : nesting escape (encode pattern) < 2 ^ 32)
    (isWithin : group.closing < (encode pattern).length)
    (inStep : IsInStep escape pattern group scan)
    (counts : scan.Counts escape (encode pattern) group depth) :
    Loop.Leads (fun next => ∃ depth, next.Counts escape (encode pattern) group depth)
      (fun _ _ => True) (· = group.slices escape (encode pattern)) scan
      (splitter escape (encode pattern) group.closing scan) := by
  have depthWord : depth < 2 ^ 32 := by
    have := le_nestingFrom escape (depth + 1) ((encode pattern).drop scan.position)
    have := counts.isBounded
    omega
  have isZero_iff : scan.depth = 0 ↔ depth = 0 := by
    rw [counts.isDepth, ofNat_eq_zero_iff depthWord]
  rcases Nat.lt_or_eq_of_le inStep.reaches.le with isBefore | atClosing
  · obtain ⟨byte, isHere, -⟩ := inStep.reaches.exists_byte isBefore
    by_cases isComma : byte = commaByte ∧ scan.depth = 0
    · obtain ⟨rfl, isOutside⟩ := isComma
      rw [IsInStep.splitter_eq_behindComma isBefore isHere isOutside]
      exact .goesOn ⟨0, counts.behindComma isBefore isHere (isZero_iff.1 isOutside)⟩ trivial
    · rw [inStep.splitter_eq_past isBefore isHere isComma]
      rw [isZero_iff] at isComma
      exact .goesOn ⟨_, counts.past isBefore isHere isWithin isComma⟩ trivial
  · rw [IsInStep.splitter_eq_ends atClosing]
    apply Loop.Leads.ends
    rw [← counts.isSettled, atClosing, slices_at_closing, Scan.cut]

/-- A turn of a cutting in step that counts goes on with such a cutting. -/
theorem leads_of_scanCounts
    (isWord : nesting escape (encode pattern) < 2 ^ 32)
    (isReached : group.IsReached escape (encode pattern)) :
    ∀ scan, (IsInStep escape pattern group scan ∧
        ∃ depth, scan.Counts escape (encode pattern) group depth) →
      Loop.Leads
        (fun next => IsInStep escape pattern group next ∧
          ∃ depth, next.Counts escape (encode pattern) group depth)
        (InvImage (· < ·) fun scan => group.closing - scan.position)
        (fun cuts => (∀ slice ∈ cuts, slice.IsWithin pattern group) ∧
          cuts = group.slices escape (encode pattern))
        scan (splitter escape (encode pattern) group.closing scan) := by
  rintro scan ⟨inStep, depth, counts⟩
  exact (inStep.leads isReached).and (counts.leads isWord isReached.closing_lt_length inStep)

variable (isFound : (finder escape (encode pattern)).EndsWith (Search.first (encode pattern))
  (some group))

include isFound

theorem counts_first (isWord : nesting escape (encode pattern) < 2 ^ 32) :
    IsInStep escape pattern group (.first group) ∧
      ∃ depth, (Scan.first group).Counts escape (encode pattern) group depth :=
  ⟨.first (isReached_of_endsWith isFound), 0,
    .first ((finder_endsWith_group? isWord).unique isFound)⟩

/-- The cutting of a group gives the slices that expansion cuts it into. -/
theorem splitter_endsWith_slices (isWord : nesting escape (encode pattern) < 2 ^ 32) :
    (splitter escape (encode pattern) group.closing).EndsWith (.goesOn (.first group))
      (group.slices escape (encode pattern)) := by
  obtain ⟨_, ⟨-, rfl⟩, isEnd⟩ := Loop.exists_endsWith_of_leads
    (leads_of_scanCounts isWord (isReached_of_endsWith isFound))
    (InvImage.wf _ Nat.lt_wfRel.wf) (counts_first isFound isWord)
  exact isEnd

theorem splitter_staysInWord
    (isSmall : nesting escape (encode pattern) < 2 ^ 31)
    (meets : (splitter escape (encode pattern) group.closing).Meets (.goesOn (.first group)) scan) :
    StaysInWord (encode pattern) scan.depth scan.position := by
  have isWord := Nat.lt_trans isSmall (show 2 ^ 31 < 2 ^ 32 by decide)
  obtain ⟨-, depth, counts⟩ := Loop.forall_meets_of_leads
    (leads_of_scanCounts isWord (isReached_of_endsWith isFound)) (counts_first isFound isWord) meets
  -- One more brace is open for the search, which is that of the group itself.
  have nextSmall : depth + 1 < 2 ^ 31 :=
    Nat.lt_of_le_of_lt (Nat.le_trans (le_nestingFrom _ _ _) counts.isBounded) isSmall
  rw [counts.isDepth]
  exact staysInWord_ofNat (Nat.lt_of_succ_lt nextSmall) fun _ => nextSmall

end Cutting

end Braces
end FilePaths
