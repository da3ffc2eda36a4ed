import FilePaths.Proofs.Braces.Escaping

/-!
# Expansions of a text

The scanner steps from byte to byte, and behind a backslash it may land inside a character.  All the
places where it cuts are marks, though, or stand behind one, and a mark is a character of its own.
So an expansion is made of whole characters: it is the pattern without some of them.
-/

namespace FilePaths
namespace Braces

open Text.Utf8 (encode encode_append take_encode drop_encode IsCut isCut_of_getElem?)

/-! ## Where the scanner cuts -/

section Cuts

variable {escape : Bool} {text : Text} {group : Group} {slice : Slice}

theorem isCut_of_group? (isGroup : group? escape (encode text) = some group) :
    IsCut text group.opening ∧ IsCut text (group.opening + 1) ∧ IsCut text group.closing ∧
      IsCut text (group.closing + 1) := by
  obtain ⟨isFirst, isClosing⟩ := isFirstOpening_of_group? isGroup
  obtain ⟨isHere, -⟩ := notEscaped_of_closing? (fun _ => isFirst.notEscaped_behind) isClosing
  obtain ⟨opening, behindOpening⟩ := isCut_of_getElem? (by decide) isFirst.isOpening
  exact ⟨opening, behindOpening, isCut_of_getElem? (by decide) isHere⟩

theorem isCut_of_mem_slices
    {closing start position : Nat}
    {depth : Int}
    (inside : closing < (encode text).length)
    (startCut : IsCut text start)
    (closingCut : IsCut text closing)
    (isSlice : slice ∈
      slices escape closing start depth position ((encode text).drop position)) :
    IsCut text slice.start ∧ IsCut text slice.stop := by
  generalize bytes_eq : (encode text).drop position = bytes at isSlice
  fun_induction slices escape closing start depth position bytes with
  | case1 start depth position =>
      have atEnd := List.drop_eq_nil_iff.1 bytes_eq
      rw [List.mem_singleton.1 isSlice, Nat.min_eq_right (by omega)]
      exact ⟨startCut, closingCut⟩
  | case2 =>
      rw [List.mem_singleton.1 isSlice]
      exact ⟨startCut, closingCut⟩
  | case3 start depth position byte rest before isComma ih =>
      obtain ⟨isHere, rest_eq⟩ := getElem?_of_drop_eq_cons bytes_eq
      rw [isComma.1] at isHere
      obtain ⟨here, behind⟩ := isCut_of_getElem? (by decide) isHere
      rcases List.mem_cons.1 isSlice with rfl | isLater
      · exact ⟨startCut, here⟩
      · exact ih behind rest_eq isLater
  | case4 start depth position byte before notComma isEscape =>
      have atEnd := List.drop_eq_nil_iff.1 (getElem?_of_drop_eq_cons bytes_eq).2
      rw [List.mem_singleton.1 isSlice, Nat.min_eq_right (by omega)]
      exact ⟨startCut, closingCut⟩
  | case5 =>
      rw [List.mem_singleton.1 isSlice]
      exact ⟨startCut, closingCut⟩
  | case6 start depth position byte before notComma isEscape hidden after notLast ih =>
      have hidden_eq := (getElem?_of_drop_eq_cons bytes_eq).2
      exact ih startCut (getElem?_of_drop_eq_cons hidden_eq).2 isSlice
  | case7 start depth position byte rest before notComma notEscape ih =>
      exact ih startCut (getElem?_of_drop_eq_cons bytes_eq).2 isSlice

end Cuts

/-- A slice of a group is cut between characters, and it lies between the braces. -/
structure Slice.IsWithin (text : Text) (group : Group) (slice : Slice) : Prop where
  start : IsCut text slice.start
  stop : IsCut text slice.stop
  behindOpening : group.opening < slice.start
  inOrder : slice.start ≤ slice.stop
  beforeClosing : slice.stop ≤ group.closing

/-- A group is cut between characters: in front of it, behind it, and at both ends of each slice. -/
structure CutsBetween (text : Text) (group : Group) (cuts : List Slice) : Prop where
  opening : IsCut text group.opening
  closing : IsCut text (group.closing + 1)
  areWithin : ∀ slice ∈ cuts, slice.IsWithin text group

theorem cutsBetween_slices
    {escape : Bool}
    {text : Text}
    {group : Group}
    (isGroup : group? escape (encode text) = some group) :
    CutsBetween text group
      (slices escape group.closing (group.opening + 1) 0 (group.opening + 1)
        ((encode text).drop (group.opening + 1))) := by
  obtain ⟨openingBound, closingBound⟩ := group?_bounds isGroup
  obtain ⟨openingCut, behindOpening, closingCut, behindClosing⟩ := isCut_of_group? isGroup
  refine ⟨openingCut, behindClosing, fun slice isSlice => ?_⟩
  obtain ⟨startCut, stopCut⟩ := isCut_of_mem_slices closingBound behindOpening closingCut isSlice
  obtain ⟨startBound, inOrder, stopBound⟩ := slices_bounds (Nat.le_refl _) openingBound isSlice
  exact ⟨startCut, stopCut, startBound, inOrder, stopBound⟩

/-! ## Expansions -/

/-- Putting a slice in the place of its group takes characters away and nothing else. -/
theorem CutsBetween.exists_replaceGroup
    {text : Text}
    {group : Group}
    {cuts : List Slice}
    {slice : Slice}
    (cutsBetween : CutsBetween text group cuts)
    (isSlice : slice ∈ cuts) :
    ∃ result, replaceGroup (encode text) group slice = encode result ∧ result.Sublist text := by
  obtain ⟨startCut, stopCut, startBound, inOrder, stopBound⟩ :=
    cutsBetween.areWithin slice isSlice
  -- The text in five parts, of which the first, the third and the last are kept.
  obtain ⟨front, _, front_eq, front_end⟩ := cutsBetween.opening
  obtain ⟨skipped, _, skipped_eq, skipped_end⟩ := startCut.exists_split front_eq (by omega)
  obtain ⟨alternative, _, alternative_eq, alternative_end⟩ :=
    stopCut.exists_split skipped_eq (by omega)
  obtain ⟨others, back, text_eq, others_end⟩ :=
    cutsBetween.closing.exists_split alternative_eq (by omega)
  refine ⟨front ++ alternative ++ back, ?_, ?_⟩
  · rw [replaceGroup, take_encode front_eq front_end, take_encode alternative_eq alternative_end,
      drop_encode rfl skipped_end, drop_encode text_eq others_end, encode_append, encode_append]
  · rw [text_eq]
    have isKept : (front ++ alternative).Sublist (front ++ skipped ++ alternative ++ others) :=
      ((List.sublist_append_left _ _).append (List.Sublist.refl _)).trans
        (List.sublist_append_left _ _)
    exact isKept.append (List.Sublist.refl _)

theorem exists_of_mem_expandFirst
    {escape : Bool}
    {text : Text}
    {expanded : List UInt8}
    (isExpansion : expanded ∈ expandFirst escape (encode text)) :
    ∃ result, expanded = encode result ∧ result.Sublist text := by
  unfold expandFirst at isExpansion
  split at isExpansion
  · simp at isExpansion
  · rename_i group isGroup
    obtain ⟨slice, isSlice, rfl⟩ := List.mem_map.1 isExpansion
    exact (cutsBetween_slices isGroup).exists_replaceGroup isSlice

/-- Every expansion of a text is the bytes of a text, with none but characters of the first. -/
theorem exists_of_mem_expandBytes
    {escape : Bool}
    {text : Text}
    {expanded : List UInt8}
    (isExpansion : expanded ∈ expandBytes escape (encode text)) :
    ∃ result, expanded = encode result ∧ result.Sublist text := by
  induction length_eq : (encode text).length using Nat.strongRecOn generalizing text with
  | ind length ih =>
      subst length_eq
      rw [expandBytes_eq] at isExpansion
      obtain ⟨bytes, isFirst, isExpansion⟩ := List.mem_flatMap.1 isExpansion
      have shorter := length_of_mem_expandFirst isFirst
      obtain ⟨middle, rfl, isSublist⟩ := exists_of_mem_expandFirst isFirst
      rcases List.mem_cons.1 isExpansion with rfl | isLater
      · exact ⟨middle, rfl, isSublist⟩
      · obtain ⟨result, rfl, isLaterSublist⟩ := ih _ (by omega) isLater rfl
        exact ⟨result, rfl, isLaterSublist.trans isSublist⟩

/-- Expansion only takes characters away. -/
theorem sublist_of_mem_expand
    {flags : GlobFlags}
    {pattern expanded : Text}
    (isExpansion : expanded ∈ expand flags pattern) :
    expanded.Sublist pattern := by
  obtain ⟨bytes, isBytes, rfl⟩ := List.mem_map.1 isExpansion
  obtain ⟨result, rfl, isSublist⟩ := exists_of_mem_expandBytes isBytes
  rwa [Text.Utf8.decodeLossy_encode]

/-! ## Patterns without backslashes -/

section NoBackslash

variable {bytes : List UInt8} (escape other : Bool)

theorem closing?_of_noBackslash
    (noBackslash : backslashByte ∉ bytes)
    (depth position : Nat) :
    closing? escape depth position bytes = closing? other depth position bytes := by
  induction bytes generalizing depth position with
  | nil => rfl
  | cons byte rest ih =>
      have notHere : byte ≠ backslashByte := fun isHere => noBackslash (by simp [isHere])
      have ih := ih fun isLater => noBackslash (List.mem_cons_of_mem _ isLater)
      rw [closing?.eq_def, closing?.eq_def other]
      simp only [notHere, false_and, if_false, ih]

theorem slices_of_noBackslash
    (noBackslash : backslashByte ∉ bytes)
    (closing start : Nat)
    (depth : Int)
    (position : Nat) :
    slices escape closing start depth position bytes =
      slices other closing start depth position bytes := by
  induction bytes generalizing start depth position with
  | nil => rfl
  | cons byte rest ih =>
      have notHere : byte ≠ backslashByte := fun isHere => noBackslash (by simp [isHere])
      have ih := ih fun isLater => noBackslash (List.mem_cons_of_mem _ isLater)
      rw [slices.eq_def, slices.eq_def other]
      simp only [notHere, false_and, if_false, ih]

theorem expandFirst_of_noBackslash (noBackslash : backslashByte ∉ bytes) :
    expandFirst escape bytes = expandFirst other bytes := by
  have noneLater : ∀ position, backslashByte ∉ bytes.drop position :=
    fun position isLater => noBackslash (List.mem_of_mem_drop isLater)
  have sameGroup : group? escape bytes = group? other bytes := by
    simp only [group?, closing?_of_noBackslash escape other (noneLater _)]
  rw [expandFirst, expandFirst, sameGroup]
  simp only [slices_of_noBackslash escape other (noneLater _)]

/-- Where there is no backslash, it makes no difference whether it would escape. -/
theorem expandBytes_of_noBackslash
    {text : Text}
    (noBackslash : '\\' ∉ text) :
    expandBytes escape (encode text) = expandBytes other (encode text) := by
  induction length_eq : (encode text).length using Nat.strongRecOn generalizing text with
  | ind length ih =>
      subst length_eq
      have noByte : backslashByte ∉ encode text := fun isByte =>
        noBackslash ((Text.Utf8.mem_encode_iff (by decide) text).1 isByte)
      rw [expandBytes_eq, expandBytes_eq, expandFirst_of_noBackslash escape other noByte]
      refine List.flatMap_congr fun expanded isExpansion => ?_
      have shorter := length_of_mem_expandFirst isExpansion
      obtain ⟨result, rfl, isSublist⟩ := exists_of_mem_expandFirst isExpansion
      rw [ih _ (by omega) (fun isMember => noBackslash (isSublist.subset isMember)) rfl]

end NoBackslash

theorem expand_of_noBackslash
    {pattern : Text}
    (noBackslash : '\\' ∉ pattern)
    (first second : GlobFlags) :
    expand first pattern = expand second pattern := by
  rw [expand, expand, expandBytes_of_noBackslash _ _ noBackslash]

/-- Where there is no opening brace, there is nothing to expand. -/
theorem expand_of_noOpening
    {pattern : Text}
    (noOpening : '{' ∉ pattern)
    (flags : GlobFlags) :
    expand flags pattern = [] := by
  rw [expand_eq_nil_iff, group?, List.findIdx?_eq_none_iff.2 (noOpening_of_not_mem noOpening)]

end Braces
end FilePaths
