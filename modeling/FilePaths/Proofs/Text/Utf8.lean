import FilePaths.Text.Utf8
import Mathlib.Tactic.IntervalCases

/-!
# The bytes of a text

Every text is read back from its bytes.  A character below 128 is one byte, and that byte stands in
the bytes of no other character; so a mark of a pattern can be looked for among the bytes.  The
other way round, a byte below 128 is a character wherever it stands, and the bytes can be cut on
each side of it without cutting a character.
-/

namespace FilePaths
namespace Text
namespace Utf8

/-! ## One character -/

/-- The first byte of two. -/
theorem lead?_two
    {value : Nat}
    (least : 2 ≤ value)
    (bound : value < 0x20) :
    lead? (UInt8.ofNat (0xC0 + value)) = some ⟨value, 0x80, 0xBF, 0⟩ := by
  interval_cases value <;> rfl

/-- The first byte of three.  The least second byte rules out shorter characters, the greatest one
surrogates. -/
theorem lead?_three
    {value : Nat}
    (bound : value < 0x10) :
    lead? (UInt8.ofNat (0xE0 + value)) =
      some ⟨value, if value = 0 then 0xA0 else 0x80, if value = 0xD then 0x9F else 0xBF, 1⟩ := by
  interval_cases value <;> rfl

/-- The first byte of four.  The least second byte rules out shorter characters, the greatest one
numbers beyond the last code point. -/
theorem lead?_four
    {value : Nat}
    (bound : value < 5) :
    lead? (UInt8.ofNat (0xF0 + value)) =
      some ⟨value, if value = 0 then 0x90 else 0x80, if value = 4 then 0x8F else 0xBF, 2⟩ := by
  interval_cases value <;> rfl

theorem toNat_ofNat
    {value : Nat}
    (bound : value < 0x100) :
    (UInt8.ofNat value).toNat = value := by
  rw [UInt8.toNat_ofNat', Nat.mod_eq_of_lt bound]

theorem readMore_cons
    {value : Nat}
    (bound : value < 0x40)
    (count before : Nat)
    (taken bytes : List UInt8) :
    readMore (count + 1) before taken (UInt8.ofNat (0x80 + value) :: bytes) =
      readMore count (before * 0x40 + value) (taken ++ [UInt8.ofNat (0x80 + value)]) bytes := by
  have toNat_eq : (UInt8.ofNat (0x80 + value)).toNat = 0x80 + value := toNat_ofNat (by omega)
  have inRange : 0x80 ≤ UInt8.ofNat (0x80 + value) ∧ UInt8.ofNat (0x80 + value) ≤ 0xBF := by
    simp only [UInt8.le_iff_toNat_le, toNat_eq]
    simp; omega
  rw [readMore, if_pos inRange, toNat_eq, Nat.add_sub_cancel_left]

/-- A first byte of several, with a second byte in the range that it allows. -/
theorem readPiece_of_lead
    {first : UInt8}
    {lead : Lead}
    {second : Nat}
    (isFirst : ¬first < 0x80)
    (isLead : lead? first = some lead)
    (bound : second < 0x40)
    (low : lead.low.toNat ≤ 0x80 + second)
    (high : 0x80 + second ≤ lead.high.toNat)
    (bytes : List UInt8) :
    readPiece first (UInt8.ofNat (0x80 + second) :: bytes) =
      readMore lead.more (lead.value * 0x40 + second)
        [first, UInt8.ofNat (0x80 + second)] bytes := by
  have toNat_eq : (UInt8.ofNat (0x80 + second)).toNat = 0x80 + second := toNat_ofNat (by omega)
  unfold readPiece
  rw [if_neg isFirst, isLead]
  dsimp only
  rw [if_pos ⟨by rwa [UInt8.le_iff_toNat_le, toNat_eq], by rwa [UInt8.le_iff_toNat_le, toNat_eq]⟩,
    toNat_eq, Nat.add_sub_cancel_left]

theorem readPiece_of_lt
    {first : UInt8}
    (isOne : first < 0x80)
    (bytes : List UInt8) :
    readPiece first bytes = (.char (Char.ofNat first.toNat), bytes) := by
  unfold readPiece
  rw [if_pos isOne]

theorem not_lt_of_toNat
    {value : Nat}
    (least : 0x80 ≤ value)
    (bound : value < 0x100) :
    ¬UInt8.ofNat value < 0x80 := by
  rw [UInt8.lt_iff_toNat_lt, toNat_ofNat bound]
  simpa using least

section Pieces

variable {n : Nat} (bytes : List UInt8)

theorem pieces_one (isOne : n < 0x80) :
    pieces (UInt8.ofNat n :: bytes) = .char (Char.ofNat n) :: pieces bytes := by
  have isFirst : UInt8.ofNat n < 0x80 := by
    rw [UInt8.lt_iff_toNat_lt, toNat_ofNat (by omega)]
    simpa using isOne
  rw [pieces, readPiece_of_lt isFirst, toNat_ofNat (by omega)]

theorem pieces_two (notOne : 0x80 ≤ n) (isTwo : n < 0x800) :
    pieces (UInt8.ofNat (0xC0 + n / 0x40) :: UInt8.ofNat (0x80 + n % 0x40) :: bytes) =
      .char (Char.ofNat n) :: pieces bytes := by
  have least : 2 ≤ n / 0x40 := by omega
  have isLead := lead?_two least (by omega)
  have value_eq : n / 0x40 * 0x40 + n % 0x40 = n := by omega
  rw [pieces, readPiece_of_lead (not_lt_of_toNat (by omega) (by omega)) isLead (by omega)]
  · rw [readMore, value_eq]
  · simp
  · simp; omega

theorem pieces_three
    (notTwo : 0x800 ≤ n)
    (isThree : n < 0x10000)
    (noSurrogate : n < 0xD800 ∨ 0xDFFF < n) :
    pieces (UInt8.ofNat (0xE0 + n / 0x1000) :: UInt8.ofNat (0x80 + n / 0x40 % 0x40) ::
        UInt8.ofNat (0x80 + n % 0x40) :: bytes) =
      .char (Char.ofNat n) :: pieces bytes := by
  have bound : n / 0x1000 < 0x10 := by omega
  have isLead := lead?_three bound
  have value_eq : (n / 0x1000 * 0x40 + n / 0x40 % 0x40) * 0x40 + n % 0x40 = n := by omega
  rw [pieces, readPiece_of_lead (not_lt_of_toNat (by omega) (by omega)) isLead (by omega),
    readMore_cons (by omega)]
  · rw [readMore, value_eq]
  · dsimp only
    split
    · simp; omega
    · simp
  · dsimp only
    split
    · simp; omega
    · simp; omega

theorem pieces_four (notThree : 0x10000 ≤ n) (isFour : n < 0x110000) :
    pieces (UInt8.ofNat (0xF0 + n / 0x40000) :: UInt8.ofNat (0x80 + n / 0x1000 % 0x40) ::
        UInt8.ofNat (0x80 + n / 0x40 % 0x40) :: UInt8.ofNat (0x80 + n % 0x40) :: bytes) =
      .char (Char.ofNat n) :: pieces bytes := by
  have bound : n / 0x40000 < 5 := by omega
  have isLead := lead?_four bound
  have value_eq : ((n / 0x40000 * 0x40 + n / 0x1000 % 0x40) * 0x40 + n / 0x40 % 0x40) * 0x40 +
      n % 0x40 = n := by omega
  rw [pieces, readPiece_of_lead (not_lt_of_toNat (by omega) (by omega)) isLead (by omega),
    readMore_cons (by omega), readMore_cons (by omega)]
  · rw [readMore, value_eq]
  · dsimp only
    split
    · simp; omega
    · simp
  · dsimp only
    split
    · simp; omega
    · simp; omega

end Pieces

/-- The first piece of bytes that start with those of a character is that character. -/
theorem pieces_encodeChar_append (c : Char) (bytes : List UInt8) :
    pieces (encodeChar c ++ bytes) = .char c :: pieces bytes := by
  have valid : c.toNat < 0xD800 ∨ 0xDFFF < c.toNat ∧ c.toNat < 0x110000 := c.valid
  have char_eq : .char c = Piece.char (Char.ofNat c.toNat) := by rw [Char.ofNat_toNat]
  unfold encodeChar
  dsimp only
  rw [char_eq]
  split
  · rename_i isOne
    exact pieces_one bytes isOne
  split
  · rename_i notOne isTwo
    exact pieces_two bytes (by omega) isTwo
  split
  · rename_i notOne notTwo isThree
    exact pieces_three bytes (by omega) isThree (by omega)
  · rename_i notOne notTwo notThree
    exact pieces_four bytes (by omega) (by omega)

/-! ## A text -/

@[simp] theorem encode_nil : encode [] = [] := rfl

@[simp] theorem encode_cons (c : Char) (text : Text) :
    encode (c :: text) = encodeChar c ++ encode text :=
  List.flatMap_cons

@[simp] theorem encode_append (first second : Text) :
    encode (first ++ second) = encode first ++ encode second :=
  List.flatMap_append

/-- A text is read back from its bytes, character by character. -/
theorem pieces_encode (text : Text) : pieces (encode text) = text.map .char := by
  induction text with
  | nil => rw [encode_nil, pieces]; rfl
  | cons c text ih => rw [encode_cons, pieces_encodeChar_append, ih]; rfl

@[simp] theorem decodeLossy_encode (text : Text) : decodeLossy (encode text) = text := by
  rw [decodeLossy, pieces_encode, List.map_map]
  exact List.map_id text

/-! ## Marks -/

theorem encodeChar_of_ascii
    {c : Char}
    (isAscii : c.toNat < 0x80) :
    encodeChar c = [UInt8.ofNat c.toNat] := by
  simp [encodeChar, isAscii]

theorem encodeChar_ne_nil (c : Char) : encodeChar c ≠ [] := by
  unfold encodeChar
  extract_lets n
  split_ifs <;> exact List.cons_ne_nil _ _

/-- A character that is more than one byte has no byte below 128. -/
theorem le_of_mem_encodeChar
    {c : Char}
    {byte : UInt8}
    (notAscii : 0x80 ≤ c.toNat)
    (isByte : byte ∈ encodeChar c) :
    0x80 ≤ byte.toNat := by
  have bound : c.toNat < 0x110000 := by
    rcases c.valid with below | above
    · exact Nat.lt_trans below (by decide)
    · exact above.2
  unfold encodeChar at isByte
  extract_lets n at isByte
  have notAscii : ¬n < 0x80 := Nat.not_lt.2 notAscii
  have bound : n < 0x110000 := bound
  clear_value n
  rw [if_neg notAscii] at isByte
  split at isByte
  · simp only [List.mem_cons, List.not_mem_nil, or_false] at isByte
    rcases isByte with rfl | rfl <;> rw [toNat_ofNat (by omega)] <;> omega
  split at isByte
  · simp only [List.mem_cons, List.not_mem_nil, or_false] at isByte
    rcases isByte with rfl | rfl | rfl <;> rw [toNat_ofNat (by omega)] <;> omega
  · simp only [List.mem_cons, List.not_mem_nil, or_false] at isByte
    rcases isByte with rfl | rfl | rfl | rfl <;> rw [toNat_ofNat (by omega)] <;> omega

/-- The byte of a mark stands in the bytes of a text exactly where the mark stands in the text. -/
theorem mem_encode_iff
    {mark : Char}
    (isAscii : mark.toNat < 0x80)
    (text : Text) :
    UInt8.ofNat mark.toNat ∈ encode text ↔ mark ∈ text := by
  have mark_toNat : (UInt8.ofNat mark.toNat).toNat = mark.toNat := toNat_ofNat (by omega)
  simp only [encode, List.mem_flatMap]
  constructor
  · rintro ⟨c, isMember, isByte⟩
    by_cases alsoAscii : c.toNat < 0x80
    · rw [encodeChar_of_ascii alsoAscii, List.mem_singleton] at isByte
      have toNat_eq := congrArg UInt8.toNat isByte
      rw [mark_toNat, toNat_ofNat (by omega)] at toNat_eq
      have mark_eq : mark = c := by
        rw [← Char.ofNat_toNat mark, toNat_eq, Char.ofNat_toNat]
      rwa [mark_eq]
    · have notBelow := le_of_mem_encodeChar (by omega) isByte
      omega
  · intro isMember
    refine ⟨mark, isMember, ?_⟩
    rw [encodeChar_of_ascii isAscii]
    exact List.mem_singleton.2 rfl

/-! ## Bytes that are characters -/

theorem le_low_of_lead?
    {first : UInt8}
    {lead : Lead}
    (lead_eq : lead? first = some lead) :
    0x80 ≤ lead.low := by
  unfold lead? at lead_eq
  extract_lets n at lead_eq
  split_ifs at lead_eq
  all_goals
    rw [← Option.some.inj lead_eq]
    dsimp only
    decide

section

variable {byte : UInt8} {bytes : List UInt8}

theorem mem_readMore
    (isOne : byte < 0x80)
    (isByte : byte ∈ bytes)
    (count value : Nat)
    (taken : List UInt8) :
    byte ∈ (readMore count value taken bytes).2 := by
  induction count generalizing value taken bytes with
  | zero => exact isByte
  | succ count ih =>
      cases bytes with
      | nil => cases isByte
      | cons next bytes =>
          rw [readMore]
          split
          · rename_i inRange
            have isLater : byte ∈ bytes := (List.mem_cons.mp isByte).resolve_left fun isNext =>
              absurd isOne (UInt8.not_lt.mpr (isNext ▸ inRange.1))
            exact ih isLater _ _
          · exact isByte

/-- A character of several bytes takes no byte below 128 away. -/
theorem mem_readPiece
    (isOne : byte < 0x80)
    (isByte : byte ∈ bytes)
    (first : UInt8) :
    byte ∈ (readPiece first bytes).2 := by
  unfold readPiece
  split
  · exact isByte
  split
  · rename_i lead second bytes lead_eq
    split
    · rename_i inRange
      have isSecond : 0x80 ≤ second := UInt8.le_trans (le_low_of_lead? lead_eq) inRange.1
      have isLater : byte ∈ bytes := (List.mem_cons.mp isByte).resolve_left fun isNext =>
        absurd isOne (UInt8.not_lt.mpr (isNext ▸ isSecond))
      exact mem_readMore isOne isLater _ _ _
    · exact isByte
  · exact isByte

theorem mem_pieces
    (isOne : byte < 0x80)
    (isByte : byte ∈ bytes) :
    .char (Char.ofNat byte.toNat) ∈ pieces bytes := by
  fun_induction pieces bytes with
  | case1 => cases isByte
  | case2 first bytes ih =>
      rcases List.mem_cons.mp isByte with rfl | isLater
      · rw [readPiece_of_lt isOne]
        exact List.mem_cons_self
      · exact List.mem_cons_of_mem _ (ih (mem_readPiece isOne isLater first))

/-- A byte below 128 is a character of the text that is read. -/
theorem mem_of_decode?_eq_some
    {text : Text}
    (text_eq : decode? bytes = some text)
    (isOne : byte < 0x80)
    (isByte : byte ∈ bytes) :
    Char.ofNat byte.toNat ∈ text := by
  have isPiece := mem_pieces isOne isByte
  rw [decode?] at text_eq
  generalize pieces bytes = found at text_eq isPiece
  induction found generalizing text with
  | nil => cases isPiece
  | cons piece found ih =>
      cases piece with
      | broken => cases text_eq
      | char c =>
          simp only [List.mapM_cons, Option.pure_def, Option.bind_eq_bind, Option.bind_some,
            Option.bind_eq_some_iff, Option.some.injEq] at text_eq
          obtain ⟨rest, rest_eq, rfl⟩ := text_eq
          rcases List.mem_cons.mp isPiece with isHere | isLater
          · rw [Piece.char.inj isHere]
            exact List.mem_cons_self
          · exact List.mem_cons_of_mem _ (ih rest_eq isLater)

end

/-! ## Cuts between characters -/

/-- The position stands between two characters of the text, or at one of its ends. -/
def IsCut (text : Text) (position : Nat) : Prop :=
  ∃ front behind, text = front ++ behind ∧ (encode front).length = position

section Cuts

variable {text : Text} {position later : Nat} {byte : UInt8}

/-- A byte below 128 is a character, with a cut on each side of it. -/
theorem isCut_of_getElem?
    (isOne : byte < 0x80)
    (isHere : (encode text)[position]? = some byte) :
    IsCut text position ∧ IsCut text (position + 1) := by
  induction text generalizing position with
  | nil => simp at isHere
  | cons c text ih =>
      rw [encode_cons] at isHere
      by_cases inside : position < (encodeChar c).length
      · rw [List.getElem?_append_left inside] at isHere
        have isAscii : c.toNat < 0x80 := Nat.not_le.1 fun notAscii =>
          Nat.not_lt.2 (le_of_mem_encodeChar notAscii (List.mem_of_getElem? isHere)) isOne
        have length_eq : (encodeChar c).length = 1 := by rw [encodeChar_of_ascii isAscii]; rfl
        obtain rfl : position = 0 := by omega
        exact ⟨⟨[], c :: text, rfl, rfl⟩, ⟨[c], text, rfl, by simp [length_eq]⟩⟩
      · rw [List.getElem?_append_right (Nat.not_lt.1 inside)] at isHere
        have grow : ∀ {place}, IsCut text place →
            IsCut (c :: text) ((encodeChar c).length + place) := by
          rintro place ⟨front, behind, rfl, rfl⟩
          exact ⟨c :: front, behind, rfl, by simp⟩
        obtain ⟨here, next⟩ := ih isHere
        have here := grow here
        have next := grow next
        rw [← Nat.add_assoc] at next
        rw [Nat.add_sub_cancel' (Nat.not_lt.1 inside)] at here next
        exact ⟨here, next⟩

section Split

variable {front behind : Text} (text_eq : text = front ++ behind)

include text_eq

theorem take_encode (isEnd : (encode front).length = position) :
    (encode text).take position = encode front := by
  rw [text_eq, ← isEnd, encode_append, List.take_left]

theorem drop_encode (isEnd : (encode front).length = position) :
    (encode text).drop position = encode behind := by
  rw [text_eq, ← isEnd, encode_append, List.drop_left]

/-- A later cut cuts what stands behind an earlier one. -/
theorem IsCut.exists_split
    (isLater : IsCut text later)
    (inOrder : (encode front).length ≤ later) :
    ∃ middle rest, text = front ++ middle ++ rest ∧
      (encode (front ++ middle)).length = later := by
  obtain ⟨whole, rest, rfl, rfl⟩ := isLater
  rcases List.append_eq_append_iff.1 text_eq with ⟨middle, rfl, rfl⟩ | ⟨middle, rfl, rfl⟩
  · have isEmpty : encode middle = [] := by
      rw [encode_append, List.length_append] at inOrder
      exact List.length_eq_zero_iff.1 (by omega)
    exact ⟨[], behind, by simp, by simp [isEmpty]⟩
  · exact ⟨middle, rest, rfl, rfl⟩

end Split

end Cuts

end Utf8
end Text
end FilePaths
