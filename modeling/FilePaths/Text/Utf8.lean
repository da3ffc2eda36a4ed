import FilePaths.Text.Basic

/-!
# UTF-8

The bytes of a text, and the pieces of a byte sequence that need not be one.  Reading takes the
longest start that could still become a character; a start that cannot is one broken piece, and
reading goes on behind it.  So every byte belongs to exactly one piece, and the bytes of a text
read back as its characters.
-/

namespace FilePaths
namespace Text
namespace Utf8

/-- The bytes of one character. -/
def encodeChar (c : Char) : List UInt8 :=
  let n := c.toNat
  if n < 0x80 then [UInt8.ofNat n]
  else if n < 0x800 then [UInt8.ofNat (0xC0 + n / 0x40), UInt8.ofNat (0x80 + n % 0x40)]
  else if n < 0x10000 then
    [UInt8.ofNat (0xE0 + n / 0x1000), UInt8.ofNat (0x80 + n / 0x40 % 0x40),
      UInt8.ofNat (0x80 + n % 0x40)]
  else
    [UInt8.ofNat (0xF0 + n / 0x40000), UInt8.ofNat (0x80 + n / 0x1000 % 0x40),
      UInt8.ofNat (0x80 + n / 0x40 % 0x40), UInt8.ofNat (0x80 + n % 0x40)]

/-- The bytes of a text. -/
def encode (text : Text) : List UInt8 :=
  text.flatMap encodeChar

/-- A part of a byte sequence: a character, or bytes that are the start of none. -/
inductive Piece
  | char (c : Char)
  | broken (bytes : List UInt8)
  deriving DecidableEq, Repr

/-- What the first byte of a character with several bytes says about the others. -/
structure Lead where
  /-- The bits of the character that the byte itself holds. -/
  value : Nat
  /-- The least second byte. -/
  low : UInt8
  /-- The greatest second byte. -/
  high : UInt8
  /-- The number of bytes after the second. -/
  more : Nat

/-- The first bytes of characters with several bytes.  The narrower second bytes rule out longer
spellings of shorter characters, surrogates, and numbers beyond the last code point. -/
def lead? (first : UInt8) : Option Lead :=
  let n := first.toNat
  if n < 0xC2 then none
  else if n < 0xE0 then some ⟨n - 0xC0, 0x80, 0xBF, 0⟩
  else if n = 0xE0 then some ⟨0, 0xA0, 0xBF, 1⟩
  else if n = 0xED then some ⟨0xD, 0x80, 0x9F, 1⟩
  else if n < 0xF0 then some ⟨n - 0xE0, 0x80, 0xBF, 1⟩
  else if n = 0xF0 then some ⟨0, 0x90, 0xBF, 2⟩
  else if n < 0xF4 then some ⟨n - 0xF0, 0x80, 0xBF, 2⟩
  else if n = 0xF4 then some ⟨4, 0x80, 0x8F, 2⟩
  else none

/-- Reads the given number of further bytes of a character.  The bytes taken so far stand in
front, the value they spell out comes with them. -/
def readMore : (count value : Nat) → (taken bytes : List UInt8) → Piece × List UInt8
  | 0, value, _, bytes => (.char (Char.ofNat value), bytes)
  | _ + 1, _, taken, [] => (.broken taken, [])
  | count + 1, value, taken, byte :: bytes =>
      if 0x80 ≤ byte ∧ byte ≤ 0xBF then
        readMore count (value * 0x40 + (byte.toNat - 0x80)) (taken ++ [byte]) bytes
      else (.broken taken, byte :: bytes)

/-- The piece that starts with the given byte, and the bytes behind it. -/
def readPiece (first : UInt8) (bytes : List UInt8) : Piece × List UInt8 :=
  if first < 0x80 then (.char (Char.ofNat first.toNat), bytes)
  else
    match lead? first, bytes with
    | some lead, second :: bytes =>
        if lead.low ≤ second ∧ second ≤ lead.high then
          readMore lead.more (lead.value * 0x40 + (second.toNat - 0x80)) [first, second] bytes
        else (.broken [first], second :: bytes)
    | _, bytes => (.broken [first], bytes)

theorem readMore_length
    (count value : Nat)
    (taken bytes : List UInt8) :
    (readMore count value taken bytes).2.length ≤ bytes.length := by
  induction count generalizing value taken bytes with
  | zero => simp [readMore]
  | succ count ih =>
      cases bytes with
      | nil => simp [readMore]
      | cons byte bytes =>
          by_cases h : 0x80 ≤ byte ∧ byte ≤ 0xBF
          · simp only [readMore, h, and_self, if_true, List.length_cons]
            exact Nat.le_succ_of_le (ih ..)
          · simp [readMore, h]

theorem readPiece_length (first : UInt8) (bytes : List UInt8) :
    (readPiece first bytes).2.length ≤ bytes.length := by
  unfold readPiece
  split
  · simp
  · split
    · split
      · exact Nat.le_succ_of_le (readMore_length ..)
      · simp
    · simp

/-- The pieces of a byte sequence, in order. -/
def pieces : List UInt8 → List Piece
  | [] => []
  | first :: bytes =>
      (readPiece first bytes).1 :: pieces (readPiece first bytes).2
termination_by bytes => bytes.length
decreasing_by
  exact Nat.lt_succ_of_le (readPiece_length first bytes)

/-- The character of a whole piece; a broken piece shows as the replacement character. -/
def Piece.shown : Piece → Char
  | .char c => c
  | .broken _ => '\uFFFD'

/-- The text of a byte sequence, with a replacement character for every broken piece. -/
def decodeLossy (bytes : List UInt8) : Text :=
  (pieces bytes).map Piece.shown

/-- The text of a byte sequence without broken pieces. -/
def decode? (bytes : List UInt8) : Option Text :=
  (pieces bytes).mapM fun
    | .char c => some c
    | .broken _ => none

/-- The number of bytes of a text. -/
def size (text : Text) : Nat :=
  (encode text).length

end Utf8
end Text
end FilePaths
