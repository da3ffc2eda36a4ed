/-!
# Texts

Paths, patterns, names and settings are finite sequences of characters.  This module holds the
cuts of a text that the rest of the library is built from, and the digits of numbers.
-/

namespace FilePaths

/-- A text is the sequence of its characters. -/
abbrev Text := List Char

namespace Text

/-- The text without its longest end of characters that satisfy the test. -/
def dropEndWhile (test : Char → Bool) (text : Text) : Text :=
  (text.reverse.dropWhile test).reverse

/-- The longest end of a text whose characters satisfy the test. -/
def takeEndWhile (test : Char → Bool) (text : Text) : Text :=
  (text.reverse.takeWhile test).reverse

/-- What is left of a text after the given start, if it has that start. -/
def dropStart? : (start text : Text) → Option Text
  | [], text => some text
  | _ :: _, [] => none
  | expected :: start, actual :: text =>
      if expected = actual then dropStart? start text else none

/-- What is left of a text before the given end, if it has that end. -/
def dropEnd? (ending text : Text) : Option Text :=
  (dropStart? ending.reverse text.reverse).map List.reverse

/-- The pieces of a text between the characters that satisfy the test; there is always one piece
more than there are such characters. -/
def splitAt (test : Char → Bool) : Text → List Text
  | [] => [[]]
  | c :: rest =>
      if test c then [] :: splitAt test rest
      else
        match splitAt test rest with
        | [] => [[c]]
        | piece :: pieces => (c :: piece) :: pieces

/-- A piece has no characters but those of the text. -/
theorem mem_of_mem_splitAt
    {test : Char → Bool}
    {text piece : Text}
    {c : Char}
    (isPiece : piece ∈ splitAt test text)
    (isMember : c ∈ piece) :
    c ∈ text := by
  induction text generalizing piece with
  | nil => simp_all [splitAt]
  | cons first rest ih =>
      rw [splitAt] at isPiece
      split at isPiece
      · rcases List.mem_cons.1 isPiece with rfl | later
        · simp at isMember
        · exact List.mem_cons_of_mem _ (ih later isMember)
      · split at isPiece
        · simp_all
        · rename_i head pieces pieces_eq
          rw [pieces_eq] at ih
          rcases List.mem_cons.1 isPiece with rfl | later
          · rcases List.mem_cons.1 isMember with rfl | inHead
            · exact List.mem_cons_self
            · exact List.mem_cons_of_mem _ (ih List.mem_cons_self inHead)
          · exact List.mem_cons_of_mem _ (ih (List.mem_cons_of_mem _ later) isMember)

/-- The non-empty pieces of a text between the characters that satisfy the test. -/
def words (test : Char → Bool) (text : Text) : List Text :=
  (splitAt test text).filter fun piece => !piece.isEmpty

/-- Texts one after the other, with a separating text between neighbours. -/
def intersperse (separator : Text) : List Text → Text
  | [] => []
  | [text] => text
  | text :: texts => text ++ separator ++ intersperse separator texts

/-- The letters `a` to `z` in upper case, all other characters as they are. -/
def upper (text : Text) : Text :=
  text.map Char.toUpper

/-- The letters `A` to `Z` in lower case, all other characters as they are.  In the whole of Unicode
only one more character, the sign of the kelvin, has one of these letters as its lower case, a `k`.
The names of log levels and of output formats, which are compared in the lower case of Unicode, have
no `k`, so that they are the same in both. -/
def lower (text : Text) : Text :=
  text.map Char.toLower

/-- The digits of a number in the given base, at least one; digits beyond nine are lower-case
letters. -/
def digits (base number : Nat) : Text :=
  Nat.toDigits base number

/-- A text filled up on the left with zeros to the given width. -/
def padZero (width : Nat) (text : Text) : Text :=
  List.replicate (width - text.length) '0' ++ text

/-- A whole number in decimal digits, with a minus sign if it is negative. -/
def decimal : Int → Text
  | .ofNat number => digits 10 number
  | .negSucc number => '-' :: digits 10 (number + 1)

/-- The value of a character as a digit in the given base. -/
def digit? (base : Nat) (c : Char) : Option Nat :=
  let value :=
    if c.isDigit then some (c.toNat - '0'.toNat)
    else if 'a' ≤ c ∧ c ≤ 'z' then some (c.toNat - 'a'.toNat + 10)
    else if 'A' ≤ c ∧ c ≤ 'Z' then some (c.toNat - 'A'.toNat + 10)
    else none
  value.filter (· < base)

/-- The number that a text of digits in the given base stands for, continuing from a value. -/
def numberFrom? (base : Nat) : (value : Nat) → Text → Option Nat
  | value, [] => some value
  | value, c :: rest => (digit? base c).bind fun d => numberFrom? base (value * base + d) rest

/-- The number that a non-empty text of digits stands for, if it is at most the given bound. -/
def number? (base bound : Nat) : Text → Option Nat
  | [] => none
  | text => (numberFrom? base 0 text).filter (· ≤ bound)

/-- The same, with one plus sign allowed in front of the digits. -/
def signedNumber? (base bound : Nat) : Text → Option Nat
  | '+' :: text => number? base bound text
  | text => number? base bound text

end Text
end FilePaths
