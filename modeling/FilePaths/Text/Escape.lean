import FilePaths.Text.Printable
import FilePaths.Text.Utf8

/-!
# Texts spelled out with backslashes

A message that quotes a text which cannot be shown as it is spells the awkward characters out:
control characters and quotes behind a backslash, every other hidden character by its number.
-/

namespace FilePaths
namespace Text

/-- Which characters are spelled out although they have a shape. -/
structure Spelling where
  /-- Combining characters, which would attach to what stands before them. -/
  combining : Bool
  /-- The single quote. -/
  singleQuote : Bool
  /-- The double quote. -/
  doubleQuote : Bool

/-- Everything that has a spelling is spelled out. -/
def Spelling.full : Spelling := ⟨true, true, true⟩

/-- A character by its number in lower-case hexadecimal digits. -/
def byNumber (c : Char) : Text :=
  '\\' :: 'u' :: '{' :: digits 16 c.toNat ++ ['}']

/-- One character as a message spells it. -/
def spell (spelling : Spelling) (c : Char) : Text :=
  if c = '\x00' then ['\\', '0']
  else if c = '\t' then ['\\', 't']
  else if c = '\r' then ['\\', 'r']
  else if c = '\n' then ['\\', 'n']
  else if c = '\\' then ['\\', '\\']
  else if c = '\'' ∧ spelling.singleQuote then ['\\', '\'']
  else if c = '"' ∧ spelling.doubleQuote then ['\\', '"']
  else if spelling.combining ∧ isCombining c then byNumber c
  else if isPrintable c then [c]
  else byNumber c

/-- A text inside a message: both quotes are spelled out, a combining character only in front,
where it would attach to the message. -/
def escape : Text → Text
  | [] => []
  | c :: rest => spell .full c ++ rest.flatMap (spell ⟨false, true, true⟩)

/-- A text between double quotes. -/
def quote (text : Text) : Text :=
  '"' :: text.flatMap (spell ⟨true, false, true⟩) ++ ['"']

/-- A byte by its two upper-case hexadecimal digits. -/
def spellByte (byte : UInt8) : Text :=
  '\\' :: 'x' :: upper (padZero 2 (digits 16 byte.toNat))

/-- A byte sequence between double quotes, its broken pieces byte by byte. -/
def quoteBytes (bytes : List UInt8) : Text :=
  let body := (Utf8.pieces bytes).flatMap fun
    | .char c => spell .full c
    | .broken bytes => bytes.flatMap spellByte
  '"' :: body ++ ['"']

end Text
end FilePaths
