import FilePaths.Path.Argument

/-!
# Words of a command line

A word is a sequence of bytes, read as characters and broken pieces.  Words that start with a
hyphen may name options: two hyphens and a name, perhaps with a value behind an equals sign, or one
hyphen and letters.
-/

namespace FilePaths
namespace Cli

open Text.Utf8 (Piece)

/-- A word of the command line. -/
abbrev Word := List Piece

/-- What a word looks like. -/
inductive Shape
  /-- Two hyphens and nothing else: no options follow. -/
  | stop
  /-- The name of an option, and a value if an equals sign stands behind the name. -/
  | long (name : Word) (value? : Option Word)
  /-- The letters of options. -/
  | short (letters : Word)
  | plain
  deriving DecidableEq, Repr

namespace Word

/-- The word with the given bytes. -/
def ofBytes (bytes : List UInt8) : Word :=
  Text.Utf8.pieces bytes

/-- The word with the given characters. -/
def ofText (text : Text) : Word :=
  text.map Piece.char

/-- The characters of a word without broken pieces. -/
def text? (word : Word) : Option Text :=
  word.mapM fun
    | .char c => some c
    | .broken _ => none

/-- The characters of a word, broken pieces replaced. -/
def shown (word : Word) : Text :=
  word.map Piece.shown

/-- The bytes of a word. -/
def bytes (word : Word) : List UInt8 :=
  word.flatMap fun
    | .char c => Text.Utf8.encodeChar c
    | .broken bytes => bytes

/-- The word as something that is to become a path. -/
def toArgument (word : Word) : Path.Argument :=
  match text? word with
  | some text => .text text
  | none => .bytes (bytes word)

/-- The piece is an equals sign. -/
def isEquals (piece : Piece) : Bool :=
  piece == .char '='

/-- What a word looks like. -/
def shape : Word → Shape
  | [.char '-', .char '-'] => .stop
  | .char '-' :: .char '-' :: rest =>
      match rest.dropWhile fun piece => !isEquals piece with
      | [] => .long rest none
      | _ :: value => .long (rest.takeWhile fun piece => !isEquals piece) (some value)
  | .char '-' :: letter :: rest => .short (letter :: rest)
  | _ => .plain

/-- The rest of a number behind its first digits: at most one point, and then at most one mark of
an exponent, behind which something must stand. -/
def isNumberFrom : (seenPoint seenMark : Bool) → Text → Bool
  | _, _, [] => true
  | seenPoint, seenMark, c :: rest =>
      if c.isDigit then isNumberFrom seenPoint seenMark rest
      else if c = '.' then !seenPoint && !seenMark && isNumberFrom true seenMark rest
      else if c = 'e' then !seenMark && !rest.isEmpty && isNumberFrom seenPoint true rest
      else false

/-- The letters behind a hyphen are a number. -/
def isNumber (letters : Word) : Bool :=
  match text? letters with
  | none => false
  | some [] => false
  | some (c :: rest) => c.isDigit && isNumberFrom false false rest

end Word
end Cli
end FilePaths
