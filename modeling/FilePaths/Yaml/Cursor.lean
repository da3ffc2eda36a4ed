import FilePaths.Text.Basic

/-!
# Places in a YAML stream

A cursor is a place in a stream: the characters that are left, and how far the place is from the
start of the stream and of its line.
-/

namespace FilePaths
namespace Yaml

/-- The character may stand in a stream. -/
def isAllowed (c : Char) : Bool :=
  let n := c.toNat
  n == 0x09 || n == 0x0A || n == 0x0D || (0x20 ≤ n && n ≤ 0x7E) || n == 0x85 ||
    (0xA0 ≤ n && n ≤ 0xFFFD) || 0x10000 ≤ n

/-- The character ends a line. -/
def isBreak (c : Char) : Bool :=
  c == '\n' || c == '\r' || c == '\u0085' || c == '\u2028' || c == '\u2029'

/-- The character is a space or a tab. -/
def isGap (c : Char) : Bool :=
  c == ' ' || c == '\t'

/-- The character may stand in a name. -/
def isNameChar (c : Char) : Bool :=
  c.isAlphanum || c == '_' || c == '-'

/-- A place in a stream. -/
structure Cursor where
  /-- The characters that are left. -/
  rest : Text
  /-- The number of characters before the place. -/
  index : Nat := 0
  /-- The number of lines before the place. -/
  line : Nat := 0
  /-- The number of characters between the start of the line and the place. -/
  column : Nat := 0
  deriving Repr

namespace Cursor

/-- The next character. -/
def peek? (cursor : Cursor) : Option Char :=
  cursor.rest.head?

/-- The next character is the given one. -/
def at? (cursor : Cursor) (c : Char) : Bool :=
  cursor.peek? == some c

/-- The stream has ended. -/
def atEnd (cursor : Cursor) : Bool :=
  cursor.rest.isEmpty

/-- The next character ends a line. -/
def atBreak (cursor : Cursor) : Bool :=
  cursor.peek?.any isBreak

/-- The next character is a space or a tab. -/
def atGap (cursor : Cursor) : Bool :=
  cursor.peek?.any isGap

/-- The line or the stream ends here. -/
def atLineEnd (cursor : Cursor) : Bool :=
  cursor.atEnd || cursor.atBreak

/-- A word ends in front of the given text. -/
def isWordEnd : Text → Bool
  | [] => true
  | c :: _ => isGap c || isBreak c

/-- The given number of characters, none of which ends a line, are passed. -/
def skip (cursor : Cursor) (count : Nat) : Cursor :=
  { cursor with
    rest := cursor.rest.drop count
    index := cursor.index + count
    column := cursor.column + count }

/-- The characters up to the first one that fails the test, and the place of that one. -/
def take (cursor : Cursor) (test : Char → Bool) : Text × Cursor :=
  let taken := cursor.rest.takeWhile test
  (taken, cursor.skip taken.length)

/-- The place of the first character that fails the test. -/
def skipWhile (cursor : Cursor) (test : Char → Bool) : Cursor :=
  (cursor.take test).2

/-- The place behind a line end of the given number of characters. -/
def nextLine (cursor : Cursor) (count : Nat) : Cursor where
  rest := cursor.rest.drop count
  index := cursor.index + count
  line := cursor.line + 1
  column := 0

/-- A line end as it counts in a scalar, and the place behind it.  All line ends become a line
feed, except the two that separate lines and paragraphs of text. -/
def readLine (cursor : Cursor) : Text × Cursor :=
  match cursor.rest with
  | '\r' :: '\n' :: _ => (['\n'], cursor.nextLine 2)
  | c :: _ =>
      if isBreak c then
        ([if c == '\u2028' || c == '\u2029' then c else '\n'], cursor.nextLine 1)
      else ([], cursor)
  | [] => ([], cursor)

/-- The place behind a line end, if there is one. -/
def skipLine (cursor : Cursor) : Cursor :=
  cursor.readLine.2

/-- A line that starts here marks the start or the end of a document. -/
def atDocumentMark (cursor : Cursor) : Bool :=
  cursor.column == 0 &&
    match cursor.rest with
    | '-' :: '-' :: '-' :: rest => isWordEnd rest
    | '.' :: '.' :: '.' :: rest => isWordEnd rest
    | _ => false

/-- The place behind a comment, if one starts here. -/
def skipComment (cursor : Cursor) : Cursor :=
  if cursor.at? '#' then cursor.skipWhile fun c => !isBreak c else cursor

end Cursor
end Yaml
end FilePaths
