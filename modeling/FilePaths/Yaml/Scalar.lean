import FilePaths.Yaml.Cursor
import FilePaths.Yaml.Token

/-!
# Scalars of a YAML stream

A scalar is plain, quoted, or a block of lines.  In the first two a single line end counts as a
space and further ones as line feeds.  Each reader gives the text of the scalar and the place
behind it, or nothing if the stream breaks a rule; the budget of a loop is the number of
characters that are left.
-/

namespace FilePaths
namespace Yaml

/-- What stands between two words of a scalar. -/
structure Gap where
  /-- Spaces and tabs on one line. -/
  blanks : Text := []
  /-- A line has ended. -/
  isBroken : Bool := false
  /-- The first line end. -/
  first : Text := []
  /-- The other line ends. -/
  others : Text := []

namespace Gap

/-- The text that a gap stands for. -/
def text (gap : Gap) : Text :=
  if gap.isBroken then
    if gap.first = ['\n'] then (if gap.others = [] then [' '] else gap.others)
    else gap.first ++ gap.others
  else gap.blanks

/-- Reads a gap.  A tab in front of the least column of the scalar's lines is refused. -/
def read (leastColumn : Nat) : (budget : Nat) → Gap → Cursor → Option (Gap × Cursor)
  | 0, gap, cursor => some (gap, cursor)
  | budget + 1, gap, cursor =>
      if cursor.atGap then
        if gap.isBroken then
          if cursor.at? '\t' && cursor.column < leastColumn then none
          else read leastColumn budget gap (cursor.skip 1)
        else
          read leastColumn budget
            { gap with blanks := gap.blanks ++ cursor.rest.take 1 } (cursor.skip 1)
      else if cursor.atBreak then
        let (lineEnd, after) := cursor.readLine
        if gap.isBroken then
          read leastColumn budget { gap with others := gap.others ++ lineEnd } after
        else
          read leastColumn budget
            { gap with blanks := [], isBroken := true, first := lineEnd } after
      else some (gap, cursor)

end Gap

namespace Scalar

/-! ## Plain scalars -/

/-- The characters that mark flow collections. -/
def isFlowMark (c : Char) : Bool :=
  c == ',' || c == '[' || c == ']' || c == '{' || c == '}'

/-- Reads one word of a plain scalar.  A colon ends it in front of a blank; inside a flow
collection the marks of such collections end it, and a colon must not stand before one. -/
def readWord (inFlow : Bool) : (word : Text) → (rest : Text) → Option (Text × Text)
  | word, [] => some (word.reverse, [])
  | word, c :: rest =>
      if isGap c || isBreak c then some (word.reverse, c :: rest)
      else if inFlow && c == ':' && rest.head?.any (fun c => isFlowMark c || c == '?') then none
      else if (c == ':' && Cursor.isWordEnd rest) || (inFlow && isFlowMark c) then
        some (word.reverse, c :: rest)
      else readWord inFlow (c :: word) rest

/-- Reads the rest of a plain scalar, and says whether a line end follows it. -/
def readPlainFrom (inFlow : Bool) (leastColumn : Nat) :
    (budget : Nat) → (text : Text) → Gap → Cursor → Option (Text × Bool × Cursor)
  | 0, text, gap, cursor => some (text, gap.isBroken, cursor)
  | budget + 1, text, gap, cursor =>
      if cursor.atDocumentMark || cursor.at? '#' then some (text, gap.isBroken, cursor)
      else do
        let (word, _) ← readWord inFlow [] cursor.rest
        let cursor := cursor.skip word.length
        let (text, gap) := if word = [] then (text, gap) else (text ++ gap.text ++ word, {})
        if cursor.atGap || cursor.atBreak then
          let (gap, cursor) ← Gap.read leastColumn (cursor.rest.length + 1) gap cursor
          if !inFlow && cursor.column < leastColumn then some (text, gap.isBroken, cursor)
          else readPlainFrom inFlow leastColumn budget text gap cursor
        else some (text, gap.isBroken, cursor)

/-- Reads a plain scalar. -/
def readPlain (inFlow : Bool) (leastColumn : Nat) (cursor : Cursor) :
    Option (Text × Bool × Cursor) :=
  readPlainFrom inFlow leastColumn (cursor.rest.length + 1) [] {} cursor

/-! ## Quoted scalars -/

/-- The character that a letter behind a backslash stands for. -/
def escaped? : Char → Option Char
  | '0' => some '\x00'
  | 'a' => some '\x07'
  | 'b' => some '\x08'
  | 't' => some '\t'
  | '\t' => some '\t'
  | 'n' => some '\n'
  | 'v' => some '\x0B'
  | 'f' => some '\x0C'
  | 'r' => some '\r'
  | 'e' => some '\x1B'
  | ' ' => some ' '
  | '"' => some '"'
  | '/' => some '/'
  | '\\' => some '\\'
  | 'N' => some '\u0085'
  | '_' => some '\u00A0'
  | 'L' => some '\u2028'
  | 'P' => some '\u2029'
  | _ => none

/-- How many hexadecimal digits follow a letter behind a backslash. -/
def digitCount? : Char → Option Nat
  | 'x' => some 2
  | 'u' => some 4
  | 'U' => some 8
  | _ => none

/-- The character with the given number, if there is one. -/
def charOf? (number : Nat) : Option Char :=
  if number < 0xD800 ∨ (0xE000 ≤ number ∧ number ≤ 0x10FFFF) then some (Char.ofNat number)
  else none

/-- The character that is spelled out behind a backslash, and how many characters that takes. -/
def readEscape : Text → Option (Char × Nat)
  | [] => none
  | letter :: rest =>
      match escaped? letter with
      | some c => some (c, 1)
      | none => do
          let count ← digitCount? letter
          let digits := rest.take count
          if digits.length < count then none
          else do
            let number ← Text.numberFrom? 16 0 digits
            pure (← charOf? number, count + 1)

/-- Reads one word of a quoted scalar, and says whether an escaped line end follows. -/
def readQuotedWord (quote : Char) :
    (budget : Nat) → (word : Text) → Cursor → Option (Text × Bool × Cursor)
  | 0, word, cursor => some (word.reverse, false, cursor)
  | budget + 1, word, cursor =>
      match cursor.rest with
      | [] => some (word.reverse, false, cursor)
      | c :: rest =>
          if isGap c || isBreak c then some (word.reverse, false, cursor)
          else if c == '\'' && quote == '\'' && rest.head? == some '\'' then
            readQuotedWord quote budget ('\'' :: word) (cursor.skip 2)
          else if c == quote then some (word.reverse, false, cursor)
          else if c == '\\' && quote == '"' then
            if rest.head?.any isBreak then
              some (word.reverse, true, (cursor.skip 1).skipLine)
            else do
              let (escaped, count) ← readEscape rest
              readQuotedWord quote budget (escaped :: word) (cursor.skip (count + 1))
          else readQuotedWord quote budget (c :: word) (cursor.skip 1)

/-- Reads the rest of a quoted scalar. -/
def readQuotedFrom (quote : Char) :
    (budget : Nat) → (text : Text) → Cursor → Option (Text × Cursor)
  | 0, _, _ => none
  | budget + 1, text, cursor =>
      if cursor.atDocumentMark || cursor.atEnd then none
      else do
        let (word, isBroken, cursor) ← readQuotedWord quote (cursor.rest.length + 1) [] cursor
        if cursor.at? quote then some (text ++ word, cursor.skip 1)
        else do
          let (gap, cursor) ← Gap.read 0 (cursor.rest.length + 1) { isBroken } cursor
          readQuotedFrom quote budget (text ++ word ++ gap.text) cursor

/-- Reads a scalar between quotes. -/
def readQuoted (quote : Char) (cursor : Cursor) : Option (Text × Cursor) :=
  readQuotedFrom quote (cursor.rest.length + 1) [] (cursor.skip 1)

/-! ## Block scalars -/

/-- What happens to the line ends behind the last line of a block. -/
inductive Chomping
  | strip
  | clip
  | keep
  deriving DecidableEq

/-- The mark for the last line ends of a block, if one stands here. -/
def readChomping (cursor : Cursor) : Option Chomping × Cursor :=
  if cursor.at? '+' then (some .keep, cursor.skip 1)
  else if cursor.at? '-' then (some .strip, cursor.skip 1)
  else (none, cursor)

/-- The digit for the indentation of a block, if one stands here; it must not be zero. -/
def readIndentDigit (cursor : Cursor) : Option (Option Nat × Cursor) :=
  match cursor.peek?.bind (Text.digit? 10) with
  | none => some (none, cursor)
  | some 0 => none
  | some digit => some (some digit, cursor.skip 1)

/-- The marks behind the indicator of a block: what happens to its last line ends, and how far it
is indented.  They may stand in either order. -/
def readHeader (cursor : Cursor) : Option (Chomping × Option Nat × Cursor) := do
  let (chomping?, cursor) := readChomping cursor
  let (indent?, cursor) ← readIndentDigit cursor
  match chomping?, indent? with
  | none, some indent =>
      let (chomping?, cursor) := readChomping cursor
      some (chomping?.getD .clip, some indent, cursor)
  | _, _ => some (chomping?.getD .clip, indent?, cursor)

/-- Reads empty lines and the indentation of the next line.  The indentation may be unknown; then
all spaces count, and the greatest column that was reached comes with the result.  A tab must not
stand where a space would still count. -/
def readIndentation (indent? : Option Nat) :
    (budget : Nat) → (greatest : Nat) → (breaks : Text) → Cursor →
      Option (Nat × Text × Cursor)
  | 0, greatest, breaks, cursor => some (greatest, breaks, cursor)
  | budget + 1, greatest, breaks, cursor =>
      let spaces := (cursor.rest.takeWhile (· == ' ')).length
      let counted :=
        match indent? with
        | none => spaces
        | some indent => min spaces (indent - cursor.column)
      let cursor := cursor.skip counted
      let greatest := max greatest cursor.column
      let isIndented := indent?.any fun indent => indent ≤ cursor.column
      if !isIndented && cursor.at? '\t' then none
      else if cursor.atBreak then
        let (lineEnd, after) := cursor.readLine
        readIndentation indent? budget greatest (breaks ++ lineEnd) after
      else some (greatest, breaks, cursor)

/-- What has been read of a block. -/
structure Block where
  /-- The text so far. -/
  text : Text := []
  /-- The end of the last line. -/
  lineEnd : Text := []
  /-- The ends of the empty lines behind it. -/
  breaks : Text := []
  /-- The last line started with a blank. -/
  isBlank : Bool := false

/-- Reads the lines of a block that are indented to the given column. -/
def readLines (isLiteral : Bool) (indent : Nat) :
    (budget : Nat) → Block → Cursor → Option (Block × Cursor)
  | 0, block, cursor => some (block, cursor)
  | budget + 1, block, cursor =>
      if cursor.column = indent ∧ !cursor.atEnd then do
        let isBlank := cursor.atGap
        let joint :=
          if !isLiteral && block.lineEnd == ['\n'] && !block.isBlank && !isBlank then
            if block.breaks = [] then [' '] else []
          else block.lineEnd
        let (line, cursor) := cursor.take fun c => !isBreak c
        let text := block.text ++ joint ++ block.breaks ++ line
        let (lineEnd, cursor) := cursor.readLine
        let (_, breaks, cursor) ←
          readIndentation (some indent) (cursor.rest.length + 1) 0 [] cursor
        readLines isLiteral indent budget { text, lineEnd, breaks, isBlank } cursor
      else some (block, cursor)

/-- Reads a block scalar inside a collection that is indented to the given column, if any.  An
indentation that is not given is that of the first line, but at least one more than outside. -/
def readBlock (outer : Option Nat) (cursor : Cursor) : Option (Text × Cursor) := do
  let isLiteral := cursor.at? '|'
  let (chomping, given?, cursor) ← readHeader (cursor.skip 1)
  let cursor := (cursor.skipWhile isGap).skipComment
  if !cursor.atLineEnd then none
  else do
    let cursor := cursor.skipLine
    let given? := given?.map fun given => given + outer.getD 0
    let (greatest, breaks, cursor) ←
      readIndentation given? (cursor.rest.length + 1) 0 [] cursor
    let least := (outer.map (· + 1)).getD 0
    let indent := given?.getD (max (max greatest least) 1)
    let (block, cursor) ←
      readLines isLiteral indent (cursor.rest.length + 1) { breaks } cursor
    let tail :=
      match chomping with
      | .strip => []
      | .clip => block.lineEnd
      | .keep => block.lineEnd ++ block.breaks
    some (block.text ++ tail, cursor)

end Scalar
end Yaml
end FilePaths
