import FilePaths.Yaml.Cursor
import FilePaths.Yaml.Plain

/-!
# Texts as YAML scalars

A text is written in the least conspicuous way that is read back as the same text: plain where
nothing speaks against it, then between single quotes, then between double quotes with escapes.
Several lines are written as a block.
-/

namespace FilePaths
namespace Yaml
namespace Printer

/-- The character can be shown as it is. -/
def isShown (c : Char) : Bool :=
  let n := c.toNat
  n == 0x0A || (0x20 ≤ n && n ≤ 0x7E) || (0xA0 ≤ n && n ≤ 0xFFFD && n != 0xFEFF) || 0x10000 ≤ n

/-- The character ends a word. -/
def isWordBreak (c : Char) : Bool :=
  isGap c || isBreak c || c == '\x00'

/-- Two neighbours in the text pass one test each. -/
def hasPair (first second : Char → Bool) (text : Text) : Bool :=
  (text.zip (text.drop 1)).any fun pair => first pair.1 && second pair.2

/-- The first character of a text would be read as a mark. -/
def startsWithMark : Text → Bool
  | [] => false
  | c :: rest =>
      "#,[]\x7b\x7d&*!|>'\"%@\x60".toList.contains c ||
        ((c == '?' || c == ':' || c == '-') && (rest.isEmpty || rest.head?.any isWordBreak))

/-- A character inside the text would be read as a mark: a colon at the end of a word, or a number
sign at the start of one. -/
def containsMark (text : Text) : Bool :=
  hasPair (fun c => c == ':') isWordBreak (text.drop 1) ||
    (text.drop 1).getLast? == some ':' ||
    hasPair isWordBreak (fun c => c == '#') text

/-- The text starts like the line between two documents. -/
def startsLikeDocument (text : Text) : Bool :=
  text.take 3 == "---".toList || text.take 3 == "...".toList

/-- The character is not seen at the start or at the end of a text. -/
def isEdge (c : Char) : Bool :=
  c == ' ' || isBreak c

/-- Every character of the text can be shown, and no line ends with a space. -/
def isTidy (text : Text) : Bool :=
  text.all isShown && !hasPair (fun c => c == ' ') isBreak text

/-- The text can be written without quotes. -/
def canBePlain (text : Text) : Bool :=
  isTidy text && !text.any isBreak && !text.head?.any isEdge && !text.getLast?.any isEdge &&
    !startsWithMark text && !containsMark text && !startsLikeDocument text

/-- The text can be written between single quotes. -/
def canBeSingleQuoted (text : Text) : Bool :=
  isTidy text && !hasPair isBreak (fun c => c == ' ') text

/-- The text can be written as a block. -/
def canBeBlock (text : Text) : Bool :=
  !text.isEmpty && isTidy text && text.getLast? != some ' '

/-- The text between single quotes; a quote in it is written twice.  A line end is followed by the
indentation. -/
def singleQuotedFrom (indent : Nat) : (afterBreak : Bool) → Text → Text
  | afterBreak, [] => (if afterBreak then List.replicate indent ' ' else []) ++ ['\'']
  | afterBreak, c :: rest =>
      if isBreak c then c :: singleQuotedFrom indent true rest
      else
        (if afterBreak then List.replicate indent ' ' else []) ++
          (if c == '\'' then ['\'', '\''] else [c]) ++ singleQuotedFrom indent false rest

/-- The letter that stands for a character behind a backslash. -/
def escapeLetter? (c : Char) : Option Char :=
  match c.toNat with
  | 0x00 => some '0'
  | 0x07 => some 'a'
  | 0x08 => some 'b'
  | 0x09 => some 't'
  | 0x0A => some 'n'
  | 0x0B => some 'v'
  | 0x0C => some 'f'
  | 0x0D => some 'r'
  | 0x1B => some 'e'
  | 0x22 => some '"'
  | 0x5C => some '\\'
  | 0x85 => some 'N'
  | 0x2028 => some 'L'
  | 0x2029 => some 'P'
  | _ => none

/-- A character inside double quotes. -/
def doubleQuotedChar (c : Char) : Text :=
  match escapeLetter? c with
  | some letter => ['\\', letter]
  | none =>
      if isShown c then [c]
      else
        let digits := Text.upper (Text.digits 16 c.toNat)
        if c.toNat ≤ 0xFF then '\\' :: 'x' :: Text.padZero 2 digits
        else '\\' :: 'u' :: Text.padZero 4 digits

/-- The lines of a block, each with its indentation if it is not empty. -/
def blockLinesFrom (indent : Nat) : (afterBreak : Bool) → Text → Text
  | _, [] => []
  | afterBreak, c :: rest =>
      if isBreak c then c :: blockLinesFrom indent true rest
      else
        (if afterBreak then List.replicate indent ' ' else []) ++
          c :: blockLinesFrom indent false rest

/-- The mark for the line ends at the end of a block: exactly one is the common case. -/
def chompingMark (text : Text) : Text :=
  match text.reverse with
  | [] => ['-']
  | [last] => if isBreak last then ['+'] else ['-']
  | last :: previous :: _ =>
      if !isBreak last then ['-'] else if isBreak previous then ['+'] else []

/-- The number of spaces by which each level is indented. -/
def indentStep : Nat := 2

/-- A block.  Its indentation is written down where the first line does not show it. -/
def block (indent : Nat) (text : Text) : Text :=
  let indentMark := if text.head?.any isEdge then Text.digits 10 indentStep else []
  ['|'] ++ indentMark ++ chompingMark text ++ ['\n'] ++ blockLinesFrom indent true text

/-- A text between quotes. -/
def quoted (indent : Nat) (text : Text) : Text :=
  if canBeSingleQuoted text then '\'' :: singleQuotedFrom indent false text
  else '"' :: text.flatMap doubleQuotedChar ++ ['"']

/-- A text as a scalar whose further lines, if it has any, are indented to the given column. -/
def scalar (indent : Nat) (text : Text) : Text :=
  if text.contains '\n' then
    if canBeBlock text then block indent text
    else '"' :: text.flatMap doubleQuotedChar ++ ['"']
  else if !Plain.isAmbiguous text && canBePlain text then text
  else quoted indent text

/-- A line, ended unless what stands on it has ended it. -/
def endLine (line : Text) : Text :=
  if line.getLast?.any isBreak then line else line ++ ['\n']

end Printer
end Yaml
end FilePaths
