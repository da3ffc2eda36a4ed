import FilePaths.Text.Basic

/-!
# Structured output

Values that other programs read: texts, numbers, truth values, lists, and records whose fields
keep their order.  They are written as JSON, one value to a line.
-/

namespace FilePaths

/-- A value of structured output. -/
inductive Datum
  | text (value : Text)
  | number (value : Nat)
  | truth (value : Bool)
  | list (items : List Datum)
  | record (fields : List (String × Datum))

namespace Datum

/-- The number of spaces by which each level is indented. -/
def indentStep : Nat := 2

/-- A control character by its number. -/
def controlChar (c : Char) : Text :=
  '\\' :: 'u' :: Text.padZero 4 (Text.digits 16 c.toNat)

/-- One character between double quotes. -/
def quotedChar (c : Char) : Text :=
  if c = '"' then ['\\', '"']
  else if c = '\\' then ['\\', '\\']
  else if c = '\x08' then ['\\', 'b']
  else if c = '\x0c' then ['\\', 'f']
  else if c = '\n' then ['\\', 'n']
  else if c = '\r' then ['\\', 'r']
  else if c = '\t' then ['\\', 't']
  else if c.toNat < 0x20 then controlChar c
  else [c]

/-- A text between double quotes. -/
def quoted (text : Text) : Text :=
  '"' :: text.flatMap quotedChar ++ ['"']

/-- A new line at the given level. -/
def newLine (level : Nat) : Text :=
  '\n' :: List.replicate (indentStep * level) ' '

/-- Parts between a pair of brackets, each on a line of its own; no parts take no line. -/
def bracketed (opening closing : Char) (level : Nat) : List Text → Text
  | [] => [opening, closing]
  | parts =>
      [opening] ++ newLine (level + 1) ++
        Text.intersperse (',' :: newLine (level + 1)) parts ++ newLine level ++ [closing]

mutual

/-- A value as JSON, at the given level. -/
def print (level : Nat) : Datum → Text
  | .text value => quoted value
  | .number value => Text.digits 10 value
  | .truth value => (if value then "true" else "false").toList
  | .list items => bracketed '[' ']' level (printItems (level + 1) items)
  | .record fields => bracketed '{' '}' level (printFields (level + 1) fields)

/-- The items of a list. -/
def printItems (level : Nat) : List Datum → List Text
  | [] => []
  | item :: items => print level item :: printItems level items

/-- The fields of a record. -/
def printFields (level : Nat) : List (String × Datum) → List Text
  | [] => []
  | field :: fields =>
      (quoted field.1.toList ++ ": ".toList ++ print level field.2) ::
        printFields level fields

end

/-- A value as JSON, with a line end. -/
def printLine (datum : Datum) : Text :=
  print 0 datum ++ ['\n']

end Datum
end FilePaths
