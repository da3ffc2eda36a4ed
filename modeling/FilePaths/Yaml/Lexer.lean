import FilePaths.Text.Utf8
import FilePaths.Yaml.Scalar

/-!
# From characters to tokens

The lexer walks over a stream and appends tokens.  A key without a mark of its own is only known
to be one when its colon is found, so the lexer remembers for each open collection where the last
token stands that could be such a key, and puts the mark in front of it later.  Indentation opens
and closes block collections.
-/

namespace FilePaths
namespace Yaml

/-- The place of a token that a colon may still turn into a key. -/
structure Candidate where
  /-- The number of tokens in front of it. -/
  token : Nat
  /-- Where it starts. -/
  cursor : Cursor
  /-- Nothing but a key can stand there. -/
  isRequired : Bool

/-- A candidate that has become too old: its line has ended, or it is too long. -/
def Candidate.isStale (candidate : Candidate) (cursor : Cursor) : Bool :=
  candidate.cursor.line < cursor.line || candidate.cursor.index + 1024 < cursor.index

/-- What the lexer knows. -/
structure Lexer where
  /-- The place in the stream. -/
  cursor : Cursor
  /-- The tokens so far, the last one first. -/
  tokens : List Token := []
  /-- The column of the innermost block collection, if there is one. -/
  indent : Option Nat := none
  /-- The columns of the block collections around it. -/
  outer : List (Option Nat) := []
  /-- The number of open flow collections. -/
  flow : Nat := 0
  /-- The candidates for keys, one for each open flow collection and one for the block. -/
  candidates : List (Option Candidate) := [none]
  /-- A key without a mark may start here. -/
  allowsKey : Bool := true

namespace Lexer

/-- The lexer inside a flow collection. -/
def inFlow (lexer : Lexer) : Bool :=
  lexer.flow != 0

/-- Appends a token. -/
def push (token : Token) (lexer : Lexer) : Lexer :=
  { lexer with tokens := token :: lexer.tokens }

/-- Passes the given number of characters. -/
def skip (count : Nat) (lexer : Lexer) : Lexer :=
  { lexer with cursor := lexer.cursor.skip count }

/-- Sets whether a key may start next. -/
def allowKey (allowsKey : Bool) (lexer : Lexer) : Lexer :=
  { lexer with allowsKey }

/-- Puts a token behind the given number of tokens. -/
def insert (place : Nat) (token : Token) (lexer : Lexer) : Lexer :=
  { lexer with tokens := lexer.tokens.insertIdx (lexer.tokens.length - place) token }

/-- Forgets candidates that have become too old; one that had to be a key is an error. -/
def dropStale (lexer : Lexer) : Option Lexer := do
  let isStale (candidate : Candidate) := candidate.isStale lexer.cursor
  if lexer.candidates.any fun candidate? =>
      candidate?.any fun candidate => candidate.isRequired && isStale candidate then none
  else
    let candidates := lexer.candidates.map fun candidate? =>
      candidate?.filter fun candidate => !isStale candidate
    some { lexer with candidates }

/-- Sets the candidate of the innermost collection. -/
def setCandidate (candidate? : Option Candidate) (lexer : Lexer) : Lexer :=
  { lexer with candidates := candidate? :: lexer.candidates.drop 1 }

/-- The candidate of the innermost collection. -/
def candidate? (lexer : Lexer) : Option Candidate :=
  lexer.candidates.head?.join

/-- Forgets the candidate of the innermost collection; one that had to be a key is an error. -/
def dropCandidate (lexer : Lexer) : Option Lexer :=
  if lexer.candidate?.any Candidate.isRequired then none
  else some (lexer.setCandidate none)

/-- Remembers that the token which starts here may be a key, if one may stand here. -/
def saveCandidate (lexer : Lexer) : Option Lexer :=
  if lexer.allowsKey then do
    let isRequired := !lexer.inFlow && lexer.indent == some lexer.cursor.column
    let lexer ← lexer.dropCandidate
    some (lexer.setCandidate (some ⟨lexer.tokens.length, lexer.cursor, isRequired⟩))
  else some lexer

/-- Opens a block collection at a column, if that is further in than the innermost one.  Its mark
goes behind the given number of tokens. -/
def openBlock (column place : Nat) (token : Token) (lexer : Lexer) : Lexer :=
  if !lexer.inFlow && lexer.indent.all (· < column) then
    { lexer with indent := some column, outer := lexer.indent :: lexer.outer }.insert place token
  else lexer

/-- Closes the block collections that are further in than the given column, of the given number
of collections at most. -/
def closeBlocksFrom (column? : Option Nat) : (count : Nat) → Lexer → Lexer
  | 0, lexer => lexer
  | count + 1, lexer =>
      match lexer.indent with
      | none => lexer
      | some indent =>
          if column?.any (indent ≤ ·) then lexer
          else
            closeBlocksFrom column? count
              { lexer with
                indent := lexer.outer.head?.join
                outer := lexer.outer.drop 1
                tokens := .blockEnd :: lexer.tokens }

/-- Closes the block collections that are further in than the given column, or all of them. -/
def closeBlocks (column? : Option Nat) (lexer : Lexer) : Lexer :=
  if lexer.inFlow then lexer else closeBlocksFrom column? (lexer.outer.length + 1) lexer

/-- Passes blanks, comments and line ends.  A tab is no blank where it could be taken for
indentation. -/
def skipBlanks : (budget : Nat) → Lexer → Lexer
  | 0, lexer => lexer
  | budget + 1, lexer =>
      let cursor := lexer.cursor
      let cursor :=
        if cursor.column == 0 && cursor.at? '\uFEFF' then cursor.skip 1 else cursor
      let allowsTab := lexer.inFlow || !lexer.allowsKey
      let cursor := cursor.skipWhile fun c => c == ' ' || (allowsTab && c == '\t')
      let cursor := cursor.skipComment
      if cursor.atBreak then
        skipBlanks budget
          { lexer with
            cursor := cursor.skipLine
            allowsKey := lexer.allowsKey || !lexer.inFlow }
      else { lexer with cursor }

/-! ## Directives and tags -/

/-- The character may stand in the name of a tag. -/
def isTagChar (isVerbatim : Bool) (c : Char) : Bool :=
  isNameChar c || ";/?:@&=+$.%!~*'()".toList.contains c ||
    (isVerbatim && ",[]".toList.contains c)

/-- The bytes that are spelled out by two hexadecimal digits behind a percent sign each, with the
characters behind them. -/
def readBytes : (budget : Nat) → Text → Option (List UInt8 × Text)
  | 0, text => some ([], text)
  | budget + 1, text =>
      match text with
      | '%' :: high :: low :: rest => do
          let number ← Text.numberFrom? 16 0 [high, low]
          let (bytes, rest) ← readBytes budget rest
          some (UInt8.ofNat number :: bytes, rest)
      | '%' :: _ => none
      | _ => some ([], text)

/-- Resolves the percent signs in the name of a tag. -/
def decodeTagFrom : (budget : Nat) → Text → Option Text
  | 0, _ => some []
  | budget + 1, text =>
      match text with
      | [] => some []
      | '%' :: _ => do
          let (bytes, rest) ← readBytes text.length text
          pure ((← Text.Utf8.decode? bytes) ++ (← decodeTagFrom budget rest))
      | c :: rest => (decodeTagFrom budget rest).map (c :: ·)

/-- Reads the name of a tag behind a start that has been read already; it must not be empty with
that start. -/
def readTagName (isVerbatim : Bool) (start : Text) (cursor : Cursor) :
    Option (Text × Cursor) := do
  let (name, cursor) := cursor.take (isTagChar isVerbatim)
  if start = [] ∧ name = [] then none
  else some (start.drop 1 ++ (← decodeTagFrom name.length name), cursor)

/-- Reads the handle of a tag: a name between exclamation marks, or a start that is none. -/
def readHandle (isDirective : Bool) (cursor : Cursor) : Option (Text × Cursor) :=
  if !cursor.at? '!' then none
  else
    let (name, after) := (cursor.skip 1).take isNameChar
    if after.at? '!' then some ('!' :: name ++ ['!'], after.skip 1)
    else if isDirective && name != [] then none
    else some ('!' :: name, after)

/-- Reads a tag. -/
def readTag (inFlow : Bool) (cursor : Cursor) : Option (Token × Cursor) := do
  let (token, cursor) ←
    if (cursor.skip 1).at? '<' then do
      let (name, cursor) ← readTagName true [] (cursor.skip 2)
      if cursor.at? '>' then some (Token.tag [] name, cursor.skip 1) else none
    else do
      let (handle, after) ← readHandle false cursor
      if 2 ≤ handle.length ∧ handle.getLast? = some '!' then
        let (name, cursor) ← readTagName false [] after
        some (Token.tag handle name, cursor)
      else
        let (name, cursor) ← readTagName false handle after
        some (if name = [] then Token.tag [] ['!'] else Token.tag ['!'] name, cursor)
  if (inFlow && cursor.at? ',') || Cursor.isWordEnd cursor.rest then some (token, cursor)
  else none

/-- Reads a number of at most nine digits. -/
def readVersionPart (cursor : Cursor) : Option (Nat × Cursor) :=
  let (digits, cursor) := cursor.take Char.isDigit
  if 9 < digits.length then none
  else (Text.number? 10 1000000000 digits).map (·, cursor)

/-- Reads a directive up to the end of its line. -/
def readDirective (cursor : Cursor) : Option (Token × Cursor) := do
  let (name, cursor) := (cursor.skip 1).take isNameChar
  if !Cursor.isWordEnd cursor.rest then none
  else do
    let cursor := cursor.skipWhile isGap
    let (token, cursor) ←
      if name = "YAML".toList then do
        let (major, cursor) ← readVersionPart cursor
        if cursor.at? '.' then
          let (minor, cursor) ← readVersionPart (cursor.skip 1)
          some (Token.versionDirective major minor, cursor)
        else none
      else if name = "TAG".toList then do
        let (handle, cursor) ← readHandle true cursor
        if !cursor.atGap then none
        else do
          let (start, cursor) ← readTagName true [] (cursor.skipWhile isGap)
          if Cursor.isWordEnd cursor.rest then some (Token.tagDirective handle start, cursor)
          else none
      else none
    let cursor := (cursor.skipWhile isGap).skipComment
    if cursor.atLineEnd then some (token, cursor.skipLine) else none

/-- Reads the name of an anchor or of an alias. -/
def readAnchor (cursor : Cursor) : Option (Text × Cursor) :=
  let (name, cursor) := (cursor.skip 1).take isNameChar
  let isEnded :=
    Cursor.isWordEnd cursor.rest ||
      cursor.peek?.any fun c => "?:,]\x7d%@".toList.contains c || c == '\x60'
  if name = [] ∨ !isEnded then none else some (name, cursor)

/-! ## Tokens -/

/-- Ends the stream: all block collections are closed on a new line. -/
def finish (lexer : Lexer) : Option Lexer := do
  let lexer ← (lexer.closeBlocks none).dropCandidate
  some (lexer.push .streamEnd)

/-- Closes everything in front of a directive or of a mark of a document. -/
def closeDocument (lexer : Lexer) : Option Lexer := do
  let lexer ← (lexer.closeBlocks none).dropCandidate
  some (lexer.allowKey false)

/-- Reads the start of a flow collection. -/
def openFlow (token : Token) (lexer : Lexer) : Option Lexer := do
  let lexer ← lexer.saveCandidate
  some
    ({ lexer with
        flow := lexer.flow + 1
        candidates := none :: lexer.candidates
        allowsKey := true }.skip 1 |>.push token)

/-- Reads the end of a flow collection. -/
def closeFlow (token : Token) (lexer : Lexer) : Option Lexer := do
  let lexer ← lexer.dropCandidate
  let candidates := if lexer.inFlow then lexer.candidates.drop 1 else lexer.candidates
  some
    ({ lexer with flow := lexer.flow - 1, candidates, allowsKey := false }.skip 1 |>.push token)

/-- Reads a comma inside a flow collection. -/
def flowEntry (lexer : Lexer) : Option Lexer := do
  let lexer ← lexer.dropCandidate
  some ((lexer.allowKey true).skip 1 |>.push .flowEntry)

/-- Opens a block collection here, where one may start. -/
def openBlockHere (token : Token) (lexer : Lexer) : Option Lexer :=
  if lexer.inFlow then some lexer
  else if lexer.allowsKey then
    some (lexer.openBlock lexer.cursor.column lexer.tokens.length token)
  else none

/-- Reads the mark of an entry of a sequence. -/
def blockEntry (lexer : Lexer) : Option Lexer := do
  let lexer ← (← lexer.openBlockHere .blockSequenceStart).dropCandidate
  some ((lexer.allowKey true).skip 1 |>.push .blockEntry)

/-- Reads the mark of a key. -/
def key (lexer : Lexer) : Option Lexer := do
  let lexer ← (← lexer.openBlockHere .blockMappingStart).dropCandidate
  some ((lexer.allowKey !lexer.inFlow).skip 1 |>.push .key)

/-- Reads the mark of a value, and marks the key in front of it. -/
def value (lexer : Lexer) : Option Lexer := do
  let lexer ←
    match lexer.candidate? with
    | some candidate =>
        let lexer := lexer.insert candidate.token .key
        let lexer :=
          lexer.openBlock candidate.cursor.column candidate.token .blockMappingStart
        some ((lexer.setCandidate none).allowKey false)
    | none => do
        let lexer ← lexer.openBlockHere .blockMappingStart
        some (lexer.allowKey !lexer.inFlow)
  some (lexer.skip 1 |>.push .value)

/-- Appends a token that may be a key and has been read up to the given place. -/
def node (read : Option (Token × Cursor)) (lexer : Lexer) : Option Lexer := do
  let lexer ← lexer.saveCandidate
  let (token, cursor) ← read
  some ({ lexer with cursor, allowsKey := false }.push token)

/-- Reads a plain scalar. -/
def plain (lexer : Lexer) : Option Lexer := do
  let least := (lexer.indent.map (· + 1)).getD 0
  let lexer ← lexer.saveCandidate
  let (text, isBroken, cursor) ← Scalar.readPlain lexer.inFlow least lexer.cursor
  some ({ lexer with cursor, allowsKey := isBroken }.push (.scalar .plain text))

/-- Reads a block scalar. -/
def block (style : ScalarStyle) (lexer : Lexer) : Option Lexer := do
  let lexer ← lexer.dropCandidate
  let (text, cursor) ← Scalar.readBlock lexer.indent lexer.cursor
  some ({ lexer with cursor, allowsKey := true }.push (.scalar style text))

/-- A plain scalar may start with the first of two characters. -/
def startsPlain (inFlow : Bool) (c : Char) (rest : Text) : Bool :=
  if c == '-' then !rest.head?.any isGap
  else if c == '?' || c == ':' then !inFlow && !Cursor.isWordEnd rest
  else !(",[]\x7b\x7d#&*!|>'\"%@".toList.contains c || c == '\x60' || isGap c || isBreak c)

/-- Reads one token, or, if the stream has ended, closes everything. -/
def step (lexer : Lexer) : Option Lexer := do
  let lexer := lexer.skipBlanks (lexer.cursor.rest.length + 1)
  let lexer ← lexer.dropStale
  let cursor := lexer.cursor
  let lexer := lexer.closeBlocks (some cursor.column)
  match cursor.rest with
  | [] => lexer.finish
  | c :: rest =>
      let isWordEnd := Cursor.isWordEnd rest
      if cursor.column == 0 && c == '%' then
        let lexer ← lexer.closeDocument
        let (token, cursor) ← readDirective cursor
        some ({ lexer with cursor }.push token)
      else if cursor.atDocumentMark then
        let lexer ← lexer.closeDocument
        some (lexer.skip 3 |>.push (if c == '-' then .documentStart else .documentEnd))
      else if c == '[' then lexer.openFlow .flowSequenceStart
      else if c == '{' then lexer.openFlow .flowMappingStart
      else if c == ']' then lexer.closeFlow .flowSequenceEnd
      else if c == '}' then lexer.closeFlow .flowMappingEnd
      else if c == ',' then lexer.flowEntry
      else if c == '-' && isWordEnd then lexer.blockEntry
      else if c == '?' && (lexer.inFlow || isWordEnd) then lexer.key
      else if c == ':' && (lexer.inFlow || isWordEnd) then lexer.value
      else if c == '*' then
        lexer.node ((readAnchor cursor).map fun (name, cursor) => (.alias name, cursor))
      else if c == '&' then
        lexer.node ((readAnchor cursor).map fun (name, cursor) => (.anchor name, cursor))
      else if c == '!' then lexer.node (readTag lexer.inFlow cursor)
      else if c == '|' && !lexer.inFlow then lexer.block .literal
      else if c == '>' && !lexer.inFlow then lexer.block .folded
      else if c == '\'' then
        lexer.node ((Scalar.readQuoted '\'' cursor).map fun (text, cursor) =>
          (.scalar .singleQuoted text, cursor))
      else if c == '"' then
        lexer.node ((Scalar.readQuoted '"' cursor).map fun (text, cursor) =>
          (.scalar .doubleQuoted text, cursor))
      else if startsPlain lexer.inFlow c rest then lexer.plain
      else none

/-- Reads tokens until the stream has ended. -/
def run : (budget : Nat) → Lexer → Option (List Token)
  | 0, _ => none
  | budget + 1, lexer => do
      let lexer ← lexer.step
      if lexer.tokens.head? == some .streamEnd then some lexer.tokens.reverse
      else run budget lexer

end Lexer

/-- The tokens of a stream, if it keeps to the rules.  A mark of the byte order in front of the
stream does not count. -/
def tokens? (stream : Text) : Option (List Token) :=
  let stream := if stream.head? = some '\uFEFF' then stream.drop 1 else stream
  if stream.all isAllowed then
    Lexer.run (stream.length + 1) { cursor := { rest := stream } }
  else none

end Yaml
end FilePaths
