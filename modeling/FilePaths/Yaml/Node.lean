import FilePaths.Yaml.Lexer

/-!
# Nodes of a YAML document

A document is a tree of scalars, sequences and mappings, in which a node may stand for another
one that has been given a name.  The tree is built from the tokens of the stream; the budget of
the builders is a bound on the number of their calls.
-/

namespace FilePaths
namespace Yaml

/-- A node of a document. -/
inductive Node
  | scalar (tag? : Option Text) (style : ScalarStyle) (text : Text)
  | sequence (tag? : Option Text) (items : List Node)
  | mapping (tag? : Option Text) (pairs : List (Node × Node))
  | alias (target : Nat)

/-- The node where none is written. -/
def Node.empty : Node := .scalar none .plain []

/-- A node that has been given a name, with the place of its start among all of these. -/
structure Definition where
  /-- What an alias says. -/
  target : Nat
  /-- The place in the order of the starts. -/
  order : Nat
  /-- The node. -/
  node : Node

/-- A document: its root, and the nodes that have been given names. -/
structure Document where
  /-- The outermost node. -/
  root : Node
  /-- The nodes that aliases stand for. -/
  definitions : List Definition

/-- The node that an alias stands for: of all that have been given its number, the last. -/
def Document.target? (document : Document) (target : Nat) : Option Node :=
  let candidates := document.definitions.filter fun definition => definition.target == target
  (candidates.foldl
    (fun best? definition =>
      match best? with
      | none => some definition
      | some best => if best.order < definition.order then some definition else some best)
    none).map Definition.node

/-- The node itself, an alias replaced by what it stands for. -/
def Document.resolve? (document : Document) : Node → Option Node
  | .alias target => document.target? target
  | node => some node

/-- What the builder knows. -/
structure Builder where
  /-- The tokens that are left. -/
  tokens : List Token
  /-- The handles of tags and what they stand for. -/
  handles : List (Text × Text) := []
  /-- The names that have been given, and the numbers of their nodes. -/
  names : List (Text × Nat) := []
  /-- The nodes that have been given names. -/
  definitions : List Definition := []
  /-- The number of nodes that have been given names so far. -/
  count : Nat := 0

namespace Builder

/-- The next token. -/
def peek? (builder : Builder) : Option Token :=
  builder.tokens.head?

/-- The builder behind the next token. -/
def skip (builder : Builder) : Builder :=
  { builder with tokens := builder.tokens.drop 1 }

/-- The next token is one of the given ones. -/
def atAny (builder : Builder) (tokens : List Token) : Bool :=
  builder.peek?.any tokens.contains

/-- Reads the name and the tag in front of a node, in either order. -/
def readProperties (builder : Builder) : Option Text × Option (Text × Text) × Builder :=
  match builder.tokens with
  | .anchor name :: .tag handle suffix :: rest =>
      (some name, some (handle, suffix), { builder with tokens := rest })
  | .tag handle suffix :: .anchor name :: rest =>
      (some name, some (handle, suffix), { builder with tokens := rest })
  | .anchor name :: rest => (some name, none, { builder with tokens := rest })
  | .tag handle suffix :: rest => (none, some (handle, suffix), { builder with tokens := rest })
  | _ => (none, none, builder)

/-- The full name of a tag; its handle must be known. -/
def resolveTag (builder : Builder) : Option (Text × Text) → Option (Option Text)
  | none => some none
  | some (handle, suffix) =>
      if handle = [] then some (some suffix)
      else (builder.handles.lookup handle).map fun start => some (start ++ suffix)

/-- Gives a name to the node that starts here.  A new name takes the next number of a name; a
name that is given again takes it as well. -/
def define (name : Text) (builder : Builder) : Nat × Nat × Builder :=
  let target := builder.names.length
  let names := (name, target) :: builder.names.filter fun entry => entry.1 != name
  (target, builder.count, { builder with names, count := builder.count + 1 })

mutual

/-- Builds a node.  Inside a mapping a sequence need not be indented. -/
def node (budget : Nat) (isBlock allowsFlat : Bool) (builder : Builder) :
    Option (Node × Builder) :=
  match budget with
  | 0 => none
  | budget + 1 =>
      match builder.tokens with
      | .alias name :: rest => do
          some (.alias (← builder.names.lookup name), { builder with tokens := rest })
      | _ => do
          let (name?, written?, builder) := builder.readProperties
          let tag? ← builder.resolveTag written?
          match name? with
          | none => content budget isBlock allowsFlat tag? written?.isSome builder
          | some name =>
              let (target, order, builder) := builder.define name
              let (node, builder) ← content budget isBlock allowsFlat tag? true builder
              let definitions := ⟨target, order, node⟩ :: builder.definitions
              some (node, { builder with definitions })

/-- Builds a node behind its name and tag. -/
def content
    (budget : Nat)
    (isBlock allowsFlat : Bool)
    (tag? : Option Text)
    (mayBeEmpty : Bool)
    (builder : Builder) :
    Option (Node × Builder) :=
  match budget with
  | 0 => none
  | budget + 1 =>
      match builder.peek? with
      | some (.scalar style text) =>
          some (.scalar (tag?.filter (· != ['!'])) style text, builder.skip)
      | some .flowSequenceStart => do
          let (items, builder) ← flowItems budget true builder.skip
          some (.sequence tag? items, builder)
      | some .flowMappingStart => do
          let (pairs, builder) ← flowPairs budget true builder.skip
          some (.mapping tag? pairs, builder)
      | token? =>
          if allowsFlat && token? == some .blockEntry then do
            let (items, builder) ← flatItems budget builder
            some (.sequence tag? items, builder)
          else if isBlock && token? == some .blockSequenceStart then do
            let (items, builder) ← blockItems budget builder.skip
            some (.sequence tag? items, builder)
          else if isBlock && token? == some .blockMappingStart then do
            let (pairs, builder) ← blockPairs budget builder.skip
            some (.mapping tag? pairs, builder)
          else if mayBeEmpty then some (.scalar tag? .plain [], builder)
          else none

/-- Builds a node, or the empty one if one of the given tokens follows. -/
def optional
    (budget : Nat)
    (isBlock allowsFlat : Bool)
    (ends : List Token)
    (builder : Builder) :
    Option (Node × Builder) :=
  match budget with
  | 0 => none
  | budget + 1 =>
      if builder.atAny ends then some (.empty, builder)
      else node budget isBlock allowsFlat builder

/-- Builds the items of a sequence that is indented. -/
def blockItems (budget : Nat) (builder : Builder) : Option (List Node × Builder) :=
  match budget with
  | 0 => none
  | budget + 1 =>
      match builder.peek? with
      | some .blockEntry => do
          let (item, builder) ←
            optional budget true false [.blockEntry, .blockEnd] builder.skip
          let (items, builder) ← blockItems budget builder
          some (item :: items, builder)
      | some .blockEnd => some ([], builder.skip)
      | _ => none

/-- Builds the items of a sequence that is not indented. -/
def flatItems (budget : Nat) (builder : Builder) : Option (List Node × Builder) :=
  match budget with
  | 0 => none
  | budget + 1 =>
      if builder.peek? == some .blockEntry then do
        let (item, builder) ←
          optional budget true false [.blockEntry, .key, .value, .blockEnd] builder.skip
        let (items, builder) ← flatItems budget builder
        some (item :: items, builder)
      else some ([], builder)

/-- Builds the pairs of a mapping that is indented. -/
def blockPairs (budget : Nat) (builder : Builder) : Option (List (Node × Node) × Builder) :=
  match budget with
  | 0 => none
  | budget + 1 =>
      match builder.peek? with
      | some .key => do
          let ends := [.key, .value, .blockEnd]
          let (key, builder) ← optional budget true true ends builder.skip
          let (value, builder) ←
            if builder.peek? == some .value then optional budget true true ends builder.skip
            else some (.empty, builder)
          let (pairs, builder) ← blockPairs budget builder
          some ((key, value) :: pairs, builder)
      | some .blockEnd => some ([], builder.skip)
      | _ => none

/-- Builds the items of a sequence in brackets.  A key in it starts a mapping of one pair. -/
def flowItems (budget : Nat) (isFirst : Bool) (builder : Builder) :
    Option (List Node × Builder) :=
  match budget with
  | 0 => none
  | budget + 1 =>
      if builder.peek? == some .flowSequenceEnd then some ([], builder.skip)
      else do
        let builder ←
          if isFirst then some builder
          else if builder.peek? == some .flowEntry then some builder.skip
          else none
        if builder.peek? == some .flowSequenceEnd then some ([], builder.skip)
        else do
          let (item, builder) ←
            if builder.peek? == some .key then flowPair budget builder.skip
            else node budget false false builder
          let (items, builder) ← flowItems budget false builder
          some (item :: items, builder)

/-- Builds a mapping of one pair inside a sequence in brackets.  Where the key is missing, the
token behind its mark is passed as well. -/
def flowPair (budget : Nat) (builder : Builder) : Option (Node × Builder) :=
  match budget with
  | 0 => none
  | budget + 1 => do
      let (key, builder) ←
        if builder.atAny [.value, .flowEntry, .flowSequenceEnd] then
          some (.empty, builder.skip)
        else node budget false false builder
      let (value, builder) ←
        if builder.peek? == some .value then
          optional budget false false [.flowEntry, .flowSequenceEnd] builder.skip
        else some (.empty, builder)
      some (.mapping none [(key, value)], builder)

/-- Builds the pairs of a mapping in braces. -/
def flowPairs (budget : Nat) (isFirst : Bool) (builder : Builder) :
    Option (List (Node × Node) × Builder) :=
  match budget with
  | 0 => none
  | budget + 1 =>
      if builder.peek? == some .flowMappingEnd then some ([], builder.skip)
      else do
        let builder ←
          if isFirst then some builder
          else if builder.peek? == some .flowEntry then some builder.skip
          else none
        if builder.peek? == some .flowMappingEnd then some ([], builder.skip)
        else do
          let (key, value, builder) ←
            if builder.peek? == some .key then do
              let (key, builder) ←
                optional budget false false [.value, .flowEntry, .flowMappingEnd] builder.skip
              if builder.peek? == some .value then
                let (value, builder) ←
                  optional budget false false [.flowEntry, .flowMappingEnd] builder.skip
                some (key, value, builder)
              else some (key, .empty, builder)
            else do
              let (key, builder) ← node budget false false builder
              some (key, .empty, builder)
          let (pairs, builder) ← flowPairs budget false builder
          some ((key, value) :: pairs, builder)

end

/-- Reads the directives in front of a document: at most one version, which must be known, and
every handle at most once. -/
def readDirectives : (tokens : List Token) → (hasVersion : Bool) → (handles : List (Text × Text)) →
    Option (List (Text × Text) × List Token)
  | .versionDirective major minor :: rest, hasVersion, handles =>
      if !hasVersion && major == 1 && (minor == 1 || minor == 2) then
        readDirectives rest true handles
      else none
  | .tagDirective handle start :: rest, hasVersion, handles =>
      if (handles.lookup handle).isSome then none
      else readDirectives rest hasVersion (handles ++ [(handle, start)])
  | tokens, _, handles => some (handles, tokens)

/-- What the two common handles stand for, unless a directive says otherwise. -/
def commonHandles : List (Text × Text) :=
  [(['!'], ['!']), (['!', '!'], "tag:yaml.org,2002:".toList)]

/-- Builds the root of a document, and checks that nothing follows it. -/
def document (handles : List (Text × Text)) (isExplicit : Bool) (tokens : List Token) :
    Option Document := do
  let builder : Builder := { tokens, handles := handles ++ commonHandles }
  let isEmpty :=
    isExplicit &&
      match tokens with
      | [] => true
      | token :: _ =>
          match token with
          | .versionDirective _ _ => true
          | .tagDirective _ _ => true
          | .documentStart => true
          | .documentEnd => true
          | .streamEnd => true
          | _ => false
  let (root, builder) ←
    if isEmpty then some (.empty, builder)
    else node (4 * tokens.length + 4) true false builder
  if builder.tokens.dropWhile (· == .documentEnd) = [.streamEnd] then
    some ⟨root, builder.definitions⟩
  else none

end Builder

/-- The only document of a stream: none if the stream is empty.  The outer `none` stands for a
stream that breaks a rule or holds several documents. -/
def document? (stream : Text) : Option (Option Document) := do
  let tokens ← tokens? stream
  let (handles, rest) ← Builder.readDirectives tokens false []
  match rest with
  | [.streamEnd] => if rest.length = tokens.length then some none else none
  | .documentStart :: rest => (Builder.document handles true rest).map some
  | _ =>
      if rest.length = tokens.length then (Builder.document handles false rest).map some
      else none

end Yaml
end FilePaths
