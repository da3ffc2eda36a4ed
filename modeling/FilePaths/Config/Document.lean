import FilePaths.Config.Settings
import FilePaths.Yaml.Node
import FilePaths.Yaml.Plain

/-!
# Configurations from YAML

A configuration is a mapping of known names, each at most once.  A setting that is written as
nothing is absent.  Where a text is wanted, every scalar will do, whatever else it may stand for.
-/

namespace FilePaths
namespace Config
namespace Document

open Yaml (Node)

/-- The tag of a node that stands for nothing. -/
def nullTag : Text :=
  "tag:yaml.org,2002:null".toList

/-- The tag of a node that stands for a whole number. -/
def wholeTag : Text :=
  "tag:yaml.org,2002:int".toList

/-- Reads a node that may stand for nothing.  A plain scalar does so if it is empty or one of the
words for nothing, unless a tag says otherwise. -/
def optional?
    {Value : Type}
    (value? : Node → Option Value) :
    (node : Node) → Option (Option Value)
  | .scalar tag? .plain text =>
      if tag? = some nullTag then (if Yaml.Plain.isNull text then some none else none)
      else if tag?.isNone && (text.isEmpty || Yaml.Plain.isNull text) then some none
      else (value? (.scalar tag? .plain text)).map some
  | node => (value? node).map some

/-- Reads a text. -/
def text? : Node → Option Text
  | .scalar _ _ text => some text
  | _ => none

/-- Reads a whole number that fits an unsigned machine word. -/
def word? : Node → Option Nat
  | .scalar tag? style text =>
      if style = .plain ∨ style = .literal ∧ tag? = some wholeTag then
        Yaml.Plain.unsigned? greatestWord text
      else none
  | _ => none

/-- Reads one of several names.  A tag of its own may be the name; then nothing else must stand
there. -/
def choice?
    {Value : Type}
    (ofName? : Text → Option Value) :
    (node : Node) → Option Value
  | .scalar tag? style text =>
      match tag? with
      | some ('!' :: name) =>
          if style = .plain ∧ (text = [] ∨ Yaml.Plain.isNull text) then ofName? name else none
      | _ => ofName? text
  | _ => none

/-- The items of a sequence; the empty plain scalar has none. -/
def items? : Node → Option (List Node)
  | .sequence _ items => some items
  | .scalar _ .plain [] => some []
  | _ => none

/-- The pairs of a mapping; the empty plain scalar has none. -/
def pairs? : Node → Option (List (Node × Node))
  | .mapping _ pairs => some pairs
  | .scalar _ .plain [] => some []
  | _ => none

/-- Reads a node, an alias being replaced by what it stands for. -/
def through
    {Value : Type}
    (document : Yaml.Document)
    (value? : Node → Option Value)
    (node : Node) :
    Option Value :=
  (document.resolve? node).bind value?

/-- The values of a mapping by their names, all of which must be known and different. -/
def fields?
    (document : Yaml.Document)
    (names : List String)
    (node : Node) :
    Option (List (Text × Node)) := do
  let pairs ← pairs? node
  let fields ← pairs.mapM fun pair => do
    pure (← through document text? pair.1, pair.2)
  let found := fields.map Prod.fst
  if found.Nodup ∧ found.all (names.map String.toList).contains then some fields else none

/-- Reads the setting of a name; it may be missing. -/
def setting?
    {Value : Type}
    (document : Yaml.Document)
    (fields : List (Text × Node))
    (name : String)
    (value? : Node → Option Value) :
    Option (Option Value) :=
  match fields.lookup name.toList with
  | none => some none
  | some node => through document (optional? value?) node

/-- Reads the settings of pattern matching. -/
def glob? (document : Yaml.Document) (node : Node) : Option GlobSection := do
  let fields ← fields? document ["flags"] node
  let flags ← setting? document fields "flags" fun node => do
    (← items? node).mapM (through document text?)
  pure { flags }

/-- Reads the settings of canonical paths. -/
def realpath? (document : Yaml.Document) (node : Node) : Option RealpathSection := do
  let fields ← fields? document ["strategy", "max_symlink_depth"] node
  let strategy ← setting? document fields "strategy" (choice? Strategy.ofName?)
  let maxDepth ← setting? document fields "max_symlink_depth" word?
  pure { strategy, maxDepth }

/-- Reads a configuration. -/
def config? (document : Yaml.Document) (node : Node) : Option Config := do
  let fields ← fields? document ["glob", "realpath", "log_mode", "output_format"] node
  let glob ← setting? document fields "glob" (glob? document)
  let realpath ← setting? document fields "realpath" (realpath? document)
  let logMode ← setting? document fields "log_mode" text?
  let outputFormat ← setting? document fields "output_format" (choice? OutputFormat.ofName?)
  pure { glob, realpath, logMode, outputFormat }

end Document

/-- The configuration that a YAML stream stands for.  An empty stream has no settings. -/
def ofYaml? (stream : Text) : Option Config :=
  match Yaml.document? stream with
  | none => none
  | some none => some {}
  | some (some document) => Document.config? document document.root

end Config
end FilePaths
