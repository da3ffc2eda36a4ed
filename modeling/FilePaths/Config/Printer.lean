import FilePaths.Config.Settings
import FilePaths.Yaml.Printer

/-!
# Configurations as YAML

A configuration is written with its settings in a fixed order.  What is absent at the top is left
out, and what is absent in a section is written as nothing.
-/

namespace FilePaths
namespace Config
namespace Printer

/-- The column to which a section is indented. -/
def sectionIndent : Nat := Yaml.Printer.indentStep

/-- A line with a name and a value. -/
def line (indent : Nat) (name : String) (value : Text) : Text :=
  Yaml.Printer.endLine
    (List.replicate indent ' ' ++ name.toList ++ ": ".toList ++ value)

/-- A line with a name whose value follows on the next lines. -/
def heading (indent : Nat) (name : String) : Text :=
  List.replicate indent ' ' ++ name.toList ++ ":\n".toList

/-- A text inside something that is indented to the given column. -/
def scalar (indent : Nat) (text : Text) : Text :=
  Yaml.Printer.scalar (indent + Yaml.Printer.indentStep) text

/-- What is written for an absent value. -/
def absent : Text := "null".toList

/-- An item of a list. -/
def item (indent : Nat) (text : Text) : Text :=
  Yaml.Printer.endLine (List.replicate indent ' ' ++ "- ".toList ++ scalar indent text)

/-- The settings of pattern matching. -/
def glob (part : GlobSection) : Text :=
  let flags :=
    match part.flags with
    | none => line sectionIndent "flags" absent
    | some [] => line sectionIndent "flags" "[]".toList
    | some names => heading sectionIndent "flags" ++ names.flatMap (item sectionIndent)
  heading 0 "glob" ++ flags

/-- The settings of canonical paths. -/
def realpath (part : RealpathSection) : Text :=
  let strategy :=
    match part.strategy with
    | none => absent
    | some strategy => strategy.name.toList
  let maxDepth :=
    match part.maxDepth with
    | none => absent
    | some maxDepth => Text.digits 10 maxDepth
  heading 0 "realpath" ++ line sectionIndent "strategy" strategy ++
    line sectionIndent "max_symlink_depth" maxDepth

/-- What is written for a setting that may be absent. -/
def orNothing {Value : Type} (lines : Value → Text) : Option Value → Text
  | none => []
  | some value => lines value

end Printer

/-- The YAML document of a configuration. -/
def toYaml (config : Config) : Text :=
  let lines :=
    Printer.orNothing Printer.glob config.glob ++
      Printer.orNothing Printer.realpath config.realpath ++
      Printer.orNothing (fun mode => Printer.line 0 "log_mode" (Printer.scalar 0 mode))
        config.logMode ++
      Printer.orNothing
        (fun format => Printer.line 0 "output_format" (OutputFormat.name format).toList)
        config.outputFormat
  if lines = [] then "\x7b\x7d\n".toList else lines

end Config
end FilePaths
