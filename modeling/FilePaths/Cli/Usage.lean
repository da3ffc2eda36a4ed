import FilePaths.Cli.Command
import FilePaths.Cli.Word

/-!
# What can be given on the command line

Switches are given without a value and options with one; positional arguments have no name.  What
is given without a name stands for the next argument of a list that belongs to the command.
-/

namespace FilePaths
namespace Cli

/-- What is given without a value. -/
inductive Switch
  | verbose
  | quiet
  | lstat
  | absolute
  | help
  | version
  deriving DecidableEq, Repr

namespace Switch

/-- The name of a switch. -/
def name : Switch → String
  | .verbose => "verbose"
  | .quiet => "quiet"
  | .lstat => "lstat"
  | .absolute => "absolute"
  | .help => "help"
  | .version => "version"

/-- The letter of a switch, if it has one. -/
def letter? : Switch → Option Char
  | .help => some 'h'
  | .version => some 'V'
  | _ => none

end Switch

/-- What is given with a value, or is a value. -/
inductive Slot
  | config
  | format
  | base
  | flag
  | level
  | path
  | rawPath
  | pattern
  | part
  | suffix
  | first
  | second
  | predicate
  | shell
  deriving DecidableEq, Repr

namespace Slot

/-- The name of an option; a positional argument has none. -/
def name? : Slot → Option String
  | .config => some "config"
  | .format => some "format"
  | .base => some "base"
  | .flag => some "flag"
  | .level => some "level"
  | _ => none

/-- The letter of an option, if it has one. -/
def letter? : Slot → Option Char
  | .flag => some 'f'
  | .level => some 'n'
  | _ => none

/-- The value may start with a hyphen. -/
def allowsHyphens : Slot → Bool
  | .path => true
  | .rawPath => true
  | .pattern => true
  | .part => true
  | _ => false

/-- The value may be a negative number. -/
def allowsNegative : Slot → Bool
  | .level => true
  | _ => false

/-- Several values may be given. -/
def repeats : Slot → Bool
  | .flag => true
  | .part => true
  | _ => false

/-- The argument need not be given. -/
def isOptional : Slot → Bool
  | .suffix => true
  | .part => true
  | _ => false

end Slot

/-- A value. -/
inductive Value
  | text (text : Text)
  | path (path : Path.Argument)
  | format (format : OutputFormat)
  | number (number : Int)
  | predicate (predicate : Predicate)
  | shell (shell : Shell)
  deriving DecidableEq, Repr

/-- The least number of an option. -/
def leastNumber : Int := -0x8000000000000000

/-- The greatest number of an option. -/
def greatestNumber : Int := 0x7FFFFFFFFFFFFFFF

/-- The whole number that a text stands for: digits, perhaps behind a sign. -/
def wholeNumber? (text : Text) : Option Int :=
  let number? : Option Int :=
    match text with
    | '-' :: digits => (Text.number? 10 greatestWord digits).map fun number => -Int.ofNat number
    | _ => (Text.signedNumber? 10 greatestWord text).map Int.ofNat
  number?.filter fun number => leastNumber ≤ number && number ≤ greatestNumber

namespace Slot

/-- The path in a word, which must not be empty. -/
def path? (word : Word) : Option Value :=
  if word = [] then none else some (.path word.toArgument)

/-- Reads a value. -/
def read? (slot : Slot) (word : Word) : Option Value :=
  match slot with
  | .config => path? word
  | .rawPath => path? word
  | .format => do pure (.format (← OutputFormat.ofText? (← word.text?)))
  | .level => do pure (.number (← wholeNumber? (← word.text?)))
  | .predicate => do pure (.predicate (← Predicate.ofName? (← word.text?)))
  | .shell => do pure (.shell (← Shell.ofName? (← word.text?)))
  | _ => do pure (.text (← word.text?))

end Slot

/-- What can be given at one level of the command line. -/
structure Usage where
  /-- The switches. -/
  switches : List Switch
  /-- The options. -/
  options : List Slot
  /-- The positional arguments in order; only the last one repeats. -/
  positionals : List Slot

namespace Usage

/-- The switch with the given name. -/
def switch? (usage : Usage) (name : Text) : Option Switch :=
  usage.switches.find? fun switch => switch.name.toList == name

/-- The option with the given name. -/
def option? (usage : Usage) (name : Text) : Option Slot :=
  usage.options.find? fun slot => slot.name?.map String.toList == some name

/-- The switch with the given letter. -/
def switchOf? (usage : Usage) (letter : Char) : Option Switch :=
  usage.switches.find? fun switch => switch.letter? == some letter

/-- The option with the given letter. -/
def optionOf? (usage : Usage) (letter : Char) : Option Slot :=
  usage.options.find? fun slot => slot.letter? == some letter

/-- The piece is the letter of a switch or an option. -/
def knows (usage : Usage) : Text.Utf8.Piece → Bool
  | .char letter => (usage.switchOf? letter).isSome || (usage.optionOf? letter).isSome
  | .broken _ => false

/-- What can be given everywhere, together with what else can be given. -/
def common (switches : List Switch) (options positionals : List Slot) : Usage where
  switches := .verbose :: .quiet :: .help :: switches
  options := .config :: .format :: options
  positionals := positionals

/-- What can be given in front of the command. -/
def front : Usage :=
  common [.version] [] []

end Usage

/-- The names of commands. -/
inductive Verb
  | basename
  | dirname
  | extname
  | join
  | split
  | expand
  | fnmatch
  | braces
  | realpath
  | realdirpath
  | stat
  | ftype
  | test
  | identical
  | completions
  deriving DecidableEq, Repr

namespace Verb

/-- All commands. -/
def all : List Verb :=
  [.basename, .dirname, .extname, .join, .split, .expand, .fnmatch, .braces, .realpath,
    .realdirpath, .stat, .ftype, .test, .identical, .completions]

/-- The name of a command. -/
def name : Verb → String
  | .basename => "basename"
  | .dirname => "dirname"
  | .extname => "extname"
  | .join => "join"
  | .split => "split"
  | .expand => "expand"
  | .fnmatch => "fnmatch"
  | .braces => "braces"
  | .realpath => "realpath"
  | .realdirpath => "realdirpath"
  | .stat => "stat"
  | .ftype => "ftype"
  | .test => "test"
  | .identical => "identical"
  | .completions => "completions"

/-- The command that a word names. -/
def ofWord? (word : Word) : Option Verb :=
  all.find? fun verb => Word.ofText verb.name.toList == word

/-- What can be given behind the name of a command. -/
def usage : Verb → Usage
  | .basename => .common [] [] [.path, .suffix]
  | .dirname => .common [] [.level] [.path]
  | .extname => .common [] [] [.path]
  | .join => .common [] [] [.part]
  | .split => .common [] [] [.path]
  | .expand => .common [.absolute] [.base] [.rawPath]
  | .fnmatch => .common [] [.flag] [.pattern, .path]
  | .braces => .common [] [.flag] [.pattern]
  | .realpath => .common [] [.base] [.rawPath]
  | .realdirpath => .common [] [.base] [.rawPath]
  | .stat => .common [.lstat] [] [.path]
  | .ftype => .common [] [] [.path]
  | .test => .common [] [] [.predicate, .path]
  | .identical => .common [] [] [.first, .second]
  | .completions => .common [] [] [.shell]

end Verb

end Cli
end FilePaths
