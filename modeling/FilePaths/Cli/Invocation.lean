import FilePaths.Cli.Usage
import FilePaths.System.Host

/-!
# Reading a command line

The words of a command line are read one after the other.  In front of the name of a command stand
switches and options that hold everywhere; behind it they may stand as well, together with those of
the command and its positional arguments.  An option takes the next word as its value unless an
equals sign joins one to it, and values are looked at when the next thing is given.
-/

namespace FilePaths
namespace Cli

/-- Why a command line asks for no command. -/
inductive Detour
  /-- It asks for information about the program. -/
  | information
  /-- It makes no sense. -/
  | misuse
  deriving DecidableEq, Repr

/-- The code that the program ends with. -/
def Detour.exitCode : Detour → Nat
  | .information => 0
  | .misuse => 2

/-- What the next word is for, if that is settled. -/
inductive Expectation
  | nothing
  /-- The value of an option. -/
  | value (slot : Slot)
  /-- One more of a list of arguments. -/
  | more (slot : Slot)
  deriving DecidableEq, Repr

/-- What has been read at one level of the command line. -/
structure Progress where
  /-- The switches that have been given. -/
  switches : List Switch := []
  /-- The values that have been given. -/
  values : List (Slot × Value) := []
  /-- The words of the latest argument, not looked at yet. -/
  pending : Option (Slot × List Word) := none
  /-- What the next word is for. -/
  expected : Expectation := .nothing
  /-- The number of positional arguments that are complete. -/
  position : Nat := 0
  /-- No options follow. -/
  isTrailing : Bool := false

namespace Progress

/-- A value has been given for a slot. -/
def has (progress : Progress) (slot : Slot) : Bool :=
  progress.values.any fun entry => entry.1 == slot

/-- Adds the values of an argument.  Only some arguments may be given again. -/
def give (slot : Slot) (words : List Word) (progress : Progress) : Except Detour Progress :=
  if words = [] ∨ progress.has slot ∧ !slot.repeats then .error .misuse
  else
    match words.mapM slot.read? with
    | none => .error .misuse
    | some values =>
        .ok { progress with values := progress.values ++ values.map fun value => (slot, value) }

/-- Looks at the words of the latest argument. -/
def settle (progress : Progress) : Except Detour Progress :=
  match progress.pending with
  | none => .ok progress
  | some (slot, words) => give slot words { progress with pending := none }

/-- Turns a switch on, which must not be on.  A request for information ends the reading. -/
def flip (switch : Switch) (progress : Progress) : Except Detour Progress := do
  let progress ← progress.settle
  if switch = .help ∨ switch = .version then .error .information
  else if switch ∈ progress.switches then .error .misuse
  else pure { progress with switches := switch :: progress.switches, expected := .nothing }

/-- Starts an option, with its value if that is joined to it. -/
def start (slot : Slot) (value? : Option Word) (progress : Progress) : Except Detour Progress := do
  let progress ← progress.settle
  match value? with
  | some value => give slot [value] { progress with expected := .nothing }
  | none => pure { progress with pending := some (slot, []), expected := .value slot }

/-- The slot that the next word is for, if that is settled. -/
def expectedSlot? (progress : Progress) : Option Slot :=
  match progress.expected with
  | .nothing => none
  | .value slot => some slot
  | .more slot => some slot

/-- The next positional argument. -/
def positional? (usage : Usage) (progress : Progress) : Option Slot :=
  usage.positionals[progress.position]?

/-- The word that is expected may start with a hyphen. -/
def expectsHyphens (progress : Progress) : Bool :=
  progress.expectedSlot?.any Slot.allowsHyphens

/-- Reads the name of an option.  There is no result if the word may be a value. -/
def readLong
    (usage : Usage)
    (name : Word)
    (value? : Option Word)
    (progress : Progress) :
    Except Detour (Option Progress) :=
  if progress.expectsHyphens then .ok none
  else
    match name.text?.bind usage.switch?, name.text?.bind usage.option? with
    | some switch, _ =>
        if value?.isSome then .error .misuse else (progress.flip switch).map some
    | none, some slot => (progress.start slot value?).map some
    | none, none =>
        if (progress.positional? usage).any Slot.allowsHyphens then .ok none
        else .error .misuse

/-- Reads letters of switches, and perhaps the letter of an option with its value. -/
def readLetters (usage : Usage) : Word → Progress → Except Detour Progress
  | [], progress => .ok progress
  | .broken _ :: _, _ => .error .misuse
  | .char letter :: rest, progress =>
      match usage.switchOf? letter, usage.optionOf? letter with
      | some switch, _ => do readLetters usage rest (← progress.flip switch)
      | none, some slot =>
          match rest with
          | [] => progress.start slot none
          | .char '=' :: value => progress.start slot (some value)
          | value => progress.start slot (some value)
      | none, none => .error .misuse

/-- Reads the letters behind a hyphen.  There is no result if the word may be a value. -/
def readShort (usage : Usage) (letters : Word) (progress : Progress) :
    Except Detour (Option Progress) :=
  if progress.expectsHyphens ||
      (progress.expectedSlot?.any Slot.allowsNegative && Word.isNumber letters) then .ok none
  else if (progress.positional? usage).any Slot.allowsHyphens &&
      letters.any (fun letter => !usage.knows letter) then .ok none
  else (readLetters usage letters progress).map some

/-- Takes a word as a positional argument. -/
def readPositional (usage : Usage) (word : Word) (progress : Progress) :
    Except Detour Progress :=
  match progress.positional? usage with
  | none => .error .misuse
  | some slot =>
      if slot.repeats then
        match progress.pending with
        | some (.part, words) =>
            .ok { progress with pending := some (slot, words ++ [word]), expected := .more slot }
        | _ => do
            let progress ← progress.settle
            pure { progress with pending := some (slot, [word]), expected := .more slot }
      else do
        let progress ← progress.settle
        pure
          { progress with
            pending := some (slot, [word])
            expected := .nothing
            position := progress.position + 1 }

/-- Takes a word as a value. -/
def readValue (usage : Usage) (word : Word) (progress : Progress) : Except Detour Progress :=
  match progress.expected with
  | .value slot => .ok { progress with pending := some (slot, [word]), expected := .nothing }
  | _ => progress.readPositional usage word

/-- Reads a word. -/
def readWord (usage : Usage) (word : Word) (progress : Progress) : Except Detour Progress :=
  if progress.isTrailing then progress.readPositional usage word
  else
    match word.shape with
    | .plain => progress.readValue usage word
    | .stop =>
        if progress.expectsHyphens then progress.readValue usage word
        else .ok { progress with isTrailing := true }
    | .long name value? => do
        match ← progress.readLong usage name value? with
        | some progress => pure progress
        | none => progress.readValue usage word
    | .short letters => do
        match ← progress.readShort usage letters with
        | some progress => pure progress
        | none => progress.readValue usage word

/-- Reads words to their end. -/
def readAll (usage : Usage) : List Word → Progress → Except Detour Progress
  | [], progress => progress.settle
  | word :: words, progress => do readAll usage words (← progress.readWord usage word)

/-- Every argument has been given that must be. -/
def isComplete (usage : Usage) (progress : Progress) : Bool :=
  usage.positionals.all fun slot => slot.isOptional || progress.has slot

/-- The values that have been given for a slot. -/
def valuesOf (progress : Progress) (slot : Slot) : List Value :=
  (progress.values.filter fun entry => entry.1 == slot).map Prod.snd

/-- The texts that have been given for a slot. -/
def texts (progress : Progress) (slot : Slot) : List Text :=
  (progress.valuesOf slot).filterMap fun
    | .text text => some text
    | _ => none

/-- The path that has been given for a slot. -/
def path? (progress : Progress) (slot : Slot) : Option Path.Argument :=
  (progress.valuesOf slot).head?.bind fun
    | .path path => some path
    | _ => none

/-- The text that has been given for a slot. -/
def text? (progress : Progress) (slot : Slot) : Option Text :=
  (progress.texts slot).head?

/-- The output format that has been given. -/
def format? (progress : Progress) : Option OutputFormat :=
  (progress.valuesOf .format).head?.bind fun
    | .format format => some format
    | _ => none

/-- The number of levels that has been given. -/
def level? (progress : Progress) : Option Int :=
  (progress.valuesOf .level).head?.bind fun
    | .number level => some level
    | _ => none

/-- The question that has been given. -/
def predicate? (progress : Progress) : Option Predicate :=
  (progress.valuesOf .predicate).head?.bind fun
    | .predicate predicate => some predicate
    | _ => none

/-- The shell that has been given. -/
def shell? (progress : Progress) : Option Shell :=
  (progress.valuesOf .shell).head?.bind fun
    | .shell shell => some shell
    | _ => none

end Progress

/-- The number of levels that a directory is away, unless another one is given. -/
def defaultLevel : Int := 1

/-- The command with the arguments that have been given for it. -/
def Verb.command? (verb : Verb) (given : Progress) : Option Command :=
  match verb with
  | .basename => do pure (.basename (← given.text? .path) (given.text? .suffix))
  | .dirname => do pure (.dirname (← given.text? .path) (given.level?.getD defaultLevel))
  | .extname => do pure (.extname (← given.text? .path))
  | .join => some (.join (given.texts .part))
  | .split => do pure (.split (← given.text? .path))
  | .expand => do
      pure
        (.expand (← given.path? .rawPath) (given.text? .base) (given.switches.contains .absolute))
  | .fnmatch => do
      pure (.fnmatch (← given.text? .pattern) (← given.text? .path) (given.texts .flag))
  | .braces => do pure (.braces (← given.text? .pattern) (given.texts .flag))
  | .realpath => do pure (.realpath (← given.path? .rawPath) (given.text? .base))
  | .realdirpath => do pure (.realdirpath (← given.path? .rawPath) (given.text? .base))
  | .stat => do pure (.stat (← given.text? .path) (given.switches.contains .lstat))
  | .ftype => do pure (.ftype (← given.text? .path))
  | .test => do pure (.test (← given.predicate?) (← given.text? .path))
  | .identical => do pure (.identical (← given.text? .first) (← given.text? .second))
  | .completions => do pure (.completions (← given.shell?))

/-- What a command line asks for. -/
structure Invocation where
  /-- What holds for every command. -/
  options : Options
  /-- The command. -/
  command : Command
  deriving DecidableEq, Repr

namespace Invocation

/-- The word that asks for information. -/
def helpWord : Word :=
  Word.ofText "help".toList

/-- What the words behind the request for information ask for: at most one command may be
named. -/
def readHelp : List Word → Detour
  | [] => .information
  | [word] =>
      if word = helpWord ∨ (Verb.ofWord? word).isSome then .information else .misuse
  | _ => .misuse

/-- Reads the words in front of the command, and gives its name and the words behind it. -/
def readFront : List Word → Progress → Except Detour (Progress × Verb × List Word)
  | [], _ => .error .misuse
  | word :: words, progress =>
      if progress.isTrailing ∨ progress.expectedSlot?.isSome then do
        readFront words (← progress.readWord .front word)
      else if word = helpWord then .error (readHelp words)
      else
        match Verb.ofWord? word with
        | some verb => .ok (progress, verb, words)
        | none => do readFront words (← progress.readWord .front word)

/-- The variable of the environment that names a configuration file. -/
def configVariable : Text :=
  "FILECORE_CONFIG".toList

/-- Checks the configuration file that the environment names, where none is given: it must have a
name. -/
def checkDefault (default? : Option Text) (progress : Progress) : Except Detour Unit :=
  if default? = some [] ∧ !progress.has .config then .error .misuse else .ok ()

/-- The path of a value that was given as one, broken pieces replaced. -/
def configPath? (progress : Progress) : Option Text :=
  (progress.path? .config).bind fun
    | .text path => some path
    | .bytes bytes => some (Text.Utf8.decodeLossy bytes)
    | .adapter path? => path?

/-- What holds for every command.  What stands behind the name of the command wins over what
stands in front of it. -/
def optionsOf (default? : Option Text) (front back : Progress) : Options where
  verbose := front.switches.contains .verbose || back.switches.contains .verbose
  quiet := front.switches.contains .quiet || back.switches.contains .quiet
  config := (configPath? back).or ((configPath? front).or default?)
  format := back.format?.or front.format?

/-- Reads a command line. -/
def ofWords (environment : Environment) (words : List Word) : Except Detour Invocation := do
  let default? := environment configVariable
  let (front, verb, rest) ← readFront words {}
  let back ← Progress.readAll verb.usage rest {}
  checkDefault default? back
  let front ← front.settle
  checkDefault default? front
  if !back.isComplete verb.usage then .error .misuse
  else
    match verb.command? back with
    | none => .error .misuse
    | some command => pure ⟨optionsOf default? front back, command⟩

end Invocation
end Cli
end FilePaths
