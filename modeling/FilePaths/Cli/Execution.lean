import FilePaths.Cli.Console
import FilePaths.Cli.FileReport
import FilePaths.Cli.Verdict
import FilePaths.Config.Assembly
import FilePaths.Glob.Braces
import FilePaths.Handle
import FilePaths.Path.Join

/-!
# Doing what a command asks for

Every command but the one for completions starts with the configuration.  Commands that need no
file system are content with the output format; the others open a session on it.  A result is
printed last, and only the refusal of a question whose answer is no comes behind it.
-/

namespace FilePaths
namespace Cli

variable {World : Type}

/-- The configuration in force. -/
def settings (host : Host World) (options : Options) : Job World Config :=
  Job.ofSettings (Config.assemble host { named := options.config })

/-- The output format: that of the command line, if there is one. -/
def Options.formatOver (options : Options) (config : Config) : OutputFormat :=
  options.format.getD config.format

/-- The output format in force. -/
def formatInForce (host : Host World) (options : Options) : Job World OutputFormat := do
  let config ← settings host options
  pure (options.formatOver config)

/-- What commands on the file system work with. -/
structure Session (World : Type) where
  /-- The configured file system. -/
  handle : Handle World
  /-- The output format. -/
  format : OutputFormat

namespace Session

/-- Opens the session that the configuration describes. -/
def start (host : Host World) (options : Options) : Job World (Session World) := do
  let config ← settings host options
  let plain : Handle World := { system := host.system }
  let handle ← Job.ofSettings (Run.ofExcept (plain.configure config))
  let format := options.formatOver config
  Job.ofRun (Run.note (.sessionOpened format.name))
  pure ⟨handle, format⟩

end Session

/-- The options of pattern matching that are given by name; none means those of the
configuration. -/
def givenFlags (names : List Text) : Job World (Option GlobFlags) :=
  match names with
  | [] => pure none
  | names =>
      match GlobFlags.ofList (Text.intersperse [','] names) with
      | .ok flags => pure (some flags)
      | .error misuse => Procedure.fail (.arguments misuse.message)

/-- A text between single quotes. -/
def cited (text : Text) : String :=
  "'" ++ String.ofList text ++ "'"

/-- Prints the answer to a question about a file, and fails if it is no. -/
def reportVerdict
    (format : OutputFormat)
    (quiet : Bool)
    (predicate : Predicate)
    (path : Text)
    (verdict : Verdict) :
    Job (Console World) Unit :=
  match verdict.value with
  | some value =>
      Console.printLines format [value]
        (.record [("result", .truth true), ("value", .text value)])
  | none =>
      Console.reportTruth format quiet verdict.holds
        (predicate.name ++ " is false for " ++ cited path)

/-- How completions are set up in a shell. -/
def setupLines : Shell → List String
  | .bash =>
      ["#   filecore completions bash > ~/.local/share/bash-completion/completions/filecore",
        "# Or source it directly in ~/.bashrc:",
        "#   eval \"$(filecore completions bash)\""]
  | .zsh =>
      ["#   filecore completions zsh > ~/.zsh/completions/_filecore",
        "# Make sure ~/.zsh/completions is in your $fpath"]
  | .fish =>
      ["#   filecore completions fish > ~/.config/fish/completions/filecore.fish"]
  | .powershell =>
      ["#   filecore completions powershell | Out-String | Invoke-Expression"]
  | .elvish => []

/-- Says how completions are set up.  The script itself is no part of the output here. -/
def introduceCompletions (quiet : Bool) (shell : Shell) : Job (Console World) Unit :=
  if quiet then pure ()
  else do
    Console.remark ("# Generating " ++ shell.name ++ " completion script")
    Console.remark "# Run the following command to enable completions:"
    (setupLines shell).forM Console.remark
    Console.remark ""

/-- Does what a command asks for. -/
def Command.execute (host : Host World) (options : Options) (command : Command) :
    Job (Console World) Unit :=
  match command with
  | .basename path suffix => do
      let format ← Job.onConsole (formatInForce host options)
      let base :=
        match suffix with
        | none => Path.basename path
        | some suffix => Path.basenameWithout suffix path
      Console.printText format "basename" base
  | .dirname path level => do
      let format ← Job.onConsole (formatInForce host options)
      let directory ← Job.onConsole (Job.ofRun (Run.ofExcept (Path.dirnameUp level path)))
      Console.printText format "dirname" directory
  | .extname path => do
      let format ← Job.onConsole (formatInForce host options)
      Console.printText format "extname" (Path.extname path)
  | .join parts => do
      let format ← Job.onConsole (formatInForce host options)
      Console.printText format "path" (Path.join parts)
  | .split path => do
      let format ← Job.onConsole (formatInForce host options)
      let (directory, base) := Path.split path
      Console.printLines format [directory, base]
        (.record [("basename", .text base), ("dirname", .text directory)])
  | .expand path base keepsTilde => do
      let session ← Job.onConsole (Session.start host options)
      let expanded ←
        Job.onConsole
          (Job.ofRun
            (if keepsTilde then session.handle.absolutePath base path
            else session.handle.expandPath base path))
      Console.printText session.format "path" expanded
  | .fnmatch pattern path names => do
      let session ← Job.onConsole (Session.start host options)
      let flags? ← Job.onConsole (givenFlags names)
      let isMatch ← Job.onConsole (Job.ofRun (session.handle.fnmatch flags? pattern path))
      Console.reportTruth session.format options.quiet isMatch
        (cited path ++ " does not match " ++ cited pattern)
  | .braces pattern names => do
      let session ← Job.onConsole (Session.start host options)
      let flags? ← Job.onConsole (givenFlags names)
      let flags := flags?.getD session.handle.flags
      Console.printTexts session.format "expansions" (Braces.expand flags pattern)
  | .realpath path base => do
      let session ← Job.onConsole (Session.start host options)
      let resolved ← Job.onConsole (Job.ofRun (session.handle.realpath base path))
      Console.printText session.format "path" resolved
  | .realdirpath path base => do
      let session ← Job.onConsole (Session.start host options)
      let resolved ← Job.onConsole (Job.ofRun (session.handle.realdirpath base path))
      Console.printText session.format "path" resolved
  | .stat path ofLink => do
      let session ← Job.onConsole (Session.start host options)
      let system := session.handle.system
      let stat ←
        Job.onConsole
          (Job.ofRun (if ofLink then Query.lstat system path else Query.stat system path))
      let report : FileReport := ⟨path, stat⟩
      Console.printLines session.format (report.linesIn host.showTime)
        (report.datumIn host.showTime)
  | .ftype path => do
      let session ← Job.onConsole (Session.start host options)
      let kind ← Job.onConsole (Job.ofRun (Query.kind session.handle.system path))
      Console.printText session.format "ftype" kind.name.toList
  | .test predicate path => do
      let session ← Job.onConsole (Session.start host options)
      let verdict ← Job.onConsole (Job.ofRun (predicate.verdict session.handle.system path))
      reportVerdict session.format options.quiet predicate path verdict
  | .identical first second => do
      let session ← Job.onConsole (Session.start host options)
      let isSame ←
        Job.onConsole (Job.ofRun (Query.isIdentical session.handle.system first second))
      Console.reportTruth session.format options.quiet isSame
        (cited first ++ " and " ++ cited second ++ " are different files")
  | .completions shell => introduceCompletions options.quiet shell

end Cli
end FilePaths
