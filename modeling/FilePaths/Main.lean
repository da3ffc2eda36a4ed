import FilePaths.Cli.Outcome
import FilePaths.System.Tree.Layout

/-!
# The program

The command line, run on a picture of the machine.  The picture is taken before the command runs.
It shows the files that the words of the command line may name, with their contents and the links
on the way to them; permissions and times are not seen.
-/

namespace FilePaths
namespace Picture

/-- The path with all links followed, if there is a file. -/
def real? (path : Text) : IO (Option Text) := do
  try
    let path ← IO.FS.realPath (String.ofList path)
    pure (some (toString path).toList)
  catch _ => pure none

/-- There is a directory. -/
def isDirectory (path : Text) : IO Bool := do
  pure (← real? (Config.inDirectory path ['.'])).isSome

/-- The contents of a file, if they can be read as text. -/
def contents (path : Text) : IO Text := do
  try
    pure (← IO.FS.readFile (String.ofList path)).toList
  catch _ => pure []

/-- The path and all its starts, the shortest first. -/
def starts (path : Text) : List Text :=
  let components := Path.components path
  (List.range components.length).map fun count =>
    Path.ofComponents (components.take (count + 1))

/-- Adds what stands at a path. -/
def add (tree : Tree) (path : Text) : IO Tree := do
  match tree.find false path, ← real? path with
  | .error _, some target =>
      let above? ← real? (Path.dirname path)
      let here? := above?.map fun above => Config.inDirectory above (Path.basename path)
      if here? ≠ some target then pure (tree.place path (.symlink target))
      else if ← isDirectory path then pure (tree.place path .directory)
      else pure (tree.place path (.file (← contents path)))
  | _, _ => pure tree

/-- The absolute paths that words may stand for. -/
def candidates (directory home : Text) (words : List Text) : List Text :=
  let absolute (base path : Text) :=
    if Path.isAbsolute path then path else Config.inDirectory base path
  let userPath := Config.inDirectory (Config.inDirectory home Config.userDirectory) Config.userFile
  let bases := directory :: words.map (absolute directory)
  userPath :: bases ++
    words.flatMap fun word =>
      if word.head? = some '~' then [home ++ word.drop 1]
      else bases.map fun base => absolute base word

/-- Takes the picture. -/
def take (directory home : Text) (words : List Text) : IO Tree := do
  let named := (candidates directory home words).flatMap starts
  let targets ← named.filterMapM real?
  let machine := Tree.machine directory home
  (named ++ targets.flatMap starts).foldlM add machine

/-- The variables of the environment that the program looks at. -/
def environment : IO Environment := do
  let names := Cli.Invocation.configVariable :: Variable.all.map fun entry => entry.name.toList
  let entries ← names.filterMapM fun name => do
    let value? ← IO.getEnv (String.ofList name)
    pure (value?.map fun value => (name, value.toList))
  pure fun name => entries.lookup name

/-- Runs the program on a picture and gives its exit code. -/
def run (arguments : List String) : IO UInt32 := do
  let words := arguments.map String.toList
  let directory := ((← IO.getEnv "PWD").getD "/").toList
  let home := ((← IO.getEnv "HOME").getD "/").toList
  let environment ← Picture.environment
  let configs := (environment Cli.Invocation.configVariable).toList
  let tree ← Picture.take directory home (configs ++ words)
  let (result, _) := Cli.runWords (Tree.host environment) (words.map Cli.Word.ofText) tree
  match result with
  | .error detour => pure (UInt32.ofNat detour.exitCode)
  | .ok outcome =>
      (← IO.getStdout).putStr (String.ofList outcome.output)
      (← IO.getStderr).putStr (String.ofList outcome.messages)
      pure (UInt32.ofNat outcome.code)

end Picture
end FilePaths

/-- The program. -/
def main (arguments : List String) : IO UInt32 :=
  FilePaths.Picture.run arguments
