import FilePaths.Cli.Failure
import FilePaths.Config.Settings
import FilePaths.Output.Datum
import FilePaths.System.Run

/-!
# Consoles

Commands ask the library first and print afterwards.  What has been printed stays, also when a
command fails behind it.  What the library does knows nothing of the console.
-/

namespace FilePaths
namespace Cli

/-- The outside world, and what has been printed. -/
structure Console (World : Type) where
  /-- The outside world. -/
  machine : World
  /-- The results that have been printed. -/
  output : Text := []
  /-- The lines that have been printed besides. -/
  remarks : List String := []

/-- A procedure that fails as commands do. -/
abbrev Job (World : Type) : Type → Type :=
  Procedure Failure World

variable {World Value : Type}

namespace Job

/-- A run whose errors are those of the command. -/
def ofRun (run : Run World Value) : Job World Value :=
  run.mapFailure Failure.library

/-- A run whose errors are errors of the settings. -/
def ofSettings (run : Run World Value) : Job World Value :=
  run.mapFailure fun error => .settings error.message

/-- A job, done at a console. -/
def onConsole (job : Job World Value) : Job (Console World) Value :=
  fun scene =>
    let (result, after) := job { world := scene.world.machine, events := scene.events }
    (result, { world := { scene.world with machine := after.world }, events := after.events })

end Job

namespace Console

/-- A text on a line of its own. -/
def line (text : Text) : Text :=
  text ++ ['\n']

/-- Prints a text as it stands. -/
def print (text : Text) : Job (Console World) Unit :=
  fun scene =>
    (.ok (), { scene with world := { scene.world with output := scene.world.output ++ text } })

/-- Prints a line that is no result. -/
def remark (text : String) : Job (Console World) Unit :=
  fun scene =>
    (.ok (), { scene with world := { scene.world with remarks := scene.world.remarks ++ [text] } })

/-- Prints texts on lines of their own, or a value for other programs. -/
def printLines (format : OutputFormat) (lines : List Text) (datum : Datum) :
    Job (Console World) Unit :=
  match format with
  | .human => lines.forM fun text => print (line text)
  | .json => print datum.printLine

/-- Prints a single text. -/
def printText (format : OutputFormat) (key : String) (text : Text) : Job (Console World) Unit :=
  printLines format [text] (.record [(key, .text text)])

/-- Prints several texts. -/
def printTexts (format : OutputFormat) (key : String) (texts : List Text) :
    Job (Console World) Unit :=
  printLines format texts (.record [(key, .list (texts.map Datum.text))])

/-- Prints yes or no, which people may wish not to see, and fails if it is no. -/
def reportTruth (format : OutputFormat) (quiet answer : Bool) (refusal : String) :
    Job (Console World) Unit := do
  let shown := if quiet then [] else [(if answer then "true" else "false").toList]
  printLines format shown (.record [("result", .truth answer)])
  if answer then pure () else Procedure.fail (.refusal refusal)

end Console
end Cli
end FilePaths
