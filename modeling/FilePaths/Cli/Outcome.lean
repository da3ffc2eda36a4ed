import FilePaths.Cli.Execution
import FilePaths.Cli.Invocation

/-!
# Outcomes

What is left of a run of the program: its exit code, what it printed as the result, and what it
printed besides.
-/

namespace FilePaths
namespace Cli

variable {World : Type}

/-- What a run of the program leaves behind. -/
structure Outcome where
  /-- The exit code. -/
  code : Nat
  /-- The result. -/
  output : Text := []
  /-- What has been said besides. -/
  messages : Text := []
  deriving DecidableEq, Repr

namespace Outcome

/-- The exit code that the result of a command calls for. -/
def exitCode : Except Failure Unit → Nat
  | .ok () => 0
  | .error failure => failure.exitCode

/-- The last line of a run that ends with a failure. -/
def errorLine (failure : Failure) : String :=
  "Error: " ++ failure.message

/-- Lines, each with its line end. -/
def ofLines (lines : List String) : Text :=
  lines.flatMap fun line => line.toList ++ ['\n']

/-- The outcome of a command, with the lines of the log in front of its own. -/
def ofResult (log : List String) (console : Console World) (result : Except Failure Unit) :
    Outcome where
  code := exitCode result
  output := console.output
  messages :=
    ofLines
      (log ++ console.remarks ++
        match result with
        | .ok () => []
        | .error failure => [errorLine failure])

end Outcome

namespace Invocation

/-- How much is said while a command runs. -/
def logLevel (environment : Environment) (options : Options) : LogLevel :=
  .choose options.verbose options.quiet (environment Variable.logMode.name.toList)

/-- Runs the command of an invocation on a host. -/
def run (host : Host World) (invocation : Invocation) (world : World) : Outcome × World :=
  let scene : Scene (Console World) := { world := { machine := world } }
  let (result, after) := invocation.command.execute host invocation.options scene
  let level := logLevel host.environment invocation.options
  (.ofResult (Event.lines level after.events.reverse) after.world result, after.world.machine)

end Invocation

/-- Runs the program on the words of a command line.  What is printed for a command line that asks
for no command is not part of the result. -/
def runWords (host : Host World) (words : List Word) (world : World) :
    Except Detour Outcome × World :=
  match Invocation.ofWords host.environment words with
  | .error detour => (.error detour, world)
  | .ok invocation =>
      let (outcome, world) := invocation.run host world
      (.ok outcome, world)

end Cli
end FilePaths
