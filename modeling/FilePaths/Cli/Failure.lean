import FilePaths.Error

/-!
# Failures of a command

How a command can fail, what it says then, and the code that it ends with.
-/

namespace FilePaths
namespace Cli

/-- Why a command fails. -/
inductive Failure
  /-- An error of the library. -/
  | library (error : Error)
  /-- The arguments cannot be used. -/
  | arguments (message : String)
  /-- Reading or writing went wrong. -/
  | transfer (cause : Cause)
  /-- The settings cannot be used. -/
  | settings (message : String)
  /-- The answer to the question is no. -/
  | refusal (message : String)
  deriving DecidableEq, Repr

namespace Failure

/-- What the user sees. -/
def message : Failure → String
  | .library error => error.message
  | .arguments message => "Invalid arguments: " ++ message
  | .transfer cause => "I/O error: " ++ cause.message
  | .settings message => "Configuration error: " ++ message
  | .refusal message => message

/-- The message of the failure behind this one, if there is one. -/
def source? : Failure → Option String
  | .library error => some error.message
  | .transfer cause => some cause.message
  | _ => none

/-- The code for an error of the library. -/
def errorCode (error : Error) : Nat :=
  match error with
  | .notFound _ => 2
  | .permissionDenied _ => 3
  | .configuration _ => 7
  | .validation _ _ => 7
  | error => if error.isInputError then 4 else 5

/-- The code that the program ends with. -/
def exitCode : Failure → Nat
  | .library error => errorCode error
  | .arguments _ => 4
  | .transfer _ => 5
  | .settings _ => 7
  | .refusal _ => 1

end Failure
end Cli
end FilePaths
