import FilePaths.Error
import FilePaths.Text.Blank

/-!
# Strategies for canonical paths

A canonical path is found by walking the components, or by asking the system.
-/

namespace FilePaths

/-- How a canonical path is found. -/
inductive Strategy
  | walk
  | native
  deriving DecidableEq, Repr, Inhabited

namespace Strategy

/-- The name of a strategy. -/
def name : Strategy → String
  | .walk => "walk"
  | .native => "native"

/-- The strategy with exactly the given name. -/
def ofName? (name : Text) : Option Strategy :=
  if name = "walk".toList then some .walk
  else if name = "native".toList then some .native
  else none

/-- The strategy that a text names, in any case and with blanks around it. -/
def ofText (text : Text) : Except Misuse Strategy :=
  match ofName? (Text.lower (Text.trim text)) with
  | some strategy => .ok strategy
  | none => .error (.unknownStrategy text)

end Strategy
end FilePaths
