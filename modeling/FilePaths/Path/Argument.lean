import FilePaths.Path.Join

/-!
# What can be given as a path

Callers hold texts, byte sequences of the operating system, or values that know a path for
themselves.  All of them become texts at one place, where bytes that are no text and null
characters are refused.
-/

namespace FilePaths
namespace Path

/-- A value that is to become a path. -/
inductive Argument
  | text (path : Text)
  | bytes (path : List UInt8)
  | adapter (path? : Option Text)
  deriving DecidableEq, Repr

namespace Argument

/-- The text that a value gives, before it is looked at. -/
def toText : Argument → Except Error Text
  | .text path => .ok path
  | .bytes path =>
      match Text.Utf8.decode? path with
      | some decoded => .ok decoded
      | none => .error (.invalidArgument (.invalidUtf8 path))
  | .adapter (some path) => .ok path
  | .adapter none => .error (.invalidArgument .noPath)

/-- The path that a value gives. -/
def toPath (argument : Argument) : Except Error Text :=
  match argument.toText with
  | .error error => .error error
  | .ok path =>
      match checkNull path with
      | .error error => .error error
      | .ok () => .ok path

/-- A description of a value for programmers. -/
def describe : Argument → String
  | .text path => "Str(" ++ String.ofList (Text.quote path) ++ ")"
  | .bytes path => "Os(" ++ String.ofList (Text.quoteBytes path) ++ ")"
  | .adapter _ => "Adapter(..)"

end Argument
end Path
end FilePaths
