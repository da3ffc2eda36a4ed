import FilePaths.Log.Level

/-!
# Noteworthy events

What the library reports while it works.  None of it changes a result.
-/

namespace FilePaths

/-- Something worth a line in the log. -/
inductive Event
  | followed (link target : Text)
  | nativeUnavailable (path : Text)
  | matchedExpansion (path pattern : Text)
  | applied (operation : String) (path : Text)
  | noHome
  | noUserFile (path : Text)
  | loadingUserFile (path : Text)
  | sessionOpened (format : String)
  deriving DecidableEq, Repr

namespace Event

/-- The urgency of an event. -/
def severity : Event → Severity
  | .matchedExpansion _ _ => .trace
  | .applied _ _ => .trace
  | .noUserFile _ => .trace
  | _ => .debug

/-- The message of an event. -/
def message : Event → String
  | .followed link target =>
      "following symlink " ++ String.ofList link ++ " -> " ++ String.ofList target
  | .nativeUnavailable path =>
      "native realpath unavailable, walking " ++ String.ofList path
  | .matchedExpansion path pattern =>
      String.ofList path ++ " matched an expansion of " ++ String.ofList pattern
  | .applied operation path => operation ++ " " ++ String.ofList path
  | .noHome => "no home directory; skipping user configuration"
  | .noUserFile path => "no user configuration at " ++ String.ofList path
  | .loadingUserFile path => "loading user configuration from " ++ String.ofList path
  | .sessionOpened format => "session opened with " ++ format ++ " output"

/-- The lines that events make at a level, in order. -/
def lines (level : LogLevel) (events : List Event) : List String :=
  events.filterMap fun event => level.line? event.severity event.message

end Event
end FilePaths
