import FilePaths.Cause
import FilePaths.Text.Escape

/-!
# Errors

Every failure is one of a fixed set of errors.  What was wrong with an argument or with a setting
is again one of a fixed set of reasons, and the wording of a reason stands in one place.
-/

namespace FilePaths

/-- What is wrong with an argument. -/
inductive Misuse
  | negativeLevel (level : Int)
  | nullByte (text : Text)
  | invalidUtf8 (bytes : List UInt8)
  | noPath
  | otherUser (path : Text)
  | unknownHome (path : Text)
  | relativeHome (home : Text)
  | unknownFlag (name : Text)
  | unknownStrategy (text : Text)
  | other (reason : String)
  deriving DecidableEq, Repr

/-- The wording of a reason to reject an argument. -/
def Misuse.reason : Misuse → String
  | .negativeLevel level => "negative level: " ++ toString level
  | .nullByte text => "string contains null byte: " ++ String.ofList (Text.escape text)
  | .invalidUtf8 bytes =>
      "path is not valid UTF-8: " ++ String.ofList (Text.Utf8.decodeLossy bytes)
  | .noPath => "value has no path representation"
  | .otherUser path => "~user syntax is not supported: " ++ String.ofList path
  | .unknownHome path =>
      "couldn't find home directory expanding '" ++ String.ofList path ++ "'"
  | .relativeHome home => "non-absolute home directory: " ++ String.ofList home
  | .unknownFlag name => "unknown glob flag '" ++ String.ofList name ++ "'"
  | .unknownStrategy text =>
      "unknown realpath strategy '" ++ String.ofList text ++ "' (expected 'walk' or 'native')"
  | .other reason => reason

/-- The message for a rejected argument. -/
def Misuse.message (misuse : Misuse) : String :=
  "invalid argument: " ++ misuse.reason

/-- What is wrong with a setting. -/
inductive Defect
  | argument (misuse : Misuse)
  | unknownLevel (text : Text)
  | depthOutOfRange (limit depth : Nat)
  | depthNotNumber
  | unknownFormat (text : Text)
  | unknownFormatName (text : Text)
  | invalidYaml
  | other (message : String)
  deriving DecidableEq, Repr

/-- The wording of a reason to reject a setting. -/
def Defect.message : Defect → String
  | .argument misuse => misuse.message
  | .unknownLevel text => "invalid log level: " ++ String.ofList text
  | .depthOutOfRange limit depth =>
      "must be between 1 and " ++ toString limit ++ ", got " ++ toString depth
  | .depthNotNumber => "Must be a non-negative integer"
  | .unknownFormat text => "unknown output format '" ++ String.ofList text ++ "'"
  | .unknownFormatName text =>
      "unknown output format '" ++ String.ofList text ++ "' (expected 'human' or 'json')"
  | .invalidYaml => "Invalid YAML:"
  | .other message => message

/-- The failures of the library. -/
inductive Error
  | notFound (path : Text)
  | permissionDenied (path : Text)
  | tooManySymlinks (path : Text)
  | invalidArgument (misuse : Misuse)
  | recursiveStructure
  | unsupported (operation : String)
  | system (path : Text) (number : Int) (message : String)
  | configuration (message : String)
  | validation (field : Text) (defect : Defect)
  | io (cause : Cause)
  deriving DecidableEq, Repr

namespace Error

/-- Classifies the failure of a call that was made for a path. -/
def ofCause (cause : Cause) (path : Text) : Error :=
  match cause with
  | .code number =>
      if number = 2 then .notFound path
      else if number = 13 ∨ number = 1 then .permissionDenied path
      else if number = 40 then .tooManySymlinks path
      else if number = 38 ∨ number = 95 then
        .unsupported ("syscall on " ++ String.ofList path)
      else .system path number cause.message
  | .plain .notFound _ => .notFound path
  | .plain .permissionDenied _ => .permissionDenied path
  | .plain _ _ => .io cause

/-- The message that a user sees. -/
def message : Error → String
  | .notFound path => "no such file or directory: " ++ String.ofList path
  | .permissionDenied path => "permission denied: " ++ String.ofList path
  | .tooManySymlinks path => "too many levels of symbolic links: " ++ String.ofList path
  | .invalidArgument misuse => misuse.message
  | .recursiveStructure => "recursive array"
  | .unsupported operation => operation ++ " function is unimplemented on this machine"
  | .system path number message =>
      "system error (errno " ++ toString number ++ ") for " ++ String.ofList path ++ ": " ++
        message
  | .configuration message => "configuration error: " ++ message
  | .validation field defect =>
      "validation error for '" ++ String.ofList field ++ "': " ++ defect.message
  | .io cause => "I/O error: " ++ cause.message

/-- The error number that an error corresponds to, if any. -/
def number? : Error → Option Int
  | .notFound _ => some 2
  | .permissionDenied _ => some 13
  | .tooManySymlinks _ => some 40
  | .unsupported _ => some 38
  | .system _ number _ => some number
  | .io cause => cause.number?
  | _ => none

/-- The error says that a path does not exist. -/
def isNotFound : Error → Bool
  | .notFound _ => true
  | _ => false

/-- The error says that permission is missing. -/
def isPermissionDenied : Error → Bool
  | .permissionDenied _ => true
  | _ => false

/-- The error is the fault of the arguments and says nothing about the file system. -/
def isInputError : Error → Bool
  | .invalidArgument _ => true
  | .recursiveStructure => true
  | .validation _ _ => true
  | _ => false

end Error
end FilePaths
