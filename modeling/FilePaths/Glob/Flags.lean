import FilePaths.Error
import FilePaths.Text.Blank

/-!
# Glob flags

Options of pattern matching are bits of one word.  A flag has a name and a bit; bits without a
name are kept and mean nothing.
-/

namespace FilePaths

/-- The options of pattern matching. -/
inductive Flag
  | noescape
  | pathname
  | dotmatch
  | casefold
  | extglob
  | nosort
  | syscase
  deriving DecidableEq, Repr

namespace Flag

/-- All flags, by their bits; the one without a bit stands last. -/
def all : List Flag :=
  [.noescape, .pathname, .dotmatch, .casefold, .extglob, .nosort, .syscase]

/-- The name of a flag. -/
def name : Flag → String
  | .noescape => "NOESCAPE"
  | .pathname => "PATHNAME"
  | .dotmatch => "DOTMATCH"
  | .casefold => "CASEFOLD"
  | .extglob => "EXTGLOB"
  | .nosort => "GLOB_NOSORT"
  | .syscase => "SYSCASE"

/-- The bit of a flag. -/
def bits : Flag → UInt32
  | .noescape => 0x01
  | .pathname => 0x02
  | .dotmatch => 0x04
  | .casefold => 0x08
  | .extglob => 0x10
  | .nosort => 0x40
  | .syscase => 0

end Flag

/-- A set of options. -/
structure GlobFlags where
  /-- The bits that are set. -/
  bits : UInt32
  deriving DecidableEq, Repr

namespace GlobFlags

/-- No option. -/
def empty : GlobFlags := ⟨0⟩

/-- The set of one option. -/
def ofFlag (flag : Flag) : GlobFlags := ⟨flag.bits⟩

/-- The options of both sets. -/
def union (first second : GlobFlags) : GlobFlags := ⟨first.bits ||| second.bits⟩

/-- The option is in the set. -/
def has (flags : GlobFlags) (flag : Flag) : Bool :=
  flags.bits &&& flag.bits == flag.bits

/-- The named options of a set, by their bits; an option without a bit is not listed. -/
def flags (flags : GlobFlags) : List Flag :=
  Flag.all.filter fun flag => flag.bits != 0 && flags.has flag

/-- The names of the options of a set. -/
def names (flags : GlobFlags) : List String :=
  flags.flags.map Flag.name

/-- A set of options as a text: their names, or the bits where none has a name. -/
def display (flags : GlobFlags) : String :=
  if flags.bits = 0 then "0"
  else if flags.names = [] then
    String.ofList ('0' :: 'x' :: Text.digits 16 flags.bits.toNat)
  else "|".intercalate flags.names

/-- The flag with the given name, without regard to case, blanks around it, or the usual word in
front of it. -/
def flagOfName? (name : Text) : Option Flag :=
  let upper := Text.upper (Text.trim name)
  let bare := (Text.dropStart? ['F', 'N', 'M', '_'] upper).getD upper
  Flag.all.find? fun flag => flag.name.toList == bare

/-- The set of the one option with the given name. -/
def ofName (name : Text) : Except Misuse GlobFlags :=
  match flagOfName? name with
  | some flag => .ok (ofFlag flag)
  | none => .error (.unknownFlag name)

/-- The options with the given names; the first unknown name is an error. -/
def ofNames (names : List Text) : Except Misuse GlobFlags :=
  names.foldlM (fun flags name => (ofName name).map flags.union) empty

/-- The names in a list are separated by commas, bars or blanks. -/
def isSeparator (c : Char) : Bool :=
  c == ',' || c == '|' || Text.isBlank c

/-- The options that a list of names stands for. -/
def ofList (list : Text) : Except Misuse GlobFlags :=
  ofNames (Text.words isSeparator list)

end GlobFlags
end FilePaths
