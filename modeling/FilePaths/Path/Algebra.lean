import FilePaths.Text.Basic

/-!
# Parts of a path

A path is a text whose components are separated by slashes.  Nothing here looks at the file
system: a run of slashes separates like one, slashes at the end do not count, and no other
character is special, except that a dot starts an extension.
-/

namespace FilePaths
namespace Path

/-- The character between components. -/
def isSlash (c : Char) : Bool :=
  c == '/'

/-- The path is the root directory or starts from it. -/
def isAbsolute : Text → Bool
  | [] => false
  | c :: _ => isSlash c

/-- The non-empty components of a path, in order. -/
def components (path : Text) : List Text :=
  Text.words isSlash path

/-- What stands behind the last slash. -/
def lastPiece (path : Text) : Text :=
  Text.takeEndWhile (fun c => !isSlash c) path

/-- The text up to and including the last slash. -/
def beforeLastPiece (path : Text) : Text :=
  Text.dropEndWhile (fun c => !isSlash c) path

/-- The path without slashes at its end. -/
def dropSlashes (path : Text) : Text :=
  Text.dropEndWhile isSlash path

/-- The last component of a path: a slash if the path has slashes only, nothing if it is
empty. -/
def basename (path : Text) : Text :=
  match dropSlashes path with
  | [] => path.take 1
  | trimmed => lastPiece trimmed

/-- The extension of a file name with its dot.  The last dot starts it, unless all before that
dot is missing, or the name has dots only. -/
def extensionOf (name : Text) : Text :=
  let front := Text.dropEndWhile (fun c => c != '.') name
  let rest := Text.takeEndWhile (fun c => c != '.') name
  if front = [] ∨ front = ['.'] ∨ rest = [] ∧ front.all (fun c => c == '.') then []
  else '.' :: rest

/-- The extension of the last piece of a path. -/
def extname (path : Text) : Text :=
  extensionOf (lastPiece path)

/-- The last component without its extension. -/
def stem (path : Text) : Text :=
  (basename path).take ((basename path).length - (extname (basename path)).length)

/-- The name without the given ending, if it has that ending and something stands before it. -/
def withoutEnding (ending name : Text) : Text :=
  match Text.dropEnd? ending name with
  | some (c :: rest) => c :: rest
  | _ => name

/-- The last component without a suffix; the suffix `.*` stands for any extension. -/
def basenameWithout (suffix path : Text) : Text :=
  if suffix = ['.', '*'] then stem path else withoutEnding suffix (basename path)

/-- All but the last component: the slashes in front collapse to one, and a path without another
component gives its root, or a dot if it has none. -/
def dirname (path : Text) : Text :=
  let root := (path.takeWhile isSlash).take 1
  let head := dropSlashes (beforeLastPiece (dropSlashes (path.dropWhile isSlash)))
  if root = [] ∧ head = [] then ['.'] else root ++ head

/-- The path after the last component has been removed the given number of times; where nothing
changes any more, it stays. -/
def ancestor : (level : Nat) → (path : Text) → Text
  | 0, path => path
  | level + 1, path =>
      if dirname path = path then path else ancestor level (dirname path)

/-- The directory of a path and its last component. -/
def split (path : Text) : Text × Text :=
  (dirname path, basename path)

/-- The components that are left when every dot is dropped and every pair of dots takes the
component before it away. -/
def settle (components : List Text) : List Text :=
  (components.foldl
    (fun kept component =>
      if component = ['.'] then kept
      else if component = ['.', '.'] then kept.drop 1
      else component :: kept)
    []).reverse

/-- The absolute path with the given components. -/
def ofComponents : List Text → Text
  | [] => ['/']
  | components => components.flatMap fun component => '/' :: component

/-- The absolute path that a path stands for, read from the root, without dots and with single
slashes. -/
def resolve (path : Text) : Text :=
  ofComponents (settle (components path))

end Path
end FilePaths
