import FilePaths.Error
import FilePaths.Path.Algebra

/-!
# Joining paths

Fragments are joined with exactly one slash at each boundary.  A fragment can be a list of
fragments in turn, which is joined first and then counts as one fragment.  Lists are shared by
name and may mention each other; a list that is met while it is being joined contains itself and
is refused.
-/

namespace FilePaths
namespace Path

/-- A fragment behind a path.  A slash in front of the fragment replaces all slashes at the end
of the path; otherwise one is put in between where none stands. -/
def append (path fragment : Text) : Text :=
  if isAbsolute fragment then dropSlashes path ++ fragment
  else if path.getLast? = some '/' then path ++ fragment
  else path ++ '/' :: fragment

/-- A fragment behind what has been joined so far, if there is anything yet. -/
def appendTo : Option Text → Text → Text
  | none, fragment => fragment
  | some path, fragment => append path fragment

/-- Fragments joined in order; no fragments give the empty path. -/
def join : List Text → Text
  | [] => []
  | first :: rest => rest.foldl append first

/-- A text that is handed to the operating system must not hold the null character. -/
def checkNull (text : Text) : Except Error Unit :=
  if text.contains '\x00' then .error (.invalidArgument (.nullByte text)) else .ok ()

theorem checkNull_cases (text : Text) :
    (checkNull text = .ok () ∧ '\x00' ∉ text) ∨
      (checkNull text = .error (.invalidArgument (.nullByte text)) ∧ '\x00' ∈ text) := by
  rw [checkNull]
  by_cases isNull : '\x00' ∈ text <;> simp [isNull]

/-- The directory of a path, the given number of components up; no number below zero is a
level. -/
def dirnameUp (level : Int) (path : Text) : Except Error Text :=
  if level < 0 then .error (.invalidArgument (.negativeLevel level))
  else .ok (ancestor level.toNat path)

/-- One thing to join: a fragment, or one of a fixed number of shared lists. -/
inductive Item (count : Nat)
  | fragment (text : Text)
  | list (name : Fin count)
  deriving DecidableEq, Repr

/-- Joins items behind what has been joined so far.  The free lists are those that are not being
joined at the moment. -/
def joinItemsFrom
    {count : Nat}
    (lists : Fin count → List (Item count))
    (free : List (Fin count))
    (joined : Option Text) :
    List (Item count) → Except Error Text
  | [] => .ok (joined.getD [])
  | .fragment text :: items =>
      match checkNull text with
      | .error error => .error error
      | .ok () => joinItemsFrom lists free (some (appendTo joined text)) items
  | .list name :: items =>
      if _isFree : name ∈ free then
        match joinItemsFrom lists (free.erase name) none (lists name) with
        | .error error => .error error
        | .ok inner => joinItemsFrom lists free (some (appendTo joined inner)) items
      else .error .recursiveStructure
termination_by items => (free.length, items.length)
decreasing_by
  · exact .right _ (by simp)
  · exact .left _ _ (by
      rw [List.length_erase_of_mem _isFree]
      exact Nat.sub_lt (List.length_pos_of_mem _isFree) Nat.one_pos)
  · exact .right _ (by simp)

/-- Joins fragments and shared lists. -/
def joinItems
    {count : Nat}
    (lists : Fin count → List (Item count))
    (items : List (Item count)) :
    Except Error Text :=
  joinItemsFrom lists (List.finRange count) none items

end Path
end FilePaths
