import FilePaths.Text.Basic
import Mathlib.Data.List.DropRight

/-!
# Ends of texts

A text is what is left of it without its longest end of some characters, and that end.  The cut can
be found from both sides: the end has such characters only, and what is left does not end in one.
-/

namespace FilePaths
namespace Text

variable {test : Char → Bool} {text front rest : Text} {c : Char}

theorem dropEndWhile_append_takeEndWhile (test : Char → Bool) (text : Text) :
    dropEndWhile test text ++ takeEndWhile test text = text :=
  List.rdropWhile_append_rtakeWhile

theorem dropEndWhile_prefix (test : Char → Bool) (text : Text) :
    dropEndWhile test text <+: text :=
  List.rdropWhile_prefix test text

theorem of_mem_takeEndWhile (isMember : c ∈ takeEndWhile test text) :
    test c = true :=
  List.mem_rtakeWhile_imp isMember

/-- What is left is nothing, or ends in a character that is kept. -/
theorem dropEndWhile_cases (test : Char → Bool) (text : Text) :
    dropEndWhile test text = [] ∨
      ∃ front c, dropEndWhile test text = front ++ [c] ∧ test c = false := by
  by_cases isEmpty : dropEndWhile test text = []
  · exact .inl isEmpty
  · have isKept := List.rdropWhile_last_not test text isEmpty
    exact .inr ⟨_, _, (List.dropLast_concat_getLast isEmpty).symm, Bool.not_eq_true _ ▸ isKept⟩

/-- An end is the longest one if a character is kept right before it. -/
theorem takeEndWhile_append_cons
    (isKept : test c = false)
    (areDropped : ∀ other ∈ rest, test other = true)
    (front : Text) :
    takeEndWhile test (front ++ c :: rest) = rest := by
  have areBehind : ∀ other ∈ rest.reverse, test other = true :=
    fun other isMember => areDropped other (List.mem_reverse.mp isMember)
  rw [takeEndWhile, List.reverse_append, List.reverse_cons, List.append_assoc,
    List.takeWhile_append_of_pos areBehind]
  simp [isKept]

theorem dropEndWhile_append_cons
    (isKept : test c = false)
    (areDropped : ∀ other ∈ rest, test other = true)
    (front : Text) :
    dropEndWhile test (front ++ c :: rest) = front ++ [c] := by
  have pieces_eq := dropEndWhile_append_takeEndWhile test (front ++ c :: rest)
  rw [takeEndWhile_append_cons isKept areDropped] at pieces_eq
  exact List.append_cancel_right (pieces_eq.trans (List.append_cons front c rest))

end Text
end FilePaths
