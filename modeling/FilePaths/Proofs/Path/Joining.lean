import FilePaths.Proofs.Path.Components
import FilePaths.Proofs.Path.Sharing

/-!
# What joining keeps

A seam between two fragments gets exactly one slash, whatever slashes they bring along, so no
components are glued together there, and none is lost.  Joining fragments therefore keeps all their
components in order.  A nested list is joined before it becomes a fragment of the list around it,
which makes no difference to components: only the fragments at the bottom count, from left to right.
-/

namespace FilePaths
namespace Path

variable {path : Text}

/-! ## Fragments -/

theorem components_foldl_append (path : Text) (parts : List Text) :
    components (parts.foldl append path) = components path ++ parts.flatMap components := by
  induction parts generalizing path with
  | nil => simp
  | cons part parts ih =>
      rw [List.foldl_cons, ih, components_append, List.append_assoc, List.flatMap_cons]

/-- Joining puts the components of all fragments one behind the other. -/
theorem components_join (parts : List Text) :
    components (join parts) = parts.flatMap components := by
  cases parts with
  | nil => rfl
  | cons first rest => exact components_foldl_append first rest

/-- A fragment behind the empty path is put behind a slash, unless it brings one. -/
theorem isAbsolute_append_nil (fragment : Text) :
    isAbsolute (append [] fragment) = true := by
  rw [append]
  split
  · rename_i startsAbsolute
    exact startsAbsolute
  · rfl

theorem append_ne_nil (path fragment : Text) :
    append path fragment ≠ [] := by
  intro isEmpty
  by_cases hasPath : path = []
  · subst hasPath
    have startsAbsolute := isAbsolute_append_nil fragment
    rw [isEmpty] at startsAbsolute
    cases startsAbsolute
  · rw [append] at isEmpty
    split at isEmpty
    · rename_i startsAbsolute
      rw [(List.append_eq_nil_iff.mp isEmpty).2] at startsAbsolute
      cases startsAbsolute
    · split at isEmpty <;> exact hasPath (List.append_eq_nil_iff.mp isEmpty).1

theorem isAbsolute_foldl_append (notEmpty : path ≠ []) (parts : List Text) :
    isAbsolute (parts.foldl append path) = isAbsolute path := by
  induction parts generalizing path with
  | nil => rfl
  | cons part parts ih =>
      rw [List.foldl_cons, ih (append_ne_nil path part), isAbsolute_append notEmpty]

/-- The first fragment is absolute, or it is empty and another one follows. -/
def StartsAtRoot : List Text → Prop
  | [] => False
  | first :: rest => isAbsolute first = true ∨ first = [] ∧ rest ≠ []

theorem isAbsolute_join_iff (parts : List Text) :
    isAbsolute (join parts) = true ↔ StartsAtRoot parts := by
  cases parts with
  | nil => simp [join, isAbsolute, StartsAtRoot]
  | cons first rest =>
      rw [join, StartsAtRoot]
      by_cases isEmpty : first = []
      · subst isEmpty
        cases rest with
        | nil => simp [isAbsolute]
        | cons second rest =>
            rw [List.foldl_cons, isAbsolute_foldl_append (append_ne_nil [] second)]
            simp [isAbsolute_append_nil]
      · rw [isAbsolute_foldl_append isEmpty]
        simp [isEmpty]

/-! ## Nested lists -/

mutual

/-- The fragments at the bottom of a nested item, depth first and from left to right. -/
def Nested.leaves : Nested → List Text
  | .fragment text => [text]
  | .list items => leavesOf items

/-- The fragments at the bottom of nested items, depth first and from left to right. -/
def leavesOf : List Nested → List Text
  | [] => []
  | item :: items => item.leaves ++ leavesOf items

end

mutual

theorem Nested.components_path (item : Nested) :
    components item.path = item.leaves.flatMap components := by
  cases item with
  | fragment text =>
      rw [Nested.path, Nested.leaves, List.flatMap_singleton]
  | list items =>
      rw [Nested.path, Nested.leaves, components_join, flatMap_components_pathsOf items]

theorem flatMap_components_pathsOf (items : List Nested) :
    (pathsOf items).flatMap components = (leavesOf items).flatMap components := by
  cases items with
  | nil => rfl
  | cons item items =>
      rw [pathsOf, leavesOf, List.flatMap_cons, List.flatMap_append,
        Nested.components_path item, flatMap_components_pathsOf items]

end

/-- Joining fragments puts their components one behind the other, and gives an absolute path exactly
if the first fragment is absolute, or is empty and not the only one.  Joining shared lists, where it
gives a path, does the same with the fragments at the bottom of their finite unfolding. -/
theorem join_keeps_components :
    (∀ parts : List Text,
      components (join parts) = parts.flatMap components ∧
        (isAbsolute (join parts) = true ↔ StartsAtRoot parts)) ∧
      ∀ (count : Nat) (lists : Fin count → List (Item count)) (items : List (Item count))
        (path : Text),
        joinItems lists items = .ok path →
          ∃ copies, Unfolds lists items copies ∧
            components path = (leavesOf copies).flatMap components ∧
            (isAbsolute path = true ↔ StartsAtRoot (pathsOf copies)) := by
  refine ⟨fun parts => ⟨components_join parts, isAbsolute_join_iff parts⟩, ?_⟩
  intro count lists items path isOk
  obtain ⟨⟨copies, unfolds⟩, path_eq⟩ := unfolds_of_joinItems isOk
  obtain rfl := path_eq copies unfolds
  refine ⟨copies, unfolds, ?_, isAbsolute_join_iff _⟩
  rw [components_join, flatMap_components_pathsOf]

/-- A list with runs of slashes is met twice, the second time inside of another one, and an empty
list stands in front of it. -/
def seams : Fin 4 → List (Item 4)
  | 0 => []
  | 1 => [.fragment "a//".toList, .fragment "//b".toList]
  | 2 => [.list 1, .fragment [], .fragment "c/".toList]
  | 3 => [.list 0, .list 1, .list 2]

theorem seams_keep_components :
    joinItems seams [.list 3] = .ok "/a//b/a//b/c/".toList ∧
      ∃ copies, Unfolds seams [.list 3] copies ∧
        components "/a//b/a//b/c/".toList = (leavesOf copies).flatMap components ∧
        (isAbsolute "/a//b/a//b/c/".toList = true ↔ StartsAtRoot (pathsOf copies)) := by
  have isOk : joinItems seams [.list 3] = .ok "/a//b/a//b/c/".toList := by
    cbv
  exact ⟨isOk, join_keeps_components.2 4 seams _ _ isOk⟩

end Path
end FilePaths
