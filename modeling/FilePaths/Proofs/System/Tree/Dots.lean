import FilePaths.Proofs.System.Tree.Passing

/-!
# Dots in a tree

Dots that are resolved on the text mean what they mean in a tree, except where a pair of dots
takes back a name that leads to a symbolic link: on the text it leads to where the link stands,
in the tree to the parent of what the link leads to.
-/

namespace FilePaths
namespace Tree

/-- No pair of dots among the names takes back a symbolic link, when the kept names stand in
front of them, the last one first. -/
def KeepsLinks (tree : Tree) : (kept names : List Text) → Prop
  | _, [] => True
  | kept, name :: names =>
      (name = ['.', '.'] → ¬ tree.IsLink kept.reverse) ∧
        tree.KeepsLinks (Path.keep kept name) names

variable {tree : Tree} {trail final : Trail}

theorem keepsLinks_of_noUp
    {names : List Text}
    (noUp : ['.', '.'] ∉ names)
    (kept : List Text) :
    tree.KeepsLinks kept names := by
  induction names generalizing kept with
  | nil => trivial
  | cons name names ih =>
      obtain ⟨isOther, noUp⟩ := not_or.mp (mt List.mem_cons.mpr noUp)
      exact ⟨fun isUp => absurd isUp.symm isOther, ih noUp _⟩

theorem KeepsLinks.append
    {kept names more : List Text}
    (keeps : tree.KeepsLinks kept names)
    (noUp : ['.', '.'] ∉ more) :
    tree.KeepsLinks kept (names ++ more) := by
  induction names generalizing kept with
  | nil => exact keepsLinks_of_noUp noUp kept
  | cons name names ih => exact ⟨keeps.1, ih keeps.2⟩

/-- A dot leads nowhere else. -/
theorem Passes.of_dot
    {front behind : List Text}
    (passes : tree.Passes trail (front ++ ['.'] :: behind) final) :
    tree.Passes trail (front ++ behind) final := by
  obtain ⟨middle, before, passes⟩ := passes.split
  cases passes with
  | step here passes =>
      cases pass?_dot here
      exact before.append passes

/-- A pair of dots behind a name that is no link leads back to where the name was looked up. -/
theorem Passes.of_up
    {kept behind : List Text}
    {name : Text}
    (passes : tree.Passes [] (kept ++ name :: ['.', '.'] :: behind) final)
    (isProper : Path.IsProper name)
    (notLink : ¬ tree.IsLink (kept ++ [name])) :
    tree.Passes [] (kept ++ behind) final := by
  obtain ⟨middle, before, passes⟩ := passes.split
  cases passes with
  | step here passes =>
      obtain ⟨number, hasEntry⟩ := exists_hasEntry_of_pass? here isProper
      rw [pass?_of_hasEntry hasEntry isProper] at here
      cases isLink : tree.target? number with
      | some target => exact absurd (isLink_of_hasEntry before hasEntry isProper isLink) notLink
      | none =>
          rw [isLink] at here
          cases here
          cases passes with
          | step back passes =>
              cases pass?_up back
              exact before.append passes

/-- Pairs of dots at the root lead nowhere else. -/
theorem Passes.of_up_at_root
    {behind : List Text}
    (passes : tree.Passes [] (['.', '.'] :: behind) final) :
    tree.Passes [] behind final := by
  cases passes with
  | step here passes =>
      cases pass?_up here
      exact passes

/-- Names that are settled lead where they led before, if no link is taken back. -/
theorem passes_settled
    {kept names : List Text}
    (areProper : ∀ name ∈ kept, Path.IsProper name)
    (areNames : ∀ name ∈ names, Path.IsName name)
    (keeps : tree.KeepsLinks kept names)
    (passes : tree.Passes [] (kept.reverse ++ names) final) :
    tree.Passes [] (names.foldl Path.keep kept).reverse final := by
  induction names generalizing kept with
  | nil => simpa using passes
  | cons name names ih =>
      obtain ⟨isName, areNames⟩ := List.forall_mem_cons.mp areNames
      obtain ⟨notLink, keeps⟩ := keeps
      have stillProper := Path.isProper_of_mem_keep isName areProper
      refine ih stillProper areNames keeps ?_
      unfold Path.keep
      split
      · rename_i isDot
        rw [isDot] at passes
        exact passes.of_dot
      · split
        · rename_i isUp
          subst isUp
          cases kept with
          | nil => exact passes.of_up_at_root
          | cons last kept =>
              have isProper := areProper last List.mem_cons_self
              rw [List.reverse_cons] at passes notLink
              rw [List.append_assoc] at passes
              exact passes.of_up isProper (notLink rfl)
        · rw [List.reverse_cons, List.append_assoc]
          exact passes

/-- A slash at the end leads nowhere else. -/
theorem Passes.of_names
    {path : Text}
    {front behind : List Text}
    (passes : tree.Passes trail (front ++ (Tree.names path ++ behind)) final) :
    tree.Passes trail (front ++ (Path.components path ++ behind)) final := by
  rw [Tree.names] at passes
  split at passes
  · rw [List.append_assoc, ← List.append_assoc] at passes
    rw [← List.append_assoc]
    exact passes.of_dot
  · simpa using passes

theorem passes_components
    {path : Text}
    (passes : tree.Passes trail (Tree.names path) final) :
    tree.Passes trail (Path.components path) final := by
  rw [← List.append_nil (Tree.names path), ← List.nil_append (_ ++ _)] at passes
  simpa using passes.of_names

/-- A link that names lead to is passed as the names of its target, read from the root or from
where the link stands. -/
theorem passes_target
    {front behind : List Text}
    {name target : Text}
    {number : Nat}
    (enters : tree.Enters [] front trail)
    (hasEntry : tree.HasEntry trail name number)
    (isProper : Path.IsProper name)
    (isLink : tree.target? number = some target)
    (passes : tree.Passes trail (name :: behind) final) :
    target ≠ [] ∧
      tree.Passes []
        ((if Path.isAbsolute target then [] else front) ++
          (Path.components target ++ behind)) final := by
  cases passes with
  | step here passes =>
      rw [pass?_of_hasEntry hasEntry isProper, isLink] at here
      dsimp only at here
      split at here
      · cases here
      · rename_i notEmpty
        cases here
        refine ⟨notEmpty, Passes.of_names ?_⟩
        split
        · rename_i startsAbsolute
          rw [if_pos startsAbsolute] at passes
          exact passes
        · rename_i isRelative
          rw [if_neg isRelative] at passes
          exact enters.passes.append passes

end Tree
end FilePaths
