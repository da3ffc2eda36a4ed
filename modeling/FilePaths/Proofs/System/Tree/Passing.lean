import FilePaths.Proofs.Path.Components
import FilePaths.System.Tree.System

/-!
# Passing names in a tree

A look-up with all links followed, said without the count of links: every name takes the trail one
step on, and a link puts the names of its target in place of its own.  The relation is a function
of the trail and the names, it can be cut anywhere in the names, and a look-up that succeeds is an
instance of it.
-/

namespace FilePaths
namespace Tree

/-- An entry that can be looked up in the directory at the end of a trail. -/
structure HasEntry (tree : Tree) (trail : Trail) (name : Text) (number : Nat) : Prop where
  found : ∃ entries, tree.entries? trail.number = some entries ∧
    entries.lookup name = some number
  isShort : ¬ nameLimit < Text.Utf8.size name

/-- One name of a look-up: the trail behind it, and the names that a link puts in its place. -/
def pass? (tree : Tree) (trail : Trail) (name : Text) : Option (Trail × List Text) :=
  match tree.entries? trail.number with
  | none => none
  | some entries =>
      if name = ['.'] then some (trail, [])
      else if name = ['.', '.'] then some (trail.drop 1, [])
      else if nameLimit < Text.Utf8.size name then none
      else
        match entries.lookup name with
        | none => none
        | some number =>
            match tree.target? number with
            | none => some ((name, number) :: trail, [])
            | some target =>
                if target = [] then none
                else some (if Path.isAbsolute target then [] else trail, Tree.names target)

/-- Passing names leads from one trail to another. -/
inductive Passes (tree : Tree) : Trail → List Text → Trail → Prop
  | refl (trail : Trail) : Passes tree trail [] trail
  | step
      {trail next final : Trail}
      {name : Text}
      {more names : List Text}
      (here : tree.pass? trail name = some (next, more))
      (behind : Passes tree next (more ++ names) final) :
      Passes tree trail (name :: names) final

/-- Names that are all entered, none of them being a link, lead from one trail to another. -/
inductive Enters (tree : Tree) : Trail → List Text → Trail → Prop
  | refl (trail : Trail) : Enters tree trail [] trail
  | step
      {trail final : Trail}
      {name : Text}
      {number : Nat}
      {names : List Text}
      (hasEntry : tree.HasEntry trail name number)
      (isProper : Path.IsProper name)
      (noLink : tree.target? number = none)
      (behind : Enters tree ((name, number) :: trail) names final) :
      Enters tree trail (name :: names) final

/-- The names lead to a symbolic link, however many links lie on the way. -/
def IsLink (tree : Tree) (names : List Text) : Prop :=
  ∃ links trail, tree.lookUp false links [] names = .ok trail ∧
    (tree.target? trail.number).isSome

variable {tree : Tree} {trail next final : Trail} {name : Text} {number : Nat}

/-! ## One name -/

theorem pass?_dot
    {answer : Trail × List Text}
    (here : tree.pass? trail ['.'] = some answer) :
    answer = (trail, []) := by
  rw [pass?] at here
  split at here <;> simp_all

theorem pass?_up
    {answer : Trail × List Text}
    (here : tree.pass? trail ['.', '.'] = some answer) :
    answer = (trail.drop 1, []) := by
  rw [pass?] at here
  split at here <;> simp_all

theorem pass?_of_hasEntry
    (hasEntry : tree.HasEntry trail name number)
    (isProper : Path.IsProper name) :
    tree.pass? trail name =
      match tree.target? number with
      | none => some ((name, number) :: trail, [])
      | some target =>
          if target = [] then none
          else some (if Path.isAbsolute target then [] else trail, Tree.names target) := by
  obtain ⟨⟨entries, entries_eq, found⟩, isShort⟩ := hasEntry
  simp only [pass?, entries_eq, if_neg isProper.notDot, if_neg isProper.notUp, if_neg isShort,
    found]

/-- A name that is passed and is no dot is an entry. -/
theorem exists_hasEntry_of_pass?
    {answer : Trail × List Text}
    (here : tree.pass? trail name = some answer)
    (isProper : Path.IsProper name) :
    ∃ number, tree.HasEntry trail name number := by
  rw [pass?] at here
  split at here
  · cases here
  · rename_i entries entries_eq
    rw [if_neg isProper.notDot, if_neg isProper.notUp] at here
    split at here
    · cases here
    · rename_i isShort
      split at here
      · cases here
      · rename_i number found
        exact ⟨number, ⟨entries, entries_eq, found⟩, isShort⟩

/-- The last name is not followed when links are not. -/
theorem lookUp_last
    (hasEntry : tree.HasEntry trail name number)
    (isProper : Path.IsProper name)
    (links : Nat) :
    tree.lookUp false links trail [name] = .ok ((name, number) :: trail) := by
  obtain ⟨⟨entries, entries_eq, found⟩, isShort⟩ := hasEntry
  rw [lookUp]
  simp only [entries_eq, if_neg isProper.notDot, if_neg isProper.notUp, if_neg isShort, found]
  split
  · rw [lookUp]
  · simp

/-- A look-up takes one name as the trail passes it, if it may follow a link more. -/
theorem lookUp_of_pass?
    (follow : Bool)
    {more names : List Text}
    (here : tree.pass? trail name = some (next, more))
    (notLast : names ≠ [])
    (links : Nat) :
    ∃ before, tree.lookUp follow before trail (name :: names) =
      tree.lookUp follow links next (more ++ names) := by
  rw [pass?] at here
  split at here
  · cases here
  rename_i entries entries_eq
  by_cases isDot : name = ['.']
  · rw [if_pos isDot] at here
    cases here
    exact ⟨links, by rw [lookUp, entries_eq]; simp [isDot]⟩
  rw [if_neg isDot] at here
  by_cases isUp : name = ['.', '.']
  · rw [if_pos isUp] at here
    cases here
    exact ⟨links, by rw [lookUp, entries_eq]; simp [isUp]⟩
  rw [if_neg isUp] at here
  by_cases isLong : nameLimit < Text.Utf8.size name
  · rw [if_pos isLong] at here
    cases here
  rw [if_neg isLong] at here
  split at here
  · cases here
  rename_i number found
  cases target_eq : tree.target? number with
  | none =>
      rw [target_eq] at here
      cases here
      refine ⟨links, ?_⟩
      rw [lookUp, entries_eq]
      simp [isDot, isUp, isLong, found, target_eq]
  | some target =>
      rw [target_eq] at here
      dsimp only at here
      split at here
      · cases here
      · rename_i notEmpty
        cases here
        refine ⟨links + 1, ?_⟩
        rw [lookUp, entries_eq]
        simp [isDot, isUp, isLong, found, target_eq, notLast, notEmpty]

/-! ## All names -/

theorem Passes.deterministic
    {names : List Text}
    {other : Trail}
    (passes : tree.Passes trail names final)
    (passesToo : tree.Passes trail names other) :
    final = other := by
  induction passes with
  | refl => cases passesToo; rfl
  | step here _ ih =>
      cases passesToo with
      | step hereToo behindToo =>
          cases here.symm.trans hereToo
          exact ih behindToo

theorem Passes.append
    {front behind : List Text}
    (passes : tree.Passes trail front next)
    (passesOn : tree.Passes next behind final) :
    tree.Passes trail (front ++ behind) final := by
  induction passes with
  | refl => exact passesOn
  | step here _ ih =>
      have passesOn := ih passesOn
      rw [List.append_assoc] at passesOn
      exact .step here passesOn

/-- The names can be cut anywhere. -/
theorem Passes.split
    {front behind : List Text}
    (passes : tree.Passes trail (front ++ behind) final) :
    ∃ middle, tree.Passes trail front middle ∧ tree.Passes middle behind final := by
  generalize names_eq : front ++ behind = names at passes
  induction passes generalizing front with
  | refl trail =>
      obtain ⟨rfl, rfl⟩ := List.append_eq_nil_iff.mp names_eq
      exact ⟨trail, .refl trail, .refl trail⟩
  | @step trail next final name more names here behind_passes ih =>
      cases front with
      | nil =>
          obtain rfl : behind = name :: names := names_eq
          exact ⟨trail, .refl trail, .step here behind_passes⟩
      | cons first front =>
          obtain ⟨rfl, rfl⟩ := List.cons.inj names_eq
          obtain ⟨middle, passes, passesOn⟩ := ih (List.append_assoc more front behind)
          exact ⟨middle, .step here passes, passesOn⟩

/-- A look-up that succeeds with links followed passes its names. -/
theorem passes_of_lookUp
    {links : Nat}
    {names : List Text}
    (found : tree.lookUp true links trail names = .ok final) :
    tree.Passes trail names final := by
  fun_induction tree.lookUp true links trail names with
  | case1 =>
      cases found
      exact .refl final
  | case3 links trail names entries entries_eq ih =>
      have here : tree.pass? trail ['.'] = some (trail, []) := by simp [pass?, entries_eq]
      exact .step here (ih found)
  | case4 links trail names entries entries_eq notDot ih =>
      have here : tree.pass? trail ['.', '.'] = some (trail.drop 1, []) := by
        simp [pass?, entries_eq]
      exact .step here (ih found)
  | case7 links trail name names entries entries_eq notDot notUp isShort number lookup_eq
      target_eq ih =>
      have here : tree.pass? trail name = some ((name, number) :: trail, []) := by
        simp [pass?, entries_eq, notDot, notUp, isShort, lookup_eq, target_eq]
      exact .step here (ih found)
  | case8 => simp_all
  | case11 trail name names entries entries_eq notDot notUp isShort number lookup_eq target
      target_eq notLast notEmpty links ih =>
      refine .step ?_ (ih found)
      simp [pass?, entries_eq, notDot, notUp, isShort, lookup_eq, target_eq, notEmpty]
  | _ => cases found

/-- A look-up never fails because there is no such call. -/
theorem lookUp_ne_notImplemented
    (tree : Tree)
    (follow : Bool)
    (links : Nat)
    (trail : Trail)
    (names : List Text) :
    tree.lookUp follow links trail names ≠ .error .notImplemented := by
  fun_induction tree.lookUp follow links trail names <;> first | assumption | nofun

/-- Names that are passed can be looked up in front of others. -/
theorem Passes.lookUp_append
    (follow : Bool)
    {front behind : List Text}
    (passes : tree.Passes trail front next)
    (notLast : behind ≠ [])
    (links : Nat) :
    ∃ before, tree.lookUp follow before trail (front ++ behind) =
      tree.lookUp follow links next behind := by
  induction passes with
  | refl => exact ⟨links, rfl⟩
  | @step trail next final name more names here _ ih =>
      obtain ⟨between, between_eq⟩ := ih
      obtain ⟨before, before_eq⟩ :=
        lookUp_of_pass? follow here (List.append_ne_nil_of_right_ne_nil names notLast) between
      exact ⟨before, by rw [List.cons_append, before_eq, ← List.append_assoc, between_eq]⟩

/-- A name that would be followed as a link is one that the names in front of it lead to. -/
theorem isLink_of_hasEntry
    {names : List Text}
    {target : Text}
    (passes : tree.Passes [] names trail)
    (hasEntry : tree.HasEntry trail name number)
    (isProper : Path.IsProper name)
    (isLink : tree.target? number = some target) :
    tree.IsLink (names ++ [name]) := by
  obtain ⟨links, links_eq⟩ := passes.lookUp_append false (List.cons_ne_nil name []) 0
  exact ⟨links, (name, number) :: trail, by rw [links_eq, lookUp_last hasEntry isProper],
    by simp [Trail.number, isLink]⟩

/-! ## Names without links -/

theorem Enters.passes
    {names : List Text}
    (enters : tree.Enters trail names final) :
    tree.Passes trail names final := by
  induction enters with
  | refl trail => exact .refl trail
  | step hasEntry isProper noLink _ ih =>
      have here := pass?_of_hasEntry hasEntry isProper
      rw [noLink] at here
      exact .step here ih

theorem Enters.concat
    {names : List Text}
    (enters : tree.Enters trail names final)
    (hasEntry : tree.HasEntry final name number)
    (isProper : Path.IsProper name)
    (noLink : tree.target? number = none) :
    tree.Enters trail (names ++ [name]) ((name, number) :: final) := by
  induction enters with
  | refl trail => exact .step hasEntry isProper noLink (.refl _)
  | step first isProperToo noLinkToo _ ih => exact .step first isProperToo noLinkToo (ih hasEntry)

/-- The trail to names that are entered shows the names. -/
theorem Enters.map_fst
    {names : List Text}
    (enters : tree.Enters trail names final) :
    final.map Prod.fst = names.reverse ++ trail.map Prod.fst := by
  induction enters with
  | refl => rfl
  | step _ _ _ _ ih => simp [ih]

theorem Enters.lookUp_append
    (follow : Bool)
    {names behind : List Text}
    (enters : tree.Enters trail names final)
    (links : Nat) :
    tree.lookUp follow links trail (names ++ behind) =
      tree.lookUp follow links final behind := by
  induction enters with
  | refl => rfl
  | @step trail final name number names hasEntry isProper noLink _ ih =>
      obtain ⟨⟨entries, entries_eq, found⟩, isShort⟩ := hasEntry
      rw [List.cons_append, lookUp, ← ih]
      simp only [entries_eq, if_neg isProper.notDot, if_neg isProper.notUp, if_neg isShort, found,
        noLink]

end Tree
end FilePaths
