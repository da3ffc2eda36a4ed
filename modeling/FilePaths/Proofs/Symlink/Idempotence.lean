import FilePaths.Proofs.Path.Canonical
import FilePaths.Proofs.Symlink.Walk

/-!
# Canonical paths of canonical paths

A path that a walk ends with is settled: it is canonical, it holds no null character, and none of
its starts is a link.  A walk leaves a settled path as it is, whatever the base and however few
links it may follow.  So the canonical path of a file is its own canonical path.
-/

namespace FilePaths
namespace Symlink

variable {World : Type} {system : System World}

/-- A path that is left as it is: making it absolute changes nothing, and it leads through no
link. -/
structure IsSettled (system : System World) (path : Text) : Prop where
  isCanonical : Path.IsCanonical path
  noNull : '\x00' ∉ path
  isLinkFree : IsLinkFree system path

/-! ## A walk ends with a settled path -/

theorem Replaces.noNull
    {path link after : Text}
    (namesNoNull : system.NamesNoNull)
    (scene : Scene World)
    (replaces : Replaces system path link after) :
    '\x00' ∉ after := by
  obtain ⟨-, -, expands⟩ := replaces
  exact Path.noNull_expand namesNoNull _ _ _ scene after (expands scene)

/-- Replacing links brings in no null character. -/
theorem Leads.noNull
    {path final : Text}
    {links : List Text}
    (namesNoNull : system.NamesNoNull)
    (scene : Scene World)
    (leads : Leads system path links final)
    (noNull : '\x00' ∉ path) :
    '\x00' ∉ final := by
  induction leads with
  | refl => exact noNull
  | step replaces _ ih => exact ih (replaces.noNull namesNoNull scene)

theorem isSettled_of_walk
    (isSteady : system.IsSteady)
    (namesNoNull : system.NamesNoNull)
    {limit : Nat}
    {base? : Option Text}
    {path real : Text}
    {scene : Scene World}
    (walk_eq : (walk system limit base? path scene).1 = .ok real) :
    IsSettled system real := by
  obtain ⟨start, links, expands, leads, -, -, isLinkFree⟩ := (walk_eq_ok_iff isSteady).mp walk_eq
  have isCanonical := Path.expand_isCanonical true base? path scene start (expands scene)
  have noNull := Path.noNull_expand namesNoNull true base? path scene start (expands scene)
  exact ⟨leads.isCanonical scene isCanonical, leads.noNull namesNoNull scene noNull, isLinkFree⟩

/-! ## A walk leaves a settled path -/

/-- A settled path resolves to itself, and no target is read. -/
theorem IsSettled.resolves
    {path : Text}
    (isSettled : IsSettled system path)
    (limit : Nat)
    (base? : Option Text) :
    Resolves system limit base? path (.ok path) [] := by
  have expands : (Path.expand system true base? path).Gives (.ok path) :=
    Path.expand_of_isCanonical isSettled.isCanonical isSettled.noNull true base?
  exact .ends expands (.refl path) List.nodup_nil (Nat.zero_le limit)
    (.clear isSettled.isLinkFree)

theorem IsSettled.walk_gives
    {path : Text}
    (isSettled : IsSettled system path)
    (isSteady : system.IsSteady)
    (limit : Nat)
    (base? : Option Text) :
    (walk system limit base? path).Gives (.ok path) :=
  fun scene => ((walk_ends_iff isSteady base? scene).mpr (isSettled.resolves limit base?)).1

theorem IsSettled.realpath_gives
    {path : Text}
    (isSettled : IsSettled system path)
    (isSteady : system.IsSteady)
    (isThere : (Query.fileExists system path).Gives (.ok true))
    (limit : Nat)
    (base? : Option Text) :
    (realpath system .walk limit base? path).Gives (.ok path) := by
  rw [realpath, if_pos isSettled.isCanonical.pieces.1,
    Path.checkNull_of_noNull isSettled.noNull]
  apply Run.Gives.bind (Run.gives_ofExcept _)
  apply Run.Gives.bind (Run.gives_pure _)
  apply Run.Gives.bind (isSettled.walk_gives isSteady limit none)
  apply Run.Gives.bind isThere
  exact Run.gives_pure _

theorem IsSettled.realdirpath_gives
    {path : Text}
    (isSettled : IsSettled system path)
    (isSteady : system.IsSteady)
    (isThere : (Query.isDirectory system (Path.dirname path)).Gives (.ok true))
    (limit : Nat)
    (base? : Option Text) :
    (realdirpath system limit base? path).Gives (.ok path) := by
  apply Run.Gives.bind (isSettled.walk_gives isSteady limit base?)
  apply Run.Gives.bind isThere
  exact Run.gives_pure _

/-! ## Canonical paths of files -/

theorem exists_of_realdirpath
    {limit : Nat}
    {base? : Option Text}
    {path real : Text}
    {scene : Scene World}
    (real_eq : (realdirpath system limit base? path scene).1 = .ok real) :
    (walk system limit base? path scene).1 = .ok real ∧
      ∃ after, (Query.isDirectory system (Path.dirname real) after).1 = .ok true := by
  obtain ⟨found, walk_eq, real_eq⟩ := Run.exists_of_bind_eq_ok real_eq
  obtain ⟨isThere, isThere_eq, real_eq⟩ := Run.exists_of_bind_eq_ok real_eq
  cases isThere with
  | false => cases real_eq
  | true =>
      obtain rfl := Except.ok.inj real_eq
      exact ⟨walk_eq, _, isThere_eq⟩

/-- On a steady system whose directories hold no null character, a canonical path found by walking
is its own canonical path, for every base and every limit of links; so is one whose file may be
missing. -/
theorem realpath_of_realpath
    (isSteady : system.IsSteady)
    (namesNoNull : system.NamesNoNull)
    (limit limit' : Nat)
    (base? base' : Option Text)
    (path real : Text)
    (scene scene' : Scene World) :
    ((realpath system .walk limit base? path scene).1 = .ok real →
      (realpath system .walk limit' base' real scene').1 = .ok real) ∧
      ((realdirpath system limit base? path scene).1 = .ok real →
        (realdirpath system limit' base' real scene').1 = .ok real) := by
  constructor
  · intro real_eq
    obtain ⟨target, before, after, -, walk_eq, isThere_eq⟩ := exists_of_realpath real_eq
    have isSettled := isSettled_of_walk isSteady namesNoNull walk_eq
    have isThere : (Query.fileExists system real).Gives (.ok true) :=
      isThere_eq ▸ isSteady.fileExists_gives real after
    exact isSettled.realpath_gives isSteady isThere limit' base' scene'
  · intro real_eq
    obtain ⟨walk_eq, after, isThere_eq⟩ := exists_of_realdirpath real_eq
    have isSettled := isSettled_of_walk isSteady namesNoNull walk_eq
    have isThere : (Query.isDirectory system (Path.dirname real)).Gives (.ok true) :=
      isThere_eq ▸ isSteady.holds_gives _ (Path.dirname real) after
    exact isSettled.realdirpath_gives isSteady isThere limit' base' scene'

/-- A link to a directory, and a file and a missing name in that directory. -/
def detour : Table where
  stats :=
    [(['/', 'd'], .ok { mode := 0o40755 }), (['/', 'd', '/', 'f'], .ok { mode := 0o100644 })]
  entries := [(['/', 'a'], .ok { mode := 0o120777 })]
  targets := [(['/', 'a'], .ok ['d', '/', '.'])]
  directory := .ok ['/']
  home := none
  ids := (0, 0)

theorem detour_namesNoNull : detour.system.NamesNoNull :=
  Table.namesNoNull (by decide)

theorem detour_realpath_of_realpath :
    (realpath detour.system .walk 40 none ['a', '/', 'f'] ⟨0, []⟩).1 =
        .ok ['/', 'd', '/', 'f'] ∧
      (realpath detour.system .walk 0 (some ['x']) ['/', 'd', '/', 'f'] ⟨0, []⟩).1 =
        .ok ['/', 'd', '/', 'f'] ∧
      (realdirpath detour.system 1 (some ['/']) ['a', '/', '/', 'g'] ⟨0, []⟩).1 =
        .ok ['/', 'd', '/', 'g'] ∧
      (realdirpath detour.system 0 none ['/', 'd', '/', 'g'] ⟨0, []⟩).1 =
        .ok ['/', 'd', '/', 'g'] := by
  have file_eq :
      (realpath detour.system .walk 40 none ['a', '/', 'f'] ⟨0, []⟩).1 =
        .ok ['/', 'd', '/', 'f'] := by
    cbv
  have missing_eq :
      (realdirpath detour.system 1 (some ['/']) ['a', '/', '/', 'g'] ⟨0, []⟩).1 =
        .ok ['/', 'd', '/', 'g'] := by
    cbv
  refine ⟨file_eq, ?_, missing_eq, ?_⟩
  · exact (realpath_of_realpath detour.isSteady detour_namesNoNull 40 0 none (some ['x']) _ _
      ⟨0, []⟩ ⟨0, []⟩).1 file_eq
  · exact (realpath_of_realpath detour.isSteady detour_namesNoNull 1 0 (some ['/']) none _ _
      ⟨0, []⟩ ⟨0, []⟩).2 missing_eq

end Symlink
end FilePaths
