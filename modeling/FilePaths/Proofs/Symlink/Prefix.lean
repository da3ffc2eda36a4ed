import FilePaths.Proofs.Path.Relative
import FilePaths.Proofs.Symlink.Endless
import FilePaths.Proofs.Symlink.Idempotence
import FilePaths.Proofs.Symlink.Refusal

/-!
# Canonical paths of prefixes

To resolve a path is to resolve a prefix of it first and to go on from where that leads.  As long as
the first link of the whole path lies in the prefix, the names behind the prefix are carried along
and stay as they are.  When there is no such link any more, the prefix has been resolved.
-/

namespace FilePaths
namespace Symlink

variable {World : Type} {system : System World}

/-- The components of the place that a link leads to: a relative target is read from the directory
of the link. -/
def entered (link target : Text) : List Text :=
  (if Path.isAbsolute target then [] else Path.components (Path.dirname link)) ++
    Path.components target

/-! ## Names behind a link -/

theorem spliced_slashed
    {link target : Text}
    {behind : List Text}
    (notEmpty : target ≠ [])
    (areNames : ∀ name ∈ behind, Path.IsName name) :
    spliced link target (Path.slashed behind) =
      Path.ofComponents (Path.settle (entered link target ++ behind)) := by
  rw [spliced, isAbsolute_substituted notEmpty, entered, Path.resolve]
  split
  · rw [components_substituted areNames, List.nil_append]
  · rw [Path.components_append_slash, components_substituted areNames, List.append_assoc]

/-- Proper names at the end are carried along. -/
theorem spliced_slashed_append
    {link target : Text}
    {behind more : List Text}
    (notEmpty : target ≠ [])
    (areNames : ∀ name ∈ behind, Path.IsName name)
    (areProper : ∀ name ∈ more, Path.IsProper name) :
    spliced link target (Path.slashed (behind ++ more)) =
      Path.ofComponents (Path.settle (entered link target ++ behind) ++ more) := by
  have areAllNames : ∀ name ∈ behind ++ more, Path.IsName name :=
    List.forall_mem_append.mpr ⟨areNames, fun name isMember => (areProper name isMember).toIsName⟩
  rw [spliced_slashed notEmpty areAllNames, ← List.append_assoc,
    Path.settle_append_of_isProper _ areProper]

theorem isName_of_mem_entered
    {link target name : Text}
    (isMember : name ∈ entered link target) :
    Path.IsName name := by
  rw [entered] at isMember
  rcases List.mem_append.mp isMember with inDirectory | inTarget
  · split at inDirectory
    · cases inDirectory
    · exact Path.isName_of_mem_components inDirectory
  · exact Path.isName_of_mem_components inTarget

/-! ## One link -/

/-- Behind names that have been passed, a link is replaced. -/
theorem replaces_of_passed
    {front behind : List Text}
    {name target : Text}
    (areSound : Path.AreSound (front ++ name :: behind))
    (passed : Passed system front)
    (gives : (Query.isSymlink system (Path.slashed (front ++ [name]))).Gives (.ok true))
    (reads : Question.Answers (system.readlink (Path.slashed (front ++ [name]))) (.ok target))
    (notEmpty : target ≠ [])
    (noNull : '\x00' ∉ target)
    (scene : Scene World) :
    Replaces system (Path.ofComponents (front ++ name :: behind)) (Path.slashed (front ++ [name]))
      (Path.ofComponents
        (Path.settle (entered (Path.slashed (front ++ [name])) target ++ behind))) := by
  have noSlash : ∀ other ∈ front ++ name :: behind, '/' ∉ other := fun other isMember =>
    (areSound.areProper other isMember).noSlash
  have areNames : ∀ other ∈ behind, Path.IsName other := fun other isMember =>
    (areSound.areProper other (by simp [isMember])).toIsName
  have isFirst : FirstLink system (Path.ofComponents (front ++ name :: behind))
      (Path.slashed (front ++ [name])) (Path.slashed behind) := by
    rw [Path.ofComponents_eq_slashed (by simp)]
    exact (firstAnswer_slashed_iff noSlash).mpr
      ⟨front, name, behind, rfl, rfl, rfl, passed, gives⟩
  obtain ⟨-, expands⟩ :=
    expand_substituted areSound.isCanonical areSound.noNull_ofComponents isFirst noNull scene
  rw [spliced_slashed notEmpty areNames] at expands
  exact ⟨isFirst, reads, expands⟩

/-- A link in front of the last names is in the prefix, where it is replaced in the same way. -/
theorem Replaces.passed_or_exists
    {names more : List Text}
    {link after : Text}
    (noEmptyTarget : ∀ link world, (system.readlink link world).1 ≠ .ok [])
    (areSound : Path.AreSound (names ++ more))
    (scene : Scene World)
    (replaces : Replaces system (Path.ofComponents (names ++ more)) link after) :
    Passed system names ∨
      ∃ place, Path.AreSound (place ++ more) ∧ after = Path.ofComponents (place ++ more) ∧
        Replaces system (Path.ofComponents names) link (Path.ofComponents place) := by
  by_cases isRoot : names = []
  · subst isRoot
    exact .inl passed_nil
  obtain ⟨isFirst, reads, expands⟩ := replaces
  rename_i rest target
  have notEmpty : target ≠ [] := by
    rintro rfl
    exact noEmptyTarget link scene.world (reads scene.world)
  have noNull : '\x00' ∉ target := by
    have after_eq := expands scene
    rw [Path.expand_eq] at after_eq
    have noNullBoth := (Path.exists_anchored_of_expandFrom after_eq).1
    exact fun isNull => noNullBoth (isNull_substituted isNull rest)
  obtain ⟨noNullAfter, splices⟩ :=
    expand_substituted areSound.isCanonical areSound.noNull_ofComponents isFirst noNull scene
  obtain rfl := Except.ok.inj ((expands scene).symm.trans (splices scene))
  rw [Path.ofComponents_eq_slashed (by simp [isRoot])] at isFirst
  have noSlash : ∀ name ∈ names ++ more, '/' ∉ name := fun name isMember =>
    (areSound.areProper name isMember).noSlash
  obtain ⟨front, name, behind, names_eq, rfl, rfl, passed, gives⟩ :=
    (firstAnswer_slashed_iff noSlash).mp isFirst
  rcases List.append_eq_append_iff.mp names_eq with ⟨middle, rfl, -⟩ | ⟨middle, rfl, more_eq⟩
  · exact .inl (passed.of_prefix (List.prefix_append _ _))
  cases middle with
  | nil =>
      -- The link is the first name behind the prefix.
      exact .inl (by rwa [List.append_nil])
  | cons other middle =>
      rw [List.cons_append, List.cons.injEq] at more_eq
      obtain ⟨rfl, rfl⟩ := more_eq
      obtain ⟨areSoundNames, areSoundMore⟩ := Path.areSound_append_iff.mp areSound
      have areNames : ∀ other ∈ middle, Path.IsName other := fun other isMember =>
        (areSoundNames.areProper other (by simp [isMember])).toIsName
      rw [spliced_slashed_append notEmpty areNames areSoundMore.areProper] at noNullAfter ⊢
      refine .inr ⟨_, ?_, rfl, replaces_of_passed areSoundNames passed gives reads notEmpty noNull
        scene⟩
      refine Path.areSound_of_noNull ?_ noNullAfter
      refine List.forall_mem_append.mpr ⟨Path.isProper_of_mem_settle ?_, areSoundMore.areProper⟩
      exact List.forall_mem_append.mpr ⟨fun _ => isName_of_mem_entered, areNames⟩

/-! ## All links -/

/-- Replacing links leads from a prefix to a place without links, and from there on, with the names
behind the prefix, to the end. -/
inductive LeadsInParts
    (system : System World)
    (names more : List Text)
    (final : Text) : List Text → Prop
  | intro
      {place front behind : List Text}
      (areSound : Path.AreSound place)
      (leadsPrefix : Leads system (Path.ofComponents names) front (Path.ofComponents place))
      (isLinkFree : IsLinkFree system (Path.ofComponents place))
      (leadsOn : Leads system (Path.ofComponents (place ++ more)) behind final) :
      LeadsInParts system names more final (front ++ behind)

theorem LeadsInParts.step
    {names place more links : List Text}
    {link final : Text}
    (replaces : Replaces system (Path.ofComponents names) link (Path.ofComponents place))
    (inParts : LeadsInParts system place more final links) :
    LeadsInParts system names more final (link :: links) := by
  obtain ⟨areSound, leadsPrefix, isLinkFree, leadsOn⟩ := inParts
  exact .intro areSound (.step replaces leadsPrefix) isLinkFree leadsOn

/-- A prefix without links is where it leads. -/
theorem LeadsInParts.of_isLinkFree
    {names more links : List Text}
    {final : Text}
    (areSound : Path.AreSound names)
    (isLinkFree : IsLinkFree system (Path.ofComponents names))
    (leads : Leads system (Path.ofComponents (names ++ more)) links final) :
    LeadsInParts system names more final links :=
  .intro areSound (.refl _) isLinkFree leads

theorem isLinkFree_of_passed
    {names : List Text}
    (rootIsNoLink : (Query.isSymlink system ['/']).Gives (.ok false))
    (areSound : Path.AreSound names)
    (passed : Passed system names) :
    IsLinkFree system (Path.ofComponents names) := by
  by_cases isRoot : names = []
  · subst isRoot
    have passedRoot : Passed system [[]] := passed_concat passed_nil rootIsNoLink
    exact (isLinkFree_slashed_iff (by simp)).mpr passedRoot
  · rw [Path.ofComponents_eq_slashed isRoot]
    exact (isLinkFree_slashed_iff fun name isMember =>
      (areSound.areProper name isMember).noSlash).mpr passed

theorem passed_of_isLinkFree
    {names more : List Text}
    (areSound : Path.AreSound (names ++ more))
    (isLinkFree : IsLinkFree system (Path.ofComponents (names ++ more))) :
    Passed system names := by
  by_cases isRoot : names = []
  · subst isRoot
    exact passed_nil
  · rw [Path.ofComponents_eq_slashed (by simp [isRoot])] at isLinkFree
    have passed := (isLinkFree_slashed_iff fun name isMember =>
      (areSound.areProper name isMember).noSlash).mp isLinkFree
    exact passed.of_prefix (List.prefix_append _ _)

/-- A resolution that ends at a path without links resolves the prefix first, and goes on from where
that leads. -/
theorem Leads.inParts
    {names more links : List Text}
    {final : Text}
    (noEmptyTarget : ∀ link world, (system.readlink link world).1 ≠ .ok [])
    (rootIsNoLink : (Query.isSymlink system ['/']).Gives (.ok false))
    (areSound : Path.AreSound (names ++ more))
    (scene : Scene World)
    (leads : Leads system (Path.ofComponents (names ++ more)) links final)
    (isLinkFree : IsLinkFree system final) :
    LeadsInParts system names more final links := by
  -- The names of the prefix change from link to link, and the names behind it stay.
  generalize path_eq : Path.ofComponents (names ++ more) = path at leads
  induction leads generalizing names with
  | refl path =>
      subst path_eq
      have areSoundNames := (Path.areSound_append_iff.mp areSound).1
      have passed := passed_of_isLinkFree areSound isLinkFree
      exact .of_isLinkFree areSoundNames (isLinkFree_of_passed rootIsNoLink areSoundNames passed)
        (.refl _)
  | step replaces leads ih =>
      subst path_eq
      rcases replaces.passed_or_exists noEmptyTarget areSound scene with
        passed | ⟨place, areSoundPlace, rfl, replacesPrefix⟩
      · have areSoundNames := (Path.areSound_append_iff.mp areSound).1
        exact .of_isLinkFree areSoundNames
          (isLinkFree_of_passed rootIsNoLink areSoundNames passed) (.step replaces leads)
      · exact (ih areSoundPlace isLinkFree rfl).step replacesPrefix

/-! ## Joined paths -/

theorem exists_expansions_of_join
    (isSteady : system.IsSteady)
    (namesNoNull : system.NamesNoNull)
    {base? : Option Text}
    {path rest start : Text}
    (notEmpty : path ≠ [])
    (isRelative : Path.isAbsolute rest = false)
    (noUp : ['.', '.'] ∉ Path.components rest)
    (scene : Scene World)
    (expands : (Path.expand system true base? (Path.append path rest)).Gives (.ok start)) :
    '\x00' ∉ rest ∧
      ∃ names, (Path.expand system true base? path).Gives (.ok (Path.ofComponents names)) ∧
        start = Path.ofComponents (names ++ Path.settle (Path.components rest)) ∧
        Path.AreSound (names ++ Path.settle (Path.components rest)) := by
  have start_eq := expands scene
  have noNullStart := Path.noNull_expand namesNoNull true base? _ scene start start_eq
  rw [Path.expand_eq] at start_eq
  obtain ⟨noNull, place, place_eq, rfl⟩ :=
    Path.exists_of_expandFrom_append notEmpty isRelative start_eq
  rw [← Path.expand_eq] at place_eq
  obtain ⟨names, areProper, rfl⟩ := Path.expand_isCanonical true base? path scene place place_eq
  have gives := isSteady.expand_gives true base? path scene
  rw [place_eq] at gives
  rw [Path.resolve_ofComponents_append areProper noUp] at noNullStart ⊢
  refine ⟨noNull, names, gives, rfl, Path.areSound_of_noNull ?_ noNullStart⟩
  refine List.forall_mem_append.mpr ⟨areProper, Path.isProper_of_mem_settle ?_⟩
  exact fun _ => Path.isName_of_mem_components

theorem expand_join_of_areSound
    {names : List Text}
    {rest : Text}
    (areSound : Path.AreSound names)
    (noUp : ['.', '.'] ∉ Path.components rest)
    (noNull : '\x00' ∉ rest)
    (base? : Option Text) :
    (Path.expand system true base? (Path.append (Path.ofComponents names) rest)).Gives
      (.ok (Path.ofComponents (names ++ Path.settle (Path.components rest)))) := by
  have startsAbsolute := Path.isAbsolute_ofComponents names
  have notEmpty : Path.ofComponents names ≠ [] := by
    intro isEmpty
    rw [isEmpty] at startsAbsolute
    cases startsAbsolute
  rw [← Path.resolve_ofComponents_append areSound.areProper noUp, ← Path.resolve_append,
    Path.expand_eq]
  apply Path.expandFrom_of_isAbsolute
  · rw [Path.isAbsolute_append notEmpty, startsAbsolute]
  · exact Path.noNull_append areSound.noNull_ofComponents noNull

/-- On a steady system where no link is empty, the root is no link, and the directories that the
system names hold no null character, a walk along two joined paths that ends with a path can be done
in two: a walk along the first one ends with a path, and a walk along that path and the second one
ends as the whole walk does.  The second path is relative and holds no pair of dots. -/
theorem walk_join
    (isSteady : system.IsSteady)
    (namesNoNull : system.NamesNoNull)
    (noEmptyTarget : ∀ link world, (system.readlink link world).1 ≠ .ok [])
    (rootIsNoLink : (Query.isSymlink system ['/']).Gives (.ok false))
    {limit : Nat}
    {base? : Option Text}
    {path rest final : Text}
    {scene : Scene World}
    (notEmpty : path ≠ [])
    (isRelative : Path.isAbsolute rest = false)
    (noUp : ['.', '.'] ∉ Path.components rest)
    (final_eq : (walk system limit base? (Path.join [path, rest]) scene).1 = .ok final)
    (base' : Option Text)
    (again later : Scene World) :
    ∃ real, (walk system limit base? path again).1 = .ok real ∧
      (walk system limit base' (Path.join [real, rest]) later).1 = .ok final := by
  obtain ⟨start, links, expands, leads, areDifferent, areWithin, isLinkFree⟩ :=
    (walk_eq_ok_iff isSteady).mp final_eq
  obtain ⟨noNull, names, expandsPath, rfl, areSound⟩ :=
    exists_expansions_of_join isSteady namesNoNull notEmpty isRelative noUp scene expands
  obtain ⟨areSoundPlace, leadsPrefix, placeIsLinkFree, leadsOn⟩ :=
    leads.inParts noEmptyTarget rootIsNoLink areSound scene isLinkFree
  rename_i place front behind
  obtain ⟨frontDiffers, behindDiffers, -⟩ := List.nodup_append.mp areDifferent
  rw [List.length_append] at areWithin
  refine ⟨Path.ofComponents place, ?_, ?_⟩
  · exact (walk_eq_ok_iff isSteady).mpr
      ⟨_, front, expandsPath, leadsPrefix, frontDiffers, by omega, placeIsLinkFree⟩
  · have expandsOn : (Path.expand system true base' (Path.join [_, rest])).Gives _ :=
      expand_join_of_areSound areSoundPlace noUp noNull base'
    exact (walk_eq_ok_iff isSteady).mpr
      ⟨_, behind, expandsOn, leadsOn, behindDiffers, by omega, isLinkFree⟩

/-- A link that leads through another one to a directory, and a link in that directory. -/
def relay : Table where
  entries :=
    [(['/', 'w', '/', 'l'], .ok { mode := 0o120777 }),
      (['/', 'd', '/', 'm'], .ok { mode := 0o120777 }),
      (['/', 'd', '/', 'e', '/', 'k'], .ok { mode := 0o120777 })]
  targets :=
    [(['/', 'w', '/', 'l'], .ok ['.', '.', '/', 'd', '/', 'm']),
      (['/', 'd', '/', 'm'], .ok ['e', '/']),
      (['/', 'd', '/', 'e', '/', 'k'], .ok ['/', 'z'])]
  directory := .ok ['/', 'w']
  home := none
  ids := (0, 0)

theorem relay_noEmptyTarget
    (link : Text)
    (mask : Mode) :
    (relay.system.readlink link mask).1 ≠ .ok [] :=
  Table.answer_ne (by simp [relay]) (by nofun) link mask

/-- The first two links are replaced in the first half, and the third one in the second half. -/
theorem relay_walk_join :
    (walk relay.system 3 none (Path.join [['l'], ['.', '/', 'k', '/', 'x']]) ⟨0, []⟩).1 =
        .ok ['/', 'z', '/', 'x'] ∧
      (walk relay.system 3 none ['l'] ⟨0, []⟩).1 = .ok ['/', 'd', '/', 'e'] ∧
      (walk relay.system 3 none (Path.join [['/', 'd', '/', 'e'], ['.', '/', 'k', '/', 'x']])
          ⟨0, []⟩).1 =
        .ok ['/', 'z', '/', 'x'] := by
  have joint_eq :
      (walk relay.system 3 none (Path.join [['l'], ['.', '/', 'k', '/', 'x']]) ⟨0, []⟩).1 =
        .ok ['/', 'z', '/', 'x'] := by
    cbv
  have first_eq : (walk relay.system 3 none ['l'] ⟨0, []⟩).1 = .ok ['/', 'd', '/', 'e'] := by
    cbv
  have namesNoNull : relay.system.NamesNoNull := Table.namesNoNull (by decide)
  have rootIsNoLink : (Query.isSymlink relay.system ['/']).Gives (.ok false) :=
    fun _ => by cbv
  obtain ⟨real, real_eq, second_eq⟩ :=
    walk_join relay.isSteady namesNoNull relay_noEmptyTarget rootIsNoLink (by decide) rfl
      (by decide) joint_eq none ⟨0, []⟩ ⟨0, []⟩
  obtain rfl := Except.ok.inj (first_eq.symm.trans real_eq)
  exact ⟨joint_eq, first_eq, second_eq⟩

end Symlink
end FilePaths
