import FilePaths.Proofs.Symlink.Walk

/-!
# Refused links

A walk takes a link that it has seen before in the same resolution for a cycle.  Where the system
itself reports no cycles, a walk fails in this way exactly where the substitution comes to a link
that has been replaced before, or to one link more than the limit allows.
-/

namespace FilePaths

/-- The system never answers that there are too many links. -/
structure System.NeverLoops {World : Type} (system : System World) : Prop where
  lstat : ∀ path world, (system.lstat path world).1 ≠ .error .tooManyLinks
  readlink : ∀ path world, (system.readlink path world).1 ≠ .error .tooManyLinks
  currentDir : ∀ world, (system.currentDir world).1 ≠ .error .tooManyLinks

/-- What is not written in the rows, and is not the answer otherwise, is never answered. -/
theorem Table.answer_ne
    {Value : Type}
    {rows : List (Text × Except Cause Value)}
    {otherwise answer : Except Cause Value}
    (inRows : ∀ row ∈ rows, row.2 ≠ answer)
    (isOther : otherwise ≠ answer)
    (key : Text)
    (mask : Mode) :
    (Table.answer rows otherwise key mask).1 ≠ answer := by
  rw [Table.answer]
  cases row_eq : rows.lookup key with
  | none => exact isOther
  | some found =>
      obtain ⟨before, after, rows_eq, -⟩ := List.lookup_eq_some_iff.mp row_eq
      exact inRows (key, found) (by simp [rows_eq])

/-- A table in which no such answer is written never answers that there are too many links. -/
theorem Table.neverLoops
    (table : Table)
    (inEntries : ∀ row ∈ table.entries ++ table.stats, row.2 ≠ .error .tooManyLinks)
    (inTargets : ∀ row ∈ table.targets, row.2 ≠ .error .tooManyLinks)
    (isOther : table.directory ≠ .error .tooManyLinks) :
    table.system.NeverLoops where
  lstat path mask := Table.answer_ne inEntries (by nofun) path mask
  readlink path mask := Table.answer_ne inTargets (by nofun) path mask
  currentDir _ := isOther

/-- Only the system's own answer is classified as too many links. -/
theorem Error.ofCause_ne_tooManySymlinks
    {cause : Cause}
    {path link : Text}
    (isOther : cause ≠ .tooManyLinks) :
    Error.ofCause cause path ≠ .tooManySymlinks link := by
  unfold Error.ofCause
  split
  · rename_i number
    have notLoop : number ≠ 40 := by rintro rfl; exact isOther rfl
    split
    · nofun
    · split
      · nofun
      · split <;> nofun
  all_goals nofun

namespace Symlink

variable {World : Type} {system : System World}

/-- Making a path absolute meets no links. -/
theorem expand_ne_tooManySymlinks
    (neverLoops : system.NeverLoops)
    {tilde : Bool}
    {base? : Option Text}
    {path link : Text}
    (scene : Scene World) :
    (Path.expand system tilde base? path scene).1 ≠ .error (.tooManySymlinks link) := by
  intro fails
  have isOther : (Path.expand system tilde base? path).FailsWith (· ≠ .tooManySymlinks link) :=
    Path.failsWith_expand (fun _ => nofun) fun world cause cause_eq =>
      Error.ofCause_ne_tooManySymlinks fun isLoop =>
        neverLoops.currentDir world (by rw [cause_eq, isLoop])
  exact isOther scene _ fails rfl

theorem isSymlink_ne_tooManySymlinks
    (neverLoops : system.NeverLoops)
    {path link : Text}
    (scene : Scene World) :
    (Query.isSymlink system path scene).1 ≠ .error (.tooManySymlinks link) := by
  intro fails
  have isOther : (Query.isSymlink system path).FailsWith (· ≠ .tooManySymlinks link) :=
    Query.failsWith_isSymlink fun world cause cause_eq =>
      Error.ofCause_ne_tooManySymlinks fun isLoop =>
        neverLoops.lstat path world (by rw [cause_eq, isLoop])
  exact isOther scene _ fails rfl

/-- Where the system reports no cycles, a resolution that fails with too many links has refused
one. -/
theorem Ending.isRefused
    (neverLoops : system.NeverLoops)
    (scene : Scene World)
    {limit : Nat}
    {links reads : List Text}
    {path link : Text}
    (ending : Ending system limit links path (.error (.tooManySymlinks link)) reads) :
    (∃ rest, FirstLink system path link rest) ∧ (link ∈ links ∨ links.length = limit) := by
  generalize result_eq : (.error (.tooManySymlinks link) : Except Error Text) = result at ending
  cases ending with
  | clear => cases result_eq
  | unknown isFirst =>
      obtain ⟨⟩ := result_eq
      exact absurd (isFirst.gives scene) (isSymlink_ne_tooManySymlinks neverLoops scene)
  | refused isFirst isRefused =>
      obtain ⟨⟩ := result_eq
      exact ⟨⟨_, isFirst⟩, isRefused⟩
  | unreadable isFirst _ _ fails =>
      refine absurd (Except.error.inj result_eq).symm
        (Error.ofCause_ne_tooManySymlinks fun isLoop => ?_)
      exact neverLoops.readlink _ scene.world (by rw [fails scene.world, isLoop])
  | unexpanded _ _ _ _ fails =>
      obtain ⟨⟩ := result_eq
      exact absurd (fails scene) (expand_ne_tooManySymlinks neverLoops scene)

/-- The resolution of a path comes, after different links within the limit, to a link that it has
replaced before or has no room for. -/
inductive Refuses
    (system : System World)
    (limit : Nat)
    (base? : Option Text)
    (path link : Text) : Prop
  | intro
      {start reached rest : Text}
      {links : List Text}
      (expands : (Path.expand system true base? path).Gives (.ok start))
      (leads : Leads system start links reached)
      (areDifferent : links.Nodup)
      (areWithin : links.length ≤ limit)
      (isFirst : FirstLink system reached link rest)
      (isRefused : link ∈ links ∨ links.length = limit) :
      Refuses system limit base? path link

/-- Where the system reports no cycles, a walk fails with too many links exactly where the
resolution refuses a link.  A resolution that could reach a path without links is only refused if
it replaces more links than the limit, or one of them twice. -/
theorem walk_refuses_iff
    (isSteady : system.IsSteady)
    (neverLoops : system.NeverLoops)
    (limit : Nat)
    (base? : Option Text)
    (path link : Text)
    (scene : Scene World) :
    ((walk system limit base? path scene).1 = .error (.tooManySymlinks link) ↔
      Refuses system limit base? path link) ∧
      ∀ start links final,
        (walk system limit base? path scene).1 = .error (.tooManySymlinks link) →
        (Path.expand system true base? path).Gives (.ok start) →
        Leads system start links final → IsLinkFree system final →
        limit < links.length ∨ ¬ links.Nodup := by
  have walks {result reads} :
      _ ↔ Resolves system limit base? path result reads := walk_ends_iff isSteady base? scene
  refine ⟨⟨?_, ?_⟩, ?_⟩
  · intro fails
    obtain ⟨reads, resolves⟩ : ∃ reads, Resolves system limit base? path _ reads :=
      ⟨_, walks.mp ⟨fails, rfl⟩⟩
    generalize result_eq : (.error (.tooManySymlinks link) : Except Error Text) = result at resolves
    cases resolves with
    | unexpanded fails =>
        obtain ⟨⟩ := result_eq
        exact absurd (fails scene) (expand_ne_tooManySymlinks neverLoops scene)
    | ends expands leads areDifferent areWithin ending =>
        subst result_eq
        obtain ⟨⟨rest, isFirst⟩, isRefused⟩ := ending.isRefused neverLoops scene
        exact ⟨expands, leads, areDifferent, areWithin, isFirst, isRefused⟩
  · rintro ⟨expands, leads, areDifferent, areWithin, isFirst, isRefused⟩
    exact (walks.mpr
      (.ends expands leads areDifferent areWithin (.refused isFirst isRefused))).1
  · intro start links final fails expands leads isLinkFree
    refine Decidable.or_iff_not_imp_left.mpr fun isWithin areDifferent => ?_
    have resolves := Resolves.ends expands leads areDifferent (Nat.le_of_not_lt isWithin)
      (.clear isLinkFree)
    have succeeds := (walks.mpr resolves).1
    rw [fails] at succeeds
    cases succeeds

theorem crossing_neverLoops : crossing.system.NeverLoops :=
  crossing.neverLoops (by simp [crossing]) (by simp [crossing]) nofun

theorem crossing_refuses :
    Refuses crossing.system 40 none ['/', 'a', '/', 'x'] ['/', 'a'] :=
  (walk_refuses_iff crossing.isSteady crossing_neverLoops 40 none _ _ ⟨0, []⟩).1.mp (by cbv)

/-- Whatever is looked for behind the first link, that link is met first. -/
theorem crossing_firstLink
    {name : Text}
    (noSlash : '/' ∉ name) :
    FirstLink crossing.system ('/' :: 'a' :: '/' :: name) ['/', 'a'] ('/' :: name) := by
  have isFirst : FirstLink crossing.system (Path.slashed [['a'], name]) (Path.slashed [['a']])
      (Path.slashed [name]) :=
    (firstAnswer_slashed_iff (by simpa using noSlash)).mpr
      ⟨[], ['a'], [name], rfl, rfl, rfl, passed_nil, fun _ => by cbv⟩
  simpa using isFirst

/-- Three substitutions reach a path without links; still the walk is refused, since the first and
the third are of the same link. -/
theorem crossing_walk_refused :
    crossing.system.IsSteady ∧ crossing.system.NeverLoops ∧
      (walk crossing.system 40 none ['/', 'a', '/', 'x'] ⟨0, []⟩).1 =
        .error (.tooManySymlinks ['/', 'a']) ∧
      (Path.expand crossing.system true none ['/', 'a', '/', 'x']).Gives
        (.ok ['/', 'a', '/', 'x']) ∧
      Leads crossing.system ['/', 'a', '/', 'x'] [['/', 'a'], ['/', 'd', '/', 'x'], ['/', 'a']]
        ['/', 'd', '/', 'y'] ∧
      IsLinkFree crossing.system ['/', 'd', '/', 'y'] := by
  have passed : Passed crossing.system [['d']] := passed_concat passed_nil fun _ => by cbv
  have isSecond : FirstLink crossing.system ['/', 'd', '/', 'x'] ['/', 'd', '/', 'x'] [] :=
    (firstAnswer_slashed_iff (by simp)).mpr
      ⟨[['d']], ['x'], [], rfl, rfl, rfl, passed, fun _ => by cbv⟩
  have isClear : IsLinkFree crossing.system (Path.slashed [['d'], ['y']]) :=
    (isLinkFree_slashed_iff (by simp)).mpr (passed_concat passed fun _ => by cbv)
  have first : Replaces crossing.system ['/', 'a', '/', 'x'] ['/', 'a'] ['/', 'd', '/', 'x'] :=
    ⟨crossing_firstLink (by simp), fun _ => by cbv, fun _ => by cbv⟩
  have second :
      Replaces crossing.system ['/', 'd', '/', 'x'] ['/', 'd', '/', 'x'] ['/', 'a', '/', 'y'] :=
    ⟨isSecond, fun _ => by cbv, fun _ => by cbv⟩
  have third : Replaces crossing.system ['/', 'a', '/', 'y'] ['/', 'a'] ['/', 'd', '/', 'y'] :=
    ⟨crossing_firstLink (by simp), fun _ => by cbv, fun _ => by cbv⟩
  exact ⟨crossing.isSteady, crossing_neverLoops, by cbv, fun _ => by cbv,
    .step first (.step second (.step third (.refl _))), isClear⟩

end Symlink
end FilePaths
