import FilePaths.Proofs.Path.Canonical
import FilePaths.Proofs.Symlink.Walk

/-!
# Endless substitution

Substitution on the text alone may go on for ever.  A walk that follows it then comes to a link
that is refused.  It does follow it where no null character gets into a path, since paths with null
characters cannot be made absolute.
-/

namespace FilePaths

/-- It can always be told whether there is a symbolic link, and every link can be read; no target
holds a null character. -/
structure System.ReadsLinks {World : Type} (system : System World) : Prop where
  lstat : ∀ path world cause, (system.lstat path world).1 = .error cause →
    cause.isAbsence = true
  readlink : ∀ link, (Query.isSymlink system link).Gives (.ok true) →
    ∀ world, ∃ target, (system.readlink link world).1 = .ok target ∧ '\x00' ∉ target

/-- A table that has a record in every row knows nothing of a path or has a record of it. -/
theorem Table.lstat_cases
    {table : Table}
    (areAnswered : ∀ row ∈ table.entries ++ table.stats, ∀ cause, row.2 ≠ .error cause)
    (path : Text)
    (world : Mode) :
    (table.system.lstat path world).1 = .error .noEntry ∨
      ∃ record, (path, .ok record) ∈ table.entries ++ table.stats ∧
        (table.system.lstat path world).1 = .ok record := by
  change ((table.entries ++ table.stats).lookup path).getD _ = _ ∨ ∃ record, _ ∧
    ((table.entries ++ table.stats).lookup path).getD _ = _
  cases lookup_eq : (table.entries ++ table.stats).lookup path with
  | none => exact .inl rfl
  | some answer =>
      obtain ⟨front, behind, rows_eq, -⟩ := List.lookup_eq_some_iff.mp lookup_eq
      have isRow : (path, answer) ∈ table.entries ++ table.stats := by
        rw [rows_eq]
        exact List.mem_append_right _ List.mem_cons_self
      cases answer with
      | error cause => exact absurd rfl (areAnswered _ isRow cause)
      | ok record => exact .inr ⟨record, isRow, rfl⟩

/-- Links can be told and read on a table that has a record in every row, and a target for every
record of a link. -/
theorem Table.readsLinks
    {table : Table}
    (areAnswered : ∀ row ∈ table.entries ++ table.stats, ∀ cause, row.2 ≠ .error cause)
    (haveTargets : ∀ row ∈ table.entries ++ table.stats, ∀ record, row.2 = .ok record →
      (FileRecord.ofSystem record).isKind .symlink = true →
      ∃ target, table.targets.lookup row.1 = some (.ok target) ∧ '\x00' ∉ target) :
    table.system.ReadsLinks := by
  constructor
  · intro path world cause cause_eq
    rcases Table.lstat_cases areAnswered path world with none_eq | ⟨record, -, record_eq⟩
    · rw [none_eq] at cause_eq
      cases cause_eq
      rfl
    · rw [record_eq] at cause_eq
      cases cause_eq
  · intro link gives world
    have isLink := gives ⟨world, []⟩
    rw [Query.isSymlink_result] at isLink
    rcases Table.lstat_cases areAnswered link world with none_eq | ⟨record, isRow, record_eq⟩
    · rw [none_eq] at isLink
      cases isLink
    · rw [record_eq] at isLink
      obtain ⟨target, target_eq, noNull⟩ := haveTargets _ isRow record rfl (Except.ok.inj isLink)
      refine ⟨target, ?_, noNull⟩
      change (table.targets.lookup link).getD _ = _
      rw [target_eq]
      rfl

namespace Symlink

variable {World : Type} {system : System World}

/-! ## Substitution on the text -/

/-- What a target and what stands behind its link come to: a relative target is read from the
directory of the link. -/
def spliced (link target rest : Text) : Text :=
  Path.resolve
    (if Path.isAbsolute (substituted target rest) then substituted target rest
      else Path.dirname link ++ '/' :: substituted target rest)

/-- One substitution on the text alone. -/
inductive Splices (system : System World) (path after : Text) : Prop
  | intro
      {link rest target : Text}
      (isFirst : FirstLink system path link rest)
      (reads : Question.Answers (system.readlink link) (.ok target))
      (after_eq : after = spliced link target rest) :
      Splices system path after

/-- Substitution on the text never ends. -/
def NeverEnds (system : System World) (path : Text) : Prop :=
  ∃ stage : Nat → Text, stage 0 = path ∧
    ∀ count, Splices system (stage count) (stage (count + 1))

theorem noNull_substituted
    {target rest : Text}
    (noNull : '\x00' ∉ target)
    (noNullRest : '\x00' ∉ rest) :
    '\x00' ∉ substituted target rest := by
  rw [substituted]
  split
  · exact noNull
  · intro isMember
    rcases Path.mem_append_cases isMember with isSlash | inTarget | inRest
    · cases isSlash
    · exact noNull inTarget
    · exact noNullRest inRest

/-- A null character in a target stays. -/
theorem isNull_substituted
    {target : Text}
    (isNull : '\x00' ∈ target)
    (rest : Text) :
    '\x00' ∈ substituted target rest := by
  rw [substituted]
  split
  · exact isNull
  · exact Path.mem_append_of_mem (by decide) (.inl isNull)

/-- In a canonical path without null characters, a link with such a target can be replaced. -/
theorem expand_substituted
    {path link rest target : Text}
    (isCanonical : Path.IsCanonical path)
    (noNull : '\x00' ∉ path)
    (isFirst : FirstLink system path link rest)
    (noNullTarget : '\x00' ∉ target)
    (scene : Scene World) :
    '\x00' ∉ spliced link target rest ∧
      (Path.expand system false (some (Path.dirname link)) (substituted target rest)).Gives
        (.ok (spliced link target rest)) := by
  have path_eq := isFirst.isStart.path_eq
  have noNullLink : '\x00' ∉ link := fun inLink =>
    noNull (path_eq ▸ List.mem_append_left _ inLink)
  have noNullRest : '\x00' ∉ rest := fun inRest =>
    noNull (path_eq ▸ List.mem_append_right _ inRest)
  have startsAbsolute := isFirst.isStart.isAbsolute isCanonical.pieces.1
  have directoryAbsolute := Path.isAbsolute_dirname startsAbsolute
  have noNullDirectory := Path.noNull_dirname startsAbsolute noNullLink
  have expands :
      (Path.expand system false (some (Path.dirname link)) (substituted target rest)).Gives
        (.ok (spliced link target rest)) :=
    Path.expand_of_isAbsolute_base directoryAbsolute noNullDirectory
      (noNull_substituted noNullTarget noNullRest)
  refine ⟨?_, expands⟩
  exact Path.noNull_expand_of_isAbsolute directoryAbsolute _ scene _ (expands scene)

/-- A path without null characters is spliced as its link is replaced. -/
theorem Splices.exists_replaces
    {path after : Text}
    (splices : Splices system path after)
    (readsLinks : system.ReadsLinks)
    (isCanonical : Path.IsCanonical path)
    (noNull : '\x00' ∉ path)
    (scene : Scene World) :
    '\x00' ∉ after ∧ ∃ link, Replaces system path link after := by
  obtain ⟨isFirst, reads, rfl⟩ := splices
  rename_i link rest target
  have noNullTarget : '\x00' ∉ target := by
    obtain ⟨other, other_eq, noNullOther⟩ := readsLinks.readlink link isFirst.gives scene.world
    obtain rfl := Except.ok.inj ((reads scene.world).symm.trans other_eq)
    exact noNullOther
  obtain ⟨noNullAfter, expands⟩ :=
    expand_substituted isCanonical noNull isFirst noNullTarget scene
  exact ⟨noNullAfter, link, isFirst, reads, expands⟩

/-! ## Walks that follow an endless substitution -/

theorem exists_replaces_of_stages
    (readsLinks : system.ReadsLinks)
    (scene : Scene World)
    {stage : Nat → Text}
    (isCanonical : Path.IsCanonical (stage 0))
    (noNull : '\x00' ∉ stage 0)
    (splices : ∀ count, Splices system (stage count) (stage (count + 1)))
    (count : Nat) :
    ∃ link, Replaces system (stage count) link (stage (count + 1)) := by
  suffices holds : Path.IsCanonical (stage count) ∧ '\x00' ∉ stage count from
    ((splices count).exists_replaces readsLinks holds.1 holds.2 scene).2
  induction count with
  | zero => exact ⟨isCanonical, noNull⟩
  | succ count ih =>
      obtain ⟨noNullAfter, link, replaces⟩ :=
        (splices count).exists_replaces readsLinks ih.1 ih.2 scene
      exact ⟨replaces.isCanonical scene, noNullAfter⟩

/-- A resolution that follows an endless substitution ends at a link that is refused. -/
theorem exists_ending_of_stages
    (limit : Nat)
    {stage : Nat → Text}
    (replaces : ∀ count, ∃ link, Replaces system (stage count) link (stage (count + 1))) :
    ∃ links final link reads, Leads system (stage 0) links final ∧ links.Nodup ∧
      links.length ≤ limit ∧
      Ending system limit links final (.error (.tooManySymlinks link)) reads := by
  have progress : ∀ links path, (∃ count, path = stage count) → links.length ≤ limit →
      (∃ result reads, (∃ link, result = .error (.tooManySymlinks link)) ∧
          Ending system limit links path result reads) ∨
        ∃ link after, Replaces system path link after ∧ (∃ count, after = stage count) ∧
          link ∉ links ∧ links.length < limit := by
    rintro links path ⟨count, rfl⟩ areWithin
    obtain ⟨link, replacesNext⟩ := replaces count
    by_cases isRefused : link ∈ links ∨ links.length = limit
    · obtain ⟨isFirst, -, -⟩ := replacesNext
      exact .inl ⟨_, _, ⟨link, rfl⟩, .refused isFirst isRefused⟩
    · obtain ⟨isNew, notFull⟩ := not_or.mp isRefused
      exact .inr ⟨link, _, replacesNext, ⟨count + 1, rfl⟩, isNew,
        Nat.lt_of_le_of_ne areWithin notFull⟩
  obtain ⟨links, final, _, reads, ⟨link, rfl⟩, holds⟩ :=
    exists_ending_of_progress progress ⟨0, rfl⟩ List.nodup_nil (Nat.zero_le limit)
  exact ⟨links, final, link, reads, holds⟩

/-- Where no null character gets into a path, a walk from which substitution never ends is refused
a link. -/
theorem exists_refused_of_neverEnds
    (readsLinks : system.ReadsLinks)
    (namesNoNull : system.NamesNoNull)
    (limit : Nat)
    {base? : Option Text}
    {path start : Text}
    {scene : Scene World}
    (start_eq : (Path.expand system true base? path scene).1 = .ok start)
    (neverEnds : NeverEnds system start) :
    ∃ link, (walk system limit base? path scene).1 = .error (.tooManySymlinks link) := by
  obtain ⟨stage, rfl, splices⟩ := neverEnds
  have isCanonical := Path.expand_isCanonical _ _ _ scene _ start_eq
  have noNull := Path.noNull_expand namesNoNull _ _ _ scene _ start_eq
  have replaces := exists_replaces_of_stages readsLinks scene isCanonical noNull splices
  obtain ⟨links, final, link, reads, leads, areDifferent, areWithin, ending⟩ :=
    exists_ending_of_stages limit replaces
  have yields := yields_advance_of_leads scene [] isCanonical leads areDifferent areWithin ending
  exact ⟨link, walk_result_of_yields start_eq yields⟩

end Symlink
end FilePaths
