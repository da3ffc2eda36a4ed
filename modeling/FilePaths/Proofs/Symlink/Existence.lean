import FilePaths.Proofs.Symlink.Idempotence

/-!
# Files that exist and files that may be missing

The canonical path of a file that must exist and that of a file that may be missing are found by the
same walk, although the first one is made absolute before it is walked.  What differs is the
question asked at the end: about the file itself, or about its directory.
-/

namespace FilePaths
namespace Symlink

variable {World : Type} {system : System World} {limit : Nat} {base? : Option Text}
  {path real : Text} {scene again : Scene World}

/-! ## Walks of absolute paths -/

/-- A path resolves as what it is made absolute to. -/
theorem Resolves.of_expanded
    {start : Text}
    {result : Except Error Text}
    {reads : List Text}
    (expands : (Path.expand system true base? path).Gives (.ok start))
    (isCanonical : Path.IsCanonical start)
    (noNull : '\x00' ∉ start)
    (scene : Scene World)
    (resolves : Resolves system limit none start result reads) :
    Resolves system limit base? path result reads := by
  have stays : (Path.expand system true none start).Gives (.ok start) :=
    Path.expand_of_isCanonical isCanonical noNull true none
  cases resolves with
  | unexpanded fails =>
      have result_eq := (stays scene).symm.trans (fails scene)
      cases result_eq
  | ends expandsAgain leads areDifferent areWithin ending =>
      obtain rfl := Except.ok.inj ((stays scene).symm.trans (expandsAgain scene))
      exact .ends expands leads areDifferent areWithin ending

theorem walk_expanded_result
    (isSteady : system.IsSteady)
    (namesNoNull : system.NamesNoNull)
    {start : Text}
    (start_eq : (Path.expand system true base? path scene).1 = .ok start)
    (limit : Nat)
    (again : Scene World) :
    (walk system limit none start again).1 = (walk system limit base? path scene).1 := by
  have isCanonical := Path.expand_isCanonical true base? path scene start start_eq
  have noNull := Path.noNull_expand namesNoNull true base? path scene start start_eq
  have expands := isSteady.expand_gives true base? path scene
  rw [start_eq] at expands
  have resolves : Resolves system limit none start (walk system limit none start again).1 _ :=
    (walk_ends_iff isSteady none again).mp ⟨rfl, rfl⟩
  exact ((walk_ends_iff isSteady base? scene).mpr
    (resolves.of_expanded expands isCanonical noNull again)).1.symm

/-! ## The question at the end -/

/-- The path of a file, if there is one. -/
def existing (system : System World) (real : Text) : Run World Text := do
  if ← Query.fileExists system real then pure real else Run.fail (.notFound real)

theorem existing_result
    (system : System World)
    (real : Text)
    (scene : Scene World) :
    (existing system real scene).1 =
      match (system.stat real scene.world).1 with
      | .ok _ => .ok real
      | .error cause =>
          if cause.isAbsence then .error (.notFound real)
          else .error (Error.ofCause cause real) := by
  rw [existing, Run.bind_result, Query.fileExists_result]
  cases (system.stat real scene.world).1 with
  | ok record => rfl
  | error cause => cases isAbsence : cause.isAbsence <;> simp [isAbsence, Except.bind]

/-- The path of a file or of a missing one, if it stands in a directory. -/
def housed (system : System World) (real : Text) : Run World Text := do
  if ← Query.isDirectory system (Path.dirname real) then pure real else Run.fail (.notFound real)

theorem housed_result
    (system : System World)
    (real : Text)
    (scene : Scene World) :
    (housed system real scene).1 =
      match (system.stat (Path.dirname real) scene.world).1 with
      | .ok record =>
          if (FileRecord.ofSystem record).isKind .directory then .ok real
          else .error (.notFound real)
      | .error cause =>
          if cause.isAbsence then .error (.notFound real)
          else .error (Error.ofCause cause (Path.dirname real)) := by
  rw [housed, Run.bind_result, Query.isDirectory, Query.isKind, Query.holds, Query.find,
    Run.bind_pure_result, Query.probe_result]
  cases (system.stat (Path.dirname real) scene.world).1 with
  | ok record =>
      cases isDirectory : (FileRecord.ofSystem record).isKind .directory <;>
        simp [isDirectory, Except.map, Except.bind]
  | error cause =>
      cases isAbsence : cause.isAbsence <;> simp [isAbsence, Except.map, Except.bind]

theorem existing_eq_ok_iff
    {found : Text} :
    (existing system found scene).1 = .ok real ↔
      found = real ∧ ∃ record, (system.stat found scene.world).1 = .ok record := by
  rw [existing_result]
  cases (system.stat found scene.world).1 with
  | ok record => simp
  | error cause => cases isAbsence : cause.isAbsence <;> simp [isAbsence]

theorem housed_eq_ok_iff
    {found : Text} :
    (housed system found scene).1 = .ok real ↔
      found = real ∧ ∃ record, (system.stat (Path.dirname found) scene.world).1 = .ok record ∧
        (FileRecord.ofSystem record).isKind .directory = true := by
  rw [housed_result]
  cases (system.stat (Path.dirname found) scene.world).1 with
  | ok record =>
      cases isDirectory : (FileRecord.ofSystem record).isKind .directory <;> simp [isDirectory]
  | error cause => cases isAbsence : cause.isAbsence <;> simp [isAbsence]

/-- On a steady system the canonical path of a file is what the walk ends with, if a file is
there. -/
theorem realpath_result
    (isSteady : system.IsSteady)
    (namesNoNull : system.NamesNoNull)
    (limit : Nat)
    (base? : Option Text)
    (path : Text)
    (scene : Scene World) :
    (realpath system .walk limit base? path scene).1 =
      (walk system limit base? path scene).1.bind fun real => (existing system real scene).1 := by
  have sameQuestion : ∀ real after,
      (existing system real after).1 = (existing system real scene).1 := by
    intro real after
    rw [existing_result, existing_result, isSteady.stat real after.world scene.world]
  have behind : ∀ target before,
      ((walk system limit none target >>= existing system) before).1 =
        (walk system limit none target before).1.bind fun real =>
          (existing system real scene).1 := by
    intro target before
    rw [Run.bind_result]
    simp only [sameQuestion]
  cases startsAbsolute : Path.isAbsolute path with
  | true =>
      have walk_eq : walk system limit base? path = walk system limit none path := by
        rw [walk, walk, Path.expand_eq_of_isAbsolute startsAbsolute true base? none]
      rw [realpath, if_pos startsAbsolute]
      rcases Path.checkNull_cases path with ⟨valid, -⟩ | ⟨refused, isNull⟩
      · rw [valid, walk_eq]
        exact behind path scene
      · rw [refused, walk, Path.expand_of_null isNull]
        rfl
  | false =>
      rw [realpath, if_neg (by simp [startsAbsolute])]
      cases start_eq : (Path.expand system true base? path scene).1 with
      | error error =>
          rw [walk, Run.bind_result, Run.bind_result, start_eq]
          rfl
      | ok start =>
          rw [Run.bind_result_of_eq_ok start_eq,
            ← walk_expanded_result isSteady namesNoNull start_eq limit]
          exact behind start _

theorem realdirpath_result
    (isSteady : system.IsSteady)
    (limit : Nat)
    (base? : Option Text)
    (path : Text)
    (scene : Scene World) :
    (realdirpath system limit base? path scene).1 =
      (walk system limit base? path scene).1.bind fun real => (housed system real scene).1 := by
  have sameQuestion : ∀ real after,
      (housed system real after).1 = (housed system real scene).1 := by
    intro real after
    rw [housed_result, housed_result, isSteady.stat _ after.world scene.world]
  change ((walk system limit base? path >>= housed system) scene).1 = _
  rw [Run.bind_result]
  simp only [sameQuestion]

/-! ## One question for the other -/

/-- Above every file at a settled path there is a directory. -/
def HasParents (system : System World) : Prop :=
  ∀ path, IsSettled system path → ∀ world record, (system.stat path world).1 = .ok record →
    ∃ parent, (system.stat (Path.dirname path) world).1 = .ok parent ∧
      (FileRecord.ofSystem parent).isKind .directory = true

/-- On a steady system with such directories, and with no null character in those that it names, a
canonical path found for a file that must exist is also found for a file that may be missing.  The
other way round, a canonical path found for a file that may be missing is found for a file that must
exist if there is a file, and reported as missing if nothing stands there. -/
theorem realdirpath_of_realpath
    (isSteady : system.IsSteady)
    (namesNoNull : system.NamesNoNull)
    (hasParents : HasParents system)
    (limit : Nat)
    (base? : Option Text)
    (path real : Text)
    (scene again : Scene World) :
    ((realpath system .walk limit base? path scene).1 = .ok real →
      (realdirpath system limit base? path again).1 = .ok real) ∧
      ((realdirpath system limit base? path again).1 = .ok real →
        (∀ record, (system.stat real scene.world).1 = .ok record →
          (realpath system .walk limit base? path scene).1 = .ok real) ∧
          ∀ cause, (system.stat real scene.world).1 = .error cause → cause.isAbsence = true →
            (realpath system .walk limit base? path scene).1 = .error (.notFound real)) := by
  have sameWalk := isSteady.walk_gives limit base? path scene again
  rw [realpath_result isSteady namesNoNull, realdirpath_result isSteady, sameWalk]
  cases walk_eq : (walk system limit base? path scene).1 with
  | error error => exact ⟨nofun, nofun⟩
  | ok found =>
      have isSettled := isSettled_of_walk isSteady namesNoNull walk_eq
      simp only [Except.bind]
      constructor
      · intro real_eq
        obtain ⟨rfl, record, record_eq⟩ := existing_eq_ok_iff.mp real_eq
        rw [isSteady.stat found scene.world again.world] at record_eq
        exact housed_eq_ok_iff.mpr ⟨rfl, hasParents found isSettled again.world record record_eq⟩
      · intro real_eq
        obtain ⟨rfl, -⟩ := housed_eq_ok_iff.mp real_eq
        constructor
        · intro record record_eq
          exact existing_eq_ok_iff.mpr ⟨rfl, record, record_eq⟩
        · intro cause cause_eq isAbsence
          rw [existing_result, cause_eq]
          exact if_pos isAbsence

/-- A table has such directories if there is one above every row of a file. -/
theorem hasParents_of_rows
    {table : Table}
    (areHoused : ∀ row ∈ table.stats, ∀ record, row.2 = .ok record →
      ∃ parent, table.stats.lookup (Path.dirname row.1) = some (.ok parent) ∧
        (FileRecord.ofSystem parent).isKind .directory = true) :
    HasParents table.system := by
  intro path _ world record record_eq
  change (table.stats.lookup path).getD _ = _ at record_eq
  cases lookup_eq : table.stats.lookup path with
  | none =>
      rw [lookup_eq] at record_eq
      cases record_eq
  | some answer =>
      rw [lookup_eq] at record_eq
      obtain ⟨front, behind, rows_eq, -⟩ := List.lookup_eq_some_iff.mp lookup_eq
      have isRow : (path, answer) ∈ table.stats := by
        rw [rows_eq]
        exact List.mem_append_right _ List.mem_cons_self
      obtain ⟨parent, parent_eq, isDirectory⟩ := areHoused _ isRow record record_eq
      refine ⟨parent, ?_, isDirectory⟩
      change (table.stats.lookup (Path.dirname path)).getD _ = _
      rw [parent_eq]
      rfl

/-- A link to a directory, a file in that directory, and a name below the file. -/
def lodge : Table where
  stats :=
    [(['/'], .ok { mode := 0o40755 }), (['/', 'd'], .ok { mode := 0o40755 }),
      (['/', 'd', '/', 'f'], .ok { mode := 0o100644 }),
      (['/', 'd', '/', 'n'], .error .notDirectory)]
  entries := [(['/', 'a'], .ok { mode := 0o120777 })]
  targets := [(['/', 'a'], .ok ['.', '/', 'd'])]
  directory := .ok ['/', 'w']
  home := some ['/', '.']
  ids := (0, 0)

theorem lodge_namesNoNull : lodge.system.NamesNoNull :=
  Table.namesNoNull (by decide)

theorem lodge_hasParents : HasParents lodge.system := by
  apply hasParents_of_rows
  have isDirectory : (FileRecord.ofSystem { mode := 0o40755 }).isKind .directory = true := by
    decide
  intro row isRow record record_eq
  simp only [lodge, List.mem_cons, List.not_mem_nil, or_false] at isRow
  rcases isRow with rfl | rfl | rfl | rfl
  · exact ⟨_, rfl, isDirectory⟩
  · exact ⟨_, rfl, isDirectory⟩
  · exact ⟨_, rfl, isDirectory⟩
  · cases record_eq

/-- The file is found by both, and of the names behind the link that lead to no file one is missing
and the other one stands below a file. -/
theorem lodge_realdirpath_of_realpath :
    (realpath lodge.system .walk 40 (some ['~']) ['a', '/', 'f'] ⟨0, []⟩).1 =
        .ok ['/', 'd', '/', 'f'] ∧
      (realdirpath lodge.system 40 (some ['~']) ['a', '/', 'f'] ⟨0, []⟩).1 =
        .ok ['/', 'd', '/', 'f'] ∧
      (realdirpath lodge.system 40 none ['/', 'a', '/', 'g'] ⟨0, []⟩).1 =
        .ok ['/', 'd', '/', 'g'] ∧
      (realpath lodge.system .walk 40 none ['/', 'a', '/', 'g'] ⟨0, []⟩).1 =
        .error (.notFound ['/', 'd', '/', 'g']) ∧
      (realdirpath lodge.system 40 none ['~', '/', 'a', '/', 'n'] ⟨0, []⟩).1 =
        .ok ['/', 'd', '/', 'n'] ∧
      (realpath lodge.system .walk 40 none ['~', '/', 'a', '/', 'n'] ⟨0, []⟩).1 =
        .error (.notFound ['/', 'd', '/', 'n']) := by
  have extends_realpath := realdirpath_of_realpath lodge.isSteady lodge_namesNoNull lodge_hasParents
  have file_eq : (realpath lodge.system .walk 40 (some ['~']) ['a', '/', 'f'] ⟨0, []⟩).1 =
      .ok ['/', 'd', '/', 'f'] := by
    cbv
  have missing_eq : (realdirpath lodge.system 40 none ['/', 'a', '/', 'g'] ⟨0, []⟩).1 =
      .ok ['/', 'd', '/', 'g'] := by
    cbv
  have below_eq : (realdirpath lodge.system 40 none ['~', '/', 'a', '/', 'n'] ⟨0, []⟩).1 =
      .ok ['/', 'd', '/', 'n'] := by
    cbv
  refine ⟨file_eq, ?_, missing_eq, ?_, below_eq, ?_⟩
  · exact (extends_realpath 40 _ _ _ _ _).1 file_eq
  · exact ((extends_realpath 40 _ _ _ _ _).2 missing_eq).2 .noEntry rfl rfl
  · exact ((extends_realpath 40 _ _ _ _ _).2 below_eq).2 .notDirectory rfl rfl

end Symlink
end FilePaths
