import FilePaths.Proofs.Symlink.Endless

/-!
# Every walk ends

A walk is a sequence of turns.  Each turn takes a new link while there is room below the limit, or
else leaves less to look at; so whatever the system answers from call to call, there is no endless
sequence of turns.  The links that are visited are different and no more than the limit allows, and
so are the targets that are read.
-/

namespace FilePaths
namespace Symlink

variable {World : Type} {system : System World}

/-! ## Turns -/

/-- Where a walk stands: the links that it has visited, the latest first, what it has looked at
since the last one, and what stands behind that. -/
structure Position where
  visited : List Text
  real : Text
  pending : Text

/-- How a turn ends if it does not fail. -/
inductive Turn
  | goesOn (next : Position)
  | ends (real : Text)

/-- One turn of a walk: one more start is looked at, and replaced if it is a link. -/
def turn (system : System World) (limit : Nat) (position : Position) : Run World Turn :=
  match position.pending with
  | [] => pure (.ends position.real)
  | slash :: behind => do
      let real := Path.join [position.real, slash :: behind.takeWhile fun c => !Path.isSlash c]
      let rest := behind.dropWhile fun c => !Path.isSlash c
      if ← Query.isSymlink system real then
        if isRefused limit position.visited real then Run.fail (.tooManySymlinks real)
        else do
          let pending ← replaceLink system real rest
          pure (.goesOn ⟨real :: position.visited, [], pending⟩)
      else pure (.goesOn ⟨position.visited, real, rest⟩)

/-- What a walk does after a turn. -/
def resume (system : System World) (limit : Nat) : Turn → Run World Text
  | .goesOn next => advance system limit next.visited next.real next.pending
  | .ends real => pure real

/-- A walk is its first turn and the walk after it. -/
theorem advance_eq_turn
    (limit : Nat)
    (position : Position) :
    advance system limit position.visited position.real position.pending =
      turn system limit position >>= resume system limit := by
  obtain ⟨visited, real, pending⟩ := position
  cases pending with
  | nil => rw [advance, turn, pure_bind, resume]
  | cons slash behind =>
      rw [advance, turn, bind_assoc]
      congr 1
      funext isLink
      cases isLink with
      | false => rfl
      | true =>
          simp only [if_true]
          split
          · rfl
          · rw [bind_assoc]
            rfl

/-- A walk can go on from one position to another, whatever the world is like. -/
def Follows (system : System World) (limit : Nat) (next position : Position) : Prop :=
  ∃ scene, (turn system limit position scene).1 = .ok (.goesOn next)

/-- A turn that goes on has visited a new link, or has left a part behind. -/
theorem Follows.cases
    {limit : Nat}
    {next position : Position}
    (follows : Follows system limit next position) :
    (∃ link, link ∉ position.visited ∧ position.visited.length < limit ∧
        next.visited = link :: position.visited) ∨
      next.visited = position.visited ∧ next.pending.length < position.pending.length := by
  obtain ⟨scene, turn_eq⟩ := follows
  obtain ⟨visited, real, pending⟩ := position
  cases pending with
  | nil => cases turn_eq
  | cons slash behind =>
      obtain ⟨isLink, -, turn_eq⟩ := Run.exists_of_bind_eq_ok turn_eq
      cases isLink with
      | false =>
          cases turn_eq
          exact .inr ⟨rfl, Nat.lt_succ_of_le (List.dropWhile_suffix _).length_le⟩
      | true =>
          simp only [if_true] at turn_eq
          split at turn_eq
          · cases turn_eq
          · rename_i notRefused
            obtain ⟨pending, -, turn_eq⟩ := Run.exists_of_bind_eq_ok turn_eq
            cases turn_eq
            rw [isRefused_iff, not_or, Nat.not_le] at notRefused
            exact .inl ⟨_, notRefused.1, notRefused.2, rfl⟩

/-- The room below the limit, and behind that what there is to look at. -/
def Position.rank (limit : Nat) (position : Position) : Nat × Nat :=
  (limit - position.visited.length, position.pending.length)

/-- No walk takes turns for ever. -/
theorem follows_wellFounded (system : System World) (limit : Nat) :
    WellFounded (Follows system limit) := by
  refine Subrelation.wf ?_
    (InvImage.wf (Position.rank limit) (Prod.lex Nat.lt_wfRel Nat.lt_wfRel).wf)
  intro next position follows
  rcases follows.cases with ⟨link, -, isWithin, visited_eq⟩ | ⟨visited_eq, isShorter⟩
  · refine .left _ _ ?_
    rw [visited_eq, List.length_cons]
    change limit - (position.visited.length + 1) < limit - position.visited.length
    omega
  · have rank_eq : Position.rank limit next =
        (limit - position.visited.length, next.pending.length) := by
      rw [Position.rank, visited_eq]
    rw [InvImage, rank_eq]
    exact .right _ isShorter

/-! ## Targets that are read -/

/-- Behind the links that have been visited, different links are read, and not more than the limit
allows. -/
def AreFresh (limit : Nat) (visited reads : List Text) : Prop :=
  (visited.reverse ++ reads).Nodup ∧ (visited.reverse ++ reads).length ≤ limit

theorem areFresh_cons_iff
    {limit : Nat}
    {visited reads : List Text}
    {link : Text} :
    AreFresh limit (link :: visited) reads ↔ AreFresh limit visited (link :: reads) := by
  rw [AreFresh, AreFresh, List.reverse_cons, List.append_assoc, List.singleton_append]

theorem areFresh_of_not_refused
    {limit : Nat}
    {visited : List Text}
    {link : Text}
    (areFresh : AreFresh limit visited [])
    (notRefused : ¬ isRefused limit visited link = true) :
    AreFresh limit (link :: visited) [] := by
  rw [isRefused_iff, not_or, Nat.not_le] at notRefused
  obtain ⟨isNew, isWithin⟩ := notRefused
  obtain ⟨areDifferent, -⟩ := areFresh
  rw [List.append_nil, List.nodup_reverse] at areDifferent
  constructor
  · rw [List.append_nil, List.nodup_reverse]
    exact List.nodup_cons.mpr ⟨isNew, areDifferent⟩
  · rw [List.append_nil, List.length_reverse]
    exact isWithin

theorem isSymlink_reads (path : Text) :
    (Query.isSymlink system.watched path).Reads [] :=
  Run.reads_of_alike fun reads => Query.isSymlink_alike (system.watched_looksAlike reads) path

theorem expand_reads
    (tilde : Bool)
    (base? : Option Text)
    (path : Text) :
    (Path.expand system.watched tilde base? path).Reads [] :=
  Run.reads_of_alike fun reads =>
    Path.expand_alike (system.watched_looksAlike reads).toNamesAlike tilde base? path

theorem replaceLink_reads (link rest : Text) :
    (replaceLink system.watched link rest).Reads [link] := by
  apply Run.Reads.bind_silent (Run.reads_readlink system link)
  intro target
  apply Run.Reads.bind_silent fun scene => (Run.yields_note (.followed link target) scene).2
  intro _
  exact expand_reads _ _ _

/-- A walk reads the targets of fresh links only. -/
theorem advance_ensuresReads
    {limit : Nat}
    {visited : List Text}
    (real pending : Text)
    (areFresh : AreFresh limit visited []) :
    (advance system.watched limit visited real pending).EnsuresReads
      (AreFresh limit visited) := by
  fun_induction advance system.watched limit visited real pending with
  | case1 visited real =>
      exact Run.Reads.ensures (fun scene => (Run.yields_pure real scene).2) areFresh
  | case2 visited real slash behind real' rest ihFollow ihPass =>
      apply Run.Reads.bind_ensures (isSymlink_reads real') areFresh
      intro isLink
      cases isLink with
      | false => exact ihPass areFresh
      | true =>
          simp only [if_true, List.nil_append]
          split
          · exact Run.Reads.ensures (fun scene => (Run.yields_fail _ scene).2) areFresh
          · rename_i notRefused
            have stillFresh := areFresh_of_not_refused areFresh notRefused
            apply Run.Reads.bind_ensures (replaceLink_reads real' rest)
            · exact areFresh_cons_iff.mp stillFresh
            · intro pending
              simp only [List.singleton_append, ← areFresh_cons_iff]
              exact ihFollow notRefused pending stillFresh

/-- A whole walk reads different targets, and not more than the limit allows. -/
theorem walk_ensuresReads
    (limit : Nat)
    (base? : Option Text)
    (path : Text) :
    (walk system.watched limit base? path).EnsuresReads fun reads =>
      reads.Nodup ∧ reads.length ≤ limit := by
  have areFresh : AreFresh limit [] [] := ⟨List.nodup_nil, Nat.zero_le limit⟩
  apply Run.Reads.bind_ensures (expand_reads true base? path) areFresh
  exact fun pending => advance_ensuresReads [] pending areFresh

/-- Whatever the system answers from call to call, a walk is a sequence of turns of which none is
endless, and it reads each target once and not more targets than the limit allows.  Where links can
be told and read, and neither the targets nor the directories that the system names hold a null
character, a walk from which substitution never ends is refused a link. -/
theorem walk_terminates
    (system : System World)
    (limit : Nat)
    (base? : Option Text)
    (path : Text)
    (scene : Scene World) :
    (walk system limit base? path = (do
        let start ← Path.expand system true base? path
        turn system limit ⟨[], [], start⟩ >>= resume system limit) ∧
      (∀ next, resume system limit (.goesOn next) =
        turn system limit next >>= resume system limit) ∧
      WellFounded (Follows system limit)) ∧
      ((walk system.watched limit base? path scene.watch).1 =
          (walk system limit base? path scene).1 ∧
        (walk system.watched limit base? path scene.watch).2.world.reads.Nodup ∧
        (walk system.watched limit base? path scene.watch).2.world.reads.length ≤ limit) ∧
      (system.ReadsLinks → system.NamesNoNull →
        ∀ start, (Path.expand system true base? path scene).1 = .ok start →
          NeverEnds system start →
          ∃ link, (walk system limit base? path scene).1 = .error (.tooManySymlinks link)) := by
  refine ⟨⟨?_, advance_eq_turn limit, follows_wellFounded system limit⟩,
    ⟨(walk_watched_result base? scene).symm, ?_⟩, ?_⟩
  · rw [walk]
    congr 1
    funext start
    exact advance_eq_turn limit ⟨[], [], start⟩
  · obtain ⟨reads, holds, reads_eq⟩ := walk_ensuresReads limit base? path scene.watch
    rw [reads_eq]
    exact holds
  · intro readsLinks namesNoNull start start_eq neverEnds
    exact exists_refused_of_neverEnds readsLinks namesNoNull limit start_eq neverEnds

/-! ## A path that grows for ever -/

/-- A link to an entry below itself. -/
def spiral : Table where
  entries := [(['/', 'a'], .ok { mode := 0o120777 })]
  targets := [(['/', 'a'], .ok ['/', 'a', '/', 'x'])]
  directory := .ok ['/']
  home := none
  ids := (0, 0)

/-- The path after the given number of substitutions. -/
def winding (count : Nat) : Text :=
  Path.slashed (['a'] :: List.replicate count ['x'])

theorem isProper_winding (count : Nat) :
    ∀ name ∈ ['a'] :: List.replicate count ['x'], Path.IsProper name := by
  intro name isMember
  rcases List.mem_cons.mp isMember with rfl | isMember
  · exact ⟨⟨by simp, by simp⟩, by simp, by simp⟩
  · obtain rfl := List.eq_of_mem_replicate isMember
    exact ⟨⟨by simp, by simp⟩, by simp, by simp⟩

theorem spiral_splices (count : Nat) :
    Splices spiral.system (winding count) (winding (count + 1)) := by
  have areNames : ∀ name ∈ List.replicate count ['x'], Path.IsName name := fun name isMember =>
    (isProper_winding count name (List.mem_cons_of_mem _ isMember)).toIsName
  have isFirst : FirstLink spiral.system (winding count) ['/', 'a']
      (Path.slashed (List.replicate count ['x'])) := by
    have noSlash : ∀ name ∈ ['a'] :: List.replicate count ['x'], '/' ∉ name :=
      fun name isMember => (isProper_winding count name isMember).noSlash
    exact (firstAnswer_slashed_iff noSlash).mpr
      ⟨[], ['a'], _, rfl, rfl, rfl, passed_nil, fun _ => by cbv⟩
  refine ⟨isFirst, fun _ => rfl, ?_⟩
  have startsAbsolute :
      Path.isAbsolute
        (substituted ['/', 'a', '/', 'x'] (Path.slashed (List.replicate count ['x']))) = true :=
    isAbsolute_substituted (by simp) _
  have components_eq : Path.components ['/', 'a', '/', 'x'] ++ List.replicate count ['x'] =
      ['a'] :: List.replicate (count + 1) ['x'] :=
    rfl
  rw [spliced, if_pos startsAbsolute, Path.resolve, components_substituted areNames,
    components_eq, Path.settle_of_isProper (isProper_winding (count + 1)),
    Path.ofComponents_eq_slashed (by simp), winding]

theorem spiral_namesNoNull : spiral.system.NamesNoNull :=
  Table.namesNoNull (by decide)

theorem spiral_readsLinks : spiral.system.ReadsLinks := by
  apply Table.readsLinks
  · simp [spiral]
  · simp [spiral]

theorem spiral_walk_refused :
    ∃ link, (walk spiral.system 40 none ['a'] ⟨0, []⟩).1 = .error (.tooManySymlinks link) :=
  (walk_terminates spiral.system 40 none ['a'] ⟨0, []⟩).2.2 spiral_readsLinks
    spiral_namesNoNull ['/', 'a'] (by cbv) ⟨winding, rfl, spiral_splices⟩

/-! ## A home directory with a null character -/

/-- A link to itself in a home directory whose name holds a null character. -/
def blotted : Table where
  entries :=
    [(['/', 'h', '\x00'], .ok { mode := 0o40755 }),
      (['/', 'h', '\x00', '/', 'a'], .ok { mode := 0o120777 })]
  targets := [(['/', 'h', '\x00', '/', 'a'], .ok ['a'])]
  directory := .ok ['/']
  home := some ['/', 'h', '\x00']
  ids := (0, 0)

/-- Links can be told and read, and the working directory holds no null character, but the walk
fails to make a target absolute behind the home directory. -/
theorem blotted_walk_not_refused :
    blotted.system.IsSteady ∧ blotted.system.ReadsLinks ∧
      (∀ world directory, (blotted.system.currentDir world).1 = .ok directory →
        '\x00' ∉ directory) ∧
      (Path.expand blotted.system true none ['~', '/', 'a'] ⟨0, []⟩).1 =
        .ok ['/', 'h', '\x00', '/', 'a'] ∧
      NeverEnds blotted.system ['/', 'h', '\x00', '/', 'a'] ∧
      ∀ link, (walk blotted.system 40 none ['~', '/', 'a'] ⟨0, []⟩).1 ≠
        .error (.tooManySymlinks link) := by
  have isDirectory : ¬ (FileRecord.ofSystem { mode := 0o40755 }).isKind .symlink = true := by
    decide
  have readsLinks : blotted.system.ReadsLinks := by
    apply Table.readsLinks
    · simp [blotted]
    · simp [blotted, isDirectory]
  have passed : Passed blotted.system [['h', '\x00']] :=
    passed_concat passed_nil fun _ => by cbv
  have isFirst : FirstLink blotted.system ['/', 'h', '\x00', '/', 'a']
      ['/', 'h', '\x00', '/', 'a'] [] :=
    (firstAnswer_slashed_iff (by simp)).mpr
      ⟨[['h', '\x00']], ['a'], [], rfl, rfl, rfl, passed, fun _ => by cbv⟩
  have splices : Splices blotted.system ['/', 'h', '\x00', '/', 'a']
      ['/', 'h', '\x00', '/', 'a'] :=
    ⟨isFirst, fun _ => rfl, by cbv⟩
  refine ⟨blotted.isSteady, readsLinks, ?_, by cbv, ⟨fun _ => _, rfl, fun _ => splices⟩, ?_⟩
  · rintro _ _ ⟨⟩
    decide
  · have walk_eq : (walk blotted.system 40 none ['~', '/', 'a'] ⟨0, []⟩).1 =
        .error (.invalidArgument (.nullByte ['/', 'h', '\x00'])) := by
      cbv
    rw [walk_eq]
    rintro _ ⟨⟩

end Symlink
end FilePaths
