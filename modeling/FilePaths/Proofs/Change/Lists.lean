import FilePaths.Change
import FilePaths.Proofs.System.Alike
import FilePaths.Proofs.System.Results
import FilePaths.System.Table
import FilePaths.System.Trace

/-!
# Changes of lists of files

Whatever is changed, and however the system answers, a list of paths is taken from its front: one
call is made for each path, all with the same arguments, up to and including the first that fails.
The whole list is counted if none fails.  So a list can be cut in two, and its parts taken one after
the other.
-/

namespace FilePaths

/-- A number that is no mode of sixteen bits stands for no bits at all. -/
theorem Mode.toNat_ofNumber (number : Int) :
    ((ofNumber number).toNat : Int) = if 0 ≤ number ∧ number ≤ 0xFFFF then number else 0 := by
  rw [ofNumber]
  split
  · rename_i inRange
    rw [UInt32.toNat_ofNat_of_lt' (by rw [UInt32.size]; omega)]
    omega
  · rfl

namespace Change

variable {World Other : Type}

/-! ## What a list of changes comes to -/

/-- Every path in turn has been changed, from one world to the next. -/
inductive Passes (change : Text → Call World Unit) : World → List Text → World → Prop
  | nil (world : World) :
      Passes change world [] world
  | cons
      {world next after : World}
      {path : Text}
      {paths : List Text}
      (changed : change path world = (.ok (), next))
      (rest : Passes change next paths after) :
      Passes change world (path :: paths) after

/-- What changing a list of paths ends with, and the paths that are taken from it: all of them where
none fails, or those up to the first that does. -/
inductive EndsWith
    (change : Text → Call World Unit)
    (world : World)
    (paths : List Text) :
    (taken : List Text) → Except Error Nat → World → Prop
  | done
      {after : World}
      (passes : Passes change world paths after) :
      EndsWith change world paths paths (.ok paths.length) after
  | stopped
      {front behind : List Text}
      {path : Text}
      {next after : World}
      {cause : Cause}
      (paths_eq : paths = front ++ path :: behind)
      (passes : Passes change world front next)
      (fails : change path next = (.error cause, after)) :
      EndsWith change world paths (front ++ [path]) (.error (Error.ofCause cause path)) after

section

variable {operation : String} {change : Text → Call World Unit}

theorem forEach_cons
    (path : Text)
    (paths : List Text)
    (scene : Scene World) :
    forEach operation change (path :: paths) scene =
      match change path scene.world with
      | (.ok (), world) =>
          forEach operation change paths ⟨world, .applied operation path :: scene.events⟩
      | (.error cause, world) =>
          (.error (Error.ofCause cause path), ⟨world, .applied operation path :: scene.events⟩) := by
  rw [forEach, Procedure.bind_apply, Run.note_apply]
  dsimp only
  rw [Procedure.bind_apply, Run.call]
  rcases change path scene.world with ⟨_ | _, world⟩ <;> rfl

variable (operation change)

/-- The loop over the paths passes all of them or ends at the first that fails. -/
theorem forEach_cases (paths : List Text) (scene : Scene World) :
    (∃ after, Passes change scene.world paths after.world ∧
        forEach operation change paths scene = (.ok (), after)) ∨
      ∃ front path behind next cause after, paths = front ++ path :: behind ∧
        Passes change scene.world front next ∧
        change path next = (.error cause, after.world) ∧
        forEach operation change paths scene = (.error (Error.ofCause cause path), after) := by
  induction paths generalizing scene with
  | nil => exact .inl ⟨scene, .nil _, rfl⟩
  | cons path paths ih =>
      rw [forEach_cons]
      rcases answer_eq : change path scene.world with ⟨cause | _, world⟩
      · exact .inr ⟨[], path, paths, _, cause, ⟨world, _⟩, rfl, .nil _, answer_eq, rfl⟩
      · rcases ih ⟨world, .applied operation path :: scene.events⟩ with
          ⟨after, passes, loop_eq⟩ | ⟨front, last, behind, next, cause, after, rfl, passes, rest⟩
        · exact .inl ⟨after, .cons answer_eq passes, loop_eq⟩
        · exact .inr ⟨path :: front, last, behind, next, cause, after, rfl,
            .cons answer_eq passes, rest⟩

theorem exists_endsWith_count (paths : List Text) (scene : Scene World) :
    ∃ taken, EndsWith change scene.world paths taken
      (count operation change paths scene).1 (count operation change paths scene).2.world := by
  rw [count, Procedure.bind_apply]
  rcases forEach_cases operation change paths scene with
    ⟨after, passes, loop_eq⟩ |
      ⟨front, path, behind, next, cause, after, paths_eq, passes, fails, loop_eq⟩
  · rw [loop_eq]
    exact ⟨paths, .done passes⟩
  · rw [loop_eq]
    exact ⟨front ++ [path], .stopped paths_eq passes fails⟩

/-! ## Calls that are made -/

section

variable {change}
variable {call : Text → SystemCall} {watched after : Watched World} {paths taken : List Text}

/-- On a watched world, one call has been made for each path that has been changed. -/
theorem Passes.of_watched
    (passes : Passes (fun path => Watched.keep (call path) (change path)) watched paths after) :
    Passes change watched.world paths after.world ∧
      after.calls.reverse = watched.calls.reverse ++ paths.map call := by
  induction passes with
  | nil watched => exact ⟨.nil _, by simp⟩
  | @cons watched next after path paths changed _ ih =>
      obtain ⟨answer_eq, next_eq⟩ := Prod.mk.inj changed
      obtain ⟨passes, calls_eq⟩ := ih
      rw [← next_eq] at passes calls_eq
      exact ⟨.cons (Prod.ext answer_eq rfl) passes, by simpa using calls_eq⟩

/-- On a watched world, one call has been made for each path that has been taken. -/
theorem EndsWith.of_watched
    {result : Except Error Nat}
    (endsWith :
      EndsWith (fun path => Watched.keep (call path) (change path)) watched paths taken result
        after) :
    EndsWith change watched.world paths taken result after.world ∧
      after.calls.reverse = watched.calls.reverse ++ taken.map call := by
  cases endsWith with
  | done passes =>
      obtain ⟨passes, calls_eq⟩ := passes.of_watched
      exact ⟨.done passes, calls_eq⟩
  | stopped paths_eq passes fails =>
      obtain ⟨passes, calls_eq⟩ := passes.of_watched
      obtain ⟨answer_eq, after_eq⟩ := Prod.mk.inj fails
      refine ⟨.stopped paths_eq passes (Prod.ext answer_eq (congrArg Watched.world after_eq)), ?_⟩
      rw [← after_eq, List.map_append, ← List.append_assoc, ← calls_eq]
      exact List.reverse_cons

end

/-! ## Lists in two parts -/

variable {operation change}

theorem forEach_append (front behind : List Text) :
    forEach operation change (front ++ behind) =
      forEach operation change front >>= fun _ => forEach operation change behind := by
  induction front with
  | nil => rfl
  | cons path front ih => simp only [List.cons_append, forEach, ih, Procedure.bind_assoc]

theorem count_append (front behind : List Text) :
    count operation change (front ++ behind) =
      count operation change front >>= fun first =>
        count operation change behind >>= fun second => pure (first + second) := by
  simp only [count, forEach_append, Procedure.bind_assoc, List.length_append]
  rfl

theorem count_alike
    {related : World → Other → Prop}
    {change' : Text → Call Other Unit}
    (alike : ∀ path, Question.Alike related (change path) (change' path))
    (paths : List Text) :
    Run.Alike related (count operation change paths) (count operation change' paths) := by
  refine Run.alike_bind ?_ fun _ => Run.alike_pure _
  induction paths with
  | nil => exact Run.alike_pure ()
  | cons path paths ih =>
      exact Run.alike_bind (Run.alike_note _) fun _ =>
        Run.alike_bind (Run.alike_call path (alike path)) fun _ => ih

end

/-! ## The changes -/

/-- A change for lists of paths, with all that its caller says about it. -/
inductive Bulk
  | chmod (mode : Int)
  | lchmod (mode : Int)
  | chown (owner group : Option UInt32)
  | lchown (owner group : Option UInt32)
  | utime (accessed modified : Option Instant)
  | lutime (accessed modified : Option Instant)
  | unlink

namespace Bulk

/-- Makes the change for each of the paths. -/
def apply (bulk : Bulk) (system : System World) (paths : List Text) : Run World Nat :=
  match bulk with
  | .chmod mode => Change.chmod system mode paths
  | .lchmod mode => Change.lchmod system mode paths
  | .chown owner group => Change.chown system owner group paths
  | .lchown owner group => Change.lchown system owner group paths
  | .utime accessed modified => Change.utime system accessed modified paths
  | .lutime accessed modified => Change.lutime system accessed modified paths
  | .unlink => Change.unlink system paths

/-- Makes the change for two lists of paths, one after the other. -/
def applyInParts (bulk : Bulk) (system : System World) (front behind : List Text) :
    Run World Nat := do
  let first ← bulk.apply system front
  let second ← bulk.apply system behind
  pure (first + second)

/-- The name under which the change is noted. -/
def name : Bulk → String
  | .chmod _ => "chmod"
  | .lchmod _ => "lchmod"
  | .chown _ _ => "chown"
  | .lchown _ _ => "lchown"
  | .utime _ _ => "utime"
  | .lutime _ _ => "lutime"
  | .unlink => "unlink"

/-- The call that the change makes for a path, with a time for those that are absent. -/
def call (bulk : Bulk) (now : Instant) (path : Text) : SystemCall :=
  match bulk with
  | .chmod mode => .chmod path (Mode.ofNumber mode)
  | .lchmod mode => .lchmod path (Mode.ofNumber mode)
  | .chown owner group => .chown path owner group
  | .lchown owner group => .lchown path owner group
  | .utime accessed modified => .utimes path (accessed.getD now) (modified.getD now)
  | .lutime accessed modified => .lutimes path (accessed.getD now) (modified.getD now)
  | .unlink => .unlink path

/-- What the system does when it is called for a path. -/
def change (bulk : Bulk) (system : System World) (now : Instant) (path : Text) :
    Call World Unit :=
  match bulk with
  | .chmod mode => system.chmod path (Mode.ofNumber mode)
  | .lchmod mode => system.lchmod path (Mode.ofNumber mode)
  | .chown owner group => system.chown path owner group
  | .lchown owner group => system.lchown path owner group
  | .utime accessed modified => system.utimes path (accessed.getD now) (modified.getD now)
  | .lutime accessed modified => system.lutimes path (accessed.getD now) (modified.getD now)
  | .unlink => system.unlink path

/-- The world in which the first path is taken.  Before that the system may be asked whether it can
make the change, or the clock may be read. -/
def start (bulk : Bulk) (system : System World) (world : World) : World :=
  match bulk with
  | .lchmod _ => (system.hasLchmod world).2
  | .utime _ _ => (system.now world).2
  | .lutime _ _ => (system.now world).2
  | _ => world

/-- The system can make the change. -/
def IsSupported (bulk : Bulk) (system : System World) (world : World) : Prop :=
  match bulk with
  | .lchmod _ => (system.hasLchmod world).1 = true
  | _ => True

/-- No time is absent. -/
def HasTimes : Bulk → Prop
  | .utime accessed modified => accessed.isSome ∧ modified.isSome
  | .lutime accessed modified => accessed.isSome ∧ modified.isSome
  | _ => True

variable {bulk : Bulk} {system : System World}

/-- All paths are changed in the same way, after the clock has been read once. -/
theorem apply_eq_count
    {scene : Scene World}
    (isSupported : bulk.IsSupported system scene.world)
    (paths : List Text) :
    bulk.apply system paths scene =
      count bulk.name (bulk.change system (system.now scene.world).1) paths
        ⟨bulk.start system scene.world, scene.events⟩ := by
  cases bulk with
  | lchmod mode =>
      have isSupported : (system.hasLchmod scene.world).1 = true := isSupported
      rw [apply, Change.lchmod, Procedure.bind_apply, Run.ask]
      simp only [isSupported]
      rfl
  | _ => rfl

/-- On a watched world the same paths are changed, and each call is kept. -/
theorem apply_watched
    {scene : Scene (Watched World)}
    {now : Instant}
    (isSupported : bulk.IsSupported system scene.world.world)
    (now_eq : (system.now scene.world.world).1 = now)
    (paths : List Text) :
    bulk.apply system.watched paths scene =
      count bulk.name
        (fun path => Watched.keep (bulk.call now path) (bulk.change system now path)) paths
        ⟨⟨bulk.start system scene.world.world, scene.world.calls⟩, scene.events⟩ := by
  subst now_eq
  have isSupported : bulk.IsSupported system.watched scene.world := by
    cases bulk <;> exact isSupported
  rw [apply_eq_count isSupported]
  cases bulk <;> rfl

/-- It makes no difference to a change whether it is watched. -/
theorem apply_watched_alike
    {scene : Scene (Watched World)}
    (isSupported : bulk.IsSupported system scene.world.world)
    (paths : List Text) :
    (bulk.apply system.watched paths scene).1 =
        (bulk.apply system paths ⟨scene.world.world, scene.events⟩).1 ∧
      (bulk.apply system.watched paths scene).2.world.world =
        (bulk.apply system paths ⟨scene.world.world, scene.events⟩).2.world := by
  rw [apply_watched isSupported rfl, apply_eq_count isSupported]
  let isSame (watched : Watched World) (world : World) : Prop := watched.world = world
  have alike : ∀ path, Question.Alike isSame
      (Watched.keep (bulk.call (system.now scene.world.world).1 path)
        (bulk.change system (system.now scene.world.world).1 path))
      (bulk.change system (system.now scene.world.world).1 path) := by
    rintro path watched _ rfl
    exact ⟨rfl, rfl⟩
  exact count_alike alike paths _ _ rfl

/-- On a watched world, one call has been made for each path that has been taken. -/
theorem exists_endsWith_apply
    {scene : Scene (Watched World)}
    {now : Instant}
    (isSupported : bulk.IsSupported system scene.world.world)
    (now_eq : (system.now scene.world.world).1 = now)
    (paths : List Text) :
    ∃ taken,
      EndsWith (bulk.change system now) (bulk.start system scene.world.world) paths taken
        (bulk.apply system.watched paths scene).1
        (bulk.apply system.watched paths scene).2.world.world ∧
      (bulk.apply system.watched paths scene).2.world.calls.reverse =
        scene.world.calls.reverse ++ taken.map (bulk.call now) := by
  rw [apply_watched isSupported now_eq]
  obtain ⟨taken, endsWith⟩ :=
    exists_endsWith_count bulk.name
      (fun path => Watched.keep (bulk.call now path) (bulk.change system now path)) paths
      ⟨⟨bulk.start system scene.world.world, scene.world.calls⟩, scene.events⟩
  exact ⟨taken, endsWith.of_watched⟩

theorem getD_eq_of_isSome
    {time : Option Instant}
    (isSome : time.isSome)
    (now other : Instant) :
    time.getD now = time.getD other := by
  obtain ⟨_, rfl⟩ := Option.isSome_iff_exists.mp isSome
  rfl

/-- Where no time is absent, it does not matter what the clock says. -/
theorem change_eq_of_hasTimes (hasTimes : bulk.HasTimes) (now other : Instant) :
    bulk.change system now = bulk.change system other := by
  funext path
  cases bulk with
  | utime accessed modified =>
      rw [change, getD_eq_of_isSome hasTimes.1 now other, getD_eq_of_isSome hasTimes.2 now other]
      rfl
  | lutime accessed modified =>
      rw [change, getD_eq_of_isSome hasTimes.1 now other, getD_eq_of_isSome hasTimes.2 now other]
      rfl
  | _ => rfl

/-- Related worlds differ in nothing that the change depends on, and to ask what comes before the
first path leaves a world that is related to the one before. -/
structure IsBlindTo
    (bulk : Bulk)
    (system : System World)
    (related : World → World → Prop) : Prop where
  equivalence : Equivalence related
  start : ∀ world, related world (bulk.start system world)
  change : ∀ now path,
    Question.Alike related (bulk.change system now path) (bulk.change system now path)

/-- What comes before the first path, as a run. -/
def prepare (bulk : Bulk) (system : System World) : Run World Unit :=
  Run.ask fun world => ((), bulk.start system world)

theorem apply_eq_prepare
    (isSupported : ∀ world, bulk.IsSupported system world)
    (hasTimes : bulk.HasTimes)
    (paths : List Text) :
    bulk.apply system paths =
      bulk.prepare system >>= fun _ => count bulk.name (bulk.change system .epoch) paths := by
  funext scene
  rw [apply_eq_count (isSupported _), change_eq_of_hasTimes hasTimes _ .epoch]
  rfl

namespace IsBlindTo

variable {related : World → World → Prop}

theorem prepare_alike (isBlindTo : bulk.IsBlindTo system related) :
    Run.Alike related (bulk.prepare system) (bulk.prepare system) := by
  refine Run.alike_ask fun world other areRelated => ⟨rfl, ?_⟩
  have before := isBlindTo.equivalence.symm (isBlindTo.start world)
  exact isBlindTo.equivalence.trans before
    (isBlindTo.equivalence.trans areRelated (isBlindTo.start other))

/-- It makes no difference whether a run is prepared for once more. -/
theorem prepare_bind_alike
    {Value : Type}
    (isBlindTo : bulk.IsBlindTo system related)
    {first second : Run World Value}
    (alike : Run.Alike related first second) :
    Run.Alike related first (bulk.prepare system >>= fun _ => second) := by
  intro scene other areRelated
  exact alike scene ⟨bulk.start system other.world, other.events⟩
    (isBlindTo.equivalence.trans areRelated (isBlindTo.start other.world))

/-- A list in two parts is changed as its parts are, one after the other. -/
theorem apply_append_alike
    (isBlindTo : bulk.IsBlindTo system related)
    (isSupported : ∀ world, bulk.IsSupported system world)
    (hasTimes : bulk.HasTimes)
    (front behind : List Text) :
    Run.Alike related (bulk.apply system (front ++ behind))
      (bulk.applyInParts system front behind) := by
  simp only [applyInParts, apply_eq_prepare isSupported hasTimes, count_append, Procedure.bind_assoc]
  refine Run.alike_bind isBlindTo.prepare_alike fun _ => ?_
  refine Run.alike_bind (count_alike (isBlindTo.change .epoch) front) fun first => ?_
  apply isBlindTo.prepare_bind_alike
  exact Run.alike_bind (count_alike (isBlindTo.change .epoch) behind) fun _ => Run.alike_pure _

end IsBlindTo

/-- Where nothing is asked before the first path, or the question leaves the world as it is, a list
in two parts and its parts come to the same run. -/
theorem apply_append
    (start_eq : ∀ world, bulk.start system world = world)
    (isSupported : ∀ world, bulk.IsSupported system world)
    (hasTimes : bulk.HasTimes)
    (front behind : List Text) :
    bulk.apply system (front ++ behind) = bulk.applyInParts system front behind := by
  have prepare_eq : bulk.prepare system = pure () := by
    funext scene
    rw [prepare, Run.ask, start_eq]
    rfl
  simp only [applyInParts, apply_eq_prepare isSupported hasTimes, prepare_eq, pure_bind,
    count_append]

/-- A list of paths is taken from its front.  One call is made for each path, all with the same
arguments, up to and including the first that fails, and the result is the number of the paths or
what that failure means for its path.  With explicit times, a list in two parts is changed as its
parts are, one after the other. -/
theorem apply_takes_front (bulk : Bulk) (system : System World) :
    (∀ mode : Int, ((Mode.ofNumber mode).toNat : Int) =
        if 0 ≤ mode ∧ mode ≤ 0xFFFF then mode else 0) ∧
      (∀ (paths : List Text) (scene : Scene (Watched World)) (now : Instant),
        bulk.IsSupported system scene.world.world →
        (system.now scene.world.world).1 = now →
        ((bulk.apply system.watched paths scene).1 =
            (bulk.apply system paths ⟨scene.world.world, scene.events⟩).1 ∧
          (bulk.apply system.watched paths scene).2.world.world =
            (bulk.apply system paths ⟨scene.world.world, scene.events⟩).2.world) ∧
        ∃ taken,
          EndsWith (bulk.change system now) (bulk.start system scene.world.world) paths taken
            (bulk.apply system.watched paths scene).1
            (bulk.apply system.watched paths scene).2.world.world ∧
          (bulk.apply system.watched paths scene).2.world.calls.reverse =
            scene.world.calls.reverse ++ taken.map (bulk.call now)) ∧
      ((∀ world, bulk.IsSupported system world) → bulk.HasTimes →
        ∀ front behind : List Text,
          (∀ related, bulk.IsBlindTo system related →
            Run.Alike related (bulk.apply system (front ++ behind))
              (bulk.applyInParts system front behind)) ∧
          ((∀ world, bulk.start system world = world) →
            bulk.apply system (front ++ behind) = bulk.applyInParts system front behind)) := by
  refine ⟨Mode.toNat_ofNumber, ?_, ?_⟩
  · intro paths scene now isSupported now_eq
    exact ⟨apply_watched_alike isSupported paths, exists_endsWith_apply isSupported now_eq paths⟩
  · intro isSupported hasTimes front behind
    constructor
    · intro related isBlindTo
      exact isBlindTo.apply_append_alike isSupported hasTimes front behind
    · intro start_eq
      exact apply_append start_eq isSupported hasTimes front behind

/-- A system that sets the permission bits of symbolic links, except of one. -/
def linkTable : Table where
  directory := .ok ['/']
  home := none
  ids := (0, 0)
  hasLchmod := true
  failures := [("lchmod /b".toList, .code 1)]

theorem lchmod_takes_front :
    (∃ taken,
      EndsWith ((Bulk.lchmod 65536).change linkTable.system .epoch) (0 : Mode)
        ["/a".toList, "/b".toList, "/a".toList] taken (.error (.permissionDenied "/b".toList)) 0 ∧
      [.lchmod "/a".toList 0, .lchmod "/b".toList 0] =
        taken.map ((Bulk.lchmod 65536).call .epoch)) ∧
      Run.Alike Eq ((Bulk.lchmod 65536).apply linkTable.system ["/a".toList, "/a".toList])
        ((Bulk.lchmod 65536).applyInParts linkTable.system ["/a".toList] ["/a".toList]) ∧
      (Bulk.lchmod 65536).apply linkTable.system ["/a".toList, "/b".toList] =
        (Bulk.lchmod 65536).applyInParts linkTable.system ["/a".toList] ["/b".toList] := by
  have isSupported : ∀ mask, (Bulk.lchmod 65536).IsSupported linkTable.system mask := fun _ => rfl
  have isBlindTo : (Bulk.lchmod 65536).IsBlindTo linkTable.system Eq := by
    refine ⟨⟨fun _ => rfl, Eq.symm, Eq.trans⟩, fun _ => rfl, ?_⟩
    rintro _ _ mask _ rfl
    exact ⟨rfl, rfl⟩
  obtain ⟨-, takesFront, inParts⟩ := apply_takes_front (.lchmod 65536) linkTable.system
  refine ⟨?_, (inParts isSupported trivial ["/a".toList] ["/a".toList]).1 Eq isBlindTo,
    (inParts isSupported trivial ["/a".toList] ["/b".toList]).2 fun _ => rfl⟩
  exact (takesFront ["/a".toList, "/b".toList, "/a".toList] ⟨⟨0, []⟩, []⟩ .epoch
    (isSupported 0) rfl).2

end Bulk
end Change
end FilePaths
