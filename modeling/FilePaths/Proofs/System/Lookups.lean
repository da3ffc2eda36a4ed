import FilePaths.Proofs.System.Alike

/-!
# What is looked up

A system can be heard: it answers as before, and a list is kept of the paths that are looked up, in
order.  The targets of links are kept as they come back, whatever they hold.  What a run does
between two lookups leaves no trace in that list.
-/

namespace FilePaths

variable {World Other Value Result : Type}

/-- Something that is looked up: the record of a file, the record of an entry, or the target of a
link, which comes with the answer. -/
inductive Lookup
  | stat (path : Text)
  | lstat (path : Text)
  | readlink (path : Text) (answer : Except Cause Text)

/-- The path that is handed to the system. -/
def Lookup.path : Lookup → Text
  | .stat path => path
  | .lstat path => path
  | .readlink path _ => path

/-- A world, and what has been looked up in it, in order. -/
structure Heard (World : Type) where
  /-- The world itself. -/
  world : World
  /-- The lookups so far. -/
  lookups : List Lookup := []

namespace Heard

/-- Passes a question on, and keeps nothing of it. -/
def pass (question : World → Value × World) :
    Heard World → Value × Heard World :=
  fun heard =>
    let (value, world) := question heard.world
    (value, { heard with world })

/-- Passes a question on, and keeps what it looks up. -/
def keep (lookup : Value → Lookup) (question : World → Value × World) :
    Heard World → Value × Heard World :=
  fun heard =>
    let (value, world) := question heard.world
    (value, ⟨world, heard.lookups ++ [lookup value]⟩)

end Heard

/-- The system that passes every question on in the same way. -/
def System.passedOn
    (pass : {Value : Type} → (World → Value × World) → Other → Value × Other)
    (system : System World) :
    System Other where
  stat path := pass (system.stat path)
  lstat path := pass (system.lstat path)
  fstat descriptor := pass (system.fstat descriptor)
  readlink path := pass (system.readlink path)
  realpath path := pass (system.realpath path)
  chmod path mode := pass (system.chmod path mode)
  fchmod descriptor mode := pass (system.fchmod descriptor mode)
  lchmod path mode := pass (system.lchmod path mode)
  chown path owner group := pass (system.chown path owner group)
  fchown descriptor owner group := pass (system.fchown descriptor owner group)
  lchown path owner group := pass (system.lchown path owner group)
  link old new := pass (system.link old new)
  symlink target new := pass (system.symlink target new)
  rename source target := pass (system.rename source target)
  unlink path := pass (system.unlink path)
  truncate path length := pass (system.truncate path length)
  ftruncate descriptor length := pass (system.ftruncate descriptor length)
  utimes path accessed modified := pass (system.utimes path accessed modified)
  lutimes path accessed modified := pass (system.lutimes path accessed modified)
  mkfifo path mode := pass (system.mkfifo path mode)
  umask mask := pass (system.umask mask)
  currentDir := pass system.currentDir
  homeDir := pass system.homeDir
  effectiveIds := pass system.effectiveIds
  hasLchmod := pass system.hasLchmod
  now := pass system.now

/-- The system with its lookups heard. -/
def System.heard (system : System World) : System (Heard World) :=
  { system.passedOn Heard.pass with
    stat := fun path => Heard.keep (fun _ => .stat path) (system.stat path)
    lstat := fun path => Heard.keep (fun _ => .lstat path) (system.lstat path)
    readlink := fun path => Heard.keep (.readlink path) (system.readlink path) }

/-- The same scene with its world heard from now on. -/
def Scene.hear (scene : Scene World) : Scene (Heard World) :=
  ⟨⟨scene.world, []⟩, scene.events⟩

/-- Hearing changes no answer. -/
theorem System.heard_resolvesAlike (system : System World) :
    system.ResolvesAlike (fun world heard => world = heard.world) system.heard where
  stat path := by rintro _ heard rfl; exact ⟨rfl, rfl⟩
  lstat path := by rintro _ heard rfl; exact ⟨rfl, rfl⟩
  readlink path := by rintro _ heard rfl; exact ⟨rfl, rfl⟩
  realpath path := by rintro _ heard rfl; exact ⟨rfl, rfl⟩
  currentDir := by rintro _ heard rfl; exact ⟨rfl, rfl⟩
  homeDir := by rintro _ heard rfl; exact ⟨rfl, rfl⟩

/-- Making a path absolute looks nothing up. -/
theorem System.heard_namesAlike (system : System World) (lookups : List Lookup) :
    system.NamesAlike (fun world heard => world = heard.world ∧ heard.lookups = lookups)
      system.heard where
  currentDir := by rintro _ heard ⟨rfl, rfl⟩; exact ⟨rfl, rfl, rfl⟩
  homeDir := by rintro _ heard ⟨rfl, rfl⟩; exact ⟨rfl, rfl, rfl⟩

namespace Run

/-- Wherever a run starts, what it ends with and what it looks up on the way have the given
property. -/
def Shows
    (run : Run (Heard World) Value)
    (property : Except Error Value → List Lookup → Prop) : Prop :=
  ∀ scene, ∃ lookups, property (run scene).1 lookups ∧
    (run scene).2.world.lookups = scene.world.lookups ++ lookups

/-- A run looks nothing up. -/
def IsSilent (run : Run (Heard World) Value) : Prop :=
  ∀ scene, (run scene).2.world.lookups = scene.world.lookups

variable {property : Except Error Value → List Lookup → Prop}

theorem IsSilent.shows
    {run : Run (Heard World) Value}
    (isSilent : run.IsSilent)
    (holds : ∀ scene, property (run scene).1 []) :
    run.Shows property :=
  fun scene => ⟨[], holds scene, by rw [isSilent scene, List.append_nil]⟩

theorem Shows.imp
    {run : Run (Heard World) Value}
    {property' : Except Error Value → List Lookup → Prop}
    (shows' : run.Shows property)
    (implies : ∀ result lookups, property result lookups → property' result lookups) :
    run.Shows property' := by
  intro scene
  obtain ⟨lookups, holds, lookups_eq⟩ := shows' scene
  exact ⟨lookups, implies _ _ holds, lookups_eq⟩

theorem shows_ofExcept
    {result : Except Error Value}
    (holds : property result []) :
    (ofExcept result : Run (Heard World) Value).Shows property :=
  IsSilent.shows (fun _ => rfl) fun _ => holds

theorem shows_pure
    {value : Value}
    (holds : property (.ok value) []) :
    (pure value : Run (Heard World) Value).Shows property :=
  shows_ofExcept holds

theorem shows_fail
    {error : Error}
    (holds : property (.error error) []) :
    (fail error : Run (Heard World) Value).Shows property :=
  shows_ofExcept holds

/-- What is done alike without a lookup looks nothing up. -/
theorem isSilent_of_alike
    {run : Run World Value}
    {shadow : Run (Heard World) Value}
    (alike : ∀ lookups,
      Alike (fun world heard => world = heard.world ∧ heard.lookups = lookups) run shadow) :
    shadow.IsSilent := by
  intro scene
  obtain ⟨-, -, sameLookups⟩ :=
    alike scene.world.lookups ⟨scene.world.world, scene.events⟩ scene ⟨rfl, rfl⟩
  exact sameLookups

theorem shows_ask
    (lookup : Value → Lookup)
    (question : World → Value × World) :
    (ask (Heard.keep lookup question)).Shows fun result lookups =>
      ∃ value, result = .ok value ∧ lookups = [lookup value] :=
  fun _ => ⟨_, ⟨_, rfl, rfl⟩, rfl⟩

theorem shows_call
    (path : Text)
    (lookup : Except Cause Value → Lookup)
    (question : Call World Value) :
    (call path (Heard.keep lookup question)).Shows fun result lookups =>
      ∃ answer, result = answer.mapError (fun cause => Error.ofCause cause path) ∧
        lookups = [lookup answer] := by
  intro scene
  have kept_eq : Heard.keep lookup question scene.world =
      ((question scene.world.world).1, ⟨(question scene.world.world).2,
        scene.world.lookups ++ [lookup (question scene.world.world).1]⟩) :=
    rfl
  rw [call, kept_eq]
  cases (question scene.world.world).1 with
  | ok value => exact ⟨_, ⟨.ok value, rfl, rfl⟩, rfl⟩
  | error cause => exact ⟨_, ⟨.error cause, rfl, rfl⟩, rfl⟩

/-- Behind a run that looks something up, the next one does the rest. -/
theorem Shows.bind
    {first : Run (Heard World) Value}
    {next : Value → Run (Heard World) Result}
    {property' : Except Error Result → List Lookup → Prop}
    (here : first.Shows property)
    (stops : ∀ error lookups, property (.error error) lookups →
      property' (.error error) lookups)
    (goesOn : ∀ value lookups, property (.ok value) lookups →
      (next value).Shows fun result more => property' result (lookups ++ more)) :
    (first >>= next).Shows property' := by
  intro scene
  obtain ⟨lookups, holds, lookups_eq⟩ := here scene
  rw [Procedure.bind_apply]
  split <;> rename_i first_eq <;> rw [first_eq] at holds lookups_eq
  · obtain ⟨more, holdsBehind, more_eq⟩ := goesOn _ _ holds _
    exact ⟨lookups ++ more, holdsBehind, by rw [more_eq, lookups_eq, List.append_assoc]⟩
  · exact ⟨lookups, stops _ _ holds, lookups_eq⟩

end Run

variable {system : System World}

namespace Query

theorem probe_shows
    (lookup : Lookup)
    (question : Call World SystemRecord)
    (path : Text) :
    (probe (Heard.keep (fun _ => lookup) question) path).Shows fun _ lookups =>
      lookups = [lookup] := by
  refine (Run.shows_ask _ question).bind ?_ ?_
  · rintro _ _ ⟨_, ⟨⟩, -⟩
  · rintro answer _ ⟨_, -, rfl⟩
    cases answer with
    | ok record => exact Run.shows_pure rfl
    | error cause =>
        dsimp only
        split
        · exact Run.shows_pure rfl
        · exact Run.shows_fail rfl

/-- Looking for a link looks up one entry. -/
theorem isSymlink_shows (path : Text) :
    (isSymlink system.heard path).Shows fun _ lookups => lookups = [.lstat path] := by
  refine (probe_shows _ (system.lstat path) path).bind (fun _ _ => id) ?_
  rintro _ _ rfl
  exact Run.shows_pure rfl

/-- Testing a file looks up one file. -/
theorem holds_shows
    (test : FileRecord → Bool)
    (path : Text) :
    (holds system.heard test path).Shows fun _ lookups => lookups = [.stat path] := by
  refine (probe_shows _ (system.stat path) path).bind (fun _ _ => id) ?_
  rintro _ _ rfl
  exact Run.shows_pure rfl

end Query

theorem Path.expand_isSilent
    (tilde : Bool)
    (base? : Option Text)
    (path : Text) :
    (expand system.heard tilde base? path).IsSilent :=
  Run.isSilent_of_alike fun lookups => expand_alike (system.heard_namesAlike lookups) tilde base? path

end FilePaths
