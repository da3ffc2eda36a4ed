import FilePaths.Handle
import FilePaths.Proofs.Path.Splitting
import FilePaths.Proofs.Symlink.Endless
import FilePaths.Proofs.System.Lookups
import FilePaths.Proofs.Text.Utf8

/-!
# What searches look up

A null character is looked for only where a path is made absolute, and dots are resolved only there.
Every path that is looked up later has been cut from one that came out of there, so that whatever the
links hold, the system is asked about canonical paths without null characters only.
-/

namespace FilePaths

/-! ## Paths and arguments -/

namespace Path

/-- A path that can be handed to the system: it is absolute, without an empty component, a dot or a
pair of dots, and it holds no null character. -/
structure IsSound (path : Text) : Prop where
  isCanonical : IsCanonical path
  noNull : '\x00' ∉ path

theorem IsSound.dirname
    {path : Text}
    (isSound : IsSound path) :
    IsSound (dirname path) :=
  ⟨isSound.isCanonical.dirname,
    noNull_dirname isSound.isCanonical.pieces.1 isSound.noNull⟩

/-- What a sound path starts with is sound, if it ends where a name ends. -/
theorem IsSound.of_isStart
    {path start rest : Text}
    (isSound : IsSound path)
    (isStart : IsStart start rest path) :
    IsSound start := by
  obtain ⟨⟨names, areProper, rfl⟩, noNull⟩ := isSound
  cases names with
  | nil =>
      have isStart : IsStart start rest (slashed [[]]) := isStart
      obtain ⟨front, behind, notEmpty, names_eq, rfl, -⟩ :=
        (isStart_slashed_iff (by simp)).mp isStart
      obtain ⟨rfl, -⟩ | ⟨rfl, -⟩ := List.append_eq_singleton_iff.mp names_eq.symm
      · contradiction
      · exact ⟨⟨[], by simp, rfl⟩, by decide⟩
  | cons name names =>
      have noSlash : ∀ other ∈ name :: names, '/' ∉ other := fun other isMember =>
        (areProper other isMember).noSlash
      have areSound := areSound_of_noNull areProper noNull
      obtain ⟨front, behind, notEmpty, names_eq, rfl, -⟩ :=
        (isStart_slashed_iff noSlash).mp isStart
      rw [names_eq] at areSound
      rw [← ofComponents_eq_slashed notEmpty]
      have areSoundFront := (areSound_append_iff.mp areSound).1
      exact ⟨areSoundFront.isCanonical, areSoundFront.noNull_ofComponents⟩

theorem isSound_expand
    {World : Type}
    {system : System World}
    (namesNoNull : system.NamesNoNull)
    (tilde : Bool)
    (base? : Option Text)
    (path : Text) :
    (expand system tilde base? path).Ensures IsSound :=
  fun scene real real_eq =>
    ⟨expand_isCanonical tilde base? path scene real real_eq,
      noNull_expand namesNoNull tilde base? path scene real real_eq⟩

/-- A value holds a null character: its text does, or one of its bytes is zero. -/
def Argument.HoldsNull : Argument → Prop
  | .text path => '\x00' ∈ path
  | .bytes path => 0 ∈ path
  | .adapter path? => ∃ path, path? = some path ∧ '\x00' ∈ path

/-- A value with a null character is no path. -/
theorem Argument.exists_of_holdsNull
    {argument : Argument}
    (holdsNull : argument.HoldsNull) :
    ∃ misuse, argument.toPath = .error (.invalidArgument misuse) := by
  have ofText : ∀ path, argument.toText = .ok path → '\x00' ∈ path →
      ∃ misuse, argument.toPath = .error (.invalidArgument misuse) := by
    intro path toText_eq isNull
    rcases checkNull_cases path with ⟨-, noNull⟩ | ⟨refused, -⟩
    · exact absurd isNull noNull
    · exact ⟨_, by rw [toPath, toText_eq]; dsimp only; rw [refused]⟩
  cases argument with
  | text path => exact ofText path rfl holdsNull
  | bytes bytes =>
      cases text_eq : Text.Utf8.decode? bytes with
      | none => exact ⟨.invalidUtf8 bytes, by rw [toPath, toText, text_eq]⟩
      | some path =>
          refine ofText path (by rw [toText, text_eq]) ?_
          exact Text.Utf8.mem_of_decode?_eq_some text_eq (by decide) holdsNull
  | adapter path? =>
      obtain ⟨path, rfl, isNull⟩ := holdsNull
      exact ofText path rfl isNull

/-- A path is the text of a value, and holds no null character. -/
theorem Argument.toText_of_toPath
    {argument : Argument}
    {path : Text}
    (toPath_eq : argument.toPath = .ok path) :
    argument.toText = .ok path ∧ '\x00' ∉ path := by
  rw [toPath] at toPath_eq
  split at toPath_eq
  · cases toPath_eq
  · rename_i text toText_eq
    rcases checkNull_cases text with ⟨valid, noNull⟩ | ⟨refused, -⟩
    · rw [valid] at toPath_eq
      cases toPath_eq
      exact ⟨toText_eq, noNull⟩
    · rw [refused] at toPath_eq
      cases toPath_eq

end Path

/-- The handle with the lookups of its system heard. -/
def Handle.heard {World : Type} (handle : Handle World) : Handle (Heard World) where
  system := handle.system.heard
  flags := handle.flags
  strategy := handle.strategy
  maxDepth := handle.maxDepth

namespace Symlink

variable {World Value Result : Type} {system : System World}

/-! ## Guarded runs -/

/-- What a run ends with and what it looks up on the way, if no null character gets through: only
sound paths are looked up, a value has the given property, and a target with a null character is the
last thing that is seen, for the path that it would have led to is refused. -/
structure IsGuarded
    (property : Value → Prop)
    (result : Except Error Value)
    (lookups : List Lookup) : Prop where
  ensures : ∀ value, result = .ok value → property value
  areSound : ∀ lookup ∈ lookups, Path.IsSound lookup.path
  endsAtNull : ∀ link target, .readlink link (.ok target) ∈ lookups → '\x00' ∈ target →
    ∃ before rest, lookups = before ++ [.readlink link (.ok target)] ∧
      result = .error (.invalidArgument (.nullByte (substituted target rest)))

variable {property : Value → Prop} {property' : Result → Prop}

theorem isGuarded_nil
    {result : Except Error Value}
    (ensures : ∀ value, result = .ok value → property value) :
    IsGuarded property result [] :=
  ⟨ensures, by simp, by simp⟩

/-- One lookup of a sound path is no danger, unless it brings a null character. -/
theorem isGuarded_singleton
    {result : Except Error Value}
    {lookup : Lookup}
    (ensures : ∀ value, result = .ok value → property value)
    (isSound : Path.IsSound lookup.path)
    (noNull : ∀ link target, lookup = .readlink link (.ok target) → '\x00' ∉ target) :
    IsGuarded property result [lookup] := by
  refine ⟨ensures, by simpa using isSound, ?_⟩
  intro link target isMember isNull
  exact absurd isNull (noNull link target (List.mem_singleton.mp isMember).symm)

/-- A null character in a target is no danger if its path is refused. -/
theorem isGuarded_of_null
    {link : Text}
    (isSound : Path.IsSound link)
    (target rest : Text) :
    IsGuarded property (.error (.invalidArgument (.nullByte (substituted target rest))))
      [.readlink link (.ok target)] := by
  refine ⟨nofun, List.forall_mem_singleton.mpr isSound, ?_⟩
  intro link' target' isMember _
  cases List.mem_singleton.mp isMember
  exact ⟨[], rest, rfl, rfl⟩

theorem IsGuarded.of_error
    {error : Error}
    {lookups : List Lookup}
    (isGuarded : IsGuarded property (.error error) lookups) :
    IsGuarded property' (.error error) lookups where
  ensures := nofun
  areSound := isGuarded.areSound
  endsAtNull link target isMember isNull := by
    obtain ⟨before, rest, lookups_eq, error_eq⟩ :=
      isGuarded.endsAtNull link target isMember isNull
    exact ⟨before, rest, lookups_eq, by rw [Except.error.inj error_eq]⟩

/-- A run that has come to a value has seen no null character, so that the next one goes on
unharmed. -/
theorem IsGuarded.append
    {value : Value}
    {result : Except Error Result}
    {lookups more : List Lookup}
    (here : IsGuarded property (.ok value) lookups)
    (behind : IsGuarded property' result more) :
    IsGuarded property' result (lookups ++ more) where
  ensures := behind.ensures
  areSound := List.forall_mem_append.mpr ⟨here.areSound, behind.areSound⟩
  endsAtNull link target isMember isNull := by
    rcases List.mem_append.mp isMember with isHere | isBehind
    · obtain ⟨_, _, _, value_eq⟩ := here.endsAtNull link target isHere isNull
      cases value_eq
    · obtain ⟨before, rest, rfl, result_eq⟩ := behind.endsAtNull link target isBehind isNull
      exact ⟨lookups ++ before, rest, (List.append_assoc _ _ _).symm, result_eq⟩

/-- Guarded runs can be done one behind the other. -/
theorem bind_isGuarded
    {first : Run (Heard World) Value}
    {next : Value → Run (Heard World) Result}
    (here : first.Shows (IsGuarded property))
    (behind : ∀ value, property value → (next value).Shows (IsGuarded property')) :
    (first >>= next).Shows (IsGuarded property') := by
  apply here.bind
  · exact fun error lookups isGuarded => isGuarded.of_error
  · intro value lookups isGuarded
    apply (behind value (isGuarded.ensures value rfl)).imp
    exact fun result more => isGuarded.append

/-! ## The steps of a walk -/

theorem isSymlink_isGuarded
    {path : Text}
    (isSound : Path.IsSound path) :
    (Query.isSymlink system.heard path).Shows (IsGuarded fun _ => True) := by
  apply (Query.isSymlink_shows path).imp
  rintro result _ rfl
  exact isGuarded_singleton (fun _ _ => trivial) isSound nofun

theorem holds_isGuarded
    {path : Text}
    (isSound : Path.IsSound path)
    (test : FileRecord → Bool) :
    (Query.holds system.heard test path).Shows (IsGuarded fun _ => True) := by
  apply (Query.holds_shows test path).imp
  rintro result _ rfl
  exact isGuarded_singleton (fun _ _ => trivial) isSound nofun

theorem heard_namesNoNull
    (namesNoNull : system.NamesNoNull) :
    system.heard.NamesNoNull where
  currentDir heard := namesNoNull.currentDir heard.world
  homeDir heard := namesNoNull.homeDir heard.world

theorem expand_isGuarded
    (namesNoNull : system.NamesNoNull)
    (tilde : Bool)
    (base? : Option Text)
    (path : Text) :
    (Path.expand system.heard tilde base? path).Shows (IsGuarded Path.IsSound) := by
  apply (Path.expand_isSilent tilde base? path).shows
  intro scene
  exact isGuarded_nil (Path.isSound_expand (heard_namesNoNull namesNoNull) tilde base? path scene)

/-- A target with a null character is refused, and any other one leads to a sound path. -/
theorem followed_isGuarded
    {link : Text}
    (namesNoNull : system.NamesNoNull)
    (isSound : Path.IsSound link)
    (target rest : Text) :
    (do
      Run.note (.followed link target)
      Path.expand system.heard false (some (Path.dirname link)) (substituted target rest)).Shows
        fun result more => IsGuarded Path.IsSound result (.readlink link (.ok target) :: more) := by
  have isSilent := Run.isSilent_of_alike fun lookups =>
    Run.alike_bind (Run.alike_note (.followed link target)) fun _ =>
      Path.expand_alike (system.heard_namesAlike lookups) false (some (Path.dirname link))
        (substituted target rest)
  apply isSilent.shows
  intro scene
  by_cases isNull : '\x00' ∈ target
  · rw [Path.expand_of_null (isNull_substituted isNull rest)]
    exact isGuarded_of_null isSound target rest
  · have ensures := Path.isSound_expand (heard_namesNoNull namesNoNull) false
      (some (Path.dirname link)) (substituted target rest)
    refine isGuarded_singleton (Run.ensures_bind (fun _ => ensures) scene) isSound ?_
    rintro _ _ ⟨⟩
    exact isNull

theorem replaceLink_isGuarded
    {link : Text}
    (namesNoNull : system.NamesNoNull)
    (isSound : Path.IsSound link)
    (rest : Text) :
    (replaceLink system.heard link rest).Shows (IsGuarded Path.IsSound) := by
  apply (Run.shows_call link (.readlink link) (system.readlink link)).bind
  · rintro error _ ⟨answer, error_eq, rfl⟩
    cases answer with
    | ok target => cases error_eq
    | error cause => exact isGuarded_singleton nofun isSound nofun
  · rintro target _ ⟨answer, target_eq, rfl⟩
    cases answer with
    | error cause => cases target_eq
    | ok found =>
        obtain rfl : target = found := Except.ok.inj target_eq
        exact followed_isGuarded namesNoNull isSound target rest

/-! ## Whole walks -/

/-- What has been looked at and what has not, cut from a sound path in front of a name or at its
end. -/
def IsCut (real pending : Text) : Prop :=
  ∃ front behind, Path.IsTrack (front ++ behind) ∧ real = Path.slashed front ∧
    pending = Path.slashed behind ∧ Path.IsSound (Path.slashed (front ++ behind))

theorem isCut_start
    {path : Text}
    (isSound : Path.IsSound path) :
    IsCut [] path := by
  obtain ⟨names, isTrack, -, rfl⟩ := isSound.isCanonical.exists_isTrack
  exact ⟨[], names, isTrack, rfl, rfl, isSound⟩

theorem IsCut.isSound
    {real : Text}
    (isCut : IsCut real []) :
    Path.IsSound real := by
  obtain ⟨front, behind, -, rfl, isEnd, isSound⟩ := isCut
  rwa [Path.slashed_eq_nil_iff.mp isEnd.symm, List.append_nil] at isSound

/-- One step of a walk goes behind the next name, where it has come to a sound path. -/
theorem IsCut.step
    {real behind : Text}
    {slash : Char}
    (isCut : IsCut real (slash :: behind)) :
    let start := Path.join [real, slash :: behind.takeWhile fun c => !Path.isSlash c]
    Path.IsSound start ∧ IsCut start (behind.dropWhile fun c => !Path.isSlash c) := by
  obtain ⟨front, names, isTrack, rfl, pending_eq, isSound⟩ := isCut
  cases names with
  | nil => cases pending_eq
  | cons name names =>
      rw [Path.slashed_cons, List.cons.injEq] at pending_eq
      obtain ⟨rfl, rfl⟩ := pending_eq
      have noSlash : '/' ∉ name := isTrack.noSlash name (by simp)
      simp only [Path.takeWhile_notSlash noSlash, Path.dropWhile_notSlash noSlash,
        Path.join_slashed isTrack.isName_of_mem_front]
      rw [List.append_cons] at isTrack isSound
      have isStart : Path.IsStart (Path.slashed (front ++ [name])) (Path.slashed names)
          (Path.slashed (front ++ [name] ++ names)) :=
        (Path.isStart_slashed_iff isTrack.noSlash).mpr ⟨_, _, by simp, rfl, rfl, rfl⟩
      exact ⟨isSound.of_isStart isStart, _, _, isTrack, rfl, rfl, isSound⟩

/-- From a cut in a sound path on, a walk is guarded. -/
theorem advance_isGuarded
    (namesNoNull : system.NamesNoNull)
    {limit : Nat}
    {visited : List Text}
    {real pending : Text}
    (isCut : IsCut real pending) :
    (advance system.heard limit visited real pending).Shows (IsGuarded Path.IsSound) := by
  -- Where no link is met the cut moves on along the same path; a target begins another one.
  fun_induction advance system.heard limit visited real pending with
  | case1 visited real =>
      apply Run.shows_pure
      apply isGuarded_nil
      rintro _ ⟨⟩
      exact isCut.isSound
  | case2 visited real slash behind real' rest ihFollow ihPass =>
      obtain ⟨isSound, isCutBehind⟩ := isCut.step
      apply bind_isGuarded (isSymlink_isGuarded isSound)
      intro isLink _
      cases isLink with
      | false => exact ihPass isCutBehind
      | true =>
          simp only [if_true]
          split
          · apply Run.shows_fail
            apply isGuarded_nil
            rintro _ ⟨⟩
          · rename_i notRefused
            apply bind_isGuarded (replaceLink_isGuarded namesNoNull isSound rest)
            intro pending isSoundPending
            exact ihFollow notRefused pending (isCut_start isSoundPending)

theorem walk_isGuarded
    (namesNoNull : system.NamesNoNull)
    (limit : Nat)
    (base? : Option Text)
    (path : Text) :
    (walk system.heard limit base? path).Shows (IsGuarded Path.IsSound) := by
  apply bind_isGuarded (expand_isGuarded namesNoNull true base? path)
  intro start isSound
  exact advance_isGuarded namesNoNull (isCut_start isSound)

/-- What a run ends with is tested before it is given. -/
theorem tested_isGuarded
    {real : Text}
    {test : Run (Heard World) Bool}
    (isSound : Path.IsSound real)
    (isGuarded : test.Shows (IsGuarded fun _ => True)) :
    (do if ← test then pure real else Run.fail (.notFound real)).Shows
      (IsGuarded Path.IsSound) := by
  apply bind_isGuarded isGuarded
  intro holds _
  cases holds with
  | true =>
      apply Run.shows_pure
      apply isGuarded_nil
      rintro _ ⟨⟩
      exact isSound
  | false => exact Run.shows_fail (isGuarded_nil nofun)

theorem realpath_isGuarded
    (namesNoNull : system.NamesNoNull)
    (limit : Nat)
    (base? : Option Text)
    (path : Text) :
    (realpath system.heard .walk limit base? path).Shows (IsGuarded Path.IsSound) := by
  have behind : ∀ target, (walk system.heard limit none target >>= fun real => do
      if ← Query.fileExists system.heard real then pure real
      else Run.fail (.notFound real)).Shows (IsGuarded Path.IsSound) := by
    intro target
    apply bind_isGuarded (walk_isGuarded namesNoNull limit none target)
    intro real isSound
    exact tested_isGuarded isSound (holds_isGuarded isSound _)
  unfold realpath
  dsimp only
  split
  · have isGuarded : (Run.ofExcept (Path.checkNull path) : Run (Heard World) Unit).Shows
        (IsGuarded fun _ => True) :=
      Run.shows_ofExcept (isGuarded_nil fun _ _ => trivial)
    apply bind_isGuarded isGuarded
    exact fun _ _ => behind path
  · apply bind_isGuarded (expand_isGuarded namesNoNull true base? path)
    exact fun target _ => behind target

theorem realdirpath_isGuarded
    (namesNoNull : system.NamesNoNull)
    (limit : Nat)
    (base? : Option Text)
    (path : Text) :
    (realdirpath system.heard limit base? path).Shows (IsGuarded Path.IsSound) := by
  apply bind_isGuarded (walk_isGuarded namesNoNull limit base? path)
  intro real isSound
  exact tested_isGuarded isSound (holds_isGuarded isSound.dirname _)

/-! ## Searches -/

/-- A search for a canonical path, with what it is made for. -/
inductive Search
  | walk (path : Text)
  | realpath (path : Path.Argument)
  | realdirpath (path : Path.Argument)

namespace Search

/-- The value that is to become a path. -/
def argument : Search → Path.Argument
  | .walk path => .text path
  | .realpath path => path
  | .realdirpath path => path

/-- The search by the settings of a handle. -/
def run (search : Search) (handle : Handle World) (base? : Option Text) : Run World Text :=
  match search with
  | .walk path => handle.walk base? path
  | .realpath path => handle.realpath base? path
  | .realdirpath path => handle.realdirpath base? path

/-- The search is a walk, as all are but that for an existing file, which the handle decides. -/
def IsWalk (handle : Handle World) : Search → Prop
  | .realpath _ => handle.strategy = .walk
  | _ => True

/-- What a search looks up, in order. -/
def lookups
    (search : Search)
    (handle : Handle World)
    (base? : Option Text)
    (scene : Scene World) :
    List Lookup :=
  (search.run handle.heard base? scene.hear).2.world.lookups

variable {handle : Handle World}

theorem run_alike
    (search : Search)
    (handle : Handle World)
    (base? : Option Text) :
    Run.Alike (fun world heard => world = heard.world) (search.run handle base?)
      (search.run handle.heard base?) := by
  have alike := handle.system.heard_resolvesAlike
  cases search with
  | walk path => exact walk_alike alike.toWalksAlike _ base? path
  | realpath argument =>
      exact Run.alike_bind (Run.alike_ofExcept _) fun path => realpath_alike alike _ _ base? path
  | realdirpath argument =>
      exact Run.alike_bind (Run.alike_ofExcept _) fun path => realdirpath_alike alike _ base? path

theorem run_isGuarded
    {search : Search}
    (isWalk : search.IsWalk handle)
    (namesNoNull : handle.system.NamesNoNull)
    (base? : Option Text) :
    (search.run handle.heard base?).Shows (IsGuarded Path.IsSound) := by
  have isGuarded : ∀ argument : Path.Argument,
      (Run.ofExcept argument.toPath : Run (Heard World) Text).Shows (IsGuarded fun _ => True) :=
    fun _ => Run.shows_ofExcept (isGuarded_nil fun _ _ => trivial)
  cases search with
  | walk path => exact walk_isGuarded namesNoNull _ base? path
  | realpath argument =>
      change handle.strategy = .walk at isWalk
      apply bind_isGuarded (isGuarded argument)
      intro path _
      rw [Handle.resolve, Handle.heard, isWalk]
      exact realpath_isGuarded namesNoNull _ base? path
  | realdirpath argument =>
      apply bind_isGuarded (isGuarded argument)
      exact fun path _ => realdirpath_isGuarded namesNoNull _ base? path

/-- A search for a value with a null character fails before anything is done. -/
theorem exists_of_holdsNull
    {search : Search}
    (holdsNull : search.argument.HoldsNull)
    (handle : Handle World)
    (base? : Option Text) :
    ∃ misuse, search.run handle base? = Run.fail (.invalidArgument misuse) := by
  cases search with
  | walk path =>
      refine ⟨.nullByte path, ?_⟩
      rw [run, Handle.walk, Symlink.walk, Path.expand_of_null holdsNull]
      rfl
  | realpath argument =>
      obtain ⟨misuse, toPath_eq⟩ := Path.Argument.exists_of_holdsNull holdsNull
      refine ⟨misuse, ?_⟩
      change argument.toPath = _ at toPath_eq
      rw [run, Handle.realpath, toPath_eq]
      rfl
  | realdirpath argument =>
      obtain ⟨misuse, toPath_eq⟩ := Path.Argument.exists_of_holdsNull holdsNull
      refine ⟨misuse, ?_⟩
      change argument.toPath = _ at toPath_eq
      rw [run, Handle.realdirpath, toPath_eq]
      rfl

/-- A search that reads its path from a base with a null character fails before anything is done. -/
theorem run_of_null_base
    {search : Search}
    {path base : Text}
    (toPath_eq : search.argument.toPath = .ok path)
    (isRelative : Path.isAbsolute path = false)
    (noTilde : path.head? ≠ some '~')
    (isNull : '\x00' ∈ base)
    (handle : Handle World) :
    search.run handle (some base) = Run.fail (.invalidArgument (.nullByte base)) := by
  obtain ⟨toText_eq, noNull⟩ := Path.Argument.toText_of_toPath toPath_eq
  have expand_eq : ∀ system : System World,
      Path.expand system true (some base) path = Run.fail (.invalidArgument (.nullByte base)) :=
    fun _ => Path.expand_of_null_base isRelative noTilde noNull isNull
  cases search with
  | walk text =>
      obtain rfl : text = path := Except.ok.inj toText_eq
      rw [run, Handle.walk, Symlink.walk, expand_eq]
      rfl
  | realpath argument =>
      change argument.toPath = _ at toPath_eq
      rw [run, Handle.realpath, toPath_eq]
      change Symlink.realpath _ _ _ _ _ = _
      rw [Symlink.realpath, if_neg (by simp [isRelative]), expand_eq]
      rfl
  | realdirpath argument =>
      change argument.toPath = _ at toPath_eq
      rw [run, Handle.realdirpath, toPath_eq]
      change Symlink.realdirpath _ _ _ _ = _
      rw [Symlink.realdirpath, Symlink.walk, expand_eq]
      rfl

end Search

/-- Whatever the links of a system hold, where the directories that it names hold no null character a
search by walking is guarded: it looks up sound paths only, and a null character in a target ends it.
With a null character in what it is made for, or in a base that is needed, it fails before anything
is looked up. -/
theorem search_isGuarded
    {handle : Handle World}
    {search : Search}
    (isWalk : search.IsWalk handle)
    (namesNoNull : handle.system.NamesNoNull)
    (base? : Option Text)
    (scene : Scene World) :
    (search.run handle.heard base? scene.hear).1 = (search.run handle base? scene).1 ∧
      IsGuarded Path.IsSound (search.run handle base? scene).1
        (search.lookups handle base? scene) ∧
      (search.argument.HoldsNull →
        (∃ misuse, (search.run handle base? scene).1 = .error (.invalidArgument misuse)) ∧
          search.lookups handle base? scene = []) ∧
      ∀ path base, search.argument.toPath = .ok path → Path.isAbsolute path = false →
        path.head? ≠ some '~' → base? = some base → '\x00' ∈ base →
        (search.run handle base? scene).1 = .error (.invalidArgument (.nullByte base)) ∧
          search.lookups handle base? scene = [] := by
  have sameResult := (search.run_alike handle base? scene scene.hear rfl).1
  refine ⟨sameResult.symm, ?_, ?_, ?_⟩
  · obtain ⟨lookups, isGuarded, lookups_eq⟩ :=
      Search.run_isGuarded isWalk namesNoNull base? scene.hear
    rw [Search.lookups, lookups_eq, sameResult]
    exact isGuarded
  · intro holdsNull
    obtain ⟨misuse, run_eq⟩ := Search.exists_of_holdsNull holdsNull handle base?
    obtain ⟨_, heard_eq⟩ := Search.exists_of_holdsNull holdsNull handle.heard base?
    exact ⟨⟨misuse, by rw [run_eq]; rfl⟩, by rw [Search.lookups, heard_eq]; rfl⟩
  · rintro path base toPath_eq isRelative noTilde rfl isNull
    have run_eq := Search.run_of_null_base toPath_eq isRelative noTilde isNull handle
    have heard_eq := Search.run_of_null_base toPath_eq isRelative noTilde isNull handle.heard
    exact ⟨by rw [run_eq]; rfl, by rw [Search.lookups, heard_eq]; rfl⟩

/-- A link to a link that holds a null character. -/
def stained : Handle Mode where
  system := Table.system
    { entries :=
        [(['/', 'w', '/', 'k'], .ok { mode := 0o120777 }),
          (['/', 'w', '/', 'l'], .ok { mode := 0o120777 })]
      targets :=
        [(['/', 'w', '/', 'k'], .ok ['.', '/', 'l']), (['/', 'w', '/', 'l'], .ok ['m', '\x00'])]
      directory := .ok ['/', 'w']
      home := none
      ids := (0, 0) }

theorem stained_namesNoNull : stained.system.NamesNoNull :=
  Table.namesNoNull (by decide)

/-- Reading the second target is the last lookup.  A zero among the bytes of a path, and a base with
a null character, let nothing be looked up. -/
theorem stained_search_isGuarded :
    (Search.walk ['k', '/', 'x']).lookups stained none ⟨0, []⟩ =
        [.lstat ['/', 'w'], .lstat ['/', 'w', '/', 'k'],
          .readlink ['/', 'w', '/', 'k'] (.ok ['.', '/', 'l']), .lstat ['/', 'w'],
          .lstat ['/', 'w', '/', 'l'], .readlink ['/', 'w', '/', 'l'] (.ok ['m', '\x00'])] ∧
      (∃ rest, ((Search.walk ['k', '/', 'x']).run stained none ⟨0, []⟩).1 =
        .error (.invalidArgument (.nullByte (substituted ['m', '\x00'] rest)))) ∧
      (Search.realdirpath (.bytes [0x61, 0])).lookups stained none ⟨0, []⟩ = [] ∧
      ((Search.realpath (.text ['a'])).run stained (some ['\x00']) ⟨0, []⟩).1 =
        .error (.invalidArgument (.nullByte ['\x00'])) := by
  have lookups_eq :
      (Search.walk ['k', '/', 'x']).lookups stained none ⟨0, []⟩ =
        [.lstat ['/', 'w'], .lstat ['/', 'w', '/', 'k'],
          .readlink ['/', 'w', '/', 'k'] (.ok ['.', '/', 'l']), .lstat ['/', 'w'],
          .lstat ['/', 'w', '/', 'l'], .readlink ['/', 'w', '/', 'l'] (.ok ['m', '\x00'])] := by
    cbv
  refine ⟨lookups_eq, ?_, ?_, ?_⟩
  · have isWalk : (Search.walk ['k', '/', 'x']).IsWalk stained := trivial
    obtain ⟨-, isGuarded, -⟩ := search_isGuarded isWalk stained_namesNoNull none ⟨0, []⟩
    rw [lookups_eq] at isGuarded
    obtain ⟨_, rest, -, result_eq⟩ :=
      isGuarded.endsAtNull ['/', 'w', '/', 'l'] ['m', '\x00'] (by simp) (by decide)
    exact ⟨rest, result_eq⟩
  · have isWalk : (Search.realdirpath (.bytes [0x61, 0])).IsWalk stained := trivial
    obtain ⟨-, -, ofArgument, -⟩ := search_isGuarded isWalk stained_namesNoNull none ⟨0, []⟩
    have holdsNull : (0 : UInt8) ∈ [0x61, 0] := by decide
    exact (ofArgument holdsNull).2
  · have isWalk : (Search.realpath (.text ['a'])).IsWalk stained := rfl
    obtain ⟨-, -, -, ofBase⟩ :=
      search_isGuarded isWalk stained_namesNoNull (some ['\x00']) ⟨0, []⟩
    exact (ofBase ['a'] ['\x00'] rfl rfl (by decide) rfl (by decide)).1

end Symlink
end FilePaths
