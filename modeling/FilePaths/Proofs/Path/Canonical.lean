import FilePaths.Proofs.Path.Expand
import FilePaths.System.Table

/-!
# Absolute paths as fixed points

Whatever the texts of the directories look like, a path that has been made absolute starts at the
root and holds names only, and making it absolute once more changes nothing.  A pair of dots leads
to the directory of the place before it, and the directory of the root is the root.
-/

namespace FilePaths

/-- The directories that the system names hold no null character. -/
structure System.NamesNoNull {World : Type} (system : System World) : Prop where
  currentDir : ∀ world directory, (system.currentDir world).1 = .ok directory →
    '\x00' ∉ directory
  homeDir : ∀ world home, (system.homeDir world).1 = some home → '\x00' ∉ home

/-- The directories that a table names are its own two. -/
theorem Table.namesNoNull
    {table : Table}
    (noNull : ∀ name ∈ table.directory.toOption.toList ++ table.home.toList, '\x00' ∉ name) :
    table.system.NamesNoNull where
  currentDir _ directory directory_eq := by
    change table.directory = .ok directory at directory_eq
    exact noNull directory (by simp [directory_eq, Except.toOption])
  homeDir _ home home_eq := by
    change table.home = some home at home_eq
    exact noNull home (by simp [home_eq])

namespace Path

variable {World : Type} {system : System World}

/-! ## Canonical paths as texts -/

theorem splitAt_append_slashed
    {name : Text}
    (noSlash : '/' ∉ name)
    {names : List Text}
    (areNames : ∀ other ∈ names, IsName other) :
    Text.splitAt isSlash (name ++ slashed names) = name :: names := by
  induction names generalizing name with
  | nil => simpa using splitAt_of_noSlash noSlash
  | cons first names ih =>
      obtain ⟨isName, areNames⟩ := List.forall_mem_cons.mp areNames
      rw [slashed_cons, splitAt_append_slash, ih isName.noSlash areNames,
        splitAt_of_noSlash noSlash]
      rfl

/-- Behind the slash in front, a canonical path is the root's empty piece or holds proper names
only; then no slash stands at its end. -/
theorem IsCanonical.pieces
    {path : Text}
    (isCanonical : IsCanonical path) :
    isAbsolute path = true ∧
      (path = ['/'] ∨
        (∀ piece ∈ (Text.splitAt isSlash path).tail, IsProper piece) ∧
          path.getLast? ≠ some '/') := by
  obtain ⟨names, areProper, rfl⟩ := isCanonical
  have areNames : ∀ name ∈ names, IsName name :=
    fun name isMember => (areProper name isMember).toIsName
  refine ⟨isAbsolute_ofComponents names, ?_⟩
  by_cases isRoot : names = []
  · left
    rw [isRoot]
    rfl
  · right
    rw [ofComponents_eq_slashed isRoot]
    refine ⟨?_, getLast?_slashed_ne areNames⟩
    have pieces_eq : Text.splitAt isSlash (slashed names) = [] :: names :=
      splitAt_append_slashed List.not_mem_nil areNames
    rw [pieces_eq]
    exact areProper

theorem resolve_of_isCanonical
    {path : Text}
    (isCanonical : IsCanonical path) :
    resolve path = path := by
  obtain ⟨names, areProper, rfl⟩ := isCanonical
  rw [resolve, components_ofComponents fun name isMember => (areProper name isMember).toIsName,
    settle_of_isProper areProper]

/-! ## Going up -/

theorem components_append_atSlash
    (front : Text)
    {behind : Text}
    (atSlash : behind = [] ∨ behind.head? = some '/') :
    components (front ++ behind) = components front ++ components behind := by
  rcases atSlash with rfl | isSlashed
  · simp
  · obtain ⟨rest, rfl⟩ := List.head?_eq_some_iff.mp isSlashed
    rw [components_append_slash, components_slash_cons]

theorem isName_up : IsName ['.', '.'] :=
  ⟨by simp, by simp⟩

/-- What stands behind a pair of dots is read from the directory of the place before it. -/
theorem resolve_up
    (front : Text)
    {behind : Text}
    (atSlash : behind = [] ∨ behind.head? = some '/') :
    resolve (front ++ '/' :: '.' :: '.' :: behind) =
      resolve (dirname (resolve front) ++ behind) := by
  have areNames : ∀ name ∈ components front, IsName name := fun _ => isName_of_mem_components
  have areProper : ∀ name ∈ (settle (components front)).dropLast, IsProper name := by
    intro name isMember
    exact isProper_of_mem_settle areNames name ((List.dropLast_prefix _).subset isMember)
  have up_eq : components ('.' :: '.' :: behind) = ['.', '.'] :: components behind := by
    have split_eq := components_append_atSlash ['.', '.'] atSlash
    rw [components_of_isName isName_up] at split_eq
    exact split_eq
  have place_eq :
      components (dirname (resolve front)) = (settle (components front)).dropLast := by
    have startsAbsolute : isAbsolute (resolve front) = true := isAbsolute_ofComponents _
    rw [components_dirname startsAbsolute, components_resolve]
  rw [resolve, resolve, components_append_slash, up_eq, components_append_atSlash _ atSlash,
    place_eq, settle_append areProper, settle_eq, List.foldl_append, List.foldl_cons]
  congr 2
  -- Going up drops the name that was kept last.
  rw [settle_eq, keep, if_neg (by simp), if_pos rfl]
  simp

/-! ## Characters -/

theorem mem_of_mem_dropSlashes
    {path : Text}
    {c : Char}
    (isMember : c ∈ dropSlashes path) :
    c ∈ path := by
  obtain ⟨slashes, path_eq, -⟩ := exists_slashes path
  rw [path_eq]
  exact List.mem_append_left _ isMember

theorem mem_append_cases
    {path fragment : Text}
    {c : Char}
    (isMember : c ∈ append path fragment) :
    c = '/' ∨ c ∈ path ∨ c ∈ fragment := by
  rw [append] at isMember
  split at isMember
  · rcases List.mem_append.mp isMember with inPath | inFragment
    · exact .inr (.inl (mem_of_mem_dropSlashes inPath))
    · exact .inr (.inr inFragment)
  · split at isMember
    · exact .inr (List.mem_append.mp isMember)
    · rcases List.mem_append.mp isMember with inPath | isBehind
      · exact .inr (.inl inPath)
      · exact (List.mem_cons.mp isBehind).imp_right .inr

/-- Joining loses no characters but slashes. -/
theorem mem_append_of_mem
    {path fragment : Text}
    {c : Char}
    (isOther : c ≠ '/')
    (isMember : c ∈ path ∨ c ∈ fragment) :
    c ∈ append path fragment := by
  rw [append]
  split
  · rcases isMember with inPath | inFragment
    · obtain ⟨slashes, path_eq, areSlashes⟩ := exists_slashes path
      rw [path_eq] at inPath
      rcases List.mem_append.mp inPath with isKept | isTrailing
      · exact List.mem_append_left _ isKept
      · exact absurd (by simpa [isSlash] using areSlashes c isTrailing) isOther
    · exact List.mem_append_right _ inFragment
  · split
    · exact List.mem_append.mpr isMember
    · exact List.mem_append.mpr (isMember.imp_right (List.mem_cons_of_mem _))

theorem mem_dirname_cases
    {path : Text}
    {c : Char}
    (startsAbsolute : isAbsolute path = true)
    (isMember : c ∈ dirname path) :
    c = '/' ∨ c ∈ path := by
  rw [dirname_of_isAbsolute startsAbsolute, middle] at isMember
  rcases List.mem_cons.mp isMember with isSlash | isMember
  · exact .inl isSlash
  · right
    have inFront := mem_of_mem_dropSlashes isMember
    have inTrimmed : c ∈ dropSlashes (path.dropWhile isSlash) := by
      rw [← beforeLastPiece_append_lastPiece (dropSlashes (path.dropWhile isSlash))]
      exact List.mem_append_left _ inFront
    exact (List.dropWhile_suffix _).subset (mem_of_mem_dropSlashes inTrimmed)

theorem mem_of_mem_foldl_keep
    {kept names : List Text}
    {name : Text}
    (isMember : name ∈ names.foldl keep kept) :
    name ∈ kept ∨ name ∈ names := by
  induction names generalizing kept with
  | nil => exact .inl isMember
  | cons first names ih =>
      rcases ih isMember with wasKept | isLater
      · rw [keep] at wasKept
        split at wasKept
        · exact .inl wasKept
        · split at wasKept
          · exact .inl (List.mem_of_mem_drop wasKept)
          · rcases List.mem_cons.mp wasKept with rfl | wasKept
            · exact .inr List.mem_cons_self
            · exact .inl wasKept
      · exact .inr (List.mem_cons_of_mem _ isLater)

theorem mem_slashed_cases
    {names : List Text}
    {c : Char}
    (isMember : c ∈ slashed names) :
    c = '/' ∨ ∃ name ∈ names, c ∈ name := by
  obtain ⟨name, isName, isMember⟩ := List.mem_flatMap.mp isMember
  rcases List.mem_cons.mp isMember with isSlash | isMember
  · exact .inl isSlash
  · exact .inr ⟨name, isName, isMember⟩

/-- Resolving brings in no characters but slashes. -/
theorem mem_resolve_cases
    {path : Text}
    {c : Char}
    (isMember : c ∈ resolve path) :
    c = '/' ∨ c ∈ path := by
  rw [resolve] at isMember
  by_cases isRoot : settle (components path) = []
  · rw [isRoot] at isMember
    exact .inl (List.mem_singleton.mp isMember)
  · rw [ofComponents_eq_slashed isRoot] at isMember
    refine (mem_slashed_cases isMember).imp_right ?_
    rintro ⟨name, isKept, isMember⟩
    rw [settle_eq, List.mem_reverse] at isKept
    rcases mem_of_mem_foldl_keep isKept with isNone | isComponent
    · cases isNone
    · exact Text.mem_of_mem_splitAt (List.mem_filter.mp isComponent).1 isMember

/-- Names of a canonical path without null characters. -/
structure AreSound (names : List Text) : Prop where
  areProper : ∀ name ∈ names, IsProper name
  noNull : ∀ name ∈ names, '\x00' ∉ name

theorem areSound_append_iff
    {front behind : List Text} :
    AreSound (front ++ behind) ↔ AreSound front ∧ AreSound behind := by
  constructor
  · rintro ⟨areProper, noNull⟩
    rw [List.forall_mem_append] at areProper noNull
    exact ⟨⟨areProper.1, noNull.1⟩, ⟨areProper.2, noNull.2⟩⟩
  · rintro ⟨front, behind⟩
    exact ⟨List.forall_mem_append.mpr ⟨front.areProper, behind.areProper⟩,
      List.forall_mem_append.mpr ⟨front.noNull, behind.noNull⟩⟩

theorem AreSound.isCanonical
    {names : List Text}
    (areSound : AreSound names) :
    IsCanonical (ofComponents names) :=
  ⟨names, areSound.areProper, rfl⟩

theorem AreSound.noNull_slashed
    {names : List Text}
    (areSound : AreSound names) :
    '\x00' ∉ slashed names := by
  intro isMember
  rcases mem_slashed_cases isMember with isSlash | ⟨name, isName, isMember⟩
  · cases isSlash
  · exact areSound.noNull name isName isMember

theorem AreSound.noNull_ofComponents
    {names : List Text}
    (areSound : AreSound names) :
    '\x00' ∉ ofComponents names := by
  cases names with
  | nil => decide
  | cons name names => exact areSound.noNull_slashed

theorem areSound_of_noNull
    {names : List Text}
    (areProper : ∀ name ∈ names, IsProper name)
    (noNull : '\x00' ∉ ofComponents names) :
    AreSound names := by
  refine ⟨areProper, fun name isName isMember => noNull ?_⟩
  rw [ofComponents_eq_slashed (List.ne_nil_of_mem isName)]
  exact List.mem_flatMap.mpr ⟨name, isName, List.mem_cons_of_mem _ isMember⟩

/-! ## Where a path is anchored -/

/-- The directory that a relative path is read from. -/
def baseDirectory (system : System World) (tilde : Bool) : Option Text → Run World Text
  | none => workingDirectory system
  | some base => expand system tilde none base

theorem expand_eq
    (tilde : Bool)
    (base? : Option Text)
    (path : Text) :
    expand system tilde base? path =
      expandFrom system tilde (baseDirectory system tilde base?) path := by
  cases base? <;> rfl

/-- The text that a path stands for before its dots are resolved: the path behind the directory
that it is read from. -/
inductive Anchored
    (system : System World)
    (tilde : Bool)
    (directory : Run World Text)
    (path : Text)
    (scene : Scene World) : Text → Prop
  | home
      {home rest : Text}
      (isTilde : tilde = true)
      (path_eq : path = '~' :: rest)
      (home_eq : (system.homeDir scene.world).1 = some home)
      (isAbsolute : isAbsolute home = true) :
      Anchored system tilde directory path scene (home ++ rest)
  | absolute
      (isAbsolute : isAbsolute path = true) :
      Anchored system tilde directory path scene path
  | relative
      {start : Text}
      (noTilde : ¬ (tilde = true ∧ path.head? = some '~'))
      (isRelative : isAbsolute path = false)
      (start_eq : (directory scene).1 = .ok start) :
      Anchored system tilde directory path scene (start ++ '/' :: path)

variable {tilde : Bool} {directory : Run World Text} {base? : Option Text} {path real : Text}
  {scene : Scene World}

theorem resolve_joined (start path : Text) :
    resolve (if path = [] then start else join [start, path]) = resolve (start ++ '/' :: path) := by
  rw [resolve, resolve, components_append_slash]
  split
  · rename_i isEmpty
    rw [isEmpty, components_nil, List.append_nil]
  · rw [join, List.foldl_cons, List.foldl_nil, components_append]

theorem exists_of_expandHome
    {absolute : Text}
    (absolute_eq : (expandHome system path scene).1 = .ok absolute) :
    (path.drop 1 = [] ∨ isAbsolute (path.drop 1) = true) ∧
      ∃ home, (system.homeDir scene.world).1 = some home ∧ isAbsolute home = true ∧
        components absolute = components (home ++ path.drop 1) := by
  rw [expandHome] at absolute_eq
  split at absolute_eq
  · cases absolute_eq
  · rename_i notOther
    have atSlash : path.drop 1 = [] ∨ isAbsolute (path.drop 1) = true := by
      refine Decidable.or_iff_not_imp_left.mpr fun hasRest => ?_
      exact Decidable.byContradiction fun isOther => notOther ⟨hasRest, by simpa using isOther⟩
    refine ⟨atSlash, ?_⟩
    obtain ⟨home?, home_eq, absolute_eq⟩ := Run.exists_of_bind_eq_ok absolute_eq
    obtain rfl : (system.homeDir scene.world).1 = home? := Except.ok.inj home_eq
    cases home_eq : (system.homeDir scene.world).1 with
    | none =>
        rw [home_eq] at absolute_eq
        cases absolute_eq
    | some home =>
        rw [home_eq] at absolute_eq
        dsimp only at absolute_eq
        split at absolute_eq
        · rename_i startsAbsolute
          refine ⟨home, rfl, startsAbsolute, ?_⟩
          obtain rfl := Except.ok.inj absolute_eq
          split
          · rename_i isAll
            rw [isAll, List.append_nil]
          · rw [join, List.foldl_cons, List.foldl_nil, components_append,
              components_append_atSlash _ (atSlash.imp_right isAbsolute_iff.mp)]
        · cases absolute_eq

/-- A path that has been made absolute holds no null character and is the resolution of what it
is anchored to. -/
theorem exists_anchored_of_expandFrom
    (real_eq : (expandFrom system tilde directory path scene).1 = .ok real) :
    '\x00' ∉ path ∧
      ∃ absolute, Anchored system tilde directory path scene absolute ∧
        real = resolve absolute := by
  obtain ⟨_, valid, real_eq⟩ := Run.exists_of_bind_eq_ok real_eq
  refine ⟨?_, ?_⟩
  · rcases checkNull_cases path with ⟨-, noNull⟩ | ⟨isNull, -⟩
    · exact noNull
    · rw [Run.ofExcept_apply, isNull] at valid
      cases valid
  · split at real_eq
    · rename_i startsTilde
      obtain ⟨absolute, absolute_eq, real_eq⟩ := Run.exists_of_bind_eq_ok real_eq
      obtain rfl := Except.ok.inj real_eq
      obtain ⟨-, home, home_eq, isAbsolute, components_eq⟩ := exists_of_expandHome absolute_eq
      obtain ⟨rest, rfl⟩ := List.head?_eq_some_iff.mp startsTilde.2
      refine ⟨home ++ rest, .home startsTilde.1 rfl home_eq isAbsolute, ?_⟩
      rw [resolve, resolve, components_eq]
      rfl
    · rename_i noTilde
      split at real_eq
      · rename_i startsAbsolute
        obtain ⟨absolute, absolute_eq, real_eq⟩ := Run.exists_of_bind_eq_ok real_eq
        cases absolute_eq
        exact ⟨path, .absolute startsAbsolute, (Except.ok.inj real_eq).symm⟩
      · rename_i isRelative
        obtain ⟨start, start_eq, real_eq⟩ := Run.exists_of_bind_eq_ok real_eq
        obtain ⟨absolute, absolute_eq, real_eq⟩ := Run.exists_of_bind_eq_ok real_eq
        obtain rfl := Except.ok.inj real_eq
        obtain rfl := Except.ok.inj absolute_eq
        exact ⟨start ++ '/' :: path,
          .relative noTilde (by simpa using isRelative) start_eq, resolve_joined start path⟩

theorem exists_of_expandFrom
    (noTilde : ¬ (tilde = true ∧ path.head? = some '~'))
    (real_eq : (expandFrom system tilde directory path scene).1 = .ok real) :
    (isAbsolute path = true ∧ real = resolve path) ∨
      isAbsolute path = false ∧ ∃ start scene', (directory scene').1 = .ok start ∧
        real = ofComponents (settle (components start ++ components path)) := by
  obtain ⟨-, absolute, anchored, rfl⟩ := exists_anchored_of_expandFrom real_eq
  cases anchored with
  | home isTilde path_eq => exact absurd ⟨isTilde, by rw [path_eq]; rfl⟩ noTilde
  | absolute startsAbsolute => exact .inl ⟨startsAbsolute, rfl⟩
  | relative _ isRelative start_eq =>
      refine .inr ⟨isRelative, _, _, start_eq, ?_⟩
      rw [resolve, components_append_slash]

/-! ## Null characters -/

theorem noNull_dirname
    (startsAbsolute : isAbsolute path = true)
    (noNull : '\x00' ∉ path) :
    '\x00' ∉ dirname path := by
  intro isMember
  rcases mem_dirname_cases startsAbsolute isMember with isSlash | inPath
  · cases isSlash
  · exact noNull inPath

theorem noNull_expandFrom
    (fromHome : tilde = true → ∀ world home, (system.homeDir world).1 = some home →
      '\x00' ∉ home)
    (fromDirectory : isAbsolute path = false → directory.Ensures fun start => '\x00' ∉ start) :
    (expandFrom system tilde directory path).Ensures fun real => '\x00' ∉ real := by
  intro scene real real_eq isMember
  obtain ⟨noNull, absolute, anchored, rfl⟩ := exists_anchored_of_expandFrom real_eq
  rcases mem_resolve_cases isMember with isSlash | isMember
  · cases isSlash
  cases anchored with
  | home isTilde path_eq home_eq =>
      rcases List.mem_append.mp isMember with inHome | inRest
      · exact fromHome isTilde _ _ home_eq inHome
      · exact noNull (by rw [path_eq]; exact List.mem_cons_of_mem _ inRest)
  | absolute => exact noNull isMember
  | relative _ isRelative start_eq =>
      rcases List.mem_append.mp isMember with inStart | inPath
      · exact fromDirectory isRelative scene _ start_eq inStart
      · rcases List.mem_cons.mp inPath with isSlash | inPath
        · cases isSlash
        · exact noNull inPath

/-- Where the directories that are asked for hold no null character, no absolute path does; the home
directory is asked for a tilde only. -/
theorem noNull_expand_of
    (fromHome : tilde = true → ∀ world home, (system.homeDir world).1 = some home →
      '\x00' ∉ home)
    (fromWorking : ∀ world start, (system.currentDir world).1 = .ok start → '\x00' ∉ start)
    (base? : Option Text)
    (path : Text) :
    (expand system tilde base? path).Ensures fun real => '\x00' ∉ real := by
  have atWorking : (workingDirectory system).Ensures fun start => '\x00' ∉ start :=
    Run.ensures_call fromWorking
  rw [expand_eq]
  apply noNull_expandFrom fromHome
  intro _
  cases base? with
  | none => exact atWorking
  | some base => exact noNull_expandFrom fromHome fun _ => atWorking

theorem noNull_expand
    (namesNoNull : system.NamesNoNull)
    (tilde : Bool)
    (base? : Option Text)
    (path : Text) :
    (expand system tilde base? path).Ensures fun real => '\x00' ∉ real :=
  noNull_expand_of (fun _ => namesNoNull.homeDir) namesNoNull.currentDir base? path

/-- Behind an absolute base, no directory is asked for. -/
theorem noNull_expand_of_isAbsolute
    {base : Text}
    (startsAbsolute : isAbsolute base = true)
    (path : Text) :
    (expand system false (some base) path).Ensures fun real => '\x00' ∉ real := by
  apply noNull_expandFrom (fun isTilde => by cases isTilde)
  intro _
  apply noNull_expandFrom (fun isTilde => by cases isTilde)
  intro isRelative
  rw [startsAbsolute] at isRelative
  cases isRelative

/-! ## Fixed points -/

theorem checkNull_of_noNull (noNull : '\x00' ∉ path) :
    checkNull path = .ok () := by
  rcases checkNull_cases path with ⟨valid, -⟩ | ⟨-, holdsNull⟩
  · exact valid
  · exact absurd holdsNull noNull

/-- A path with a null character is refused before anything is asked. -/
theorem expandFrom_of_null
    (isNull : '\x00' ∈ path)
    (tilde : Bool)
    (directory : Run World Text) :
    expandFrom system tilde directory path = Run.fail (.invalidArgument (.nullByte path)) := by
  rcases checkNull_cases path with ⟨-, noNull⟩ | ⟨refused, -⟩
  · exact absurd isNull noNull
  · rw [expandFrom, refused]
    rfl

theorem expand_of_null
    (isNull : '\x00' ∈ path)
    (tilde : Bool)
    (base? : Option Text) :
    expand system tilde base? path = Run.fail (.invalidArgument (.nullByte path)) := by
  rw [expand_eq]
  exact expandFrom_of_null isNull tilde _

/-- A base with a null character is refused where a path needs it. -/
theorem expand_of_null_base
    {base : Text}
    (isRelative : isAbsolute path = false)
    (noTilde : path.head? ≠ some '~')
    (noNull : '\x00' ∉ path)
    (isNull : '\x00' ∈ base) :
    expand system true (some base) path = Run.fail (.invalidArgument (.nullByte base)) := by
  rw [expand_eq, baseDirectory, expand_of_null isNull, expandFrom, checkNull_of_noNull noNull,
    if_neg (by simp [noTilde]), if_neg (by simp [isRelative])]
  rfl

/-- An absolute path is resolved, and neither base nor directories are looked at. -/
theorem expandFrom_of_isAbsolute
    (startsAbsolute : isAbsolute path = true)
    (noNull : '\x00' ∉ path)
    (tilde : Bool)
    (directory : Run World Text) :
    (expandFrom system tilde directory path).Gives (.ok (resolve path)) := by
  have noTilde : ¬ (tilde = true ∧ path.head? = some '~') := by
    rintro ⟨-, isTilde⟩
    rw [isAbsolute_iff.mp startsAbsolute] at isTilde
    cases isTilde
  rw [expandFrom, checkNull_of_noNull noNull, if_neg noTilde, if_pos startsAbsolute]
  apply Run.Gives.bind (Run.gives_ofExcept _)
  exact Run.gives_pure _

theorem expand_eq_of_isAbsolute
    (startsAbsolute : isAbsolute path = true)
    (tilde : Bool)
    (base? base' : Option Text) :
    expand system tilde base? path = expand system tilde base' path := by
  have noTilde : ¬ (tilde = true ∧ path.head? = some '~') := by
    rintro ⟨-, isTilde⟩
    rw [isAbsolute_iff.mp startsAbsolute] at isTilde
    cases isTilde
  rw [expand_eq, expand_eq, expandFrom, expandFrom, if_neg noTilde, if_neg noTilde,
    if_pos startsAbsolute, if_pos startsAbsolute]

/-- A relative path is read from the directory that is found. -/
theorem expandFrom_of_isRelative
    {start : Text}
    (isRelative : isAbsolute path = false)
    (noNull : '\x00' ∉ path)
    (gives : directory.Gives (.ok start)) :
    (expandFrom system false directory path).Gives (.ok (resolve (start ++ '/' :: path))) := by
  rw [expandFrom, checkNull_of_noNull noNull, if_neg (by simp), if_neg (by simp [isRelative]),
    ← resolve_joined]
  apply Run.Gives.bind (Run.gives_ofExcept _)
  apply Run.Gives.bind gives
  exact Run.gives_pure _

theorem resolve_resolve_append_slash (front rest : Text) :
    resolve (resolve front ++ '/' :: rest) = resolve (front ++ '/' :: rest) := by
  have areNames : ∀ name ∈ components front, IsName name := fun _ => isName_of_mem_components
  rw [resolve, components_append_slash, components_resolve,
    settle_append (isProper_of_mem_settle areNames), settle_eq, List.reverse_reverse,
    ← List.foldl_append, ← settle_eq, ← components_append_slash]
  rfl

/-- Behind an absolute base without null characters, every other path without them can be made
absolute. -/
theorem expand_of_isAbsolute_base
    {base : Text}
    (startsAbsolute : isAbsolute base = true)
    (noNullBase : '\x00' ∉ base)
    (noNull : '\x00' ∉ path) :
    (expand system false (some base) path).Gives
      (.ok (resolve (if isAbsolute path then path else base ++ '/' :: path))) := by
  cases isAbsolute_eq : isAbsolute path with
  | true => exact expandFrom_of_isAbsolute isAbsolute_eq noNull _ _
  | false =>
      have gives : (expandFrom system false (workingDirectory system) base).Gives
          (.ok (resolve base)) :=
        expandFrom_of_isAbsolute startsAbsolute noNullBase _ _
      rw [if_neg (by simp), ← resolve_resolve_append_slash]
      exact expandFrom_of_isRelative isAbsolute_eq noNull gives

/-- A canonical path without null characters is absolute already. -/
theorem expand_of_isCanonical
    (isCanonical : IsCanonical path)
    (noNull : '\x00' ∉ path)
    (tilde : Bool)
    (base? : Option Text) :
    (expand system tilde base? path).Gives (.ok path) := by
  have gives : (expandFrom system tilde (baseDirectory system tilde base?) path).Gives
      (.ok (resolve path)) :=
    expandFrom_of_isAbsolute isCanonical.pieces.1 noNull _ _
  rw [resolve_of_isCanonical isCanonical] at gives
  rw [expand_eq]
  exact gives

/-- A path that has been made absolute starts at the root, has no empty component, dot or pair of
dots, and ends in no slash but that of the root.  It is the resolution of the text that the path is
anchored to, in which what stands behind a pair of dots is read from the directory of the place
before, the root being its own directory.  If the directories that the system names hold no null
character, making it absolute once more changes nothing. -/
theorem expand_reaches_fixed_point
    (real_eq : (expand system tilde base? path scene).1 = .ok real) :
    (isAbsolute real = true ∧
      (real = ['/'] ∨
        (∀ piece ∈ (Text.splitAt isSlash real).tail, IsProper piece) ∧
          real.getLast? ≠ some '/')) ∧
      (∃ absolute,
        Anchored system tilde (baseDirectory system tilde base?) path scene absolute ∧
          real = resolve absolute ∧
          ∀ front behind, '/' :: absolute = front ++ '/' :: '.' :: '.' :: behind →
            behind = [] ∨ behind.head? = some '/' →
            real = resolve (dirname (resolve front) ++ behind)) ∧
      dirname ['/'] = ['/'] ∧
      (system.NamesNoNull → ∀ tilde' base' scene',
        (expand system tilde' base' real scene').1 = .ok real) := by
  have isCanonical := expand_isCanonical tilde base? path scene real real_eq
  refine ⟨isCanonical.pieces, ?_, rfl, ?_⟩
  · rw [expand_eq] at real_eq
    obtain ⟨-, absolute, anchored, rfl⟩ := exists_anchored_of_expandFrom real_eq
    refine ⟨absolute, anchored, rfl, ?_⟩
    intro front behind text_eq atSlash
    rw [← resolve_up front atSlash, ← text_eq, resolve, resolve, components_slash_cons]
  · intro namesNoNull tilde' base' scene'
    have noNull := noNull_expand namesNoNull tilde base? path scene real real_eq
    exact expand_of_isCanonical isCanonical noNull tilde' base' scene'

/-- A working directory and a home directory that are far from canonical. -/
def crooked : Table where
  directory := .ok ['.', '.', '/', 'w', '/', '/', 'x']
  home := some ['/', '/', 'h', '/', '.', '/']
  ids := (0, 0)

theorem crooked_namesNoNull : crooked.system.NamesNoNull :=
  Table.namesNoNull (by decide)

theorem crooked_expands_to_fixed_point :
    (expand crooked.system true (some ['~', '/', 'b', '/', '.'])
        ['.', '.', '/', '.', '.', '/', '.', '.', '/', 'a', '/', '/', 'c', '/'] ⟨0, []⟩).1 =
        .ok ['/', 'a', '/', 'c'] ∧
      (expand crooked.system false none ['/', 'a', '/', 'c'] ⟨0, []⟩).1 =
        .ok ['/', 'a', '/', 'c'] := by
  have real_eq :
      (expand crooked.system true (some ['~', '/', 'b', '/', '.'])
        ['.', '.', '/', '.', '.', '/', '.', '.', '/', 'a', '/', '/', 'c', '/'] ⟨0, []⟩).1 =
        .ok ['/', 'a', '/', 'c'] := by
    rfl
  refine ⟨real_eq, ?_⟩
  obtain ⟨-, -, -, isFixed⟩ := expand_reaches_fixed_point real_eq
  exact isFixed crooked_namesNoNull false none ⟨0, []⟩

end Path
end FilePaths
