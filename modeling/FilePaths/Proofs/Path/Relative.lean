import FilePaths.Proofs.Path.Canonical

/-!
# Relative paths, one after the other

To read a relative path from the place where another path leads is to read both of them joined.
Dots can be resolved on the way, or all at the end: a pair of dots in the second path takes away
what the first one has left, and at the root it takes away nothing in either case.
-/

namespace FilePaths
namespace Path

variable {World : Type} {system : System World} {directory : Run World Text}
  {base? : Option Text} {path rest place final : Text} {scene again : Scene World}

/-! ## Joined paths -/

/-- For its components a fragment may be put behind a slash of its own. -/
theorem resolve_append (path rest : Text) :
    resolve (append path rest) = resolve (path ++ '/' :: rest) := by
  rw [resolve, resolve, components_append, components_append_slash]

theorem resolve_append_slash_append (front path rest : Text) :
    resolve (front ++ '/' :: append path rest) =
      resolve ((front ++ '/' :: path) ++ '/' :: rest) := by
  rw [resolve, resolve, components_append_slash, components_append, components_append_slash,
    components_append_slash, List.append_assoc]

/-- A path without a pair of dots takes nothing away from the names before it. -/
theorem resolve_ofComponents_append
    {names : List Text}
    (areProper : ∀ name ∈ names, IsProper name)
    (noUp : ['.', '.'] ∉ components rest) :
    resolve (ofComponents names ++ '/' :: rest) =
      ofComponents (names ++ settle (components rest)) := by
  rw [resolve, components_append_slash,
    components_ofComponents fun name isMember => (areProper name isMember).toIsName,
    settle_append_of_noUp areProper noUp]

theorem noNull_append
    (noNullPath : '\x00' ∉ path)
    (noNull : '\x00' ∉ rest) :
    '\x00' ∉ append path rest := by
  intro isMember
  rcases mem_append_cases isMember with isSlash | inPath | inRest
  · cases isSlash
  · exact noNullPath inPath
  · exact noNull inRest

/-! ## One path -/

/-- Where a tilde has no meaning, a path without null characters is resolved as it is, or behind the
directory that it is read from. -/
theorem expandFrom_result
    (directory : Run World Text)
    (path : Text)
    (scene : Scene World) :
    (expandFrom system false directory path scene).1 =
      (checkNull path).bind fun _ =>
        if isAbsolute path then .ok (resolve path)
        else (directory scene).1.map fun start => resolve (start ++ '/' :: path) := by
  rw [expandFrom, if_neg (by simp)]
  rcases checkNull_cases path with ⟨valid, -⟩ | ⟨isNull, -⟩
  · rw [valid]
    cases isAbsolute_eq : isAbsolute path with
    | true => rfl
    | false =>
        have isValid : (Run.ofExcept (.ok ()) : Run World Unit) = pure () := rfl
        rw [isValid]
        simp only [pure_bind, Bool.false_eq_true, if_false]
        rw [Run.bind_pure_result]
        simp only [resolve_joined]
        rfl
  · rw [isNull]
    rfl

/-- What a path is read from depends on nothing but the working directory. -/
theorem baseDirectory_result_congr
    (sameDirectory :
      (system.currentDir again.world).1 = (system.currentDir scene.world).1)
    (base? : Option Text) :
    (baseDirectory system false base? again).1 = (baseDirectory system false base? scene).1 := by
  have sameWorking :
      (workingDirectory system again).1 = (workingDirectory system scene).1 := by
    rw [workingDirectory, Run.call_result, Run.call_result, sameDirectory]
  cases base? with
  | none => exact sameWorking
  | some base =>
      rw [baseDirectory, expand, expandFrom_result, expandFrom_result, sameWorking]

theorem expand_result_of_noNull
    (noNull : '\x00' ∉ path)
    (base? : Option Text)
    (scene : Scene World) :
    (expand system false base? path scene).1 =
      if isAbsolute path then .ok (resolve path)
      else (baseDirectory system false base? scene).1.map fun start =>
        resolve (start ++ '/' :: path) := by
  rw [expand_eq, expandFrom_result, checkNull_of_noNull noNull]
  rfl

/-! ## Two paths -/

/-- Behind a path that leads to a place, a relative path leads on from that place. -/
theorem expandFrom_append_result
    (directory : Run World Text)
    (notEmpty : path ≠ [])
    (noNullPath : '\x00' ∉ path)
    (noNull : '\x00' ∉ rest)
    (scene : Scene World) :
    (expandFrom system false directory (append path rest) scene).1 =
      (expandFrom system false directory path scene).1.map fun place =>
        resolve (place ++ '/' :: rest) := by
  rw [expandFrom_result, expandFrom_result, checkNull_of_noNull noNullPath,
    checkNull_of_noNull (noNull_append noNullPath noNull), isAbsolute_append notEmpty]
  simp only [Except.bind]
  split
  · rw [Except.map, resolve_append, resolve_resolve_append_slash]
  · cases (directory scene).1 with
    | error error => rfl
    | ok start =>
        rw [Except.map, Except.map, Except.map, resolve_resolve_append_slash,
          resolve_append_slash_append]

theorem expand_append_result
    (sameDirectory :
      (system.currentDir again.world).1 = (system.currentDir scene.world).1)
    (notEmpty : path ≠ [])
    (noNull : '\x00' ∉ rest)
    (place_eq : (expand system false base? path scene).1 = .ok place) :
    (expand system false base? (append path rest) again).1 =
      .ok (resolve (place ++ '/' :: rest)) := by
  have noNullPath : '\x00' ∉ path := by
    rw [expand_eq] at place_eq
    exact (exists_anchored_of_expandFrom place_eq).1
  rw [expand_eq, expandFrom_append_result _ notEmpty noNullPath noNull, ← expand_eq,
    expand_result_of_noNull noNullPath, baseDirectory_result_congr sameDirectory,
    ← expand_result_of_noNull noNullPath, place_eq]
  rfl

/-- To read a relative path from the place where another path leads is to read the two joined, if
the working directory is the same for both.  The first path may be relative to a base, which may
hold anything, and the place is looked at from wherever the system may be by then. -/
theorem expand_join
    (noNullDirectory : ∀ world start, (system.currentDir world).1 = .ok start → '\x00' ∉ start)
    (sameDirectory :
      (system.currentDir again.world).1 = (system.currentDir scene.world).1)
    (notEmpty : path ≠ [])
    (isRelative : isAbsolute rest = false)
    (noNull : '\x00' ∉ rest)
    (place_eq : (expand system false base? path scene).1 = .ok place)
    (later : Scene World) :
    (expand system false (some place) rest later).1 =
      (expand system false base? (join [path, rest]) again).1 := by
  have startsAbsolute : isAbsolute place = true :=
    (expand_isCanonical false base? path scene place place_eq).pieces.1
  have noNullPlace : '\x00' ∉ place :=
    noNull_expand_of (fun isTilde => by cases isTilde) noNullDirectory base? path scene place
      place_eq
  calc
    (expand system false (some place) rest later).1
      = .ok (resolve (place ++ '/' :: rest)) := by
        rw [expand_of_isAbsolute_base startsAbsolute noNullPlace noNull later,
          if_neg (by simp [isRelative])]
    _ = (expand system false base? (append path rest) again).1 :=
        (expand_append_result sameDirectory notEmpty noNull place_eq).symm

/-- Three pairs of dots lead out of the first path and of its base, and two more to the root and
no further. -/
theorem crooked_expand_join :
    (expand crooked.system false (some ['b', '/', '.'])
        ['~', '/', '.', '.', '/', '.', '.', '/', '.', '.'] ⟨0, []⟩).1 = .ok ['/', 'w'] ∧
      (expand crooked.system false (some ['/', 'w'])
          ['.', '.', '/', '.', '.', '/', '/', 'c', '/', '.'] ⟨1, []⟩).1 =
        (expand crooked.system false (some ['b', '/', '.'])
          (join [['~', '/', '.', '.', '/', '.', '.', '/', '.', '.'],
            ['.', '.', '/', '.', '.', '/', '/', 'c', '/', '.']]) ⟨2, []⟩).1 := by
  have place_eq :
      (expand crooked.system false (some ['b', '/', '.'])
        ['~', '/', '.', '.', '/', '.', '.', '/', '.', '.'] ⟨0, []⟩).1 = .ok ['/', 'w'] := by
    rfl
  exact ⟨place_eq, expand_join crooked_namesNoNull.currentDir rfl (by decide) rfl (by decide)
    place_eq ⟨1, []⟩⟩

/-! ## Back to the first path -/

theorem append_tilde (isRelative : isAbsolute rest = false) :
    append ['~'] rest = '~' :: '/' :: rest := by
  simp [append, isRelative]

theorem append_cons_of_ne_nil
    (isRelative : isAbsolute rest = false)
    (c : Char)
    (notEmpty : path ≠ []) :
    append (c :: path) rest = c :: append path rest := by
  have last_eq : (c :: path).getLast? = path.getLast? := List.getLast?_cons_of_ne_nil notEmpty
  simp only [append, isRelative, Bool.false_eq_true, if_false, last_eq]
  split <;> rfl

theorem exists_of_home
    {home : Text}
    (atSlash : path = [] ∨ isAbsolute path = true)
    (home_eq : (system.homeDir scene.world).1 = some home)
    (startsAbsolute : isAbsolute home = true) :
    ∃ start, (expandHome system ('~' :: path) scene).1 = .ok start ∧
      components start = components (home ++ path) := by
  have notOther : ¬ (path ≠ [] ∧ (!isAbsolute path) = true) := by
    rintro ⟨hasRest, isOther⟩
    rcases atSlash with isAll | isSlashed
    · exact hasRest isAll
    · simp [isSlashed] at isOther
  obtain ⟨start, start_eq⟩ : ∃ start, (expandHome system ('~' :: path) scene).1 = .ok start := by
    rw [expandHome, List.drop_one, List.tail_cons, if_neg notOther, Run.bind_result]
    simp only [Run.ask, home_eq, Except.bind, if_pos startsAbsolute]
    exact ⟨_, rfl⟩
  obtain ⟨-, found, found_eq, -, components_eq⟩ := exists_of_expandHome start_eq
  obtain rfl := Option.some.inj (home_eq.symm.trans found_eq)
  exact ⟨start, start_eq, components_eq⟩

/-- A tilde in front of two joined paths stands in front of the first one. -/
theorem exists_of_expandHome_append
    {absolute : Text}
    (isRelative : isAbsolute rest = false)
    (absolute_eq : (expandHome system (append ('~' :: path) rest) scene).1 = .ok absolute) :
    ∃ start, (expandHome system ('~' :: path) scene).1 = .ok start ∧
      components absolute = components start ++ components rest := by
  obtain ⟨atSlash, home, home_eq, startsAbsolute, absolute_eq⟩ := exists_of_expandHome absolute_eq
  by_cases isAll : path = []
  · subst isAll
    obtain ⟨start, start_eq, components_eq⟩ :=
      exists_of_home (.inl rfl) home_eq startsAbsolute
    refine ⟨start, start_eq, ?_⟩
    rw [absolute_eq, components_eq, append_tilde isRelative, List.append_nil]
    exact components_append_slash home rest
  · rw [append_cons_of_ne_nil isRelative '~' isAll, List.drop_one, List.tail_cons]
      at atSlash absolute_eq
    have notEmpty : append path rest ≠ [] := by
      simp only [append, isRelative, Bool.false_eq_true, if_false]
      split <;> simp [isAll]
    have isSlashed := atSlash.resolve_left notEmpty
    have startsSlashed : isAbsolute path = true := isAbsolute_append isAll rest ▸ isSlashed
    obtain ⟨start, start_eq, components_eq⟩ :=
      exists_of_home (.inr startsSlashed) home_eq startsAbsolute
    refine ⟨start, start_eq, ?_⟩
    rw [absolute_eq, components_eq,
      components_append_atSlash home (.inr (isAbsolute_iff.mp isSlashed)),
      components_append_atSlash home (.inr (isAbsolute_iff.mp startsSlashed)),
      components_append, List.append_assoc]

theorem head?_append
    (isRelative : isAbsolute rest = false)
    (notEmpty : path ≠ []) :
    (append path rest).head? = path.head? := by
  obtain ⟨c, path, rfl⟩ := List.exists_cons_of_ne_nil notEmpty
  simp only [append, isRelative, Bool.false_eq_true, if_false]
  split <;> rfl

theorem expandFrom_of_tilde
    {tilde : Bool}
    (startsTilde : tilde = true ∧ path.head? = some '~')
    (noNull : '\x00' ∉ path)
    (directory : Run World Text)
    (scene : Scene World) :
    (expandFrom system tilde directory path scene).1 =
      (expandHome system path scene).1.map resolve := by
  rw [expandFrom, checkNull_of_noNull noNull, if_pos startsTilde]
  exact Run.bind_pure_result _ _ _

theorem expandFrom_of_noTilde
    {tilde : Bool}
    (noTilde : ¬ (tilde = true ∧ path.head? = some '~'))
    (directory : Run World Text) :
    expandFrom system tilde directory path = expandFrom system false directory path := by
  have noneHere : ¬ (false = true ∧ path.head? = some '~') := by simp
  rw [expandFrom, expandFrom, if_neg noTilde, if_neg noneHere]

/-- If two joined paths lead to a place, the first path leads somewhere, and the second one leads on
to that place. -/
theorem exists_of_expandFrom_append
    {tilde : Bool}
    (notEmpty : path ≠ [])
    (isRelative : isAbsolute rest = false)
    (final_eq : (expandFrom system tilde directory (append path rest) scene).1 = .ok final) :
    '\x00' ∉ rest ∧ ∃ place, (expandFrom system tilde directory path scene).1 = .ok place ∧
      final = resolve (place ++ '/' :: rest) := by
  have noNullBoth := (exists_anchored_of_expandFrom final_eq).1
  have noNullPath : '\x00' ∉ path := fun inPath =>
    noNullBoth (mem_append_of_mem (by decide) (.inl inPath))
  have noNull : '\x00' ∉ rest := fun inRest =>
    noNullBoth (mem_append_of_mem (by decide) (.inr inRest))
  have head_eq := head?_append isRelative notEmpty
  refine ⟨noNull, ?_⟩
  by_cases startsTilde : tilde = true ∧ path.head? = some '~'
  · rw [expandFrom_of_tilde (by rwa [head_eq]) noNullBoth] at final_eq
    rw [expandFrom_of_tilde startsTilde noNullPath]
    obtain ⟨path, rfl⟩ := List.head?_eq_some_iff.mp startsTilde.2
    cases absolute_eq : (expandHome system (append ('~' :: path) rest) scene).1 with
    | error error =>
        rw [absolute_eq] at final_eq
        cases final_eq
    | ok absolute =>
        rw [absolute_eq] at final_eq
        obtain rfl := Except.ok.inj final_eq
        obtain ⟨start, start_eq, components_eq⟩ :=
          exists_of_expandHome_append isRelative absolute_eq
        refine ⟨resolve start, by rw [start_eq]; rfl, ?_⟩
        rw [resolve_resolve_append_slash, resolve, resolve, components_eq, components_append_slash]
  · rw [expandFrom_of_noTilde (by rwa [head_eq]),
      expandFrom_append_result directory notEmpty noNullPath noNull] at final_eq
    rw [expandFrom_of_noTilde startsTilde]
    cases place_eq : (expandFrom system false directory path scene).1 with
    | error error =>
        rw [place_eq] at final_eq
        cases final_eq
    | ok place =>
        rw [place_eq] at final_eq
        exact ⟨place, rfl, (Except.ok.inj final_eq).symm⟩

end Path
end FilePaths
