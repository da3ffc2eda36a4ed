import FilePaths.Proofs.Path.Components

/-!
# Splitting a path and joining it again

Joining a directory and a last component, and splitting what comes out, gives both back, if they
are written as splitting writes them.  Splitting writes every path in this way, so that a path
which has been split and joined is split like before; it may have lost slashes, but resolves to
the same place.
-/

namespace FilePaths
namespace Path

variable {directory name path : Text}

/-- A directory and a last component as splitting writes them: the root twice, or a name behind a
directory that has no slash to spare at either end. -/
inductive IsNormalPair : (directory name : Text) → Prop
  | root : IsNormalPair ['/'] ['/']
  | name
      {directory name : Text}
      (isName : IsName name)
      (notEmpty : directory ≠ [])
      (notDoubled : ¬['/', '/'] <+: directory)
      (notTrailing : directory.getLast? = some '/' → directory = ['/']) :
      IsNormalPair directory name

/-! ## Slashes at the end -/

theorem dropSlashes_of_getLast?_ne (notTrailing : path.getLast? ≠ some '/') :
    dropSlashes path = path := by
  rcases List.eq_nil_or_concat path with rfl | ⟨front, c, rfl⟩
  · rfl
  · have notSlash : isSlash c = false := by simpa [isSlash] using notTrailing
    simp [dropSlashes, Text.dropEndWhile, notSlash]

theorem dropSlashes_append_slash (path : Text) :
    dropSlashes (path ++ ['/']) = dropSlashes path := by
  have isHere : isSlash '/' = true := rfl
  simp [dropSlashes, Text.dropEndWhile, isHere]

theorem prefix_dropSlashes (path : Text) :
    dropSlashes path <+: path :=
  Text.dropEndWhile_prefix isSlash path

/-! ## The last piece -/

theorem lastPiece_append_slash
    (noSlash : '/' ∉ name)
    (front : Text) :
    lastPiece (front ++ '/' :: name) = name :=
  Text.takeEndWhile_append_cons rfl (notSlash_of_mem noSlash) front

theorem beforeLastPiece_append_slash
    (noSlash : '/' ∉ name)
    (front : Text) :
    beforeLastPiece (front ++ '/' :: name) = front ++ ['/'] :=
  Text.dropEndWhile_append_cons rfl (notSlash_of_mem noSlash) front

theorem beforeLastPiece_of_noSlash (noSlash : '/' ∉ name) :
    beforeLastPiece name = [] := by
  rcases beforeLastPiece_endsInSlash name with isNil | ⟨front, front_eq⟩
  · exact isNil
  · have pieces_eq := beforeLastPiece_append_lastPiece name
    rw [front_eq] at pieces_eq
    refine absurd ?_ noSlash
    rw [← pieces_eq]
    simp

theorem basename_of_dropSlashes_ne (notEmpty : dropSlashes path ≠ []) :
    basename path = lastPiece (dropSlashes path) := by
  rw [basename]
  split
  · rename_i isNil
    exact absurd isNil notEmpty
  · rfl

theorem isName_basename (notEmpty : dropSlashes path ≠ []) :
    IsName (basename path) := by
  rw [basename_of_dropSlashes_ne notEmpty]
  exact ⟨lastPiece_dropSlashes notEmpty, noSlash_lastPiece _⟩

theorem basename_append_slash
    (isName : IsName name)
    (front : Text) :
    basename (front ++ '/' :: name) = name := by
  have kept : dropSlashes (front ++ '/' :: name) = front ++ '/' :: name := by
    rw [List.append_cons]
    exact dropSlashes_append_name _ isName
  rw [basename_of_dropSlashes_ne (by rw [kept]; simp), kept,
    lastPiece_append_slash isName.noSlash]

/-! ## What stands before the last piece -/

theorem dirname_of_isRelative (isRelative : isAbsolute path = false) :
    dirname path = if middle path = [] then ['.'] else middle path := by
  have noRoot : path.takeWhile isSlash = [] := by
    cases path with
    | nil => rfl
    | cons c path => exact List.takeWhile_cons_of_neg (by simpa [isAbsolute] using isRelative)
  rw [dirname, noRoot]
  by_cases isEmpty : middle path = []
  · rw [if_pos isEmpty]
    exact if_pos ⟨rfl, isEmpty⟩
  · rw [if_neg isEmpty]
    exact if_neg fun both => isEmpty both.2

theorem dropWhile_of_isRelative (isRelative : isAbsolute path = false) :
    path.dropWhile isSlash = path := by
  cases path with
  | nil => rfl
  | cons c path => exact List.dropWhile_cons_of_neg (by simpa [isAbsolute] using isRelative)

theorem middle_slash_cons (path : Text) :
    middle ('/' :: path) = middle path := by
  have isHere : isSlash '/' = true := rfl
  rw [middle, List.dropWhile_cons_of_pos isHere, middle]

theorem isAbsolute_of_isName (isName : IsName name) :
    isAbsolute name = false := by
  obtain ⟨c, rest, rfl⟩ := List.exists_cons_of_ne_nil isName.notEmpty
  have isOther := notSlash_of_mem isName.noSlash c List.mem_cons_self
  simpa [isAbsolute] using isOther

theorem middle_of_isName (isName : IsName name) :
    middle name = [] := by
  rw [middle, dropWhile_of_isRelative (isAbsolute_of_isName isName)]
  have kept : dropSlashes name = name := dropSlashes_append_name [] isName
  rw [kept, beforeLastPiece_of_noSlash isName.noSlash]
  rfl

/-- Before a last component stands what neither starts nor ends in a slash. -/
theorem middle_append_slash
    (isRelative : isAbsolute directory = false)
    (notEmpty : directory ≠ [])
    (notTrailing : directory.getLast? ≠ some '/')
    (isName : IsName name) :
    middle (directory ++ '/' :: name) = directory := by
  have startsRelative : isAbsolute (directory ++ '/' :: name) = false := by
    rwa [isAbsolute_append_of_ne_nil notEmpty]
  have kept : dropSlashes (directory ++ '/' :: name) = directory ++ '/' :: name := by
    rw [List.append_cons]
    exact dropSlashes_append_name _ isName
  rw [middle, dropWhile_of_isRelative startsRelative, kept,
    beforeLastPiece_append_slash isName.noSlash, dropSlashes_append_slash,
    dropSlashes_of_getLast?_ne notTrailing]

theorem isAbsolute_middle (path : Text) :
    isAbsolute (middle path) = false := by
  have isStart : middle path <+: path.dropWhile isSlash :=
    (prefix_dropSlashes _).trans
      (List.IsPrefix.trans ⟨_, beforeLastPiece_append_lastPiece _⟩ (prefix_dropSlashes _))
  have notSlash := List.head?_dropWhile_not isSlash path
  obtain ⟨rest, rest_eq⟩ := isStart
  cases middle_eq : middle path with
  | nil => rfl
  | cons c front =>
      rw [← rest_eq, middle_eq] at notSlash
      simpa [isAbsolute] using notSlash

/-- A path that holds more than slashes has the components of its middle, and its last one. -/
theorem components_of_dropSlashes_ne (notEmpty : dropSlashes path ≠ []) :
    components path = components (middle path) ++ [basename path] := by
  have components_eq : components path =
      components (beforeLastPiece (dropSlashes path)) ++ [basename path] := by
    rw [basename_of_dropSlashes_ne notEmpty,
      ← components_beforeLastPiece (lastPiece_dropSlashes notEmpty), components_dropSlashes]
  rw [components_middle, components_eq, List.dropLast_concat]

/-- The directory of a path leads to its middle; a dot that stands for nothing leads nowhere. -/
theorem settle_components_dirname (path : Text) (names : List Text) :
    settle (components (dirname path) ++ names) = settle (components (middle path) ++ names) := by
  cases isAbsolute_eq : isAbsolute path with
  | true =>
      rw [dirname_of_isAbsolute isAbsolute_eq, components_slash_cons]
  | false =>
      rw [dirname_of_isRelative isAbsolute_eq]
      split
      · rename_i isEmpty
        rw [isEmpty]
        rfl
      · rfl

/-! ## Splitting and joining -/

theorem doubled_slash_iff (path : Text) :
    ['/', '/'] <+: '/' :: path ↔ isAbsolute path = true := by
  rw [List.cons_prefix_cons, isAbsolute_iff]
  cases path <;> simp [List.cons_prefix_cons, eq_comm]

theorem dirname_append_slash
    (isName : IsName name)
    (notEmpty : directory ≠ [])
    (notDoubled : ¬['/', '/'] <+: directory)
    (notTrailing : directory.getLast? ≠ some '/') :
    dirname (directory ++ '/' :: name) = directory := by
  cases isAbsolute_eq : isAbsolute directory with
  | false =>
      have startsRelative : isAbsolute (directory ++ '/' :: name) = false := by
        rwa [isAbsolute_append_of_ne_nil notEmpty]
      rw [dirname_of_isRelative startsRelative,
        middle_append_slash isAbsolute_eq notEmpty notTrailing isName, if_neg notEmpty]
  | true =>
      obtain ⟨rest, rfl⟩ := List.head?_eq_some_iff.mp (isAbsolute_iff.mp isAbsolute_eq)
      have hasRest : rest ≠ [] := by
        rintro rfl
        exact notTrailing rfl
      have restRelative : isAbsolute rest = false := by
        rwa [doubled_slash_iff, Bool.not_eq_true] at notDoubled
      have restNotTrailing : rest.getLast? ≠ some '/' := by
        rwa [List.getLast?_cons_of_ne_nil hasRest] at notTrailing
      rw [List.cons_append, dirname_of_isAbsolute rfl, middle_slash_cons,
        middle_append_slash restRelative hasRest restNotTrailing isName]

/-- The directory of a canonical path has all names but the last. -/
theorem dirname_ofComponents_concat
    {front : List Text}
    (areProper : ∀ other ∈ front ++ [name], IsProper other) :
    dirname (ofComponents (front ++ [name])) = ofComponents front := by
  have isName : IsName name := (areProper name (by simp)).toIsName
  have areNames : ∀ other ∈ front, IsName other := fun other isMember =>
    (areProper other (by simp [isMember])).toIsName
  rw [ofComponents_eq_slashed (by simp), slashed_append]
  cases front with
  | nil =>
      rw [slashed_nil, List.nil_append, slashed_cons, dirname_of_isAbsolute rfl, slashed_nil,
        List.append_nil, middle_slash_cons, middle_of_isName isName]
      rfl
  | cons first more =>
      have notDoubled : ¬['/', '/'] <+: slashed (first :: more) := by
        have isFirst := areNames first List.mem_cons_self
        rw [slashed_cons, doubled_slash_iff, isAbsolute_append_of_ne_nil isFirst.notEmpty,
          isAbsolute_of_isName isFirst]
        simp
      rw [slashed_cons name, slashed_nil, List.append_nil, ofComponents_eq_slashed (by simp)]
      exact dirname_append_slash isName (by simp) notDoubled (getLast?_slashed_ne areNames)

theorem IsCanonical.dirname
    (isCanonical : IsCanonical path) :
    IsCanonical (dirname path) := by
  obtain ⟨names, areProper, rfl⟩ := isCanonical
  rcases List.eq_nil_or_concat names with rfl | ⟨front, name, rfl⟩
  · exact ⟨[], by simp, rfl⟩
  · rw [List.concat_eq_append] at areProper ⊢
    rw [dirname_ofComponents_concat areProper]
    exact ⟨front, fun other isMember => areProper other (by simp [isMember]), rfl⟩

/-- A normal pair comes back from splitting what joining makes of it. -/
theorem split_join (isNormal : IsNormalPair directory name) :
    split (join [directory, name]) = (directory, name) := by
  cases isNormal with
  | root => rfl
  | name isName notEmpty notDoubled notTrailing =>
      have isRelative := isAbsolute_of_isName isName
      rw [join, List.foldl_cons, List.foldl_nil, append, if_neg (by simp [isRelative])]
      split
      · rename_i isTrailing
        obtain rfl := notTrailing isTrailing
        have dirname_eq : dirname (['/'] ++ name) = '/' :: middle ('/' :: name) :=
          dirname_of_isAbsolute rfl
        rw [split, dirname_eq, middle_slash_cons, middle_of_isName isName]
        exact congrArg _ (basename_append_slash isName [])
      · rename_i isOther
        rw [split, dirname_append_slash isName notEmpty notDoubled isOther,
          basename_append_slash isName]

/-- A path of slashes only is split into the root twice. -/
theorem split_of_dropSlashes_eq_nil
    (notEmpty : path ≠ [])
    (onlySlashes : dropSlashes path = []) :
    split path = (['/'], ['/']) := by
  obtain ⟨slashes, path_eq, areSlashes⟩ := exists_slashes path
  rw [onlySlashes, List.nil_append] at path_eq
  subst path_eq
  obtain ⟨c, rest, rfl⟩ := List.exists_cons_of_ne_nil notEmpty
  obtain rfl : c = '/' := by simpa [isSlash] using areSlashes c List.mem_cons_self
  have dropped : ('/' :: rest).dropWhile isSlash = [] := by
    rw [← List.append_nil ('/' :: rest), List.dropWhile_append_of_pos areSlashes]
    rfl
  have dirname_eq : dirname ('/' :: rest) = ['/'] := by
    rw [dirname_of_isAbsolute rfl, middle, dropped]
    rfl
  have basename_eq : basename ('/' :: rest) = ['/'] := by
    rw [basename, onlySlashes]
    rfl
  rw [split, dirname_eq, basename_eq]

theorem isNormalPair_dirname
    (isName : IsName name)
    (path : Text) :
    IsNormalPair (dirname path) name := by
  have notTrailing : (middle path).getLast? ≠ some '/' := getLast?_dropSlashes_ne _
  have startsRelative := isAbsolute_middle path
  cases isAbsolute_eq : isAbsolute path with
  | true =>
      rw [dirname_of_isAbsolute isAbsolute_eq]
      refine .name isName (by simp) (by rw [doubled_slash_iff, startsRelative]; simp) ?_
      by_cases isEmpty : middle path = []
      · rw [isEmpty]
        exact fun _ => rfl
      · rw [List.getLast?_cons_of_ne_nil isEmpty]
        exact fun isTrailing => absurd isTrailing notTrailing
  | false =>
      rw [dirname_of_isRelative isAbsolute_eq]
      split
      · exact .name isName (by simp) (by decide) (by decide)
      · rename_i notEmpty
        refine .name isName notEmpty ?_ fun isTrailing => absurd isTrailing notTrailing
        rintro ⟨rest, rest_eq⟩
        rw [← rest_eq] at startsRelative
        cases startsRelative

theorem isNormalPair_split (notEmpty : path ≠ []) :
    IsNormalPair (split path).1 (split path).2 := by
  by_cases onlySlashes : dropSlashes path = []
  · rw [split_of_dropSlashes_eq_nil notEmpty onlySlashes]
    exact .root
  · exact isNormalPair_dirname (isName_basename onlySlashes) path

/-- A path that has been split and joined resolves like before. -/
theorem resolve_join_split (notEmpty : path ≠ []) :
    resolve (join [dirname path, basename path]) = resolve path := by
  rw [join, List.foldl_cons, List.foldl_nil, resolve, resolve, components_append]
  by_cases onlySlashes : dropSlashes path = []
  · obtain ⟨dirname_eq, basename_eq⟩ :=
      Prod.mk.inj (split_of_dropSlashes_eq_nil notEmpty onlySlashes)
    rw [dirname_eq, basename_eq, ← components_dropSlashes path, onlySlashes]
    rfl
  · rw [settle_components_dirname, components_of_isName (isName_basename onlySlashes),
      ← components_of_dropSlashes_ne onlySlashes]

/-- Splitting inverts joining on normal pairs, and splits every path but the empty one into such a
pair; so joining inverts splitting up to what splitting and resolving do not see. -/
theorem split_inverts_join :
    (∀ directory name, IsNormalPair directory name →
        split (join [directory, name]) = (directory, name)) ∧
      ∀ path, path ≠ [] →
        IsNormalPair (split path).1 (split path).2 ∧
          split (join [dirname path, basename path]) = split path ∧
          resolve (join [dirname path, basename path]) = resolve path := by
  refine ⟨fun _ _ => split_join, fun path notEmpty => ?_⟩
  have isNormal := isNormalPair_split notEmpty
  exact ⟨isNormal, split_join isNormal, resolve_join_split notEmpty⟩

/-- A directory with a run of slashes inside; a path with runs everywhere, which keeps only the one
inside of its directory. -/
theorem split_inverts_join_at_runs :
    split (join [['/', 'a', '/', '/', 'b'], ['.', '.']]) =
        (['/', 'a', '/', '/', 'b'], ['.', '.']) ∧
      split ['/', '/', 'a', '/', '/', 'b', '/', '/', 'c', '/', '/'] =
        (['/', 'a', '/', '/', 'b'], ['c']) ∧
      split (join [['/', 'a', '/', '/', 'b'], ['c']]) = (['/', 'a', '/', '/', 'b'], ['c']) ∧
      resolve (join [['/', 'a', '/', '/', 'b'], ['c']]) =
        resolve ['/', '/', 'a', '/', '/', 'b', '/', '/', 'c', '/', '/'] := by
  have split_eq : split ['/', '/', 'a', '/', '/', 'b', '/', '/', 'c', '/', '/'] =
      (['/', 'a', '/', '/', 'b'], ['c']) := by decide
  have isNormal : IsNormalPair ['/', 'a', '/', '/', 'b'] ['.', '.'] :=
    .name ⟨by decide, by decide⟩ (by decide) (by decide) (by decide)
  obtain ⟨inverts, ofPath⟩ := split_inverts_join
  obtain ⟨-, sameSplit, samePlace⟩ :=
    ofPath ['/', '/', 'a', '/', '/', 'b', '/', '/', 'c', '/', '/'] (by decide)
  exact ⟨inverts _ _ isNormal, split_eq, sameSplit.trans split_eq, samePlace⟩

end Path
end FilePaths
