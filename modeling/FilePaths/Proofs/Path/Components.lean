import FilePaths.Path.Join
import FilePaths.Proofs.Text.Ends

/-!
# Components of absolute paths

An absolute path is its components with a slash in front of each.  Joining paths puts their
components one behind the other, and resolving a path gives a canonical one: its components are
names, and none of them is a dot or a pair of dots.
-/

namespace FilePaths
namespace Path

/-- What can stand between two slashes and counts. -/
structure IsName (name : Text) : Prop where
  notEmpty : name ≠ []
  noSlash : '/' ∉ name

/-- A name that stands for an entry of a directory. -/
structure IsProper (name : Text) : Prop extends IsName name where
  notDot : name ≠ ['.']
  notUp : name ≠ ['.', '.']

/-- Names with a slash in front of each. -/
def slashed (names : List Text) : Text :=
  names.flatMap fun name => '/' :: name

@[simp] theorem slashed_nil :
    slashed [] = [] := rfl

@[simp] theorem slashed_cons (name : Text) (names : List Text) :
    slashed (name :: names) = '/' :: (name ++ slashed names) := rfl

@[simp] theorem slashed_append (front behind : List Text) :
    slashed (front ++ behind) = slashed front ++ slashed behind :=
  List.flatMap_append

theorem slashed_eq_nil_iff {names : List Text} :
    slashed names = [] ↔ names = [] := by
  cases names <;> simp

theorem ofComponents_eq_slashed {names : List Text} (notEmpty : names ≠ []) :
    ofComponents names = slashed names := by
  cases names with
  | nil => contradiction
  | cons name names => rfl

/-- An absolute path without an empty component, a dot or a pair of dots. -/
def IsCanonical (path : Text) : Prop :=
  ∃ names, (∀ name ∈ names, IsProper name) ∧ path = ofComponents names

/-! ## Splitting -/

theorem splitAt_ne_nil (text : Text) :
    Text.splitAt isSlash text ≠ [] := by
  cases text with
  | nil => simp [Text.splitAt]
  | cons c rest =>
      rw [Text.splitAt]
      split
      · simp
      · split <;> simp

theorem splitAt_append_slash (front rest : Text) :
    Text.splitAt isSlash (front ++ '/' :: rest) =
      Text.splitAt isSlash front ++ Text.splitAt isSlash rest := by
  induction front with
  | nil => simp [Text.splitAt, isSlash]
  | cons c front ih =>
      simp only [List.cons_append, Text.splitAt, ih]
      cases isSlash c with
      | true => rfl
      | false =>
          cases pieces_eq : Text.splitAt isSlash front with
          | nil => exact absurd pieces_eq (splitAt_ne_nil front)
          | cons piece pieces => rfl

/-- The pieces between slashes, with slashes between them, are the text. -/
theorem intersperse_splitAt (text : Text) :
    Text.intersperse ['/'] (Text.splitAt isSlash text) = text := by
  induction text with
  | nil => rfl
  | cons c rest ih =>
      obtain ⟨piece, pieces, pieces_eq⟩ := List.exists_cons_of_ne_nil (splitAt_ne_nil rest)
      rw [pieces_eq] at ih
      rw [Text.splitAt, pieces_eq]
      split
      · rename_i isSeparator
        have isHere : c = '/' := by simpa [isSlash] using isSeparator
        change '/' :: Text.intersperse ['/'] (piece :: pieces) = c :: rest
        rw [ih, isHere]
      · rw [← ih]
        cases pieces <;> rfl

theorem splitAt_injective : Function.Injective (Text.splitAt isSlash) :=
  Function.LeftInverse.injective intersperse_splitAt

/-- Changing characters does not move the cuts of a text if it keeps the test for them. -/
theorem splitAt_map
    {test : Char → Bool}
    {change : Char → Char}
    (same : ∀ c, test (change c) = test c)
    (text : Text) :
    Text.splitAt test (text.map change) = (Text.splitAt test text).map (List.map change) := by
  induction text with
  | nil => rfl
  | cons c rest ih =>
      rw [List.map_cons, Text.splitAt, Text.splitAt, same, ih]
      cases test c with
      | true => rfl
      | false => cases Text.splitAt test rest <;> rfl

theorem splitAt_of_noSlash {text : Text} (noSlash : '/' ∉ text) :
    Text.splitAt isSlash text = [text] := by
  induction text with
  | nil => rfl
  | cons c rest ih =>
      obtain ⟨isOther, noSlash⟩ := not_or.mp (mt List.mem_cons.mpr noSlash)
      have notSlash : isSlash c = false := by simpa [isSlash] using Ne.symm isOther
      simp [Text.splitAt, notSlash, ih noSlash]

theorem noSlash_of_mem_splitAt
    {text piece : Text}
    (isMember : piece ∈ Text.splitAt isSlash text) :
    '/' ∉ piece := by
  induction text generalizing piece with
  | nil => simp_all [Text.splitAt]
  | cons c rest ih =>
      rw [Text.splitAt] at isMember
      split at isMember
      · rcases List.mem_cons.mp isMember with rfl | isMember
        · simp
        · exact ih isMember
      · rename_i notSlash
        have isOther : '/' ≠ c := by rintro rfl; simp [isSlash] at notSlash
        split at isMember
        · simp_all
        · rename_i first pieces pieces_eq
          rcases List.mem_cons.mp isMember with rfl | isMember
          · have := ih (pieces_eq ▸ List.mem_cons_self)
            simp [isOther, this]
          · exact ih (pieces_eq ▸ List.mem_cons_of_mem first isMember)

@[simp] theorem components_nil :
    components [] = [] := rfl

theorem components_append_slash (front rest : Text) :
    components (front ++ '/' :: rest) = components front ++ components rest := by
  simp only [components, Text.words, splitAt_append_slash, List.filter_append]

theorem components_slash_cons (rest : Text) :
    components ('/' :: rest) = components rest :=
  components_append_slash [] rest

theorem components_of_isName {name : Text} (isName : IsName name) :
    components name = [name] := by
  simp [components, Text.words, splitAt_of_noSlash isName.noSlash, isName.notEmpty]

theorem isName_of_mem_components {path name : Text} (isMember : name ∈ components path) :
    IsName name := by
  obtain ⟨isMember, notEmpty⟩ := List.mem_filter.mp isMember
  exact ⟨by simpa using notEmpty, noSlash_of_mem_splitAt isMember⟩

theorem components_append_slashed
    (front : Text)
    {names : List Text}
    (areNames : ∀ name ∈ names, IsName name) :
    components (front ++ slashed names) = components front ++ names := by
  induction names generalizing front with
  | nil => simp
  | cons name names ih =>
      obtain ⟨isName, areNames⟩ := List.forall_mem_cons.mp areNames
      rw [slashed_cons, components_append_slash, ih name areNames, components_of_isName isName]
      rfl

/-! ## Joining -/

theorem components_append_slashes
    (front : Text)
    {slashes : Text}
    (areSlashes : ∀ c ∈ slashes, isSlash c = true) :
    components (front ++ slashes) = components front := by
  induction slashes generalizing front with
  | nil => simp
  | cons c slashes ih =>
      obtain ⟨isHere, areBehind⟩ := List.forall_mem_cons.mp areSlashes
      obtain rfl : c = '/' := by simpa [isSlash] using isHere
      rw [components_append_slash, ← List.nil_append slashes, ih [] areBehind]
      simp

theorem exists_slashes (path : Text) :
    ∃ slashes, path = dropSlashes path ++ slashes ∧ ∀ c ∈ slashes, isSlash c = true :=
  ⟨Text.takeEndWhile isSlash path, (Text.dropEndWhile_append_takeEndWhile isSlash path).symm,
    fun _ => Text.of_mem_takeEndWhile⟩

theorem components_dropSlashes (path : Text) :
    components (dropSlashes path) = components path := by
  obtain ⟨slashes, path_eq, areSlashes⟩ := exists_slashes path
  calc
    components (dropSlashes path) = components (dropSlashes path ++ slashes) :=
      (components_append_slashes _ areSlashes).symm
    _ = components path := congrArg components path_eq.symm

/-- Joining puts the components of a fragment behind those of the path. -/
theorem components_append (path fragment : Text) :
    components (append path fragment) = components path ++ components fragment := by
  unfold append
  split
  · rename_i startsAbsolute
    cases fragment with
    | nil => simp [isAbsolute] at startsAbsolute
    | cons c rest =>
        obtain rfl : c = '/' := by simpa [isAbsolute, isSlash] using startsAbsolute
        rw [components_append_slash, components_dropSlashes, components_slash_cons]
  · split
    · rename_i endsInSlash
      obtain ⟨front, rfl⟩ : ∃ front, path = front ++ ['/'] :=
        List.getLast?_eq_some_iff.mp endsInSlash
      rw [List.append_assoc, List.singleton_append, components_append_slash,
        components_append_slash]
      simp
    · exact components_append_slash path fragment

theorem isAbsolute_iff {path : Text} :
    isAbsolute path = true ↔ path.head? = some '/' := by
  cases path <;> simp [isAbsolute, isSlash]

theorem isAbsolute_append_of_ne_nil
    {path : Text}
    (notEmpty : path ≠ [])
    (rest : Text) :
    isAbsolute (path ++ rest) = isAbsolute path := by
  obtain ⟨c, path, rfl⟩ := List.exists_cons_of_ne_nil notEmpty
  rfl

theorem isAbsolute_append
    {path : Text}
    (notEmpty : path ≠ [])
    (fragment : Text) :
    isAbsolute (append path fragment) = isAbsolute path := by
  rw [append]
  split
  · -- If the path has nothing but slashes, the fragment brings the one in front.
    rename_i startsAbsolute
    obtain ⟨slashes, path_eq, areSlashes⟩ := exists_slashes path
    cases kept_eq : dropSlashes path with
    | nil =>
        rw [kept_eq, List.nil_append] at path_eq
        obtain ⟨c, rest, rfl⟩ := List.exists_cons_of_ne_nil notEmpty
        rw [List.nil_append, startsAbsolute]
        exact (areSlashes c (by simp [← path_eq])).symm
    | cons c kept =>
        rw [kept_eq] at path_eq
        rw [path_eq]
        rfl
  · split <;> exact isAbsolute_append_of_ne_nil notEmpty _

/-! ## Resolving -/

/-- One step of resolving: a component is put on those kept so far, the last one first. -/
def keep (kept : List Text) (component : Text) : List Text :=
  if component = ['.'] then kept
  else if component = ['.', '.'] then kept.drop 1
  else component :: kept

theorem settle_eq (names : List Text) :
    settle names = (names.foldl keep []).reverse := rfl

theorem keep_of_isProper
    (kept : List Text)
    {name : Text}
    (isProper : IsProper name) :
    keep kept name = name :: kept := by
  rw [keep, if_neg isProper.notDot, if_neg isProper.notUp]

theorem foldl_keep_of_isProper
    (kept : List Text)
    {names : List Text}
    (areProper : ∀ name ∈ names, IsProper name) :
    names.foldl keep kept = names.reverse ++ kept := by
  induction names generalizing kept with
  | nil => rfl
  | cons name names ih =>
      obtain ⟨isProper, areProper⟩ := List.forall_mem_cons.mp areProper
      rw [List.foldl_cons, keep_of_isProper kept isProper, ih (name :: kept) areProper]
      simp

theorem isProper_of_mem_keep
    {kept : List Text}
    {name : Text}
    (isName : IsName name)
    (areProper : ∀ name ∈ kept, IsProper name) :
    ∀ other ∈ keep kept name, IsProper other := by
  unfold keep
  split
  · exact areProper
  · split
    · exact fun other isMember => areProper other (List.mem_of_mem_drop isMember)
    · rename_i notDot notUp
      exact List.forall_mem_cons.mpr ⟨⟨isName, notDot, notUp⟩, areProper⟩

theorem isProper_of_mem_foldl_keep
    {kept names : List Text}
    (areNames : ∀ name ∈ names, IsName name)
    (areProper : ∀ name ∈ kept, IsProper name) :
    ∀ name ∈ names.foldl keep kept, IsProper name := by
  induction names generalizing kept with
  | nil => exact areProper
  | cons name names ih =>
      obtain ⟨isName, areNames⟩ := List.forall_mem_cons.mp areNames
      exact ih areNames (isProper_of_mem_keep isName areProper)

theorem isProper_of_mem_settle
    {names : List Text}
    (areNames : ∀ name ∈ names, IsName name) :
    ∀ name ∈ settle names, IsProper name := by
  intro name isMember
  rw [settle_eq, List.mem_reverse] at isMember
  exact isProper_of_mem_foldl_keep areNames (by simp) name isMember

/-- What is left of a path after resolving has no dots and no empty components. -/
theorem resolve_isCanonical (path : Text) :
    IsCanonical (resolve path) :=
  ⟨settle (components path), isProper_of_mem_settle fun _ => isName_of_mem_components, rfl⟩

theorem components_ofComponents
    {names : List Text}
    (areNames : ∀ name ∈ names, IsName name) :
    components (ofComponents names) = names := by
  by_cases isRoot : names = []
  · subst isRoot
    rfl
  · rw [ofComponents_eq_slashed isRoot]
    simpa using components_append_slashed [] areNames

theorem components_ofComponents_settle
    {names : List Text}
    (areNames : ∀ name ∈ names, IsName name) :
    components (ofComponents (settle names)) = settle names :=
  components_ofComponents fun name isMember =>
    (isProper_of_mem_settle areNames name isMember).toIsName

theorem components_resolve (path : Text) :
    components (resolve path) = settle (components path) :=
  components_ofComponents_settle fun _ => isName_of_mem_components

theorem settle_of_isProper
    {names : List Text}
    (areProper : ∀ name ∈ names, IsProper name) :
    settle names = names := by
  rw [settle_eq, foldl_keep_of_isProper [] areProper, List.append_nil, List.reverse_reverse]

theorem settle_append
    {front : List Text}
    (areProper : ∀ name ∈ front, IsProper name)
    (names : List Text) :
    settle (front ++ names) = (names.foldl keep front.reverse).reverse := by
  rw [settle_eq, List.foldl_append, foldl_keep_of_isProper [] areProper, List.append_nil]

/-- Proper names behind others stay as they are. -/
theorem settle_append_of_isProper
    (front : List Text)
    {names : List Text}
    (areProper : ∀ name ∈ names, IsProper name) :
    settle (front ++ names) = settle front ++ names := by
  rw [settle_eq, List.foldl_append, foldl_keep_of_isProper _ areProper, List.reverse_append,
    List.reverse_reverse, ← settle_eq]

theorem foldl_keep_of_noUp
    (kept : List Text)
    {names : List Text}
    (noUp : ['.', '.'] ∉ names) :
    names.foldl keep kept = names.foldl keep [] ++ kept := by
  induction names generalizing kept with
  | nil => rfl
  | cons name names ih =>
      obtain ⟨isOther, noUp⟩ := not_or.mp (mt List.mem_cons.mpr noUp)
      have keep_eq : ∀ kept, keep kept name = keep [] name ++ kept := by
        intro kept
        rw [keep, keep, if_neg (Ne.symm isOther), if_neg (Ne.symm isOther)]
        split <;> rfl
      rw [List.foldl_cons, List.foldl_cons, ih (keep kept name) noUp, ih (keep [] name) noUp,
        keep_eq kept, List.append_assoc]

/-- Components without a pair of dots take nothing away from proper names before them. -/
theorem settle_append_of_noUp
    {front names : List Text}
    (areProper : ∀ name ∈ front, IsProper name)
    (noUp : ['.', '.'] ∉ names) :
    settle (front ++ names) = front ++ settle names := by
  rw [settle_append areProper, foldl_keep_of_noUp _ noUp, List.reverse_append,
    List.reverse_reverse, ← settle_eq]

theorem isAbsolute_ofComponents (names : List Text) :
    isAbsolute (ofComponents names) = true := by
  cases names <;> rfl

/-! ## Directories -/

theorem components_dropWhile_slash (path : Text) :
    components (path.dropWhile isSlash) = components path := by
  induction path with
  | nil => rfl
  | cons c path ih =>
      rw [List.dropWhile_cons]
      split
      · rename_i isHere
        obtain rfl : c = '/' := by simpa [isSlash] using isHere
        rw [ih, components_slash_cons]
      · rfl

theorem beforeLastPiece_append_lastPiece (path : Text) :
    beforeLastPiece path ++ lastPiece path = path :=
  Text.dropEndWhile_append_takeEndWhile (fun c => !isSlash c) path

theorem noSlash_lastPiece (path : Text) :
    '/' ∉ lastPiece path := by
  intro isMember
  have notSlash := Text.of_mem_takeEndWhile isMember
  simp [isSlash] at notSlash

theorem beforeLastPiece_endsInSlash (path : Text) :
    beforeLastPiece path = [] ∨ ∃ front, beforeLastPiece path = front ++ ['/'] := by
  refine (Text.dropEndWhile_cases (fun c => !isSlash c) path).imp_right ?_
  rintro ⟨front, c, front_eq, isKept⟩
  obtain rfl : c = '/' := by simpa [isSlash] using isKept
  exact ⟨front, front_eq⟩

/-- What does not end in a slash ends in its last piece. -/
theorem components_beforeLastPiece
    {path : Text}
    (hasPiece : lastPiece path ≠ []) :
    components path = components (beforeLastPiece path) ++ [lastPiece path] := by
  have isName : IsName (lastPiece path) := ⟨hasPiece, noSlash_lastPiece path⟩
  have components_eq :
      components (beforeLastPiece path ++ lastPiece path) =
        components (beforeLastPiece path) ++ [lastPiece path] := by
    rcases beforeLastPiece_endsInSlash path with front_eq | ⟨front, front_eq⟩
    · rw [front_eq, List.nil_append, components_of_isName isName]
      rfl
    · rw [front_eq, List.append_assoc, List.singleton_append, components_append_slash,
        components_of_isName isName, components_append_slash]
      simp
  rw [beforeLastPiece_append_lastPiece] at components_eq
  exact components_eq

theorem lastPiece_dropSlashes
    {path : Text}
    (notEmpty : dropSlashes path ≠ []) :
    lastPiece (dropSlashes path) ≠ [] := by
  rw [lastPiece, dropSlashes, Text.dropEndWhile, Text.takeEndWhile, List.reverse_reverse]
  rw [dropSlashes, Text.dropEndWhile] at notEmpty
  cases rest_eq : path.reverse.dropWhile isSlash with
  | nil => exact absurd (by rw [rest_eq]; rfl) notEmpty
  | cons c rest =>
      have notSlash := List.head?_dropWhile_not isSlash path.reverse
      rw [rest_eq] at notSlash
      simp only [List.head?_cons] at notSlash
      simp [notSlash]

/-- What stands between the slashes in front of a path and its last component, without slashes at
the end. -/
def middle (path : Text) : Text :=
  dropSlashes (beforeLastPiece (dropSlashes (path.dropWhile isSlash)))

theorem components_middle (path : Text) :
    components (middle path) = (components path).dropLast := by
  have components_eq : components path = components (dropSlashes (path.dropWhile isSlash)) := by
    rw [components_dropSlashes, components_dropWhile_slash]
  rw [middle, components_dropSlashes, components_eq]
  by_cases isRoot : dropSlashes (path.dropWhile isSlash) = []
  · rw [isRoot]
    rfl
  · rw [components_beforeLastPiece (lastPiece_dropSlashes isRoot), List.dropLast_concat]

theorem dirname_of_isAbsolute
    {path : Text}
    (startsAbsolute : isAbsolute path = true) :
    dirname path = '/' :: middle path := by
  cases path with
  | nil => cases startsAbsolute
  | cons c rest =>
      obtain rfl : c = '/' := by simpa [isAbsolute, isSlash] using startsAbsolute
      have isHere : isSlash '/' = true := rfl
      simp [dirname, middle, isHere]

theorem isAbsolute_dirname
    {path : Text}
    (startsAbsolute : isAbsolute path = true) :
    isAbsolute (dirname path) = true := by
  rw [dirname_of_isAbsolute startsAbsolute]
  rfl

/-- The directory of an absolute path has all components but the last. -/
theorem components_dirname
    {path : Text}
    (startsAbsolute : isAbsolute path = true) :
    components (dirname path) = (components path).dropLast := by
  rw [dirname_of_isAbsolute startsAbsolute, components_slash_cons, components_middle]

/-! ## Starts of a path -/

/-- The first text is a start of the path that ends where a component ends, and the second text
is what stands behind it. -/
structure IsStart (start rest path : Text) : Prop where
  notEmpty : start ≠ []
  path_eq : path = start ++ rest
  atSlash : rest = [] ∨ rest.head? = some '/'

theorem IsStart.isAbsolute
    {start rest path : Text}
    (isStart : IsStart start rest path)
    (startsAbsolute : Path.isAbsolute path = true) :
    Path.isAbsolute start = true := by
  obtain ⟨notEmpty, rfl, -⟩ := isStart
  obtain ⟨c, start, rfl⟩ := List.exists_cons_of_ne_nil notEmpty
  exact startsAbsolute

theorem atSlash_slashed (names : List Text) :
    slashed names = [] ∨ (slashed names).head? = some '/' := by
  cases names <;> simp

/-- The starts of a path are made from the first of its components. -/
theorem isStart_slashed_iff
    {names : List Text}
    (noSlash : ∀ name ∈ names, '/' ∉ name)
    {start rest : Text} :
    IsStart start rest (slashed names) ↔
      ∃ front behind, front ≠ [] ∧ names = front ++ behind ∧ start = slashed front ∧
        rest = slashed behind := by
  constructor
  · intro isStart
    induction names generalizing start with
    | nil =>
        obtain ⟨notEmpty, path_eq, -⟩ := isStart
        exact absurd (List.append_eq_nil_iff.mp path_eq.symm).1 notEmpty
    | cons name names ih =>
        obtain ⟨noneHere, noSlash⟩ := List.forall_mem_cons.mp noSlash
        obtain ⟨notEmpty, path_eq, atSlash⟩ := isStart
        obtain ⟨c, start, rfl⟩ := List.exists_cons_of_ne_nil notEmpty
        rw [slashed_cons, List.cons_append, List.cons.injEq] at path_eq
        obtain ⟨rfl, path_eq⟩ := path_eq
        rcases List.append_eq_append_iff.mp path_eq with
          ⟨more, rfl, more_eq⟩ | ⟨more, rfl, rfl⟩
        · by_cases isAll : more = []
          · subst isAll
            exact ⟨[name], names, by simp, rfl, by simp, by simpa using more_eq.symm⟩
          · obtain ⟨front, behind, -, rfl, rfl, rfl⟩ := ih noSlash ⟨isAll, more_eq, atSlash⟩
            exact ⟨name :: front, behind, by simp, rfl, by simp, rfl⟩
        · -- A start that ends inside of a name has no slash behind it.
          obtain rfl : more = [] := by
            cases more with
            | nil => rfl
            | cons c more => simp_all
          exact ⟨[start], names, by simp, by simp, by simp, by simp⟩
  · rintro ⟨front, behind, notEmpty, rfl, rfl, rfl⟩
    exact ⟨mt slashed_eq_nil_iff.mp notEmpty, slashed_append front behind,
      atSlash_slashed behind⟩

/-! ## Paths piece by piece -/

/-- The pieces of an absolute path, as it can be taken apart slash by slash: only the last one
may be empty. -/
structure IsTrack (names : List Text) : Prop where
  noSlash : ∀ name ∈ names, '/' ∉ name
  notEmpty : ∀ name ∈ names.dropLast, name ≠ []

/-- A canonical path has such pieces; the root is a single empty one. -/
theorem IsCanonical.exists_isTrack {path : Text} (isCanonical : IsCanonical path) :
    ∃ names, IsTrack names ∧ names ≠ [] ∧ path = slashed names := by
  obtain ⟨names, areProper, rfl⟩ := isCanonical
  by_cases isRoot : names = []
  · subst isRoot
    exact ⟨[[]], ⟨by simp, by simp⟩, by simp, rfl⟩
  · refine ⟨names, ⟨fun name isMember => (areProper name isMember).noSlash,
      fun name isMember => ?_⟩, isRoot, ofComponents_eq_slashed isRoot⟩
    exact (areProper name ((List.dropLast_prefix names).subset isMember)).notEmpty

theorem IsTrack.isName_of_mem_front
    {front behind : List Text}
    {name : Text}
    (isTrack : IsTrack (front ++ name :: behind)) :
    ∀ other ∈ front, IsName other := by
  intro other isMember
  have isBefore : other ∈ (front ++ name :: behind).dropLast := by
    rw [List.dropLast_append_of_ne_nil (by simp)]
    exact List.mem_append_left _ isMember
  exact ⟨isTrack.notEmpty other isBefore,
    isTrack.noSlash other (List.mem_append_left _ isMember)⟩

theorem dropSlashes_append_name
    (front : Text)
    {name : Text}
    (isName : IsName name) :
    dropSlashes (front ++ name) = front ++ name := by
  obtain ⟨start, c, rfl⟩ : ∃ start c, name = start ++ [c] :=
    ⟨_, _, (List.dropLast_concat_getLast isName.notEmpty).symm⟩
  have notSlash : isSlash c = false := by
    have noSlash := isName.noSlash
    simp only [List.mem_append, List.mem_singleton, not_or] at noSlash
    simpa [isSlash] using Ne.symm noSlash.2
  simp [dropSlashes, Text.dropEndWhile, notSlash]

theorem dropSlashes_slashed
    {names : List Text}
    (areNames : ∀ name ∈ names, IsName name) :
    dropSlashes (slashed names) = slashed names := by
  by_cases isRoot : names = []
  · subst isRoot
    rfl
  · obtain ⟨front, name, rfl⟩ : ∃ front name, names = front ++ [name] :=
      ⟨_, _, (List.dropLast_concat_getLast isRoot).symm⟩
    have slashed_eq : slashed (front ++ [name]) = (slashed front ++ ['/']) ++ name := by simp
    rw [slashed_eq]
    exact dropSlashes_append_name _ (areNames name (by simp))

theorem getLast?_dropSlashes_ne (path : Text) :
    (dropSlashes path).getLast? ≠ some '/' := by
  rcases Text.dropEndWhile_cases isSlash path with isEmpty | ⟨front, c, front_eq, isKept⟩
  · rw [dropSlashes, isEmpty]
    simp
  · rw [dropSlashes, front_eq, List.getLast?_concat]
    rintro ⟨⟩
    cases isKept

theorem getLast?_slashed_ne
    {names : List Text}
    (areNames : ∀ name ∈ names, IsName name) :
    (slashed names).getLast? ≠ some '/' := by
  rw [← dropSlashes_slashed areNames]
  exact getLast?_dropSlashes_ne _

theorem isAbsolute_slashed
    {names : List Text}
    (notEmpty : names ≠ []) :
    isAbsolute (slashed names) = true := by
  cases names with
  | nil => contradiction
  | cons name names => rfl

theorem components_slashed
    {names : List Text}
    (areNames : ∀ name ∈ names, IsName name) :
    components (slashed names) = names := by
  simpa using components_append_slashed [] areNames

/-- Joining a piece with its slash puts it behind. -/
theorem join_slashed
    {front : List Text}
    (areNames : ∀ name ∈ front, IsName name)
    (name : Text) :
    join [slashed front, '/' :: name] = slashed (front ++ [name]) := by
  have isAbsolute_eq : isAbsolute ('/' :: name) = true := rfl
  simp [join, append, isAbsolute_eq, dropSlashes_slashed areNames]

theorem notSlash_of_mem
    {name : Text}
    (noSlash : '/' ∉ name) :
    ∀ c ∈ name, (!isSlash c) = true := by
  intro c isMember
  have isOther : c ≠ '/' := by rintro rfl; exact noSlash isMember
  simpa [isSlash] using isOther

theorem takeWhile_notSlash
    {name : Text}
    (noSlash : '/' ∉ name)
    (behind : List Text) :
    (name ++ slashed behind).takeWhile (fun c => !isSlash c) = name := by
  rw [List.takeWhile_append_of_pos (notSlash_of_mem noSlash)]
  cases behind <;> simp [isSlash]

theorem dropWhile_notSlash
    {name : Text}
    (noSlash : '/' ∉ name)
    (behind : List Text) :
    (name ++ slashed behind).dropWhile (fun c => !isSlash c) = slashed behind := by
  rw [List.dropWhile_append_of_pos (notSlash_of_mem noSlash)]
  cases behind <;> simp [isSlash]

end Path
end FilePaths
