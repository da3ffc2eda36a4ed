import FilePaths.Proofs.Path.Canonical
import FilePaths.Proofs.Symlink.Walk
import FilePaths.Proofs.System.Tree.Dots
import FilePaths.Proofs.System.Tree.Still

/-!
# Walking and asking the system

A walk resolves dots on the text, before links are followed; the system takes a pair of dots to
the parent of the directory that it has come to.  On a tree that nothing changes both find the
same file as long as no pair of dots takes back a name that leads to a symbolic link.  What is
kept from substitution to substitution is the trail that the names of the path lead to.
-/

namespace FilePaths

/-- No pair of dots takes back a symbolic link: not in the path, and not in the target of a link
that is replaced on the way, which stands behind the directory of the link. -/
structure Tree.TakesNoLinkBack (tree : Tree) (path : Text) : Prop where
  inPath : tree.KeepsLinks [] (Path.components path)
  inTargets : ∀ links reached link rest target,
    Symlink.Leads tree.still (Path.resolve path) links reached →
    Symlink.FirstLink tree.still reached link rest →
    (tree.still.readlink link ()).1 = .ok target →
    tree.KeepsLinks
      (if Path.isAbsolute target then [] else (Path.components (Path.dirname link)).reverse)
      (Path.components target)

namespace Symlink

variable {tree : Tree} {final : Tree.Trail}

/-! ## Up to the first link -/

theorem names_slashed
    {names : List Text}
    (areNames : ∀ name ∈ names, Path.IsName name) :
    Tree.names (Path.slashed names) = names := by
  rw [Tree.names, if_neg (Path.getLast?_slashed_ne areNames), Path.components_slashed areNames,
    List.append_nil]

/-- Pieces that a walk has passed are entered one after the other. -/
theorem exists_enters
    {start : Tree.Trail}
    (front : List Text)
    {middle behind : List Text}
    (areProper : ∀ name ∈ front ++ middle, Path.IsProper name)
    (passed : Passed tree.still (front ++ middle))
    (enters : tree.Enters [] front start)
    (passes : tree.Passes start (middle ++ behind) final) :
    ∃ trail, tree.Enters [] (front ++ middle) trail ∧ tree.Passes trail behind final := by
  induction middle generalizing front start with
  | nil => exact ⟨start, by simpa using enters, passes⟩
  | cons name middle ih =>
      have isProper : Path.IsProper name := areProper name (by simp)
      have areNames : ∀ other ∈ front ++ [name], Path.IsName other := by
        intro other isMember
        refine (areProper other ?_).toIsName
        rw [List.append_cons]
        exact List.mem_append_left _ isMember
      cases passes with
      | step here passes =>
          obtain ⟨number, hasEntry⟩ := Tree.exists_hasEntry_of_pass? here isProper
          have gives := passed (front ++ [name]) ⟨middle, by simp⟩ (by simp)
          have found : tree.lookUp false Tree.linkLimit []
              (Tree.names (Path.slashed (front ++ [name]))) = .ok ((name, number) :: start) := by
            rw [names_slashed areNames, enters.lookUp_append, Tree.lookUp_last hasEntry isProper]
          have noLink : tree.target? number = none :=
            Tree.noLink_of_isSymlink (Path.isAbsolute_slashed (by simp)) gives found
          rw [Tree.pass?_of_hasEntry hasEntry isProper, noLink] at here
          cases here
          rw [List.append_cons] at areProper passed ⊢
          have enters := enters.concat hasEntry isProper noLink
          exact ih (front ++ [name]) areProper passed enters passes

/-- A path without links is the path of the trail that its names lead to. -/
theorem path_eq_of_isLinkFree
    {path : Text}
    (isCanonical : Path.IsCanonical path)
    (isLinkFree : IsLinkFree tree.still path)
    (passes : tree.Passes [] (Path.components path) final) :
    final.path = path := by
  obtain ⟨names, areProper, rfl⟩ := isCanonical
  have areNames : ∀ name ∈ names, Path.IsName name :=
    fun name isMember => (areProper name isMember).toIsName
  rw [Path.components_ofComponents areNames] at passes
  by_cases isRoot : names = []
  · subst isRoot
    cases passes
    rfl
  · rw [Path.ofComponents_eq_slashed isRoot] at isLinkFree
    have passed : Passed tree.still names :=
      (isLinkFree_slashed_iff fun name isMember => (areNames name isMember).noSlash).mp isLinkFree
    rw [← List.append_nil names] at passes
    obtain ⟨trail, enters, passes⟩ :=
      exists_enters [] areProper passed (.refl []) passes
    cases passes
    have names_eq := enters.map_fst
    rw [Tree.Trail.path, List.map_reverse, names_eq]
    simp

/-! ## From link to link -/

/-- What a link is replaced by has the components of its directory, if the target is relative,
those of the target and those behind the link, all of them settled. -/
theorem components_of_expand
    {World : Type}
    {system : System World}
    {scene : Scene World}
    {front behind : List Text}
    {directory target after : Text}
    (areProper : ∀ name ∈ front, Path.IsProper name)
    (areNames : ∀ name ∈ behind, Path.IsName name)
    (notEmpty : target ≠ [])
    (isAbsolute : Path.isAbsolute directory = true)
    (directory_eq : Path.components directory = front)
    (after_eq :
      (Path.expand system false (some directory) (substituted target (Path.slashed behind))
        scene).1 = .ok after) :
    Path.components after =
      Path.settle ((if Path.isAbsolute target then [] else front) ++
        (Path.components target ++ behind)) := by
  rcases Path.exists_of_expandFrom (by simp) after_eq with
    ⟨startsAbsolute, rfl⟩ | ⟨isRelative, start, _, start_eq, rfl⟩
  · rw [isAbsolute_substituted notEmpty] at startsAbsolute
    rw [if_pos startsAbsolute, Path.components_resolve, components_substituted areNames]
    rfl
  · rw [isAbsolute_substituted notEmpty] at isRelative
    rcases Path.exists_of_expandFrom (by simp) start_eq with ⟨-, rfl⟩ | ⟨isOther, -⟩
    · rw [if_neg (by simp [isRelative]), Path.components_resolve, directory_eq,
        Path.settle_of_isProper areProper, components_substituted areNames]
      refine Path.components_ofComponents_settle fun name isMember => ?_
      simp only [List.mem_append] at isMember
      rcases isMember with isMember | isMember | isMember
      · exact (areProper name isMember).toIsName
      · exact Path.isName_of_mem_components isMember
      · exact areNames name isMember
    · rw [isAbsolute] at isOther
      cases isOther

theorem target?_of_isDirectory
    {number : Nat}
    (isDirectory : (tree.entries? number).isSome) :
    tree.target? number = none := by
  rw [Tree.entries?] at isDirectory
  rw [Tree.target?]
  cases inode_eq : tree.inode? number with
  | none => rfl
  | some inode =>
      rw [inode_eq] at isDirectory
      simp only [Option.bind_some] at isDirectory ⊢
      cases content_eq : inode.content <;> simp_all [Content.entries?, Content.target?]

/-- The root directory is no link. -/
theorem ne_root_of_replaces
    {path link after : Text}
    (replaces : Replaces tree.still path link after) :
    path ≠ Path.ofComponents [] := by
  rintro rfl
  obtain ⟨isFirst, reads, -⟩ := replaces
  have noSlash : ∀ name ∈ [([] : Text)], '/' ∉ name := by simp
  obtain ⟨front, name, behind, names_eq, rfl, -⟩ :=
    (firstAnswer_slashed_iff noSlash).mp isFirst
  obtain ⟨rfl, rfl, rfl⟩ : front = [] ∧ name = [] ∧ behind = [] := by
    cases front <;> simp_all
  obtain ⟨trail, found, isLink⟩ := Tree.exists_of_readlink rfl reads
  have names_eq : Tree.names (Path.slashed ([] ++ [[]])) = [['.']] := rfl
  rw [names_eq, Tree.lookUp] at found
  cases entries_eq : tree.entries? (Tree.Trail.number []) with
  | none =>
      rw [entries_eq] at found
      cases found
  | some entries =>
      rw [entries_eq] at found
      simp only [if_true, Tree.lookUp] at found
      obtain rfl := Except.ok.inj found
      rw [target?_of_isDirectory (by rw [entries_eq]; rfl)] at isLink
      cases isLink

/-- The walk and the system come to a link on the same trail, and both go on with its target. -/
theorem passes_target_of_passed
    {front behind : List Text}
    {name target : Text}
    (areProper : ∀ other ∈ front ++ name :: behind, Path.IsProper other)
    (passed : Passed tree.still front)
    (reads :
      Question.Answers (tree.still.readlink (Path.slashed (front ++ [name]))) (.ok target))
    (passes : tree.Passes [] (front ++ name :: behind) final) :
    target ≠ [] ∧
      tree.Passes []
        ((if Path.isAbsolute target then [] else front) ++
          (Path.components target ++ behind)) final := by
  have frontProper : ∀ other ∈ front, Path.IsProper other :=
    fun other isMember => areProper other (List.mem_append_left _ isMember)
  have isProper : Path.IsProper name := areProper name (by simp)
  have linkNames : ∀ other ∈ front ++ [name], Path.IsName other := by
    intro other isMember
    rw [List.append_cons] at areProper
    exact (areProper other (List.mem_append_left _ isMember)).toIsName
  obtain ⟨start, enters, passes⟩ := exists_enters [] frontProper passed (.refl []) passes
  rw [List.nil_append] at enters
  obtain ⟨number, hasEntry⟩ : ∃ number, tree.HasEntry start name number := by
    cases passes with
    | step here _ => exact Tree.exists_hasEntry_of_pass? here isProper
  obtain ⟨trail, found, isLink⟩ :=
    Tree.exists_of_readlink (Path.isAbsolute_slashed (by simp)) reads
  rw [names_slashed linkNames, enters.lookUp_append, Tree.lookUp_last hasEntry isProper] at found
  obtain rfl := Except.ok.inj found
  exact Tree.passes_target enters hasEntry isProper isLink passes

/-- Settling the dots of a target, behind the directory that it is read from, keeps the trail. -/
theorem passes_settle_of_keepsLinks
    {front behind : List Text}
    {target : Text}
    (frontProper : ∀ name ∈ front, Path.IsProper name)
    (behindProper : ∀ name ∈ behind, Path.IsProper name)
    (keeps :
      tree.KeepsLinks (if Path.isAbsolute target then [] else front.reverse)
        (Path.components target))
    (passes :
      tree.Passes []
        ((if Path.isAbsolute target then [] else front) ++
          (Path.components target ++ behind)) final) :
    tree.Passes []
      (Path.settle
        ((if Path.isAbsolute target then [] else front) ++
          (Path.components target ++ behind))) final := by
  have keepsAll := keeps.append fun isMember => (behindProper _ isMember).notUp rfl
  have baseProper : ∀ name ∈ (if Path.isAbsolute target then [] else front),
      Path.IsProper name := by
    split
    · simp
    · exact frontProper
  have reverse_eq : (if Path.isAbsolute target then [] else front.reverse) =
      (if Path.isAbsolute target then [] else front).reverse := by
    split <;> rfl
  rw [reverse_eq] at keepsAll
  rw [Path.settle_append baseProper]
  refine Tree.passes_settled (by simpa using baseProper) ?_ keepsAll (by simpa using passes)
  intro name isMember
  rcases List.mem_append.mp isMember with isMember | isMember
  · exact Path.isName_of_mem_components isMember
  · exact (behindProper name isMember).toIsName

/-- A substitution keeps the trail that the components of the path lead to. -/
theorem passes_of_replaces
    {path link after : Text}
    (isCanonical : Path.IsCanonical path)
    (replaces : Replaces tree.still path link after)
    (keeps : ∀ rest target, FirstLink tree.still path link rest →
      (tree.still.readlink link ()).1 = .ok target →
      tree.KeepsLinks
        (if Path.isAbsolute target then [] else (Path.components (Path.dirname link)).reverse)
        (Path.components target))
    (passes : tree.Passes [] (Path.components path) final) :
    tree.Passes [] (Path.components after) final := by
  have notRoot := ne_root_of_replaces replaces
  obtain ⟨isFirst, reads, expands⟩ := replaces
  rename_i rest target
  specialize keeps rest target isFirst (reads ())
  obtain ⟨names, areProper, rfl⟩ := isCanonical
  have areNames : ∀ name ∈ names, Path.IsName name :=
    fun name isMember => (areProper name isMember).toIsName
  rw [Path.components_ofComponents areNames] at passes
  rw [Path.ofComponents_eq_slashed (by rintro rfl; exact notRoot rfl)] at isFirst
  obtain ⟨front, name, behind, rfl, rfl, rfl, passed, -⟩ :=
    (firstAnswer_slashed_iff fun name isMember => (areNames name isMember).noSlash).mp isFirst
  have frontProper : ∀ other ∈ front, Path.IsProper other :=
    fun other isMember => areProper other (List.mem_append_left _ isMember)
  have behindProper : ∀ other ∈ behind, Path.IsProper other :=
    fun other isMember => areProper other (by simp [isMember])
  have linkAbsolute : Path.isAbsolute (Path.slashed (front ++ [name])) = true :=
    Path.isAbsolute_slashed (by simp)
  have directory_eq : Path.components (Path.dirname (Path.slashed (front ++ [name]))) = front := by
    rw [List.append_cons] at areNames
    rw [Path.components_dirname linkAbsolute,
      Path.components_slashed fun other isMember => areNames other (List.mem_append_left _ isMember),
      List.dropLast_concat]
  obtain ⟨notEmpty, passes⟩ := passes_target_of_passed areProper passed reads passes
  have after_eq := components_of_expand frontProper
    (fun other isMember => (behindProper other isMember).toIsName) notEmpty
    (Path.isAbsolute_dirname linkAbsolute) directory_eq (expands ⟨(), []⟩)
  rw [directory_eq] at keeps
  rw [after_eq]
  exact passes_settle_of_keepsLinks frontProper behindProper keeps passes

/-- From the start of a walk to its end the components lead to the same trail. -/
theorem passes_of_leads
    {start path : Text}
    {links : List Text}
    (isCanonical : Path.IsCanonical start)
    (keeps : ∀ links reached link rest target, Leads tree.still start links reached →
      FirstLink tree.still reached link rest → (tree.still.readlink link ()).1 = .ok target →
      tree.KeepsLinks
        (if Path.isAbsolute target then [] else (Path.components (Path.dirname link)).reverse)
        (Path.components target))
    (leads : Leads tree.still start links path)
    (passes : tree.Passes [] (Path.components start) final) :
    tree.Passes [] (Path.components path) final := by
  induction leads with
  | refl => exact passes
  | step replaces leads ih =>
      refine ih (replaces.isCanonical ⟨(), []⟩) ?_ ?_
      · intro links reached link rest target behind
        exact keeps _ reached link rest target (.step replaces behind)
      · refine passes_of_replaces isCanonical replaces ?_ passes
        intro rest target isFirst
        exact keeps [] _ _ rest target (.refl _) isFirst

/-! ## Both strategies -/

/-- A canonical path of an absolute path is found by the strategy, and there is a file. -/
theorem exists_of_realpath_eq_ok
    {World : Type}
    {system : System World}
    {scene : Scene World}
    {strategy : Strategy}
    {limit : Nat}
    {base? : Option Text}
    {path real : Text}
    (isAbsolute : Path.isAbsolute path = true)
    (real_eq : (realpath system strategy limit base? path scene).1 = .ok real) :
    ∃ before after, (canonical system strategy limit path before).1 = .ok real ∧
      (Query.fileExists system real after).1 = .ok true := by
  obtain ⟨target, before, after, target_eq, canonical_eq, isThere_eq⟩ := exists_of_realpath real_eq
  rw [target_eq isAbsolute] at canonical_eq
  exact ⟨before, after, canonical_eq, isThere_eq⟩

/-- A walk from an absolute path ends where the substitution reaches a path without links. -/
theorem exists_leads_of_walk
    {World : Type}
    {system : System World}
    {scene : Scene World}
    {limit : Nat}
    {path real : Text}
    (isSteady : system.IsSteady)
    (isAbsolute : Path.isAbsolute path = true)
    (walk_eq : (walk system limit none path scene).1 = .ok real) :
    ∃ links, Leads system (Path.resolve path) links real ∧ IsLinkFree system real := by
  have noTilde : ¬ (true = true ∧ path.head? = some '~') := by
    rintro ⟨-, isTilde⟩
    cases path <;> simp_all [Path.isAbsolute, Path.isSlash]
  obtain ⟨reads, resolves⟩ : ∃ reads, Resolves system limit none path (.ok real) reads :=
    ⟨_, (walk_ends_iff isSteady none scene).mp ⟨walk_eq, rfl⟩⟩
  cases resolves with
  | ends expands leads _ _ ending =>
      cases ending with
      | clear isLinkFree =>
          rcases Path.exists_of_expandFrom noTilde (expands scene) with
            ⟨-, rfl⟩ | ⟨isRelative, -⟩
          · exact ⟨_, leads, isLinkFree⟩
          · rw [isAbsolute] at isRelative
            cases isRelative

/-- A tree is always asked itself. -/
theorem realpath_eq_of_canonical
    {scene : Scene Unit}
    {limit : Nat}
    {path real : Text}
    (canonical_eq : (canonical tree.still .native limit path scene).1 = .ok real) :
    (tree.still.realpath path ()).1 = .ok real := by
  obtain ⟨answer, answer_eq, canonical_eq⟩ := Run.exists_of_bind_eq_ok canonical_eq
  obtain rfl : (tree.still.realpath path ()).1 = answer := Except.ok.inj answer_eq
  cases realpath_eq : (tree.still.realpath path ()).1 with
  | ok found =>
      rw [realpath_eq] at canonical_eq
      simpa using canonical_eq
  | error cause =>
      have notMissing : cause ≠ .notImplemented := by
        rintro rfl
        exact Tree.realpath_ne_notImplemented tree path realpath_eq
      rw [realpath_eq] at canonical_eq
      dsimp only at canonical_eq
      rw [if_neg notMissing] at canonical_eq
      cases canonical_eq

theorem stat_result_of_record
    {scene : Scene Tree}
    {path : Text}
    {record : SystemRecord}
    (stat_eq : (scene.world.still.stat path ()).1 = .ok record) :
    (Query.stat Tree.system path scene).1 = .ok (FileRecord.ofSystem record) := by
  have same_eq : (Tree.system.stat path scene.world).1 = .ok record := stat_eq
  rw [Query.stat, Run.bind_pure_result, Run.call]
  split <;> rename_i answer_eq <;> rw [answer_eq] at same_eq <;> cases same_eq
  rfl

/-- On a tree that nothing changes, where no pair of dots takes back a symbolic link, the canonical
path of an absolute path is the same by both strategies, and it is a path of the same file. -/
theorem realpath_strategies_agree
    (scene : Scene Tree)
    (limit : Nat)
    (base? : Option Text)
    (path real real' : Text)
    (isAbsolute : Path.isAbsolute path = true)
    (takesNoLinkBack : scene.world.TakesNoLinkBack path)
    (walked : (realpath Tree.system .walk limit base? path scene).1 = .ok real)
    (asked : (realpath Tree.system .native limit base? path scene).1 = .ok real') :
    real = real' ∧ ∃ record,
      (Query.stat Tree.system real scene).1 = .ok record ∧
        (Query.stat Tree.system path scene).1 = .ok record := by
  have alike := scene.world.still_resolvesAlike
  have sameWalk := (realpath_alike alike .walk limit base? path scene ⟨(), []⟩ rfl).1
  have sameCall := (realpath_alike alike .native limit base? path scene ⟨(), []⟩ rfl).1
  rw [sameWalk] at walked
  rw [sameCall] at asked
  obtain ⟨_, scene', canonical_eq, exists_eq⟩ := exists_of_realpath_eq_ok isAbsolute walked
  obtain ⟨_, _, canonical_eq', -⟩ := exists_of_realpath_eq_ok isAbsolute asked
  have isSteady := Tree.system.frozen_isSteady scene.world
  -- What the system comes to.
  obtain ⟨final, found, rfl, stat_eq⟩ :=
    Tree.exists_of_realpath isAbsolute (realpath_eq_of_canonical canonical_eq')
  -- What the walk comes to.
  obtain ⟨links, leads, isLinkFree⟩ := exists_leads_of_walk isSteady isAbsolute canonical_eq
  have atStart : Path.IsCanonical (Path.resolve path) := Path.resolve_isCanonical path
  have startPasses : scene.world.Passes [] (Path.components (Path.resolve path)) final := by
    rw [Path.components_resolve, Path.settle_eq]
    refine Tree.passes_settled (by simp) (fun _ => Path.isName_of_mem_components)
      takesNoLinkBack.inPath ?_
    exact Tree.passes_components (Tree.passes_of_lookUp found)
  have realPasses := passes_of_leads atStart takesNoLinkBack.inTargets leads startPasses
  have realCanonical := leads.isCanonical ⟨(), []⟩ atStart
  refine ⟨(path_eq_of_isLinkFree realCanonical isLinkFree realPasses).symm, ?_⟩
  -- Both are the file at the end of one trail.
  have isThere : (Query.fileExists scene.world.still real).Gives (.ok true) :=
    exists_eq ▸ isSteady.fileExists_gives real scene'
  have realAbsolute : Path.isAbsolute real = true := by
    obtain ⟨names, -, rfl⟩ := realCanonical
    exact Path.isAbsolute_ofComponents names
  obtain ⟨trail, record, realFound, record_eq, realStat_eq⟩ :=
    Tree.exists_of_fileExists realAbsolute isThere
  obtain rfl : trail = final :=
    (Tree.passes_components (Tree.passes_of_lookUp realFound)).deterministic realPasses
  rw [record_eq] at stat_eq
  exact ⟨FileRecord.ofSystem record, stat_result_of_record realStat_eq,
    stat_result_of_record stat_eq⟩

/-- A link in one directory to a directory below another one. -/
def shortcut : Tree where
  inodes :=
    [⟨.directory [(['a'], 1), (['b'], 2)], 0o755, 0, 0, (0, 0), (0, 0)⟩,
      ⟨.directory [(['l'], 3)], 0o755, 0, 0, (0, 0), (0, 0)⟩,
      ⟨.directory [(['c'], 4)], 0o755, 0, 0, (0, 0), (0, 0)⟩,
      ⟨.symlink ['/', 'b', '/', 'c'], 0o777, 0, 0, (0, 0), (0, 0)⟩,
      ⟨.directory [], 0o755, 0, 0, (0, 0), (0, 0)⟩]
  directory := ['/']

theorem shortcut_takesNoLinkBack :
    shortcut.TakesNoLinkBack ['/', 'b', '/', '.', '.', '/', 'a', '/', 'l'] where
  inPath := by
    have notLink : ¬ shortcut.IsLink [['b']] := by
      rintro ⟨links, trail, found, isLink⟩
      have hasEntry : shortcut.HasEntry [] ['b'] 2 := ⟨⟨_, rfl, rfl⟩, by decide⟩
      rw [Tree.lookUp_last hasEntry ⟨⟨by simp, by simp⟩, by simp, by simp⟩] at found
      cases found
      cases isLink
    have components_eq :
        Path.components ['/', 'b', '/', '.', '.', '/', 'a', '/', 'l'] =
          [['b'], ['.', '.'], ['a'], ['l']] := by decide
    rw [components_eq]
    exact ⟨by simp, fun _ => notLink, Tree.keepsLinks_of_noUp (by simp) _⟩
  inTargets links reached link rest target _ _ target_eq := by
    obtain ⟨number, -, isLink⟩ := Tree.target?_of_readlink target_eq
    obtain rfl : target = ['/', 'b', '/', 'c'] := by
      match number with
      | 0 | 1 | 2 | 4 | _ + 5 => cases isLink
      | 3 => exact (Option.some.inj isLink).symm
    exact Tree.keepsLinks_of_noUp (by decide) _

/-- Pairs of dots behind directories do not part the strategies. -/
theorem shortcut_strategies_agree :
    ∃ record,
      (Query.stat Tree.system ['/', 'b', '/', 'c'] ⟨shortcut, []⟩).1 = .ok record ∧
        (Query.stat Tree.system ['/', 'b', '/', '.', '.', '/', 'a', '/', 'l']
          ⟨shortcut, []⟩).1 = .ok record :=
  (realpath_strategies_agree ⟨shortcut, []⟩ 40 none _ _ _ rfl shortcut_takesNoLinkBack
    (by cbv) (by cbv)).2

/-- Behind a link a pair of dots leads the two strategies to different directories. -/
theorem shortcut_strategies_differ :
    (realpath Tree.system .walk 40 none ['/', 'a', '/', 'l', '/', '.', '.'] ⟨shortcut, []⟩).1 =
        .ok ['/', 'a'] ∧
      (realpath Tree.system .native 40 none ['/', 'a', '/', 'l', '/', '.', '.']
        ⟨shortcut, []⟩).1 = .ok ['/', 'b'] :=
  ⟨by cbv, by cbv⟩

end Symlink
end FilePaths
