import FilePaths.Proofs.Path.Expand
import FilePaths.Proofs.System.Steady

/-!
# Substitution of links

What a walk computes, said without the loop.  The shortest start of a path that is a symbolic link
is replaced by the target of the link, as often as there is such a start.  The loop keeps a half
of the path that it has looked at and a set of links; here a path is always whole, and the links
that have been replaced are only listed.
-/

namespace FilePaths
namespace Symlink

variable {World : Type}

/-- The first start of a path about which the answer is not that it is no symbolic link. -/
structure FirstAnswer
    (system : System World)
    (path start rest : Text)
    (answer : Except Error Bool) : Prop where
  isStart : Path.IsStart start rest path
  gives : (Query.isSymlink system start).Gives answer
  isFirst : ∀ shorter more, Path.IsStart shorter more path → shorter.length < start.length →
    (Query.isSymlink system shorter).Gives (.ok false)

/-- The shortest start of a path that is a symbolic link, and what stands behind it. -/
abbrev FirstLink (system : System World) (path link rest : Text) : Prop :=
  FirstAnswer system path link rest (.ok true)

/-- No start of a path is a symbolic link. -/
def IsLinkFree (system : System World) (path : Text) : Prop :=
  ∀ start rest, Path.IsStart start rest path →
    (Query.isSymlink system start).Gives (.ok false)

/-- What is made absolute in place of a path when its first link is replaced. -/
def substituted (target rest : Text) : Text :=
  if rest = [] then target else Path.join [target, rest]

/-- The first link of a path, replaced by its target, gives another path.  The target is read from
the directory of the link, and a tilde in it means nothing. -/
inductive Replaces (system : System World) (path link after : Text) : Prop
  | intro
      {rest target : Text}
      (isFirst : FirstLink system path link rest)
      (reads : Question.Answers (system.readlink link) (.ok target))
      (expands :
        (Path.expand system false (some (Path.dirname link)) (substituted target rest)).Gives
          (.ok after)) :
      Replaces system path link after

/-- Replacing first links, those listed in this order, leads from one path to another. -/
inductive Leads (system : System World) : Text → List Text → Text → Prop
  | refl (path : Text) : Leads system path [] path
  | step
      {path link middle final : Text}
      {links : List Text}
      (replaces : Replaces system path link middle)
      (behind : Leads system middle links final) :
      Leads system path (link :: links) final

/-- How a resolution ends at a path when the listed links have been replaced: its result, and what
it reads in vain.  A link that has been replaced before, and one above the limit, is not read. -/
inductive Ending
    (system : System World)
    (limit : Nat)
    (links : List Text)
    (path : Text) : Except Error Text → List Text → Prop
  | clear (isLinkFree : IsLinkFree system path) :
      Ending system limit links path (.ok path) []
  | unknown
      {start rest : Text}
      {error : Error}
      (isFirst : FirstAnswer system path start rest (.error error)) :
      Ending system limit links path (.error error) []
  | refused
      {link rest : Text}
      (isFirst : FirstLink system path link rest)
      (isRefused : link ∈ links ∨ links.length = limit) :
      Ending system limit links path (.error (.tooManySymlinks link)) []
  | unreadable
      {link rest : Text}
      {cause : Cause}
      (isFirst : FirstLink system path link rest)
      (isNew : link ∉ links)
      (isWithin : links.length < limit)
      (fails : Question.Answers (system.readlink link) (.error cause)) :
      Ending system limit links path (.error (Error.ofCause cause link)) [link]
  | unexpanded
      {link rest target : Text}
      {error : Error}
      (isFirst : FirstLink system path link rest)
      (isNew : link ∉ links)
      (isWithin : links.length < limit)
      (reads : Question.Answers (system.readlink link) (.ok target))
      (fails :
        (Path.expand system false (some (Path.dirname link)) (substituted target rest)).Gives
          (.error error)) :
      Ending system limit links path (.error error) [link]

/-- The resolution of a path: the path is made absolute, different links are replaced, not more
than the limit, and the resolution ends.  The second index lists the links whose targets are
read. -/
inductive Resolves
    (system : System World)
    (limit : Nat)
    (base? : Option Text)
    (path : Text) : Except Error Text → List Text → Prop
  | unexpanded
      {error : Error}
      (fails : (Path.expand system true base? path).Gives (.error error)) :
      Resolves system limit base? path (.error error) []
  | ends
      {start final : Text}
      {links reads : List Text}
      {result : Except Error Text}
      (expands : (Path.expand system true base? path).Gives (.ok start))
      (leads : Leads system start links final)
      (areDifferent : links.Nodup)
      (areWithin : links.length ≤ limit)
      (ending : Ending system limit links final result reads) :
      Resolves system limit base? path result (links ++ reads)

variable {system : System World}

/-! ## Targets and what stands behind links -/

theorem components_substituted
    {behind : List Text}
    (areNames : ∀ name ∈ behind, Path.IsName name)
    (target : Text) :
    Path.components (substituted target (Path.slashed behind)) =
      Path.components target ++ behind := by
  rw [substituted]
  split
  · rename_i isLast
    rw [Path.slashed_eq_nil_iff.mp isLast, List.append_nil]
  · rw [Path.join, List.foldl_cons, List.foldl_nil, Path.components_append,
      Path.components_slashed areNames]

theorem isAbsolute_substituted
    {target : Text}
    (notEmpty : target ≠ [])
    (behind : List Text) :
    Path.isAbsolute (substituted target (Path.slashed behind)) = Path.isAbsolute target := by
  rw [substituted]
  split
  · rfl
  · exact Path.isAbsolute_append notEmpty _

/-! ## Canonical paths -/

theorem Replaces.isCanonical
    {path link after : Text}
    (scene : Scene World)
    (replaces : Replaces system path link after) :
    Path.IsCanonical after := by
  obtain ⟨-, -, expands⟩ := replaces
  exact Path.expand_isCanonical _ _ _ scene after (expands scene)

/-- Replacing links leads from canonical paths to canonical ones. -/
theorem Leads.isCanonical
    {path final : Text}
    {links : List Text}
    (scene : Scene World)
    (leads : Leads system path links final)
    (isCanonical : Path.IsCanonical path) :
    Path.IsCanonical final := by
  induction leads with
  | refl => exact isCanonical
  | step replaces _ ih => exact ih (replaces.isCanonical scene)

/-! ## Starts made from pieces -/

/-- No start made from some of the first of the given pieces is a symbolic link. -/
def Passed (system : System World) (names : List Text) : Prop :=
  ∀ front, front <+: names → front ≠ [] →
    (Query.isSymlink system (Path.slashed front)).Gives (.ok false)

theorem passed_nil : Passed system [] :=
  fun _ isStart notEmpty => absurd (List.prefix_nil.mp isStart) notEmpty

theorem Passed.of_prefix
    {front names : List Text}
    (passed : Passed system names)
    (isPrefix : front <+: names) :
    Passed system front :=
  fun init isStart => passed init (isStart.trans isPrefix)

theorem passed_concat
    {names : List Text}
    {name : Text}
    (passed : Passed system names)
    (gives : (Query.isSymlink system (Path.slashed (names ++ [name]))).Gives (.ok false)) :
    Passed system (names ++ [name]) := by
  intro front isStart notEmpty
  rcases List.prefix_concat_iff.mp isStart with rfl | isStart
  · exact gives
  · exact passed front isStart notEmpty

theorem isLinkFree_slashed_iff
    {names : List Text}
    (noSlash : ∀ name ∈ names, '/' ∉ name) :
    IsLinkFree system (Path.slashed names) ↔ Passed system names := by
  constructor
  · rintro isLinkFree front ⟨behind, rfl⟩ notEmpty
    exact isLinkFree _ _ ((Path.isStart_slashed_iff noSlash).mpr
      ⟨front, behind, notEmpty, rfl, rfl, rfl⟩)
  · intro passed start rest isStart
    obtain ⟨front, behind, notEmpty, rfl, rfl, rfl⟩ :=
      (Path.isStart_slashed_iff noSlash).mp isStart
    exact passed front (List.prefix_append front behind) notEmpty

/-- The first answer about a path stands behind pieces that have been passed. -/
theorem firstAnswer_slashed_iff
    {names : List Text}
    (noSlash : ∀ name ∈ names, '/' ∉ name)
    {start rest : Text}
    {answer : Except Error Bool} :
    FirstAnswer system (Path.slashed names) start rest answer ↔
      ∃ front name behind, names = front ++ name :: behind ∧
        start = Path.slashed (front ++ [name]) ∧ rest = Path.slashed behind ∧
        Passed system front ∧ (Query.isSymlink system start).Gives answer := by
  constructor
  · rintro ⟨isStart, gives, isFirst⟩
    obtain ⟨front, behind, notEmpty, rfl, rfl, rfl⟩ :=
      (Path.isStart_slashed_iff noSlash).mp isStart
    obtain ⟨front, name, rfl⟩ : ∃ init name, front = init ++ [name] :=
      ⟨_, _, (List.dropLast_concat_getLast notEmpty).symm⟩
    refine ⟨front, name, behind, by simp, rfl, rfl, ?_, gives⟩
    rintro init ⟨more, rfl⟩ notEmpty
    refine isFirst _ (Path.slashed (more ++ [name] ++ behind)) ?_ ?_
    · exact (Path.isStart_slashed_iff noSlash).mpr ⟨init, _, notEmpty, by simp, rfl, rfl⟩
    · simp only [Path.slashed_append, Path.slashed_cons, List.length_append, List.length_cons]
      omega
  · rintro ⟨front, name, behind, rfl, rfl, rfl, passed, gives⟩
    refine ⟨?_, gives, ?_⟩
    · exact (Path.isStart_slashed_iff noSlash).mpr
        ⟨front ++ [name], behind, by simp, by simp, rfl, rfl⟩
    · intro shorter more isStart isShorter
      obtain ⟨init, final, notEmpty, names_eq, rfl, rfl⟩ :=
        (Path.isStart_slashed_iff noSlash).mp isStart
      refine passed init ?_ notEmpty
      -- Both are starts of the same list, and the other one is not the shorter of the two.
      have isPrefix : init <+: front ++ [name] ++ behind := ⟨final, by simp [← names_eq]⟩
      rcases List.prefix_or_prefix_of_prefix isPrefix (List.prefix_append _ _) with
        isInside | ⟨middle, rfl⟩
      · rcases List.prefix_concat_iff.mp isInside with rfl | isInside
        · exact absurd isShorter (Nat.lt_irrefl _)
        · exact isInside
      · simp only [Path.slashed_append, List.length_append] at isShorter
        omega

/-- On a steady system a path has no link among its starts, or there is a first answer other than
that. -/
theorem isLinkFree_or_firstAnswer
    (isSteady : system.IsSteady)
    (scene : Scene World)
    {path : Text}
    (isCanonical : Path.IsCanonical path) :
    IsLinkFree system path ∨
      ∃ start rest answer, answer ≠ .ok false ∧ FirstAnswer system path start rest answer := by
  obtain ⟨names, isTrack, -, rfl⟩ := isCanonical.exists_isTrack
  have noSlash := isTrack.noSlash
  rw [isLinkFree_slashed_iff noSlash]
  suffices ∀ behind front, names = front ++ behind → Passed system front →
      Passed system names ∨ ∃ start rest answer, answer ≠ .ok false ∧
        FirstAnswer system (Path.slashed names) start rest answer from
    this names [] rfl passed_nil
  intro behind
  induction behind with
  | nil =>
      rintro front rfl passed
      exact .inl (by simpa using passed)
  | cons name behind ih =>
      intro front names_eq passed
      have gives :=
        isSteady.isSymlink_gives (Path.slashed (front ++ [name])) scene
      by_cases isNone : (Query.isSymlink system (Path.slashed (front ++ [name])) scene).1 =
          .ok false
      · rw [isNone] at gives
        exact ih (front ++ [name]) (by simp [names_eq]) (passed_concat passed gives)
      · exact .inr ⟨_, _, _, isNone, (firstAnswer_slashed_iff noSlash).mpr
          ⟨front, name, behind, names_eq, rfl, rfl, passed, gives⟩⟩

/-! ## Every resolution ends -/

/-- A resolution ends at a path, or a link in it that is new can be replaced. -/
theorem ending_or_replaces
    (isSteady : system.IsSteady)
    (scene : Scene World)
    {limit : Nat}
    {links : List Text}
    {path : Text}
    (isCanonical : Path.IsCanonical path)
    (areWithin : links.length ≤ limit) :
    (∃ result reads, Ending system limit links path result reads) ∨
      ∃ link after, Replaces system path link after ∧ link ∉ links ∧ links.length < limit := by
  rcases isLinkFree_or_firstAnswer isSteady scene isCanonical with
    isLinkFree | ⟨link, rest, answer, notNone, isFirst⟩
  · exact .inl ⟨_, _, .clear isLinkFree⟩
  match answer with
  | .error error => exact .inl ⟨_, _, .unknown isFirst⟩
  | .ok false => exact absurd rfl notNone
  | .ok true =>
      by_cases isRefused : link ∈ links ∨ links.length = limit
      · exact .inl ⟨_, _, .refused isFirst isRefused⟩
      obtain ⟨isNew, notFull⟩ := not_or.mp isRefused
      have isWithin : links.length < limit := Nat.lt_of_le_of_ne areWithin notFull
      have reads := isSteady.readlink_answers link scene.world
      cases answer_eq : (system.readlink link scene.world).1 with
      | error cause =>
          rw [answer_eq] at reads
          exact .inl ⟨_, _, .unreadable isFirst isNew isWithin reads⟩
      | ok target =>
          rw [answer_eq] at reads
          have gives :=
            isSteady.expand_gives false (some (Path.dirname link)) (substituted target rest) scene
          cases result_eq : (Path.expand system false (some (Path.dirname link))
              (substituted target rest) scene).1 with
          | error error =>
              rw [result_eq] at gives
              exact .inl ⟨_, _, .unexpanded isFirst isNew isWithin reads gives⟩
          | ok after =>
              rw [result_eq] at gives
              exact .inr ⟨link, after, ⟨isFirst, reads, gives⟩, isNew, isWithin⟩

/-- If at every path on the way the resolution ends as wanted or a new link can be replaced, it does
end so: every new link leaves less room below the limit. -/
theorem exists_ending_of_progress
    {limit : Nat}
    {onWay : Text → Prop}
    {isWanted : Except Error Text → Prop}
    (progress : ∀ links path, onWay path → links.length ≤ limit →
      (∃ result reads, isWanted result ∧ Ending system limit links path result reads) ∨
        ∃ link after, Replaces system path link after ∧ onWay after ∧ link ∉ links ∧
          links.length < limit)
    {links : List Text}
    {path : Text}
    (isOnWay : onWay path)
    (areDifferent : links.Nodup)
    (areWithin : links.length ≤ limit) :
    ∃ more final result reads, isWanted result ∧ Leads system path more final ∧
      (links ++ more).Nodup ∧ (links ++ more).length ≤ limit ∧
      Ending system limit (links ++ more) final result reads := by
  rcases progress links path isOnWay areWithin with
    ⟨result, reads, wanted, ending⟩ | ⟨link, after, replaces, stillOnWay, isNew, isWithin⟩
  · exact ⟨[], path, result, reads, wanted, .refl path, by simpa, by simpa, by simpa⟩
  · have stillDifferent : (links ++ [link]).Nodup := by
      refine List.nodup_append.mpr ⟨areDifferent, by simp, ?_⟩
      rintro other isMember _ isLink rfl
      exact isNew (List.mem_singleton.mp isLink ▸ isMember)
    have stillWithin : (links ++ [link]).length ≤ limit := by
      rw [List.length_append, List.length_singleton]
      exact isWithin
    obtain ⟨more, final, result, reads, wanted, leads, areDifferent, areWithin, ending⟩ :=
      exists_ending_of_progress progress stillOnWay stillDifferent stillWithin
    rw [List.append_assoc, List.singleton_append] at areDifferent areWithin ending
    exact ⟨link :: more, final, result, reads, wanted, .step replaces leads, areDifferent,
      areWithin, ending⟩
termination_by limit - links.length
decreasing_by simp only [List.length_append, List.length_singleton]; omega

/-- Whatever links have been replaced, some more can be replaced until the resolution ends. -/
theorem exists_ending
    (isSteady : system.IsSteady)
    (scene : Scene World)
    {limit : Nat}
    {path : Text}
    (isCanonical : Path.IsCanonical path) :
    ∃ links final result reads, Leads system path links final ∧ links.Nodup ∧
      links.length ≤ limit ∧ Ending system limit links final result reads := by
  have progress : ∀ links path, Path.IsCanonical path → links.length ≤ limit →
      (∃ result reads, True ∧ Ending system limit links path result reads) ∨
        ∃ link after, Replaces system path link after ∧ Path.IsCanonical after ∧ link ∉ links ∧
          links.length < limit := by
    intro links path isCanonical areWithin
    rcases ending_or_replaces isSteady scene isCanonical areWithin with
      ⟨result, reads, ending⟩ | ⟨link, after, replaces, isNew⟩
    · exact .inl ⟨result, reads, trivial, ending⟩
    · exact .inr ⟨link, after, replaces, replaces.isCanonical scene, isNew⟩
  obtain ⟨links, final, result, reads, -, holds⟩ :=
    exists_ending_of_progress progress isCanonical List.nodup_nil (Nat.zero_le limit)
  exact ⟨links, final, result, reads, holds⟩

/-- Every path has a resolution on a steady system. -/
theorem exists_resolves
    (isSteady : system.IsSteady)
    (scene : Scene World)
    (limit : Nat)
    (base? : Option Text)
    (path : Text) :
    ∃ result reads, Resolves system limit base? path result reads := by
  have expands := isSteady.expand_gives true base? path scene
  cases start_eq : (Path.expand system true base? path scene).1 with
  | error error =>
      rw [start_eq] at expands
      exact ⟨_, _, .unexpanded expands⟩
  | ok start =>
      rw [start_eq] at expands
      have isCanonical := Path.expand_isCanonical true base? path scene start start_eq
      obtain ⟨links, final, result, reads, leads, areDifferent, areWithin, ending⟩ :=
        exists_ending isSteady scene isCanonical
      exact ⟨_, _, .ends expands leads areDifferent areWithin ending⟩

end Symlink
end FilePaths
