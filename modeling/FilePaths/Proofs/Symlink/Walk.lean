import FilePaths.Proofs.Symlink.Substitution
import Mathlib

/-!
# What a walk computes

A walk carries the part of a path that it has looked at and the part that it has not.  Together
they are one canonical path, and no start of the first part is a link.  Piece by piece the walk
comes to the first link, and from one link to the next it does one substitution.
-/

namespace FilePaths
namespace Symlink

variable {World : Type} {system : System World}

/-! ## Up to the first link -/

/-- What a walk does at a link. -/
def meet
    (system : System World)
    (limit : Nat)
    (visited : List Text)
    (link rest : Text) :
    Run World Text :=
  if isRefused limit visited link then Run.fail (.tooManySymlinks link)
  else do
    let pending ← replaceLink system link rest
    advance system limit (link :: visited) [] pending

/-- One piece of a path is taken at a time. -/
theorem advance_slashed
    {front behind : List Text}
    {name : Text}
    (isTrack : Path.IsTrack (front ++ name :: behind))
    (limit : Nat)
    (visited : List Text) :
    advance system limit visited (Path.slashed front) (Path.slashed (name :: behind)) = (do
      if ← Query.isSymlink system (Path.slashed (front ++ [name])) then
        meet system limit visited (Path.slashed (front ++ [name])) (Path.slashed behind)
      else
        advance system limit visited (Path.slashed (front ++ [name])) (Path.slashed behind)) := by
  have noSlash : '/' ∉ name := isTrack.noSlash name (by simp)
  rw [Path.slashed_cons, advance]
  simp only [Path.takeWhile_notSlash noSlash, Path.dropWhile_notSlash noSlash,
    Path.join_slashed isTrack.isName_of_mem_front]
  rfl

/-- Pieces that are no links are passed, and no target is read. -/
theorem yields_advance_of_passed
    (front : List Text)
    {middle behind : List Text}
    {limit : Nat}
    {visited : List Text}
    {result : Except Error Text}
    {reads : List Text}
    (isTrack : Path.IsTrack (front ++ (middle ++ behind)))
    (passed : Passed system (front ++ middle))
    (yields :
      (advance system.watched limit visited (Path.slashed (front ++ middle))
        (Path.slashed behind)).Yields result reads) :
    (advance system.watched limit visited (Path.slashed front)
      (Path.slashed (middle ++ behind))).Yields result reads := by
  induction middle generalizing front with
  | nil => simpa using yields
  | cons name middle ih =>
      have gives : (Query.isSymlink system (Path.slashed (front ++ [name]))).Gives (.ok false) :=
        passed (front ++ [name]) ⟨middle, by simp⟩ (by simp)
      rw [List.cons_append] at isTrack ⊢
      rw [advance_slashed isTrack, ← List.nil_append reads]
      refine (Run.yields_isSymlink gives).bind ?_
      rw [List.append_cons] at isTrack passed yields
      exact ih (front ++ [name]) isTrack passed yields

variable {limit : Nat} {visited : List Text} {path : Text}

/-- A path without links is what the walk ends with. -/
theorem yields_advance_of_isLinkFree
    (isCanonical : Path.IsCanonical path)
    (isLinkFree : IsLinkFree system path) :
    (advance system.watched limit visited [] path).Yields (.ok path) [] := by
  obtain ⟨names, isTrack, -, rfl⟩ := isCanonical.exists_isTrack
  have passed := (isLinkFree_slashed_iff isTrack.noSlash).mp isLinkFree
  rw [← List.append_nil names]
  refine yields_advance_of_passed [] (by simpa using isTrack) passed ?_
  rw [Path.slashed_nil, advance, List.nil_append, List.append_nil]
  exact Run.yields_pure _

/-- The walk comes to the first answer other than that there is no link. -/
theorem yields_advance_of_firstAnswer
    {start rest : Text}
    {answer : Except Error Bool}
    {result : Except Error Text}
    {reads : List Text}
    (isCanonical : Path.IsCanonical path)
    (isFirst : FirstAnswer system path start rest answer)
    (yields :
      (do
        if ← Query.isSymlink system.watched start then
          meet system.watched limit visited start rest
        else
          advance system.watched limit visited start rest).Yields result reads) :
    (advance system.watched limit visited [] path).Yields result reads := by
  obtain ⟨names, isTrack, -, rfl⟩ := isCanonical.exists_isTrack
  obtain ⟨front, name, behind, rfl, rfl, rfl, passed, -⟩ :=
    (firstAnswer_slashed_iff isTrack.noSlash).mp isFirst
  refine yields_advance_of_passed [] (by simpa using isTrack) passed ?_
  rw [List.nil_append, advance_slashed isTrack]
  exact yields

/-- If the first such answer is a failure, the walk fails. -/
theorem yields_advance_of_firstError
    {start rest : Text}
    {error : Error}
    (isCanonical : Path.IsCanonical path)
    (isFirst : FirstAnswer system path start rest (.error error)) :
    (advance system.watched limit visited [] path).Yields (.error error) [] := by
  apply yields_advance_of_firstAnswer isCanonical isFirst
  exact (Run.yields_isSymlink isFirst.gives).bind_error

/-- At the first link of a path the walk meets it. -/
theorem yields_advance_of_firstLink
    {link rest : Text}
    {result : Except Error Text}
    {reads : List Text}
    (isCanonical : Path.IsCanonical path)
    (isFirst : FirstLink system path link rest)
    (yields : (meet system.watched limit visited link rest).Yields result reads) :
    (advance system.watched limit visited [] path).Yields result reads := by
  apply yields_advance_of_firstAnswer isCanonical isFirst
  rw [← List.nil_append reads]
  exact (Run.yields_isSymlink isFirst.gives).bind yields

/-! ## From link to link -/

theorem yields_replaceLink
    {link rest target : Text}
    {result : Except Error Text}
    (reads : Question.Answers (system.readlink link) (.ok target))
    (gives :
      (Path.expand system false (some (Path.dirname link)) (substituted target rest)).Gives
        result) :
    (replaceLink system.watched link rest).Yields result [link] :=
  (Run.yields_readlink reads).bind
    ((Run.yields_note (.followed link target)).bind (Run.yields_expand gives))

/-- A link that is not refused is replaced. -/
theorem meet_of_new
    {link : Text}
    (isNew : link ∉ visited)
    (isWithin : visited.length < limit)
    (rest : Text) :
    meet system limit visited link rest = (do
      let pending ← replaceLink system link rest
      advance system limit (link :: visited) [] pending) := by
  rw [meet, if_neg]
  intro isRefused
  rcases isRefused_iff.mp isRefused with isOld | isFull
  · exact isNew isOld
  · exact Nat.not_le_of_lt isWithin isFull

/-- One substitution of the walk. -/
theorem yields_advance_of_replaces
    {link after : Text}
    {result : Except Error Text}
    {reads : List Text}
    (isCanonical : Path.IsCanonical path)
    (replaces : Replaces system path link after)
    (isNew : link ∉ visited)
    (isWithin : visited.length < limit)
    (yields : (advance system.watched limit (link :: visited) [] after).Yields result reads) :
    (advance system.watched limit visited [] path).Yields result (link :: reads) := by
  obtain ⟨isFirst, target_eq, expands⟩ := replaces
  apply yields_advance_of_firstLink isCanonical isFirst
  rw [meet_of_new isNew isWithin]
  exact (yields_replaceLink target_eq expands).bind yields

/-- The end of a resolution is the end of the walk. -/
theorem yields_advance_of_ending
    {links : List Text}
    {result : Except Error Text}
    {reads : List Text}
    (isCanonical : Path.IsCanonical path)
    (ending : Ending system limit links path result reads) :
    (advance system.watched limit links.reverse [] path).Yields result reads := by
  cases ending with
  | clear isLinkFree => exact yields_advance_of_isLinkFree isCanonical isLinkFree
  | unknown isFirst => exact yields_advance_of_firstError isCanonical isFirst
  | refused isFirst isRefused =>
      apply yields_advance_of_firstLink isCanonical isFirst
      rw [meet, if_pos]
      · exact Run.yields_fail _
      · rw [isRefused_iff, List.mem_reverse, List.length_reverse]
        exact isRefused.imp_right fun isFull => Nat.le_of_eq isFull.symm
  | unreadable isFirst isNew isWithin fails =>
      apply yields_advance_of_firstLink isCanonical isFirst
      rw [meet_of_new (by simpa using isNew) (by simpa using isWithin)]
      exact (Run.yields_readlink fails).bind_error.bind_error
  | unexpanded isFirst isNew isWithin reads fails =>
      apply yields_advance_of_firstLink isCanonical isFirst
      rw [meet_of_new (by simpa using isNew) (by simpa using isWithin)]
      exact (yields_replaceLink reads fails).bind_error

/-- The walk follows every resolution to its end. -/
theorem yields_advance_of_leads
    (scene : Scene World)
    (before : List Text)
    {links : List Text}
    {final : Text}
    {result : Except Error Text}
    {reads : List Text}
    (isCanonical : Path.IsCanonical path)
    (leads : Leads system path links final)
    (areDifferent : (before ++ links).Nodup)
    (areWithin : (before ++ links).length ≤ limit)
    (ending : Ending system limit (before ++ links) final result reads) :
    (advance system.watched limit before.reverse [] path).Yields result (links ++ reads) := by
  induction leads generalizing before with
  | refl path =>
      rw [List.append_nil] at ending
      exact yields_advance_of_ending isCanonical ending
  | step replaces leads ih =>
      rename_i path link middle final links
      rw [List.append_cons] at areDifferent areWithin ending
      have yields :=
        ih (before ++ [link]) (replaces.isCanonical scene) areDifferent areWithin ending
      rw [List.reverse_append] at yields
      have isNew : link ∉ before.reverse := by
        rw [List.mem_reverse]
        have disjoint := (List.nodup_append.mp (List.nodup_append.mp areDifferent).1).2.2
        exact fun isMember => disjoint link isMember link (by simp) rfl
      have isWithin : before.reverse.length < limit := by
        simp only [List.length_append, List.length_singleton] at areWithin
        rw [List.length_reverse]
        omega
      exact yields_advance_of_replaces isCanonical replaces isNew isWithin yields

/-- A resolution of a path tells how the walk ends and what it reads. -/
theorem yields_walk_of_resolves
    (scene : Scene World)
    {base? : Option Text}
    {result : Except Error Text}
    {reads : List Text}
    (resolves : Resolves system limit base? path result reads) :
    (walk system.watched limit base? path).Yields result reads := by
  cases resolves with
  | unexpanded fails => exact (Run.yields_expand fails).bind_error
  | ends expands leads areDifferent areWithin ending =>
      have isCanonical := Path.expand_isCanonical true base? path scene _ (expands scene)
      exact (Run.yields_expand expands).bind
        (yields_advance_of_leads scene [] isCanonical leads areDifferent areWithin ending)

/-! ## The whole walk -/

/-- Watching does not change how a walk ends. -/
theorem walk_watched_result
    (base? : Option Text)
    (scene : Scene World) :
    (walk system limit base? path scene).1 =
      (walk system.watched limit base? path scene.watch).1 :=
  (walk_alike system.watched_walksAlike limit base? path scene scene.watch rfl).1

/-- A walk ends as it does behind the path that it starts with. -/
theorem walk_result_of_yields
    {base? : Option Text}
    {start : Text}
    {scene : Scene World}
    {result : Except Error Text}
    {reads : List Text}
    (start_eq : (Path.expand system true base? path scene).1 = .ok start)
    (yields : (advance system.watched limit [] [] start).Yields result reads) :
    (walk system limit base? path scene).1 = result := by
  have watched_eq : (Path.expand system.watched true base? path scene.watch).1 = .ok start := by
    obtain ⟨sameStart, -⟩ :=
      Path.expand_alike system.watched_walksAlike.toNamesAlike true base? path scene scene.watch rfl
    rw [← sameStart, start_eq]
  rw [walk_watched_result, walk, Run.bind_result_of_eq_ok watched_eq]
  exact (yields _).1

/-- A walk on a steady system ends as the resolution does, and reads the same targets. -/
theorem walk_ends_iff
    (isSteady : system.IsSteady)
    (base? : Option Text)
    (scene : Scene World)
    {result : Except Error Text}
    {reads : List Text} :
    ((walk system limit base? path scene).1 = result ∧
        (walk system.watched limit base? path scene.watch).2.world.reads = reads) ↔
      Resolves system limit base? path result reads := by
  have walks : ∀ {result reads}, Resolves system limit base? path result reads →
      (walk system limit base? path scene).1 = result ∧
        (walk system.watched limit base? path scene.watch).2.world.reads = reads := by
    intro result reads resolves
    rw [walk_watched_result]
    exact yields_walk_of_resolves scene resolves scene.watch
  constructor
  · rintro ⟨rfl, rfl⟩
    obtain ⟨result, reads, resolves⟩ := exists_resolves isSteady scene limit base? path
    obtain ⟨result_eq, reads_eq⟩ := walks resolves
    rw [result_eq, reads_eq]
    exact resolves
  · exact walks

/-- A walk ends with a path where different links within the limit lead to it, and it has none. -/
theorem walk_eq_ok_iff
    (isSteady : system.IsSteady)
    {base? : Option Text}
    {real : Text}
    {scene : Scene World} :
    (walk system limit base? path scene).1 = .ok real ↔
      ∃ start links, (Path.expand system true base? path).Gives (.ok start) ∧
        Leads system start links real ∧ links.Nodup ∧ links.length ≤ limit ∧
        IsLinkFree system real := by
  constructor
  · intro real_eq
    obtain ⟨reads, resolves⟩ : ∃ reads, Resolves system limit base? path (.ok real) reads :=
      ⟨_, (walk_ends_iff isSteady base? scene).mp ⟨real_eq, rfl⟩⟩
    cases resolves with
    | ends expands leads areDifferent areWithin ending =>
        cases ending with
        | clear isLinkFree => exact ⟨_, _, expands, leads, areDifferent, areWithin, isLinkFree⟩
  · rintro ⟨start, links, expands, leads, areDifferent, areWithin, isLinkFree⟩
    exact ((walk_ends_iff isSteady base? scene).mpr
      (.ends expands leads areDifferent areWithin (.clear isLinkFree))).1

theorem Resolves.isCanonical
    (scene : Scene World)
    {base? : Option Text}
    {real : Text}
    {reads : List Text}
    (resolves : Resolves system limit base? path (.ok real) reads) :
    Path.IsCanonical real := by
  cases resolves with
  | ends expands leads _ _ ending =>
      cases ending with
      | clear =>
          have atStart := Path.expand_isCanonical true base? path scene _ (expands scene)
          exact leads.isCanonical scene atStart

/-- On a steady system a walk ends with the result of the resolution and reads the targets that
the resolution reads, in this order; a path that it ends with is canonical. -/
theorem walk_resolves
    (isSteady : system.IsSteady)
    (limit : Nat)
    (base? : Option Text)
    (path : Text)
    (scene : Scene World) :
    (∀ result reads,
      ((walk system limit base? path scene).1 = result ∧
          (walk system.watched limit base? path scene.watch).2.world.reads = reads) ↔
        Resolves system limit base? path result reads) ∧
      ∀ real, (walk system limit base? path scene).1 = .ok real → Path.IsCanonical real := by
  refine ⟨fun result reads => walk_ends_iff isSteady base? scene, fun real real_eq => ?_⟩
  exact ((walk_ends_iff isSteady base? scene).mp ⟨real_eq, rfl⟩).isCanonical scene

/-! ## Files that are found -/

/-- A canonical path of a file is found by the strategy, from an absolute path as it is, and there
is a file. -/
theorem exists_of_realpath
    {strategy : Strategy}
    {base? : Option Text}
    {real : Text}
    {scene : Scene World}
    (real_eq : (realpath system strategy limit base? path scene).1 = .ok real) :
    ∃ target before after, (Path.isAbsolute path = true → target = path) ∧
      (canonical system strategy limit target before).1 = .ok real ∧
      (Query.fileExists system real after).1 = .ok true := by
  have behind : ∀ target before,
      ((canonical system strategy limit target >>= fun found => do
        if ← Query.fileExists system found then pure found
        else Run.fail (.notFound found)) before).1 = .ok real →
      (canonical system strategy limit target before).1 = .ok real ∧
        ∃ after, (Query.fileExists system real after).1 = .ok true := by
    intro target before found_eq
    obtain ⟨found, canonical_eq, found_eq⟩ := Run.exists_of_bind_eq_ok found_eq
    obtain ⟨isThere, isThere_eq, found_eq⟩ := Run.exists_of_bind_eq_ok found_eq
    cases isThere with
    | false => cases found_eq
    | true =>
        obtain rfl := Except.ok.inj found_eq
        exact ⟨canonical_eq, _, isThere_eq⟩
  rw [realpath] at real_eq
  split at real_eq
  · obtain ⟨_, -, real_eq⟩ := Run.exists_of_bind_eq_ok real_eq
    obtain ⟨target, target_eq, real_eq⟩ := Run.exists_of_bind_eq_ok real_eq
    obtain rfl := Except.ok.inj target_eq
    obtain ⟨canonical_eq, after, isThere_eq⟩ := behind _ _ real_eq
    exact ⟨_, _, _, fun _ => rfl, canonical_eq, isThere_eq⟩
  · rename_i isRelative
    obtain ⟨target, -, real_eq⟩ := Run.exists_of_bind_eq_ok real_eq
    obtain ⟨canonical_eq, after, isThere_eq⟩ := behind _ _ real_eq
    exact ⟨_, _, _, fun isAbsolute => absurd isAbsolute isRelative, canonical_eq, isThere_eq⟩

/-- A link, and behind its target a link that leads through the first one again. -/
def crossing : Table where
  entries :=
    [(['/', 'a'], .ok { mode := 0o120777 }), (['/', 'd', '/', 'x'], .ok { mode := 0o120777 })]
  targets := [(['/', 'a'], .ok ['/', 'd']), (['/', 'd', '/', 'x'], .ok ['/', 'a', '/', 'y'])]
  directory := .ok ['/']
  home := none
  ids := (0, 0)

theorem resolves_through_link :
    Resolves crossing.system 40 none ['/', 'a', '/', 'z'] (.ok ['/', 'd', '/', 'z']) [['/', 'a']] :=
  ((walk_resolves crossing.isSteady 40 none ['/', 'a', '/', 'z'] ⟨0, []⟩).1 _ _).mp
    ⟨by cbv, by cbv⟩

end Symlink
end FilePaths
