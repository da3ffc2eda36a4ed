import FilePaths.Proofs.Symlink.Walk

/-!
# More room for links

The limit says how many links a walk may replace, and it says nothing else.  A walk that is not
refused a link ends in the same way under every higher limit, and one that ends with a path ends
with it under every limit that is not below the number of its links.  Under a lower limit it is
refused the first link that has no room.
-/

namespace FilePaths
namespace Symlink

variable {World : Type} {system : System World} {limit limit' : Nat}

/-! ## Higher limits -/

/-- What a resolution ends with without being refused a link, it ends with under every limit that
is not lower. -/
theorem Ending.of_limit_le
    {links reads : List Text}
    {path : Text}
    {result : Except Error Text}
    (ending : Ending system limit links path result reads)
    (notRefused : ∀ link, result ≠ .error (.tooManySymlinks link))
    (isHigher : limit ≤ limit') :
    Ending system limit' links path result reads := by
  cases ending with
  | clear isLinkFree => exact .clear isLinkFree
  | unknown isFirst => exact .unknown isFirst
  | refused => exact absurd rfl (notRefused _)
  | unreadable isFirst isNew isWithin fails =>
      exact .unreadable isFirst isNew (Nat.lt_of_lt_of_le isWithin isHigher) fails
  | unexpanded isFirst isNew isWithin reads fails =>
      exact .unexpanded isFirst isNew (Nat.lt_of_lt_of_le isWithin isHigher) reads fails

theorem Resolves.of_limit_le
    {base? : Option Text}
    {path : Text}
    {result : Except Error Text}
    {reads : List Text}
    (resolves : Resolves system limit base? path result reads)
    (notRefused : ∀ link, result ≠ .error (.tooManySymlinks link))
    (isHigher : limit ≤ limit') :
    Resolves system limit' base? path result reads := by
  cases resolves with
  | unexpanded fails => exact .unexpanded fails
  | ends expands leads areDifferent areWithin ending =>
      exact .ends expands leads areDifferent (Nat.le_trans areWithin isHigher)
        (ending.of_limit_le notRefused isHigher)

/-! ## Lower limits -/

/-- Before a link is replaced, those listed before it have been. -/
theorem Leads.exists_replaces
    {path link final : Text}
    {front behind : List Text}
    (leads : Leads system path (front ++ link :: behind) final) :
    ∃ reached after, Leads system path front reached ∧ Replaces system reached link after := by
  induction front generalizing path with
  | nil =>
      cases leads with
      | step replaces _ => exact ⟨path, _, .refl path, replaces⟩
  | cons first front ih =>
      cases leads with
      | step replaces leads =>
          obtain ⟨reached, after, leadsFront, replacesLink⟩ := ih leads
          exact ⟨reached, after, .step replaces leadsFront, replacesLink⟩

/-- A resolution that ends with a path has replaced the links whose targets it reads. -/
theorem Resolves.of_length_le
    {base? : Option Text}
    {path real : Text}
    {reads : List Text}
    (resolves : Resolves system limit' base? path (.ok real) reads)
    (areWithin : reads.length ≤ limit) :
    Resolves system limit base? path (.ok real) reads := by
  cases resolves with
  | ends expands leads areDifferent _ ending =>
      cases ending with
      | clear isLinkFree =>
          rw [List.append_nil] at areWithin
          exact .ends expands leads areDifferent areWithin (.clear isLinkFree)

/-- With room for some of its links only, such a resolution is refused the next one. -/
theorem Resolves.refused_of_append
    {base? : Option Text}
    {path real link : Text}
    {front behind : List Text}
    (resolves : Resolves system limit' base? path (.ok real) (front ++ link :: behind)) :
    Resolves system front.length base? path (.error (.tooManySymlinks link)) front := by
  generalize reads_eq : front ++ link :: behind = reads at resolves
  cases resolves with
  | ends expands leads areDifferent _ ending =>
      cases ending with
      | clear =>
          rw [List.append_nil] at reads_eq
          subst reads_eq
          obtain ⟨reached, after, leadsFront, isFirst, -, -⟩ := leads.exists_replaces
          have stillDifferent : front.Nodup := (List.nodup_append.mp areDifferent).1
          rw [← List.append_nil front]
          exact .ends expands leadsFront stillDifferent (Nat.le_of_eq (by simp))
            (.refused isFirst (.inr (by simp)))

theorem Resolves.refused_of_getElem?
    {base? : Option Text}
    {path real link : Text}
    {reads : List Text}
    (resolves : Resolves system limit' base? path (.ok real) reads)
    (link_eq : reads[limit]? = some link) :
    Resolves system limit base? path (.error (.tooManySymlinks link)) (reads.take limit) := by
  obtain ⟨isInside, rfl⟩ := List.getElem?_eq_some_iff.mp link_eq
  have reads_eq : reads = reads.take limit ++ reads[limit] :: reads.drop (limit + 1) := by
    rw [← List.drop_eq_getElem_cons isInside, List.take_append_drop]
  have length_eq : (reads.take limit).length = limit :=
    List.length_take_of_le (Nat.le_of_lt isInside)
  have refused := Resolves.refused_of_append (reads_eq ▸ resolves)
  rw [length_eq] at refused
  exact refused

/-! ## All limits -/

/-- On a steady system a walk that is not refused a link ends in the same way under every higher
limit, and reads the same targets.  A walk that ends with a path ends with a path under exactly
those limits that are not below the number of targets that it reads, and this is the same path; under
a lower limit it is refused the link for which there is no room. -/
theorem walk_of_limit_le
    (isSteady : system.IsSteady)
    (isHigher : limit ≤ limit')
    (base? : Option Text)
    (path : Text)
    (scene again : Scene World) :
    ((∀ link, (walk system limit base? path scene).1 ≠ .error (.tooManySymlinks link)) →
      (walk system limit' base? path again).1 = (walk system limit base? path scene).1 ∧
        (walk system.watched limit' base? path again.watch).2.world.reads =
          (walk system.watched limit base? path scene.watch).2.world.reads) ∧
      ∀ real reads,
        (walk system limit' base? path again).1 = .ok real →
        (walk system.watched limit' base? path again.watch).2.world.reads = reads →
        ((∃ found, (walk system limit base? path scene).1 = .ok found) ↔ reads.length ≤ limit) ∧
          (reads.length ≤ limit → (walk system limit base? path scene).1 = .ok real) ∧
          ∀ link, reads[limit]? = some link →
            (walk system limit base? path scene).1 = .error (.tooManySymlinks link) := by
  constructor
  · intro notRefused
    have resolves : Resolves system limit base? path _ _ :=
      (walk_ends_iff isSteady base? scene).mp ⟨rfl, rfl⟩
    exact (walk_ends_iff isSteady base? again).mpr (resolves.of_limit_le notRefused isHigher)
  · intro real reads real_eq reads_eq
    have resolves := (walk_ends_iff isSteady base? again).mp ⟨real_eq, reads_eq⟩
    have succeeds : reads.length ≤ limit → (walk system limit base? path scene).1 = .ok real :=
      fun areWithin =>
        ((walk_ends_iff isSteady base? scene).mpr (resolves.of_length_le areWithin)).1
    have fails : ∀ link, reads[limit]? = some link →
        (walk system limit base? path scene).1 = .error (.tooManySymlinks link) :=
      fun link link_eq =>
        ((walk_ends_iff isSteady base? scene).mpr (resolves.refused_of_getElem? link_eq)).1
    refine ⟨⟨?_, fun areWithin => ⟨real, succeeds areWithin⟩⟩, succeeds, fails⟩
    rintro ⟨found, found_eq⟩
    refine Nat.le_of_not_lt fun isTooLow => ?_
    rw [fails _ (List.getElem?_eq_getElem isTooLow)] at found_eq
    cases found_eq

/-- Three links, each the target of the one before. -/
def chain : Table where
  entries :=
    [(['/', 'k'], .ok { mode := 0o120777 }), (['/', 'l'], .ok { mode := 0o120777 }),
      (['/', 'm'], .ok { mode := 0o120777 })]
  targets :=
    [(['/', 'k'], .ok ['/', 'l']), (['/', 'l'], .ok ['m']), (['/', 'm'], .ok ['.', '/', 'n'])]
  directory := .ok ['/']
  home := none
  ids := (0, 0)

/-- Room for three links is enough, and under the limit two the third one is refused. -/
theorem chain_walk_of_limit_le :
    3 ≤ 7 ∧
      (walk chain.system 3 none ['k'] ⟨0, []⟩).1 = .ok ['/', 'n'] ∧
      (walk chain.system 7 none ['k'] ⟨0, []⟩).1 = .ok ['/', 'n'] ∧
      (walk chain.system 2 none ['k'] ⟨0, []⟩).1 = .error (.tooManySymlinks ['/', 'm']) := by
  have isWithin : (walk chain.system 3 none ['k'] ⟨0, []⟩).1 = .ok ['/', 'n'] := by
    cbv
  have reads_eq : (walk chain.system.watched 3 none ['k'] (Scene.watch ⟨0, []⟩)).2.world.reads =
      [['/', 'k'], ['/', 'l'], ['/', 'm']] := by
    cbv
  refine ⟨by decide, isWithin, ?_, ?_⟩
  · have isHigher : 3 ≤ 7 := by decide
    have sameResult :=
      (walk_of_limit_le chain.isSteady isHigher none ['k'] ⟨0, []⟩ ⟨0, []⟩).1
        (by rw [isWithin]; rintro _ ⟨⟩)
    rw [sameResult.1, isWithin]
  · exact ((walk_of_limit_le chain.isSteady (by decide) none ['k'] ⟨0, []⟩ ⟨0, []⟩).2 _ _ isWithin
      reads_eq).2.2 _ rfl

end Symlink
end FilePaths
