import FilePaths.Proofs.Glob.Reading
import Mathlib.Data.List.Forall2

/-!
# Replacing characters and rules

Two runs of matching can be compared character by character.  If whatever fits an element under the
first rules fits it under the other ones after it has been replaced, and no visible segment becomes
hidden, then nothing that was accepted is lost.
-/

namespace FilePaths
namespace Glob

variable
  {rules other : Rules}
  {related : Char → Char → Prop}

theorem forall₂_of_map_eq
    {α β : Type}
    {change : α → β}
    {first second : List α}
    (same : first.map change = second.map change) :
    List.Forall₂ (fun a b => change a = change b) first second := by
  have areEqual : List.Forall₂ Eq (first.map change) (second.map change) := by
    rw [List.forall₂_eq_eq_eq, same]
  rwa [List.forall₂_map_left_iff, List.forall₂_map_right_iff] at areEqual

/-- Elements match a text after its characters have been replaced, if they admit the replacement of
every character that they admit. -/
theorem Matches.of_forall₂
    {elements : List Element}
    {text replaced : Text}
    (isMatch : Matches rules elements text)
    (areRelated : List.Forall₂ related text replaced)
    (carriesOver : ∀ element ∈ elements, ∀ c d, related c d →
      element.admits rules c = true → element.admits other d = true) :
    Matches other elements replaced := by
  induction isMatch generalizing replaced with
  | nil =>
      cases areRelated
      exact .nil
  | @star elements text taken behind ih =>
      have behindRelated := List.forall₂_drop taken.length areRelated
      rw [List.drop_left] at behindRelated
      have isMatch := ih behindRelated (List.forall_mem_cons.1 carriesOver).2
      rw [← List.take_append_drop taken.length replaced]
      exact .star _ isMatch
  | one admitted behind ih =>
      cases areRelated with
      | cons hereRelated behindRelated =>
          obtain ⟨hereCarries, laterCarries⟩ := List.forall_mem_cons.1 carriesOver
          exact .one (hereCarries _ _ hereRelated admitted) (ih behindRelated laterCarries)

/-- A segment of a path is replaced by another one: the characters are related in order, and if the
second is hidden under the other rules, then the first is under its own. -/
structure Replaces
    (rules other : Rules)
    (related : Char → Char → Prop)
    (text replaced : Text) : Prop where
  /-- The characters are related. -/
  chars : List.Forall₂ related text replaced
  /-- No visible segment becomes hidden. -/
  visible : rules.IsVisible text → other.IsVisible replaced

theorem SegmentMatches.of_replaces
    {elements : List Element}
    {text replaced : Text}
    (isMatch : SegmentMatches rules elements text)
    (replaces : Replaces rules other related text replaced)
    (carriesOver : ∀ element ∈ elements, ∀ c d, related c d →
      element.admits rules c = true → element.admits other d = true) :
    SegmentMatches other elements replaced := by
  refine ⟨isMatch.1.of_forall₂ replaces.chars carriesOver, fun isPeriod isDot => ?_⟩
  by_contra noDot
  have isVisible : rules.IsVisible text := fun isPeriod isDot => noDot (isMatch.2 isPeriod isDot)
  exact replaces.visible isVisible isPeriod isDot

/-- Segments of a pattern accept the segments of a path after these have been replaced. -/
theorem Accepts.of_forall₂
    {segments : List Segment}
    {texts replaced : List Text}
    (accepts : Accepts rules segments texts)
    (areReplaced : List.Forall₂ (Replaces rules other related) texts replaced)
    (carriesOver : ∀ elements, .single elements ∈ segments → ∀ element ∈ elements,
      ∀ c d, related c d → element.admits rules c = true → element.admits other d = true) :
    Accepts other segments replaced := by
  induction accepts generalizing replaced with
  | nil =>
      cases areReplaced
      exact .nil
  | single here behind ih =>
      cases areReplaced with
      | cons hereReplaced laterReplaced =>
          exact .single (here.of_replaces hereReplaced (carriesOver _ List.mem_cons_self))
            (ih laterReplaced fun elements isLater =>
              carriesOver elements (List.mem_cons_of_mem _ isLater))
  | stop behind ih =>
      exact .stop (ih areReplaced fun elements isLater =>
        carriesOver elements (List.mem_cons_of_mem _ isLater))
  | take isVisible hasNext behind ih =>
      cases areReplaced with
      | cons hereReplaced laterReplaced =>
          refine .take (hereReplaced.visible isVisible) ?_ (ih laterReplaced carriesOver)
          rintro rfl
          cases laterReplaced
          exact hasNext rfl

end Glob
end FilePaths
