import FilePaths.Path.Expand
import FilePaths.Proofs.Path.Components
import FilePaths.Proofs.System.Results

/-!
# Results of making a path absolute

A path that has been made absolute is canonical, and it has the settled components of the
directory and of the path.  It is refused for its form, or because a directory is not known.
-/

namespace FilePaths
namespace Path

variable {World : Type} {system : System World} {property : Error → Prop}

/-! ## Values -/

/-- A path that has been made absolute is canonical. -/
theorem expandFrom_isCanonical
    (tilde : Bool)
    (directory : Run World Text)
    (path : Text) :
    (expandFrom system tilde directory path).Ensures IsCanonical := by
  refine Run.ensures_bind fun _ => ?_
  dsimp only
  split
  · exact Run.ensures_bind fun _ => Run.ensures_pure (resolve_isCanonical _)
  · split
    · exact Run.ensures_bind fun _ => Run.ensures_pure (resolve_isCanonical _)
    · exact Run.ensures_bind fun _ =>
        Run.ensures_bind fun _ => Run.ensures_pure (resolve_isCanonical _)

theorem expand_isCanonical
    (tilde : Bool)
    (base? : Option Text)
    (path : Text) :
    (expand system tilde base? path).Ensures IsCanonical := by
  cases base? with
  | none => exact expandFrom_isCanonical tilde _ path
  | some base => exact expandFrom_isCanonical tilde _ path

/-! ## Errors -/

theorem failsWith_checkNull
    {text : Text}
    (onMisuse : ∀ misuse, property (.invalidArgument misuse)) :
    (Run.ofExcept (checkNull text) : Run World Unit).FailsWith property := by
  refine Run.failsWith_ofExcept fun error => ?_
  rw [checkNull]
  split
  · rintro ⟨⟩
    exact onMisuse _
  · rintro ⟨⟩

theorem failsWith_expandHome
    {path : Text}
    (onMisuse : ∀ misuse, property (.invalidArgument misuse)) :
    (expandHome system path).FailsWith property := by
  unfold expandHome
  dsimp only
  split
  · exact Run.failsWith_fail (onMisuse _)
  · refine Run.failsWith_bind (Run.failsWith_ask _) fun _ home? _ => ?_
    cases home? with
    | none => exact Run.failsWith_fail (onMisuse _)
    | some home =>
        dsimp only
        split
        · exact Run.failsWith_pure _
        · exact Run.failsWith_fail (onMisuse _)

theorem failsWith_expandFrom
    {tilde : Bool}
    {directory : Run World Text}
    {path : Text}
    (onMisuse : ∀ misuse, property (.invalidArgument misuse))
    (onDirectory : directory.FailsWith property) :
    (expandFrom system tilde directory path).FailsWith property := by
  refine Run.failsWith_bind (failsWith_checkNull onMisuse) fun _ _ _ => ?_
  dsimp only
  split
  · exact Run.failsWith_bind (failsWith_expandHome onMisuse) fun _ _ _ => Run.failsWith_pure _
  · split
    · exact Run.failsWith_bind (Run.failsWith_pure path) fun _ _ _ => Run.failsWith_pure _
    · exact Run.failsWith_bind onDirectory fun _ _ _ =>
        Run.failsWith_bind (Run.failsWith_pure _) fun _ _ _ => Run.failsWith_pure _

/-- Making a path absolute fails with a rejected argument, or because the working directory is not
known. -/
theorem failsWith_expand
    {tilde : Bool}
    {base? : Option Text}
    {path : Text}
    (onMisuse : ∀ misuse, property (.invalidArgument misuse))
    (onDirectory : ∀ world cause, (system.currentDir world).1 = .error cause →
      property (Error.ofCause cause ['.'])) :
    (expand system tilde base? path).FailsWith property := by
  have atDirectory : (workingDirectory system).FailsWith property :=
    Run.failsWith_call onDirectory
  cases base? with
  | none => exact failsWith_expandFrom onMisuse atDirectory
  | some base =>
      exact failsWith_expandFrom onMisuse (failsWith_expandFrom onMisuse atDirectory)

end Path
end FilePaths
