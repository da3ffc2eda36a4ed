import FilePaths.Cli.Execution
import FilePaths.Proofs.System.Alike
import FilePaths.Proofs.System.Results

/-!
# Procedures that end alike

Two procedures correspond if their results are related wherever they start in worlds that are alike,
and the worlds are alike afterwards.  What they note may differ.  The procedures of the library
never look at what has been noted, nor at what has been printed, so that they end alike wherever the
outside world is the same.
-/

namespace FilePaths

namespace Procedure

variable {Failure Other World Place First Second Third Fourth : Type}

/-- Two results are the same failure, or values that are related. -/
inductive EndsAlike (related : First → Second → Prop) :
    Except Failure First → Except Failure Second → Prop
  | done
      {first : First}
      {second : Second}
      (areRelated : related first second) :
      EndsAlike related (.ok first) (.ok second)
  | failed (failure : Failure) : EndsAlike related (.error failure) (.error failure)

/-- Wherever two procedures start in worlds that are alike, their results are related, and the
worlds are alike afterwards. -/
def Corresponds
    (alike : World → Place → Prop)
    (result : Except Failure First → Except Other Second → Prop)
    (first : Procedure Failure World First)
    (second : Procedure Other Place Second) : Prop :=
  ∀ scene other, alike scene.world other.world →
    result (first scene).1 (second other).1 ∧
      alike (first scene).2.world (second other).2.world

variable
  {alike : World → Place → Prop}
  {related : First → Second → Prop}
  {first : Procedure Failure World First}
  {second : Procedure Failure Place Second}

theorem EndsAlike.refl
    {Value : Type}
    (result : Except Failure Value) :
    EndsAlike Eq result result := by
  cases result with
  | ok value => exact .done rfl
  | error failure => exact .failed failure

theorem EndsAlike.eq
    {Value : Type}
    {result other : Except Failure Value}
    (endsAlike : EndsAlike Eq result other) :
    result = other := by
  cases endsAlike with
  | done same => exact congrArg Except.ok same
  | failed => rfl

/-- Results that end like the same one end alike. -/
theorem EndsAlike.through
    {here : First → Third → Prop}
    {there : Second → Third → Prop}
    {result : Except Failure First}
    {result' : Except Failure Second}
    {shared : Except Failure Third}
    (areRelated : ∀ value value' third, here value third → there value' third →
      related value value')
    (endsAlike : EndsAlike here result shared)
    (endsAlike' : EndsAlike there result' shared) :
    EndsAlike related result result' := by
  cases endsAlike with
  | done isHere =>
      cases endsAlike' with
      | done isThere => exact .done (areRelated _ _ _ isHere isThere)
  | failed failure =>
      cases endsAlike'
      exact .failed failure

namespace Corresponds

/-- What stands behind procedures that end alike decides how the results are related, where the
same failure in both does not break the relation. -/
theorem bind_into
    {result : Except Failure Third → Except Failure Fourth → Prop}
    {next : First → Procedure Failure World Third}
    {next' : Second → Procedure Failure Place Fourth}
    (onFailure : ∀ failure, result (.error failure) (.error failure))
    (corresponds : Corresponds alike (EndsAlike related) first second)
    (behind : ∀ value value', related value value' →
      Corresponds alike result (next value) (next' value')) :
    Corresponds alike result (first >>= next) (second >>= next') := by
  intro scene other areAlike
  have ends := corresponds scene other areAlike
  rw [bind_apply, bind_apply]
  cases first_eq : first scene with
  | mk firstResult after =>
  cases second_eq : second other with
  | mk secondResult after' =>
      rw [first_eq, second_eq] at ends
      obtain ⟨endsAlike, stillAlike⟩ := ends
      cases endsAlike with
      | done areRelated => exact behind _ _ areRelated after after' stillAlike
      | failed failure => exact ⟨onFailure failure, stillAlike⟩

theorem bind
    {result : Third → Fourth → Prop}
    {next : First → Procedure Failure World Third}
    {next' : Second → Procedure Failure Place Fourth}
    (corresponds : Corresponds alike (EndsAlike related) first second)
    (behind : ∀ value value', related value value' →
      Corresponds alike (EndsAlike result) (next value) (next' value')) :
    Corresponds alike (EndsAlike result) (first >>= next) (second >>= next') :=
  corresponds.bind_into (fun failure => .failed failure) behind

theorem pure
    {value : First}
    {value' : Second}
    (areRelated : related value value') :
    Corresponds alike (EndsAlike related) (pure value : Procedure Failure World First)
      (pure value' : Procedure Failure Place Second) :=
  fun _ _ areAlike => ⟨.done areRelated, areAlike⟩

theorem fail (failure : Failure) :
    Corresponds alike (EndsAlike related) (fail failure : Procedure Failure World First)
      (fail failure : Procedure Failure Place Second) :=
  fun _ _ areAlike => ⟨.failed failure, areAlike⟩

theorem map
    {result : Third → Fourth → Prop}
    {change : First → Third}
    {change' : Second → Fourth}
    (corresponds : Corresponds alike (EndsAlike related) first second)
    (areRelated : ∀ value value', related value value' → result (change value) (change' value')) :
    Corresponds alike (EndsAlike result) (change <$> first) (change' <$> second) :=
  corresponds.bind fun value value' isValue => pure (areRelated value value' isValue)

/-- What the second value is changed to at the end may be what the first one is related to. -/
theorem map_right
    {result : First → Fourth → Prop}
    {change : Second → Fourth}
    (corresponds : Corresponds alike (EndsAlike related) first second)
    (areRelated : ∀ value value', related value value' → result value (change value')) :
    Corresponds alike (EndsAlike result) first (change <$> second) := by
  rw [← map_id first]
  exact corresponds.map areRelated

theorem mapFailure
    (corresponds : Corresponds alike (EndsAlike related) first second)
    (change : Failure → Other) :
    Corresponds alike (EndsAlike related) (first.mapFailure change)
      (second.mapFailure change) := by
  intro scene other areAlike
  have ends := corresponds scene other areAlike
  unfold Procedure.mapFailure
  cases first_eq : first scene with
  | mk firstResult after =>
  cases second_eq : second other with
  | mk secondResult after' =>
      rw [first_eq, second_eq] at ends
      obtain ⟨endsAlike, stillAlike⟩ := ends
      cases endsAlike with
      | done areRelated => exact ⟨.done areRelated, stillAlike⟩
      | failed failure => exact ⟨.failed (change failure), stillAlike⟩

/-- Procedures that correspond to the same one correspond to each other. -/
theorem through
    {second : Procedure Failure World Second}
    {shared : Procedure Failure World Third}
    {here : First → Third → Prop}
    {there : Second → Third → Prop}
    (areRelated : ∀ value value' third, here value third → there value' third →
      related value value')
    (corresponds : Corresponds Eq (EndsAlike here) first shared)
    (corresponds' : Corresponds Eq (EndsAlike there) second shared) :
    Corresponds Eq (EndsAlike related) first second := by
  intro scene other sameWorld
  obtain ⟨endsAlike, isShared⟩ := corresponds scene scene rfl
  obtain ⟨endsAlike', isShared'⟩ := corresponds' other scene sameWorld.symm
  exact ⟨endsAlike.through areRelated endsAlike', isShared.trans isShared'.symm⟩

/-- Runs that end alike correspond. -/
theorem of_alike
    {Value : Type}
    {run : Run World Value}
    {run' : Run Place Value}
    (endAlike : Run.Alike alike run run') :
    Corresponds alike (EndsAlike Eq) run run' := by
  intro scene other areAlike
  obtain ⟨sameResult, stillAlike⟩ := endAlike scene other areAlike
  rw [sameResult]
  exact ⟨.refl _, stillAlike⟩

end Corresponds
end Procedure

/-! ## Questions about files -/

variable {World Value : Type} {system : System World}

theorem Question.alike_refl (question : World → Value × World) :
    Question.Alike Eq question question := by
  rintro world _ rfl
  exact ⟨rfl, rfl⟩

/-- A system is like itself. -/
theorem System.resolvesAlike_refl (system : System World) : system.ResolvesAlike Eq system where
  currentDir := Question.alike_refl _
  homeDir := Question.alike_refl _
  lstat := fun _ => Question.alike_refl _
  readlink := fun _ => Question.alike_refl _
  stat := fun _ => Question.alike_refl _
  realpath := fun _ => Question.alike_refl _

theorem Run.alike_map
    {Result : Type}
    {run : Run World Value}
    (alike : Run.Alike Eq run run)
    (change : Value → Result) :
    Run.Alike Eq (change <$> run) (change <$> run) :=
  Run.alike_bind alike fun _ => Run.alike_pure _

namespace Query

theorem find_alike (path : Text) : Run.Alike Eq (find system path) (find system path) :=
  probe_alike (Question.alike_refl _) path

theorem findEntry_alike (path : Text) :
    Run.Alike Eq (findEntry system path) (findEntry system path) :=
  probe_alike (Question.alike_refl _) path

theorem passes_alike
    (test : FileRecord → (user group : UInt32) → Bool)
    (record? : Option FileRecord) :
    Run.Alike Eq (passes system test record?) (passes system test record?) := by
  cases record? with
  | none => exact Run.alike_pure _
  | some record =>
      exact Run.alike_bind (Run.alike_ask (Question.alike_refl _)) fun _ => Run.alike_pure _

theorem stat_alike (path : Text) : Run.Alike Eq (stat system path) (stat system path) :=
  Run.alike_bind (Run.alike_call path (Question.alike_refl _)) fun _ => Run.alike_pure _

theorem lstat_alike (path : Text) : Run.Alike Eq (lstat system path) (lstat system path) :=
  Run.alike_bind (Run.alike_call path (Question.alike_refl _)) fun _ => Run.alike_pure _

theorem kind_alike (path : Text) : Run.Alike Eq (kind system path) (kind system path) :=
  Run.alike_bind (lstat_alike path) fun _ => Run.alike_pure _

theorem isIdentical_alike (first second : Text) :
    Run.Alike Eq (isIdentical system first second) (isIdentical system first second) := by
  refine Run.alike_bind (find_alike first) fun record? => ?_
  cases record? with
  | none => exact Run.alike_pure _
  | some record => exact holds_alike system.resolvesAlike_refl _ second

end Query

/-! ## Configurations -/

namespace Config

variable {host : Host World}

theorem load_alike (path : Text) : Run.Alike Eq (load host path) (load host path) := by
  refine Run.alike_bind (Run.alike_call path (Question.alike_refl _)) fun stream => ?_
  cases host.readConfig stream with
  | some config => exact Run.alike_pure config
  | none => exact Run.alike_fail _

theorem userPath?_alike (directory? : Option Text) :
    Run.Alike Eq (userPath? host directory?) (userPath? host directory?) := by
  cases directory? with
  | some directory => exact Run.alike_pure _
  | none =>
      exact Run.alike_bind (Run.alike_ask (Question.alike_refl _)) fun _ => Run.alike_pure _

theorem loadUser_alike (directory? : Option Text) :
    Run.Alike Eq (loadUser host directory?) (loadUser host directory?) := by
  refine Run.alike_bind (userPath?_alike directory?) fun path? => ?_
  cases path? with
  | none => exact Run.alike_bind (Run.alike_note _) fun _ => Run.alike_pure _
  | some path =>
      refine Run.alike_bind (Run.alike_ask (Question.alike_refl _)) fun answer => ?_
      cases answer with
      | error cause => exact Run.alike_bind (Run.alike_note _) fun _ => Run.alike_pure _
      | ok record =>
          exact Run.alike_bind (Run.alike_note _) fun _ =>
            Run.alike_bind (load_alike path) fun _ => Run.alike_pure _

theorem loadNamed_alike (named? : Option Text) :
    Run.Alike Eq (loadNamed host named?) (loadNamed host named?) := by
  cases named? with
  | none => exact Run.alike_pure _
  | some path => exact Run.alike_bind (load_alike path) fun _ => Run.alike_pure _

theorem ofFiles_alike (plan : Plan) : Run.Alike Eq (ofFiles host plan) (ofFiles host plan) := by
  unfold ofFiles
  split
  · exact Run.alike_pure _
  · refine Run.alike_bind ?_ fun _ => Run.alike_pure _
    exact Run.alike_bind (loadUser_alike _) fun _ =>
      Run.alike_bind (loadNamed_alike _) fun _ => Run.alike_pure _

/-- The configuration in force depends on the world only. -/
theorem assemble_alike (plan : Plan) : Run.Alike Eq (assemble host plan) (assemble host plan) :=
  Run.alike_bind (ofFiles_alike plan) fun _ =>
    Run.alike_bind (Run.alike_ofExcept _) fun _ =>
      Run.alike_bind (Run.alike_ofExcept _) fun _ => Run.alike_pure _

end Config
end FilePaths
