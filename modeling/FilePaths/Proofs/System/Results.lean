import FilePaths.Stat.Query

/-!
# Results of runs

What a run can end with, whatever the world answers: properties of its values and of its errors,
passed on from the steps of a run to the whole.
-/

namespace FilePaths

namespace Procedure

variable {Failure World Value Result Final : Type}

theorem map_id (run : Procedure Failure World Value) :
    id <$> run = run := by
  funext scene
  change andThen run (fun value => done value) scene = run scene
  rw [andThen]
  split <;> rename_i run_eq <;> rw [run_eq]
  rfl

theorem bind_assoc
    (first : Procedure Failure World Value)
    (next : Value → Procedure Failure World Result)
    (last : Result → Procedure Failure World Final) :
    first >>= next >>= last = first >>= fun value => next value >>= last := by
  funext scene
  simp only [bind_apply]
  cases first_eq : first scene with
  | mk result after => cases result <;> rfl

instance : LawfulMonad (Procedure Failure World) :=
  LawfulMonad.mk' _ map_id (fun _ _ => rfl) bind_assoc

end Procedure

namespace Run

variable {World Value Result : Type}

/-- A run ends with the given result wherever it starts. -/
def Gives (run : Run World Value) (result : Except Error Value) : Prop :=
  ∀ scene, (run scene).1 = result

/-- Whatever value a run ends with has the given property. -/
def Ensures (run : Run World Value) (property : Value → Prop) : Prop :=
  ∀ scene value, (run scene).1 = .ok value → property value

/-- Whatever error a run ends with has the given property. -/
def FailsWith (run : Run World Value) (property : Error → Prop) : Prop :=
  ∀ scene error, (run scene).1 = .error error → property error

theorem gives_pure (value : Value) :
    (pure value : Run World Value).Gives (.ok value) :=
  fun _ => rfl

theorem gives_ofExcept (result : Except Error Value) :
    (ofExcept result : Run World Value).Gives result :=
  fun _ => rfl

theorem Gives.bind
    {first : Run World Value}
    {next : Value → Run World Result}
    {value : Value}
    {result : Except Error Result}
    (gives : first.Gives (.ok value))
    (behind : (next value).Gives result) :
    (first >>= next).Gives result := by
  intro scene
  have first_eq := gives scene
  rw [Procedure.bind_apply]
  split
  · simp_all [Gives]
  · simp_all

theorem ensures_pure
    {property : Value → Prop}
    {value : Value}
    (holds : property value) :
    (pure value : Run World Value).Ensures property := by
  rintro scene _ ⟨⟩
  exact holds

theorem ensures_bind
    {first : Run World Value}
    {next : Value → Run World Result}
    {property : Result → Prop}
    (ensures : ∀ value, (next value).Ensures property) :
    (first >>= next).Ensures property := by
  intro scene value
  rw [Procedure.bind_apply]
  split
  · exact ensures _ _ value
  · rintro ⟨⟩

theorem ensures_call
    {property : Value → Prop}
    {path : Text}
    {question : Call World Value}
    (holds : ∀ world value, (question world).1 = .ok value → property value) :
    (call path question).Ensures property := by
  intro scene value
  have fromAnswer := holds scene.world
  rw [call]
  split
  · rename_i question_eq
    rintro ⟨⟩
    exact fromAnswer _ (by rw [question_eq])
  · rintro ⟨⟩

variable {property : Error → Prop}

theorem failsWith_pure (value : Value) :
    (pure value : Run World Value).FailsWith property := by
  rintro scene error ⟨⟩

theorem failsWith_fail
    {error : Error}
    (holds : property error) :
    (fail error : Run World Value).FailsWith property := by
  rintro scene _ ⟨⟩
  exact holds

theorem failsWith_ofExcept
    {result : Except Error Value}
    (holds : ∀ error, result = .error error → property error) :
    (ofExcept result : Run World Value).FailsWith property :=
  fun _ error => holds error

theorem failsWith_ask (question : World → Value × World) :
    (ask question : Run World Value).FailsWith property := by
  rintro scene error ⟨⟩

theorem failsWith_call
    {path : Text}
    {question : Call World Value}
    (holds : ∀ world cause, (question world).1 = .error cause →
      property (Error.ofCause cause path)) :
    (call path question).FailsWith property := by
  intro scene error
  have fromCause := holds scene.world
  rw [call]
  split
  · rintro ⟨⟩
  · rename_i question_eq
    rintro ⟨⟩
    exact fromCause _ (by rw [question_eq])

theorem failsWith_bind
    {first : Run World Value}
    {next : Value → Run World Result}
    (here : first.FailsWith property)
    (behind : ∀ scene value, (first scene).1 = .ok value → (next value).FailsWith property) :
    (first >>= next).FailsWith property := by
  intro scene error
  have fromFirst := here scene
  rw [Procedure.bind_apply]
  split
  · rename_i first_eq
    exact behind scene _ (by rw [first_eq]) _ error
  · rename_i first_eq
    rintro ⟨⟩
    exact fromFirst error (by rw [first_eq])

/-- A run that ends with a value has come through its first step. -/
theorem exists_of_bind_eq_ok
    {first : Run World Value}
    {next : Value → Run World Result}
    {scene : Scene World}
    {result : Result}
    (result_eq : ((first >>= next) scene).1 = .ok result) :
    ∃ value, (first scene).1 = .ok value ∧ (next value (first scene).2).1 = .ok result := by
  rw [Procedure.bind_apply] at result_eq
  split at result_eq
  · rename_i value after first_eq
    exact ⟨value, by rw [first_eq], by rw [first_eq]; exact result_eq⟩
  · cases result_eq

theorem bind_result
    (first : Run World Value)
    (next : Value → Run World Result)
    (scene : Scene World) :
    ((first >>= next) scene).1 =
      (first scene).1.bind fun value => (next value (first scene).2).1 := by
  rw [Procedure.bind_apply]
  split <;> rename_i first_eq <;> rw [first_eq] <;> rfl

/-- A run goes on behind the value that its first step ends with. -/
theorem bind_result_of_eq_ok
    {first : Run World Value}
    {next : Value → Run World Result}
    {scene : Scene World}
    {value : Value}
    (first_eq : (first scene).1 = .ok value) :
    ((first >>= next) scene).1 = (next value (first scene).2).1 := by
  rw [Procedure.bind_apply]
  split <;> rename_i answered <;> rw [answered] at first_eq <;> cases first_eq
  rw [answered]

theorem call_result
    (path : Text)
    (question : Call World Value)
    (scene : Scene World) :
    (call path question scene).1 =
      match (question scene.world).1 with
      | .ok value => .ok value
      | .error cause => .error (Error.ofCause cause path) := by
  rw [call]
  split <;> rename_i question_eq <;> rw [question_eq]

theorem bind_pure_result
    (first : Run World Value)
    (change : Value → Result)
    (scene : Scene World) :
    ((first >>= fun value => pure (change value)) scene).1 = (first scene).1.map change := by
  rw [Procedure.bind_apply]
  split <;> rename_i first_eq <;> rw [first_eq] <;> rfl

end Run

/-! ## Questions about files -/

/-- What a probe finds is what the call answers, an absence being no failure. -/
theorem Query.probe_result
    {World : Type}
    (call : Call World SystemRecord)
    (path : Text)
    (scene : Scene World) :
    (probe call path scene).1 =
      match (call scene.world).1 with
      | .ok record => .ok (some (FileRecord.ofSystem record))
      | .error cause =>
          if cause.isAbsence then .ok none else .error (Error.ofCause cause path) := by
  simp only [probe, Procedure.bind_apply, Run.attempt, Run.ask]
  cases (call scene.world).1 with
  | ok record => rfl
  | error cause => cases isAbsence : cause.isAbsence <;> simp [isAbsence]

theorem Query.isSymlink_result
    {World : Type}
    (system : System World)
    (path : Text)
    (scene : Scene World) :
    (isSymlink system path scene).1 =
      match (system.lstat path scene.world).1 with
      | .ok record => .ok ((FileRecord.ofSystem record).isKind .symlink)
      | .error cause =>
          if cause.isAbsence then .ok false else .error (Error.ofCause cause path) := by
  rw [isSymlink, findEntry, Run.bind_pure_result, probe_result]
  cases (system.lstat path scene.world).1 with
  | ok record => rfl
  | error cause => cases isAbsence : cause.isAbsence <;> simp [isAbsence, Except.map]

theorem Query.fileExists_result
    {World : Type}
    (system : System World)
    (path : Text)
    (scene : Scene World) :
    (fileExists system path scene).1 =
      match (system.stat path scene.world).1 with
      | .ok _ => .ok true
      | .error cause =>
          if cause.isAbsence then .ok false else .error (Error.ofCause cause path) := by
  rw [fileExists, holds, find, Run.bind_pure_result, probe_result]
  cases (system.stat path scene.world).1 with
  | ok record => rfl
  | error cause => cases isAbsence : cause.isAbsence <;> simp [isAbsence, Except.map]

/-! ## Errors -/

variable {World : Type} {system : System World} {property : Error → Prop}

/-- Looking for a symbolic link fails only where the system does. -/
theorem Query.failsWith_isSymlink
    {path : Text}
    (holds : ∀ world cause, (system.lstat path world).1 = .error cause →
      property (Error.ofCause cause path)) :
    (isSymlink system path).FailsWith property := by
  refine Run.failsWith_bind (Run.failsWith_bind (Run.failsWith_ask _) ?_)
    fun _ _ _ => Run.failsWith_pure _
  rintro scene answer answer_eq
  cases answer with
  | ok record => exact Run.failsWith_pure _
  | error cause =>
      dsimp only
      split
      · exact Run.failsWith_pure _
      · exact Run.failsWith_fail (holds scene.world cause (Except.ok.inj answer_eq))

end FilePaths
