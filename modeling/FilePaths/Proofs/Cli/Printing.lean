import FilePaths.Proofs.Cli.Alike

/-!
# Printing

What the library does leaves the console as it is, and what prints leaves the world as it is and
cannot fail, except by refusing in the end.  So a command that asks first and prints last has
printed nothing where it fails in any other way.
-/

namespace FilePaths
namespace Cli

open Procedure (Corresponds EndsAlike)

variable {World Place Value Result : Type}

/-- The result of a command that ends with a refusal, if there is a reason for one. -/
def refuse : (reason? : Option String) → Except Failure Unit
  | none => .ok ()
  | some reason => .error (.refusal reason)

namespace Console

/-- Two consoles stand before the same outside world. -/
def SameMachine (console other : Console World) : Prop :=
  console.machine = other.machine

/-- A console stands before an outside world. -/
def Faces (console : Console World) (world : World) : Prop :=
  console.machine = world

end Console

namespace Job

/-- A job prints and does nothing else, and then refuses if there is a reason. -/
def Prints (job : Job (Console World) Unit) (reason? : Option String) : Prop :=
  ∀ scene, ∃ output remarks,
    job scene = (refuse reason?, { scene with world := { scene.world with output, remarks } })

/-- A job that fails has printed nothing, unless it refuses. -/
def PrintsLast (job : Job (Console World) Value) : Prop :=
  ∀ scene failure, (job scene).1 = .error failure →
    (∃ reason, failure = .refusal reason) ∨ (job scene).2.world.output = scene.world.output

/-! ## What prints -/

section Printing

variable
  {first second : Job (Console World) Unit}
  {reason? : Option String}

theorem prints_pure : Prints (pure () : Job (Console World) Unit) none :=
  fun _ => ⟨_, _, rfl⟩

theorem prints_refusal (reason : String) :
    Prints (Procedure.fail (.refusal reason) : Job (Console World) Unit) (some reason) :=
  fun _ => ⟨_, _, rfl⟩

theorem prints_print (text : Text) : Prints (Console.print text : Job (Console World) Unit) none :=
  fun _ => ⟨_, _, rfl⟩

theorem prints_remark (text : String) :
    Prints (Console.remark text : Job (Console World) Unit) none :=
  fun _ => ⟨_, _, rfl⟩

theorem Prints.bind
    (prints : first.Prints none)
    (behind : second.Prints reason?) :
    Prints (first >>= fun _ => second) reason? := by
  intro scene
  obtain ⟨output, remarks, first_eq⟩ := prints scene
  rw [Procedure.bind_apply, first_eq]
  exact behind _

theorem prints_forM
    {Item : Type}
    {job : Item → Job (Console World) Unit}
    (prints : ∀ item, (job item).Prints none)
    (items : List Item) :
    Prints (items.forM job) none := by
  induction items with
  | nil => exact prints_pure
  | cons item items ih => exact (prints item).bind ih

/-- A job that prints fails only by refusing. -/
theorem Prints.printsLast (prints : first.Prints reason?) : first.PrintsLast := by
  intro scene failure isFailure
  obtain ⟨output, remarks, first_eq⟩ := prints scene
  rw [first_eq] at isFailure
  cases reason? with
  | none => cases isFailure
  | some reason => exact .inl ⟨reason, (Except.error.inj isFailure).symm⟩

/-- Whatever is printed, jobs that print correspond if they refuse alike. -/
theorem Prints.corresponds
    (prints : first.Prints reason?)
    (prints' : second.Prints reason?) :
    Corresponds Console.SameMachine (EndsAlike Eq) first second := by
  intro scene other sameMachine
  obtain ⟨_, _, first_eq⟩ := prints scene
  obtain ⟨_, _, second_eq⟩ := prints' other
  rw [first_eq, second_eq]
  exact ⟨.refl _, sameMachine⟩

end Printing

/-! ## What is done at a console -/

section OnConsole

variable {job : Job World Value} {job' : Job World Result}

/-- Before a job that prints last the library may do anything. -/
theorem printsLast_onConsole_bind
    {next : Value → Job (Console World) Result}
    (behind : ∀ value, (next value).PrintsLast) :
    PrintsLast (job.onConsole >>= next) := by
  intro scene failure
  rw [Procedure.bind_apply]
  cases job_eq : job { world := scene.world.machine, events := scene.events } with
  | mk result after =>
      simp only [onConsole, job_eq]
      cases result with
      | ok value => exact behind value _ failure
      | error other => exact fun _ => .inr rfl

theorem onConsole_corresponds
    {related : Value → Result → Prop}
    (corresponds : Corresponds Eq (EndsAlike related) job job') :
    Corresponds Console.SameMachine (EndsAlike related) job.onConsole job'.onConsole :=
  fun _ _ sameMachine => corresponds _ _ sameMachine

/-- At a console a job does what it does without one. -/
theorem onConsole_corresponds_self
    {related : Value → Result → Prop}
    (corresponds : Corresponds Eq (EndsAlike related) job job') :
    Corresponds Console.Faces (EndsAlike related) job.onConsole job' :=
  fun _ _ sameMachine => corresponds _ _ sameMachine

end OnConsole
end Job

/-! ## Results -/

namespace Console

open Job (Prints prints_pure prints_refusal prints_print prints_remark prints_forM)

theorem printLines_prints (format : OutputFormat) (lines : List Text) (datum : Datum) :
    Prints (printLines format lines datum : Job (Console World) Unit) none := by
  cases format with
  | human => exact prints_forM (fun text => prints_print (line text)) lines
  | json => exact prints_print _

theorem printText_prints (format : OutputFormat) (key : String) (text : Text) :
    Prints (printText format key text : Job (Console World) Unit) none :=
  printLines_prints _ _ _

theorem printTexts_prints (format : OutputFormat) (key : String) (texts : List Text) :
    Prints (printTexts format key texts : Job (Console World) Unit) none :=
  printLines_prints _ _ _

theorem reportTruth_prints (format : OutputFormat) (quiet answer : Bool) (refusal : String) :
    Prints (reportTruth format quiet answer refusal : Job (Console World) Unit)
      (if answer then none else some refusal) := by
  refine (printLines_prints format _ _).bind ?_
  cases answer with
  | true => exact prints_pure
  | false => exact prints_refusal refusal

end Console

open Job (Prints prints_pure prints_remark prints_forM)

theorem introduceCompletions_prints (quiet : Bool) (shell : Shell) :
    Prints (introduceCompletions quiet shell : Job (Console World) Unit) none := by
  cases quiet with
  | true => exact prints_pure
  | false =>
      exact (prints_remark _).bind ((prints_remark _).bind
        ((prints_forM prints_remark _).bind (prints_remark _)))

end Cli
end FilePaths
