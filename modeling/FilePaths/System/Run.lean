import FilePaths.Log.Event
import FilePaths.System.Interface

/-!
# Runs

A procedure works on the outside world: it makes calls, notes events, and ends with a value or a
failure.  Events and changes of the world stay when it fails.  The procedures of the library are
called runs, and fail with its errors.
-/

namespace FilePaths

/-- The outside world, and the events that have been noted, the latest first. -/
structure Scene (World : Type) where
  /-- The outside world. -/
  world : World
  /-- The events noted so far. -/
  events : List Event := []

/-- A computation on a scene, which may end with a failure. -/
def Procedure (Failure World Value : Type) :=
  Scene World → Except Failure Value × Scene World

namespace Procedure

variable {Failure Other World Value Result : Type}

/-- Ends with a value and does nothing. -/
def done (value : Value) : Procedure Failure World Value :=
  fun scene => (.ok value, scene)

/-- Ends with a failure and does nothing. -/
def fail (failure : Failure) : Procedure Failure World Value :=
  fun scene => (.error failure, scene)

/-- Goes on with the value of a first computation, unless that ends with a failure. -/
def andThen
    (first : Procedure Failure World Value)
    (next : Value → Procedure Failure World Result) :
    Procedure Failure World Result :=
  fun scene =>
    match first scene with
    | (.ok value, after) => next value after
    | (.error failure, after) => (.error failure, after)

instance : Monad (Procedure Failure World) where
  pure := done
  bind := andThen

/-- The same computation with its failures seen in another way. -/
def mapFailure
    (change : Failure → Other)
    (procedure : Procedure Failure World Value) :
    Procedure Other World Value :=
  fun scene =>
    match procedure scene with
    | (.ok value, after) => (.ok value, after)
    | (.error failure, after) => (.error (change failure), after)

@[simp] theorem pure_apply (value : Value) (scene : Scene World) :
    (pure value : Procedure Failure World Value) scene = (.ok value, scene) := rfl

@[simp] theorem fail_apply (failure : Failure) (scene : Scene World) :
    (fail failure : Procedure Failure World Value) scene = (.error failure, scene) := rfl

theorem bind_apply
    (first : Procedure Failure World Value)
    (next : Value → Procedure Failure World Result)
    (scene : Scene World) :
    (first >>= next) scene =
      match first scene with
      | (.ok value, after) => next value after
      | (.error failure, after) => (.error failure, after) := rfl

end Procedure

/-- A computation of the library: its failures are errors. -/
abbrev Run (World : Type) : Type → Type :=
  Procedure Error World

namespace Run

variable {World Value : Type}

/-- Ends with an error and does nothing. -/
def fail (error : Error) : Run World Value :=
  Procedure.fail error

/-- A result that does not depend on the world. -/
def ofExcept (result : Except Error Value) : Run World Value :=
  fun scene => (result, scene)

/-- Notes an event. -/
def note (event : Event) : Run World Unit :=
  fun scene => (.ok (), { scene with events := event :: scene.events })

/-- Asks the world for something that it always knows. -/
def ask (question : World → Value × World) : Run World Value :=
  fun scene =>
    let (value, world) := question scene.world
    (.ok value, { scene with world })

/-- Makes a call and gives its answer, whatever it is. -/
def attempt (call : Call World Value) : Run World (Except Cause Value) :=
  ask call

/-- Makes a call for a path; a failure becomes the error that it means for that path. -/
def call (path : Text) (call : Call World Value) : Run World Value :=
  fun scene =>
    match call scene.world with
    | (.ok value, world) => (.ok value, { scene with world })
    | (.error cause, world) => (.error (Error.ofCause cause path), { scene with world })

@[simp] theorem fail_apply (error : Error) (scene : Scene World) :
    (fail error : Run World Value) scene = (.error error, scene) := rfl

@[simp] theorem ofExcept_apply (result : Except Error Value) (scene : Scene World) :
    ofExcept result scene = (result, scene) := rfl

@[simp] theorem note_apply (event : Event) (scene : Scene World) :
    note event scene = (.ok (), { scene with events := event :: scene.events }) := rfl

end Run
end FilePaths
