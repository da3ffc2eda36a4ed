import FilePaths.Symlink.Walk

/-!
# Systems that answer alike

The same procedure runs on two systems whose worlds are related.  If every question that it asks
is answered alike and leaves the worlds related, the procedure ends alike on both.  With related
worlds of one system this says that a result depends on the answers only; with a watched world it
says that watching changes nothing.
-/

namespace FilePaths

variable {World Other Value Result : Type}

/-- Two questions to related worlds are answered alike, and the worlds stay related. -/
def Question.Alike
    (related : World → Other → Prop)
    (first : World → Value × World)
    (second : Other → Value × Other) : Prop :=
  ∀ world other, related world other →
    (first world).1 = (second other).1 ∧ related (first world).2 (second other).2

namespace Run

/-- Two runs on related worlds end alike, and the worlds stay related. -/
def Alike
    (related : World → Other → Prop)
    (first : Run World Value)
    (second : Run Other Value) : Prop :=
  ∀ scene other, related scene.world other.world →
    (first scene).1 = (second other).1 ∧
      related (first scene).2.world (second other).2.world

variable {related : World → Other → Prop}

theorem alike_pure (value : Value) :
    Alike related (pure value) (pure value) :=
  fun _ _ areRelated => ⟨rfl, areRelated⟩

theorem alike_fail (error : Error) :
    Alike related (fail error : Run World Value) (fail error) :=
  fun _ _ areRelated => ⟨rfl, areRelated⟩

theorem alike_ofExcept (result : Except Error Value) :
    Alike related (ofExcept result) (ofExcept result) :=
  fun _ _ areRelated => ⟨rfl, areRelated⟩

theorem alike_note (event : Event) :
    Alike related (note event) (note event) :=
  fun _ _ areRelated => ⟨rfl, areRelated⟩

theorem alike_ask
    {first : World → Value × World}
    {second : Other → Value × Other}
    (alike : Question.Alike related first second) :
    Alike related (ask first) (ask second) := by
  intro scene other areRelated
  obtain ⟨sameAnswer, stayRelated⟩ := alike scene.world other.world areRelated
  exact ⟨congrArg Except.ok sameAnswer, stayRelated⟩

theorem alike_call
    (path : Text)
    {first : Call World Value}
    {second : Call Other Value}
    (alike : Question.Alike related first second) :
    Alike related (call path first) (call path second) := by
  intro scene other areRelated
  obtain ⟨sameAnswer, stayRelated⟩ := alike scene.world other.world areRelated
  cases first_eq : first scene.world with
  | mk answer after =>
  cases second_eq : second other.world with
  | mk answer' after' =>
      rw [first_eq, second_eq] at sameAnswer stayRelated
      obtain rfl : answer = answer' := sameAnswer
      cases answer <;> simpa [call, first_eq, second_eq] using stayRelated

theorem alike_bind
    {first : Run World Value}
    {second : Run Other Value}
    {next : Value → Run World Result}
    {next' : Value → Run Other Result}
    (alike : Alike related first second)
    (behind : ∀ value, Alike related (next value) (next' value)) :
    Alike related (first >>= next) (second >>= next') := by
  intro scene other areRelated
  obtain ⟨sameResult, stayRelated⟩ := alike scene other areRelated
  rw [Procedure.bind_apply, Procedure.bind_apply]
  cases first_eq : first scene with
  | mk result after =>
  cases second_eq : second other with
  | mk result' after' =>
      rw [first_eq, second_eq] at sameResult stayRelated
      obtain rfl : result = result' := sameResult
      cases result with
      | ok value => exact behind value after after' stayRelated
      | error error => exact ⟨rfl, stayRelated⟩

end Run

/-- Two systems answer alike what has to be asked to make a path absolute. -/
structure System.NamesAlike
    (related : World → Other → Prop)
    (system : System World)
    (other : System Other) : Prop where
  currentDir : Question.Alike related system.currentDir other.currentDir
  homeDir : Question.Alike related system.homeDir other.homeDir

/-- Two systems answer alike what has to be asked to find symbolic links and to make a path
absolute. -/
structure System.LooksAlike
    (related : World → Other → Prop)
    (system : System World)
    (other : System Other) : Prop extends System.NamesAlike related system other where
  lstat : ∀ path, Question.Alike related (system.lstat path) (other.lstat path)

/-- Two systems answer alike whatever a walk asks. -/
structure System.WalksAlike
    (related : World → Other → Prop)
    (system : System World)
    (other : System Other) : Prop extends System.LooksAlike related system other where
  readlink : ∀ path, Question.Alike related (system.readlink path) (other.readlink path)

/-- Two systems answer alike whatever is asked for a canonical path of an existing file. -/
structure System.ResolvesAlike
    (related : World → Other → Prop)
    (system : System World)
    (other : System Other) : Prop extends System.WalksAlike related system other where
  stat : ∀ path, Question.Alike related (system.stat path) (other.stat path)
  realpath : ∀ path, Question.Alike related (system.realpath path) (other.realpath path)

variable {related : World → Other → Prop} {system : System World} {other : System Other}

namespace Query

theorem probe_alike
    {first : Call World SystemRecord}
    {second : Call Other SystemRecord}
    (alike : Question.Alike related first second)
    (path : Text) :
    Run.Alike related (probe first path) (probe second path) := by
  refine Run.alike_bind (Run.alike_ask alike) fun answer => ?_
  cases answer with
  | ok record => exact Run.alike_pure _
  | error cause =>
      dsimp only
      split
      · exact Run.alike_pure _
      · exact Run.alike_fail _

theorem isSymlink_alike
    (alike : system.LooksAlike related other)
    (path : Text) :
    Run.Alike related (isSymlink system path) (isSymlink other path) :=
  Run.alike_bind (probe_alike (alike.lstat path) path) fun _ => Run.alike_pure _

theorem holds_alike
    (alike : system.ResolvesAlike related other)
    (test : FileRecord → Bool)
    (path : Text) :
    Run.Alike related (holds system test path) (holds other test path) :=
  Run.alike_bind (probe_alike (alike.stat path) path) fun _ => Run.alike_pure _

end Query

namespace Path

theorem expandHome_alike
    (alike : system.NamesAlike related other)
    (path : Text) :
    Run.Alike related (expandHome system path) (expandHome other path) := by
  unfold expandHome
  dsimp only
  split
  · exact Run.alike_fail _
  · refine Run.alike_bind (Run.alike_ask alike.homeDir) fun home? => ?_
    cases home? with
    | none => exact Run.alike_fail _
    | some home =>
        dsimp only
        split
        · exact Run.alike_pure _
        · exact Run.alike_fail _

theorem expandFrom_alike
    (alike : system.NamesAlike related other)
    (tilde : Bool)
    {directory : Run World Text}
    {directory' : Run Other Text}
    (sameDirectory : Run.Alike related directory directory')
    (path : Text) :
    Run.Alike related
      (expandFrom system tilde directory path)
      (expandFrom other tilde directory' path) := by
  refine Run.alike_bind (Run.alike_ofExcept _) fun _ => ?_
  dsimp only
  split
  · exact Run.alike_bind (expandHome_alike alike path) fun _ => Run.alike_pure _
  · split
    · exact Run.alike_bind (Run.alike_pure path) fun _ => Run.alike_pure _
    · exact Run.alike_bind sameDirectory fun _ =>
        Run.alike_bind (Run.alike_pure _) fun _ => Run.alike_pure _

theorem expand_alike
    (alike : system.NamesAlike related other)
    (tilde : Bool)
    (base? : Option Text)
    (path : Text) :
    Run.Alike related (expand system tilde base? path) (expand other tilde base? path) := by
  have sameDirectory : Run.Alike related (workingDirectory system) (workingDirectory other) :=
    Run.alike_call _ alike.currentDir
  cases base? with
  | none => exact expandFrom_alike alike tilde sameDirectory path
  | some base =>
      exact expandFrom_alike alike tilde (expandFrom_alike alike tilde sameDirectory base) path

end Path

namespace Symlink

theorem replaceLink_alike
    (alike : system.WalksAlike related other)
    (link rest : Text) :
    Run.Alike related (replaceLink system link rest) (replaceLink other link rest) := by
  refine Run.alike_bind (Run.alike_call link (alike.readlink link)) fun target => ?_
  refine Run.alike_bind (Run.alike_note _) fun _ => ?_
  exact Path.expand_alike alike.toNamesAlike false _ _

theorem advance_alike
    (alike : system.WalksAlike related other)
    (limit : Nat)
    (visited : List Text)
    (real pending : Text) :
    Run.Alike related
      (advance system limit visited real pending)
      (advance other limit visited real pending) := by
  fun_induction advance system limit visited real pending with
  | case1 visited real =>
      rw [advance]
      exact Run.alike_pure real
  | case2 visited real slash behind real' rest ihFollow ihPass =>
      rw [advance]
      refine Run.alike_bind (Query.isSymlink_alike alike.toLooksAlike _) fun isLink => ?_
      cases isLink with
      | false => exact ihPass
      | true =>
          simp only [if_true]
          split
          · exact Run.alike_fail _
          · rename_i notRefused
            exact Run.alike_bind (replaceLink_alike alike _ _) fun pending =>
              ihFollow notRefused pending

/-- On systems that answer alike a walk ends alike. -/
theorem walk_alike
    (alike : system.WalksAlike related other)
    (limit : Nat)
    (base? : Option Text)
    (path : Text) :
    Run.Alike related (walk system limit base? path) (walk other limit base? path) :=
  Run.alike_bind (Path.expand_alike alike.toNamesAlike true base? path) fun pending =>
    advance_alike alike limit [] [] pending

theorem canonical_alike
    (alike : system.ResolvesAlike related other)
    (strategy : Strategy)
    (limit : Nat)
    (path : Text) :
    Run.Alike related (canonical system strategy limit path)
      (canonical other strategy limit path) := by
  cases strategy with
  | walk => exact walk_alike alike.toWalksAlike limit none path
  | native =>
      refine Run.alike_bind (Run.alike_ask (alike.realpath path)) fun answer => ?_
      cases answer with
      | ok real => exact Run.alike_pure real
      | error cause =>
          dsimp only
          split
          · exact Run.alike_bind (Run.alike_note _) fun _ =>
              walk_alike alike.toWalksAlike limit none path
          · exact Run.alike_fail _

/-- On systems that answer alike the canonical path of a file is the same. -/
theorem realpath_alike
    (alike : system.ResolvesAlike related other)
    (strategy : Strategy)
    (limit : Nat)
    (base? : Option Text)
    (path : Text) :
    Run.Alike related (realpath system strategy limit base? path)
      (realpath other strategy limit base? path) := by
  have behind : ∀ target,
      Run.Alike related
        (canonical system strategy limit target >>= fun real => do
          if ← Query.fileExists system real then pure real else Run.fail (.notFound real))
        (canonical other strategy limit target >>= fun real => do
          if ← Query.fileExists other real then pure real else Run.fail (.notFound real)) := by
    intro target
    refine Run.alike_bind (canonical_alike alike strategy limit target) fun real => ?_
    refine Run.alike_bind (Query.holds_alike alike _ real) fun isThere => ?_
    cases isThere with
    | true => exact Run.alike_pure real
    | false => exact Run.alike_fail _
  unfold realpath
  dsimp only
  split
  · exact Run.alike_bind (Run.alike_ofExcept _) fun _ =>
      Run.alike_bind (Run.alike_pure path) behind
  · exact Run.alike_bind (Path.expand_alike alike.toNamesAlike true base? path) behind

/-- On systems that answer alike the canonical path of a file that may be missing is the same. -/
theorem realdirpath_alike
    (alike : system.ResolvesAlike related other)
    (limit : Nat)
    (base? : Option Text)
    (path : Text) :
    Run.Alike related (realdirpath system limit base? path)
      (realdirpath other limit base? path) := by
  refine Run.alike_bind (walk_alike alike.toWalksAlike limit base? path) fun real => ?_
  refine Run.alike_bind (Query.holds_alike alike _ (Path.dirname real)) fun isThere => ?_
  cases isThere with
  | true => exact Run.alike_pure real
  | false => exact Run.alike_fail _

end Symlink
end FilePaths
