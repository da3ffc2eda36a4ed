import FilePaths.Proofs.System.Alike
import FilePaths.Proofs.System.Results
import FilePaths.System.Table
import FilePaths.System.Trace

/-!
# Steady systems

The answers of a steady system depend on the path alone.  What a walk looks at is then the same
wherever and whenever it looks, so that a run can be said to give a result.  On the watched system
a run also shows which targets it reads.
-/

namespace FilePaths

variable {World Value Result : Type}

/-- Every world gives the same answer to a question. -/
def Question.Answers (question : World → Value × World) (answer : Value) : Prop :=
  ∀ world, (question world).1 = answer

/-- What the system answers to a question about a path depends on the path alone. -/
structure System.IsSteady (system : System World) : Prop where
  stat : ∀ path first second, (system.stat path first).1 = (system.stat path second).1
  lstat : ∀ path first second, (system.lstat path first).1 = (system.lstat path second).1
  readlink : ∀ path first second,
    (system.readlink path first).1 = (system.readlink path second).1
  realpath : ∀ path first second,
    (system.realpath path first).1 = (system.realpath path second).1
  currentDir : ∀ first second, (system.currentDir first).1 = (system.currentDir second).1
  homeDir : ∀ first second, (system.homeDir first).1 = (system.homeDir second).1

variable {system : System World}

namespace System.IsSteady

theorem resolvesAlike (isSteady : system.IsSteady) :
    system.ResolvesAlike (fun _ _ => True) system where
  stat path first second _ := ⟨isSteady.stat path first second, trivial⟩
  lstat path first second _ := ⟨isSteady.lstat path first second, trivial⟩
  readlink path first second _ := ⟨isSteady.readlink path first second, trivial⟩
  realpath path first second _ := ⟨isSteady.realpath path first second, trivial⟩
  currentDir first second _ := ⟨isSteady.currentDir first second, trivial⟩
  homeDir first second _ := ⟨isSteady.homeDir first second, trivial⟩

/-- Whether there is a symbolic link at a path does not change. -/
theorem isSymlink_gives
    (isSteady : system.IsSteady)
    (path : Text)
    (scene : Scene World) :
    (Query.isSymlink system path).Gives (Query.isSymlink system path scene).1 :=
  fun other =>
    (Query.isSymlink_alike isSteady.resolvesAlike.toLooksAlike path other scene trivial).1

/-- What a path expands to does not change. -/
theorem expand_gives
    (isSteady : system.IsSteady)
    (tilde : Bool)
    (base? : Option Text)
    (path : Text)
    (scene : Scene World) :
    (Path.expand system tilde base? path).Gives (Path.expand system tilde base? path scene).1 :=
  fun other =>
    (Path.expand_alike isSteady.resolvesAlike.toNamesAlike tilde base? path other scene trivial).1

/-- What a walk ends with does not change. -/
theorem walk_gives
    (isSteady : system.IsSteady)
    (limit : Nat)
    (base? : Option Text)
    (path : Text)
    (scene : Scene World) :
    (Symlink.walk system limit base? path).Gives (Symlink.walk system limit base? path scene).1 :=
  fun other =>
    (Symlink.walk_alike isSteady.resolvesAlike.toWalksAlike limit base? path other scene trivial).1

/-- Whether the file at a path passes a test does not change. -/
theorem holds_gives
    (isSteady : system.IsSteady)
    (test : FileRecord → Bool)
    (path : Text)
    (scene : Scene World) :
    (Query.holds system test path).Gives (Query.holds system test path scene).1 :=
  fun other => (Query.holds_alike isSteady.resolvesAlike test path other scene trivial).1

theorem fileExists_gives
    (isSteady : system.IsSteady)
    (path : Text)
    (scene : Scene World) :
    (Query.fileExists system path).Gives (Query.fileExists system path scene).1 :=
  isSteady.holds_gives _ path scene

theorem readlink_answers
    (isSteady : system.IsSteady)
    (path : Text)
    (world : World) :
    Question.Answers (system.readlink path) (system.readlink path world).1 :=
  fun other => isSteady.readlink path other world

end System.IsSteady

/-- A system that answers from a table is steady. -/
theorem Table.isSteady (table : Table) : table.system.IsSteady where
  stat _ _ _ := rfl
  lstat _ _ _ := rfl
  readlink _ _ _ := rfl
  realpath _ _ _ := rfl
  currentDir _ _ := rfl
  homeDir _ _ := rfl

/-! ## Systems of one world -/

/-- A question as it is answered in one world. -/
def Question.frozen
    (question : World → Value × World)
    (world : World) :
    Unit → Value × Unit :=
  fun _ => ((question world).1, ())

/-- The system as it answers in one world, whatever happens. -/
def System.frozen (system : System World) (world : World) : System Unit where
  stat path := Question.frozen (system.stat path) world
  lstat path := Question.frozen (system.lstat path) world
  fstat descriptor := Question.frozen (system.fstat descriptor) world
  readlink path := Question.frozen (system.readlink path) world
  realpath path := Question.frozen (system.realpath path) world
  chmod path mode := Question.frozen (system.chmod path mode) world
  fchmod descriptor mode := Question.frozen (system.fchmod descriptor mode) world
  lchmod path mode := Question.frozen (system.lchmod path mode) world
  chown path owner group := Question.frozen (system.chown path owner group) world
  fchown descriptor owner group := Question.frozen (system.fchown descriptor owner group) world
  lchown path owner group := Question.frozen (system.lchown path owner group) world
  link old new := Question.frozen (system.link old new) world
  symlink target new := Question.frozen (system.symlink target new) world
  rename source target := Question.frozen (system.rename source target) world
  unlink path := Question.frozen (system.unlink path) world
  truncate path length := Question.frozen (system.truncate path length) world
  ftruncate descriptor length := Question.frozen (system.ftruncate descriptor length) world
  utimes path accessed modified := Question.frozen (system.utimes path accessed modified) world
  lutimes path accessed modified := Question.frozen (system.lutimes path accessed modified) world
  mkfifo path mode := Question.frozen (system.mkfifo path mode) world
  umask mask := Question.frozen (system.umask mask) world
  currentDir := Question.frozen system.currentDir world
  homeDir := Question.frozen system.homeDir world
  effectiveIds := Question.frozen system.effectiveIds world
  hasLchmod := Question.frozen system.hasLchmod world
  now := Question.frozen system.now world

theorem System.frozen_isSteady (system : System World) (world : World) :
    (system.frozen world).IsSteady where
  stat _ _ _ := rfl
  lstat _ _ _ := rfl
  readlink _ _ _ := rfl
  realpath _ _ _ := rfl
  currentDir _ _ := rfl
  homeDir _ _ := rfl

/-! ## Targets that are read -/

/-- The path whose target a call reads, if it reads one. -/
def SystemCall.readlink? : SystemCall → Option Text
  | .readlink path => some path
  | _ => none

/-- The paths whose targets have been read, in order. -/
def Watched.reads (watched : Watched World) : List Text :=
  (watched.calls.filterMap SystemCall.readlink?).reverse

/-- The same scene with its world watched from now on. -/
def Scene.watch (scene : Scene World) : Scene (Watched World) :=
  ⟨⟨scene.world, []⟩, scene.events⟩

/-- Watching changes no answer that a walk gets. -/
theorem System.watched_walksAlike (system : System World) :
    system.WalksAlike (fun world watched => world = watched.world) system.watched where
  lstat path := by rintro _ watched rfl; exact ⟨rfl, rfl⟩
  readlink path := by rintro _ watched rfl; exact ⟨rfl, rfl⟩
  currentDir := by rintro _ watched rfl; exact ⟨rfl, rfl⟩
  homeDir := by rintro _ watched rfl; exact ⟨rfl, rfl⟩

/-- Looking for links and making paths absolute reads no targets. -/
theorem System.watched_looksAlike (system : System World) (reads : List Text) :
    system.LooksAlike (fun world watched => world = watched.world ∧ watched.reads = reads)
      system.watched where
  lstat path := by rintro _ watched ⟨rfl, rfl⟩; exact ⟨rfl, rfl, rfl⟩
  currentDir := by rintro _ watched ⟨rfl, rfl⟩; exact ⟨rfl, rfl, rfl⟩
  homeDir := by rintro _ watched ⟨rfl, rfl⟩; exact ⟨rfl, rfl, rfl⟩

namespace Run

/-- However a run on a watched world ends, the targets that it reads are those at the given paths,
in order. -/
def Reads (run : Run (Watched World) Value) (reads : List Text) : Prop :=
  ∀ scene, (run scene).2.world.reads = scene.world.reads ++ reads

theorem Reads.bind_silent
    {first : Run (Watched World) Value}
    {next : Value → Run (Watched World) Result}
    {reads : List Text}
    (here : first.Reads reads)
    (behind : ∀ value, (next value).Reads []) :
    (first >>= next).Reads reads := by
  intro scene
  have reads_eq := here scene
  rw [Procedure.bind_apply]
  split <;> rename_i first_eq <;> rw [first_eq] at reads_eq
  · rw [behind, List.append_nil]
    exact reads_eq
  · exact reads_eq

/-- However a run on a watched world ends, the list of the targets that it reads has the given
property. -/
def EnsuresReads (run : Run (Watched World) Value) (property : List Text → Prop) : Prop :=
  ∀ scene, ∃ reads, property reads ∧ (run scene).2.world.reads = scene.world.reads ++ reads

theorem Reads.ensures
    {run : Run (Watched World) Value}
    {reads : List Text}
    {property : List Text → Prop}
    (here : run.Reads reads)
    (holds : property reads) :
    run.EnsuresReads property :=
  fun scene => ⟨reads, holds, here scene⟩

theorem Reads.bind_ensures
    {first : Run (Watched World) Value}
    {next : Value → Run (Watched World) Result}
    {reads : List Text}
    {property : List Text → Prop}
    (here : first.Reads reads)
    (holds : property reads)
    (behind : ∀ value, (next value).EnsuresReads fun more => property (reads ++ more)) :
    (first >>= next).EnsuresReads property := by
  intro scene
  have reads_eq := here scene
  rw [Procedure.bind_apply]
  split <;> rename_i first_eq <;> rw [first_eq] at reads_eq
  · obtain ⟨more, holdsBehind, more_eq⟩ := behind _ _
    exact ⟨reads ++ more, holdsBehind, by rw [more_eq, reads_eq, List.append_assoc]⟩
  · exact ⟨reads, holds, reads_eq⟩

/-- What is done alike without reading a target reads none. -/
theorem reads_of_alike
    {run : Run World Value}
    {shadow : Run (Watched World) Value}
    (alike : ∀ reads,
      Alike (fun world watched => world = watched.world ∧ watched.reads = reads) run shadow) :
    shadow.Reads [] := by
  intro scene
  obtain ⟨-, -, sameReads⟩ :=
    alike scene.world.reads ⟨scene.world.world, scene.events⟩ scene ⟨rfl, rfl⟩
  rw [sameReads, List.append_nil]

/-- Reading a target reads it, whether or not the system gives it. -/
theorem reads_readlink (system : System World) (link : Text) :
    (call link (system.watched.readlink link)).Reads [link] := by
  intro scene
  have reads_eq : (system.watched.readlink link scene.world).2.reads =
      scene.world.reads ++ [link] := by
    simp [System.watched, Watched.keep, Watched.reads, SystemCall.readlink?]
  rw [call]
  split <;> rename_i answered <;> rw [answered] at reads_eq <;> exact reads_eq

/-- A run on a watched world ends with the given result, and reads the targets at the given paths
in order. -/
def Yields
    (run : Run (Watched World) Value)
    (result : Except Error Value)
    (reads : List Text) : Prop :=
  ∀ scene, (run scene).1 = result ∧
    (run scene).2.world.reads = scene.world.reads ++ reads

theorem yields_pure (value : Value) :
    (pure value : Run (Watched World) Value).Yields (.ok value) [] :=
  fun _ => ⟨rfl, (List.append_nil _).symm⟩

theorem yields_fail (error : Error) :
    (fail error : Run (Watched World) Value).Yields (.error error) [] :=
  fun _ => ⟨rfl, (List.append_nil _).symm⟩

theorem yields_note (event : Event) :
    (note event : Run (Watched World) Unit).Yields (.ok ()) [] :=
  fun _ => ⟨rfl, (List.append_nil _).symm⟩

theorem Yields.bind
    {first : Run (Watched World) Value}
    {next : Value → Run (Watched World) Result}
    {value : Value}
    {result : Except Error Result}
    {reads more : List Text}
    (yields : first.Yields (.ok value) reads)
    (behind : (next value).Yields result more) :
    (first >>= next).Yields result (reads ++ more) := by
  intro scene
  obtain ⟨first_eq, reads_eq⟩ := yields scene
  obtain ⟨next_eq, more_eq⟩ := behind (first scene).2
  have run_eq : (first >>= next) scene = next value (first scene).2 := by
    rw [Procedure.bind_apply]
    split
    · simp_all
    · simp_all
  rw [run_eq]
  exact ⟨next_eq, by rw [more_eq, reads_eq, List.append_assoc]⟩

theorem Yields.bind_error
    {first : Run (Watched World) Value}
    {next : Value → Run (Watched World) Result}
    {error : Error}
    {reads : List Text}
    (yields : first.Yields (.error error) reads) :
    (first >>= next).Yields (.error error) reads := by
  intro scene
  obtain ⟨first_eq, reads_eq⟩ := yields scene
  rw [Procedure.bind_apply]
  split
  · simp_all
  · simp_all

/-- What is done alike without reading a target shows no targets on the watched world. -/
theorem yields_of_alike
    {run : Run World Value}
    {shadow : Run (Watched World) Value}
    {result : Except Error Value}
    (gives : run.Gives result)
    (alike : ∀ reads,
      Alike (fun world watched => world = watched.world ∧ watched.reads = reads) run shadow) :
    shadow.Yields result [] := by
  intro scene
  obtain ⟨sameResult, -⟩ :=
    alike scene.world.reads ⟨scene.world.world, scene.events⟩ scene ⟨rfl, rfl⟩
  exact ⟨sameResult ▸ gives _, reads_of_alike alike scene⟩

theorem yields_isSymlink
    {path : Text}
    {answer : Except Error Bool}
    (gives : (Query.isSymlink system path).Gives answer) :
    (Query.isSymlink system.watched path).Yields answer [] :=
  yields_of_alike gives fun reads => Query.isSymlink_alike (system.watched_looksAlike reads) path

theorem yields_expand
    {tilde : Bool}
    {base? : Option Text}
    {path : Text}
    {result : Except Error Text}
    (gives : (Path.expand system tilde base? path).Gives result) :
    (Path.expand system.watched tilde base? path).Yields result [] :=
  yields_of_alike gives fun reads =>
    Path.expand_alike (system.watched_looksAlike reads).toNamesAlike tilde base? path

theorem yields_readlink
    {link : Text}
    {answer : Except Cause Text}
    (answers : Question.Answers (system.readlink link) answer) :
    (call link (system.watched.readlink link)).Yields
      (answer.mapError fun cause => Error.ofCause cause link) [link] := by
  intro scene
  refine ⟨?_, reads_readlink system link scene⟩
  have found_eq : (system.watched.readlink link scene.world).1 = answer :=
    answers scene.world.world
  rw [call]
  split <;> rename_i answered <;> rw [answered] at found_eq <;> exact found_eq ▸ rfl

end Run
end FilePaths
