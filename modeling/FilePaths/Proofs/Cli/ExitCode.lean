import FilePaths.Cli.Outcome
import FilePaths.Config.Document
import FilePaths.Proofs.Cli.Printing
import FilePaths.System.Table

/-!
# Exit codes

The exit code of a run says how the question was answered that the command asks, and nothing else.
What is to be printed, and in which format, has no part in it: two runs that differ in this only
differ in their events and in what they print, which nothing looks at before the end.
-/

namespace FilePaths

open Procedure (Corresponds EndsAlike)

variable {World : Type}

namespace Cli

/-! ## What is asked -/

/-- Asks the library a question about the file at a path; that there is a value means yes. -/
def Predicate.ask (system : System World) (path : Text) : Predicate → Run World Bool
  | .exist => Query.fileExists system path
  | .file => Query.isKind system .regular path
  | .directory => Query.isDirectory system path
  | .symlink => Query.isSymlink system path
  | .socket => Query.isKind system .socket path
  | .pipe => Query.isKind system .fifo path
  | .blockdev => Query.isKind system .blockDevice path
  | .chardev => Query.isKind system .charDevice path
  | .setuid => Query.isSetuid system path
  | .setgid => Query.isSetgid system path
  | .sticky => Query.isSticky system path
  | .readable => Query.isReadable system path
  | .writable => Query.isWritable system path
  | .executable => Query.isExecutable system path
  | .owned => Query.isOwned system path
  | .grpowned => Query.isGroupOwned system path
  | .zero => Query.isZero system path
  | .empty => Query.isZero system path
  | .size => Option.isSome <$> Query.nonzeroSize? system path
  | .worldReadable => Option.isSome <$> Query.worldReadable? system path
  | .worldWritable => Option.isSome <$> Query.worldWritable? system path

/-- What can be answered with yes or no. -/
inductive Inquiry
  | test (predicate : Predicate) (path : Text)
  | fnmatch (pattern path : Text) (flags : List Text)
  | identical (first second : Text)
  deriving DecidableEq, Repr

/-- The library as the configuration sets it up. -/
def configured (host : Host World) (named : Option Text) : Job World (Handle World) := do
  let config ← Job.ofSettings (Config.assemble host { named })
  let plain : Handle World := { system := host.system }
  Job.ofSettings (Run.ofExcept (plain.configure config))

namespace Inquiry

/-- The command that asks. -/
def command : Inquiry → Command
  | .test predicate path => .test predicate path
  | .fnmatch pattern path flags => .fnmatch pattern path flags
  | .identical first second => .identical first second

/-- What the library answers.  Nothing is known to it of what is to be printed. -/
def answer (host : Host World) (named : Option Text) (inquiry : Inquiry) : Job World Bool := do
  let handle ← configured host named
  match inquiry with
  | .test predicate path => Job.ofRun (predicate.ask handle.system path)
  | .fnmatch pattern path names => do
      let flags? ← givenFlags names
      pure (Glob.fnmatch (flags?.getD handle.flags) pattern path)
  | .identical first second => Job.ofRun (Query.isIdentical handle.system first second)

end Inquiry

/-! ## Verdicts -/

/-- The verdict is not no. -/
def Verdict.isYes (verdict : Verdict) : Bool :=
  verdict.value.isSome || verdict.holds

theorem reportVerdict_prints
    (format : OutputFormat)
    (quiet : Bool)
    (predicate : Predicate)
    (path : Text)
    (verdict : Verdict) :
    Job.Prints (reportVerdict format quiet predicate path verdict : Job (Console World) Unit)
      (if verdict.isYes then none
        else some (predicate.name ++ " is false for " ++ cited path)) := by
  obtain ⟨holds, value⟩ := verdict
  cases value with
  | some value => exact Console.printLines_prints _ _ _
  | none => exact Console.reportTruth_prints _ _ _ _

section Verdicts

variable (system : System World) (path : Text) (predicate : Predicate)

theorem verdict_alike :
    Run.Alike Eq (predicate.verdict system path) (predicate.verdict system path) := by
  have found : ∀ {Value : Type} (read : Option FileRecord → Value),
      Run.Alike Eq (Query.find system path >>= fun record? => pure (read record?))
        (Query.find system path >>= fun record? => pure (read record?)) := fun _ =>
    Run.alike_bind (Query.find_alike path) fun _ => Run.alike_pure _
  cases predicate with
  | symlink =>
      exact Run.alike_map (Query.isSymlink_alike system.resolvesAlike_refl.toLooksAlike path) _
  | readable | writable | executable | owned =>
      exact Run.alike_map
        (Run.alike_bind (Query.find_alike path) fun _ => Query.passes_alike _ _) _
  | grpowned =>
      exact Run.alike_map
        (Run.alike_bind (Query.findEntry_alike path) fun _ => Query.passes_alike _ _) _
  | _ => exact Run.alike_map (found _) _

theorem isYes_ofValue (value : Option Text) : (Verdict.ofValue value).isYes = value.isSome := by
  cases value <;> rfl

/-- The library is asked for nothing but whether the verdict is yes. -/
theorem ask_eq :
    predicate.ask system path = Verdict.isYes <$> predicate.verdict system path := by
  have ofTruth : ∀ run : Run World Bool, run = Verdict.isYes <$> Verdict.ofTruth <$> run :=
    fun run => by
      rw [Functor.map_map]
      exact (Procedure.map_id run).symm
  have ofOption : ∀ {Value : Type} (run : Run World (Option Value))
      (show? : Option Value → Verdict), (∀ value?, (show? value?).isYes = value?.isSome) →
      Option.isSome <$> run = Verdict.isYes <$> show? <$> run := fun run show? same => by
    rw [Functor.map_map]
    exact congrArg (· <$> run) (funext fun value? => (same value?).symm)
  cases predicate with
  | size =>
      exact ofOption _ _ fun size? => by rw [Verdict.ofSize, isYes_ofValue, Option.isSome_map]
  | worldReadable | worldWritable =>
      exact ofOption _ _ fun bits? => by rw [Verdict.ofBits, isYes_ofValue, Option.isSome_map]
  | _ => exact ofTruth _

/-- The verdict on a file is what the library answers. -/
theorem verdict_corresponds :
    Corresponds Eq (EndsAlike fun verdict yes => verdict.isYes = yes)
      (predicate.verdict system path) (predicate.ask system path) := by
  rw [ask_eq]
  refine (Corresponds.of_alike (verdict_alike system path predicate)).map_right ?_
  rintro verdict _ rfl
  rfl

end Verdicts

/-! ## Sessions -/

section Sessions

variable {first second : Options}

theorem settings_corresponds
    (host : Host World)
    (sameConfig : first.config = second.config) :
    Corresponds Eq (EndsAlike Eq) (settings host first) (settings host second) := by
  unfold settings
  rw [sameConfig]
  exact (Corresponds.of_alike (Config.assemble_alike _)).mapFailure _

theorem formatInForce_corresponds
    (host : Host World)
    (sameConfig : first.config = second.config) :
    Corresponds Eq (EndsAlike fun _ _ => True) (formatInForce host first)
      (formatInForce host second) :=
  (settings_corresponds host sameConfig).bind fun _ _ _ => .pure trivial

/-- A session works with the library as the configuration sets it up. -/
theorem start_corresponds (host : Host World) (options : Options) :
    Corresponds Eq (EndsAlike fun session handle => session.handle = handle)
      (Session.start host options) (configured host options.config) := by
  have sameSettings :
      Corresponds Eq (EndsAlike Eq) (settings host options) (settings host options) :=
    settings_corresponds host rfl
  refine sameSettings.bind ?_
  rintro config _ rfl scene other sameWorld
  simp only [Procedure.bind_apply, Job.ofSettings, Procedure.mapFailure, Run.ofExcept_apply]
  cases Handle.configure { system := host.system } config with
  | ok handle => exact ⟨.done rfl, sameWorld⟩
  | error error => exact ⟨.failed _, sameWorld⟩

/-- Sessions with the same configuration file work with the same library. -/
theorem start_corresponds_start
    (host : Host World)
    (sameConfig : first.config = second.config) :
    Corresponds Eq (EndsAlike fun session session' => session.handle = session'.handle)
      (Session.start host first) (Session.start host second) := by
  have isConfigured := start_corresponds host second
  rw [← sameConfig] at isConfigured
  refine (start_corresponds host first).through ?_ isConfigured
  rintro session session' handle rfl same
  exact same.symm

end Sessions

/-! ## Questions -/

theorem ofRun_corresponds
    {Value : Type}
    {run : Run World Value}
    (alike : Run.Alike Eq run run) :
    Corresponds Eq (EndsAlike Eq) (Job.ofRun run) (Job.ofRun run) :=
  (Corresponds.of_alike alike).mapFailure _

theorem givenFlags_corresponds (names : List Text) :
    Corresponds Eq (EndsAlike Eq) (givenFlags names : Job World (Option GlobFlags))
      (givenFlags names : Job World (Option GlobFlags)) := by
  unfold givenFlags
  split
  · exact .pure rfl
  · split
    · exact .pure rfl
    · exact .fail _

/-- What is noted of an expansion that matches is no part of the answer. -/
theorem fnmatch_corresponds
    (handle : Handle World)
    (flags? : Option GlobFlags)
    (pattern path : Text) :
    Corresponds Eq (EndsAlike Eq) (handle.fnmatch flags? pattern path)
      (pure (Glob.fnmatch (flags?.getD handle.flags) pattern path) : Run World Bool) := by
  unfold Handle.fnmatch Glob.fnmatch
  dsimp only
  split
  · rename_i isExpansion
    rw [isExpansion]
    exact fun _ _ sameWorld => ⟨.done rfl, sameWorld⟩
  · rename_i noExpansion
    rw [Bool.eq_false_iff.2 noExpansion]
    exact fun _ _ sameWorld => ⟨.done rfl, sameWorld⟩

/-! ## Answers -/

/-- The code that an answer of the library calls for. -/
def codeFor : Except Failure Bool → Nat
  | .ok true => 0
  | .ok false => 1
  | .error failure => failure.exitCode

/-- A command ends with the code that the answer of the library calls for. -/
def Tells (printed : Except Failure Unit) (answered : Except Failure Bool) : Prop :=
  Outcome.exitCode printed = codeFor answered

/-- What prints the answer of a job, and refuses if it is no, tells that answer. -/
theorem tells_of_prints
    {Value : Type}
    {job : Job World Value}
    {ask : Job World Bool}
    {isYes : Value → Bool}
    {report : Value → Job (Console World) Unit}
    {refusal : Value → String}
    (corresponds : Corresponds Eq (EndsAlike fun value yes => isYes value = yes) job ask)
    (prints : ∀ value, (report value).Prints (if isYes value then none else some (refusal value))) :
    Corresponds Console.Faces Tells (job.onConsole >>= report) ask := by
  rw [← bind_pure ask]
  refine (Job.onConsole_corresponds_self corresponds).bind_into (fun _ => rfl) ?_
  rintro value _ rfl scene other isSame
  obtain ⟨output, remarks, report_eq⟩ := prints value scene
  rw [report_eq]
  refine ⟨?_, isSame⟩
  cases isYes value <;> rfl

/-- A command that asks a question tells what the library answers. -/
theorem execute_tells_answer (host : Host World) (options : Options) (inquiry : Inquiry) :
    Corresponds Console.Faces Tells (inquiry.command.execute host options)
      (inquiry.answer host options.config) := by
  have opened := Job.onConsole_corresponds_self (start_corresponds host options)
  cases inquiry with
  | test predicate path =>
      refine opened.bind_into (fun _ => rfl) ?_
      rintro session _ rfl
      exact tells_of_prints ((verdict_corresponds _ path predicate).mapFailure Failure.library)
        (reportVerdict_prints session.format options.quiet predicate path)
  | fnmatch pattern path names =>
      refine opened.bind_into (fun _ => rfl) ?_
      rintro session _ rfl
      refine (Job.onConsole_corresponds_self (givenFlags_corresponds names)).bind_into
        (fun _ => rfl) ?_
      rintro flags? _ rfl
      exact tells_of_prints ((fnmatch_corresponds _ flags? pattern path).mapFailure Failure.library)
        fun isMatch => Console.reportTruth_prints _ _ isMatch _
  | identical first second =>
      refine opened.bind_into (fun _ => rfl) ?_
      rintro session _ rfl
      exact tells_of_prints (ofRun_corresponds (Query.isIdentical_alike first second))
        fun isSame => Console.reportTruth_prints _ _ isSame _

/-! ## Two runs -/

section Printing

variable {first second : Options}

/-- Commands that ask the same and print besides end alike. -/
theorem printed_corresponds
    {Value : Type}
    {run : Run World Value}
    {print print' : Value → Job (Console World) Unit}
    {reason? : Value → Option String}
    (alike : Run.Alike Eq run run)
    (prints : ∀ value, (print value).Prints (reason? value))
    (prints' : ∀ value, (print' value).Prints (reason? value)) :
    Corresponds Console.SameMachine (EndsAlike Eq) ((Job.ofRun run).onConsole >>= print)
      ((Job.ofRun run).onConsole >>= print') := by
  refine (Job.onConsole_corresponds (ofRun_corresponds alike)).bind ?_
  rintro value _ rfl
  exact (prints value).corresponds (prints' value)

theorem expand_alike
    (handle : Handle World)
    (base : Option Text)
    (keepsTilde : Bool)
    (path : Path.Argument) :
    let run :=
      if keepsTilde then handle.absolutePath base path else handle.expandPath base path
    Run.Alike Eq run run := by
  have alike := handle.system.resolvesAlike_refl.toNamesAlike
  intro run
  unfold run
  split
  · exact Run.alike_bind (Run.alike_ofExcept _) fun _ => Path.expand_alike alike _ _ _
  · exact Run.alike_bind (Run.alike_ofExcept _) fun _ => Path.expand_alike alike _ _ _

theorem fnmatch_alike
    (handle : Handle World)
    (flags? : Option GlobFlags)
    (pattern path : Text) :
    Run.Alike Eq (handle.fnmatch flags? pattern path) (handle.fnmatch flags? pattern path) := by
  unfold Handle.fnmatch
  dsimp only
  split
  · exact Run.alike_bind (Run.alike_note _) fun _ => Run.alike_pure _
  · exact Run.alike_pure _

/-- With the same configuration file a command ends alike, however it is to print. -/
theorem execute_corresponds
    (host : Host World)
    (sameConfig : first.config = second.config)
    (command : Command) :
    Corresponds Console.SameMachine (EndsAlike Eq) (command.execute host first)
      (command.execute host second) := by
  have formatted := Job.onConsole_corresponds (formatInForce_corresponds host sameConfig)
  have opened := Job.onConsole_corresponds (start_corresponds_start host sameConfig)
  cases command with
  | basename | extname | join =>
      exact formatted.bind fun _ _ _ =>
        (Console.printText_prints _ _ _).corresponds (Console.printText_prints _ _ _)
  | split =>
      exact formatted.bind fun _ _ _ =>
        (Console.printLines_prints _ _ _).corresponds (Console.printLines_prints _ _ _)
  | dirname path level =>
      exact formatted.bind fun _ _ _ =>
        printed_corresponds (Run.alike_ofExcept _) (fun _ => Console.printText_prints _ _ _)
          fun _ => Console.printText_prints _ _ _
  | expand path base keepsTilde =>
      refine opened.bind ?_
      rintro ⟨handle, format⟩ ⟨_, format'⟩ rfl
      exact printed_corresponds (expand_alike handle base keepsTilde path)
        (fun _ => Console.printText_prints _ _ _) fun _ => Console.printText_prints _ _ _
  | braces pattern names =>
      refine opened.bind ?_
      rintro ⟨handle, format⟩ ⟨_, format'⟩ rfl
      refine (Job.onConsole_corresponds (givenFlags_corresponds names)).bind ?_
      rintro flags? _ rfl
      exact (Console.printTexts_prints _ _ _).corresponds (Console.printTexts_prints _ _ _)
  | realpath path base =>
      refine opened.bind ?_
      rintro ⟨handle, format⟩ ⟨_, format'⟩ rfl
      refine printed_corresponds (Run.alike_bind (Run.alike_ofExcept _) fun path => ?_)
        (fun _ => Console.printText_prints _ _ _) fun _ => Console.printText_prints _ _ _
      exact Symlink.realpath_alike handle.system.resolvesAlike_refl _ _ _ path
  | realdirpath path base =>
      refine opened.bind ?_
      rintro ⟨handle, format⟩ ⟨_, format'⟩ rfl
      refine printed_corresponds (Run.alike_bind (Run.alike_ofExcept _) fun path => ?_)
        (fun _ => Console.printText_prints _ _ _) fun _ => Console.printText_prints _ _ _
      exact Symlink.realdirpath_alike handle.system.resolvesAlike_refl _ _ path
  | stat path ofLink =>
      refine opened.bind ?_
      rintro ⟨handle, format⟩ ⟨_, format'⟩ rfl
      refine printed_corresponds ?_ (fun _ => Console.printLines_prints _ _ _)
        fun _ => Console.printLines_prints _ _ _
      split
      · exact Query.lstat_alike path
      · exact Query.stat_alike path
  | ftype path =>
      refine opened.bind ?_
      rintro ⟨handle, format⟩ ⟨_, format'⟩ rfl
      exact printed_corresponds (Query.kind_alike path)
        (fun _ => Console.printText_prints _ _ _) fun _ => Console.printText_prints _ _ _
  | test predicate path =>
      refine opened.bind ?_
      rintro ⟨handle, format⟩ ⟨_, format'⟩ rfl
      exact printed_corresponds (verdict_alike handle.system path predicate)
        (reportVerdict_prints _ _ predicate path) (reportVerdict_prints _ _ predicate path)
  | fnmatch pattern path names =>
      refine opened.bind ?_
      rintro ⟨handle, format⟩ ⟨_, format'⟩ rfl
      refine (Job.onConsole_corresponds (givenFlags_corresponds names)).bind ?_
      rintro flags? _ rfl
      exact printed_corresponds (fnmatch_alike handle flags? pattern path)
        (fun _ => Console.reportTruth_prints _ _ _ _) fun _ => Console.reportTruth_prints _ _ _ _
  | identical path other =>
      refine opened.bind ?_
      rintro ⟨handle, format⟩ ⟨_, format'⟩ rfl
      exact printed_corresponds (Query.isIdentical_alike path other)
        (fun _ => Console.reportTruth_prints _ _ _ _) fun _ => Console.reportTruth_prints _ _ _ _
  | completions shell =>
      exact (introduceCompletions_prints _ shell).corresponds (introduceCompletions_prints _ shell)

end Printing

/-! ## Printing last -/

/-- A command prints when nothing can fail any more, except that the answer may be no. -/
theorem execute_printsLast (host : Host World) (options : Options) (command : Command) :
    (command.execute host options).PrintsLast := by
  cases command with
  | basename | extname | join =>
      exact Job.printsLast_onConsole_bind fun _ => (Console.printText_prints _ _ _).printsLast
  | split =>
      exact Job.printsLast_onConsole_bind fun _ => (Console.printLines_prints _ _ _).printsLast
  | dirname | expand | realpath | realdirpath | ftype =>
      exact Job.printsLast_onConsole_bind fun _ =>
        Job.printsLast_onConsole_bind fun _ => (Console.printText_prints _ _ _).printsLast
  | stat =>
      exact Job.printsLast_onConsole_bind fun _ =>
        Job.printsLast_onConsole_bind fun _ => (Console.printLines_prints _ _ _).printsLast
  | braces =>
      exact Job.printsLast_onConsole_bind fun _ =>
        Job.printsLast_onConsole_bind fun _ => (Console.printTexts_prints _ _ _).printsLast
  | test predicate path =>
      exact Job.printsLast_onConsole_bind fun _ =>
        Job.printsLast_onConsole_bind fun verdict =>
          (reportVerdict_prints _ _ predicate path verdict).printsLast
  | fnmatch =>
      exact Job.printsLast_onConsole_bind fun _ =>
        Job.printsLast_onConsole_bind fun _ =>
          Job.printsLast_onConsole_bind fun _ =>
            (Console.reportTruth_prints _ _ _ _).printsLast
  | identical =>
      exact Job.printsLast_onConsole_bind fun _ =>
        Job.printsLast_onConsole_bind fun _ => (Console.reportTruth_prints _ _ _ _).printsLast
  | completions shell => exact (introduceCompletions_prints _ shell).printsLast

/-! ## Codes -/

/-- A job fails with codes only that stand for no answer. -/
def Job.FailsApart {Value : Type} (job : Job World Value) : Prop :=
  ∀ scene failure, (job scene).1 = .error failure → 2 ≤ failure.exitCode

namespace Job

variable {Value Result : Type}

theorem two_le_errorCode (error : Error) : 2 ≤ Failure.errorCode error := by
  unfold Failure.errorCode
  split
  · decide
  · decide
  · decide
  · decide
  · split <;> decide

theorem ofRun_failsApart (run : Run World Value) : (ofRun run).FailsApart := by
  intro scene failure isFailure
  unfold ofRun Procedure.mapFailure at isFailure
  split at isFailure
  · cases isFailure
  · obtain rfl := Except.error.inj isFailure
    exact two_le_errorCode _

theorem ofSettings_failsApart (run : Run World Value) : (ofSettings run).FailsApart := by
  intro scene failure isFailure
  unfold ofSettings Procedure.mapFailure at isFailure
  split at isFailure
  · cases isFailure
  · obtain rfl := Except.error.inj isFailure
    exact Nat.le_add_left 2 5

theorem FailsApart.bind
    {first : Job World Value}
    {next : Value → Job World Result}
    (here : first.FailsApart)
    (behind : ∀ value, (next value).FailsApart) :
    (first >>= next).FailsApart := by
  intro scene failure
  have atFirst := here scene
  rw [Procedure.bind_apply]
  split
  · rename_i value after _
    exact behind value after failure
  · rename_i first_eq
    rw [first_eq] at atFirst
    rintro ⟨⟩
    exact atFirst _ rfl

theorem pure_failsApart (value : Value) : (pure value : Job World Value).FailsApart := by
  rintro scene failure ⟨⟩

theorem givenFlags_failsApart (names : List Text) :
    (givenFlags names : Job World (Option GlobFlags)).FailsApart := by
  unfold givenFlags
  split
  · exact pure_failsApart none
  · split
    · exact pure_failsApart _
    · rintro scene _ ⟨⟩
      exact Nat.le_add_left 2 2

end Job

theorem Inquiry.answer_failsApart
    (host : Host World)
    (named : Option Text)
    (inquiry : Inquiry) :
    (inquiry.answer host named).FailsApart := by
  have configuredApart : (configured host named).FailsApart :=
    (Job.ofSettings_failsApart _).bind fun _ => Job.ofSettings_failsApart _
  refine configuredApart.bind fun handle => ?_
  cases inquiry with
  | test => exact Job.ofRun_failsApart _
  | fnmatch pattern path names =>
      exact (Job.givenFlags_failsApart names).bind fun _ => Job.pure_failsApart _
  | identical => exact Job.ofRun_failsApart _

namespace Invocation

/-- The same command, its results printed in another way. -/
def printing (invocation : Invocation) (quiet : Bool) (format : Option OutputFormat) :
    Invocation :=
  { invocation with options := { invocation.options with quiet, format } }

/-- What a run starts from. -/
def start (world : World) : Scene (Console World) where
  world := { machine := world }

theorem code_run (host : Host World) (invocation : Invocation) (world : World) :
    (invocation.run host world).1.code =
      Outcome.exitCode (invocation.command.execute host invocation.options (start world)).1 :=
  rfl

theorem output_run (host : Host World) (invocation : Invocation) (world : World) :
    (invocation.run host world).1.output =
      (invocation.command.execute host invocation.options (start world)).2.world.output :=
  rfl

/-- A run that ends with another code than those of answers has printed no result. -/
theorem output_run_eq_nil
    {host : Host World}
    {invocation : Invocation}
    {world : World}
    (notYes : (invocation.run host world).1.code ≠ 0)
    (notNo : (invocation.run host world).1.code ≠ 1) :
    (invocation.run host world).1.output = [] := by
  have printsLast := execute_printsLast host invocation.options invocation.command (start world)
  rw [code_run] at notYes notNo
  rw [output_run]
  cases result_eq : (invocation.command.execute host invocation.options (start world)).1 with
  | ok _ =>
      rw [result_eq] at notYes
      exact absurd rfl notYes
  | error failure =>
      rcases printsLast failure result_eq with ⟨reason, rfl⟩ | unchanged
      · rw [result_eq] at notNo
        exact absurd rfl notNo
      · exact unchanged

/-- The exit code depends on what is asked only.  It stays the same however results are to be
printed; to a question it gives the answer of the library, or the code of the error that the library
fails with; and with any other code no result is printed. -/
theorem exit_code_answers (host : Host World) (invocation : Invocation) (world : World) :
    let outcome := (invocation.run host world).1
    (∀ quiet format,
        ((invocation.printing quiet format).run host world).1.code = outcome.code) ∧
      (∀ inquiry : Inquiry, invocation.command = inquiry.command →
        let answered := (inquiry.answer host invocation.options.config { world }).1
        (outcome.code = 0 ↔ answered = .ok true) ∧
          (outcome.code = 1 ↔ answered = .ok false) ∧
          ∀ failure, answered = .error failure → outcome.code = failure.exitCode) ∧
      (outcome.code ≠ 0 → outcome.code ≠ 1 → outcome.output = []) := by
  refine ⟨fun quiet format => ?_, fun inquiry isInquiry => ?_, output_run_eq_nil⟩
  · have sameConfig : (invocation.printing quiet format).options.config =
        invocation.options.config :=
      rfl
    have endsAlike :=
      (execute_corresponds host sameConfig invocation.command (start world) _ rfl).1
    exact congrArg Outcome.exitCode endsAlike.eq
  · have tells : (invocation.run host world).1.code =
        codeFor (inquiry.answer host invocation.options.config { world }).1 := by
      rw [code_run, isInquiry]
      exact (execute_tells_answer host invocation.options inquiry (start world) { world } rfl).1
    have isApart := inquiry.answer_failsApart host invocation.options.config { world }
    dsimp only
    rw [tells]
    cases answered_eq : (inquiry.answer host invocation.options.config { world }).1 with
    | ok yes => cases yes <;> simp [codeFor]
    | error failure =>
        have isAbove := isApart failure answered_eq
        simp only [codeFor, reduceCtorEq, iff_false]
        refine ⟨by omega, by omega, ?_⟩
        rintro _ ⟨⟩
        rfl

/-- A host with one file and no configuration. -/
def plainHost : Host Mode where
  system := Table.system
    { stats := [("/f".toList, .ok { mode := 0o100644, size := 3 })]
      directory := .ok ['/']
      home := none
      ids := (0, 0) }
  readConfig := Config.ofYaml?
  showTime := Instant.toText
  readFile _ world := (.error .noEntry, world)
  environment _ := none

theorem size_and_unknown_flag_exit_codes :
    let sized : Invocation := ⟨{ quiet := true }, .test .size "/f".toList⟩
    let misread : Invocation := ⟨{}, .fnmatch ['*'] ['x'] ["GLOBSTAR".toList]⟩
    ((Inquiry.test .size "/f".toList).answer plainHost none { world := 0 }).1 = .ok true ∧
      ((sized.printing false (some .json)).run plainHost 0).1.code = 0 ∧
      (misread.run plainHost 0).1.code = 4 ∧ (misread.run plainHost 0).1.output = [] := by
  intro sized misread
  have sized_eq : (sized.run plainHost 0).1.code = 0 := by decide +kernel
  have misread_eq : (misread.run plainHost 0).1.code = 4 := by decide +kernel
  obtain ⟨printed, answers, -⟩ := exit_code_answers plainHost sized 0
  have noOutput := (exit_code_answers plainHost misread 0).2.2
  rw [misread_eq] at noOutput
  exact ⟨(answers (.test .size "/f".toList) rfl).1.1 sized_eq,
    (printed false (some .json)).trans sized_eq, misread_eq, noOutput (by decide) (by decide)⟩

end Invocation

end Cli
end FilePaths
