import FilePaths.Handle
import FilePaths.Proofs.Config.Overrides

/-!
# Validity of layered configurations

A configuration is valid if each setting that it has is one that can be used.  Layering takes every
setting as it stands from one of its sources, and what the environment writes can be read again.  So
valid sources give a valid configuration, as long as the environment asks for no number of links
that is out of bounds, and the check at the end of the assembly finds nothing.  A handle can be
configured with whatever has been assembled.
-/

namespace FilePaths

/-! ## Settings that can be used -/

/-- A number of links is within bounds. -/
def IsSoundDepth (depth : Nat) : Prop :=
  1 ≤ depth ∧ depth ≤ 4096

namespace Variable

/-- The value of a setting can be used: options have names of options, a number of links is within
bounds, and a log level is one. -/
def IsSound : (entry : Variable) → entry.Value → Prop
  | .globFlags, names =>
      ∃ found : List Flag, names.map GlobFlags.flagOfName? = found.map some
  | .strategy, _ => True
  | .maxDepth, depth => IsSoundDepth depth
  | .logMode, name => ∃ level, LogLevel.ofText? name = some level
  | .outputFormat, _ => True

/-- What is read from the environment can be used, but for the number of links, which may be out of
bounds. -/
theorem isSound_of_read
    {entry : Variable}
    {text : Text}
    {value : entry.Value}
    (read_eq : entry.read text = .ok value)
    (notDepth : entry ≠ .maxDepth) :
    entry.IsSound value := by
  cases entry with
  | globFlags =>
      rw [read] at read_eq
      split at read_eq
      · cases read_eq
      · rename_i flags isRead
        obtain rfl := Except.ok.inj read_eq
        obtain ⟨found, -, rfl⟩ := GlobFlags.ofNames_eq_ok_iff.mp isRead
        obtain ⟨found', names_eq, -⟩ :=
          GlobFlags.ofNames_eq_ok_iff.mp (GlobFlags.ofNames_names found)
        exact ⟨found', names_eq⟩
  | strategy => trivial
  | maxDepth => exact absurd rfl notDepth
  | logMode =>
      rw [read] at read_eq
      split at read_eq
      · cases read_eq
      · rename_i level isRead
        obtain rfl := Except.ok.inj read_eq
        exact ⟨level, ofText?_lower isRead⟩
  | outputFormat => trivial

end Variable

namespace Config

/-- Every setting of a configuration can be used. -/
def IsValid (config : Config) : Prop :=
  ∀ (entry : Variable) (value : entry.Value),
    entry.setting? config = some value → entry.IsSound value

variable {config : Config}

theorem exists_globFlags_iff :
    (∃ flags, config.globFlags = .ok flags) ↔
      ∀ names, config.flagNames? = some names → Variable.globFlags.IsSound names := by
  rw [globFlags]
  cases config.flagNames? with
  | none => exact iff_of_true ⟨_, rfl⟩ (by rintro _ ⟨⟩)
  | some names =>
      rw [Option.getD_some]
      constructor
      · rintro ⟨flags, flags_eq⟩ _ ⟨⟩
        split at flags_eq
        · rename_i isRead
          obtain ⟨found, names_eq, -⟩ := GlobFlags.ofNames_eq_ok_iff.mp isRead
          exact ⟨found, names_eq⟩
        · cases flags_eq
      · intro areSound
        obtain ⟨found, names_eq⟩ := areSound names rfl
        rw [GlobFlags.ofNames_eq_ok_iff.mpr ⟨found, names_eq, rfl⟩]
        exact ⟨_, rfl⟩

theorem validateDepth_eq_ok_iff :
    config.validateDepth = .ok () ↔
      ∀ depth, config.maxDepth? = some depth → Variable.maxDepth.IsSound depth := by
  rw [validateDepth]
  cases config.maxDepth? with
  | none => exact iff_of_true rfl (by rintro _ ⟨⟩)
  | some depth =>
      dsimp only
      split
      · rename_i outOfRange
        refine iff_of_false (by rintro ⟨⟩) fun isSound => ?_
        obtain ⟨notZero, notAbove⟩ : IsSoundDepth depth := isSound depth rfl
        rw [depthLimit] at outOfRange
        omega
      · rename_i inRange
        rw [depthLimit] at inRange
        refine iff_of_true rfl ?_
        rintro _ ⟨⟩
        exact ⟨by omega, by omega⟩

theorem exists_logLevel_iff :
    (∃ level?, config.logLevel = .ok level?) ↔
      ∀ name, config.logMode = some name → Variable.logMode.IsSound name := by
  rw [logLevel]
  cases config.logMode with
  | none => exact iff_of_true ⟨_, rfl⟩ (by rintro _ ⟨⟩)
  | some name =>
      constructor
      · rintro ⟨level?, level_eq⟩ _ ⟨⟩
        dsimp only at level_eq
        split at level_eq
        · rename_i level isLevel
          exact ⟨level, isLevel⟩
        · cases level_eq
      · intro isSound
        obtain ⟨level, isLevel⟩ := isSound name rfl
        simp only [isLevel]
        exact ⟨_, rfl⟩

/-- Validation accepts a configuration exactly if every setting can be used. -/
theorem validate_eq_ok_iff :
    config.validate = .ok () ↔ config.IsValid := by
  have validate_iff : config.validate = .ok () ↔
      (∃ flags, config.globFlags = .ok flags) ∧ config.validateDepth = .ok () ∧
        ∃ level?, config.logLevel = .ok level? := by
    rw [validate]
    rcases config.globFlags with error | flags
    · simp [bind, Except.bind]
    · rcases config.validateDepth with error | _
      · simp [bind, Except.bind]
      · rcases config.logLevel with error | level? <;> simp [bind, Except.bind, pure, Except.pure]
  rw [validate_iff, exists_globFlags_iff, validateDepth_eq_ok_iff, exists_logLevel_iff]
  constructor
  · rintro ⟨flags, depth, level⟩ entry
    cases entry with
    | globFlags => exact flags
    | strategy => exact fun _ _ => trivial
    | maxDepth => exact depth
    | logMode => exact level
    | outputFormat => exact fun _ _ => trivial
  · intro isValid
    exact ⟨isValid .globFlags, isValid .maxDepth, isValid .logMode⟩

/-! ## Layers -/

/-- Every setting of two layers is one of either. -/
theorem IsValid.onTopOf
    {upper lower : Config}
    (upper_isValid : upper.IsValid)
    (lower_isValid : lower.IsValid) :
    (upper.onTopOf lower).IsValid := by
  intro entry value setting_eq
  rw [setting?_onTopOf, Option.or_eq_some_iff] at setting_eq
  rcases setting_eq with setting_eq | ⟨-, setting_eq⟩
  · exact upper_isValid entry value setting_eq
  · exact lower_isValid entry value setting_eq

theorem isValid_merge
    {configs : List Config}
    (areValid : ∀ config ∈ configs, config.IsValid) :
    (merge configs).IsValid := by
  intro entry value setting_eq
  rw [setting?_merge] at setting_eq
  obtain ⟨config, isMember, setting_eq⟩ := List.exists_of_findSome?_eq_some setting_eq
  exact areValid config (List.mem_reverse.mp isMember) entry value setting_eq

/-- The environment asks for no number of links, or for one within bounds. -/
def HasSoundDepth (environment : Environment) : Prop :=
  ∀ depth : Nat, Variable.maxDepth.ofEnvironment? environment = some depth → IsSoundDepth depth

/-- What the environment says about a setting can be used. -/
theorem HasSoundDepth.isSound
    {environment : Environment}
    (hasSoundDepth : HasSoundDepth environment)
    {entry : Variable}
    {value : entry.Value}
    (value_eq : entry.ofEnvironment? environment = some value) :
    entry.IsSound value := by
  by_cases isDepth : entry = .maxDepth
  · subst isDepth
    exact hasSoundDepth value value_eq
  · rw [Variable.ofEnvironment?, Option.bind_eq_some_iff] at value_eq
    obtain ⟨text, -, value_eq⟩ := value_eq
    cases read_eq : entry.read text with
    | error defect =>
        rw [read_eq] at value_eq
        cases value_eq
    | ok found =>
        rw [read_eq] at value_eq
        obtain rfl := Option.some.inj value_eq
        exact Variable.isSound_of_read read_eq isDepth

/-- The environment over a valid configuration. -/
theorem IsValid.of_setting?_eq
    {environment : Environment}
    {after : Config}
    (isValid : config.IsValid)
    (hasSoundDepth : HasSoundDepth environment)
    (setting_eq : ∀ entry : Variable,
      entry.setting? after = (entry.ofEnvironment? environment).or (entry.setting? config)) :
    after.IsValid := by
  intro entry value value_eq
  rw [setting_eq, Option.or_eq_some_iff] at value_eq
  rcases value_eq with value_eq | ⟨-, value_eq⟩
  · exact hasSoundDepth.isSound value_eq
  · exact isValid entry value value_eq

theorem IsValid.of_applyEnvironment
    {environment : Environment}
    {after : Config}
    (isValid : config.IsValid)
    (hasSoundDepth : HasSoundDepth environment)
    (applies : applyEnvironment environment config = (after, none)) :
    after.IsValid := by
  refine isValid.of_setting?_eq hasSoundDepth fun entry => ?_
  rw [setting?_applyVariables applies, if_pos (Variable.mem_all entry)]

/-! ## The assembly -/

variable
  {World : Type}
  {host : Host World}
  {plan : Plan}
  {scene : Scene World}

theorem assemble_result (host : Host World) (plan : Plan) (scene : Scene World) :
    (assemble host plan scene).1 =
      (ofFiles host plan scene).1.bind fun files =>
        (withEnvironment host plan files).bind fun layered =>
          (withOverrides plan layered).validate.map fun _ => withOverrides plan layered := by
  rw [assemble, Run.bind_result]
  congr 1
  funext files
  rw [Run.bind_result]
  congr 1
  funext layered
  exact Run.bind_pure_result (Run.ofExcept _) _ _

/-- Every source that a plan reads, and what the program itself asks for, is valid. -/
structure Plan.HasValidSources (plan : Plan) (host : Host World) (scene : Scene World) : Prop where
  files : plan.skipsFiles = false →
    ∀ sources, (loadAll host plan.directory plan.named scene).1 = .ok sources →
      ∀ source ∈ sources, source.config.validate = .ok ()
  overrides : ∀ overrides, plan.overrides = some overrides → overrides.validate = .ok ()

theorem Plan.HasValidSources.ofFiles_isValid
    {files : Config}
    (hasValidSources : plan.HasValidSources host scene)
    (files_eq : (ofFiles host plan scene).1 = .ok files) :
    files.IsValid := by
  rw [ofFiles] at files_eq
  split at files_eq
  · obtain rfl := Except.ok.inj files_eq
    intro entry value setting_eq
    rw [Variable.setting?_empty] at setting_eq
    cases setting_eq
  · rename_i notSkipped
    obtain ⟨sources, sources_eq, files_eq⟩ := Run.exists_of_bind_eq_ok files_eq
    obtain rfl := Except.ok.inj files_eq
    have sources_areValid := hasValidSources.files (by simpa using notSkipped) sources sources_eq
    apply isValid_merge
    rintro config isMember
    obtain ⟨source, isSource, rfl⟩ := List.mem_map.mp isMember
    exact validate_eq_ok_iff.mp (sources_areValid source isSource)

theorem Plan.HasValidSources.withOverrides_isValid
    (hasValidSources : plan.HasValidSources host scene)
    (isValid : config.IsValid) :
    (withOverrides plan config).IsValid := by
  rw [withOverrides]
  cases overrides_eq : plan.overrides with
  | none => exact isValid
  | some overrides =>
      exact (validate_eq_ok_iff.mp (hasValidSources.overrides overrides overrides_eq)).onTopOf
        isValid

/-- The check at the end of the assembly finds nothing where all sources are valid. -/
theorem assemble_result_of_hasValidSources
    (hasValidSources : plan.HasValidSources host scene)
    (hasSoundDepth : HasSoundDepth (plan.environment host)) :
    (assemble host plan scene).1 =
      (ofFiles host plan scene).1.bind fun files =>
        (withEnvironment host plan files).map (withOverrides plan) := by
  rw [assemble_result]
  cases files_eq : (ofFiles host plan scene).1 with
  | error error => rfl
  | ok files =>
      change (withEnvironment host plan files).bind _ = (withEnvironment host plan files).map _
      cases layered_eq : withEnvironment host plan files with
      | error error => rfl
      | ok layered =>
          have files_isValid := hasValidSources.ofFiles_isValid files_eq
          have layered_isValid := files_isValid.of_setting?_eq hasSoundDepth fun entry =>
            (setting?_withEnvironment layered_eq entry).2
          have isAccepted := validate_eq_ok_iff.mpr
            (hasValidSources.withOverrides_isValid layered_isValid)
          change (withOverrides plan layered).validate.map _ = .ok (withOverrides plan layered)
          rw [isAccepted]
          rfl

/-- Whatever has been assembled is valid. -/
theorem validate_of_assemble
    (assembles : (assemble host plan scene).1 = .ok config) :
    config.validate = .ok () := by
  obtain ⟨files, -, assembles⟩ := Run.exists_of_bind_eq_ok assembles
  obtain ⟨layered, -, assembles⟩ := Run.exists_of_bind_eq_ok assembles
  obtain ⟨_, isAccepted, assembles⟩ := Run.exists_of_bind_eq_ok assembles
  obtain rfl := Except.ok.inj assembles
  exact isAccepted

theorem IsValid.maxDepth_isSound (isValid : config.IsValid) :
    IsSoundDepth config.maxDepth := by
  rw [maxDepth]
  cases depth_eq : config.maxDepth? with
  | none => exact ⟨by decide, by decide⟩
  | some depth => exact isValid .maxDepth depth depth_eq

/-- A handle takes over the settings of a valid configuration. -/
theorem IsValid.exists_configure
    (isValid : config.IsValid)
    (handle : Handle World) :
    ∃ configured, handle.configure config = .ok configured ∧
      IsSoundDepth configured.maxDepth := by
  obtain ⟨flags, flags_eq⟩ := exists_globFlags_iff.mpr (isValid .globFlags)
  refine ⟨{ handle with flags, strategy := config.strategy, maxDepth := config.maxDepth }, ?_,
    isValid.maxDepth_isSound⟩
  rw [Handle.configure, flags_eq]
  rfl

/-- Layering keeps validity: of two configurations, of any number of them, of the environment over
one.  Where all sources are valid the check at the end of the assembly changes nothing, so that an
assembly fails only if a file or a variable cannot be read.  And whatever has been assembled can be
used by a handle. -/
theorem validity_of_layers :
    (∀ upper lower : Config, upper.validate = .ok () → lower.validate = .ok () →
        (upper.onTopOf lower).validate = .ok ()) ∧
      (∀ configs : List Config, (∀ config ∈ configs, config.validate = .ok ()) →
        (merge configs).validate = .ok ()) ∧
      (∀ (environment : Environment) (config after : Config),
        config.validate = .ok () → HasSoundDepth environment →
        applyEnvironment environment config = (after, none) → after.validate = .ok ()) ∧
      (∀ (World : Type) (host : Host World) (plan : Plan) (scene : Scene World),
        plan.HasValidSources host scene → HasSoundDepth (plan.environment host) →
        (assemble host plan scene).1 =
          (ofFiles host plan scene).1.bind fun files =>
            (withEnvironment host plan files).map (withOverrides plan)) ∧
      ∀ (World Other : Type) (host : Host World) (plan : Plan) (scene : Scene World)
        (config : Config) (handle : Handle Other),
        (assemble host plan scene).1 = .ok config →
        ∃ configured, handle.configure config = .ok configured ∧
          1 ≤ configured.maxDepth ∧ configured.maxDepth ≤ 4096 := by
  simp only [validate_eq_ok_iff]
  refine ⟨fun _ _ upper lower => upper.onTopOf lower, fun _ => isValid_merge,
    fun _ _ _ isValid hasSoundDepth => isValid.of_applyEnvironment hasSoundDepth,
    fun _ _ _ _ => assemble_result_of_hasValidSources, ?_⟩
  intro World Other host plan scene config handle assembles
  exact (validate_eq_ok_iff.mp (validate_of_assemble assembles)).exists_configure handle

/-- Every loaded configuration is valid. -/
theorem layeredPlan_hasValidSources :
    layeredPlan.HasValidSources layeredHost ⟨0, []⟩ where
  files _ sources sources_eq := by
    have areAccepted :
        (loadAll layeredHost layeredPlan.directory layeredPlan.named ⟨0, []⟩).1.toOption.map
          (List.all · fun source => source.config.validate.toOption.isSome) = some true := by
      decide +kernel
    rw [sources_eq] at areAccepted
    have allAccepted := List.all_eq_true.mp (Option.some.inj areAccepted)
    intro source isSource
    have isAccepted := allAccepted source isSource
    cases result_eq : source.config.validate with
    | error error =>
        rw [result_eq] at isAccepted
        cases isAccepted
    | ok _ => rfl
  overrides := by
    rintro _ ⟨⟩
    rfl

theorem layeredPlan_hasSoundDepth :
    HasSoundDepth (layeredPlan.environment layeredHost) := by
  intro depth depth_eq
  have nine : Variable.maxDepth.ofEnvironment? (layeredPlan.environment layeredHost) =
      some (9 : Nat) := by
    rfl
  obtain rfl : (9 : Nat) = depth := Option.some.inj (nine.symm.trans depth_eq)
  exact ⟨by decide, by decide⟩

/-- A lower layer for the one that has been assembled. -/
def hiddenConfig : Config where
  glob := some { flags := some ["fnm_dotmatch".toList] }
  realpath := some { maxDepth := some 4096 }
  logMode := some "QUIET".toList

theorem layeredConfig_validity :
    (layeredConfig.onTopOf hiddenConfig).validate = .ok () ∧
      (merge [hiddenConfig, layeredConfig, {}]).validate = .ok () ∧
      (applyEnvironment layeredHost.environment hiddenConfig).1.validate = .ok () ∧
      ((assemble layeredHost layeredPlan ⟨0, []⟩).1 =
        (ofFiles layeredHost layeredPlan ⟨0, []⟩).1.bind fun files =>
          (withEnvironment layeredHost layeredPlan files).map (withOverrides layeredPlan)) ∧
      ∃ configured,
        (⟨layeredHost.system, .empty, .walk, 40⟩ : Handle Mode).configure layeredConfig =
            .ok configured ∧
          1 ≤ configured.maxDepth ∧ configured.maxDepth ≤ 4096 := by
  have assembles : (assemble layeredHost layeredPlan ⟨0, []⟩).1 = .ok layeredConfig := by
    apply eq_ok_of_toOption
    decide +kernel
  have applies : (applyEnvironment layeredHost.environment hiddenConfig).2 = none := by
    decide +kernel
  obtain ⟨ofTwo, ofMany, ofEnvironment, ofSources, ofAssembled⟩ := validity_of_layers
  refine ⟨ofTwo _ _ rfl rfl, ofMany _ (by decide), ?_, ?_, ofAssembled _ _ _ _ _ _ _ assembles⟩
  · exact ofEnvironment _ _ _ rfl layeredPlan_hasSoundDepth (Prod.ext rfl applies)
  · exact ofSources _ _ _ _ layeredPlan_hasValidSources layeredPlan_hasSoundDepth

end Config
end FilePaths
