import FilePaths.Config.Assembly
import FilePaths.Config.Document
import FilePaths.Proofs.System.Results
import FilePaths.System.Table
import FilePaths.Time.Calendar

/-!
# Precedence of settings

A configuration is put together in three ways: files are merged section by section, variables of
the environment are written into it, and what the program itself asks for is laid over it.  For each
setting on its own all three come to the same: the setting of the higher source if it has one, and
that of the lower one if not.
-/

namespace FilePaths

/-! ## Single settings -/

namespace Variable

/-- What the setting of a variable holds. -/
def Value : Variable → Type
  | .globFlags => List Text
  | .strategy => Strategy
  | .maxDepth => Nat
  | .logMode => Text
  | .outputFormat => OutputFormat

/-- The setting of a variable in a configuration, if it is there. -/
def setting? : (entry : Variable) → Config → Option entry.Value
  | .globFlags, config => config.flagNames?
  | .strategy, config => config.strategy?
  | .maxDepth, config => config.maxDepth?
  | .logMode, config => config.logMode
  | .outputFormat, config => config.outputFormat

/-- What the text of a variable says about its setting. -/
def read : (entry : Variable) → Text → Except Defect entry.Value
  | .globFlags, text =>
      match GlobFlags.ofList text with
      | .error misuse => .error (.argument misuse)
      | .ok flags => .ok (flags.names.map String.toList)
  | .strategy, text =>
      match Strategy.ofText text with
      | .error misuse => .error (.argument misuse)
      | .ok found => .ok found
  | .maxDepth, text =>
      match Text.signedNumber? 10 greatestWord (Text.trim text) with
      | none => .error .depthNotNumber
      | some depth => .ok depth
  | .logMode, text =>
      match LogLevel.ofText? text with
      | none => .error (.unknownLevel text)
      | some _ => .ok (Text.lower text)
  | .outputFormat, text =>
      match OutputFormat.ofText? text with
      | none => .error (.unknownFormat text)
      | some format => .ok format

/-- The configuration with one setting replaced, in a new section if there was none. -/
def put : (entry : Variable) → entry.Value → Config → Config
  | .globFlags, names, config =>
      { config with glob := some { config.glob.getD {} with flags := some names } }
  | .strategy, found, config =>
      { config with realpath := some { config.realpath.getD {} with strategy := some found } }
  | .maxDepth, depth, config =>
      { config with realpath := some { config.realpath.getD {} with maxDepth := some depth } }
  | .logMode, name, config => { config with logMode := some name }
  | .outputFormat, format, config => { config with outputFormat := some format }

theorem mem_all (entry : Variable) :
    entry ∈ all := by
  cases entry <;> decide

theorem set_eq
    (entry : Variable)
    (text : Text)
    (config : Config) :
    entry.set text config = (entry.read text).map fun value => entry.put value config := by
  cases entry <;> simp only [set, read] <;> split <;> simp_all [Except.map, put]

theorem setting?_empty (entry : Variable) :
    entry.setting? {} = none := by
  cases entry <;> rfl

theorem setting?_put_self
    (entry : Variable)
    (value : entry.Value)
    (config : Config) :
    entry.setting? (entry.put value config) = some value := by
  cases entry <;> rfl

/-- Replacing one setting leaves the others, also those of the same section. -/
theorem setting?_put_of_ne
    {entry other : Variable}
    (isOther : other ≠ entry)
    (value : entry.Value)
    (config : Config) :
    other.setting? (entry.put value config) = other.setting? config := by
  obtain ⟨glob, realpath, logMode, outputFormat⟩ := config
  cases entry <;> cases other <;> first
    | exact absurd rfl isOther
    | rfl
    | cases realpath <;> rfl

/-- What the environment says about the setting of a variable. -/
def ofEnvironment? (entry : Variable) (environment : Environment) : Option entry.Value :=
  (environment entry.name.toList).bind fun text => (entry.read text).toOption

theorem ofEnvironment?_of_missing
    {entry : Variable}
    {environment : Environment}
    (isMissing : environment entry.name.toList = none) :
    entry.ofEnvironment? environment = none := by
  rw [ofEnvironment?, isMissing]
  rfl

theorem ofEnvironment?_of_read
    {entry : Variable}
    {environment : Environment}
    {text : Text}
    {value : entry.Value}
    (isThere : environment entry.name.toList = some text)
    (read_eq : entry.read text = .ok value) :
    entry.ofEnvironment? environment = some value := by
  rw [ofEnvironment?, isThere, Option.bind_some, read_eq]
  rfl

end Variable

namespace Config

variable {World : Type}

/-! ## Layers -/

theorem bind_sectionOnTopOf
    {Section Value : Type}
    {combine : Section → Section → Section}
    {get : Section → Option Value}
    (combines : ∀ upper lower, get (combine upper lower) = (get upper).or (get lower))
    (upper lower : Option Section) :
    (sectionOnTopOf combine upper lower).bind get = (upper.bind get).or (lower.bind get) := by
  cases upper with
  | none => rfl
  | some upper =>
      cases lower with
      | none => exact (Option.or_none).symm
      | some lower => exact combines upper lower

/-- The upper of two configurations decides, where it has the setting. -/
theorem setting?_onTopOf
    (entry : Variable)
    (upper lower : Config) :
    entry.setting? (upper.onTopOf lower) = (entry.setting? upper).or (entry.setting? lower) := by
  cases entry with
  | globFlags => exact bind_sectionOnTopOf (fun _ _ => rfl) upper.glob lower.glob
  | strategy => exact bind_sectionOnTopOf (fun _ _ => rfl) upper.realpath lower.realpath
  | maxDepth => exact bind_sectionOnTopOf (fun _ _ => rfl) upper.realpath lower.realpath
  | logMode => rfl
  | outputFormat => rfl

/-- The last of the merged configurations that has a setting decides it. -/
theorem setting?_merge
    (entry : Variable)
    (configs : List Config) :
    entry.setting? (merge configs) = configs.reverse.findSome? entry.setting? := by
  suffices onLowest : ∀ lowest,
      entry.setting? (configs.foldl (fun lower upper => upper.onTopOf lower) lowest) =
        (configs.reverse.findSome? entry.setting?).or (entry.setting? lowest) by
    rw [merge, onLowest, entry.setting?_empty, Option.or_none]
  induction configs with
  | nil => exact fun _ => rfl
  | cons config configs ih =>
      intro lowest
      rw [List.foldl_cons, ih, setting?_onTopOf, List.reverse_cons, List.findSome?_append,
        Option.or_assoc, List.findSome?_singleton]

/-! ## The environment -/

theorem applyVariables_cons_of_missing
    {environment : Environment}
    {entry : Variable}
    (isMissing : environment entry.name.toList = none)
    (entries : List Variable)
    (config : Config) :
    applyVariables environment (entry :: entries) config =
      applyVariables environment entries config := by
  rw [applyVariables, isMissing]

theorem applyVariables_cons_of_read
    {environment : Environment}
    {entry : Variable}
    {text : Text}
    {value : entry.Value}
    (isThere : environment entry.name.toList = some text)
    (read_eq : entry.read text = .ok value)
    (entries : List Variable)
    (config : Config) :
    applyVariables environment (entry :: entries) config =
      applyVariables environment entries (entry.put value config) := by
  rw [applyVariables, isThere]
  simp only [Variable.set_eq, read_eq]
  rfl

/-- A variable that cannot be read ends the work. -/
theorem applyVariables_cons_of_unread
    {environment : Environment}
    {entry : Variable}
    {text : Text}
    {defect : Defect}
    (isThere : environment entry.name.toList = some text)
    (read_eq : entry.read text = .error defect)
    (entries : List Variable)
    (config : Config) :
    applyVariables environment (entry :: entries) config =
      (config, some (.validation entry.name.toList defect)) := by
  rw [applyVariables, isThere]
  simp only [Variable.set_eq, read_eq]
  rfl

/-- Where variables are applied without an error, the first of them is missing or has been read. -/
theorem applyVariables_cons_cases
    {environment : Environment}
    {entry : Variable}
    {entries : List Variable}
    {config after : Config}
    (applies : applyVariables environment (entry :: entries) config = (after, none)) :
    (environment entry.name.toList = none ∧
        applyVariables environment entries config = (after, none)) ∨
      ∃ text value, environment entry.name.toList = some text ∧ entry.read text = .ok value ∧
        applyVariables environment entries (entry.put value config) = (after, none) := by
  cases isThere : environment entry.name.toList with
  | none =>
      rw [applyVariables_cons_of_missing isThere] at applies
      exact .inl ⟨rfl, applies⟩
  | some text =>
      cases read_eq : entry.read text with
      | error defect =>
          rw [applyVariables_cons_of_unread isThere read_eq] at applies
          cases applies
      | ok value =>
          rw [applyVariables_cons_of_read isThere read_eq] at applies
          exact .inr ⟨text, value, rfl, read_eq, applies⟩

/-- Where variables are applied without an error, all of them could be read. -/
theorem exists_read_of_applyVariables
    {environment : Environment}
    {entries : List Variable}
    {config after : Config}
    (applies : applyVariables environment entries config = (after, none))
    {entry : Variable}
    {text : Text}
    (isMember : entry ∈ entries)
    (isThere : environment entry.name.toList = some text) :
    ∃ value, entry.read text = .ok value := by
  induction entries generalizing config with
  | nil => cases isMember
  | cons first entries ih =>
      rcases applyVariables_cons_cases applies with
        ⟨isMissing, applies⟩ | ⟨other, value, first_eq, read_eq, applies⟩
      · rcases List.mem_cons.mp isMember with rfl | isMember
        · rw [isMissing] at isThere
          cases isThere
        · exact ih applies isMember
      · rcases List.mem_cons.mp isMember with rfl | isMember
        · obtain rfl := Option.some.inj (first_eq.symm.trans isThere)
          exact ⟨value, read_eq⟩
        · exact ih applies isMember

/-- Variables that have been applied decide their settings. -/
theorem setting?_applyVariables
    {environment : Environment}
    {entries : List Variable}
    {config after : Config}
    (applies : applyVariables environment entries config = (after, none))
    (entry : Variable) :
    entry.setting? after =
      (if entry ∈ entries then entry.ofEnvironment? environment else none).or
        (entry.setting? config) := by
  induction entries generalizing config with
  | nil =>
      obtain ⟨rfl, -⟩ := Prod.mk.inj applies
      rfl
  | cons first entries ih =>
      by_cases isFirst : entry = first
      · subst isFirst
        rw [if_pos List.mem_cons_self]
        rcases applyVariables_cons_cases applies with
          ⟨isMissing, applies⟩ | ⟨text, value, isThere, read_eq, applies⟩
        · rw [ih applies, Variable.ofEnvironment?_of_missing isMissing, ite_self]
        · rw [ih applies, Variable.ofEnvironment?_of_read isThere read_eq,
            entry.setting?_put_self]
          split <;> rfl
      · have isMember_iff : entry ∈ first :: entries ↔ entry ∈ entries := by
          simp [isFirst]
        simp only [isMember_iff]
        rcases applyVariables_cons_cases applies with
          ⟨-, applies⟩ | ⟨text, value, -, -, applies⟩
        · exact ih applies
        · rw [ih applies, Variable.setting?_put_of_ne isFirst]

/-- The environment as far as it is looked at. -/
def Plan.environment (plan : Plan) (host : Host World) : Environment :=
  if plan.skipsEnvironment then fun _ => none else host.environment

/-- Variables of the environment that are looked at can be read, and decide their settings. -/
theorem setting?_withEnvironment
    {host : Host World}
    {plan : Plan}
    {config layered : Config}
    (layers : withEnvironment host plan config = .ok layered)
    (entry : Variable) :
    (∀ text, plan.environment host entry.name.toList = some text →
        ∃ value, entry.read text = .ok value) ∧
      entry.setting? layered =
        (entry.ofEnvironment? (plan.environment host)).or (entry.setting? config) := by
  rw [withEnvironment] at layers
  rw [Plan.environment]
  split at layers
  · rename_i skips
    obtain rfl := Except.ok.inj layers
    rw [if_pos skips]
    refine ⟨?_, rfl⟩
    rintro _ ⟨⟩
  · rename_i notSkipped
    rw [if_neg notSkipped]
    cases applies : applyEnvironment host.environment config with
    | mk after failure? =>
        rw [applies] at layers
        cases failure? with
        | some failure => cases layers
        | none =>
            obtain rfl := Except.ok.inj layers
            refine ⟨fun text => exists_read_of_applyVariables applies (Variable.mem_all entry), ?_⟩
            rw [setting?_applyVariables applies, if_pos (Variable.mem_all entry)]

/-! ## Files -/

/-- What is read from files: at most the user's own file and the one that was asked for. -/
inductive ReadsFiles (host : Host World) (plan : Plan) (scene : Scene World) :
    (user? named? : Option Source) → Prop
  | skipped (skips : plan.skipsFiles = true) :
      ReadsFiles host plan scene none none
  | read
      {user? named? : Option Source}
      (reads : plan.skipsFiles = false)
      (user_eq : (loadUser host plan.directory scene).1 = .ok user?.toList)
      (named_eq :
        (loadNamed host plan.named (loadUser host plan.directory scene).2).1 =
          .ok named?.toList) :
      ReadsFiles host plan scene user? named?

theorem exists_of_loadUser
    {host : Host World}
    {directory? : Option Text}
    {scene : Scene World}
    {sources : List Source}
    (sources_eq : (loadUser host directory? scene).1 = .ok sources) :
    ∃ user? : Option Source, sources = user?.toList := by
  obtain ⟨path?, -, sources_eq⟩ := Run.exists_of_bind_eq_ok sources_eq
  cases path? with
  | none =>
      obtain ⟨_, -, sources_eq⟩ := Run.exists_of_bind_eq_ok sources_eq
      exact ⟨none, (Except.ok.inj sources_eq).symm⟩
  | some path =>
      obtain ⟨answer, -, sources_eq⟩ := Run.exists_of_bind_eq_ok sources_eq
      cases answer with
      | error cause =>
          obtain ⟨_, -, sources_eq⟩ := Run.exists_of_bind_eq_ok sources_eq
          exact ⟨none, (Except.ok.inj sources_eq).symm⟩
      | ok record =>
          obtain ⟨_, -, sources_eq⟩ := Run.exists_of_bind_eq_ok sources_eq
          obtain ⟨config, -, sources_eq⟩ := Run.exists_of_bind_eq_ok sources_eq
          exact ⟨some ⟨path, .user, config⟩, (Except.ok.inj sources_eq).symm⟩

theorem exists_of_loadNamed
    {host : Host World}
    {named? : Option Text}
    {scene : Scene World}
    {sources : List Source}
    (sources_eq : (loadNamed host named? scene).1 = .ok sources) :
    ∃ source? : Option Source, sources = source?.toList := by
  cases named? with
  | none => exact ⟨none, (Except.ok.inj sources_eq).symm⟩
  | some path =>
      obtain ⟨config, -, sources_eq⟩ := Run.exists_of_bind_eq_ok sources_eq
      exact ⟨some ⟨path, .named, config⟩, (Except.ok.inj sources_eq).symm⟩

theorem findSome?_source
    (entry : Variable)
    (source? : Option Source) :
    (source?.toList.map Source.config).reverse.findSome? entry.setting? =
      source?.bind fun source => entry.setting? source.config := by
  cases source? with
  | none => rfl
  | some source => exact List.findSome?_singleton

/-- The file that was asked for decides before the user's own. -/
theorem exists_readsFiles
    {host : Host World}
    {plan : Plan}
    {scene : Scene World}
    {files : Config}
    (files_eq : (ofFiles host plan scene).1 = .ok files) :
    ∃ user? named?, ReadsFiles host plan scene user? named? ∧
      ∀ entry : Variable, entry.setting? files =
        (named?.bind fun source => entry.setting? source.config).or
          (user?.bind fun source => entry.setting? source.config) := by
  rw [ofFiles] at files_eq
  split at files_eq
  · rename_i skips
    obtain rfl := Except.ok.inj files_eq
    exact ⟨none, none, .skipped skips, Variable.setting?_empty⟩
  · rename_i notSkipped
    obtain ⟨sources, sources_eq, files_eq⟩ := Run.exists_of_bind_eq_ok files_eq
    obtain rfl := Except.ok.inj files_eq
    obtain ⟨users, user_eq, sources_eq⟩ := Run.exists_of_bind_eq_ok sources_eq
    obtain ⟨nameds, named_eq, sources_eq⟩ := Run.exists_of_bind_eq_ok sources_eq
    obtain rfl := Except.ok.inj sources_eq
    obtain ⟨user?, rfl⟩ := exists_of_loadUser user_eq
    obtain ⟨named?, rfl⟩ := exists_of_loadNamed named_eq
    refine ⟨user?, named?, .read (by simpa using notSkipped) user_eq named_eq, fun entry => ?_⟩
    rw [setting?_merge, List.map_append, List.reverse_append, List.findSome?_append,
      findSome?_source, findSome?_source]

/-! ## All sources -/

theorem setting?_withOverrides
    (entry : Variable)
    (plan : Plan)
    (config : Config) :
    entry.setting? (withOverrides plan config) =
      (plan.overrides.bind entry.setting?).or (entry.setting? config) := by
  rw [withOverrides]
  cases plan.overrides with
  | none => rfl
  | some overrides => exact setting?_onTopOf entry overrides config

/-- Each setting of the configuration in force is that of the highest source which has it: what the
program itself asks for, the environment, the file that was asked for, and the user's own file.  A
setting that no source has is absent, and variables of the environment that are looked at could be
read. -/
theorem assemble_precedence
    {host : Host World}
    {plan : Plan}
    {scene : Scene World}
    {config : Config}
    (assembles : (assemble host plan scene).1 = .ok config) :
    ∃ user? named? : Option Source,
      ReadsFiles host plan scene user? named? ∧
      ∀ entry : Variable,
        (∀ text, plan.environment host entry.name.toList = some text →
          ∃ value, entry.read text = .ok value) ∧
        entry.setting? config =
          ((plan.overrides.bind entry.setting?).or
            ((entry.ofEnvironment? (plan.environment host)).or
              ((named?.bind fun source => entry.setting? source.config).or
                (user?.bind fun source => entry.setting? source.config)))) := by
  obtain ⟨files, files_eq, assembles⟩ := Run.exists_of_bind_eq_ok assembles
  obtain ⟨layered, layered_eq, assembles⟩ := Run.exists_of_bind_eq_ok assembles
  obtain ⟨_, -, assembles⟩ := Run.exists_of_bind_eq_ok assembles
  obtain rfl := Except.ok.inj assembles
  obtain ⟨user?, named?, readsFiles, setting_eq⟩ := exists_readsFiles files_eq
  refine ⟨user?, named?, readsFiles, fun entry => ?_⟩
  obtain ⟨canBeRead, layered_eq⟩ := setting?_withEnvironment layered_eq entry
  refine ⟨canBeRead, ?_⟩
  rw [setting?_withOverrides, layered_eq, setting_eq]

/-- A host with a user's own file that has all settings, a file with some of them, and a variable
of the environment. -/
def layeredHost : Host Mode where
  system := Table.system
    { stats := [("/u/config.yaml".toList, .ok { mode := 0o100644 })]
      directory := .ok ['/']
      home := none
      ids := (0, 0) }
  readFile path world :=
    let own := "glob: {flags: [DOTMATCH]}\nrealpath: {strategy: native, max_symlink_depth: 7}\n" ++
      "log_mode: quiet\noutput_format: human\n"
    let other := "glob: {flags: [PATHNAME]}\nrealpath: {max_symlink_depth: 8}\nlog_mode: verbose\n"
    if path = "/u/config.yaml".toList then (.ok own.toList, world)
    else if path = "/n".toList then (.ok other.toList, world)
    else (.error .noEntry, world)
  readConfig := ofYaml?
  showTime := Instant.toText
  environment name := if name = "FILECORE_MAX_SYMLINK_DEPTH".toList then some ['9'] else none

/-- Both files are read, and an output format is asked for. -/
def layeredPlan : Plan where
  directory := some "/u".toList
  named := some "/n".toList
  overrides := some { outputFormat := some .json }

/-- One setting of the user's own file is left. -/
def layeredConfig : Config where
  glob := some { flags := some ["PATHNAME".toList] }
  realpath := some { strategy := some .native, maxDepth := some 9 }
  logMode := some "verbose".toList
  outputFormat := some .json

theorem eq_ok_of_toOption
    {Failure Value : Type}
    {result : Except Failure Value}
    {value : Value}
    (value_eq : result.toOption = some value) :
    result = .ok value := by
  cases result with
  | error failure => cases value_eq
  | ok found => exact congrArg Except.ok (Option.some.inj value_eq)

theorem layeredConfig_precedence :
    (assemble layeredHost layeredPlan ⟨0, []⟩).1 = .ok layeredConfig ∧
      ∃ user? named? : Option Source,
        ReadsFiles layeredHost layeredPlan ⟨0, []⟩ user? named? ∧
        ∀ entry : Variable,
          (∀ text, layeredPlan.environment layeredHost entry.name.toList = some text →
            ∃ value, entry.read text = .ok value) ∧
          entry.setting? layeredConfig =
            ((layeredPlan.overrides.bind entry.setting?).or
              ((entry.ofEnvironment? (layeredPlan.environment layeredHost)).or
                ((named?.bind fun source => entry.setting? source.config).or
                  (user?.bind fun source => entry.setting? source.config)))) := by
  have assembles : (assemble layeredHost layeredPlan ⟨0, []⟩).1 = .ok layeredConfig := by
    apply eq_ok_of_toOption
    decide +kernel
  exact ⟨assembles, assemble_precedence assembles⟩

end Config
end FilePaths
