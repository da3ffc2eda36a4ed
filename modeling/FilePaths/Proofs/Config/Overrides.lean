import FilePaths.Proofs.Config.Precedence
import FilePaths.Proofs.Glob.Flags

/-!
# Settings from the environment

Variables are written into a configuration one by one, and read from it again where their settings
are used.  What is used then is what the variable says, although options and the log level are kept
as names in between.  A variable that cannot be read ends the work: those before it have been
applied, and its own setting and those of the variables behind it are as they were.
-/

namespace FilePaths

/-! ## Meanings -/

namespace Variable

/-- What the setting of a variable comes to where it is used. -/
def Meaning : Variable → Type
  | .globFlags => GlobFlags
  | .strategy => Strategy
  | .maxDepth => Nat
  | .logMode => Option LogLevel
  | .outputFormat => OutputFormat

/-- What is used for the setting of a variable. -/
def inForce : (entry : Variable) → Config → Except Error entry.Meaning
  | .globFlags, config => config.globFlags
  | .strategy, config => .ok config.strategy
  | .maxDepth, config => .ok config.maxDepth
  | .logMode, config => config.logLevel
  | .outputFormat, config => .ok config.format

/-- What the text of a variable stands for.  A list of options stands for the union of those that
its words name, and each of its words must name one. -/
def Means : (entry : Variable) → Text → entry.Meaning → Prop
  | .globFlags, text, flags =>
      ∃ found : List Flag,
        (Text.words GlobFlags.isSeparator text).map GlobFlags.flagOfName? = found.map some ∧
          flags = GlobFlags.unionOf found
  | .strategy, text, found => Strategy.ofText text = .ok found
  | .maxDepth, text, depth => Text.signedNumber? 10 greatestWord (Text.trim text) = some depth
  | .logMode, text, level? => ∃ level, LogLevel.ofText? text = some level ∧ level? = some level
  | .outputFormat, text, format => OutputFormat.ofText? text = some format

/-- Both configurations have the same setting of the variable, and the same is used for it. -/
structure IsKept (entry : Variable) (before after : Config) : Prop where
  setting_eq : entry.setting? after = entry.setting? before
  inForce_eq : entry.inForce after = entry.inForce before

/-- A variable that is set decides what is used for its setting, and one that is not set leaves its
setting as it was. -/
inductive IsApplied (entry : Variable) (environment : Environment) (before after : Config) : Prop
  | missing
      (isMissing : environment entry.name.toList = none)
      (isKept : entry.IsKept before after)
  | read
      {text : Text}
      {meaning : entry.Meaning}
      (isThere : environment entry.name.toList = some text)
      (means : entry.Means text meaning)
      (isUsed : entry.inForce after = .ok meaning)

variable
  {entry : Variable}
  {environment : Environment}
  {before after config : Config}
  {text : Text}

/-- What is used for a setting depends on nothing else. -/
theorem isKept_of_setting?_eq (setting_eq : entry.setting? after = entry.setting? before) :
    entry.IsKept before after := by
  refine ⟨setting_eq, ?_⟩
  cases entry with
  | globFlags =>
      change after.flagNames? = before.flagNames? at setting_eq
      change after.globFlags = before.globFlags
      rw [Config.globFlags, setting_eq, Config.globFlags]
  | strategy =>
      change after.strategy? = before.strategy? at setting_eq
      change Except.ok after.strategy = Except.ok before.strategy
      rw [Config.strategy, setting_eq, Config.strategy]
  | maxDepth =>
      change after.maxDepth? = before.maxDepth? at setting_eq
      change Except.ok after.maxDepth = Except.ok before.maxDepth
      rw [Config.maxDepth, setting_eq, Config.maxDepth]
  | logMode =>
      change after.logMode = before.logMode at setting_eq
      change after.logLevel = before.logLevel
      rw [Config.logLevel, setting_eq, Config.logLevel]
  | outputFormat =>
      change after.outputFormat = before.outputFormat at setting_eq
      change Except.ok after.format = Except.ok before.format
      rw [Config.format, setting_eq, Config.format]

/-- A log level is kept under its own name, in which it is found again. -/
theorem ofText?_lower
    {level : LogLevel}
    (isLevel : LogLevel.ofText? text = some level) :
    LogLevel.ofText? (Text.lower text) = some level := by
  have lower_eq : Text.lower text = level.name.toList := by
    rw [LogLevel.ofText?] at isLevel
    split_ifs at isLevel with isQuiet isNormal isVerbose
    · exact Option.some.inj isLevel ▸ isQuiet
    · exact Option.some.inj isLevel ▸ isNormal
    · exact Option.some.inj isLevel ▸ isVerbose
  rw [lower_eq]
  cases level <;> decide

/-- Where a configuration has the setting that the text of a variable gives, what is used is what
the text stands for. -/
theorem exists_means_of_read
    {value : entry.Value}
    (read_eq : entry.read text = .ok value)
    (setting_eq : entry.setting? config = some value) :
    ∃ meaning, entry.Means text meaning ∧ entry.inForce config = .ok meaning := by
  cases entry with
  | globFlags =>
      rw [read] at read_eq
      split at read_eq
      · cases read_eq
      · rename_i flags isRead
        obtain rfl := Except.ok.inj read_eq
        obtain ⟨found, words_eq, rfl⟩ := GlobFlags.ofNames_eq_ok_iff.mp isRead
        refine ⟨_, ⟨found, words_eq, rfl⟩, ?_⟩
        change config.flagNames? = some ((GlobFlags.unionOf found).names.map String.toList)
          at setting_eq
        change config.globFlags = .ok (GlobFlags.unionOf found)
        rw [Config.globFlags, setting_eq, Option.getD_some, GlobFlags.ofNames_names]
  | strategy =>
      rw [read] at read_eq
      split at read_eq
      · cases read_eq
      · rename_i found isRead
        obtain rfl := Except.ok.inj read_eq
        refine ⟨found, isRead, ?_⟩
        change config.strategy? = some found at setting_eq
        change Except.ok config.strategy = Except.ok found
        rw [Config.strategy, setting_eq, Option.getD_some]
  | maxDepth =>
      rw [read] at read_eq
      split at read_eq
      · cases read_eq
      · rename_i depth isRead
        obtain rfl := Except.ok.inj read_eq
        refine ⟨depth, isRead, ?_⟩
        change config.maxDepth? = some depth at setting_eq
        change Except.ok config.maxDepth = Except.ok depth
        rw [Config.maxDepth, setting_eq, Option.getD_some]
  | logMode =>
      rw [read] at read_eq
      split at read_eq
      · cases read_eq
      · rename_i level isRead
        obtain rfl := Except.ok.inj read_eq
        refine ⟨some level, ⟨level, isRead, rfl⟩, ?_⟩
        change config.logMode = some (Text.lower text) at setting_eq
        change config.logLevel = .ok (some level)
        rw [Config.logLevel, setting_eq]
        simp only [ofText?_lower isRead]
  | outputFormat =>
      rw [read] at read_eq
      split at read_eq
      · cases read_eq
      · rename_i format isRead
        obtain rfl := Except.ok.inj read_eq
        refine ⟨format, isRead, ?_⟩
        change config.outputFormat = some format at setting_eq
        change Except.ok config.format = Except.ok format
        rw [Config.format, setting_eq, Option.getD_some]

/-- A text that cannot be read stands for nothing. -/
theorem not_means_of_read
    {defect : Defect}
    (read_eq : entry.read text = .error defect)
    (meaning : entry.Meaning) :
    ¬entry.Means text meaning := by
  intro means
  cases entry with
  | globFlags =>
      have isRead : GlobFlags.ofList text = .ok meaning := GlobFlags.ofNames_eq_ok_iff.mpr means
      rw [read, isRead] at read_eq
      cases read_eq
  | strategy =>
      have isRead : Strategy.ofText text = .ok meaning := means
      rw [read, isRead] at read_eq
      cases read_eq
  | maxDepth =>
      have isRead : Text.signedNumber? 10 greatestWord (Text.trim text) = some meaning := means
      rw [read, isRead] at read_eq
      cases read_eq
  | logMode =>
      obtain ⟨level, isRead, -⟩ := means
      rw [read, isRead] at read_eq
      cases read_eq
  | outputFormat =>
      have isRead : OutputFormat.ofText? text = some meaning := means
      rw [read, isRead] at read_eq
      cases read_eq

end Variable

/-! ## Applying variables -/

namespace Config

variable
  {environment : Environment}
  {entries : List Variable}
  {entry : Variable}
  {config after : Config}

theorem isApplied_of_applyVariables
    (applies : applyVariables environment entries config = (after, none))
    (isMember : entry ∈ entries) :
    entry.IsApplied environment config after := by
  have setting_eq := setting?_applyVariables applies entry
  rw [if_pos isMember] at setting_eq
  cases isThere : environment entry.name.toList with
  | none =>
      rw [Variable.ofEnvironment?_of_missing isThere, Option.none_or] at setting_eq
      exact .missing isThere (Variable.isKept_of_setting?_eq setting_eq)
  | some text =>
      obtain ⟨value, read_eq⟩ := exists_read_of_applyVariables applies isMember isThere
      rw [Variable.ofEnvironment?_of_read isThere read_eq, Option.some_or] at setting_eq
      obtain ⟨meaning, means, isUsed⟩ := Variable.exists_means_of_read read_eq setting_eq
      exact .read isThere means isUsed

theorem isKept_of_applyVariables
    (applies : applyVariables environment entries config = (after, none))
    (notMember : entry ∉ entries) :
    entry.IsKept config after := by
  apply Variable.isKept_of_setting?_eq
  rw [setting?_applyVariables applies, if_neg notMember, Option.none_or]

/-- Where applying variables ends in an error, one of them cannot be read, and all has been done
that applying those before it does. -/
theorem exists_unread_of_applyVariables
    {error : Error}
    (applies : applyVariables environment entries config = (after, some error)) :
    ∃ front entry behind text defect,
      entries = front ++ entry :: behind ∧
        applyVariables environment front config = (after, none) ∧
        environment entry.name.toList = some text ∧
        entry.read text = .error defect ∧
        error = .validation entry.name.toList defect := by
  induction entries generalizing config with
  | nil => cases applies
  | cons first entries ih =>
      cases isThere : environment first.name.toList with
      | none =>
          rw [applyVariables_cons_of_missing isThere] at applies
          obtain ⟨front, entry, behind, text, defect, rfl, front_eq, rest⟩ := ih applies
          refine ⟨first :: front, entry, behind, text, defect, rfl, ?_, rest⟩
          rw [applyVariables_cons_of_missing isThere, front_eq]
      | some text =>
          cases read_eq : first.read text with
          | error defect =>
              rw [applyVariables_cons_of_unread isThere read_eq] at applies
              obtain ⟨rfl, error_eq⟩ := Prod.mk.inj applies
              exact ⟨[], first, entries, text, defect, rfl, rfl, isThere, read_eq,
                (Option.some.inj error_eq).symm⟩
          | ok value =>
              rw [applyVariables_cons_of_read isThere read_eq] at applies
              obtain ⟨front, entry, behind, other, defect, rfl, front_eq, rest⟩ := ih applies
              refine ⟨first :: front, entry, behind, other, defect, rfl, ?_, rest⟩
              rw [applyVariables_cons_of_read isThere read_eq, front_eq]

/-- Applying the environment ends well, and then every variable that is set decides what is used for
its setting, and every other setting is as it was; or it ends in the error of the first variable
that cannot be read, and then the variables before it have been applied, and its own setting and
those of the variables behind it are as they were. -/
theorem applyEnvironment_overrides (environment : Environment) (config : Config) :
    (∃ after, applyEnvironment environment config = (after, none) ∧
        ∀ entry : Variable, entry.IsApplied environment config after) ∨
      ∃ after front entry behind text defect,
        applyEnvironment environment config =
            (after, some (.validation entry.name.toList defect)) ∧
          Variable.all = front ++ entry :: behind ∧
          (∀ earlier ∈ front, earlier.IsApplied environment config after) ∧
          environment entry.name.toList = some text ∧
          entry.read text = .error defect ∧
          (∀ meaning, ¬entry.Means text meaning) ∧
          ∀ other ∈ entry :: behind, other.IsKept config after := by
  rcases result_eq : applyEnvironment environment config with ⟨after, failure?⟩
  cases failure? with
  | none =>
      left
      exact ⟨after, rfl, fun entry =>
        isApplied_of_applyVariables result_eq (Variable.mem_all entry)⟩
  | some error =>
      right
      obtain ⟨front, entry, behind, text, defect, all_eq, applies, isThere, read_eq, rfl⟩ :=
        exists_unread_of_applyVariables result_eq
      have once : (front ++ entry :: behind).Nodup := by
        rw [← all_eq]
        decide
      refine ⟨after, front, entry, behind, text, defect, rfl, all_eq,
        fun earlier => isApplied_of_applyVariables applies, isThere, read_eq,
        Variable.not_means_of_read read_eq, fun other isMember => ?_⟩
      apply isKept_of_applyVariables applies
      intro isEarlier
      exact (List.nodup_append.mp once).2.2 other isEarlier other isMember rfl

/-- Two variables cannot be read, and the first of them ends the work. -/
example :
    applyEnvironment
        (fun name =>
          if name = "FILECORE_GLOB_FLAGS".toList then some "fnm_pathname|SYSCASE,, extglob".toList
          else if name = "FILECORE_MAX_SYMLINK_DEPTH".toList then some "-1".toList
          else if name = "FILECORE_LOG_MODE".toList then some "loud".toList
          else none)
        { realpath := some { maxDepth := some 7 } } =
      ({ glob := some { flags := some ["PATHNAME".toList, "EXTGLOB".toList] }
         realpath := some { maxDepth := some 7 } },
        some (.validation "FILECORE_MAX_SYMLINK_DEPTH".toList .depthNotNumber)) := by
  decide +kernel

end Config
end FilePaths
