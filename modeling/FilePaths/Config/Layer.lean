import FilePaths.Config.Settings

/-!
# Layers

Configurations are laid over each other.  A setting of the upper one hides that of the lower one,
a setting that the upper one does not have shows through, and a list of options is one setting.
-/

namespace FilePaths

/-- One section of settings over another. -/
def GlobSection.onTopOf (upper lower : GlobSection) : GlobSection where
  flags := upper.flags.or lower.flags

/-- One section of settings over another. -/
def RealpathSection.onTopOf (upper lower : RealpathSection) : RealpathSection where
  strategy := upper.strategy.or lower.strategy
  maxDepth := upper.maxDepth.or lower.maxDepth

namespace Config

/-- A section that may be missing over another: where both are there, setting by setting. -/
def sectionOnTopOf {Section : Type} (combine : Section → Section → Section) :
    (upper lower : Option Section) → Option Section
  | none, lower => lower
  | some upper, none => some upper
  | some upper, some lower => some (combine upper lower)

/-- One configuration over another. -/
def onTopOf (upper lower : Config) : Config where
  glob := sectionOnTopOf GlobSection.onTopOf upper.glob lower.glob
  realpath := sectionOnTopOf RealpathSection.onTopOf upper.realpath lower.realpath
  logMode := upper.logMode.or lower.logMode
  outputFormat := upper.outputFormat.or lower.outputFormat

/-- Configurations over each other, the lowest first. -/
def merge (configs : List Config) : Config :=
  configs.foldl (fun lower upper => upper.onTopOf lower) {}

end Config
end FilePaths
