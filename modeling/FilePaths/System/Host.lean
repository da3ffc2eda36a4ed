import FilePaths.Config.Settings
import FilePaths.System.Interface

/-!
# Hosts

What a whole program runs on: the calls of the operating system, the texts of files and what they
say, the calendar, and the variables of the environment.
-/

namespace FilePaths

/-- The values of the environment, by name. -/
abbrev Environment := Text → Option Text

/-- What a program runs on. -/
structure Host (World : Type) where
  /-- The calls of the operating system. -/
  system : System World
  /-- The text of a file, which must be valid as such. -/
  readFile : (path : Text) → Call World Text
  /-- The configuration that the text of a file stands for, if it stands for one. -/
  readConfig : (stream : Text) → Option Config
  /-- A moment as it is printed, in the time of the place.  Every moment has a text here; a calendar
  of the machine may end some hundred thousand years away, and would end the program there. -/
  showTime : Instant → Text
  /-- The variables of the environment; they stay as they are. -/
  environment : Environment

end FilePaths
