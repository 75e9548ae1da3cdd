/-!
# Settings for logging

What a run logs, and the filter that a subscriber applies to what is logged.
-/

namespace RecordAudit

/-- The levels of events. -/
inductive Level where
  | error
  | warn
  | info
  | debug
  | trace
deriving Repr, DecidableEq

namespace Level

/-- The name of a level. -/
def name : Level → String
  | error => "ERROR"
  | warn => "WARN"
  | info => "INFO"
  | debug => "DEBUG"
  | trace => "TRACE"

/-- How verbose a level is. -/
def verbosity : Level → Nat
  | error => 0
  | warn => 1
  | info => 2
  | debug => 3
  | trace => 4

/-- All levels. -/
def all : List Level := [error, warn, info, debug, trace]

/-- Every level is listed. -/
theorem mem_all (l : Level) : l ∈ all := by cases l <;> simp [all]

/-- The level with a name in any case. -/
def ofName? (s : String) : Option Level := all.find? (·.name = s.map Char.toUpper)

/-- The name of a level in lower case. -/
def lowerName (l : Level) : String := l.name.map Char.toLower

end Level

/-- What a run logs. -/
structure LogConfig where
  level : Level
  /-- Whether each violation is logged. -/
  violations : Bool
  /-- Whether the opening and the end of a source are logged. -/
  records : Bool
  /-- Whether the statistics of the columns are logged at the end. -/
  stats : Bool
  /-- The most bytes of a message that are logged. -/
  maxFieldLength : Nat
deriving Repr, DecidableEq

namespace LogConfig

/-- The settings for most uses. -/
def standard : LogConfig := ⟨.info, false, true, true, 256⟩

/-- The settings for the search for errors. -/
def verbose : LogConfig := ⟨.debug, true, true, true, 1024⟩

/-- The settings that cost least. -/
def production : LogConfig := ⟨.warn, false, false, false, 128⟩

end LogConfig

/-- What a subscriber to events shows. -/
structure LoggingConfig where
  level : Level
  /-- The level for the events of this library. -/
  ownLevel : Level
  json : Bool
  /-- A filter in place of the one that the levels make. -/
  filter : Option String
deriving Repr, DecidableEq

namespace LoggingConfig

/-- The settings where nothing else is asked for. -/
def standard : LoggingConfig := ⟨.info, .debug, false, none⟩

/-- The settings for production. -/
def production : LoggingConfig := ⟨.warn, .info, true, none⟩

/-- The settings for development. -/
def development : LoggingConfig := ⟨.debug, .debug, false, none⟩

/-- The filter: the level of all events and that of the events of this library. -/
def envFilter (c : LoggingConfig) : String :=
  match c.filter with
  | some f => f
  | none => c.level.lowerName ++ ",one_query=" ++ c.ownLevel.lowerName

end LoggingConfig

end RecordAudit
