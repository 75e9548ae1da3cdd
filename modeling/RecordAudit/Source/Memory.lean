import RecordAudit.Aggregation.Aggregator
import RecordAudit.Record.Row

/-!
# Sources of records

A source has records of one schema and can be opened again and again.  A source in memory
holds rows, which may come from lines of JSON: each line that is not blank gives one row,
and a line that is no JSON gives a row with nothing that can be read.
-/

namespace RecordAudit

/-- Something from which records can be read, any number of times. -/
class RecordSource (σ : Type) (ρ : outParam Type) where
  schema : σ → Schema
  records : σ → List ρ
  description : σ → String

namespace RecordSource

variable {σ ρ : Type} [RecordSource σ ρ]

/-- The stream of the records of a source. -/
def stream (s : σ) : RecordStream ρ :=
  { RecordStream.ofRecords (schema s) (records s) with restartable := true }

/-- What is logged where a source is opened. -/
def openEvents (log : LogConfig) (s : RecordStream ρ) : List Event :=
  if log.records then [.sourceOpened s.schema.size s.restartable] else []

end RecordSource

/-- Opens a source and reports on its records. -/
def Aggregator.runSource {α σ ρ : Type} [Arithmetic α] [Record ρ] [RecordSource σ ρ]
    (a : Aggregator) (s : σ) : Ending (Report α) :=
  a.run (RecordSource.stream s)

/-- Opens a source, reports on its records, and tells what is logged. -/
def Aggregator.runSourceLogged {σ ρ : Type} [Record ρ] [RecordSource σ ρ]
    (a : Aggregator) (s : σ) : Ending (Report Float) × List Event :=
  let stream := RecordSource.stream s
  let (ending, events) := a.runLogged stream
  (ending, RecordSource.openEvents a.config.log stream ++ events)

/-- Rows in memory. -/
structure MemorySource where
  schema : Schema
  rows : List Row

namespace MemorySource

/-- How many rows there are. -/
def size (s : MemorySource) : Nat := s.rows.length

/-- Whether there are no rows. -/
def isEmpty (s : MemorySource) : Bool := s.rows.isEmpty

/-- The words for a source. -/
def description (s : MemorySource) : String :=
  "in-memory rows (" ++ toString s.size ++ " records)"

instance : RecordSource MemorySource Row := ⟨schema, rows, description⟩

/-- Whether two sources have the same rows. -/
def sameRows : List Row → List Row → Bool
  | [], [] => true
  | a :: as, b :: bs => a.same b && sameRows as bs
  | _, _ => false

/-! ## Lines of JSON -/

/-- The row of a line. -/
def rowOfLine (schema : Schema) (line : List Char) : Row :=
  match Json.parse (String.ofList line) with
  | .ok v => Row.ofJson schema v
  | .error fault => Row.unreadable schema ("invalid JSON: " ++ fault.message)

/-- The rows of the lines of a text that are not blank. -/
def ofJsonLines (schema : Schema) (text : String) : MemorySource :=
  ⟨schema, (Text.filledLines text.toList).map (rowOfLine schema)⟩

/-- What is logged of a line with a number. -/
def lineEvent? (number : Nat) (line : List Char) : Option Event :=
  match Json.parse (String.ofList line) with
  | .ok _ => none
  | .error fault => some (.undecodableLine number fault)

/-- What is logged of the lines of a text; they are counted from one, blank ones left out. -/
def lineEvents (text : String) : List Event :=
  ((Text.filledLines text.toList).zipIdx 1).filterMap fun (line, number) => lineEvent? number line

/-- The rows of a file of lines, whose text may be missing. -/
def ofJsonFile (schema : Schema) (text : Except FileFault String) :
    Except AuditError MemorySource :=
  match text with
  | .ok text => .ok (ofJsonLines schema text)
  | .error fault => .error (.io fault)

end MemorySource

end RecordAudit
