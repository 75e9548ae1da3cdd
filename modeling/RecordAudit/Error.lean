import RecordAudit.Calendar.Duration
import RecordAudit.Filter.Comparison
import RecordAudit.Json.Document
import RecordAudit.Number.Text
import RecordAudit.Pattern.Fault
import RecordAudit.Text.Quoted

/-!
# What can go wrong

An `AuditError` ends the operation that meets it, and a run that ends with one gives no
report.  A field that cannot be read is a `ReadError`; it concerns one record only and
ends up in the report.  Errors are causes; `message` has their wording.
-/

namespace RecordAudit

/-- Why settings are refused. -/
inductive ConfigurationFault where
  | zeroSketchCapacity
  | zeroReservoirCapacity
  /-- A percentile of a run that is no fraction. -/
  | percentile (p : Float)
  /-- A percentile of an accumulator that is no fraction. -/
  | columnPercentile (p : Float)
  | zeroTimeout
  | unknownComparison (code : String)
  | missingOperand (comparison : Comparison) (field : String)
  | unpairedOperands (comparison : Comparison) (field : String) (count : Nat)
  | boundNotNumber (bound field : String)
  | boundNotInstant (bound field : String)
  | boundNotComparable (field : String)
  | boundsCrossed (field : String) (least greatest : Float)
  | zeroPageSize
  | noBatch
  | strayBatch (index : Nat)
  | unreadableFile (path : String) (fault : Json.Misread)
  | stated (message : String)

/-- The wording of a fault in settings. -/
def ConfigurationFault.message : ConfigurationFault → String
  | zeroSketchCapacity => "sketch_capacity must be at least 1"
  | zeroReservoirCapacity => "Reservoir capacity must be at least 1"
  | percentile p => "percentile " ++ Number.plain p ++ " is outside [0, 1]"
  | columnPercentile p => "Percentile " ++ Number.plain p ++ " is outside [0, 1]"
  | zeroTimeout => "record_timeout_ms must be positive"
  | unknownComparison code => "Unknown filter prefix '" ++ code ++ "'"
  | missingOperand c field =>
    "Filter " ++ c.code ++ " on '" ++ field ++ "' needs at least one value"
  | unpairedOperands c field count =>
    "Filter " ++ c.code ++ " on '" ++ field ++ "' needs an even, non-zero number of values, got " ++
      toString count
  | boundNotNumber bound field =>
    "Filter bound '" ++ bound ++ "' on '" ++ field ++ "' is not a number"
  | boundNotInstant bound field =>
    "Filter bound '" ++ bound ++ "' on '" ++ field ++ "' is not an RFC 3339 timestamp or date"
  | boundNotComparable field => "Range bounds for '" ++ field ++ "' must not be NaN"
  | boundsCrossed field least greatest =>
    "Range for '" ++ field ++ "' has min " ++ Number.plain least ++ " greater than max " ++
      Number.plain greatest
  | zeroPageSize => "Page size must be greater than 0"
  | noBatch => "At least one record batch is required"
  | strayBatch index => "Record batch " ++ toString index ++ " does not match the source schema"
  | unreadableFile path fault => "Invalid configuration in " ++ path ++ ": " ++ fault.message
  | stated message => message

/-- Why two states cannot be merged. -/
inductive MergeFault where
  | finalized (column : String)
  | differentColumns (mine theirs : String)
  | differentPercentiles (column : String)
  | differentCapacities (mine theirs : Nat)
  | differentColumnLists (mine theirs : List String)
  | stated (message : String)

/-- The wording of a fault in a merge. -/
def MergeFault.message : MergeFault → String
  | finalized column => "Cannot merge finalized accumulators for column '" ++ column ++ "'"
  | differentColumns mine theirs =>
    "Cannot merge accumulators for different columns: '" ++ mine ++ "' vs '" ++ theirs ++ "'"
  | differentPercentiles column =>
    "Cannot merge accumulators for '" ++ column ++ "' with different percentiles"
  | differentCapacities mine theirs =>
    "Cannot merge reservoirs with different capacities: " ++ toString mine ++ " vs " ++
      toString theirs
  | differentColumnLists mine theirs =>
    "Cannot merge partial aggregations over different columns: " ++ Text.quotedList mine ++
      " vs " ++ Text.quotedList theirs
  | stated message => message

/-- Why a file gives no text. -/
inductive FileFault where
  | missing
  | notUtf8
  | stated (message : String)

/-- The wording of a fault of a file. -/
def FileFault.message : FileFault → String
  | missing => "No such file or directory (os error 2)"
  | notUtf8 => "stream did not contain valid UTF-8"
  | stated message => message

/-- A misuse that callers are meant to rule out. -/
inductive InternalFault where
  | emptySketch
  | quantile (q : Float)
  | stated (message : String)

/-- The wording of a misuse. -/
def InternalFault.message : InternalFault → String
  | emptySketch => "Cannot compute quantile on empty sketch"
  | quantile q => "Quantile phi must be in [0, 1], got " ++ Number.plain q
  | stated message => message

/-- What ends an operation without a result. -/
inductive AuditError where
  | configuration (fault : ConfigurationFault)
  | columnNotFound (column : String)
  | invalidPattern (field : String) (fault : PatternFault)
  | stream (recordsRead : Nat) (source : AuditError)
  | cancelled (recordsRead : Nat)
  | timeout (recordsRead : Nat) (limit : Duration)
  | accumulatorClosed (column : String)
  | stateMerge (fault : MergeFault)
  | serialization (fault : Json.Misread)
  | io (fault : FileFault)
  | internal (fault : InternalFault)

namespace AuditError

/-- The wording of an error. -/
def message : AuditError → String
  | configuration fault => "Configuration error: " ++ fault.message
  | columnNotFound column => "Column '" ++ column ++ "' not found in record schema"
  | invalidPattern field _ => "Invalid pattern for field '" ++ field ++ "'"
  | stream n source =>
    "Record stream failed after " ++ toString n ++ " records: " ++ source.message
  | cancelled n => "Run cancelled after " ++ toString n ++ " records"
  | timeout n limit => "Timed out after " ++ limit.text ++ " waiting for record " ++ toString n
  | accumulatorClosed column => "Accumulator for column '" ++ column ++ "' is closed"
  | stateMerge fault => "Failed to merge states: " ++ fault.message
  | serialization fault => "Serialization error: " ++ fault.message
  | io fault => "IO error: " ++ fault.message
  | internal fault => "Internal error: " ++ fault.message

/-- Whether an error comes from settings, before any record is read. -/
def isConfiguration : AuditError → Bool
  | configuration _ | columnNotFound _ | invalidPattern _ _ => true
  | _ => false

/-- Whether an error was caused by another one that it holds. -/
def hasSource : AuditError → Bool
  | invalidPattern _ _ | stream _ _ | serialization _ | io _ => true
  | _ => false

/-- Puts a message in front of an error, which becomes an internal one; the words "internal error"
are said once only. -/
def within (context : String) : AuditError → AuditError
  | internal fault => .internal (.stated (context ++ ": " ++ fault.message))
  | e => .internal (.stated (context ++ ": " ++ e.message))

end AuditError

/-- A field of a record that could not be read. -/
structure ReadError where
  field : String
  message : String
deriving Repr, DecidableEq

/-- The wording of a field that could not be read. -/
def ReadError.text (e : ReadError) : String :=
  "Cannot read field '" ++ e.field ++ "': " ++ e.message

end RecordAudit
