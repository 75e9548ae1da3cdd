import RecordAudit.Constraint.Violation
import RecordAudit.Error
import RecordAudit.Logging.Settings

/-!
# Events

What a run tells while it goes on.  Each event has a level, a message, and named fields
whose values are texts.
-/

namespace RecordAudit

/-- Something that a run tells. -/
inductive Event where
  | schemaMismatch (error : AuditError)
  | cancelled (recordsRead : Nat)
  | aborted (recordsRead : Nat) (error : AuditError)
  | filteredOut (recordIndex : Nat)
  /-- A violation; its message is cut to the length that may be logged. -/
  | violation (recordIndex : Nat) (field : String) (kind : ViolationKind) (message : String)
  | sourceOpened (fields : Nat) (restartable : Bool)
  | streamExhausted (recordsRead : Nat)
  | completed (total valid invalid filtered : Nat)
  | columnStatistics (column : String) (count skipped : Nat)
      (mean deviation least greatest : Option Float)
  | undecodableLine (line : Nat) (fault : Json.Misread)

namespace Event

/-- The level of an event. -/
def level : Event → Level
  | schemaMismatch _ | cancelled _ | aborted _ _ => .warn
  | filteredOut _ | violation _ _ _ _ | undecodableLine _ _ => .debug
  | _ => .info

/-- The message of an event. -/
def message : Event → String
  | schemaMismatch _ => "Aggregator configuration does not match the record schema"
  | cancelled _ => "Aggregation run cancelled"
  | aborted _ _ => "Aggregation run aborted"
  | filteredOut _ => "Record filtered out"
  | violation _ _ _ _ => "Record violation"
  | sourceOpened _ _ => "Record source opened"
  | streamExhausted _ => "Record stream exhausted"
  | completed _ _ _ _ => "Aggregation run completed"
  | columnStatistics _ _ _ _ _ _ _ => "Column statistics"
  | undecodableLine _ _ => "Undecodable JSON line"

/-- A double that may be absent, as a trace shows it. -/
def traced : Option Float → String
  | some x => "Some(" ++ Number.trace x ++ ")"
  | none => "None"

/-- The fields of an event. -/
def fields : Event → List (String × String)
  | schemaMismatch e => [("error", e.message)]
  | cancelled n => [("records_read", toString n)]
  | aborted n e => [("records_read", toString n), ("error", e.message)]
  | filteredOut i => [("record.index", toString i)]
  | violation i field kind message =>
    [("record.index", toString i), ("violation.field", field), ("violation.kind", kind.name),
      ("violation.message", message)]
  | sourceOpened n restartable =>
    [("source.fields", toString n),
      ("source.restartable", if restartable then "true" else "false")]
  | streamExhausted n => [("records_read", toString n)]
  | completed total valid invalid filtered =>
    [("report.total", toString total), ("report.valid", toString valid),
      ("report.invalid", toString invalid), ("report.filtered", toString filtered)]
  | columnStatistics column count skipped mean deviation least greatest =>
    [("column", column), ("stats.count", toString count), ("stats.skipped", toString skipped),
      ("stats.mean", traced mean), ("stats.std_dev", traced deviation), ("stats.min", traced least),
      ("stats.max", traced greatest)]
  | undecodableLine line fault => [("line", toString line), ("error", fault.message)]

end Event

end RecordAudit
