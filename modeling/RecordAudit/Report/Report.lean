import RecordAudit.Constraint.Violation
import RecordAudit.Stats.ColumnStats

/-!
# Reports

A report holds an outcome for each record that passed the filters, in the order in which
the records came, and the statistics of the columns in the order of their names.  All
counts of a report come from these.
-/

namespace RecordAudit

/-- What validation says of one record: it is valid if it has no violations. -/
structure Outcome where
  /-- The place of the record among all that were read, of which there are taken to be fewer than
  two to the 64th. -/
  recordIndex : Nat
  violations : List Violation
deriving Repr, DecidableEq

namespace Outcome

/-- Whether the record is valid. -/
def isValid (o : Outcome) : Bool := o.violations.isEmpty

/-- The outcome of the record that many places later. -/
def offset (o : Outcome) (places : Nat) : Outcome :=
  let index := o.recordIndex + places
  ⟨index, o.violations.map (·.reindexed index)⟩

open Json

/-- An outcome as JSON. -/
def toJson (o : Outcome) : Value :=
  if o.isValid then
    .object [("status", .string "valid"), ("record_index", Json.ofNat o.recordIndex)]
  else
    .object [("status", .string "invalid"), ("record_index", Json.ofNat o.recordIndex),
      ("violations", Json.ofList Violation.toJson o.violations)]

end Outcome

/-- The result of a run, with statistics in some arithmetic. -/
structure Report (α : Type) where
  outcomes : List Outcome
  /-- The statistics by the names of their columns, which ascend. -/
  columns : List (String × ColumnStats α)
  /-- How many records did not pass the filters. -/
  filtered : Nat

namespace Report

variable {α : Type}

/-- Puts statistics among others that are ordered by column. -/
def insertColumn (s : ColumnStats α) :
    List (String × ColumnStats α) → List (String × ColumnStats α)
  | [] => [(s.column, s)]
  | (k, t) :: rest =>
    if s.column < k then (s.column, s) :: (k, t) :: rest
    else if s.column = k then (s.column, s) :: rest
    else (k, t) :: insertColumn s rest

/-- The report of some outcomes and statistics. -/
def assemble (outcomes : List Outcome) (stats : List (ColumnStats α)) (filtered : Nat) : Report α :=
  ⟨outcomes, stats.foldl (fun columns s => insertColumn s columns) [], filtered⟩

/-- How many records were validated. -/
def total (r : Report α) : Nat := r.outcomes.length

/-- How many records are valid. -/
def valid (r : Report α) : Nat := r.outcomes.countP (·.isValid)

/-- How many records are not valid. -/
def invalid (r : Report α) : Nat := r.total - r.valid

/-- Whether all records are valid. -/
def isAllValid (r : Report α) : Bool := r.invalid == 0

/-- The outcomes of the records that are not valid. -/
def invalidOutcomes (r : Report α) : List Outcome := r.outcomes.filter fun o => !o.isValid

/-- All violations, by record and then as they were found. -/
def violations (r : Report α) : List Violation := r.outcomes.flatMap (·.violations)

/-- The records that are not valid are counted as what is left of all. -/
theorem length_invalidOutcomes (r : Report α) : r.invalidOutcomes.length = r.invalid := by
  have hsplit : r.total = r.valid + r.outcomes.countP fun o => !o.isValid := by
    simpa [total, valid] using
      List.length_eq_countP_add_countP (fun o : Outcome => o.isValid) (l := r.outcomes)
  have hrest : r.invalidOutcomes.length = r.outcomes.countP fun o => !o.isValid :=
    List.countP_eq_length_filter.symm
  rw [hrest, invalid]
  omega

theorem valid_add_invalid (r : Report α) : r.valid + r.invalid = r.total := by
  have hle : r.valid ≤ r.total := List.countP_le_length
  rw [invalid]
  omega

theorem isAllValid_iff (r : Report α) : r.isAllValid = true ↔ r.violations = [] := by
  rw [isAllValid, beq_iff_eq, ← length_invalidOutcomes, List.length_eq_zero_iff, invalidOutcomes,
    List.filter_eq_nil_iff, violations, List.flatMap_eq_nil_iff]
  simp [Outcome.isValid]

/-- The statistics of a column. -/
def column? (r : Report α) (name : String) : Option (ColumnStats α) :=
  (r.columns.find? (·.1 == name)).map (·.2)

/-- Whether two reports have equal outcomes. -/
def sameOutcomes (a b : Report α) : Bool := a.outcomes == b.outcomes

/-- Whether two reports have equal statistics. -/
def sameColumns (a b : Report Float) : Bool :=
  a.columns.length == b.columns.length &&
    (a.columns.zip b.columns).all fun (x, y) => x.1 == y.1 && x.2.same y.2

/-- Whether two reports are equal. -/
def same (a b : Report Float) : Bool :=
  a.filtered == b.filtered && a.sameOutcomes b && a.sameColumns b

open Json

/-- A report as JSON. -/
def toJson (r : Report Float) : Value :=
  .object [("total_records", Json.ofNat r.total), ("valid_records", Json.ofNat r.valid),
    ("invalid_records", Json.ofNat r.invalid), ("filtered_records", Json.ofNat r.filtered),
    ("outcomes", Json.ofList Outcome.toJson r.outcomes),
    ("column_stats", .object (r.columns.map fun (k, s) => (k, s.toJson)))]

end Report

end RecordAudit
