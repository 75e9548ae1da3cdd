import RecordAudit.Json.Decoding

/-!
# Violations

A violation says that a record fails a constraint, or that a field of it cannot be read.
-/

namespace RecordAudit

/-- The kinds of violations, in their order. -/
inductive ViolationKind where
  | notNull
  | range
  | pattern
  | custom
  /-- A field that could not be read. -/
  | recordRead
deriving Repr, DecidableEq

namespace ViolationKind

/-- The name of a kind. -/
def name : ViolationKind → String
  | notNull => "not_null"
  | range => "range"
  | pattern => "pattern"
  | custom => "custom"
  | recordRead => "record_read"

/-- The place of a kind in the order. -/
def rank : ViolationKind → Nat
  | notNull => 0
  | range => 1
  | pattern => 2
  | custom => 3
  | recordRead => 4

/-- All kinds in their order. -/
def all : List ViolationKind := [notNull, range, pattern, custom, recordRead]

/-- Every kind is listed. -/
theorem mem_all (k : ViolationKind) : k ∈ all := by cases k <;> simp [all]

/-- The kinds by their names. -/
def named : List (String × ViolationKind) := all.map fun k => (k.name, k)

/-- Reads a kind from JSON. -/
def reader : Json.Reader ViolationKind := Json.Reader.variant named

/-- The kind that a JSON text stands for. -/
def ofJsonText (text : String) : Except Json.Misread ViolationKind := reader.run text

/-- Brings kinds into their order. -/
def sorted (kinds : List ViolationKind) : List ViolationKind :=
  kinds.mergeSort fun a b => a.rank ≤ b.rank

end ViolationKind

/-- One failed constraint, or one field that could not be read, of one record. -/
structure Violation where
  /-- The place of the record among all that were read. -/
  recordIndex : Nat
  field : String
  kind : ViolationKind
  message : String
deriving Repr, DecidableEq

namespace Violation

/-- A violation as it is shown. -/
def text (v : Violation) : String :=
  "record " ++ toString v.recordIndex ++ " field '" ++ v.field ++ "' [" ++ v.kind.name ++ "]: " ++
    v.message

/-- The same violation of the record at another place. -/
def reindexed (v : Violation) (recordIndex : Nat) : Violation := { v with recordIndex }

open Json

/-- A violation as JSON. -/
def toJson (v : Violation) : Value :=
  .object [("record_index", Json.ofNat v.recordIndex), ("field", .string v.field),
    ("kind", .string v.kind.name), ("message", .string v.message)]

/-- The parts of a violation that have been read. -/
structure Draft where
  recordIndex : Option Nat
  field : Option String
  kind : Option ViolationKind
  message : Option String

/-- The layout of a violation. -/
def layout : Reader.Layout Draft where
  title := "Violation"
  fields := [
    ⟨"record_index", (·.recordIndex.isSome), fun d => do
      return { d with recordIndex := some (← Reader.natural64) }, false⟩,
    ⟨"field", (·.field.isSome), fun d => do return { d with field := some (← Reader.text) }, false⟩,
    ⟨"kind", (·.kind.isSome), fun d => do
      return { d with kind := some (← ViolationKind.reader) }, false⟩,
    ⟨"message", (·.message.isSome), fun d => do
      return { d with message := some (← Reader.text) }, false⟩]
  strict := false
  mayStop := false

/-- Reads a violation. -/
def reader : Reader Violation := do
  let d ← layout.read ⟨none, none, none, none⟩
  return ⟨d.recordIndex.getD 0, d.field.getD "", d.kind.getD .notNull, d.message.getD ""⟩

/-- The violation that a JSON text stands for. -/
def ofJsonText (text : String) : Except Misread Violation := reader.run text

end Violation

end RecordAudit
