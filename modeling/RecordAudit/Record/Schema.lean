import RecordAudit.Json.Decoding

/-!
# Schemas

A schema lists the fields of the records of one query with their names and types.  Where
a name occurs twice the first field counts.
-/

namespace RecordAudit

/-- The declared type of a field. -/
inductive FieldType where
  | boolean
  | integer
  | float
  | text
  | date
  | timestamp
  /-- A type whose values are no field values, so that reading them fails. -/
  | other
deriving Repr, DecidableEq

namespace FieldType

/-- The name of a type. -/
def name : FieldType → String
  | boolean => "boolean"
  | integer => "integer"
  | float => "float"
  | text => "text"
  | date => "date"
  | timestamp => "timestamp"
  | other => "other"

/-- All types. -/
def all : List FieldType := [boolean, integer, float, text, date, timestamp, other]

/-- Every type is listed. -/
theorem mem_all (t : FieldType) : t ∈ all := by cases t <;> simp [all]

/-- The types by their names. -/
def named : List (String × FieldType) := all.map fun t => (t.name, t)

/-- The type with a name. -/
def ofName? (s : String) : Option FieldType := all.find? (·.name = s)

/-- Whether the values of a type are numbers. -/
def isNumeric : FieldType → Bool
  | integer | float => true
  | _ => false

/-- Reads a type from JSON. -/
def reader : Json.Reader FieldType := Json.Reader.variant named

end FieldType

/-- A field with its name and type. -/
structure FieldDef where
  name : String
  type : FieldType
  nullable : Bool
deriving Repr, DecidableEq

/-- The fields of the records of one query. -/
structure Schema where
  fields : List FieldDef
deriving Repr, DecidableEq

namespace Schema

/-- The number of fields. -/
def size (s : Schema) : Nat := s.fields.length

/-- Whether there are no fields. -/
def isEmpty (s : Schema) : Bool := s.fields.isEmpty

/-- The place of the first field with a name. -/
def index? (s : Schema) (name : String) : Option (Fin s.size) :=
  s.fields.findFinIdx? (·.name == name)

/-- The first field with a name. -/
def field? (s : Schema) (name : String) : Option FieldDef :=
  s.fields.find? (·.name == name)

/-- Whether there is a field with a name. -/
def contains (s : Schema) (name : String) : Bool := (s.index? name).isSome

/-! ## Schemas in JSON -/

open Json

/-- The parts of a field that have been read. -/
structure FieldDraft where
  name : Option String
  type : Option FieldType
  nullable : Option Bool

/-- The layout of a field. -/
def fieldLayout : Reader.Layout FieldDraft where
  title := "FieldDef"
  fields := [
    ⟨"name", (·.name.isSome), fun d => do return { d with name := some (← Reader.text) }, false⟩,
    ⟨"field_type", (·.type.isSome), fun d => do
      return { d with type := some (← FieldType.reader) }, false⟩,
    ⟨"nullable", (·.nullable.isSome), fun d => do
      return { d with nullable := some (← Reader.boolean) }, false⟩]
  strict := false
  mayStop := false

/-- Reads a field. -/
def fieldReader : Reader FieldDef := do
  let d ← fieldLayout.read ⟨none, none, none⟩
  return ⟨d.name.getD "", d.type.getD .other, d.nullable.getD true⟩

/-- The layout of a schema. -/
def layout : Reader.Layout (Option (List FieldDef)) where
  title := "RecordSchema"
  fields := [
    ⟨"fields", Option.isSome, fun _ => do return some (← Reader.list fieldReader), false⟩]
  strict := false
  mayStop := false

/-- Reads a schema. -/
def reader : Reader Schema := do
  return ⟨(← layout.read none).getD []⟩

/-- The schema that a JSON text stands for. -/
def ofJsonText (text : String) : Except Misread Schema := reader.run text

/-- A schema as JSON. -/
def toJson (s : Schema) : Value :=
  .object [("fields", Json.ofList (fun f => .object [
    ("name", .string f.name), ("field_type", .string f.type.name),
    ("nullable", .boolean f.nullable)]) s.fields)]

end Schema

end RecordAudit
