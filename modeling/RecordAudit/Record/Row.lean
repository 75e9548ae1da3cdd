import RecordAudit.Calendar.Reading
import RecordAudit.Record.Schema
import RecordAudit.Record.Value

/-!
# Rows

A row is a record that owns its cells, one for each field of its schema.  A cell that
could not be decoded stays in the row with the reason, and only reading that cell fails.
-/

namespace RecordAudit

/-- A cell of a row. -/
inductive Cell where
  | value (v : FieldValue)
  | unreadable (reason : String)

/-- Whether two cells hold the same value, or the same reason why they have none. -/
def Cell.same : Cell → Cell → Bool
  | value a, value b => a.same b
  | unreadable a, unreadable b => a == b
  | _, _ => false

/-- A record with one cell for each field of its schema. -/
structure Row where
  schema : Schema
  cells : List Cell
  complete : cells.length = schema.size

namespace Row

/-- Whether two rows have one schema and the same cells. -/
def same (a b : Row) : Bool :=
  a.schema == b.schema && a.cells.length == b.cells.length &&
    (a.cells.zip b.cells).all fun (x, y) => x.same y

/-- The reason for the cells that a row with too few values leaves over. -/
def raggedReason (supplied declared : Nat) : String :=
  "row has " ++ toString supplied ++ " values but the schema declares " ++ toString declared ++
    " fields"

/-- The row of some values in the order of the fields.  Values beyond the last field are dropped,
and fields beyond the last value are unreadable. -/
def ofValues (schema : Schema) (values : List FieldValue) : Row where
  schema := schema
  cells := (values.take schema.size).map .value ++
    List.replicate (schema.size - values.length)
      (.unreadable (raggedReason values.length schema.size))
  complete := by
    simp only [List.length_append, List.length_map, List.length_take, List.length_replicate]
    omega

/-- The row all of whose cells are unreadable. -/
def unreadable (schema : Schema) (reason : String) : Row where
  schema := schema
  cells := List.replicate schema.size (.unreadable reason)
  complete := List.length_replicate

/-- The row all of whose cells are null, from which others are built. -/
def empty (schema : Schema) : Row where
  schema := schema
  cells := List.replicate schema.size (.value .null)
  complete := List.length_replicate

/-- Puts a cell into the first field with a name, if there is one. -/
def put (r : Row) (name : String) (cell : Cell) : Row :=
  match r.schema.index? name with
  | some i => { r with cells := r.cells.set i cell, complete := by simp [r.complete] }
  | none => r

/-- Gives a field a value. -/
def set (r : Row) (name : String) (v : FieldValue) : Row := r.put name (.value v)

/-- Makes a field unreadable. -/
def markUnreadable (r : Row) (name reason : String) : Row := r.put name (.unreadable reason)

/-- The cell at a field of the schema. -/
def cell (r : Row) (i : Fin r.schema.size) : Cell := r.cells.get (i.cast r.complete.symm)

/-- The reason why a field that no schema has cannot be read. -/
def foreignField : String := "field is not part of the record schema"

/-- The value of a field. -/
def get (r : Row) (name : String) : Except ReadError FieldValue :=
  match r.schema.index? name with
  | none => .error ⟨name, foreignField⟩
  | some i =>
    match r.cell i with
    | .value v => .ok v
    | .unreadable reason => .error ⟨name, reason⟩

instance : Record Row := ⟨get⟩

/-! ## Rows from JSON -/

/-- The value of a number: an integer where it fits, and else the double. -/
def ofNumber (n : Json.Number) : FieldValue :=
  match n.int64? with
  | some i => .integer i
  | none => .float n.toFloat

/-- The cell of a string in a field of a type. -/
def ofText (type : FieldType) (s : String) : Cell :=
  match type with
  | .date =>
    match Calendar.date s with
    | .ok d => .value (.date d)
    | .error e => .unreadable ("'" ++ s ++ "' is not a date: " ++ e.message)
  | .timestamp =>
    match Calendar.instant s with
    | .ok t => .value (.timestamp t)
    | .error e => .unreadable ("'" ++ s ++ "' is not an RFC 3339 timestamp: " ++ e.message)
  | _ => .value (.text s)

/-- The cell of a JSON value in a field of a type. -/
def ofJsonValue (type : FieldType) : Json.Value → Cell
  | .null => .value .null
  | .boolean b => .value (.boolean b)
  | .number n => .value (ofNumber n)
  | .string s => ofText type s
  | .array _ | .object _ => .unreadable "nested JSON values are not supported"

/-- The cell of a field of a JSON object; a missing key gives null. -/
def ofJsonField (fields : List (String × Json.Value)) (f : FieldDef) : Cell :=
  match Json.field? f.name fields with
  | none => .value .null
  | some v => ofJsonValue f.type v

/-- The row of a JSON value, which must be an object. -/
def ofJson (schema : Schema) (v : Json.Value) : Row :=
  match v with
  | .object fields =>
    { schema := schema
      cells := schema.fields.map (ofJsonField fields)
      complete := List.length_map _ }
  | _ => unreadable schema "JSON record is not an object"

end Row

end RecordAudit
