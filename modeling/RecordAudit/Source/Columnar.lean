import RecordAudit.Source.Memory

/-!
# Columnar sources

Batches of columns, all of one list of fields, whose rows are the records.  Numbers of
every width become integers or doubles; dates and points in time are counted from the
start of 1970 in the unit of their column; other types cannot be read.
-/

namespace RecordAudit

/-- The units of points in time. -/
inductive TimeUnit where
  | second
  | millisecond
  | microsecond
  | nanosecond
deriving Repr, DecidableEq

/-- The nanoseconds of a unit. -/
def TimeUnit.nanos : TimeUnit → Int
  | second => 1000000000
  | millisecond => 1000000
  | microsecond => 1000
  | nanosecond => 1

/-- The types of columns. -/
inductive ColumnType where
  | boolean
  | int8
  | int16
  | int32
  | int64
  | uint8
  | uint16
  | uint32
  | uint64
  | float32
  | float64
  | utf8
  | largeUtf8
  | utf8View
  /-- Days. -/
  | date32
  /-- Milliseconds. -/
  | date64
  /-- A zone, if there is one, does not change the instant. -/
  | timestamp (unit : TimeUnit) (zone : Option String)
  | binary
  | decimal128 (precision : Nat) (scale : Int)
  | null
  /-- Any further type by its name: other times and widths, lists, structures, dictionaries and so
  on. -/
  | other (name : String)
deriving Repr, DecidableEq

namespace ColumnType

/-- The type of a field with such a column. -/
def fieldType : ColumnType → FieldType
  | boolean => .boolean
  | int8 | int16 | int32 | int64 | uint8 | uint16 | uint32 | uint64 => .integer
  | float32 | float64 => .float
  | utf8 | largeUtf8 | utf8View => .text
  | date32 | date64 => .date
  | timestamp _ _ => .timestamp
  | binary | decimal128 _ _ | null | other _ => .other

/-- The name of a type in a message. -/
def name : ColumnType → String
  | boolean => "Boolean"
  | int8 => "Int8"
  | int16 => "Int16"
  | int32 => "Int32"
  | int64 => "Int64"
  | uint8 => "UInt8"
  | uint16 => "UInt16"
  | uint32 => "UInt32"
  | uint64 => "UInt64"
  | float32 => "Float32"
  | float64 => "Float64"
  | utf8 => "Utf8"
  | largeUtf8 => "LargeUtf8"
  | utf8View => "Utf8View"
  | date32 => "Date32"
  | date64 => "Date64"
  | timestamp _ _ => "Timestamp"
  | binary => "Binary"
  | decimal128 precision scale =>
    "Decimal128(" ++ toString precision ++ ", " ++ toString scale ++ ")"
  | null => "Null"
  | other name => name

end ColumnType

/-- What a column stores at a row. -/
inductive StoredValue where
  | boolean (b : Bool)
  | integer (n : Int)
  | float (x : Float)
  | text (s : String)
  /-- Content of a type that cannot be read. -/
  | unreadable
deriving Inhabited

namespace StoredValue

/-- The value of a date that may not exist. -/
def dateValue : Option Date → Except String FieldValue
  | some d => .ok (.date d)
  | none => .error "date is out of range"

/-- The value of a point in time that may not exist. -/
def instantValue : Option Timestamp → Except String FieldValue
  | some t => .ok (.timestamp t)
  | none => .error "timestamp is out of range"

/-- The value of an integer, if it fits 64 bits with a sign. -/
def integerValue (n : Int) : Except String FieldValue :=
  if Int64.minValue.toInt ≤ n ∧ n ≤ Int64.maxValue.toInt then .ok (.integer (Int64.ofInt n))
  else .error ("value " ++ toString n ++ " does not fit a signed 64-bit integer")

/-- The field value of what a column of a type stores. -/
def decode (type : ColumnType) (v : StoredValue) : Except String FieldValue :=
  match type, v with
  | .boolean, boolean b => .ok (.boolean b)
  | .int8, integer n | .int16, integer n | .int32, integer n | .int64, integer n
  | .uint8, integer n | .uint16, integer n | .uint32, integer n | .uint64, integer n =>
    integerValue n
  | .float32, float x | .float64, float x => .ok (.float x)
  | .utf8, text s | .largeUtf8, text s | .utf8View, text s => .ok (.text s)
  | .date32, integer n => dateValue (Date.ofDayNumber? n)
  | .date64, integer n => dateValue (Date.ofDayNumber? (n / 86400000))
  | .timestamp unit _, integer n => instantValue (Timestamp.ofNanos? (n * unit.nanos))
  | .binary, _ | .decimal128 _ _, _ | .null, _ | .other _, _ =>
    .error ("unsupported Arrow type " ++ type.name)
  | type, _ => .error ("column does not hold " ++ type.name)

end StoredValue

/-- A column of a schema: its name and type, and whether cells may be absent. -/
structure ColumnField where
  name : String
  type : ColumnType
  nullable : Bool
deriving Repr, DecidableEq

/-- The schema of the records with such columns. -/
def Schema.ofColumns (fields : List ColumnField) : Schema :=
  ⟨fields.map fun f => ⟨f.name, f.type.fieldType, f.nullable⟩⟩

/-- Columns of one length, one for each field; a cell may be absent. -/
structure Batch where
  fields : List ColumnField
  rows : Nat
  columns : List (Array (Option StoredValue))
  complete : columns.length = fields.length
  even : ∀ c ∈ columns, c.size = rows

namespace Batch

/-- The batch of some columns, if there is one for each field and all have so many rows. -/
def new? (fields : List ColumnField) (rows : Nat) (columns : List (Array (Option StoredValue))) :
    Option Batch :=
  if h : columns.length = fields.length ∧ ∀ c ∈ columns, c.size = rows then
    some ⟨fields, rows, columns, h.1, h.2⟩
  else none

/-- What is stored in a row of the column of a field. -/
def stored (b : Batch) (i : Fin b.fields.length) (row : Fin b.rows) : Option StoredValue :=
  let column := b.columns.get (i.cast b.complete.symm)
  have h : row.val < column.size := by
    have := b.even column (List.get_mem ..)
    omega
  column[row.val]

end Batch

/-- A row of a batch, which is a record. -/
structure ColumnarRecord where
  batch : Batch
  row : Fin batch.rows

namespace ColumnarRecord

/-- The value of a cell; an absent cell is null, except in a column that has no values at all. -/
def decodeCell (type : ColumnType) : Option StoredValue → Except String FieldValue
  | some v => v.decode type
  | none => if type = .null then StoredValue.unreadable.decode .null else .ok .null

/-- The value of a field: that of the first column with its name. -/
def get (r : ColumnarRecord) (name : String) : Except ReadError FieldValue :=
  match r.batch.fields.findFinIdx? (·.name == name) with
  | none => .error ⟨name, Row.foreignField⟩
  | some i =>
    match decodeCell (r.batch.fields.get i).type (r.batch.stored i r.row) with
    | .ok v => .ok v
    | .error reason => .error ⟨name, reason⟩

instance : Record ColumnarRecord := ⟨get⟩

end ColumnarRecord

/-- The records of a batch. -/
def Batch.records (b : Batch) : List ColumnarRecord := (List.finRange b.rows).map fun i => ⟨b, i⟩

/-- Batches of one list of fields. -/
structure ColumnarSource where
  fields : List ColumnField
  batches : List Batch
  uniform : ∀ b ∈ batches, b.fields = fields

namespace ColumnarSource

/-- The source of some batches, each of which must have the given fields. -/
def new (fields : List ColumnField) (batches : List Batch) :
    Except ConfigurationFault ColumnarSource :=
  if h : ∀ b ∈ batches, b.fields = fields then .ok ⟨fields, batches, h⟩
  else .error (.strayBatch (batches.findIdx fun b => b.fields ≠ fields))

/-- The source of some batches with the fields of the first, which there must be. -/
def ofBatches (batches : List Batch) : Except ConfigurationFault ColumnarSource :=
  match batches with
  | [] => .error .noBatch
  | b :: _ => new b.fields batches

/-- How many rows all batches have. -/
def rowCount (s : ColumnarSource) : Nat := s.batches.foldr (fun b n => b.rows + n) 0

/-- The words for a source. -/
def description (s : ColumnarSource) : String :=
  "Arrow batches (" ++ toString s.batches.length ++ " batches, " ++ toString s.rowCount ++ " rows)"

/-- The records of all batches, one batch after the other. -/
def records (s : ColumnarSource) : List ColumnarRecord := s.batches.flatMap (·.records)

instance : RecordSource ColumnarSource ColumnarRecord :=
  ⟨fun s => .ofColumns s.fields, records, description⟩

end ColumnarSource

end RecordAudit
