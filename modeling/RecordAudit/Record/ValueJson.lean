import RecordAudit.Calendar.Reading
import RecordAudit.Json.Decoding
import RecordAudit.Record.Value

/-!
# Field values in JSON

A value is an object with its kind under `type` and, unless it is null, its content under
`value`.  The two keys may come in either order and other keys are passed over; a list of
kind and content stands for the same.  A content that comes before the kind is kept until
the kind is known.
-/

namespace RecordAudit.FieldValue

open Json

/-- A kind of field value. -/
inductive Kind where
  | null
  | boolean
  | integer
  | float
  | text
  | date
  | timestamp
deriving Repr, DecidableEq

/-- The kinds by their names. -/
def Kind.named : List (String × Kind) :=
  [("Null", null), ("Boolean", boolean), ("Integer", integer), ("Float", float), ("Text", text),
    ("Date", date), ("Timestamp", timestamp)]

/-- What is expected as the content of a kind. -/
def Kind.expected : Kind → String
  | null => "unit variant FieldValue::Null"
  | boolean => "a boolean"
  | integer => "i64"
  | float => "f64"
  | text => "a string"
  | date => "a formatted date string"
  | timestamp => "a formatted date and time string or a unix timestamp"

/-- What is expected as a whole. -/
def expectedForm : String := "adjacently tagged enum FieldValue"

/-- Takes the outcome of reading a text. -/
def fromText {α : Type} (f : α → FieldValue) :
    Except CalendarFault α → Except Problem FieldValue
  | .ok a => .ok (f a)
  | .error e => .error (.rejected e.message)

/-- The value of a kind with a scalar as its content. -/
def ofScalar (k : Kind) (s : Reader.Scalar) : Except Problem FieldValue :=
  match k, s with
  | .null, .null => .ok .null
  | .boolean, s => (Reader.asBoolean s).map .boolean
  | .integer, s => (Reader.asInteger s).map .integer
  | .float, s => (Reader.asDouble s).map .float
  | .text, s => (Reader.asString s).map .text
  | .date, .string s => fromText .date (Calendar.looseDate s)
  | .timestamp, .string s => fromText .timestamp (Calendar.looseInstant s)
  | k, s => .error (Reader.mistyped s k.expected)

/-- The value of a kind with a JSON value as its content. -/
def ofContent (k : Kind) : Value → Except Problem FieldValue
  | .null => ofScalar k .null
  | .boolean b => ofScalar k (.boolean b)
  | .number n => ofScalar k (.number n)
  | .string s => ofScalar k (.string s)
  | .array _ => .error (.wrongType .sequence k.expected)
  | .object _ => .error (.wrongType .map k.expected)

/-- Reads the content of a kind.  Where null is wanted, a list or an object is entered before it
is found wrong. -/
def readContent (k : Kind) : Reader FieldValue := do
  match k, ← Reader.next with
  | .null, some '[' => do
    Reader.skip 1
    Reader.settle (Reader.enclosed (Reader.failLater (.wrongType .sequence k.expected))
      Reader.closeList)
  | .null, some '{' => do
    Reader.skip 1
    Reader.settle (Reader.enclosed (Reader.failLater (.wrongType .map k.expected))
      Reader.closeObject)
  | _, _ => Reader.decoded k.expected (ofScalar k)

/-- How much of an object has been read. -/
inductive Progress where
  | nothing
  | kind (k : Kind)
  | content (v : Value)
  | both (v : FieldValue)

/-- Reads the value of one key. -/
def onKey (key : String) (p : Progress) : Reader Progress := do
  match key, p with
  | "type", .nothing => do
    Reader.colon
    return .kind (← Reader.variant Kind.named)
  | "type", .content v => do
    Reader.colon
    let k ← Reader.variant Kind.named
    match ofContent k v with
    | .ok a => return .both a
    | .error problem => Reader.failLater problem
  | "type", _ => Reader.failLater (.duplicateField "type")
  | "value", .nothing => do
    Reader.colon
    return .content (← Reader.value (maxDepth - 1))
  | "value", .kind k => do
    Reader.colon
    return .both (← readContent k)
  | "value", _ => Reader.failLater (.duplicateField "value")
  | _, p => do
    Reader.colon
    Reader.pass
    return p

/-- Reads a value from an object. -/
def fromObject : Reader FieldValue := do
  match ← Reader.keys onKey (← Reader.steps) true .nothing with
  | .both v => return v
  | .kind .null => return .null
  | .kind _ => Reader.failLater (.missingField "value")
  | _ => Reader.failLater (.missingField "type")

/-- Reads a value from a list. -/
def fromItems : Reader FieldValue := do
  if ← Reader.nextItem true then
    let k ← Reader.variant Kind.named
    if ← Reader.nextItem false then readContent k
    else Reader.failLater (.wrongLength 1 expectedForm)
  else Reader.failLater (.wrongLength 0 expectedForm)

/-- Reads a value. -/
def reader : Reader FieldValue :=
  Reader.settle do
    match ← Reader.next with
    | some '{' => do
      Reader.skip 1
      Reader.enclosed fromObject Reader.closeObject
    | some '[' => do
      Reader.skip 1
      Reader.enclosed fromItems Reader.closeList
    | _ =>
      let s ← Reader.scalar expectedForm
      Reader.failLater (Reader.mistyped s expectedForm)

/-- The value that a JSON text stands for. -/
def ofJsonText (text : String) : Except Misread FieldValue := reader.run text

/-- A value as JSON. -/
def toJson (v : FieldValue) : Value :=
  let tagged (kind : String) (content : Value) : Value :=
    .object [("type", .string kind), ("value", content)]
  match v with
  | null => .object [("type", .string "Null")]
  | boolean b => tagged "Boolean" (.boolean b)
  | integer n =>
    tagged "Integer" (.number (if 0 ≤ n.toInt then .natural n.toInt.toNat else .negative n.toInt))
  | float x => tagged "Float" (ofFloat x)
  | text s => tagged "Text" (.string s)
  | date d => tagged "Date" (.string d.text)
  | timestamp t => tagged "Timestamp" (.string t.zuluText)

end RecordAudit.FieldValue
