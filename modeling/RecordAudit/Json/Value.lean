/-!
# JSON values

A number keeps apart the integers that fit 64 bits, unsigned or negative, and the doubles.
The fields of an object stand in the order in which they are written; an object that was
read has each key once and its keys in ascending order, which is what `insertField` keeps.
-/

namespace RecordAudit.Json

/-- A JSON number. -/
inductive Number where
  /-- An integer from zero up to below two to the 64th. -/
  | natural (n : Nat)
  /-- A negative integer from minus two to the 63rd on. -/
  | negative (n : Int)
  | double (x : Float)

/-- A JSON value. -/
inductive Value where
  | null
  | boolean (b : Bool)
  | number (n : Number)
  | string (s : String)
  | array (items : List Value)
  | object (fields : List (String × Value))
deriving Inhabited

namespace Number

/-- The integer that a number is, if it fits 64 bits with a sign. -/
def int64? : Number → Option Int64
  | natural n => if n ≤ 9223372036854775807 then some (Int64.ofNat n) else none
  | negative n => some (Int64.ofInt n)
  | double _ => none

/-- The nearest double. -/
def toFloat : Number → Float
  | natural n => Float.ofNat n
  | negative n => Float.ofInt n
  | double x => x

end Number

/-- Puts a field into ordered fields; a key that is there already gets the new value. -/
def insertField (key : String) (value : Value) : List (String × Value) → List (String × Value)
  | [] => [(key, value)]
  | (k, v) :: rest =>
    if key < k then (key, value) :: (k, v) :: rest
    else if key = k then (key, value) :: rest
    else (k, v) :: insertField key value rest

/-- The value of a key. -/
def field? (key : String) : List (String × Value) → Option Value
  | [] => none
  | (k, v) :: rest => if k = key then some v else field? key rest

/-- A number from a natural number. -/
def ofNat (n : Nat) : Value := .number (.natural n)

/-- A number from a double. -/
def ofFloat (x : Float) : Value := .number (.double x)

/-- A list from its items. -/
def ofList {α : Type} (f : α → Value) (xs : List α) : Value := .array (xs.map f)

/-- A value that may be absent, in which case it is null. -/
def ofOption {α : Type} (f : α → Value) (x : Option α) : Value :=
  match x with
  | some a => f a
  | none => .null

mutual

/-- A value with the keys of all its objects in ascending order; of a repeated key the first value
counts. -/
def sorted : Value → Value
  | .array items => .array (sortedItems items)
  | .object fields => .object (sortedFields fields)
  | v => v

/-- The items of a list, each with its keys in order. -/
def sortedItems : List Value → List Value
  | [] => []
  | v :: rest => sorted v :: sortedItems rest

/-- The fields of an object in order, each with its keys in order. -/
def sortedFields : List (String × Value) → List (String × Value)
  | [] => []
  | (k, v) :: rest => insertField k (sorted v) (sortedFields rest)

end

end RecordAudit.Json
