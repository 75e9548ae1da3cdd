import RecordAudit.Json.Document

/-!
# Reading JSON into types

Readers for texts whose types are known beforehand: scalars, lists, names out of a fixed
set, and structures.  A structure is written as an object or as the list of its fields in
order.  A value of the wrong type is read first where it is a scalar, so that the message
can show it, and left alone where it is a list or an object.
-/

namespace RecordAudit.Json.Reader

/-- A value that is neither list nor object. -/
inductive Scalar where
  | null
  | boolean (b : Bool)
  | number (n : Number)
  | string (s : String)

/-- The description of a number in a message. -/
def foundNumber : Number → Found
  | .natural n => .integer n
  | .negative n => .integer n
  | .double x => .double x

/-- The description of a scalar in a message. -/
def Scalar.found : Scalar → Found
  | null => .null
  | boolean b => .boolean b
  | number n => foundNumber n
  | string s => .string s

/-- Reads a scalar where a value of the kind `expected` should be. -/
def scalar (expected : String) : Reader Scalar := do
  match ← next with
  | none => failNext .endInValue
  | some c =>
    match c with
    | 'n' => do skip 1; word "ull".toList; return .null
    | 't' => do skip 1; word "rue".toList; return .boolean true
    | 'f' => do skip 1; word "alse".toList; return .boolean false
    | '-' => do skip 1; return .number (← number true)
    | '"' => do skip 1; return .string (← string)
    | '[' => failLater (.wrongType .sequence expected)
    | '{' => failLater (.wrongType .map expected)
    | _ => if c.isDigit then return .number (← number false) else failNext .expectedValue

/-- Reads a scalar and turns it into a value, where it has one. -/
def decoded {α : Type} (expected : String) (f : Scalar → Except Problem α) : Reader α :=
  settle do
    match f (← scalar expected) with
    | .ok a => return a
    | .error p => failLater p

/-- The problem of a scalar of the wrong type. -/
def mistyped (s : Scalar) (expected : String) : Problem := .wrongType s.found expected

/-- Takes a number as an unsigned integer of 64 bits. -/
def asNatural (expected : String) : Scalar → Except Problem Nat
  | .number (.natural n) => .ok n
  | .number (.negative n) => .error (.wrongValue (.integer n) expected)
  | s => .error (mistyped s expected)

/-- Takes a number as a signed integer of 64 bits. -/
def asInteger : Scalar → Except Problem Int64
  | .number (.natural n) =>
    if n ≤ 9223372036854775807 then .ok (Int64.ofNat n) else .error (.wrongValue (.integer n) "i64")
  | .number (.negative n) => .ok (Int64.ofInt n)
  | s => .error (mistyped s "i64")

/-- Takes a number as a double. -/
def asDouble : Scalar → Except Problem Float
  | .number n => .ok n.toFloat
  | s => .error (mistyped s "f64")

/-- Takes a truth value. -/
def asBoolean : Scalar → Except Problem Bool
  | .boolean b => .ok b
  | s => .error (mistyped s "a boolean")

/-- Takes a string. -/
def asString : Scalar → Except Problem String
  | .string s => .ok s
  | s => .error (mistyped s "a string")

/-- Takes null. -/
def asUnit : Scalar → Except Problem Unit
  | .null => .ok ()
  | s => .error (mistyped s "unit")

/-- Reads an unsigned integer of 64 bits. -/
def natural64 : Reader Nat := decoded "u64" (asNatural "u64")

/-- Reads a size, which is an unsigned integer of 64 bits. -/
def size : Reader Nat := decoded "usize" (asNatural "usize")

/-- Reads a double. -/
def double : Reader Float := decoded "f64" asDouble

/-- Reads a truth value. -/
def boolean : Reader Bool := decoded "a boolean" asBoolean

/-- Reads a string. -/
def text : Reader String := decoded "a string" asString

/-- Reads null. -/
def unit : Reader Unit := decoded "unit" asUnit

/-- Reads a value or null, which stands for none. -/
def optional {α : Type} (r : Reader α) : Reader (Option α) := do
  match ← next with
  | some 'n' => do skip 1; word "ull".toList; return none
  | _ => return some (← r)

/-- Reads a list. -/
def list {α : Type} (item : Reader α) : Reader (List α) :=
  settle do
    match ← next with
    | some '[' => do
      skip 1
      enclosed (do items item (← steps) true) closeList
    | _ =>
      let s ← scalar "a sequence"
      failLater (mistyped s "a sequence")

/-- The value of a name. -/
def named? {α : Type} (known : List (String × α)) (name : String) : Except Problem α :=
  match known.find? (·.1 = name) with
  | some (_, a) => .ok a
  | none => .error (.unknownVariant name (known.map (·.1)))

/-- Reads one of some names. -/
def name {α : Type} (known : List (String × α)) : Reader α :=
  decoded "variant identifier" fun
    | .string s => named? known s
    | s => .error (mistyped s "variant identifier")

/-- Reads one of some names, alone or as the only key of an object that gives it null. -/
def variant {α : Type} (known : List (String × α)) : Reader α := do
  match ← next with
  | none => failNext .endInValue
  | some '"' => name known
  | some '{' => do
    skip 1
    let a ← name known
    colon
    unit
    match ← next with
    | some '}' => do skip 1; return a
    | some _ => failHere .expectedValue
    | none => failHere .endInObject
  | some _ => failNext .expectedValue

/-! ## Structures -/

/-- A field of a structure that is put together in a draft. -/
structure Field (σ : Type) where
  name : String
  isSet : σ → Bool
  /-- Reads the value and puts it into the draft. -/
  read : σ → Reader σ
  /-- Whether an object may leave the field out. -/
  mayLack : Bool

/-- A structure with its fields in the order in which a list gives them. -/
structure Layout (σ : Type) where
  title : String
  fields : List (Field σ)
  /-- Whether a key that names no field is refused instead of passed over. -/
  strict : Bool
  /-- Whether the last items of a list may be left out. -/
  mayStop : Bool

namespace Layout

variable {σ : Type}

/-- What is expected where a list for the structure is too short. -/
def expectedItems (l : Layout σ) : String :=
  let n := l.fields.length
  "struct " ++ l.title ++ " with " ++ toString n ++ (if n = 1 then " element" else " elements")

/-- Reads the value of one key of an object. -/
def onKey (l : Layout σ) (key : String) (draft : σ) : Reader σ := do
  match l.fields.find? (·.name = key) with
  | some f =>
    if f.isSet draft then failLater (.duplicateField key)
    else do
      colon
      f.read draft
  | none =>
    if l.strict then failLater (.unknownField key (l.fields.map (·.name)))
    else do
      colon
      pass
      return draft

/-- Checks that the fields an object must have are there. -/
def complete (draft : σ) : List (Field σ) → Reader Unit
  | [] => return ()
  | f :: rest =>
    if f.isSet draft ∨ f.mayLack then complete draft rest else failLater (.missingField f.name)

/-- Reads the fields from an object. -/
def fromObject (l : Layout σ) (empty : σ) : Reader σ := do
  let draft ← keys l.onKey (← steps) true empty
  complete draft l.fields
  return draft

/-- Reads the fields from the items of a list, of which so many are read. -/
def fromItems (l : Layout σ) (draft : σ) (done : Nat) : List (Field σ) → Reader σ
  | [] => return draft
  | f :: rest => do
    if ← nextItem (done = 0) then
      fromItems l (← f.read draft) (done + 1) rest
    else if l.mayStop then return draft
    else failLater (.wrongLength done l.expectedItems)

/-- Reads a structure into a draft. -/
def read (l : Layout σ) (empty : σ) : Reader σ :=
  settle do
    match ← next with
    | some '{' => do
      skip 1
      enclosed (l.fromObject empty) closeObject
    | some '[' => do
      skip 1
      enclosed (l.fromItems empty 0 l.fields) closeList
    | _ =>
      let s ← scalar ("struct " ++ l.title)
      failLater (mistyped s ("struct " ++ l.title))

end Layout

end RecordAudit.Json.Reader
