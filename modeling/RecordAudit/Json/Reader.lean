import RecordAudit.Json.Writing
import RecordAudit.Number.Reading
import RecordAudit.Text.Cut
import RecordAudit.Text.Quoted

/-!
# Reading JSON: the parts of a text

A reader walks over the characters of a text and counts the bytes it has passed.  What
goes wrong is a `Problem`, and a `Fault` puts it at a place: the number of bytes read
when it was noticed.  A problem with a value that was read without trouble has no place
at first and gets the place where the reader stands when the value ends.

This module has the words, numbers and strings, the steps between the items of a list
and between the keys of an object, and the passing over of a value that nobody wants.
-/

namespace RecordAudit.Json

/-- A value as a message describes it. -/
inductive Found where
  | null
  | boolean (b : Bool)
  | integer (n : Int)
  | double (x : Float)
  | string (s : String)
  | sequence
  | map

/-- The description of a value in a message. -/
def Found.text : Found → String
  | null => "null"
  | boolean b => "boolean `" ++ (if b then "true" else "false") ++ "`"
  | integer n => "integer `" ++ toString n ++ "`"
  | double x => "floating point `" ++ (Number.double x).text ++ "`"
  | string s => "string " ++ Text.quoted s
  | sequence => "sequence"
  | map => "map"

/-- Why a text is not the JSON that was wanted. -/
inductive Problem where
  | endInList
  | endInObject
  | endInString
  | endInValue
  | expectedColon
  | expectedListCommaOrEnd
  | expectedObjectCommaOrEnd
  | expectedWord
  | expectedValue
  | invalidEscape
  | invalidNumber
  | numberOutOfRange
  | controlCharacter
  | keyMustBeString
  | loneSurrogate
  | trailingComma
  | trailingCharacters
  | endInEscape
  | tooDeep
  | wrongType (found : Found) (expected : String)
  | wrongValue (found : Found) (expected : String)
  | wrongLength (length : Nat) (expected : String)
  | unknownField (name : String) (known : List String)
  | unknownVariant (name : String) (known : List String)
  | missingField (name : String)
  | duplicateField (name : String)
  /-- A text was read but stands for no value of the wanted kind. -/
  | rejected (reason : String)

/-- Some names, each between backticks. -/
def nameList (names : List String) : String :=
  ", ".intercalate (names.map fun n => "`" ++ n ++ "`")

/-- The wording of a problem. -/
def Problem.text : Problem → String
  | endInList => "EOF while parsing a list"
  | endInObject => "EOF while parsing an object"
  | endInString => "EOF while parsing a string"
  | endInValue => "EOF while parsing a value"
  | expectedColon => "expected `:`"
  | expectedListCommaOrEnd => "expected `,` or `]`"
  | expectedObjectCommaOrEnd => "expected `,` or `\x7d`"
  | expectedWord => "expected ident"
  | expectedValue => "expected value"
  | invalidEscape => "invalid escape"
  | invalidNumber => "invalid number"
  | numberOutOfRange => "number out of range"
  | controlCharacter => "control character (\\u0000-\\u001F) found while parsing a string"
  | keyMustBeString => "key must be a string"
  | loneSurrogate => "lone leading surrogate in hex escape"
  | trailingComma => "trailing comma"
  | trailingCharacters => "trailing characters"
  | endInEscape => "unexpected end of hex escape"
  | tooDeep => "recursion limit exceeded"
  | wrongType found expected => "invalid type: " ++ found.text ++ ", expected " ++ expected
  | wrongValue found expected => "invalid value: " ++ found.text ++ ", expected " ++ expected
  | wrongLength n expected => "invalid length " ++ toString n ++ ", expected " ++ expected
  | unknownField name known => "unknown field `" ++ name ++ "`, expected one of " ++ nameList known
  | unknownVariant name known =>
    "unknown variant `" ++ name ++ "`, expected one of " ++ nameList known
  | missingField name => "missing field `" ++ name ++ "`"
  | duplicateField name => "duplicate field `" ++ name ++ "`"
  | rejected reason => reason

/-- A problem, and the number of bytes before its place once it has one. -/
structure Fault where
  problem : Problem
  place : Option Nat

/-- What is left to read, and the number of bytes before it. -/
structure Cursor where
  rest : List Char
  offset : Nat

/-- A reader takes its part of the text, or reports a fault and stays where it was noticed. -/
abbrev Reader (α : Type) := ExceptT Fault (StateM Cursor) α

namespace Reader

/-! ## Steps and faults -/

/-- The characters that are left. -/
def remaining : Reader (List Char) := do return (← get).rest

/-- The next character, which stays unread. -/
def peek : Reader (Option Char) := do return (← remaining).head?

/-- Reads so many characters. -/
def skip (count : Nat) : Reader Unit :=
  modify fun c => ⟨c.rest.drop count, c.offset + Text.byteLength (c.rest.take count)⟩

/-- A problem at a number of bytes from here. -/
def failAt {α : Type} (bytes : Nat) (p : Problem) : Reader α := do
  throw ⟨p, some ((← get).offset + bytes)⟩

/-- A problem at what has been read. -/
def failHere {α : Type} (p : Problem) : Reader α := failAt 0 p

/-- A problem with the next character, or with the end of the text. -/
def failNext {α : Type} (p : Problem) : Reader α := do
  failAt (if (← remaining).isEmpty then 0 else 1) p

/-- A problem that has no place yet. -/
def failLater {α : Type} (p : Problem) : Reader α := throw ⟨p, none⟩

/-- Gives a problem without a place the place where the reader stands. -/
def settle {α : Type} (r : Reader α) : Reader α := do
  tryCatch r fun f => do
    match f.place with
    | some _ => throw f
    | none => failHere f.problem

/-- Whether a character may stand between the parts of a text. -/
def isGap (c : Char) : Bool := c = ' ' || c = '\n' || c = '\t' || c = '\r'

/-- Passes over blanks and shows the next character. -/
def next : Reader (Option Char) := do
  skip ((← remaining).takeWhile isGap).length
  peek

/-! ## Words and numbers -/

/-- Reads the rest of a word. -/
def word : List Char → Reader Unit
  | [] => return ()
  | c :: cs => do
    match ← peek with
    | none => failHere .endInValue
    | some d => if d = c then do skip 1; word cs else failNext .expectedWord

/-- Adds digits to a significand as long as 64 bits hold it; gives the digits left over too. -/
def accumulate (significand : Nat) : List Char → Nat × List Char
  | [] => (significand, [])
  | c :: rest =>
    let n := 10 * significand + (c.toNat - '0'.toNat)
    if n < UInt64.size then accumulate n rest else (significand, c :: rest)

/-- Scales a double by a negative power of ten, in steps of at most 308 places. -/
def scaleDown : Nat → Float → Nat → Float
  | 0, x, _ => x
  | fuel + 1, x, places =>
    if places ≤ 308 then x / Float.ofScientific 1 false places
    else if Double.eq x 0 then x
    else scaleDown fuel (x / Float.ofScientific 1 false 308) (places - 308)

/-- The double of a significand and a power of ten, by one rounded multiplication or division. -/
def doubleOf (negative : Bool) (significand : Nat) (exponent : Int) : Reader Number := do
  let x := Float.ofNat significand
  let y ←
    if 0 ≤ exponent then
      if exponent ≤ 308 then
        let y := x * Float.ofScientific 1 false exponent.toNat
        if Double.isInfinite y then failHere .numberOutOfRange else pure y
      else if significand = 0 then pure x
      else failHere .numberOutOfRange
    else pure (scaleDown (exponent.natAbs / 308 + 1) x exponent.natAbs)
  return .double (if negative then -y else y)

/-- The leading digits of an exponent up to the one with which it no longer fits 32 bits. -/
def exponentOverflow? (value count : Nat) : List Char → Option Nat
  | [] => none
  | c :: rest =>
    let n := 10 * value + (c.toNat - '0'.toNat)
    if n < 2147483648 then exponentOverflow? n (count + 1) rest else some (count + 1)

/-- Reads an exponent, whose letter is next, and finishes the number. -/
def exponentPart (negative : Bool) (significand : Nat) (exponent : Int) : Reader Number := do
  skip 1
  let down ← match ← peek with
    | some '+' => do skip 1; pure false
    | some '-' => do skip 1; pure true
    | _ => pure false
  let digits := (← remaining).takeWhile Char.isDigit
  if digits.isEmpty then
    if (← remaining).isEmpty then failHere .endInValue else failNext .invalidNumber
  else
    match exponentOverflow? 0 0 digits with
    | some bytes =>
      if significand ≠ 0 ∧ ¬down then failAt bytes .numberOutOfRange
      else do
        skip digits.length
        return .double (if negative then -0.0 else 0.0)
    | none => do
      skip digits.length
      let n : Int := RecordAudit.Number.ofDigits digits
      doubleOf negative significand (if down then exponent - n else exponent + n)

/-- Reads a fraction, whose point is next, and finishes the number. -/
def fractionPart (negative : Bool) (significand : Nat) (exponent : Int) : Reader Number := do
  skip 1
  let digits := (← remaining).takeWhile Char.isDigit
  if digits.isEmpty then
    if (← remaining).isEmpty then failHere .endInValue else failNext .invalidNumber
  else
    let (significand, dropped) := accumulate significand digits
    let exponent := exponent - (digits.length - dropped.length : Nat)
    skip digits.length
    match ← peek with
    | some 'e' | some 'E' => exponentPart negative significand exponent
    | _ => doubleOf negative significand exponent

/-- An integer that fits 64 bits stays one; others, and the negative zero, become doubles. -/
def integerOf (negative : Bool) (significand : Nat) : Number :=
  if ¬negative then .natural significand
  else if significand = 0 ∨ 9223372036854775808 < significand then
    .double (-Float.ofNat significand)
  else .negative (-(significand : Int))

/-- Reads a number from its first digit on. -/
def number (negative : Bool) : Reader Number := do
  let digits := (← remaining).takeWhile Char.isDigit
  match digits with
  | [] => if (← remaining).isEmpty then failHere .endInValue else failNext .invalidNumber
  | '0' :: _ :: _ => do skip 1; failNext .invalidNumber
  | _ => do
    let (significand, dropped) := accumulate 0 digits
    skip digits.length
    match ← peek with
    | some '.' => fractionPart negative significand dropped.length
    | some 'e' | some 'E' => exponentPart negative significand dropped.length
    | _ =>
      if dropped.isEmpty then return integerOf negative significand
      else doubleOf negative significand dropped.length

/-! ## Strings -/

/-- The value of a hexadecimal digit. -/
def hexDigit? (c : Char) : Option Nat :=
  if c.isDigit then some (c.toNat - '0'.toNat)
  else if 'a' ≤ c ∧ c ≤ 'f' then some (c.toNat - 'a'.toNat + 10)
  else if 'A' ≤ c ∧ c ≤ 'F' then some (c.toNat - 'A'.toNat + 10)
  else none

/-- Reads four hexadecimal digits. -/
def hexUnit : Reader Nat := do
  let digits := (← remaining).take 4
  let bytes := Text.byteLength digits
  if bytes < 4 then failAt bytes .endInString
  else
    match digits.mapM hexDigit? with
    | some [a, b, c, d] => do
      skip 4
      return ((a * 16 + b) * 16 + c) * 16 + d
    | _ => failAt 4 .invalidEscape

/-- Reads one character that must be there; any other one ends an escape too early. -/
def escapeMark (c : Char) : Reader Unit := do
  match ← peek with
  | none => failHere .endInString
  | some d => if d = c then skip 1 else failNext .endInEscape

/-- Reads the digits of an escape by code unit; two units may make up one character. -/
def unicodeEscape : Reader Char := do
  let n ← hexUnit
  if 0xDC00 ≤ n ∧ n ≤ 0xDFFF then failHere .loneSurrogate
  else if n < 0xD800 ∨ 0xDBFF < n then return Char.ofNat n
  else do
    escapeMark '\\'
    escapeMark 'u'
    let m ← hexUnit
    if m < 0xDC00 ∨ 0xDFFF < m then failHere .loneSurrogate
    else return Char.ofNat (0x10000 + (n - 0xD800) * 0x400 + (m - 0xDC00))

/-- Reads an escape after its backslash. -/
def escape : Reader Char := do
  match ← peek with
  | none => failHere .endInString
  | some c =>
    match c with
    | '"' => do skip 1; return '"'
    | '\\' => do skip 1; return '\\'
    | '/' => do skip 1; return '/'
    | 'b' => do skip 1; return '\x08'
    | 'f' => do skip 1; return '\x0c'
    | 'n' => do skip 1; return '\n'
    | 'r' => do skip 1; return '\r'
    | 't' => do skip 1; return '\t'
    | 'u' => do skip 1; unicodeEscape
    | _ => failNext .invalidEscape

/-- Reads the characters of a string and its closing quote; each step reads a character at least. -/
def characters : Nat → List Char → Reader String
  | 0, _ => failHere .endInString
  | fuel + 1, read => do
    match ← peek with
    | none => failHere .endInString
    | some '"' => do skip 1; return String.ofList read.reverse
    | some '\\' => do
      skip 1
      let c ← escape
      characters fuel (c :: read)
    | some c =>
      if c.toNat < 0x20 then failNext .controlCharacter
      else do
        skip 1
        characters fuel (c :: read)

/-- Reads a string after its opening quote. -/
def string : Reader String := do
  characters ((← remaining).length + 1) []

/-! ## Lists and objects -/

/-- Goes to the next item of a list, and tells whether there is one. -/
def nextItem (first : Bool) : Reader Bool := do
  match ← next with
  | none => failNext .endInList
  | some ']' => return false
  | some c =>
    if first then return true
    else if c = ',' then do
      skip 1
      match ← next with
      | some ']' => failNext .trailingComma
      | some _ => return true
      | none => failNext .endInValue
    else failNext .expectedListCommaOrEnd

/-- Goes to the next key of an object and reads it, if there is one. -/
def nextKey (first : Bool) : Reader (Option String) := do
  let key : Reader (Option String) := do
    match ← peek with
    | some '"' => do skip 1; return some (← string)
    | some '}' => failNext .trailingComma
    | some _ => failNext .keyMustBeString
    | none => failNext .endInValue
  match ← next with
  | none => failNext .endInObject
  | some '}' => return none
  | some c =>
    if first then key
    else if c = ',' then do
      skip 1
      let _ ← next
      key
    else failNext .expectedObjectCommaOrEnd

/-- Reads the colon between a key and its value. -/
def colon : Reader Unit := do
  match ← next with
  | some ':' => skip 1
  | some _ => failNext .expectedColon
  | none => failNext .endInObject

/-- Reads the bracket that ends a list. -/
def closeList : Reader Unit := do
  match ← next with
  | some ']' => skip 1
  | some ',' => do
    skip 1
    match ← next with
    | some ']' => failNext .trailingComma
    | _ => failNext .trailingCharacters
  | some _ => failNext .trailingCharacters
  | none => failNext .endInList

/-- Reads the brace that ends an object. -/
def closeObject : Reader Unit := do
  match ← next with
  | some '}' => skip 1
  | some ',' => failNext .trailingComma
  | some _ => failNext .trailingCharacters
  | none => failNext .endInObject

/-- Reads a body and then its end.  The end is tried after a fault too, and moves the reader; the
fault of the body is the one that is reported. -/
def enclosed {α : Type} (body : Reader α) (close : Reader Unit) : Reader α := fun c =>
  match body c with
  | (.ok a, c) =>
    match close c with
    | (.ok (), c) => (.ok a, c)
    | (.error f, c) => (.error f, c)
  | (.error f, c) => (.error f, (close c).2)

/-- Reads the items of a list; each step reads a character at least. -/
def items {α : Type} (item : Reader α) : Nat → Bool → Reader (List α)
  | 0, _ => return []
  | fuel + 1, first => do
    if ← nextItem first then
      let x ← item
      return x :: (← items item fuel false)
    else return []

/-- Reads the keys of an object one by one; each step reads a character at least. -/
def keys {σ : Type} (onKey : String → σ → Reader σ) : Nat → Bool → σ → Reader σ
  | 0, _, s => return s
  | fuel + 1, first, s => do
    match ← nextKey first with
    | some key => do
      let s ← onKey key s
      keys onKey fuel false s
    | none => return s

/-- More steps than there are characters left. -/
def steps : Reader Nat := do return (← remaining).length + 1

/-! ## Passing over a value -/

/-- Passes over the digits that follow. -/
def passDigits : Reader Unit := do
  skip ((← remaining).takeWhile Char.isDigit).length

/-- Passes over an exponent, whose letter is next. -/
def passExponent : Reader Unit := do
  skip 1
  match ← peek with
  | some '+' | some '-' => skip 1
  | _ => pure ()
  match ← peek with
  | some c => if c.isDigit then passDigits else failNext .invalidNumber
  | none => failHere .invalidNumber

/-- Passes over a number from its first digit on, without regard to its size. -/
def passNumber : Reader Unit := do
  match (← remaining).takeWhile Char.isDigit with
  | [] => failNext .invalidNumber
  | '0' :: _ :: _ => do skip 1; failNext .invalidNumber
  | digits => do
    skip digits.length
    match ← peek with
    | some '.' => do
      skip 1
      match (← remaining).takeWhile Char.isDigit with
      | [] => failNext .invalidNumber
      | _ => do
        passDigits
        match ← peek with
        | some 'e' | some 'E' => passExponent
        | _ => pure ()
    | some 'e' | some 'E' => passExponent
    | _ => pure ()

/-- Passes over an escape after its backslash. -/
def passEscape : Reader Unit := do
  match ← peek with
  | none => failHere .endInString
  | some 'u' => do skip 1; let _ ← hexUnit
  | some c =>
    if ['"', '\\', '/', 'b', 'f', 'n', 'r', 't'].contains c then skip 1 else failNext .invalidEscape

/-- Passes over the characters of a string and its closing quote. -/
def passString : Nat → Reader Unit
  | 0 => failHere .endInString
  | fuel + 1 => do
    match ← peek with
    | none => failHere .endInString
    | some '"' => skip 1
    | some '\\' => do skip 1; passEscape; passString fuel
    | some c => if c.toNat < 0x20 then failHere .controlCharacter else do skip 1; passString fuel

/-- Reads the key of a field that is passed over, and its colon. -/
def passKey (fuel : Nat) : Reader Unit := do
  match ← next with
  | some '"' => do skip 1; passString fuel; colon
  | some _ => failNext .keyMustBeString
  | none => failNext .endInObject

mutual

/-- Passes over a value of any depth; each step reads a character at least. -/
def passValue : Nat → Reader Unit
  | 0 => failNext .endInValue
  | fuel + 1 => do
    match ← next with
    | none => failNext .endInValue
    | some c =>
      match c with
      | 'n' => do skip 1; word "ull".toList
      | 't' => do skip 1; word "rue".toList
      | 'f' => do skip 1; word "alse".toList
      | '-' => do skip 1; passNumber
      | '"' => do skip 1; passString (← steps)
      | '[' => do
        skip 1
        match ← next with
        | some ']' => skip 1
        | none => failNext .endInList
        | some _ => passItems fuel
      | '{' => do
        skip 1
        match ← next with
        | some '}' => skip 1
        | none => failNext .endInObject
        | some _ => passFields fuel
      | _ => if c.isDigit then passNumber else failNext .expectedValue

/-- Passes over the items of a list and its bracket. -/
def passItems : Nat → Reader Unit
  | 0 => failNext .endInList
  | fuel + 1 => do
    passValue fuel
    match ← next with
    | some ',' => do skip 1; passItems fuel
    | some ']' => skip 1
    | some _ => failNext .expectedListCommaOrEnd
    | none => failNext .endInList

/-- Passes over the fields of an object and its brace. -/
def passFields : Nat → Reader Unit
  | 0 => failNext .endInObject
  | fuel + 1 => do
    passKey (← steps)
    passValue fuel
    match ← next with
    | some ',' => do skip 1; passFields fuel
    | some '}' => skip 1
    | some _ => failNext .expectedObjectCommaOrEnd
    | none => failNext .endInObject

end

/-- Passes over a value. -/
def pass : Reader Unit := do passValue (← steps)

end Reader

end RecordAudit.Json
