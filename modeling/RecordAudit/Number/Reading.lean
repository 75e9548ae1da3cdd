import RecordAudit.Number.Double

/-!
# How numbers are read

Two grammars: a double, with a fraction, an exponent and the words for infinity and for no
number; and a signed integer of 64 bits.  A decimal is read as the double nearest to it.
-/

namespace RecordAudit.Number

/-- The value of a run of decimal digits. -/
def ofDigits (digits : List Char) : Nat :=
  digits.foldl (fun n c => 10 * n + (c.toNat - '0'.toNat)) 0

/-- The double nearest to `significand` times ten to the `exponent`.  Beyond the range of doubles
on either side the exponent alone decides. -/
def nearest (significand : Nat) (exponent : Int) : Float :=
  let size : Int := (Nat.toDigits 10 significand).length + exponent
  if significand = 0 then 0
  else if 400 < size then Float.ofBits 0x7FF0000000000000
  else if size < -400 then 0
  else Float.ofScientific significand (exponent < 0) exponent.natAbs

/-- Takes a sign off the front: whether the number is negative, and the rest. -/
def splitSign : List Char → Bool × List Char
  | '-' :: rest => (true, rest)
  | '+' :: rest => (false, rest)
  | rest => (false, rest)

/-- The leading digits and what follows them. -/
def splitDigits (chars : List Char) : List Char × List Char :=
  (chars.takeWhile Char.isDigit, chars.dropWhile Char.isDigit)

/-- Reads the exponent that may end a number: nothing, or a letter, a sign and digits. -/
def exponentPart? : List Char → Option Int
  | [] => some 0
  | c :: rest =>
    if c = 'e' ∨ c = 'E' then
      let (negative, rest) := splitSign rest
      match splitDigits rest with
      | ([], _) => none
      | (digits, []) => some (if negative then -(ofDigits digits : Int) else ofDigits digits)
      | _ => none
    else none

/-- Reads an unsigned decimal with a fraction and an exponent, both optional; there is a digit
before the point or after it. -/
def unsigned? (chars : List Char) : Option Float :=
  let (whole, rest) := splitDigits chars
  let (fraction, rest) :=
    match rest with
    | '.' :: more => splitDigits more
    | _ => ([], rest)
  if whole = [] ∧ fraction = [] then none
  else
    (exponentPart? rest).map fun e =>
      nearest (ofDigits (whole ++ fraction)) (e - fraction.length)

/-- Reads a double. -/
def double? (text : String) : Option Float :=
  let (negative, rest) := splitSign text.toList
  let word := rest.map Char.toLower
  let value : Option Float :=
    if word = "nan".toList then some (Float.ofBits 0x7FF8000000000000)
    else if word = "inf".toList ∨ word = "infinity".toList then
      some (Float.ofBits 0x7FF0000000000000)
    else unsigned? rest
  if negative then value.map (- ·) else value

/-- Reads an integer of 64 bits: a sign or none, and at least one digit. -/
def int64? (text : String) : Option Int64 :=
  let (negative, digits) := splitSign text.toList
  if digits ≠ [] ∧ digits.all Char.isDigit then
    let n : Int := if negative then -(ofDigits digits : Int) else ofDigits digits
    if Int64.minValue.toInt ≤ n ∧ n ≤ Int64.maxValue.toInt then some (Int64.ofInt n) else none
  else none

end RecordAudit.Number
