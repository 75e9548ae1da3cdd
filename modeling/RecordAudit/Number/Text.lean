import RecordAudit.Number.Shortest

/-!
# How numbers are written

Four ways to write a double: plainly, in JSON, for a trace, and with a fixed number of
places.  The first three take the shortest decimal that reads back and differ in where
they turn to an exponent and in whether a whole number keeps its `.0`.
-/

namespace RecordAudit.Number

/-- The digits of a natural number. -/
def digitsOf (n : Nat) : List Char := Nat.toDigits 10 n

/-- A number padded with zeros on the left to a width. -/
def padded (width n : Nat) : String :=
  let ds := digitsOf n
  String.ofList (List.replicate (width - ds.length) '0' ++ ds)

/-- Writes a decimal in positional notation; `wholeMark` follows one without a fraction. -/
def positional (d : Decimal) (wholeMark : String) : String :=
  let ds := digitsOf d.digits
  let point : Int := ds.length + d.exponent
  if 0 ≤ d.exponent then
    String.ofList (ds ++ List.replicate d.exponent.toNat '0') ++ wholeMark
  else if 0 < point then
    String.ofList (ds.take point.toNat ++ '.' :: ds.drop point.toNat)
  else
    String.ofList ('0' :: '.' :: List.replicate (-point).toNat '0' ++ ds)

/-- Writes a decimal with one digit before the point and an exponent; `plus` stands before an
exponent that is not negative. -/
def scientific (d : Decimal) (plus : String) : String :=
  let ds := digitsOf d.digits
  let power : Int := ds.length + d.exponent - 1
  let tail := if ds.length ≤ 1 then [] else '.' :: ds.drop 1
  String.ofList (ds.take 1 ++ tail) ++ "e" ++ (if 0 ≤ power then plus else "") ++ toString power

/-- The sign to write before a double. -/
def signText (x : Float) : String := if Double.isNegative x then "-" else ""

/-- Writes what is no finite number. -/
def specialText (x : Float) : String :=
  if Double.isNaN x then "NaN" else signText x ++ "inf"

/-- Plain notation: never an exponent, and no point in a whole number. -/
def plain (x : Float) : String :=
  if Double.isFinite x then signText x ++ positional (shortest .up x) "" else specialText x

/-- The power of ten of the leading digit. -/
def Decimal.leading (d : Decimal) : Int := digitCount d.digits + d.exponent - 1

/-- JSON notation of a finite double: positional from `0.00001` up to below ten to the sixteenth,
with at least one place; elsewhere with an exponent that shows its sign. -/
def json (x : Float) : String :=
  let d := shortest .toEven x
  signText x ++
    (if d.digits = 0 ∨ (-5 ≤ d.leading ∧ d.leading < 16) then positional d ".0"
     else scientific d "+")

/-- Trace notation: positional from `0.0001` up to below ten to the sixteenth, with at least one
place; elsewhere with an exponent. -/
def trace (x : Float) : String :=
  if Double.isFinite x then
    let d := shortest .up x
    signText x ++
      (if d.digits = 0 ∨ (-4 ≤ d.leading ∧ d.leading < 16) then positional d ".0"
       else scientific d "")
  else specialText x

/-- A fixed number of places; a half goes to the even neighbour. -/
def fixed (places : Nat) (x : Float) : String :=
  if Double.isFinite x then
    let ds := (padded (places + 1) (scaledTo places x)).toList
    let whole := ds.length - places
    signText x ++ String.ofList (ds.take whole) ++
      (if places = 0 then "" else "." ++ String.ofList (ds.drop whole))
  else specialText x

end RecordAudit.Number
