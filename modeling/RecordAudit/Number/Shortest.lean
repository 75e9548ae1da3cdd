import RecordAudit.Number.Double

/-!
# The shortest decimal of a double

Every real number in a small interval around a finite double rounds to it.  The shortest
decimal is the one with the fewest digits in that interval, and of those the nearest to
the double.  `shortest` looks at each length in turn: if a decimal of that length lies
in the interval, so does one of the two neighbours of the double on the grid of that
length.
-/

namespace RecordAudit.Number

/-- The number `digits` times ten to the `exponent`. -/
structure Decimal where
  digits : Nat
  exponent : Int
deriving Repr, DecidableEq

/-- Which of two decimals is taken if they are equally near. -/
inductive Tie where
  | up
  | toEven
deriving Repr, DecidableEq

/-- A positive double, and the ends of the interval that rounds to it, over one denominator. -/
structure Interval where
  low : Nat
  value : Nat
  high : Nat
  denominator : Nat
  /-- Whether the ends themselves round to the double. -/
  closed : Bool

/-- The interval of a finite double that is not zero.  Below a power of two the neighbour is half
as far away as above it, except at the foot of the range. -/
def Interval.of (x : Float) : Interval :=
  let m := Double.significand x
  let e := Double.exponent x - 2
  let below := if m = Double.exponentBit ∧ e ≠ -1076 then 1 else 2
  let scale := Nat.pow 2 e.toNat
  { low := (4 * m - below) * scale
    value := 4 * m * scale
    high := (4 * m + 2) * scale
    denominator := Nat.pow 2 (-e).toNat
    closed := m % 2 = 0 }

/-- The number of decimal digits of a natural number. -/
def digitCount (n : Nat) : Nat := (Nat.toDigits 10 n).length

/-- The exponent `p` for which the quotient lies between ten to the `p - 1` and ten to the `p`. -/
def magnitude10 (n d : Nat) : Int :=
  if d ≤ n then digitCount (n / d)
  else
    let k := digitCount (d / n) - 1
    if n * Nat.pow 10 k = d then 1 - (k : Int) else -(k : Int)

/-- Divides by ten as long as nothing is lost. -/
def Decimal.strip : Nat → Decimal → Decimal
  | 0, d => d
  | fuel + 1, d =>
    if d.digits ≠ 0 ∧ d.digits % 10 = 0 then strip fuel ⟨d.digits / 10, d.exponent + 1⟩ else d

/-- Whether `a / unit` rounds to the double, where `unit` and the interval share a denominator. -/
def Interval.reaches (i : Interval) (up unit a : Nat) : Bool :=
  if i.closed then i.low * up ≤ a * unit && a * unit ≤ i.high * up
  else i.low * up < a * unit && a * unit < i.high * up

/-- The one of two neighbouring decimals that is nearer, by their distances from the double. -/
def nearer (tie : Tie) (lower distanceDown distanceUp : Nat) : Nat :=
  match compare distanceDown distanceUp with
  | .lt => lower
  | .gt => lower + 1
  | .eq => if tie = .toEven ∧ lower % 2 = 0 then lower else lower + 1

/-- The decimal at the grid of ten to the `k` that rounds to the double, if there is one. -/
def Interval.onGrid (i : Interval) (tie : Tie) (k : Int) : Option Decimal :=
  let up := Nat.pow 10 (-k).toNat
  let unit := i.denominator * Nat.pow 10 k.toNat
  let lower := i.value * up / unit
  match i.reaches up unit lower, i.reaches up unit (lower + 1) with
  | true, true =>
    some ⟨nearer tie lower (i.value * up - lower * unit) ((lower + 1) * unit - i.value * up), k⟩
  | true, false => some ⟨lower, k⟩
  | false, true => some ⟨lower + 1, k⟩
  | false, false => none

/-- The shortest decimal that rounds to a finite double, without its sign. -/
def shortest (tie : Tie) (x : Float) : Decimal :=
  if Double.significand x = 0 then ⟨0, 0⟩
  else
    let i := Interval.of x
    let p := magnitude10 i.value i.denominator
    match (List.range 17).findSome? fun n => i.onGrid tie (p - (n + 1 : Nat)) with
    | some d => d.strip 20
    | none => ⟨0, 0⟩

/-! ## A fixed number of places -/

/-- The quotient to the nearest integer; a half goes to the even neighbour. -/
def roundHalfEven (n d : Nat) : Nat :=
  let q := n / d
  match compare (2 * (n % d)) d with
  | .lt => q
  | .gt => q + 1
  | .eq => q + q % 2

/-- A finite double without its sign, in units of ten to the minus `places`. -/
def scaledTo (places : Nat) (x : Float) : Nat :=
  roundHalfEven (Double.significand x * Double.factor x * Nat.pow 10 places) (Double.divisor x)

end RecordAudit.Number
