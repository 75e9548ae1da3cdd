/-!
# Doubles as exact numbers

A double is a sign and a magnitude of 63 bits.  Magnitudes grow with the absolute value,
so `key`, the magnitude with its sign, puts the doubles that are numbers in order, with
one place for both zeros.  A finite double is `significand` times two to the `exponent`,
and `floor` and `ceiling` are the integers around that number.  Comparisons here never
round.
-/

namespace RecordAudit.Double

/-- The value of the sign bit: two to the 63. -/
def signBit : Nat := 0x8000000000000000

/-- The value of the lowest bit of the exponent: two to the 52. -/
def exponentBit : Nat := 0x10000000000000

/-- The bits of a double below its sign. -/
def magnitude (x : Float) : Nat := x.toBits.toNat % signBit

/-- Whether the sign bit is set; the negative zero has it. -/
def isNegative (x : Float) : Bool := signBit ≤ x.toBits.toNat

/-- The magnitude of the infinities; what lies above it is no number. -/
def infiniteMagnitude : Nat := 0x7FF * exponentBit

/-- Whether a double is no number. -/
def isNaN (x : Float) : Bool := infiniteMagnitude < magnitude x

/-- Whether a double is a number and not infinite. -/
def isFinite (x : Float) : Bool := magnitude x < infiniteMagnitude

/-- Whether a double is one of the two infinities. -/
def isInfinite (x : Float) : Bool := magnitude x == infiniteMagnitude

/-- The place of a double in the order of numbers. -/
def key (x : Float) : Int :=
  if isNegative x then -(magnitude x : Int) else magnitude x

/-- The order of two doubles; there is none if one of them is no number. -/
def compare? (a b : Float) : Option Ordering :=
  if isNaN a || isNaN b then none else some (compare (key a) (key b))

/-- Whether both are numbers and equal; the two zeros are. -/
def eq (a b : Float) : Bool := compare? a b == some .eq

/-- Whether both are numbers and the first is below the second. -/
def less (a b : Float) : Bool := compare? a b == some .lt

/-- Whether both are numbers and the first is not above the second. -/
def atMost (a b : Float) : Bool := less a b || eq a b

/-! ## The number a finite double stands for -/

/-- The integer that a finite double scales by a power of two. -/
def significand (x : Float) : Nat :=
  if magnitude x < exponentBit then magnitude x else magnitude x % exponentBit + exponentBit

/-- The power of two that scales the significand. -/
def exponent (x : Float) : Int := (max (magnitude x / exponentBit) 1 : Nat) - 1075

/-- The significand with its sign. -/
def signed (x : Float) : Int :=
  if isNegative x then -(significand x : Int) else significand x

/-- Two to the exponent of a double, or one if the exponent is negative. -/
def factor (x : Float) : Nat := Nat.pow 2 (exponent x).toNat

/-- Two to the exponent of a double without its minus, or one if it has none. -/
def divisor (x : Float) : Nat := Nat.pow 2 (-exponent x).toNat

/-- The greatest integer that is not above a finite double. -/
def floor (x : Float) : Int := signed x * factor x / divisor x

/-- The least integer that is not below a finite double. -/
def ceiling (x : Float) : Int := -(-(signed x * factor x) / divisor x)

/-- The integer nearest to a finite double that is not negative; a half goes up. -/
def rounded (x : Float) : Int := (floor (2 * x) + 1) / 2

/-- The whole double nearest to a finite one, of the same sign; a half goes away from zero. -/
def roundedWhole (x : Float) : Float :=
  if isNegative x then -Float.ofInt (rounded (-x)) else Float.ofInt (rounded x)

/-- Whether a finite double is an integer. -/
def isWhole (x : Float) : Bool := floor x == ceiling x

/-- The rational number that a finite double stands for. -/
def toRat (x : Float) : Rat := mkRat (signed x * factor x) (divisor x)

/-- Two to the 63: the first double above all integers of 64 bits. -/
def wordEnd : Float := Float.ofBits 0x43E0000000000000

/-- The order of an integer of 64 bits and a double.  A double beyond all such integers is above or
below each of them; the integer part of any other one is such an integer and comes first, and an
integer is below a double that has the same integer part and a fraction besides. -/
def compareWord? (n : Int64) (x : Float) : Option Ordering :=
  if isNaN x then none
  else if atMost wordEnd x then some .lt
  else if less x (-wordEnd) then some .gt
  else some ((compare n (Int64.ofIntClamp (floor x))).then (if isWhole x then .eq else .lt))

/-- Whether a double lies in the closed range from zero to one. -/
def isFraction (x : Float) : Bool := atMost 0 x && atMost x 1

end RecordAudit.Double
