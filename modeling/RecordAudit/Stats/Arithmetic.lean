import RecordAudit.Number.Double

/-!
# Arithmetic for running statistics

Running statistics are kept in an arithmetic of their own: that of doubles, which rounds
and may leave the range of finite numbers, or that of rational numbers, which is exact.
-/

namespace RecordAudit

/-- Numbers in which running statistics can be kept. -/
class Arithmetic (α : Type) extends Add α, Sub α, Mul α, Div α where
  ofNat : Nat → α
  /-- The number that a finite double stands for. -/
  ofDouble : Float → α
  isFinite : α → Bool
  /-- What stands for a sum that is too great. -/
  infinity : α
  less : α → α → Bool

instance : Arithmetic Float where
  ofNat := Float.ofNat
  ofDouble x := x
  isFinite := Double.isFinite
  infinity := Float.ofBits 0x7FF0000000000000
  less := Double.less

instance : Arithmetic Rat where
  ofNat n := n
  ofDouble := Double.toRat
  isFinite _ := true
  infinity := 0
  less a b := a < b

namespace Arithmetic

variable {α : Type} [Arithmetic α]

/-- The lesser of two numbers; the second of two equal ones. -/
def lesser (a b : α) : α := if less a b then a else b

/-- The greater of two numbers; the second of two equal ones. -/
def greater (a b : α) : α := if less b a then a else b

/-- A number, or zero if it is not above zero. -/
def clamped (a : α) : α := if less (ofNat 0) a then a else ofNat 0

end Arithmetic

end RecordAudit
