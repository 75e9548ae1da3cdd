import RecordAudit.Stats.Arithmetic

/-!
# Moments of a column

The count, mean, spread and extremes of the numbers seen so far.  The spread is the sum of
the squared distances from the mean.  A number is added in one step, and two sets of
moments are joined in one step too.  Where the distance from the mean is too great to be a
finite number the mean is combined from scaled parts, and the spread stays infinite.
-/

namespace RecordAudit

open Arithmetic

/-- The count, mean, spread and extremes of some numbers. -/
structure Moments (α : Type) where
  /-- How many numbers there are, which is taken to stay below two to the 64th. -/
  count : Nat
  mean : α
  spread : α
  least : Option α
  greatest : Option α

namespace Moments

variable {α : Type} [Arithmetic α]

/-- The moments of no numbers. -/
def empty : Moments α := ⟨0, ofNat 0, ofNat 0, none, none⟩

/-- Adds a number. -/
def observe (m : Moments α) (x : α) : Moments α :=
  let n : α := ofNat (m.count + 1)
  let delta := x - m.mean
  let close := m.mean + delta / n
  { count := m.count + 1
    mean := if isFinite delta then close else m.mean * ((n - ofNat 1) / n) + x / n
    spread := if isFinite delta then m.spread + delta * (x - close) else infinity
    least := some (m.least.elim x (lesser · x))
    greatest := some (m.greatest.elim x (greater · x)) }

/-- One of two extremes; there may be none. -/
def pick (choose : α → α → α) : Option α → Option α → Option α
  | some a, some b => some (choose a b)
  | some a, none => some a
  | none, b => b

/-- The moments of two sets of numbers, neither of which is empty, together. -/
def combine (a b : Moments α) : Moments α :=
  let na : α := ofNat a.count
  let nb : α := ofNat b.count
  let n := na + nb
  let delta := b.mean - a.mean
  { count := a.count + b.count
    mean :=
      if isFinite delta then a.mean + delta * (nb / n)
      else a.mean * (na / n) + b.mean * (nb / n)
    spread :=
      if isFinite delta then a.spread + (b.spread + delta * delta * (na * nb / n)) else infinity
    least := pick lesser a.least b.least
    greatest := pick greater a.greatest b.greatest }

/-- The moments of two sets of numbers together. -/
def merge (a b : Moments α) : Moments α :=
  if b.count = 0 then a else if a.count = 0 then b else combine a b

/-- The mean, if there are numbers. -/
def mean? (m : Moments α) : Option α := if m.count = 0 then none else some m.mean

/-- The variance of the numbers themselves, if there are any. -/
def variance? (m : Moments α) : Option α :=
  if m.count = 0 then none else some (clamped (m.spread / ofNat m.count))

/-- The variance of what the numbers are a sample of, if there are at least two. -/
def sampleVariance? (m : Moments α) : Option α :=
  if 1 < m.count then some (clamped (m.spread / (ofNat m.count - ofNat 1))) else none

end Moments

end RecordAudit
