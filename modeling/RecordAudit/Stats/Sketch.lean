import RecordAudit.Stats.Reservoir

/-!
# Quantiles of a sample

A sketch is a reservoir of doubles; what is no number is not offered to it.  A quantile is
the kept value at the nearest rank: of n values in ascending order, the one at the least
rank that is not below the quantile times n.
-/

namespace RecordAudit

/-- A reservoir of doubles. -/
abbrev Sketch (γ : Type) := Reservoir γ Float

namespace Sketch

variable {γ : Type}

/-- Offers a value, unless it is no number. -/
def update [Draws γ] (s : Sketch γ) (x : Float) : Sketch γ :=
  if Double.isNaN x then s else s.offer x

/-- Values in ascending order; equal ones stay as they stand. -/
def ascending (xs : List Float) : List Float := xs.mergeSort fun a b => !Double.less b a

/-- The rank of a quantile among so many values, counted from one. -/
def rank (q : Float) (count : Nat) : Nat :=
  max 1 (min count (Double.ceiling (q * Float.ofNat count)).toNat)

/-- The value at the rank of a quantile. -/
def atRank (sorted : List Float) (q : Float) : Float :=
  sorted.getD (rank q sorted.length - 1) 0

/-- The values at some quantiles, each of which must be a fraction. -/
def quantiles (s : Sketch γ) (qs : List Float) : Except InternalFault (List Float) :=
  if s.samples.isEmpty then .error .emptySketch
  else
    match qs.find? fun q => !Double.isFraction q with
    | some q => .error (.quantile q)
    | none => .ok (qs.map (atRank (ascending s.samples.toList)))

/-- The value at a quantile. -/
def quantile (s : Sketch γ) (q : Float) : Except InternalFault Float :=
  (s.quantiles [q]).map fun xs => xs.headD 0

end Sketch

end RecordAudit
