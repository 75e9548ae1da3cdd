import RecordAudit.Error
import RecordAudit.Number.Double
import RecordAudit.Stats.Keystream

/-!
# Reservoirs

A reservoir keeps a sample of at most `capacity` of the items offered to it.  Up to its
capacity it keeps them all; from then on the i-th item replaces a kept one at a slot drawn
below i, if there is such a slot, so that every item offered so far is kept with the same
probability.  Two reservoirs are merged by putting both samples together if that keeps
everything; otherwise each kept item gets a random key, weighted by how many items it
stands for, and the greatest keys win.
-/

namespace RecordAudit

/-- A sample of the items offered so far. -/
structure Reservoir (γ β : Type) where
  capacity : Nat
  positive : 0 < capacity
  /-- How many items have been offered, which is taken to stay below two to the 64th. -/
  seen : Nat
  samples : Array β
  draws : γ

namespace Reservoir

variable {γ β : Type}

/-- The reservoir to which nothing has been offered. -/
def empty (capacity : Nat) (positive : 0 < capacity) (draws : γ) : Reservoir γ β :=
  ⟨capacity, positive, 0, #[], draws⟩

/-- An empty reservoir, unless the capacity is zero. -/
def new (capacity : Nat) (draws : γ) : Except ConfigurationFault (Reservoir γ β) :=
  if h : 0 < capacity then .ok (empty capacity h draws) else .error .zeroReservoirCapacity

/-- Whether every item offered so far is kept. -/
def isExact (r : Reservoir γ β) : Bool := r.seen == r.samples.size

/-- Whether nothing has been offered. -/
def isEmpty (r : Reservoir γ β) : Bool := r.seen == 0

/-- One standard error of an estimated rank, as a fraction of the items offered. -/
def rankError (r : Reservoir γ β) : Float :=
  if r.isExact then 0 else 0.5 / (Float.ofNat r.capacity).sqrt

/-- Puts an item at a drawn slot, if the slot lies within the capacity. -/
def place (r : Reservoir γ β) (x : β) (slot : Nat) : Array β :=
  if slot < r.capacity then r.samples.setIfInBounds slot x else r.samples

variable [Draws γ]

/-- Offers an item. -/
def offer (r : Reservoir γ β) (x : β) : Reservoir γ β :=
  if r.samples.size < r.capacity then
    { r with seen := r.seen + 1, samples := r.samples.push x }
  else
    let (slot, draws) := Draws.below (r.seen + 1) r.draws
    { r with seen := r.seen + 1, samples := r.place x slot, draws }

/-- How many offered items a kept one stands for. -/
def weight (r : Reservoir γ β) : Float := Float.ofNat r.seen / Float.ofNat r.samples.size

/-- Gives items of one weight random keys. -/
def keyed (weight : Float) : List β → γ → List (Float × β) × γ
  | [], draws => ([], draws)
  | x :: rest, draws =>
    let (u, draws) := Draws.fraction draws
    let (more, draws) := keyed weight rest draws
    ((Float.pow (1 - u) (1 / weight), x) :: more, draws)

/-- The items with the greatest keys; of equal keys the first. -/
def winners (count : Nat) (items : List (Float × β)) : List β :=
  ((items.mergeSort fun a b => !Double.less a.1 b.1).take count).map (·.2)

/-- Puts two samples together where neither is empty and something has to be left out. -/
def resample (a b : Reservoir γ β) : Reservoir γ β :=
  let (mine, draws) := keyed a.weight a.samples.toList a.draws
  let (theirs, draws) := keyed b.weight b.samples.toList draws
  { a with
    seen := a.seen + b.seen
    samples := (winners a.capacity (mine ++ theirs)).toArray
    draws }

/-- Takes over what was offered to another reservoir of the same capacity. -/
def merge (a b : Reservoir γ β) : Except MergeFault (Reservoir γ β) :=
  if a.capacity ≠ b.capacity then .error (.differentCapacities a.capacity b.capacity)
  else if b.seen = 0 then .ok a
  else if a.seen = 0 then .ok { a with seen := b.seen, samples := b.samples }
  else if a.isExact ∧ b.isExact ∧ a.samples.size + b.samples.size ≤ a.capacity then
    .ok { a with seen := a.seen + b.seen, samples := a.samples ++ b.samples }
  else .ok (a.resample b)

end Reservoir

end RecordAudit
