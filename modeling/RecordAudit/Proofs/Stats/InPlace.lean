import RecordAudit.Proofs.Stats.Tally

/-!
# Changes in place

A merge gives a new state or a fault.  Who keeps one state and writes into it
does so part by part, and what was written before a failure stays written.
`InPlace` is the type of such steps, and `Performs` says that some steps have
the effect of a function that gives a new state: all of it, or nothing where
the function fails.

* `Performs.refuse_bind`, `Performs.bind` and `Performs.within` put steps
  together.  What follows a write must not fail, and `Performs.bind` asks for
  just that.
* `mergeInPlace` spells out the merges of reservoirs and of tallies in the
  order of their writes, and `performs_mergeInPlace` says that they perform
  `merge`.
-/

namespace RecordAudit

/-- Steps that write into a state one after the other.  What they wrote before
a failure stays. -/
abbrev InPlace (σ : Type) := ExceptT AuditError (StateM σ)

namespace InPlace

variable {σ τ : Type}

/-- What is left of a state: the new one, or after an error the old one. -/
def leaving (s : σ) : Except AuditError σ → Except AuditError Unit × σ
  | .ok t => (.ok (), t)
  | .error e => (.error e, s)

/-- Steps with the effect of a function: all of it, or none where it fails. -/
def Performs (steps : InPlace σ Unit) (f : σ → Except AuditError σ) : Prop :=
  ∀ s, steps s = leaving s (f s)

/-- Refuses some states with an error. -/
def refuse (bad : σ → Prop) [DecidablePred bad] (e : σ → AuditError) : InPlace σ Unit := do
  let s ← get
  if bad s then throw (e s)

/-- Works on a part of the state.  It is put back whether the steps fail or not. -/
def within (part : σ → τ) (put : σ → τ → σ) (steps : InPlace τ Unit) : InPlace σ Unit := fun s =>
  let (result, t) := steps (part s)
  (result, put s t)

theorem bind_apply {β γ : Type} (p : InPlace σ β) (q : β → InPlace σ γ) (s : σ) :
    (p >>= q) s = match p s with
      | (.ok b, t) => q b t
      | (.error e, t) => (.error e, t) := by
  show StateT.bind p (ExceptT.bindCont q) s = _
  rw [StateT.bind]
  rcases p s with ⟨_ | _, t⟩ <;> rfl

theorem Performs.apply_ok {p : InPlace σ Unit} {f : σ → Except AuditError σ} (hp : p.Performs f)
    {s t : σ} (h : f s = .ok t) : p s = (.ok (), t) := by
  rw [hp s, h, leaving]

/-- A failure leaves the state as it is. -/
theorem Performs.apply_error {p : InPlace σ Unit} {f : σ → Except AuditError σ}
    (hp : p.Performs f) {s : σ} {e : AuditError} (h : f s = .error e) : p s = (.error e, s) := by
  rw [hp s, h, leaving]

theorem Performs.congr {p : InPlace σ Unit} {f g : σ → Except AuditError σ} (hp : p.Performs f)
    (h : ∀ s, f s = g s) : p.Performs g := by
  rwa [← funext h]

/-- A check goes in front of any steps. -/
theorem Performs.refuse_bind {bad : σ → Prop} [DecidablePred bad] {e : σ → AuditError}
    {p : InPlace σ Unit} {f : σ → Except AuditError σ} (hp : p.Performs f) :
    Performs (do refuse bad e; p) fun s => if bad s then .error (e s) else f s := by
  intro s
  have hcheck : refuse bad e s = if bad s then (.error (e s), s) else (.ok (), s) := by
    show (if bad s then throw (e s) else pure () : InPlace σ Unit) s = _
    split <;> rfl
  rw [bind_apply, hcheck]
  by_cases hbad : bad s
  · simp only [if_pos hbad, leaving]
  · simp only [if_neg hbad]
    exact hp s

/-- Steps that cannot fail go after any steps. -/
theorem Performs.bind {p q : InPlace σ Unit} {f : σ → Except AuditError σ} {g : σ → σ}
    (hp : p.Performs f) (hq : q.Performs fun s => .ok (g s)) :
    Performs (do p; q) fun s => (f s).map g := by
  intro s
  show _ = leaving s ((f s).map g)
  rw [bind_apply]
  cases h : f s with
  | error e =>
    rw [hp.apply_error h]
    rfl
  | ok t =>
    rw [hp.apply_ok h]
    exact hq t

theorem Performs.within {part : σ → τ} {put : σ → τ → σ} {p : InPlace τ Unit}
    {f : τ → Except AuditError τ} (hp : p.Performs f) (hput : ∀ s, put s (part s) = s) :
    (within part put p).Performs fun s => (f (part s)).map (put s) := by
  intro s
  show _ = leaving s ((f (part s)).map (put s))
  rw [InPlace.within, hp (part s)]
  cases f (part s) with
  | error e => simp only [leaving, hput, Except.map]
  | ok t => rfl

end InPlace

open InPlace (refuse within)

/-! ## Merges -/

namespace Reservoir

variable {γ β : Type} [Draws γ]

/-- Takes over what was offered to another reservoir, with one write for each
part of this one. -/
def takeOverInPlace (b : Reservoir γ β) : InPlace (Reservoir γ β) Unit := do
  let a ← get
  if b.seen = 0 then return
  if a.seen = 0 then
    modify fun r => { r with samples := b.samples }
    modify fun r => { r with seen := b.seen }
  else if a.isExact ∧ b.isExact ∧ a.samples.size + b.samples.size ≤ a.capacity then
    modify fun r => { r with samples := r.samples ++ b.samples }
    modify fun r => { r with seen := r.seen + b.seen }
  else
    modify fun r => { r with draws := (a.resample b).draws }
    modify fun r => { r with samples := (a.resample b).samples }
    modify fun r => { r with seen := r.seen + b.seen }

/-- Takes over what was offered to another reservoir, if that has the same capacity. -/
def mergeInPlace (b : Reservoir γ β) : InPlace (Reservoir γ β) Unit := do
  refuse (fun a => a.capacity ≠ b.capacity) fun a =>
    .stateMerge (.differentCapacities a.capacity b.capacity)
  b.takeOverInPlace

theorem performs_mergeInPlace (b : Reservoir γ β) :
    b.mergeInPlace.Performs fun a => (a.merge b).mapError .stateMerge := by
  have hwrites : b.takeOverInPlace.Performs fun a => .ok
      (if b.seen = 0 then a
      else if a.seen = 0 then { a with seen := b.seen, samples := b.samples }
      else if a.isExact ∧ b.isExact ∧ a.samples.size + b.samples.size ≤ a.capacity then
        { a with seen := a.seen + b.seen, samples := a.samples ++ b.samples }
      else a.resample b) := by
    intro a
    show (if b.seen = 0 then pure () else if a.seen = 0 then _ else if _ then _ else _ :
      InPlace (Reservoir γ β) Unit) a = _
    beta_reduce
    split_ifs <;> rfl
  refine hwrites.refuse_bind.congr fun a => ?_
  rw [merge]
  split_ifs <;> rfl

end Reservoir

namespace Tally

variable {α : Type} [Arithmetic α]

/-- Takes over what another tally has seen, with one write for each part of
this one. -/
def mergeInPlace (b : Tally α) : InPlace (Tally α) Unit := do
  refuse (fun a => a.column ≠ b.column) fun a =>
    .stateMerge (.differentColumns a.column b.column)
  refuse (fun a => ¬sameDoubles a.percentiles b.percentiles) fun a =>
    .stateMerge (.differentPercentiles a.column)
  within sketch (fun t s => { t with sketch := s }) b.sketch.mergeInPlace
  modify fun t => { t with skipped := t.skipped + b.skipped }
  modify fun t => { t with moments := t.moments.merge b.moments }

theorem performs_mergeInPlace (b : Tally α) :
    b.mergeInPlace.Performs fun a => (a.merge b).mapError .stateMerge := by
  have hsketch : InPlace.Performs (within sketch (fun (t : Tally α) s => { t with sketch := s })
      b.sketch.mergeInPlace) _ := b.sketch.performs_mergeInPlace.within fun _ => rfl
  have hwrites : InPlace.Performs (do
      modify fun t : Tally α => { t with skipped := t.skipped + b.skipped }
      modify fun t => { t with moments := t.moments.merge b.moments }) fun t =>
        .ok { t with skipped := t.skipped + b.skipped, moments := t.moments.merge b.moments } :=
    fun _ => rfl
  refine (((hsketch.bind hwrites).refuse_bind).refuse_bind).congr fun a => ?_
  rw [merge]
  by_cases hcolumn : a.column ≠ b.column
  · rw [if_pos hcolumn, if_pos hcolumn]
    rfl
  rw [if_neg hcolumn, if_neg hcolumn]
  by_cases hsame : ¬sameDoubles a.percentiles b.percentiles = true
  · rw [if_pos hsame, if_pos hsame]
    rfl
  rw [if_neg hsame, if_neg hsame]
  cases a.sketch.merge b.sketch <;> rfl

end Tally

/-! ## Accumulators -/

namespace Accumulator

variable {α : Type} [Arithmetic α]

/-- Refuses an accumulator that is finalized. -/
def ensureOpen : InPlace (Accumulator α) Unit :=
  refuse (·.isFinalized = true) fun a => .accumulatorClosed a.tally.column

/-- Changes the tally. -/
def write (f : Tally α → Tally α) : InPlace (Accumulator α) Unit :=
  modify fun a => { a with tally := f a.tally }

/-- Takes in a double, with one write for each part of the tally. -/
def observeInPlace (x : Float) : InPlace (Accumulator α) Unit := do
  ensureOpen
  if Double.isFinite x then
    write fun t => { t with moments := t.moments.observe (Arithmetic.ofDouble x) }
    write fun t => { t with sketch := Sketch.update t.sketch x }
  else
    write fun t => { t with skipped := t.skipped + 1 }

/-- Takes in a value; what is no number does not reach the tally, and has a
check of its own. -/
def observeValueInPlace (v : FieldValue) : InPlace (Accumulator α) Unit :=
  match v.asFloat? with
  | some x => observeInPlace x
  | none => do
    ensureOpen
    write fun t => { t with skipped := t.skipped + 1 }

/-- Takes over what another accumulator has seen. -/
def mergeInPlace (b : Accumulator α) : InPlace (Accumulator α) Unit := do
  refuse (fun a => a.isFinalized = true ∨ b.isFinalized = true) fun a =>
    .stateMerge (.finalized a.tally.column)
  within tally (fun a t => { a with tally := t }) b.tally.mergeInPlace

omit [Arithmetic α] in
theorem performs_whileOpen {steps : InPlace (Accumulator α) Unit} {f : Tally α → Tally α}
    (h : steps.Performs fun a => .ok { a with tally := f a.tally }) :
    InPlace.Performs (do ensureOpen; steps) (·.whileOpen f) :=
  h.refuse_bind.congr fun _ => rfl

theorem performs_observeInPlace (x : Float) :
    (observeInPlace x : InPlace (Accumulator α) Unit).Performs (·.observe x) := by
  refine performs_whileOpen (f := fun t => t.observe x) fun a => ?_
  simp only [Tally.observe]
  by_cases hfinite : Double.isFinite x = true
  · rw [if_pos hfinite, if_pos hfinite]
    rfl
  · rw [if_neg hfinite, if_neg hfinite]
    rfl

theorem performs_observeValueInPlace (v : FieldValue) :
    (observeValueInPlace v : InPlace (Accumulator α) Unit).Performs (·.observeValue v) := by
  rw [observeValueInPlace]
  have hvalue : ∀ a : Accumulator α, a.observeValue v = a.whileOpen fun t => t.observeValue v :=
    fun _ => rfl
  simp only [hvalue, Tally.observeValue]
  cases v.asFloat? with
  | some x => exact performs_observeInPlace x
  | none => exact performs_whileOpen fun _ => rfl

theorem performs_mergeInPlace (b : Accumulator α) :
    b.mergeInPlace.Performs fun a => (a.merge b).mapError .stateMerge := by
  have htally : InPlace.Performs (within tally (fun (a : Accumulator α) t => { a with tally := t })
      b.tally.mergeInPlace) _ := b.tally.performs_mergeInPlace.within fun _ => rfl
  refine htally.refuse_bind.congr fun a => ?_
  rw [merge]
  by_cases hclosed : a.isFinalized = true ∨ b.isFinalized = true
  · rw [if_pos hclosed, if_pos hclosed]
    rfl
  · rw [if_neg hclosed, if_neg hclosed]
    cases a.tally.merge b.tally <;> rfl

end Accumulator

end RecordAudit
