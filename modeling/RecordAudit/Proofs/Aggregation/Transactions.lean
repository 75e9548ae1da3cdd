import RecordAudit.Proofs.Aggregation.Conservation
import RecordAudit.Proofs.Stats.InPlace

/-!
# Merges of states are whole or not at all

A state has a tally for each column.  Tallies are merged in place one after the
other, so that a failure at a later column finds earlier ones merged already
(`mergeEach_cases`).  A merge of states therefore works on a copy, and puts
it in place when nothing can fail any more (`performs_mergeInPlace`).

* `BegunBy` is any tree of runs and merges, with the aggregator of its first
  run, whose settings it keeps (`BegunBy.configured`).
* `exists_mergeTallies_iff` says which lists of tallies can be merged.
* `mergeInPlace_wholeOrNothing` says when a merge succeeds, and what it leaves.
-/

namespace RecordAudit

namespace InPlace

variable {σ τ : Type}

/-- Works on a copy of a part of the state, and gives it.  The state stays as it is. -/
def onCopy (part : σ → τ) (steps : InPlace τ Unit) : InPlace σ τ := fun s =>
  match steps (part s) with
  | (.ok (), t) => (.ok t, s)
  | (.error e, _) => (.error e, s)

end InPlace

open InPlace (refuse onCopy)

namespace PartialAggregation

variable {α : Type} [Arithmetic α]

/-! ## Merges in place -/

/-- Merges tallies in place, one after the other.  Those before a failure stay merged. -/
def mergeEach : List (Tally α) → InPlace (List (Tally α)) Unit
  | [], ts => (.ok (), ts)
  | _ :: _, [] => (.ok (), [])
  | b :: bs, t :: ts =>
    match b.mergeInPlace t with
    | (.error e, t) => (.error e, t :: ts)
    | (.ok (), t) =>
      let (result, ts) := mergeEach bs ts
      (result, t :: ts)

/-- Appends the part of the stream that follows, with one write for each part
of the state. -/
def mergeInPlace (q : PartialAggregation α) : InPlace (PartialAggregation α) Unit := do
  refuse (fun p => p.columns ≠ q.columns) fun p =>
    .stateMerge (.differentColumnLists p.columns q.columns)
  let merged ← onCopy tallies (mergeEach q.tallies)
  let offset := (← get).recordsRead
  modify fun p => { p with tallies := merged }
  modify fun p => { p with outcomes := p.outcomes ++ q.outcomes.map (·.offset offset) }
  modify fun p => { p with filtered := p.filtered + q.filtered }
  modify fun p => { p with recordsRead := p.recordsRead + q.recordsRead }

/-- Tallies merged one after the other.  After a failure some of them may be
merged and others not. -/
theorem mergeEach_cases (as bs : List (Tally α)) :
    (∃ ts, mergeTallies as bs = .ok ts ∧ mergeEach bs as = (.ok (), ts)) ∨
      ∃ fault left, mergeTallies as bs = .error fault ∧
        mergeEach bs as = (.error (.stateMerge fault), left) := by
  induction as generalizing bs with
  | nil => exact .inl ⟨[], rfl, by cases bs <;> rfl⟩
  | cons a as ih =>
    cases bs with
    | nil => exact .inl ⟨a :: as, rfl, rfl⟩
    | cons b bs =>
      simp only [mergeTallies, bind, Except.bind, mergeEach]
      cases hhead : a.merge b with
      | error fault =>
        rw [b.performs_mergeInPlace.apply_error (by rw [hhead]; rfl)]
        exact .inr ⟨fault, a :: as, rfl, rfl⟩
      | ok t =>
        rw [b.performs_mergeInPlace.apply_ok (by rw [hhead]; rfl)]
        rcases ih bs with ⟨ts, hts, hinPlace⟩ | ⟨fault, left, hfault, hinPlace⟩
        · exact .inl ⟨t :: ts, by simp only [hts], by simp only [hinPlace]⟩
        · exact .inr ⟨fault, t :: left, by simp only [hfault], by simp only [hinPlace]⟩

/-- The state of both parts, with the tallies of both. -/
def appended (p q : PartialAggregation α) (ts : List (Tally α)) : PartialAggregation α where
  outcomes := p.outcomes ++ q.outcomes.map (·.offset p.recordsRead)
  tallies := ts
  filtered := p.filtered + q.filtered
  recordsRead := p.recordsRead + q.recordsRead

/-- The writes come after all that can fail. -/
theorem performs_mergeInPlace (q : PartialAggregation α) :
    q.mergeInPlace.Performs fun p => (p.merge q).mapError .stateMerge := by
  have hwrites : InPlace.Performs (do
      let merged ← onCopy tallies (mergeEach q.tallies)
      let offset := (← get).recordsRead
      modify fun p : PartialAggregation α => { p with tallies := merged }
      modify fun p => { p with outcomes := p.outcomes ++ q.outcomes.map (·.offset offset) }
      modify fun p => { p with filtered := p.filtered + q.filtered }
      modify fun p => { p with recordsRead := p.recordsRead + q.recordsRead }) fun p =>
        ((mergeTallies p.tallies q.tallies).mapError .stateMerge).map (p.appended q) := by
    intro p
    show _ = InPlace.leaving p
      (((mergeTallies p.tallies q.tallies).mapError AuditError.stateMerge).map (p.appended q))
    rw [InPlace.bind_apply, onCopy]
    rcases mergeEach_cases p.tallies q.tallies with ⟨ts, hts, hinPlace⟩ |
      ⟨fault, left, hfault, hinPlace⟩
    · rw [hinPlace, hts]
      rfl
    · rw [hinPlace, hfault]
      rfl
  refine hwrites.refuse_bind.congr fun p => ?_
  rw [merge]
  split_ifs with hcolumns
  · rfl
  · cases mergeTallies p.tallies q.tallies <;> rfl

end PartialAggregation

/-! ## Settings -/

/-- Settings whose sketches are alike.  Percentiles are compared as numbers. -/
structure AggregatorConfig.SameSketches (c d : AggregatorConfig) : Prop where
  capacity : c.sketchCapacity = d.sketchCapacity
  percentiles : c.percentiles.map Double.toRat = d.percentiles.map Double.toRat

namespace Tally

variable {α : Type} [Arithmetic α]

/-- A tally of a column with the sketch and the percentiles of some settings. -/
structure MadeFor (config : AggregatorConfig) (t : Tally α) (column : String) : Prop where
  column : t.column = column
  percentiles : t.percentiles = config.percentiles
  capacity : t.sketch.capacity = config.sketchCapacity

namespace MadeFor

variable {c d : AggregatorConfig} {s t : Tally α} {column : String}

theorem feed {ρ : Type} [Record ρ] (h : t.MadeFor c column) (r : ρ) :
    (Aggregator.feed r t).MadeFor c column := by
  rw [Aggregator.feed]
  cases Record.get r t.column with
  | error e => exact h
  | ok v =>
    exact ⟨(t.column_observeValue v).trans h.column,
      (t.percentiles_observeValue v).trans h.percentiles,
      (t.capacity_observeValue v).trans h.capacity⟩

theorem merge {u : Tally α} (h : s.MadeFor c column) (hmerge : s.merge t = .ok u) :
    u.MadeFor c column := by
  obtain ⟨_, _, sketch, hsketch, rfl⟩ := merge_eq_ok_iff.mp hmerge
  exact ⟨h.column, h.percentiles, (Reservoir.capacity_merge hsketch).trans h.capacity⟩

/-- Whether two tallies of a column can be merged depends on their settings only. -/
theorem exists_merge_iff (hs : s.MadeFor c column) (ht : t.MadeFor d column)
    (hc : c.sketchOptions.Valid) (hd : d.sketchOptions.Valid) :
    (∃ u, s.merge t = .ok u) ↔ c.SameSketches d := by
  have hsame : sameDoubles c.percentiles d.percentiles = true ↔
      c.percentiles.map Double.toRat = d.percentiles.map Double.toRat :=
    sameDoubles_iff hc.fractions hd.fractions
  rw [Tally.exists_merge_iff, hs.column, ht.column, hs.percentiles, ht.percentiles, hs.capacity,
    ht.capacity, hsame]
  exact ⟨fun ⟨_, hpercentiles, hcapacity⟩ => ⟨hcapacity, hpercentiles⟩,
    fun h => ⟨rfl, h.percentiles, h.capacity⟩⟩

end MadeFor

end Tally

namespace PartialAggregation

variable {α : Type} [Arithmetic α]

theorem mergeTallies_cons_eq_ok_iff {p q : Tally α} {ps qs ts : List (Tally α)} :
    mergeTallies (p :: ps) (q :: qs) = .ok ts ↔
      ∃ t ts', p.merge q = .ok t ∧ mergeTallies ps qs = .ok ts' ∧ ts = t :: ts' := by
  simp only [mergeTallies, bind, Except.bind]
  cases p.merge q with
  | error fault => simp
  | ok t => cases mergeTallies ps qs <;> simp [eq_comm]

/-- What merges keep of the first of two tallies they keep of lists of tallies. -/
theorem forall₂_mergeTallies {P : Tally α → String → Prop}
    (hP : ∀ {s t u column}, P s column → s.merge t = .ok u → P u column)
    {ps qs ts : List (Tally α)} {columns : List String} (hp : List.Forall₂ P ps columns)
    (h : mergeTallies ps qs = .ok ts) : List.Forall₂ P ts columns := by
  induction hp generalizing qs ts with
  | nil =>
    obtain rfl := Except.ok.inj h
    exact .nil
  | cons hhead htail ih =>
    cases qs with
    | nil =>
      obtain rfl := Except.ok.inj h
      exact .cons hhead htail
    | cons q qs =>
      obtain ⟨t, ts', ht, hts', rfl⟩ := mergeTallies_cons_eq_ok_iff.mp h
      exact .cons (hP hhead ht) (ih hts')

/-- Tallies of the same columns can be merged if their settings are alike, or
if there are none. -/
theorem exists_mergeTallies_iff {c d : AggregatorConfig} (hc : c.sketchOptions.Valid)
    (hd : d.sketchOptions.Valid) {ps qs : List (Tally α)} {columns : List String}
    (hp : List.Forall₂ (Tally.MadeFor c) ps columns)
    (hq : List.Forall₂ (Tally.MadeFor d) qs columns) :
    (∃ ts, mergeTallies ps qs = .ok ts) ↔ (columns ≠ [] → c.SameSketches d) := by
  induction hp generalizing qs with
  | nil =>
    cases hq
    exact ⟨fun _ hnil => absurd rfl hnil, fun _ => ⟨[], rfl⟩⟩
  | cons hhead htail ih =>
    cases hq with
    | cons hhead' htail' =>
      have hiff := hhead.exists_merge_iff hhead' hc hd
      simp only [mergeTallies_cons_eq_ok_iff]
      constructor
      · rintro ⟨_, t, _, ht, _, _⟩ _
        exact hiff.mp ⟨t, ht⟩
      · intro hsame
        have hsketches := hsame (List.cons_ne_nil _ _)
        obtain ⟨t, ht⟩ := hiff.mpr hsketches
        obtain ⟨ts, hts⟩ := (ih htail').mpr fun _ => hsketches
        exact ⟨t :: ts, t, ts, ht, hts, rfl⟩

/-! ## Runs and merges -/

/-- The states of runs and of merges that succeed, with the aggregator of the
first run.  The runs may be of any aggregators, over records of any kind. -/
inductive BegunBy : Aggregator → PartialAggregation α → Prop
  | run {ρ : Type} [Record ρ] {a : Aggregator} {s : RecordStream ρ} {p : PartialAggregation α}
      (h : a.runPartial s = .finished p) : BegunBy a p
  | merge {a b : Aggregator} {p q m : PartialAggregation α} (hp : BegunBy a p)
      (hq : BegunBy b q) (h : p.merge q = .ok m) : BegunBy a m

/-- The tallies of a state are those of an aggregator's columns. -/
def Configured (a : Aggregator) (p : PartialAggregation α) : Prop :=
  List.Forall₂ (Tally.MadeFor a.config) p.tallies a.statColumns

omit [Arithmetic α] in
theorem Configured.columns {a : Aggregator} {p : PartialAggregation α} (h : p.Configured a) :
    p.columns = a.statColumns := by
  rw [PartialAggregation.columns, ← List.forall₂_eq_eq_eq, List.forall₂_map_left_iff]
  exact h.imp fun _ _ hmade => hmade.column

theorem Configured.absorb {ρ : Type} [Record ρ] {a : Aggregator} {p : PartialAggregation α}
    (h : p.Configured a) (r : ρ) (vs : Option (List Violation)) :
    (Aggregator.absorb p r vs).Configured a := by
  cases vs with
  | none => exact h
  | some vs => exact List.forall₂_map_left_iff.mpr (h.imp fun _ _ hmade => hmade.feed r)

theorem configured_start (a : Aggregator) :
    (start (a.statColumns.map (a.freshTally (α := α)))).Configured a :=
  List.forall₂_map_left_iff.mpr (List.forall₂_same.mpr fun _ _ => ⟨rfl, rfl, rfl⟩)

theorem BegunBy.configured {a : Aggregator} {p : PartialAggregation α} (h : p.BegunBy a) :
    p.Configured a := by
  induction h with
  | @run ρ _ a s p h =>
    rw [Aggregator.runPartial, Aggregator.consume] at h
    cases hbind : a.bind s.schema with
    | error e => simp [hbind] at h
    | ok u =>
      simp only [hbind, Aggregator.tallies_eq] at h
      exact a.drive_keeps (fun p r hp => hp.absorb r _) (configured_start a) h
  | merge _ _ h ihp _ =>
    obtain ⟨_, ts, hts, rfl⟩ := merge_eq_ok_iff.mp h
    exact forall₂_mergeTallies (fun hmade hmerge => hmade.merge hmerge) ihp hts

/-- What a merge in place may come to: all of it, if the columns are the same
and there are none or their sketches are alike, and nothing at all otherwise. -/
structure WholeOrNothing (a b : Aggregator) (p q : PartialAggregation α)
    (outcome : Except AuditError Unit × PartialAggregation α) : Prop where
  succeeds_iff : outcome.1 = .ok () ↔
    p.columns = q.columns ∧ (p.columns ≠ [] → a.config.SameSketches b.config)
  failure {e : AuditError} (h : outcome.1 = .error e) : outcome.2 = p ∧
    ∃ fault, e = .stateMerge fault ∧ p.merge q = .error fault
  success (h : outcome.1 = .ok ()) : p.merge q = .ok outcome.2 ∧
    outcome.2.recordsRead = p.recordsRead + q.recordsRead ∧
    outcome.2.filtered = p.filtered + q.filtered ∧ p.outcomes <+: outcome.2.outcomes

theorem BegunBy.exists_merge_iff {a b : Aggregator} {p q : PartialAggregation α}
    (hp : p.BegunBy a) (hq : q.BegunBy b) :
    (∃ m, p.merge q = .ok m) ↔
      p.columns = q.columns ∧ (p.columns ≠ [] → a.config.SameSketches b.config) := by
  simp only [merge_eq_ok_iff]
  by_cases hcolumns : p.columns = q.columns
  · have hsame : b.statColumns = a.statColumns := by
      rw [← hp.configured.columns, ← hq.configured.columns, hcolumns]
    have htheirs : List.Forall₂ (Tally.MadeFor b.config) q.tallies a.statColumns := by
      rw [← hsame]
      exact hq.configured
    rw [hp.configured.columns, ← exists_mergeTallies_iff (Aggregator.valid_of_validate a.checked)
      (Aggregator.valid_of_validate b.checked) hp.configured htheirs]
    simp [hsame, hq.configured.columns]
  · simp [hcolumns]

/-- Whatever runs and merges led to two states, a merge of the second into the
first does all of it or nothing.  Only columns and sketches decide which. -/
theorem mergeInPlace_wholeOrNothing {a b : Aggregator} {p q : PartialAggregation α}
    (hp : p.BegunBy a) (hq : q.BegunBy b) : WholeOrNothing a b p q (q.mergeInPlace p) := by
  have hiff := hp.exists_merge_iff hq
  cases hmerge : p.merge q with
  | error fault =>
    rw [q.performs_mergeInPlace.apply_error (by rw [hmerge]; rfl)]
    constructor
    · rw [← hiff, hmerge]
      simp
    · intro e h
      exact ⟨rfl, fault, (Except.error.inj h).symm, hmerge⟩
    · intro h
      cases h
  | ok m =>
    rw [q.performs_mergeInPlace.apply_ok (by rw [hmerge]; rfl)]
    constructor
    · rw [← hiff, hmerge]
      simp
    · intro e h
      cases h
    · intro _
      refine ⟨hmerge, ?_⟩
      obtain ⟨_, ts, _, rfl⟩ := merge_eq_ok_iff.mp hmerge
      exact ⟨rfl, rfl, List.prefix_append _ _⟩

/-- Two runs that differ in seed, filters and constraints can be merged, and a
third with smaller sketches cannot. -/
theorem mergeInPlace_wholeOrNothing_pairRows :
    ∃ (a b c : Aggregator) (p q r : PartialAggregation Float),
      Aggregator.build [.notNull "m"] ["n", "m", "n"] [.isNotNull "n"] .standard = .ok a ∧
        Aggregator.build [] ["n", "m"] [] { AggregatorConfig.standard with sketchSeed := 7 } =
          .ok b ∧
        Aggregator.build [] ["n", "m"] [] { AggregatorConfig.standard with sketchCapacity := 8 } =
          .ok c ∧
        a.runPartial (.ofRecords Aggregator.pairSchema Aggregator.pairRows) = .finished p ∧
        b.runPartial (.ofRecords Aggregator.pairSchema Aggregator.pairRows) = .finished q ∧
        c.runPartial (.ofRecords Aggregator.pairSchema Aggregator.pairRows) = .finished r ∧
        (q.mergeInPlace p).1 = .ok () ∧ (q.mergeInPlace p).2.recordsRead = 8 ∧
        (r.mergeInPlace p).1 ≠ .ok () ∧ (r.mergeInPlace p).2 = p := by
  obtain ⟨a, ha⟩ :
      ∃ a, Aggregator.build [.notNull "m"] ["n", "m", "n"] [.isNotNull "n"] .standard = .ok a :=
    ⟨_, rfl⟩
  obtain ⟨b, hb⟩ : ∃ b, Aggregator.build [] ["n", "m"] []
      { AggregatorConfig.standard with sketchSeed := 7 } = .ok b := ⟨_, rfl⟩
  obtain ⟨c, hc⟩ : ∃ c, Aggregator.build [] ["n", "m"] []
      { AggregatorConfig.standard with sketchCapacity := 8 } = .ok c := ⟨_, rfl⟩
  have hrun : ∀ d : Aggregator, d.bind Aggregator.pairSchema = .ok () →
      d.runPartial (.ofRecords Aggregator.pairSchema Aggregator.pairRows) =
        .finished (d.reached Aggregator.pairRows : PartialAggregation Float) := fun d hbind =>
    d.runPartial_of_delivers hbind (delivers_ofRecords _ _ _)
  have hp := hrun a (by obtain rfl := Except.ok.inj ha; rfl)
  have hq := hrun b (by obtain rfl := Except.ok.inj hb; rfl)
  have hr := hrun c (by obtain rfl := Except.ok.inj hc; rfl)
  have hpq := mergeInPlace_wholeOrNothing (.run hp) (.run hq)
  have hpr := mergeInPlace_wholeOrNothing (.run hp) (.run hr)
  obtain ⟨hcolumnsa, -, hconfiga⟩ := Aggregator.of_build ha
  obtain ⟨hcolumnsb, -, hconfigb⟩ := Aggregator.of_build hb
  obtain ⟨-, -, hconfigc⟩ := Aggregator.of_build hc
  have hcolumns : (a.reached Aggregator.pairRows : PartialAggregation Float).columns =
      ["n", "m"] := (BegunBy.run hp).configured.columns.trans hcolumnsa
  have hsucceeds := hpq.succeeds_iff.mpr (by
    rw [hcolumns, (BegunBy.run hq).configured.columns, hcolumnsb, hconfiga, hconfigb]
    exact ⟨rfl, fun _ => ⟨rfl, rfl⟩⟩)
  have hfails := mt hpr.succeeds_iff.mp (by
    rw [hcolumns, hconfiga, hconfigc]
    exact fun h => absurd (h.2 (List.cons_ne_nil _ _)).capacity (by decide))
  refine ⟨a, b, c, _, _, _, ha, hb, hc, hp, hq, hr, hsucceeds, ?_, hfails, ?_⟩
  · rw [(hpq.success hsucceeds).2.1]
    rfl
  · cases hresult : ((c.reached Aggregator.pairRows).mergeInPlace
        (a.reached Aggregator.pairRows : PartialAggregation Float)).1 with
    | ok u => exact absurd hresult hfails
    | error e => exact (hpr.failure hresult).1

end PartialAggregation

end RecordAudit
