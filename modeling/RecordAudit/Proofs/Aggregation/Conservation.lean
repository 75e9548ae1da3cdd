import RecordAudit.Proofs.Aggregation.SinglePass
import RecordAudit.Proofs.Constraint.ReadViolations
import RecordAudit.Proofs.Constraint.Reindexing

/-!
# No record is lost

A state counts records in several places: those that were read, those that were
set aside, the outcomes, and for each column the values that its tally took in
or skipped.  `Conserves` says how these counts hang together, and that outcomes
stand in the order of their records.

* `conserves_start` and `conserves_absorb` are the start and one record;
  `drive_keeps` carries any fact of this form over a run.
* `Conserves.merge` is a merge, whose second part may come from any run.
* `Reachable` is any tree of runs and merges, and `reachable_conserves` is the
  result, with what the report of such a state says.

An accumulator is a tally as long as it is open.  A state keeps tallies, and
`Conserves.opened` says that each of them is the tally of an accumulator that
has only observed and merged, so that none has been finalized.
-/

namespace RecordAudit

open FieldConstraint (hasReadViolation)

/-! ## Counts of tallies -/

theorem Moments.count_merge {α : Type} [Arithmetic α] (a b : Moments α) :
    (a.merge b).count = a.count + b.count := by
  rw [Moments.merge]
  split
  · omega
  · split
    · omega
    · rfl

namespace Tally

variable {α : Type} [Arithmetic α]

/-- How many values a tally was given. -/
def given (t : Tally α) : Nat := t.moments.count + t.skipped

theorem given_observeValue (t : Tally α) (v : FieldValue) :
    (t.observeValue v).given = t.given + 1 := by
  unfold given
  cases h : v.finite? with
  | none =>
    rw [observeValue_of_none t h]
    simp only
    omega
  | some x =>
    rw [observeValue_of_some t h]
    simp only [Moments.observe]
    omega

theorem given_merge {a b c : Tally α} (h : a.merge b = .ok c) : c.given = a.given + b.given := by
  obtain ⟨_, _, s, _, rfl⟩ := merge_eq_ok_iff.mp h
  simp only [given, Moments.count_merge]
  omega

theorem column_merge {a b c : Tally α} (h : a.merge b = .ok c) :
    c.column = a.column ∧ c.column = b.column := by
  obtain ⟨hcolumn, _, s, _, rfl⟩ := merge_eq_ok_iff.mp h
  exact ⟨rfl, hcolumn⟩

end Tally

namespace PartialAggregation

variable {α : Type} [Arithmetic α]

/-! ## Merges of states -/

theorem merge_eq_ok_iff {p q m : PartialAggregation α} :
    p.merge q = .ok m ↔
      p.columns = q.columns ∧ ∃ ts, mergeTallies p.tallies q.tallies = .ok ts ∧
        m = { outcomes := p.outcomes ++ q.outcomes.map (·.offset p.recordsRead)
              tallies := ts
              filtered := p.filtered + q.filtered
              recordsRead := p.recordsRead + q.recordsRead } := by
  rw [merge]
  by_cases hcolumns : p.columns = q.columns
  · rw [if_neg (not_not.mpr hcolumns)]
    cases mergeTallies p.tallies q.tallies with
    | error fault => simp
    | ok ts => simp [hcolumns, eq_comm]
  · simp [hcolumns]

/-- Every merged tally comes from one of each side. -/
theorem mem_mergeTallies {as bs ts : List (Tally α)} (hlen : as.length = bs.length)
    (h : mergeTallies as bs = .ok ts) {t : Tally α} (ht : t ∈ ts) :
    ∃ a ∈ as, ∃ b ∈ bs, a.merge b = .ok t := by
  induction as generalizing bs ts with
  | nil =>
    cases bs with
    | nil =>
      obtain rfl := Except.ok.inj h
      simp at ht
    | cons b bs => simp at hlen
  | cons a as ih =>
    cases bs with
    | nil => simp at hlen
    | cons b bs =>
      rw [mergeTallies] at h
      cases hhead : a.merge b with
      | error fault => simp [hhead, bind, Except.bind] at h
      | ok t' =>
        cases htail : mergeTallies as bs with
        | error fault => simp [hhead, htail, bind, Except.bind] at h
        | ok ts' =>
          simp only [hhead, htail, bind, Except.bind] at h
          obtain rfl := Except.ok.inj h
          rcases List.mem_cons.mp ht with rfl | hrest
          · exact ⟨a, by simp, b, by simp, hhead⟩
          · obtain ⟨a', ha', b', hb', hmerge⟩ := ih (by simpa using hlen) htail hrest
            exact ⟨a', by simp [ha'], b', by simp [hb'], hmerge⟩

/-! ## Conservation -/

/-- How many outcomes tell that a column cannot be read. -/
def unread (p : PartialAggregation α) (column : String) : Nat :=
  p.outcomes.countP fun o => hasReadViolation o.violations column

omit [Arithmetic α] in
/-- At other places the outcomes tell of the same columns. -/
theorem countP_offset (p : PartialAggregation α) (places : Nat) (column : String) :
    (p.outcomes.map (·.offset places)).countP
        (fun o => hasReadViolation o.violations column) = p.unread column := by
  rw [List.countP_map, unread]
  refine List.countP_congr fun o _ => ?_
  rw [Function.comp_apply, Outcome.offset, FieldConstraint.hasReadViolation_reindexed]

/-- A state that accounts for each of its records. -/
structure Conserves (p : PartialAggregation α) : Prop where
  /-- Every record that was read has an outcome or was set aside. -/
  accounted : p.outcomes.length + p.filtered = p.recordsRead
  ascending : (p.outcomes.map (·.recordIndex)).Pairwise (· < ·)
  below : ∀ o ∈ p.outcomes, o.recordIndex < p.recordsRead
  /-- A violation is of the record of its outcome. -/
  placed : ∀ o ∈ p.outcomes, ∀ v ∈ o.violations, v.recordIndex = o.recordIndex
  /-- A column has taken in, skipped or not been able to read every outcome. -/
  counted : ∀ t ∈ p.tallies, t.moments.count + t.skipped + p.unread t.column = p.outcomes.length
  opened : ∀ t ∈ p.tallies, ∃ vs, Accumulator.Gathered ⟨t, none⟩ vs

/-- The state before the first record accounts for none. -/
theorem conserves_start {ts : List (Tally α)}
    (hfresh : ∀ t ∈ ts, Accumulator.Gathered ⟨t, none⟩ [] ∧ t.given = 0) :
    (start ts).Conserves where
  accounted := rfl
  ascending := .nil
  below := by simp [start]
  placed := by simp [start]
  counted t ht := (hfresh t ht).2
  opened t ht := ⟨[], (hfresh t ht).1⟩

namespace Conserves

variable {p q m : PartialAggregation α}

/-- A record that is set aside. -/
theorem absorb_none {ρ : Type} [Record ρ] (h : p.Conserves) (r : ρ) :
    (Aggregator.absorb p r none).Conserves where
  accounted := by
    have := h.accounted
    simp only [Aggregator.absorb]
    omega
  ascending := h.ascending
  below o ho := Nat.lt_succ_of_lt (h.below o ho)
  placed := h.placed
  counted := h.counted
  opened := h.opened

/-- A record that is kept, whose violations tell of the columns that it cannot give. -/
theorem absorb_some {ρ : Type} [Record ρ] (h : p.Conserves) (r : ρ) {vs : List Violation}
    (hplaced : ∀ v ∈ vs, v.recordIndex = p.recordsRead)
    (htold : ∀ c ∈ p.columns, hasReadViolation vs c = Record.unreadable r c) :
    (Aggregator.absorb p r (some vs)).Conserves where
  accounted := by
    have := h.accounted
    simp only [Aggregator.absorb, List.length_append, List.length_singleton]
    omega
  ascending := by
    simp only [Aggregator.absorb, List.map_append, List.map_singleton]
    refine List.pairwise_append.mpr ⟨h.ascending, List.pairwise_singleton _ _, ?_⟩
    intro i hi j hj
    obtain ⟨o, ho, rfl⟩ := List.mem_map.mp hi
    rw [List.mem_singleton.mp hj]
    exact h.below o ho
  below o ho := by
    rcases List.mem_append.mp ho with ho | ho
    · exact Nat.lt_succ_of_lt (h.below o ho)
    · rw [List.mem_singleton.mp ho]
      exact Nat.lt_succ_self _
  placed o ho := by
    rcases List.mem_append.mp ho with ho | ho
    · exact h.placed o ho
    · rw [List.mem_singleton.mp ho]
      exact hplaced
  counted t' ht' := by
    obtain ⟨t, ht, rfl⟩ := List.mem_map.mp ht'
    have hcounted := h.counted t ht
    have hcolumn := htold t.column (List.mem_map_of_mem ht)
    simp only [Aggregator.absorb, unread, Aggregator.column_feed, List.countP_append,
      List.countP_singleton, List.length_append, List.length_singleton, hcolumn]
    cases hget : Record.get r t.column with
    | ok v =>
      have hgiven := t.given_observeValue v
      rw [Record.unreadable_of_ok hget]
      simp only [Aggregator.feed, hget]
      simp only [Tally.given, unread] at hgiven hcounted
      simp
      omega
    | error e =>
      rw [Record.unreadable_of_error hget]
      simp only [Aggregator.feed, hget]
      simp only [unread] at hcounted
      simp
      omega
  opened t' ht' := by
    obtain ⟨t, ht, rfl⟩ := List.mem_map.mp ht'
    obtain ⟨vs, hgathered⟩ := h.opened t ht
    rw [Aggregator.feed]
    cases Record.get r t.column with
    | ok v => exact ⟨vs ++ [v], hgathered.observeValue v rfl⟩
    | error e => exact ⟨vs, hgathered⟩

/-- All places of the first part are below those that the second part is moved to. -/
theorem pairwise_append_offset (hp : p.Conserves) (hq : q.Conserves) :
    ((p.outcomes ++ q.outcomes.map (·.offset p.recordsRead)).map (·.recordIndex)).Pairwise
      (· < ·) := by
  rw [List.map_append, List.map_map]
  refine List.pairwise_append.mpr ⟨hp.ascending, ?_, ?_⟩
  · refine List.pairwise_map.mpr ((List.pairwise_map.mp hq.ascending).imp ?_)
    intro o o' hlt
    exact Nat.add_lt_add_right hlt _
  · intro i hi j hj
    obtain ⟨o, ho, rfl⟩ := List.mem_map.mp hi
    obtain ⟨o', _, rfl⟩ := List.mem_map.mp hj
    have := hp.below o ho
    simp only [Function.comp_apply, Outcome.offset]
    omega

/-- A merge adds up what both sides account for. -/
theorem merge (hp : p.Conserves) (hq : q.Conserves) (h : p.merge q = .ok m) : m.Conserves := by
  obtain ⟨hcolumns, ts, hts, rfl⟩ := merge_eq_ok_iff.mp h
  have hlen : p.tallies.length = q.tallies.length := by
    simpa [columns] using congrArg List.length hcolumns
  refine ⟨?_, hp.pairwise_append_offset hq, ?_, ?_, ?_, ?_⟩
  · have := hp.accounted
    have := hq.accounted
    simp only [List.length_append, List.length_map]
    omega
  · intro o ho
    rcases List.mem_append.mp ho with ho | ho
    · exact Nat.lt_add_right _ (hp.below o ho)
    · obtain ⟨o', ho', rfl⟩ := List.mem_map.mp ho
      have := hq.below o' ho'
      simp only [Outcome.offset]
      omega
  · intro o ho v hv
    rcases List.mem_append.mp ho with ho | ho
    · exact hp.placed o ho v hv
    · obtain ⟨o', _, rfl⟩ := List.mem_map.mp ho
      obtain ⟨v', _, rfl⟩ := List.mem_map.mp hv
      rfl
  · intro t ht
    obtain ⟨a, ha, b, hb, hmerge⟩ := mem_mergeTallies hlen hts ht
    obtain ⟨hcolumna, hcolumnb⟩ := Tally.column_merge hmerge
    have hgiven := Tally.given_merge hmerge
    have hcounta := hp.counted a ha
    have hcountb := hq.counted b hb
    have hmoved := q.countP_offset p.recordsRead t.column
    rw [← hcolumna] at hcounta
    rw [← hcolumnb] at hcountb
    simp only [unread, List.countP_append, List.length_append, List.length_map] at hmoved ⊢
    simp only [unread] at hcounta hcountb
    simp only [Tally.given] at hgiven
    omega
  · intro t ht
    obtain ⟨a, ha, b, hb, hmerge⟩ := mem_mergeTallies hlen hts ht
    obtain ⟨vs, hvs⟩ := hp.opened a ha
    obtain ⟨ws, hws⟩ := hq.opened b hb
    exact ⟨vs ++ ws, hvs.merge hws (Accumulator.merge_eq_ok_iff.mpr ⟨rfl, rfl, t, hmerge, rfl⟩)⟩

end Conserves

end PartialAggregation

/-! ## Runs and merges -/

namespace Aggregator

variable {ρ : Type} [Record ρ] {α : Type} [Arithmetic α]

/-- What each record keeps holds of the state that a run finishes with. -/
theorem drive_keeps (a : Aggregator) {P : PartialAggregation α → Prop}
    (hstep : ∀ p (r : ρ), P p → P (absorb p r (a.violations? p.recordsRead r)))
    {p q : PartialAggregation α} {polls : List (Poll ρ)} (hp : P p)
    (h : (a.drive p polls).1 = .finished q) : P q := by
  induction polls generalizing p with
  | nil => cases h
  | cons poll rest ih =>
    rw [drive] at h
    split at h
    · cases h
    · split at h
      · next r hr => exact ih (hstep p r hp) h
      · cases h
      · obtain rfl := Ending.finished.inj h
        exact hp
      · split at h
        · cases h
        · exact ih hp h

theorem conserves_absorb (hnames : Record.NamesField ρ) (a : Aggregator)
    {p : PartialAggregation α} (r : ρ) (hcolumns : p.columns = a.statColumns) (h : p.Conserves) :
    (absorb p r (a.violations? p.recordsRead r)).Conserves := by
  cases hvs : a.violations? p.recordsRead r with
  | none => exact h.absorb_none r
  | some vs =>
    refine h.absorb_some r (allAt_of_violations? hvs) fun c hc => ?_
    exact hasReadViolation_of_violations? (hnames r) hvs
      (List.mem_append_right _ (hcolumns ▸ hc))

/-- A tally that a run starts with is open and has been given nothing. -/
theorem gathered_freshTally (a : Aggregator) (column : String) :
    Accumulator.Gathered ⟨(a.freshTally column : Tally α), none⟩ [] :=
  .new (Accumulator.new_eq_ok_iff.mpr ⟨_, a.new_eq_freshTally column, rfl⟩)

theorem conserves_runPartial (hnames : Record.NamesField ρ) (a : Aggregator)
    {s : RecordStream ρ} {p : PartialAggregation α} (h : a.runPartial s = .finished p) :
    p.Conserves := by
  rw [runPartial, consume] at h
  cases hbind : a.bind s.schema with
  | error e => simp [hbind] at h
  | ok u =>
    simp only [hbind, tallies_eq] at h
    have hfresh : ∀ t ∈ a.statColumns.map (a.freshTally (α := α)),
        Accumulator.Gathered ⟨t, none⟩ [] ∧ t.given = 0 := by
      intro t ht
      obtain ⟨c, _, rfl⟩ := List.mem_map.mp ht
      exact ⟨a.gathered_freshTally c, rfl⟩
    have hkept := a.drive_keeps (P := fun p => p.columns = a.statColumns ∧ p.Conserves)
      (fun p r hp => ⟨(columns_absorb p r _).trans hp.1, a.conserves_absorb hnames r hp.1 hp.2⟩)
      ⟨a.columns_start, PartialAggregation.conserves_start hfresh⟩ h
    exact hkept.2

end Aggregator

namespace PartialAggregation

variable {α : Type} [Arithmetic α]

/-- The states of runs, each over records whose errors name their fields, and of
any merges that succeed.  The runs may be of different aggregators. -/
inductive Reachable : PartialAggregation α → Prop
  | run {ρ : Type} [Record ρ] (hnames : Record.NamesField ρ) (a : Aggregator)
      {s : RecordStream ρ} {p : PartialAggregation α} (h : a.runPartial s = .finished p) :
      Reachable p
  | merge {p q m : PartialAggregation α} (hp : Reachable p) (hq : Reachable q)
      (h : p.merge q = .ok m) : Reachable m

theorem Reachable.conserves {p : PartialAggregation α} (h : p.Reachable) : p.Conserves := by
  induction h with
  | run hnames a h => exact a.conserves_runPartial hnames h
  | merge _ _ h ihp ihq => exact ihp.merge ihq h

/-- Whatever runs and merges led to a state, it accounts for every record that
was read, and so does its report. -/
theorem reachable_conserves {p : PartialAggregation α} (h : p.Reachable) :
    p.Conserves ∧ (∀ o ∈ p.outcomes, o.isValid = false → o.violations ≠ []) ∧
      p.finish.outcomes = p.outcomes ∧ p.finish.total = p.outcomes.length ∧
      p.finish.total = p.finish.valid + p.finish.invalid ∧
      p.finish.invalid = p.finish.invalidOutcomes.length ∧
      (p.finish.isAllValid = true ↔ p.finish.violations = []) := by
  refine ⟨h.conserves, ?_, rfl, rfl, p.finish.valid_add_invalid.symm,
    p.finish.length_invalidOutcomes.symm, p.finish.isAllValid_iff⟩
  intro o _ hinvalid hnone
  rw [Outcome.isValid, hnone] at hinvalid
  cases hinvalid

/-- Two runs with the same columns, of which the first has a filter and a
constraint and the second has neither. -/
theorem reachable_conserves_pairRows :
    ∃ (a b : Aggregator) (p q m : PartialAggregation Float),
      Aggregator.build [.notNull "m"] ["n", "m", "n"] [.isNotNull "n"] .standard = .ok a ∧
        Aggregator.build [] ["n", "m"] [] .standard = .ok b ∧
        a.runPartial (.ofRecords Aggregator.pairSchema Aggregator.pairRows) = .finished p ∧
        b.runPartial (.ofRecords Aggregator.pairSchema Aggregator.pairRows) = .finished q ∧
        p.merge q = .ok m ∧ m.outcomes.map (·.recordIndex) = [0, 2, 3, 4, 5, 6, 7] ∧
        m.outcomes.length + m.filtered = m.recordsRead := by
  obtain ⟨a, ha⟩ :
      ∃ a, Aggregator.build [.notNull "m"] ["n", "m", "n"] [.isNotNull "n"] .standard = .ok a :=
    ⟨_, rfl⟩
  obtain ⟨b, hb⟩ : ∃ b, Aggregator.build [] ["n", "m"] [] .standard = .ok b := ⟨_, rfl⟩
  have hbinda : a.bind Aggregator.pairSchema = .ok () := by
    obtain rfl := Except.ok.inj ha
    rfl
  have hbindb : b.bind Aggregator.pairSchema = .ok () := by
    obtain rfl := Except.ok.inj hb
    rfl
  have hp := a.runPartial_of_delivers (α := Float) hbinda
    (delivers_ofRecords _ Aggregator.pairSchema Aggregator.pairRows)
  have hq := b.runPartial_of_delivers (α := Float) hbindb
    (delivers_ofRecords _ Aggregator.pairSchema Aggregator.pairRows)
  obtain ⟨m, hm, hindices⟩ : ∃ m : PartialAggregation Float,
      (a.reached Aggregator.pairRows).merge (b.reached Aggregator.pairRows) = .ok m ∧
        m.outcomes.map (·.recordIndex) = [0, 2, 3, 4, 5, 6, 7] := by
    obtain rfl := Except.ok.inj ha
    obtain rfl := Except.ok.inj hb
    exact ⟨_, rfl, rfl⟩
  have hconserves := (reachable_conserves
    (.merge (.run Row.namesField a hp) (.run Row.namesField b hq) hm)).1
  exact ⟨a, b, _, _, m, ha, hb, hp, hq, hm, hindices, hconserves.accounted⟩

end PartialAggregation

end RecordAudit
