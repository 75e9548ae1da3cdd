import RecordAudit.Proofs.Aggregation.SinglePass
import RecordAudit.Proofs.Constraint.Reindexing

/-!
# Runs over the parts of a stream

A stream may be cut into parts, each of which is read by a run of its own; then
the states of these runs are merged.  `Shards` is a bracketing of the parts, and
`runShards` runs and merges along it.

* `outcomesFrom_append` and `map_offset_outcomesFrom` say how outcomes of a part
  become those of the whole.
* `Summarizes` is the invariant: all that a state says of the records is right,
  up to the moments of its tallies, of which any compositional fact may be taken.
  `summarizes_reached` gives it for a run, `Summarizes.merge` for a merge, and
  `exists_runShards` for a bracketing.
* `Report.Agrees` compares two reports.  `Summarizes.agrees` says that states
  that summarize the same records finish with such reports.
-/

namespace RecordAudit

/-- The parts of a stream in their order, as they are bracketed when their
states are merged. -/
inductive Shards (ρ : Type) where
  | shard (s : RecordStream ρ)
  | join (left right : Shards ρ)

namespace Aggregator

variable {ρ : Type} [Record ρ]

/-! ## Outcomes of the parts -/

theorem addUnreadColumns_reindexed (i j : Nat) (r : ρ) (vs : List Violation)
    (columns : List String) :
    addUnreadColumns j r (vs.map (·.reindexed j)) columns =
      (addUnreadColumns i r vs columns).map (·.reindexed j) := by
  refine List.foldl_hom _ fun vs c => ?_
  cases Record.get r c with
  | ok v => rfl
  | error e => exact FieldConstraint.addReadViolation_reindexed i j vs c e.message

theorem violationsAfter_reindexed (a : Aggregator) (i j : Nat) (r : ρ) (vs : List Violation) :
    a.violationsAfter j r (vs.map (·.reindexed j)) =
      (a.violationsAfter i r vs).map (·.reindexed j) := by
  rw [violationsAfter, FieldConstraint.validateInto_reindexed i j, addUnreadColumns_reindexed i j,
    violationsAfter]

/-- At another place a record has the same violations, with that place in them. -/
theorem violationsAt_reindexed (a : Aggregator) (i j : Nat) (r : ρ) :
    a.violationsAt j r = (a.violationsAt i r).map (·.reindexed j) := by
  rw [violationsAt, violationsAt, violations?, violations?]
  cases RecordFilter.allAccept r a.filters with
  | error e => exact a.violationsAfter_reindexed i j r [⟨i, e.field, .recordRead, e.message⟩]
  | ok passes =>
    cases passes with
    | false => rfl
    | true => exact a.violationsAfter_reindexed i j r []

theorem outcomesFrom_append (a : Aggregator) (first : Nat) (xs ys : List ρ) :
    a.outcomesFrom first (xs ++ ys) =
      a.outcomesFrom first xs ++ a.outcomesFrom (first + xs.length) ys := by
  rw [outcomesFrom, List.zipIdx_append, List.filter_append, List.map_append]
  rfl

/-- Outcomes are moved on by as many places as records came before. -/
theorem map_offset_outcomesFrom (a : Aggregator) (places first : Nat) (rs : List ρ) :
    (a.outcomesFrom first rs).map (·.offset places) = a.outcomesFrom (first + places) rs := by
  induction rs generalizing first with
  | nil => rfl
  | cons r rest ih =>
    rw [outcomesFrom_cons, outcomesFrom_cons, List.map_append, ih, Nat.add_right_comm]
    split
    · rw [List.map_singleton, Outcome.offset, ← violationsAt_reindexed]
    · rfl

theorem keptCells_append (a : Aggregator) (xs ys : List ρ) (column : String) :
    a.keptCells (xs ++ ys) column = a.keptCells xs column ++ a.keptCells ys column := by
  rw [keptCells, List.filter_append, cells, List.filterMap_append]
  rfl

/-! ## What a state says of some records -/

variable {α : Type} [Arithmetic α] {I : Moments α → List Float → Prop}

/-- A state that says of some records what there is to say: their outcomes, how
many there are and how many of them were not kept, and for each column a tally
that has seen the cells of those that were. -/
structure Summarizes (I : Moments α → List Float → Prop) (a : Aggregator)
    (p : PartialAggregation α) (rs : List ρ) : Prop where
  outcomes : p.outcomes = a.outcomesFrom 0 rs
  filtered : p.filtered = rs.countP fun r => !RecordFilter.keeps a.filters r
  recordsRead : p.recordsRead = rs.length
  tallies : List.Forall₂
    (fun t c => t.HasSeen I c a.config.sketchOptions (a.keptCells rs c)) p.tallies a.statColumns

theorem summarizes_reached (hI : Moments.Compositional I) (a : Aggregator) (rs : List ρ) :
    a.Summarizes I (a.reached rs) rs where
  outcomes := List.nil_append _
  filtered := Nat.zero_add _
  recordsRead := Nat.zero_add _
  tallies := by
    rw [tallies_reached, List.forall₂_map_left_iff, List.forall₂_same]
    intro c _
    have hfresh := Tally.hasSeen_new hI (a.new_eq_freshTally c)
    exact hfresh.foldl_observeValue hI (a.keptCells rs c)

/-- Tallies of the same columns are merged one by one. -/
theorem exists_mergeTallies (hI : Moments.Compositional I) {options : SketchOptions}
    (hvalid : options.Valid) {us vs : String → List FieldValue} {columns : List String}
    {ps qs : List (Tally α)}
    (hp : List.Forall₂ (fun t c => t.HasSeen I c options (us c)) ps columns)
    (hq : List.Forall₂ (fun t c => t.HasSeen I c options (vs c)) qs columns) :
    ∃ ts, PartialAggregation.mergeTallies ps qs = .ok ts ∧
      List.Forall₂ (fun t c => t.HasSeen I c options (us c ++ vs c)) ts columns := by
  induction hp generalizing qs with
  | nil => exact ⟨[], by cases hq; rfl, .nil⟩
  | cons hhead _ ih =>
    cases hq with
    | cons hhead' htail' =>
      obtain ⟨t, ht⟩ := hhead.exists_merge hhead' hvalid
      obtain ⟨ts, hts, hall⟩ := ih htail'
      refine ⟨t :: ts, ?_, .cons (hhead.merge hI hhead' ht) hall⟩
      rw [PartialAggregation.mergeTallies, ht, hts]
      rfl

omit [Arithmetic α] in
theorem Summarizes.columns {a : Aggregator} {p : PartialAggregation α} {rs : List ρ}
    (h : a.Summarizes I p rs) : p.columns = a.statColumns := by
  rw [PartialAggregation.columns, ← List.forall₂_eq_eq_eq, List.forall₂_map_left_iff]
  exact h.tallies.imp fun _ _ hseen => hseen.column

/-- States over two parts can be merged, and the result is one over both. -/
theorem Summarizes.merge (hI : Moments.Compositional I) {a : Aggregator}
    {p q : PartialAggregation α} {xs ys : List ρ} (hp : a.Summarizes I p xs)
    (hq : a.Summarizes I q ys) :
    ∃ m, p.merge q = .ok m ∧ a.Summarizes I m (xs ++ ys) := by
  obtain ⟨ts, hts, hall⟩ :=
    exists_mergeTallies hI (valid_of_validate a.checked) hp.tallies hq.tallies
  have hcolumns : ¬p.columns ≠ q.columns := not_not.mpr (hp.columns.trans hq.columns.symm)
  refine ⟨_, by rw [PartialAggregation.merge, if_neg hcolumns, hts], ?_, ?_, ?_, ?_⟩
  -- The places are moved on by all records that were read, not by the outcomes.
  · rw [outcomesFrom_append, hp.outcomes, hq.outcomes, hp.recordsRead, map_offset_outcomesFrom]
  · rw [List.countP_append, hp.filtered, hq.filtered]
  · rw [List.length_append, hp.recordsRead, hq.recordsRead]
  · simpa only [keptCells_append] using hall

/-! ## Runs along a bracketing -/

/-- Runs over each part, and merges the states as they are bracketed. -/
def runShards (a : Aggregator) : Shards ρ → Ending (PartialAggregation α)
  | .shard s => a.runPartial s
  | .join left right =>
    match runShards a left, runShards a right with
    | .finished p, .finished q =>
      match p.merge q with
      | .ok m => .finished m
      | .error fault => .failed (.stateMerge fault)
    | .finished _, ending => ending
    | ending, _ => ending

/-- The parts deliver some records, each from a schema that has the fields that
a run looks at.  A part may well deliver none. -/
inductive Covers (a : Aggregator) : Shards ρ → List ρ → Prop
  | shard {s : RecordStream ρ} {rs : List ρ} (hbind : a.bind s.schema = .ok ())
      (hs : Delivers a.config.recordTimeout s.polls rs) : Covers a (.shard s) rs
  | join {left right : Shards ρ} {xs ys : List ρ} (hleft : Covers a left xs)
      (hright : Covers a right ys) : Covers a (.join left right) (xs ++ ys)

/-- Whatever the bracketing, the runs finish, and no merge fails. -/
theorem exists_runShards (hI : Moments.Compositional I) {a : Aggregator} {shards : Shards ρ}
    {rs : List ρ} (h : a.Covers shards rs) :
    ∃ p, a.runShards shards = .finished p ∧ a.Summarizes I p rs := by
  induction h with
  | shard hbind hs =>
    exact ⟨_, a.runPartial_of_delivers hbind hs, summarizes_reached hI a _⟩
  | join _ _ ihleft ihright =>
    obtain ⟨p, hp, hsump⟩ := ihleft
    obtain ⟨q, hq, hsumq⟩ := ihright
    obtain ⟨m, hm, hsum⟩ := hsump.merge hI hsumq
    refine ⟨m, ?_, hsum⟩
    rw [runShards, hp, hq]
    simp only [hm]

end Aggregator

/-! ## Reports that agree -/

/-- Two reports with equal outcomes and counts and the same columns, of which
the statistics are related. -/
structure Report.Agrees {α : Type} (rel : ColumnStats α → ColumnStats α → Prop)
    (r q : Report α) : Prop where
  outcomes : r.outcomes = q.outcomes
  total : r.total = q.total
  valid : r.valid = q.valid
  invalid : r.invalid = q.invalid
  filtered : r.filtered = q.filtered
  names : r.columns.map Prod.fst = q.columns.map Prod.fst
  columns : List.Forall₂ (Report.EntriesRelated rel) r.columns q.columns

namespace Aggregator

variable {ρ : Type} [Record ρ] {α : Type} [Arithmetic α] {I : Moments α → List Float → Prop}

theorem forall₂_stats {options : SketchOptions} {rel : ColumnStats α → ColumnStats α → Prop}
    (hrel : Tally.Determines I options rel) {vs : String → List FieldValue} {columns : List String}
    {ts us : List (Tally α)}
    (ht : List.Forall₂ (fun t c => t.HasSeen I c options (vs c)) ts columns)
    (hu : List.Forall₂ (fun t c => t.HasSeen I c options (vs c)) us columns) :
    List.Forall₂ (fun s t : ColumnStats α => s.column = t.column ∧ rel s t)
      (ts.map (·.stats)) (us.map (·.stats)) := by
  induction ht generalizing us with
  | nil =>
    cases hu
    exact .nil
  | cons hhead _ ih =>
    cases hu with
    | cons hhead' htail' =>
      exact .cons ⟨hhead.column.trans hhead'.column.symm, hrel hhead hhead'⟩ (ih htail')

/-- States over the same records finish with reports that agree. -/
theorem Summarizes.agrees {rel : ColumnStats α → ColumnStats α → Prop} {a : Aggregator}
    (hrel : Tally.Determines I a.config.sketchOptions rel) {p q : PartialAggregation α}
    {rs : List ρ} (hp : a.Summarizes I p rs) (hq : a.Summarizes I q rs) :
    p.finish.Agrees rel q.finish := by
  have houtcomes : p.finish.outcomes = q.finish.outcomes := hp.outcomes.trans hq.outcomes.symm
  have htotal : p.finish.total = q.finish.total := congrArg List.length houtcomes
  have hvalid : p.finish.valid = q.finish.valid := by rw [Report.valid, houtcomes, Report.valid]
  have hcolumns := Report.forall₂_assemble (forall₂_stats hrel hp.tallies hq.tallies)
    p.outcomes q.outcomes p.filtered q.filtered
  refine ⟨houtcomes, htotal, hvalid, ?_, hp.filtered.trans hq.filtered.symm, ?_, hcolumns⟩
  · rw [Report.invalid, htotal, hvalid, Report.invalid]
  · rw [← List.forall₂_eq_eq_eq, List.forall₂_map_left_iff, List.forall₂_map_right_iff]
    exact hcolumns.imp fun _ _ hentry => hentry.1

/-! ## Shards and a single pass -/

/-- However a stream is cut and the parts are bracketed, the report is that of
one run over the whole.  Doubles round the means and the variances; over
rational numbers these are the same, too. -/
theorem runShards_agrees_run (a : Aggregator) {shards : Shards ρ} {rs : List ρ}
    (hshards : a.Covers shards rs) {s : RecordStream ρ} (hbind : a.bind s.schema = .ok ())
    (hs : Delivers a.config.recordTimeout s.polls rs) :
    (∃ (p : PartialAggregation Float) (report : Report Float),
      a.runShards shards = .finished p ∧ a.run s = .finished report ∧
        p.finish.Agrees
          (ColumnStats.Concurs a.config.sketchCapacity fun x y => Double.eq x y = true) report) ∧
    ∃ (p : PartialAggregation Rat) (report : Report Rat),
      a.runShards shards = .finished p ∧ a.run s = .finished report ∧
        p.finish.Agrees (ColumnStats.ConcursExactly a.config.sketchCapacity) report := by
  constructor
  · obtain ⟨p, hp, hsum⟩ := exists_runShards (Moments.compositional_extremes (α := Float)) hshards
    have hwhole := summarizes_reached (Moments.compositional_extremes (α := Float)) a rs
    have hagrees := hsum.agrees (Tally.determines_concurs _) hwhole
    exact ⟨p, _, hp, a.run_of_delivers hbind hs, hagrees⟩
  · obtain ⟨p, hp, hsum⟩ := exists_runShards Moments.compositional_exact hshards
    have hwhole := summarizes_reached Moments.compositional_exact a rs
    have hagrees := hsum.agrees (Tally.determines_concursExactly _) hwhole
    exact ⟨p, _, hp, a.run_of_delivers hbind hs, hagrees⟩

/-- Three parts, the first of them without a record. -/
def pairShards : Shards Row :=
  .join (.shard (.ofRecords pairSchema []))
    (.join (.shard (.ofRecords pairSchema (pairRows.take 2)))
      (.shard (.ofRecords pairSchema (pairRows.drop 2))))

theorem runShards_agrees_run_pairRows :
    ∃ (a : Aggregator) (p : PartialAggregation Float) (report : Report Float),
      build [.notNull "m"] ["n", "m", "n"] [.isNotNull "n"] .standard = .ok a ∧
        a.runShards pairShards = .finished p ∧
        a.run (.ofRecords pairSchema pairRows) = .finished report ∧
        p.finish.outcomes = report.outcomes ∧
        p.finish.outcomes.map (·.recordIndex) = [0, 2, 3] := by
  obtain ⟨a, hbuild⟩ :
      ∃ a, build [.notNull "m"] ["n", "m", "n"] [.isNotNull "n"] .standard = .ok a := ⟨_, rfl⟩
  have hbind : a.bind pairSchema = .ok () := by
    obtain rfl := Except.ok.inj hbuild
    rfl
  have hshard : ∀ rs : List Row, a.Covers (.shard (.ofRecords pairSchema rs)) rs := fun rs =>
    .shard hbind (delivers_ofRecords _ pairSchema rs)
  have hcovers : a.Covers pairShards pairRows :=
    .join (hshard []) (.join (hshard (pairRows.take 2)) (hshard (pairRows.drop 2)))
  obtain ⟨⟨p, report, hp, hrun, hagrees⟩, _⟩ := a.runShards_agrees_run hcovers hbind
    (delivers_ofRecords _ pairSchema pairRows)
  refine ⟨a, p, report, hbuild, hp, hrun, hagrees.outcomes, ?_⟩
  rw [hagrees.outcomes]
  obtain rfl := Except.ok.inj hbuild
  obtain rfl := Ending.finished.inj hrun
  rfl

end Aggregator

end RecordAudit
