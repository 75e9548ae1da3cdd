import RecordAudit.Aggregation.Aggregator
import RecordAudit.Proofs.Report.Columns
import RecordAudit.Proofs.Stats.Accumulator
import RecordAudit.Record.Row

/-!
# What a run comes to

A run takes a record through the filters, the constraints and all columns before
it looks at the next one.  `after` says the same column by column: the state of
a run is given by the list of the records that it has read.

* `Delivers` relates the polls of a stream to the records that a run reads.
* `after_absorb` is the step, one record, and `drive_of_delivers` is the run.
* `runPartial_of_delivers` starts a run at the empty tallies, which there are
  because the settings of an aggregator are checked.
* `ReadsColumnwise` is what a report says of the records: its outcomes are those
  of the records that were kept, and each of its columns is what an accumulator
  reports that was fed the cells of that column alone.
-/

namespace RecordAudit

variable {ρ : Type}

/-- The records that a run with a limit of its waits reads.  The stream ends,
nobody cancels, no item fails, and no wait lasts too long. -/
inductive Delivers (limit : Option Duration) : List (Poll ρ) → List ρ → Prop
  | ended (expired : Bool) (rest : List (Poll ρ)) :
      Delivers limit (⟨false, .ended, expired⟩ :: rest) []
  | ready (r : ρ) (expired : Bool) {rest : List (Poll ρ)} {rs : List ρ}
      (h : Delivers limit rest rs) : Delivers limit (⟨false, .ready r, expired⟩ :: rest) (r :: rs)
  | pending {expired : Bool} {rest : List (Poll ρ)} {rs : List ρ}
      (hwait : expired = true → limit = none) (h : Delivers limit rest rs) :
      Delivers limit (⟨false, .pending, expired⟩ :: rest) rs

/-- Streams of records that are there at once deliver them. -/
theorem delivers_ofRecords (limit : Option Duration) (schema : Schema) (rs : List ρ) :
    Delivers limit (RecordStream.ofRecords schema rs).polls rs := by
  induction rs with
  | nil => exact .ended false []
  | cons r rest ih => exact .ready r false ih

section Kept

variable [Record ρ]

/-- Whether a record is kept: it passes all filters, or a filter could not read
its field. -/
def RecordFilter.keeps (filters : List RecordFilter) (r : ρ) : Bool :=
  decide (allAccept r filters ≠ .ok false)

/-- The values of a column, of all records where it can be read. -/
def cells (column : String) (rs : List ρ) : List FieldValue :=
  rs.filterMap fun r => (Record.get r column).toOption

end Kept

namespace Aggregator

variable [Record ρ]

/-! ## Outcomes -/

/-- The violations of a record, if it is kept. -/
def violationsAt (a : Aggregator) (index : Nat) (r : ρ) : List Violation :=
  (a.violations? index r).getD []

theorem violations?_eq (a : Aggregator) (index : Nat) (r : ρ) :
    a.violations? index r =
      if RecordFilter.keeps a.filters r then some (a.violationsAt index r) else none := by
  rw [violationsAt, violations?, RecordFilter.keeps]
  cases RecordFilter.allAccept r a.filters with
  | error e => rfl
  | ok passes => cases passes <;> rfl

/-- The outcomes of the records that are kept, in order.  Their places count all
records, those that are not kept included. -/
def outcomesFrom (a : Aggregator) (first : Nat) (rs : List ρ) : List Outcome :=
  ((rs.zipIdx first).filter fun x => RecordFilter.keeps a.filters x.1).map fun x =>
    ⟨x.2, a.violationsAt x.2 x.1⟩

theorem outcomesFrom_cons (a : Aggregator) (first : Nat) (r : ρ) (rs : List ρ) :
    a.outcomesFrom first (r :: rs) =
      (if RecordFilter.keeps a.filters r then [⟨first, a.violationsAt first r⟩] else []) ++
        a.outcomesFrom (first + 1) rs := by
  rw [outcomesFrom, outcomesFrom, List.zipIdx_cons, List.filter_cons]
  split <;> simp

theorem map_recordIndex_outcomesFrom (a : Aggregator) (first : Nat) (rs : List ρ) :
    (a.outcomesFrom first rs).map (·.recordIndex) =
      ((rs.zipIdx first).filter fun x => RecordFilter.keeps a.filters x.1).map Prod.snd := by
  rw [outcomesFrom, List.map_map]
  rfl

/-- A record is kept iff there is an outcome at its place. -/
theorem mem_map_recordIndex_iff {a : Aggregator} {rs : List ρ} {r : ρ} {i : Nat}
    (hplace : rs[i]? = some r) :
    i ∈ (a.outcomesFrom 0 rs).map (·.recordIndex) ↔ RecordFilter.keeps a.filters r = true := by
  rw [map_recordIndex_outcomesFrom, List.mem_map]
  constructor
  · rintro ⟨⟨r', i⟩, hx, rfl⟩
    obtain ⟨hx, hkeeps⟩ := List.mem_filter.mp hx
    rw [List.mk_mem_zipIdx_iff_getElem?] at hx
    obtain rfl := Option.some.inj (hplace.symm.trans hx)
    exact hkeeps
  · intro hkeeps
    exact ⟨(r, i), List.mem_filter.mpr ⟨List.mk_mem_zipIdx_iff_getElem?.mpr hplace, hkeeps⟩, rfl⟩

/-! ## The state after some records -/

variable {α : Type} [Arithmetic α]

theorem column_feed (r : ρ) (t : Tally α) : (feed r t).column = t.column := by
  rw [feed]
  cases Record.get r t.column with
  | error e => rfl
  | ok v => exact t.column_observeValue v

theorem columns_absorb (p : PartialAggregation α) (r : ρ) (vs : Option (List Violation)) :
    (absorb p r vs).columns = p.columns := by
  cases vs with
  | none => rfl
  | some vs => simp [absorb, PartialAggregation.columns, Function.comp_def, column_feed]

theorem foldl_cells_feed (r : ρ) (rs : List ρ) (t : Tally α) :
    (cells (feed r t).column rs).foldl Tally.observeValue (feed r t) =
      (cells t.column (r :: rs)).foldl Tally.observeValue t := by
  rw [column_feed, feed, cells, cells, List.filterMap_cons]
  cases Record.get r t.column with
  | error e => rfl
  | ok v => rfl

/-- The values of a column that a run takes in: those of the records that are kept. -/
def keptCells (a : Aggregator) (rs : List ρ) (column : String) : List FieldValue :=
  cells column (rs.filter (RecordFilter.keeps a.filters))

/-- The state of a run that has gone on from another state over some records. -/
def after (a : Aggregator) (p : PartialAggregation α) (rs : List ρ) : PartialAggregation α where
  outcomes := p.outcomes ++ a.outcomesFrom p.recordsRead rs
  tallies := p.tallies.map fun t => (a.keptCells rs t.column).foldl Tally.observeValue t
  filtered := p.filtered + rs.countP fun r => !RecordFilter.keeps a.filters r
  recordsRead := p.recordsRead + rs.length

theorem after_nil (a : Aggregator) (p : PartialAggregation α) : a.after p ([] : List ρ) = p := by
  simp [after, outcomesFrom, keptCells, cells]

/-- One record: the columns take turns, or the filters set it aside. -/
theorem after_absorb (a : Aggregator) (p : PartialAggregation α) (r : ρ) (rs : List ρ) :
    a.after (absorb p r (a.violations? p.recordsRead r)) rs = a.after p (r :: rs) := by
  rw [violations?_eq]
  cases hkeeps : RecordFilter.keeps a.filters r with
  | false =>
    simp only [absorb, after, outcomesFrom_cons, keptCells, hkeeps, List.filter_cons,
      List.countP_cons, List.length_cons, Bool.false_eq_true, if_false, Bool.not_false, if_true,
      List.nil_append]
    congr 1 <;> omega
  | true =>
    simp only [absorb, after, outcomesFrom_cons, keptCells, hkeeps, List.filter_cons,
      List.countP_cons, List.length_cons, if_true, Bool.not_true, Bool.false_eq_true, if_false,
      List.append_assoc, List.map_map, Function.comp_def, foldl_cells_feed]
    congr 1
    omega

/-- A poll that finds a record. -/
theorem drive_ready (a : Aggregator) (p : PartialAggregation α) (r : ρ) (expired : Bool)
    (rest : List (Poll ρ)) :
    a.drive p (⟨false, .ready r, expired⟩ :: rest) =
      let vs := a.violations? p.recordsRead r
      let q := a.drive (absorb p r vs) rest
      (q.1, recordEvents a.config.log p.recordsRead vs ++ q.2) :=
  rfl

/-- A poll that lets a run wait changes nothing. -/
theorem drive_idle (a : Aggregator) (p : PartialAggregation α) {expired : Bool}
    (hwait : expired = true → a.config.recordTimeout = none) (rest : List (Poll ρ)) :
    a.drive p (⟨false, .pending, expired⟩ :: rest) = a.drive p rest := by
  rw [drive]
  cases expired with
  | false => rfl
  | true => simp only [hwait rfl, Bool.false_eq_true, if_false]

/-- A run reads all that the stream delivers. -/
theorem drive_of_delivers (a : Aggregator) {polls : List (Poll ρ)} {rs : List ρ}
    (h : Delivers a.config.recordTimeout polls rs) (p : PartialAggregation α) :
    (a.drive p polls).1 = .finished (a.after p rs) := by
  induction h generalizing p with
  | ended expired rest =>
    rw [after_nil]
    rfl
  | ready r expired _ ih =>
    rw [← after_absorb]
    exact ih _
  | pending hwait _ ih =>
    rw [a.drive_idle p hwait]
    exact ih p

/-! ## Built aggregators -/

theorem valid_of_validate {config : AggregatorConfig} (h : config.validate = .ok ()) :
    config.sketchOptions.Valid := by
  rw [AggregatorConfig.validate] at h
  split at h
  · cases h
  · next hroom =>
    split at h
    · cases h
    · next hnone =>
      refine ⟨Nat.pos_of_ne_zero hroom, ?_⟩
      simpa [AggregatorConfig.sketchOptions] using hnone

theorem of_build {constraints : List FieldConstraint} {columns : List String}
    {filters : List RecordFilter} {config : AggregatorConfig} {a : Aggregator}
    (h : build constraints columns filters config = .ok a) :
    a.statColumns = onlyFirst columns ∧ a.filters = filters ∧ a.config = config := by
  rw [build] at h
  split at h
  · obtain rfl := Except.ok.inj h
    exact ⟨rfl, rfl, rfl⟩
  · cases h

theorem mem_foldl_onlyFirst (columns kept : List String) (c : String) :
    c ∈ columns.foldl (fun kept c => if kept.contains c then kept else kept ++ [c]) kept ↔
      c ∈ kept ∨ c ∈ columns := by
  induction columns generalizing kept with
  | nil => simp
  | cons d rest ih =>
    rw [List.foldl_cons, ih]
    split
    · next hd =>
      have hmem : d ∈ kept := by simpa using hd
      constructor
      · rintro (hkept | hrest)
        · exact .inl hkept
        · exact .inr (List.mem_cons_of_mem d hrest)
      · rintro (hkept | hcons)
        · exact .inl hkept
        · rcases List.mem_cons.mp hcons with rfl | hrest
          · exact .inl hmem
          · exact .inr hrest
    · simp [or_assoc]

theorem mem_onlyFirst {columns : List String} {c : String} :
    c ∈ onlyFirst columns ↔ c ∈ columns := by
  rw [onlyFirst, mem_foldl_onlyFirst]
  simp

/-! ## The run -/

/-- The tally that a run starts a column with. -/
def freshTally (a : Aggregator) (column : String) : Tally α :=
  let options := a.config.sketchOptions
  .empty column (.empty options.capacity (valid_of_validate a.checked).room
    (Keystream.ofSeed options.seed)) options.percentiles

theorem new_eq_freshTally (a : Aggregator) (column : String) :
    Tally.new column a.config.sketchOptions = .ok (a.freshTally column : Tally α) :=
  Tally.new_eq_ok_iff.mpr ⟨valid_of_validate a.checked, rfl⟩

theorem tallies_eq (a : Aggregator) :
    (a.tallies : Except ConfigurationFault (List (Tally α))) =
      .ok (a.statColumns.map a.freshTally) := by
  rw [tallies]
  simp only [new_eq_freshTally]
  exact List.mapM_pure

theorem columns_start (a : Aggregator) :
    (PartialAggregation.start (a.statColumns.map (a.freshTally (α := α)))).columns =
      a.statColumns := by
  simp [PartialAggregation.columns, PartialAggregation.start, freshTally, Tally.empty,
    Function.comp_def]

/-- The state of a run that has read some records. -/
def reached (a : Aggregator) (rs : List ρ) : PartialAggregation α :=
  a.after (.start (a.statColumns.map a.freshTally)) rs

theorem recordsRead_reached (a : Aggregator) (rs : List ρ) :
    (a.reached rs : PartialAggregation α).recordsRead = rs.length :=
  Nat.zero_add _

theorem runPartial_of_delivers (a : Aggregator) {s : RecordStream ρ} {rs : List ρ}
    (hbind : a.bind s.schema = .ok ()) (hs : Delivers a.config.recordTimeout s.polls rs) :
    a.runPartial s = .finished (a.reached rs : PartialAggregation α) := by
  rw [runPartial, consume, hbind]
  simp only [tallies_eq]
  exact a.drive_of_delivers hs _

theorem run_of_delivers (a : Aggregator) {s : RecordStream ρ} {rs : List ρ}
    (hbind : a.bind s.schema = .ok ()) (hs : Delivers a.config.recordTimeout s.polls rs) :
    a.run s = .finished (a.reached rs : PartialAggregation α).finish := by
  rw [run, a.runPartial_of_delivers hbind hs]
  rfl

/-! ## The report -/

/-- The tally of a column after some records, which no other column has touched. -/
def columnTally (a : Aggregator) (rs : List ρ) (column : String) : Tally α :=
  (a.keptCells rs column).foldl Tally.observeValue (a.freshTally column)

theorem column_foldl_observeValue (vs : List FieldValue) (t : Tally α) :
    (vs.foldl Tally.observeValue t).column = t.column := by
  induction vs generalizing t with
  | nil => rfl
  | cons v rest ih => rw [List.foldl_cons, ih, Tally.column_observeValue]

@[simp] theorem column_stats_columnTally (a : Aggregator) (rs : List ρ) (column : String) :
    (a.columnTally rs column : Tally α).stats.column = column :=
  column_foldl_observeValue _ _

theorem tallies_reached (a : Aggregator) (rs : List ρ) :
    (a.reached rs : PartialAggregation α).tallies = a.statColumns.map (a.columnTally rs) := by
  simp only [reached, after, PartialAggregation.start, List.map_map]
  rfl

/-- The outcomes and the columns of a report, told apart: every column is what
an accumulator reports that was given the cells of that column only. -/
structure ReadsColumnwise (a : Aggregator) (columns : List String) (rs : List ρ)
    (report : Report α) : Prop where
  filtered : report.filtered = rs.countP fun r => !RecordFilter.keeps a.filters r
  outcomes : report.outcomes = a.outcomesFrom 0 rs
  isValid : ∀ o ∈ report.outcomes, o.isValid = true ↔ o.violations = []
  distinct : (report.columns.map Prod.fst).Nodup
  names : ∀ c, c ∈ report.columns.map Prod.fst ↔ c ∈ columns
  column : ∀ c ∈ columns, ∃ fresh last : Accumulator α,
    Accumulator.new c a.config.sketchOptions = .ok fresh ∧
      (a.keptCells rs c).foldlM Accumulator.observeValue fresh = .ok last ∧
      report.column? c = some last.finalize.1

theorem finish_reached (a : Aggregator) (rs : List ρ) :
    (a.reached rs : PartialAggregation α).finish =
      .assemble (a.outcomesFrom 0 rs) (a.statColumns.map fun c => (a.columnTally rs c).stats)
        (rs.countP fun r => !RecordFilter.keeps a.filters r) := by
  rw [PartialAggregation.finish, tallies_reached, List.map_map]
  simp only [reached, after, PartialAggregation.start, List.nil_append, Nat.zero_add,
    Function.comp_def]

theorem nodup_column_stats (a : Aggregator) (rs : List ρ) :
    ((a.statColumns.map fun c => (a.columnTally rs c : Tally α).stats).map (·.column)).Nodup := by
  simpa [Function.comp_def] using a.distinct

/-- Each column is found in the report with the statistics of its own tally. -/
theorem column?_finish_reached (a : Aggregator) (rs : List ρ) {column : String}
    (h : column ∈ a.statColumns) :
    (a.reached rs : PartialAggregation α).finish.column? column =
      some (a.columnTally rs column).stats := by
  have hmem : (a.columnTally rs column : Tally α).stats ∈
      a.statColumns.map fun c => (a.columnTally rs c).stats := List.mem_map_of_mem h
  have hfound := Report.column?_assemble (a.outcomesFrom 0 rs)
    (rs.countP fun r => !RecordFilter.keeps a.filters r) (a.nodup_column_stats rs) hmem
  rw [finish_reached]
  rwa [column_stats_columnTally] at hfound

/-- The report has one entry for each column. -/
theorem columns_finish_reached (a : Aggregator) (rs : List ρ) :
    ((a.reached rs : PartialAggregation α).finish.columns.map Prod.fst).Perm a.statColumns := by
  have hperm := Report.assemble_perm (a.outcomesFrom 0 rs)
    (rs.countP fun r => !RecordFilter.keeps a.filters r) (a.nodup_column_stats (α := α) rs)
  rw [← finish_reached] at hperm
  simpa [Function.comp_def] using hperm.map Prod.fst

theorem readsColumnwise_reached {constraints : List FieldConstraint} {columns : List String}
    {filters : List RecordFilter} {config : AggregatorConfig} {a : Aggregator}
    (hbuild : build constraints columns filters config = .ok a) (rs : List ρ) :
    a.ReadsColumnwise columns rs (a.reached rs : PartialAggregation α).finish := by
  have hnames := columns_finish_reached (α := α) a rs
  have hmem : ∀ c, c ∈ a.statColumns ↔ c ∈ columns := by
    rw [(of_build hbuild).1]
    exact fun c => mem_onlyFirst
  refine ⟨?_, ?_, fun o _ => List.isEmpty_iff, ?_, ?_, ?_⟩
  · rw [finish_reached]
    rfl
  · rw [finish_reached]
    rfl
  · exact hnames.nodup_iff.mpr a.distinct
  · exact fun c => hnames.mem_iff.trans (hmem c)
  · intro c hc
    refine ⟨⟨a.freshTally c, none⟩, ⟨a.columnTally rs c, none⟩, ?_, ?_, ?_⟩
    · exact Accumulator.new_eq_ok_iff.mpr ⟨_, a.new_eq_freshTally c, rfl⟩
    · exact Accumulator.foldlM_observeValue rfl _
    · exact column?_finish_reached a rs ((hmem c).mpr hc)

/-- A run over a stream that delivers some records finishes with the report
that reads them column by column.  What it says of a column is the same for any
constraints and any other columns, as long as the filters and the settings are. -/
theorem run_readsColumnwise {constraints : List FieldConstraint} {columns : List String}
    {filters : List RecordFilter} {config : AggregatorConfig} {a : Aggregator}
    (hbuild : build constraints columns filters config = .ok a) {s : RecordStream ρ}
    {rs : List ρ} (hbind : a.bind s.schema = .ok ())
    (hs : Delivers config.recordTimeout s.polls rs) :
    ∃ report : Report α, a.run s = .finished report ∧ a.ReadsColumnwise columns rs report ∧
      ∀ (constraints' : List FieldConstraint) (columns' : List String) (a' : Aggregator)
        (s' : RecordStream ρ), build constraints' columns' filters config = .ok a' →
        a'.bind s'.schema = .ok () → Delivers config.recordTimeout s'.polls rs →
        ∃ report' : Report α, a'.run s' = .finished report' ∧
          ∀ c ∈ columns, c ∈ columns' → report'.column? c = report.column? c := by
  obtain ⟨hstat, hfilters, hconfig⟩ := of_build hbuild
  refine ⟨_, a.run_of_delivers hbind (hconfig ▸ hs), readsColumnwise_reached hbuild rs, ?_⟩
  intro constraints' columns' a' s' hbuild' hbind' hs'
  obtain ⟨hstat', hfilters', hconfig'⟩ := of_build hbuild'
  refine ⟨_, a'.run_of_delivers hbind' (hconfig' ▸ hs'), ?_⟩
  intro c hc hc'
  rw [column?_finish_reached a' rs (by rw [hstat']; exact mem_onlyFirst.mpr hc'),
    column?_finish_reached a rs (by rw [hstat]; exact mem_onlyFirst.mpr hc)]
  have hfresh : (a'.freshTally c : Tally α) = a.freshTally c := by
    have hnew : Tally.new c a'.config.sketchOptions = .ok (a.freshTally c : Tally α) := by
      rw [hconfig', ← hconfig]
      exact a.new_eq_freshTally c
    exact Except.ok.inj ((a'.new_eq_freshTally c).symm.trans hnew)
  rw [columnTally, columnTally, hfresh, keptCells, keptCells, hfilters, hfilters']

/-- The schema of two columns of numbers. -/
def pairSchema : Schema := ⟨[⟨"n", .integer, true⟩, ⟨"m", .float, true⟩]⟩

/-- Rows of which the second has no `n`, the third has one that cannot be read,
and the last has no `m`. -/
def pairRows : List Row :=
  [.ofValues pairSchema [.integer 4, .float 1], .ofValues pairSchema [.null, .float 2],
    (Row.ofValues pairSchema [.integer 5, .float 3]).markUnreadable "n" "torn",
    .ofValues pairSchema [.integer 6]]

theorem run_readsColumnwise_pairRows :
    ∃ (a : Aggregator) (report : Report Float),
      build [.notNull "m"] ["n", "m", "n"] [.isNotNull "n"] .standard = .ok a ∧
        a.run (.ofRecords pairSchema pairRows) = .finished report ∧ report.filtered = 1 ∧
        report.outcomes.map (fun o => (o.recordIndex, o.isValid)) =
          [(0, true), (2, false), (3, false)] ∧
        (report.column? "n").map (·.count) = some 2 := by
  obtain ⟨a, hbuild⟩ :
      ∃ a, build [.notNull "m"] ["n", "m", "n"] [.isNotNull "n"] .standard = .ok a := ⟨_, rfl⟩
  have hbind : a.bind pairSchema = .ok () := by
    obtain rfl := Except.ok.inj hbuild
    rfl
  obtain ⟨report, hrun, hread, _⟩ := run_readsColumnwise (α := Float) hbuild hbind
    (delivers_ofRecords _ pairSchema pairRows)
  obtain ⟨fresh, last, hfresh, hlast, hcolumn⟩ := hread.column "n" (by simp)
  obtain rfl := Except.ok.inj hbuild
  obtain rfl := Except.ok.inj hfresh
  obtain rfl := Except.ok.inj hlast
  refine ⟨_, report, hbuild, hrun, ?_, ?_, ?_⟩
  · rw [hread.filtered]
    rfl
  · rw [hread.outcomes]
    rfl
  · rw [hcolumn]
    rfl

end Aggregator

end RecordAudit
