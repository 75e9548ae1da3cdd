import RecordAudit.Proofs.Aggregation.ReferencedFields
import RecordAudit.Proofs.Record.Rows
import RecordAudit.Source.Columnar

/-!
# Rows of batches

A columnar source gives its records row by row and batch by batch.  How its rows
are cut into batches has no part in what a run makes of them.

* `Cursor` pulls one record after the other and keeps the batch and the row that
  come next.  `Cursor.remaining_of_pull` is one pull, and `Cursor.yields_iff`
  all of them: what is pulled are the records of the source.
* `places` lists batches and rows by number.  `pairwise_places` and `mem_places`
  say that each is there once, and in which order, and `forall₂_places` that
  the records are those of these places.
* `ColumnarRecord.readsColumns` is the column and the row that a name leads to.
* `ColumnarRecord.get_congr` forgets the batch of a row, and `consume_congr`
  the batches of a run.
-/

namespace RecordAudit

namespace Batch

theorem length_records (b : Batch) : b.records.length = b.rows := by
  simp [Batch.records]

theorem drop_records {b : Batch} {row : Nat} (h : row < b.rows) :
    b.records.drop row = ⟨b, row, h⟩ :: b.records.drop (row + 1) := by
  have hlt : row < b.records.length := by
    rw [length_records]
    exact h
  rw [List.drop_eq_getElem_cons hlt]
  simp [Batch.records]

end Batch

/-! ## Pulling records -/

/-- Where the records of some batches have been read up to. -/
structure Cursor where
  /-- The row of the first batch that comes next. -/
  row : Nat
  batches : List Batch

namespace Cursor

/-- The next record, if there is one.  A batch whose rows have all been read is left behind. -/
def pullFrom (row : Nat) : List Batch → Option (ColumnarRecord × Cursor)
  | [] => none
  | b :: rest =>
    if h : row < b.rows then some (⟨b, row, h⟩, ⟨row + 1, b :: rest⟩) else pullFrom 0 rest

/-- The next record, and the cursor behind it. -/
def pull (c : Cursor) : Option (ColumnarRecord × Cursor) := pullFrom c.row c.batches

/-- The records that are still to come. -/
def remaining (c : Cursor) : List ColumnarRecord :=
  match c.batches with
  | [] => []
  | b :: rest => b.records.drop c.row ++ rest.flatMap (·.records)

theorem remaining_zero (batches : List Batch) :
    (Cursor.mk 0 batches).remaining = batches.flatMap (·.records) := by
  cases batches <;> rfl

/-- A pull takes the first of the records that are still to come, and finds none only at the
end. -/
theorem remaining_of_pullFrom (row : Nat) (batches : List Batch) :
    (Cursor.mk row batches).remaining =
      match pullFrom row batches with
      | none => []
      | some (r, c) => r :: c.remaining := by
  induction batches generalizing row with
  | nil => rfl
  | cons b rest ih =>
    rw [pullFrom]
    by_cases h : row < b.rows
    · rw [dif_pos h]
      show b.records.drop row ++ _ = _ :: (b.records.drop (row + 1) ++ _)
      rw [Batch.drop_records h, List.cons_append]
    · have hdone : b.records.drop row = [] := by
        apply List.drop_eq_nil_of_le
        rw [Batch.length_records]
        omega
      rw [dif_neg h, ← ih 0, remaining_zero]
      show b.records.drop row ++ _ = _
      rw [hdone, List.nil_append]

theorem remaining_of_pull (c : Cursor) :
    c.remaining =
      match c.pull with
      | none => []
      | some (r, c') => r :: c'.remaining :=
  remaining_of_pullFrom c.row c.batches

/-- What a cursor yields, pull by pull, until it is at the end. -/
inductive Yields : Cursor → List ColumnarRecord → Prop
  | ended {c : Cursor} (h : c.pull = none) : Yields c []
  | next {c c' : Cursor} {r : ColumnarRecord} {rs : List ColumnarRecord}
      (h : c.pull = some (r, c')) (hrest : Yields c' rs) : Yields c (r :: rs)

theorem yields_iff {c : Cursor} {rs : List ColumnarRecord} : c.Yields rs ↔ rs = c.remaining := by
  constructor
  · intro h
    induction h with
    | ended h => rw [remaining_of_pull, h]
    | next h hrest ih => rw [remaining_of_pull, h, ih]
  · intro h
    induction rs generalizing c with
    | nil =>
      apply Yields.ended
      rw [remaining_of_pull] at h
      cases hpull : c.pull with
      | none => rfl
      | some p => rw [hpull] at h; cases h
    | cons r rs ih =>
      rw [remaining_of_pull] at h
      cases hpull : c.pull with
      | none => rw [hpull] at h; cases h
      | some p =>
        obtain ⟨q, c'⟩ := p
        rw [hpull] at h
        obtain ⟨rfl, hrest⟩ := List.cons.inj h
        exact .next hpull (ih hrest)

end Cursor

/-! ## Places of rows -/

namespace Batch

/-- The rows of some batches by the numbers of batch and row, the first batch having a given
number. -/
def places (first : Nat) : List Batch → List (Nat × Nat)
  | [] => []
  | b :: rest => (List.range b.rows).map (fun i => (first, i)) ++ places (first + 1) rest

theorem mem_places {first : Nat} {batches : List Batch} {k i : Nat} :
    (k, i) ∈ places first batches ↔
      first ≤ k ∧ ∃ b, batches[k - first]? = some b ∧ i < b.rows := by
  induction batches generalizing first with
  | nil => simp [places]
  | cons b rest ih =>
    rw [places, List.mem_append, ih]
    have hhead : (k, i) ∈ (List.range b.rows).map (fun i => (first, i)) ↔
        first = k ∧ i < b.rows := by
      simp
      omega
    rw [hhead]
    rcases Nat.lt_trichotomy k first with hlt | rfl | hgt
    · refine iff_of_false ?_ ?_ <;> omega
    · simp
    · have hplace : k - first = (k - (first + 1)) + 1 := by omega
      rw [hplace, List.getElem?_cons_succ]
      constructor
      · rintro (⟨rfl, -⟩ | ⟨-, h⟩)
        · omega
        · exact ⟨by omega, h⟩
      · rintro ⟨-, h⟩
        exact .inr ⟨hgt, h⟩

/-- Batch by batch, and row by row in each of them. -/
theorem pairwise_places (first : Nat) (batches : List Batch) :
    (places first batches).Pairwise (Prod.Lex (· < ·) (· < ·)) := by
  induction batches generalizing first with
  | nil => exact .nil
  | cons b rest ih =>
    rw [places, List.pairwise_append]
    refine ⟨?_, ih (first + 1), ?_⟩
    · rw [List.pairwise_map]
      exact List.pairwise_lt_range.imp fun h => .right first h
    · rintro ⟨j, i⟩ hhead ⟨k, l⟩ htail
      obtain ⟨n, -, hn⟩ := List.mem_map.mp hhead
      obtain ⟨rfl, rfl⟩ := Prod.mk.inj hn
      have hlater := (mem_places.mp htail).1
      exact .left _ _ (by omega)

/-- A record is the row of a batch at a place. -/
structure IsAt (batches : List Batch) (r : ColumnarRecord) (place : Nat × Nat) : Prop where
  batch : batches[place.1]? = some r.batch
  row : r.row.val = place.2

theorem forall₂_places (before batches : List Batch) :
    List.Forall₂ (IsAt (before ++ batches)) (batches.flatMap (·.records))
      (places before.length batches) := by
  induction batches generalizing before with
  | nil => exact .nil
  | cons b rest ih =>
    have hrest := ih (before ++ [b])
    rw [List.append_assoc, List.length_append] at hrest
    rw [List.flatMap_cons, places]
    refine List.rel_append ?_ hrest
    have hrows : List.range b.rows = (List.finRange b.rows).map (·.val) := by simp
    rw [hrows, List.map_map, records, List.forall₂_map_left_iff, List.forall₂_map_right_iff,
      List.forall₂_same]
    intro i _
    exact ⟨by simp, rfl⟩

/-- What a batch stores in a row, column by column. -/
def cellsAt (b : Batch) (row : Fin b.rows) : List (Option StoredValue) :=
  (List.finRange b.fields.length).map fun i => b.stored i row

end Batch

/-! ## Reading a row -/

namespace ColumnarRecord

/-- Reads a row of a column, which may have too few of them. -/
def readCell (type : ColumnType) (column : Array (Option StoredValue)) (row : Nat) :
    Except String FieldValue :=
  match column[row]? with
  | none => .error ("row " ++ toString row ++ " is out of bounds")
  | some cell => decodeCell type cell

theorem readCell_of_lt (type : ColumnType) {column : Array (Option StoredValue)} {row : Nat}
    (h : row < column.size) : readCell type column row = decodeCell type column[row] := by
  unfold readCell
  rw [Array.getElem?_eq_getElem h]

/-- How a record is read by the names of a schema: a name leads to the column at its first place,
which there is and which goes beyond the row of the record. -/
structure ReadsColumns (schema : Schema) (r : ColumnarRecord) : Prop where
  foreign : ∀ name, (∀ f ∈ schema.fields, f.name ≠ name) →
    r.get name = .error ⟨name, Row.foreignField⟩
  column : ∀ name i, schema.FirstAt name i → ∃ f column, r.batch.fields[i]? = some f ∧
    r.batch.columns[i]? = some column ∧ r.row.val < column.size ∧
    r.get name = (readCell f.type column r.row).mapError fun reason => ⟨name, reason⟩

theorem findFinIdx?_of_foreign {fields : List ColumnField} {name : String}
    (h : ∀ f ∈ (Schema.ofColumns fields).fields, f.name ≠ name) :
    fields.findFinIdx? (·.name == name) = none := by
  apply List.findFinIdx?_eq_none_iff.mpr
  intro f hf hname
  exact h _ (List.mem_map_of_mem hf) (eq_of_beq hname)

theorem findFinIdx?_of_firstAt {fields : List ColumnField} {name : String} {i : Nat}
    (h : (Schema.ofColumns fields).FirstAt name i) :
    ∃ hlt : i < fields.length, fields.findFinIdx? (·.name == name) = some ⟨i, hlt⟩ := by
  have hlt : i < fields.length := by
    have hsize := h.lt_size
    simpa [Schema.size, Schema.ofColumns] using hsize
  refine ⟨hlt, List.findFinIdx?_eq_some_iff.mpr ⟨?_, ?_⟩⟩
  · obtain ⟨f, hf, hname⟩ := h.here
    simp only [Schema.ofColumns, List.getElem?_map, List.getElem?_eq_getElem hlt, Option.map_some,
      Option.some.injEq] at hf
    subst hf
    exact beq_iff_eq.mpr hname
  · intro j hj hname
    have hfield : (Schema.ofColumns fields).fields[j.val]? =
        some ⟨fields[j].name, fields[j].type.fieldType, fields[j].nullable⟩ := by
      show (fields.map _)[j.val]? = _
      rw [List.getElem?_map, List.getElem?_eq_getElem j.isLt]
      rfl
    exact h.earlier j hj _ hfield (eq_of_beq hname)

theorem readsColumns (r : ColumnarRecord) : r.ReadsColumns (.ofColumns r.batch.fields) := by
  constructor
  · intro name hforeign
    unfold get
    rw [findFinIdx?_of_foreign hforeign]
  · intro name i hfirst
    obtain ⟨hlt, hplace⟩ := findFinIdx?_of_firstAt hfirst
    have hcolumn : i < r.batch.columns.length := by
      rw [r.batch.complete]
      exact hlt
    have hrow : r.row.val < r.batch.columns[i].size := by
      rw [r.batch.even _ (List.getElem_mem hcolumn)]
      exact r.row.isLt
    refine ⟨_, _, List.getElem?_eq_getElem hlt, List.getElem?_eq_getElem hcolumn, hrow, ?_⟩
    have hstored : r.batch.stored ⟨i, hlt⟩ r.row = r.batch.columns[i][r.row.val] := rfl
    rw [readCell_of_lt _ hrow, ← hstored]
    unfold get
    simp only [hplace, List.get_eq_getElem]
    cases decodeCell r.batch.fields[i].type (r.batch.stored ⟨i, hlt⟩ r.row) <;> rfl

/-- What a record stores, column by column. -/
def cells (r : ColumnarRecord) : List (Option StoredValue) := r.batch.cellsAt r.row

/-- A field gives the same in rows that store the same under the same fields. -/
theorem get_congr {r q : ColumnarRecord} (hfields : r.batch.fields = q.batch.fields)
    (hcells : r.cells = q.cells) : r.get = q.get := by
  obtain ⟨⟨fields, rows, columns, complete, even⟩, row⟩ := r
  obtain ⟨⟨fields', rows', columns', complete', even'⟩, row'⟩ := q
  obtain rfl : fields = fields' := hfields
  funext name
  have hstored := List.map_inj_left.mp hcells
  unfold get
  cases hplace : fields.findFinIdx? (·.name == name) with
  | none => rfl
  | some i => simp only [hstored i (List.mem_finRange i)]

end ColumnarRecord

namespace ColumnarSource

/-- The rows of some batches, with what they store. -/
def rowsOf (batches : List Batch) : List (List (Option StoredValue)) :=
  batches.flatMap fun b => (List.finRange b.rows).map b.cellsAt

theorem map_cells_records (s : ColumnarSource) : s.records.map (·.cells) = rowsOf s.batches := by
  unfold records rowsOf
  rw [List.map_flatMap]
  simp only [Batch.records, List.map_map]
  rfl

theorem fields_of_mem_records {s : ColumnarSource} {r : ColumnarRecord} (h : r ∈ s.records) :
    r.batch.fields = s.fields := by
  obtain ⟨b, hb, hr⟩ := List.mem_flatMap.mp h
  obtain ⟨i, -, rfl⟩ := List.mem_map.mp hr
  exact s.uniform b hb

/-- Records that store the same under the same fields, one by one. -/
theorem forall₂_get {fields : List ColumnField} {rs qs : List ColumnarRecord}
    (hrs : ∀ r ∈ rs, r.batch.fields = fields) (hqs : ∀ q ∈ qs, q.batch.fields = fields)
    (hcells : rs.map (·.cells) = qs.map (·.cells)) :
    List.Forall₂ (fun r q : ColumnarRecord => r.get = q.get) rs qs := by
  induction rs generalizing qs with
  | nil =>
    cases qs with
    | nil => exact .nil
    | cons q qs => cases hcells
  | cons r rs ih =>
    cases qs with
    | nil => cases hcells
    | cons q qs =>
      obtain ⟨hr, hrs⟩ := List.forall_mem_cons.mp hrs
      obtain ⟨hq, hqs⟩ := List.forall_mem_cons.mp hqs
      obtain ⟨hhead, htail⟩ := List.cons.inj hcells
      exact .cons (ColumnarRecord.get_congr (hr.trans hq.symm) hhead) (ih hrs hqs htail)

/-- Streams of records that give the same cannot be told apart. -/
theorem alike_ofRecords (limit : Option Duration) (names : List String) (schema : Schema)
    {rs qs : List ColumnarRecord}
    (h : List.Forall₂ (fun r q : ColumnarRecord => r.get = q.get) rs qs) :
    Alike limit names (RecordStream.ofRecords schema rs).polls
      (RecordStream.ofRecords schema qs).polls := by
  induction h with
  | nil => exact .ended false false [] []
  | cons hget _ ih => exact .ready false false (fun name _ => congrFun hget name) ih

variable {α : Type} [Arithmetic α]

/-- A run over the same rows under the same fields comes to the same, and logs the same. -/
theorem consume_congr {s t : ColumnarSource} (hfields : s.fields = t.fields)
    (hrows : rowsOf s.batches = rowsOf t.batches) (a : Aggregator) :
    (a.consume (RecordSource.stream s) : Ending (PartialAggregation α) × List Event) =
      a.consume (RecordSource.stream t) := by
  rw [← map_cells_records, ← map_cells_records] at hrows
  have hget := forall₂_get (fun r hr => (fields_of_mem_records hr).trans hfields)
    (fun q hq => fields_of_mem_records hq) hrows
  have hschema : (RecordSource.stream s).schema = (RecordSource.stream t).schema :=
    congrArg Schema.ofColumns hfields
  unfold Aggregator.consume
  rw [hschema, Aggregator.tallies_eq]
  cases a.bind (RecordSource.stream t).schema with
  | error e => rfl
  | ok u =>
    exact a.drive_alike (alike_ofRecords _ a.fields (.ofColumns t.fields) hget) a.columns_start

theorem runSource_congr {s t : ColumnarSource} (hfields : s.fields = t.fields)
    (hrows : rowsOf s.batches = rowsOf t.batches) (a : Aggregator) :
    (a.runSource s : Ending (Report α)) = a.runSource t := by
  unfold Aggregator.runSource Aggregator.run Aggregator.runPartial
  rw [consume_congr hfields hrows]

theorem runSourceLogged_congr {s t : ColumnarSource} (hfields : s.fields = t.fields)
    (hrows : rowsOf s.batches = rowsOf t.batches) (a : Aggregator) :
    a.runSourceLogged s = a.runSourceLogged t := by
  have hopen : RecordSource.openEvents a.config.log (RecordSource.stream s) =
      RecordSource.openEvents a.config.log (RecordSource.stream t) := by
    show (if _ then [Event.sourceOpened (Schema.ofColumns s.fields).size true] else []) = _
    rw [hfields]
    rfl
  have hrun : a.runLogged (RecordSource.stream s) = a.runLogged (RecordSource.stream t) := by
    unfold Aggregator.runLogged
    rw [consume_congr hfields hrows]
  unfold Aggregator.runSourceLogged
  simp only [hrun, hopen]

/-- How the stream of a source goes through its batches: which records it gives, and from which
places. -/
structure Traversal (s : ColumnarSource) (rs : List ColumnarRecord) (places : List (Nat × Nat)) :
    Prop where
  pulled : (Cursor.mk 0 s.batches).Yields rs
  delivered : ∀ limit, Delivers limit (RecordSource.stream s).polls rs
  /-- Each place is passed once, batch by batch and row by row. -/
  ordered : places.Pairwise (Prod.Lex (· < ·) (· < ·))
  every : ∀ k i, (k, i) ∈ places ↔ ∃ b, s.batches[k]? = some b ∧ i < b.rows
  placed : List.Forall₂ (Batch.IsAt s.batches) rs places
  columns : ∀ r ∈ rs, r.ReadsColumns (RecordSource.stream s).schema

theorem traversal (s : ColumnarSource) :
    s.Traversal s.records (Batch.places 0 s.batches) where
  pulled := Cursor.yields_iff.mpr (Cursor.remaining_zero s.batches).symm
  delivered limit := delivers_ofRecords limit (.ofColumns s.fields) s.records
  ordered := Batch.pairwise_places 0 s.batches
  every k i := by
    rw [Batch.mem_places]
    simp
  placed := Batch.forall₂_places [] s.batches
  columns r hr := by
    have hreads := r.readsColumns
    rw [fields_of_mem_records hr] at hreads
    exact hreads

theorem new_of_uniform {fields : List ColumnField} {batches : List Batch}
    (h : ∀ b ∈ batches, b.fields = fields) : new fields batches = .ok ⟨fields, batches, h⟩ := by
  unfold new
  rw [dif_pos h]

theorem eq_of_new {fields : List ColumnField} {batches : List Batch} {s : ColumnarSource}
    (h : new fields batches = .ok s) : s.fields = fields ∧ s.batches = batches := by
  unfold new at h
  split at h
  · obtain rfl := Except.ok.inj h
    exact ⟨rfl, rfl⟩
  · cases h

/-- Batches of the fields of a source give each of their rows once, one after the other, and each
row is read from its own columns.  How the rows are cut into batches changes neither what a run
comes to nor what it logs. -/
theorem batches_invisible {fields : List ColumnField} {batches : List Batch}
    (hcarry : ∀ b ∈ batches, b.fields = fields) :
    ∃ s, new fields batches = .ok s ∧ s.fields = fields ∧ s.batches = batches ∧
      (∃ rs places, s.Traversal rs places) ∧
      ∀ batches' t, new fields batches' = .ok t → rowsOf batches' = rowsOf batches →
        ∀ a : Aggregator, (a.runSource t : Ending (Report α)) = a.runSource s ∧
          a.runSourceLogged t = a.runSourceLogged s := by
  refine ⟨_, new_of_uniform hcarry, rfl, rfl, ⟨_, _, traversal _⟩, ?_⟩
  intro batches' t ht hrows a
  obtain ⟨hfields, hbatches⟩ := eq_of_new ht
  rw [← hbatches] at hrows
  exact ⟨runSource_congr hfields hrows a, runSourceLogged_congr hfields hrows a⟩

/-- Two columns of one name. -/
def twinFields : List ColumnField := [⟨"n", .int64, true⟩, ⟨"n", .utf8, true⟩]

/-- Rows of two columns of one name. -/
def twinBatch (ns : List (Option StoredValue)) : Batch where
  fields := twinFields
  rows := ns.length
  columns := [ns.toArray, (ns.map fun _ => some (.text "n")).toArray]
  complete := rfl
  even := by simp

/-- Three rows in one batch, and in two of them behind an empty one. -/
theorem batches_invisible_twins :
    ∃ (a : Aggregator) (s t : ColumnarSource) (report : Report Float),
      Aggregator.build [.notNull "n"] ["n"] [] .standard = .ok a ∧
        new twinFields [twinBatch [some (.integer 4), none, some (.integer 7)]] = .ok s ∧
        new twinFields [twinBatch [], twinBatch [some (.integer 4)],
          twinBatch [none, some (.integer 7)]] = .ok t ∧
        a.runSource s = .finished report ∧ a.runSource t = .finished report ∧
        report.total = 3 ∧ report.invalid = 1 := by
  obtain ⟨a, hbuild⟩ : ∃ a, Aggregator.build [.notNull "n"] ["n"] [] .standard = .ok a := ⟨_, rfl⟩
  obtain ⟨s, hs, -, -, -, hsame⟩ := @batches_invisible Float _ twinFields
    [twinBatch [some (.integer 4), none, some (.integer 7)]] (by simp [twinBatch])
  obtain ⟨t, ht, -⟩ := @batches_invisible Float _ twinFields
    [twinBatch [], twinBatch [some (.integer 4)], twinBatch [none, some (.integer 7)]]
    (by simp [twinBatch])
  obtain ⟨report, hrun⟩ : ∃ report : Report Float, a.runSource s = .finished report := by
    obtain rfl := Except.ok.inj hbuild
    obtain rfl := Except.ok.inj hs
    exact ⟨_, rfl⟩
  refine ⟨a, s, t, report, hbuild, hs, ht, hrun, (hsame _ t ht rfl a).1.trans hrun, ?_⟩
  obtain rfl := Except.ok.inj hbuild
  obtain rfl := Except.ok.inj hs
  obtain rfl := Ending.finished.inj hrun
  exact ⟨rfl, rfl⟩

end ColumnarSource

end RecordAudit
