import Mathlib.Data.List.Induction
import RecordAudit.Record.Row

/-!
# Access to the cells of a row

Rows come about in four ways (`Row.Origin`): from values in order, with nothing
that can be read, from a JSON value, and by calls that fill the cells of an
empty row one by one.  Each leaves one cell for each field, so the cell at the
place of a name is always there.

* `Schema.FirstAt` is the place of a name where it comes first.
  `Schema.index?_eq_some_iff` and `Schema.index?_eq_none_iff` are what a schema
  finds.
* `Row.readUnchecked` reads by place, with no proof that there is a cell.
  `Row.readUnchecked_eq` shows that one is always there.
* `Row.get_put` is one call, and `Row.get_foldl_apply` a sequence of calls.
* `Row.getElem?_cells_ofValues` is a row of values, with too few of them or too many.
-/

namespace RecordAudit

/-! ## The place of a name -/

namespace Schema

/-- A name has its first place at a field. -/
structure FirstAt (s : Schema) (name : String) (i : Nat) : Prop where
  here : ∃ f, s.fields[i]? = some f ∧ f.name = name
  earlier : ∀ j < i, ∀ f, s.fields[j]? = some f → f.name ≠ name

theorem FirstAt.lt_size {s : Schema} {name : String} {i : Nat} (h : s.FirstAt name i) :
    i < s.size := by
  obtain ⟨f, hf, -⟩ := h.here
  exact (List.getElem?_eq_some_iff.mp hf).1

theorem index?_eq_some_iff {s : Schema} {name : String} {i : Fin s.size} :
    s.index? name = some i ↔ s.FirstAt name i := by
  constructor
  · intro h
    obtain ⟨hname, hearlier⟩ := List.findFinIdx?_eq_some_iff.mp h
    refine ⟨⟨_, List.getElem?_eq_getElem i.isLt, eq_of_beq hname⟩, ?_⟩
    intro j hj f hf hfname
    obtain ⟨hlt, rfl⟩ := List.getElem?_eq_some_iff.mp hf
    exact hearlier ⟨j, hlt⟩ hj (beq_iff_eq.mpr hfname)
  · intro h
    obtain ⟨f, hf, hname⟩ := h.here
    obtain ⟨hlt, rfl⟩ := List.getElem?_eq_some_iff.mp hf
    apply List.findFinIdx?_eq_some_iff.mpr
    refine ⟨beq_iff_eq.mpr hname, ?_⟩
    intro j hj hjname
    exact h.earlier j hj _ (List.getElem?_eq_getElem j.isLt) (eq_of_beq hjname)

theorem index?_eq_none_iff {s : Schema} {name : String} :
    s.index? name = none ↔ ∀ f ∈ s.fields, f.name ≠ name := by
  apply List.findFinIdx?_eq_none_iff.trans
  simp

theorem exists_index?_iff {s : Schema} {name : String} :
    (∃ i, s.index? name = some i) ↔ ∃ f ∈ s.fields, f.name = name := by
  rw [← Option.ne_none_iff_exists', ne_eq, index?_eq_none_iff]
  simp

end Schema

/-- What a cell gives that is read under a name. -/
def Cell.read (name : String) : Cell → Except ReadError FieldValue
  | .value v => .ok v
  | .unreadable reason => .error ⟨name, reason⟩

theorem Cell.read_eq_error_iff {name : String} {c : Cell} {e : ReadError} :
    c.read name = .error e ↔ c = .unreadable e.message ∧ e.field = name := by
  obtain ⟨field, message⟩ := e
  cases c with
  | value v => simp [read]
  | unreadable reason =>
    simp only [read, Except.error.injEq, ReadError.mk.injEq, Cell.unreadable.injEq]
    constructor
    · rintro ⟨rfl, rfl⟩
      exact ⟨rfl, rfl⟩
    · rintro ⟨rfl, rfl⟩
      exact ⟨rfl, rfl⟩

namespace Row

/-! ## Reading -/

theorem get_of_index? {r : Row} {name : String} {i : Fin r.schema.size}
    (h : r.schema.index? name = some i) : r.get name = (r.cell i).read name := by
  unfold get
  rw [h]
  cases hcell : r.cell i <;> simp only [hcell, Cell.read]

theorem get_of_index?_eq_none {r : Row} {name : String}
    (h : r.schema.index? name = none) : r.get name = .error ⟨name, foreignField⟩ := by
  unfold get
  rw [h]

theorem getElem?_cells (r : Row) (i : Fin r.schema.size) : r.cells[i.val]? = some (r.cell i) := by
  have hlt : i.val < r.cells.length := by
    rw [r.complete]
    exact i.isLt
  rw [List.getElem?_eq_getElem hlt]
  rfl

/-- Reads the cell at the place of a name.  There is no result where the cells end before. -/
def readUnchecked (schema : Schema) (cells : List Cell) (name : String) :
    Option (Except ReadError FieldValue) :=
  match schema.fields.findIdx? (·.name == name) with
  | none => some (.error ⟨name, foreignField⟩)
  | some i => cells[i]?.map (Cell.read name)

/-- The place of a name never lies beyond the cells of a row. -/
theorem readUnchecked_eq (r : Row) (name : String) :
    readUnchecked r.schema r.cells name = some (r.get name) := by
  have hplace : r.schema.fields.findIdx? (·.name == name) =
      (r.schema.index? name).map Fin.val := List.findIdx?_eq_map_findFinIdx?_val
  unfold readUnchecked
  rw [hplace]
  cases hindex : r.schema.index? name with
  | none =>
    rw [get_of_index?_eq_none hindex]
    rfl
  | some i =>
    rw [get_of_index? hindex]
    show r.cells[i.val]?.map (Cell.read name) = _
    rw [getElem?_cells]
    rfl

/-- How the cells of a row are reached: there is one for each field, a name leads to the first
field of its own, and what cannot be read is said of the name that was asked for. -/
structure Accessible (r : Row) : Prop where
  length : r.cells.length = r.schema.fields.length
  inRange : ∀ name, readUnchecked r.schema r.cells name = some (r.get name)
  fails_iff : ∀ name, (∃ e, r.get name = .error e) ↔
    (∀ f ∈ r.schema.fields, f.name ≠ name) ∨
      ∃ i reason, r.schema.FirstAt name i ∧ r.cells[i]? = some (.unreadable reason)
  blames : ∀ name e, r.get name = .error e → e.field = name

theorem accessible (r : Row) : r.Accessible := by
  refine ⟨r.complete, readUnchecked_eq r, ?_, ?_⟩
  · intro name
    cases hindex : r.schema.index? name with
    | none =>
      rw [get_of_index?_eq_none hindex]
      exact iff_of_true ⟨_, rfl⟩ (.inl (Schema.index?_eq_none_iff.mp hindex))
    | some i =>
      have hfirst := Schema.index?_eq_some_iff.mp hindex
      simp only [get_of_index? hindex, Cell.read_eq_error_iff]
      constructor
      · rintro ⟨e, hcell, -⟩
        exact .inr ⟨i, e.message, hfirst, by rw [getElem?_cells, hcell]⟩
      · rintro (hforeign | ⟨j, reason, hj, hreason⟩)
        · rw [Schema.index?_eq_none_iff.mpr hforeign] at hindex
          cases hindex
        · have hsome := Schema.index?_eq_some_iff (i := ⟨j, hj.lt_size⟩) |>.mpr hj
          obtain rfl := Option.some.inj (hindex.symm.trans hsome)
          have hcell := (r.getElem?_cells ⟨j, hj.lt_size⟩).symm.trans hreason
          exact ⟨⟨name, reason⟩, Option.some.inj hcell, rfl⟩
  · intro name e he
    cases hindex : r.schema.index? name with
    | none =>
      rw [get_of_index?_eq_none hindex] at he
      cases he
      rfl
    | some i =>
      rw [get_of_index? hindex] at he
      exact (Cell.read_eq_error_iff.mp he).2

/-! ## Calls on a row -/

/-- A call on a row that is being filled. -/
inductive Call where
  | set (name : String) (v : FieldValue)
  | markUnreadable (name reason : String)

namespace Call

/-- The name of the field that a call is about. -/
def name : Call → String
  | set name _ | markUnreadable name _ => name

/-- The cell that a call puts there. -/
def cell : Call → Cell
  | set _ v => .value v
  | markUnreadable _ reason => .unreadable reason

/-- The row after a call. -/
def apply (r : Row) : Call → Row
  | set name v => r.set name v
  | markUnreadable name reason => r.markUnreadable name reason

theorem apply_eq (r : Row) (c : Call) : apply r c = r.put c.name c.cell := by
  cases c <;> rfl

/-- The last of some calls that is about a name. -/
def last? (name : String) (calls : List Call) : Option Call :=
  (calls.filter fun c => c.name = name).getLast?

theorem last?_concat (name : String) (calls : List Call) (c : Call) :
    last? name (calls ++ [c]) = if c.name = name then some c else last? name calls := by
  unfold last?
  rw [List.filter_append]
  by_cases hc : c.name = name
  · simp [hc]
  · simp [hc]

theorem last?_append_cons (name : String) (before after : List Call) {c : Call}
    (h : c.name ≠ name) : last? name (before ++ c :: after) = last? name (before ++ after) := by
  unfold last?
  rw [List.filter_append, List.filter_append, List.filter_cons]
  simp [h]

end Call

theorem schema_put (r : Row) (key : String) (c : Cell) : (r.put key c).schema = r.schema := by
  unfold put
  split <;> rfl

theorem put_of_foreign {r : Row} {key : String} (h : ∀ f ∈ r.schema.fields, f.name ≠ key)
    (c : Cell) : r.put key c = r := by
  unfold put
  rw [Schema.index?_eq_none_iff.mpr h]

/-- One call changes what its own name gives, if the schema has it, and nothing else. -/
theorem get_put (r : Row) (key name : String) (c : Cell) :
    (r.put key c).get name =
      if key = name ∧ ∃ f ∈ r.schema.fields, f.name = name then c.read name else r.get name := by
  cases hkey : r.schema.index? key with
  | none =>
    have hforeign := Schema.index?_eq_none_iff.mp hkey
    rw [put_of_foreign hforeign, if_neg]
    rintro ⟨rfl, f, hf, hname⟩
    exact hforeign f hf hname
  | some i =>
    have hput : r.put key c = ⟨r.schema, r.cells.set i c, by simp [r.complete]⟩ := by
      unfold put
      rw [hkey]
    rw [hput]
    cases hname : r.schema.index? name with
    | none =>
      have hforeign := Schema.index?_eq_none_iff.mp hname
      rw [get_of_index?_eq_none hname, if_neg fun h => h.2.elim fun f hf => hforeign f hf.1 hf.2]
      exact get_of_index?_eq_none hname
    | some j =>
      rw [get_of_index? hname]
      refine Eq.trans (get_of_index? hname) ?_
      have hlt : j.val < (r.cells.set i c).length := by
        rw [List.length_set, r.complete]
        exact j.isLt
      show Cell.read name (r.cells.set i c)[j.val] = _
      rw [List.getElem_set]
      -- Different names have different first places.
      by_cases hsame : key = name
      · subst hsame
        obtain rfl := Option.some.inj (hkey.symm.trans hname)
        rw [if_pos rfl, if_pos ⟨rfl, Schema.exists_index?_iff.mp ⟨i, hkey⟩⟩]
      · have hplaces : i.val ≠ j.val := by
          intro hij
          obtain ⟨f, hf, hfname⟩ := (Schema.index?_eq_some_iff.mp hkey).here
          obtain ⟨g, hg, hgname⟩ := (Schema.index?_eq_some_iff.mp hname).here
          rw [← hij, hf] at hg
          obtain rfl := Option.some.inj hg
          exact hsame (hfname.symm.trans hgname)
        rw [if_neg hplaces, if_neg fun h => hsame h.1]
        rfl

theorem schema_foldl_apply (calls : List Call) (r : Row) :
    (calls.foldl Call.apply r).schema = r.schema := by
  induction calls generalizing r with
  | nil => rfl
  | cons c rest ih => rw [List.foldl_cons, ih, Call.apply_eq, schema_put]

/-- After some calls a name gives what the last call about it put there. -/
theorem get_foldl_apply (calls : List Call) (r : Row) {name : String}
    (hname : ∃ f ∈ r.schema.fields, f.name = name) :
    (calls.foldl Call.apply r).get name =
      match Call.last? name calls with
      | some c => c.cell.read name
      | none => r.get name := by
  induction calls using List.reverseRecOn with
  | nil => rfl
  | append_singleton calls c ih =>
    rw [List.foldl_append, List.foldl_cons, List.foldl_nil, Call.apply_eq, get_put,
      schema_foldl_apply, Call.last?_concat]
    by_cases hc : c.name = name
    · rw [if_pos ⟨hc, hname⟩, if_pos hc]
    · rw [if_neg fun h => hc h.1, if_neg hc, ih]

/-- The row that some calls make of an empty one. -/
def built (schema : Schema) (calls : List Call) : Row := calls.foldl Call.apply (empty schema)

theorem schema_built (schema : Schema) (calls : List Call) :
    (built schema calls).schema = schema := schema_foldl_apply calls (empty schema)

theorem get_empty {schema : Schema} {name : String} (hname : ∃ f ∈ schema.fields, f.name = name) :
    (empty schema).get name = .ok .null := by
  obtain ⟨i, hi⟩ := Schema.exists_index?_iff.mpr hname
  have hlt : i.val < (List.replicate schema.size (Cell.value .null)).length := by
    rw [List.length_replicate]
    exact i.isLt
  refine Eq.trans (get_of_index? hi) ?_
  show Cell.read name (List.replicate schema.size (Cell.value .null))[i.val] = _
  rw [List.getElem_replicate]
  rfl

theorem get_built {schema : Schema} (calls : List Call) {name : String}
    (hname : ∃ f ∈ schema.fields, f.name = name) :
    (built schema calls).get name =
      match Call.last? name calls with
      | some c => c.cell.read name
      | none => .ok .null := by
  rw [built, get_foldl_apply calls (empty schema) hname, get_empty hname]

theorem get_built_of_foreign {schema : Schema} (calls : List Call) {name : String}
    (hname : ∀ f ∈ schema.fields, f.name ≠ name) :
    (built schema calls).get name = .error ⟨name, foreignField⟩ := by
  apply get_of_index?_eq_none
  rw [Schema.index?_eq_none_iff, schema_built]
  exact hname

/-- A call about another name, or about a name that the schema does not have, changes nothing. -/
theorem get_built_append_cons (schema : Schema) (before after : List Call) {c : Call}
    {name : String} (h : c.name ≠ name ∨ ∀ f ∈ schema.fields, f.name ≠ c.name) :
    (built schema (before ++ c :: after)).get name = (built schema (before ++ after)).get name := by
  by_cases hname : ∃ f ∈ schema.fields, f.name = name
  · have hother : c.name ≠ name := by
      rcases h with hother | hforeign
      · exact hother
      · rintro rfl
        obtain ⟨f, hf, hfname⟩ := hname
        exact hforeign f hf hfname
    rw [get_built _ hname, get_built _ hname, Call.last?_append_cons name before after hother]
  · have hforeign : ∀ f ∈ schema.fields, f.name ≠ name := by
      intro f hf hfname
      exact hname ⟨f, hf, hfname⟩
    rw [get_built_of_foreign _ hforeign, get_built_of_foreign _ hforeign]

/-! ## Rows of values -/

/-- The cell of a field is its value, or says how many values there are. -/
theorem getElem?_cells_ofValues (schema : Schema) (values : List FieldValue) {i : Nat}
    (hi : i < schema.size) :
    (ofValues schema values).cells[i]? =
      some (match values[i]? with
        | some v => .value v
        | none => .unreadable (raggedReason values.length schema.size)) := by
  show ((values.take schema.size).map Cell.value ++ List.replicate _ _)[i]? = _
  by_cases hsupplied : i < values.length
  · have hlt : i < ((values.take schema.size).map Cell.value).length := by
      rw [List.length_map, List.length_take]
      omega
    rw [List.getElem?_append_left hlt, List.getElem?_map, List.getElem?_take_of_lt hi,
      List.getElem?_eq_getElem hsupplied]
    rfl
  · have hle : ((values.take schema.size).map Cell.value).length ≤ i := by
      rw [List.length_map, List.length_take]
      omega
    have hlt : i - ((values.take schema.size).map Cell.value).length <
        schema.size - values.length := by
      rw [List.length_map, List.length_take]
      omega
    rw [List.getElem?_append_right hle, List.getElem?_replicate_of_lt hlt,
      List.getElem?_eq_none (by omega)]

/-- Values beyond the last field are dropped. -/
theorem ofValues_append {schema : Schema} {values : List FieldValue}
    (h : schema.size ≤ values.length) (extra : List FieldValue) :
    ofValues schema (values ++ extra) = ofValues schema values := by
  have htake : (values ++ extra).take schema.size = values.take schema.size :=
    List.take_append_of_le_length h
  have hnone : schema.size - values.length = 0 := by omega
  have hnone' : schema.size - (values ++ extra).length = 0 := by
    rw [List.length_append]
    omega
  unfold ofValues
  congr 1
  rw [htake, hnone, hnone']
  rfl

theorem get_of_firstAt {r : Row} {name : String} {i : Nat} (h : r.schema.FirstAt name i)
    {c : Cell} (hc : r.cells[i]? = some c) : r.get name = c.read name := by
  have hindex := (Schema.index?_eq_some_iff (i := ⟨i, h.lt_size⟩)).mpr h
  obtain rfl := Option.some.inj ((r.getElem?_cells ⟨i, h.lt_size⟩).symm.trans hc)
  exact get_of_index? hindex

/-! ## All rows -/

/-- Where a row comes from. -/
inductive Origin where
  | values (values : List FieldValue)
  | unreadable (reason : String)
  | json (v : Json.Value)
  | calls (calls : List Call)

/-- The row of a schema from an origin. -/
def Origin.row (schema : Schema) : Origin → Row
  | values vs => ofValues schema vs
  | unreadable reason => Row.unreadable schema reason
  | json v => ofJson schema v
  | calls cs => built schema cs

theorem Origin.schema_row (schema : Schema) (o : Origin) : (o.row schema).schema = schema := by
  cases o with
  | values vs => rfl
  | unreadable reason => rfl
  | json v => cases v <;> rfl
  | calls cs => exact schema_built schema cs

/-- The cells of every row can be reached, whatever it comes from and however often a name occurs
among its fields.  A row that was filled by calls gives for a name what the last call about it put
there, or else null, and calls about other names or names that the schema does not have are
without effect.  A row of values has those that it was given, as far as it has fields for them, and
the fields beyond cannot be read. -/
theorem origin_accessible (schema : Schema) :
    (∀ o : Origin, (o.row schema).schema = schema ∧ (o.row schema).Accessible) ∧
    (∀ (calls : List Call) (name : String), (∃ f ∈ schema.fields, f.name = name) →
      (built schema calls).get name =
        match Call.last? name calls with
        | some c => c.cell.read name
        | none => .ok .null) ∧
    (∀ (before after : List Call) (c : Call) (name : String),
      (c.name ≠ name ∨ ∀ f ∈ schema.fields, f.name ≠ c.name) →
      (built schema (before ++ c :: after)).get name =
        (built schema (before ++ after)).get name) ∧
    (∀ (values : List FieldValue) (i : Nat), i < schema.size →
      ((∃ v, (ofValues schema values).cells[i]? = some (.value v)) ↔ i < values.length)) ∧
    (∀ (values : List FieldValue) (name : String) (i : Nat), schema.FirstAt name i →
      (ofValues schema values).get name =
        match values[i]? with
        | some v => .ok v
        | none => .error ⟨name, raggedReason values.length schema.size⟩) ∧
    ∀ values extra : List FieldValue, schema.size ≤ values.length →
      ofValues schema (values ++ extra) = ofValues schema values := by
  refine ⟨fun o => ⟨o.schema_row schema, accessible _⟩,
    fun calls name hname => get_built calls hname,
    fun before after c name h => get_built_append_cons schema before after h, ?_, ?_,
    fun values extra h => ofValues_append h extra⟩
  · intro values i hi
    rw [getElem?_cells_ofValues schema values hi]
    cases hvalue : values[i]? with
    | none =>
      have hle : values.length ≤ i := List.getElem?_eq_none_iff.mp hvalue
      simp
      omega
    | some v =>
      obtain ⟨hlt, -⟩ := List.getElem?_eq_some_iff.mp hvalue
      simp [hlt]
  · intro values name i hfirst
    have hcell := getElem?_cells_ofValues schema values hfirst.lt_size
    rw [get_of_firstAt (r := ofValues schema values) hfirst hcell]
    cases values[i]? <;> rfl

/-- A schema with a name twice, three calls, of which the last is about a name that it does not
have, and a row with one value for two names. -/
theorem origin_accessible_twice :
    ∃ schema : Schema, schema = ⟨[⟨"n", .integer, true⟩, ⟨"n", .text, true⟩, ⟨"m", .float, true⟩]⟩ ∧
      (built schema [.set "n" (.integer 3), .markUnreadable "n" "torn", .set "k" .null]).get "n" =
        .error ⟨"n", "torn"⟩ ∧
      (built schema [.set "n" (.integer 3), .set "k" .null]).get "m" = .ok .null ∧
      (ofValues schema [.integer 5, .text "x"]).get "m" =
        .error ⟨"m", raggedReason 2 3⟩ := by
  obtain ⟨-, hcalls, -, -, hvalues, -⟩ := origin_accessible
    ⟨[⟨"n", .integer, true⟩, ⟨"n", .text, true⟩, ⟨"m", .float, true⟩]⟩
  refine ⟨_, rfl, hcalls _ "n" (by simp), hcalls _ "m" (by simp), ?_⟩
  refine hvalues _ "m" 2 ⟨⟨_, rfl, rfl⟩, ?_⟩
  intro j hj f hf
  have hplace : j = 0 ∨ j = 1 := by omega
  rcases hplace with rfl | rfl
  · obtain rfl := Option.some.inj hf
    decide
  · obtain rfl := Option.some.inj hf
    decide

end Row

end RecordAudit
