import RecordAudit.Proofs.Calendar.DayNumbers
import RecordAudit.Proofs.Source.Batches

/-!
# The values of cells

A column stores the values of its type in a form of their own: integers of every
width as integers, dates as days or milliseconds, and points in time as numbers
of the unit of the column, all from the start of 1970.

* `StoredValue.Keeps` tells which value a column of some type keeps by what it
  stores, and `StoredValue.decode_eq_ok_iff` that this value is read from it.
* `StoredValue.decode_of_not_keeps` is the reason where there is none.
* `ColumnarRecord.get_eq_ok_iff` is the field of a record.
-/

namespace RecordAudit

/-- The decimal places of a second that a unit counts. -/
def TimeUnit.places : TimeUnit → Nat
  | second => 0
  | millisecond => 3
  | microsecond => 6
  | nanosecond => 9

theorem TimeUnit.nanos_eq (unit : TimeUnit) : unit.nanos = 10 ^ (9 - unit.places) := by
  cases unit <;> rfl

namespace StoredValue

/-- What a column of a type stores to keep a value.  The types are those of the schema, so that the
value is of the type of its field. -/
inductive Keeps : ColumnType → StoredValue → FieldValue → Prop
  | boolean {type : ColumnType} (htype : type.fieldType = .boolean) (b : Bool) :
      Keeps type (.boolean b) (.boolean b)
  | integer {type : ColumnType} (htype : type.fieldType = .integer) (n : Int64) :
      Keeps type (.integer n.toInt) (.integer n)
  | float {type : ColumnType} (htype : type.fieldType = .float) (x : Float) :
      Keeps type (.float x) (.float x)
  | text {type : ColumnType} (htype : type.fieldType = .text) (s : String) :
      Keeps type (.text s) (.text s)
  | days {d : Date} (hd : d.InCalendar) : Keeps .date32 (.integer d.dayNumber) (.date d)
  /-- Any moment of a day stands for its date. -/
  | milliseconds {d : Date} (hd : d.InCalendar) {n : Int} (hlow : d.dayNumber * 86400000 ≤ n)
      (hhigh : n < (d.dayNumber + 1) * 86400000) : Keeps .date64 (.integer n) (.date d)
  | instant {t : Timestamp} (ht : t.InCalendar) {unit : TimeUnit} {n : Int}
      (hn : n * 10 ^ (9 - unit.places) = t.seconds * 1000000000 + t.nanos) (zone : Option String) :
      Keeps (.timestamp unit zone) (.integer n) (.timestamp t)

/-! ## Each kind of value -/

variable {v : FieldValue}

theorem integerValue_eq_ok_iff {n : Int} :
    integerValue n = .ok v ↔ ∃ m : Int64, m.toInt = n ∧ v = .integer m := by
  rw [integerValue]
  constructor
  · intro h
    split at h
    · next hfits =>
      obtain rfl := Except.ok.inj h
      exact ⟨_, Int64.toInt_ofInt_of_le hfits.1 (Int.lt_of_le_of_lt hfits.2 (by decide)), rfl⟩
    · cases h
  · rintro ⟨m, rfl, rfl⟩
    rw [if_pos ⟨m.minValue_le_toInt, m.toInt_le⟩, Int64.ofInt_toInt]

theorem integerValue_eq_error {n : Int} (h : ∀ m : Int64, m.toInt ≠ n) :
    integerValue n =
      .error ("value " ++ toString n ++ " does not fit a signed 64-bit integer") := by
  rw [integerValue]
  refine if_neg fun hfits => h (Int64.ofInt n) ?_
  exact Int64.toInt_ofInt_of_le hfits.1 (Int.lt_of_le_of_lt hfits.2 (by decide))

theorem dateValue_eq_ok_iff {n : Int} :
    dateValue (Date.ofDayNumber? n) = .ok v ↔
      ∃ d : Date, d.InCalendar ∧ d.dayNumber = n ∧ v = .date d := by
  constructor
  · intro h
    cases hd : Date.ofDayNumber? n with
    | none => rw [hd] at h; cases h
    | some d =>
      rw [hd] at h
      obtain ⟨hcalendar, hnumber⟩ := Date.ofDayNumber?_eq_some_iff.mp hd
      exact ⟨d, hcalendar, hnumber, (Except.ok.inj h).symm⟩
  · rintro ⟨d, hcalendar, hnumber, rfl⟩
    rw [Date.ofDayNumber?_eq_some_iff.mpr ⟨hcalendar, hnumber⟩, dateValue]

theorem dateValue_eq_error {n : Int} (h : ∀ d : Date, d.InCalendar → d.dayNumber ≠ n) :
    dateValue (Date.ofDayNumber? n) = .error "date is out of range" := by
  have hnone : Date.ofDayNumber? n = none := by
    apply Option.eq_none_iff_forall_ne_some.mpr
    intro d hd
    obtain ⟨hcalendar, hnumber⟩ := Date.ofDayNumber?_eq_some_iff.mp hd
    exact h d hcalendar hnumber
  rw [hnone, dateValue]

theorem instantValue_eq_ok_iff {n : Int} :
    instantValue (Timestamp.ofNanos? n) = .ok v ↔
      ∃ t : Timestamp, t.InCalendar ∧ t.seconds * 1000000000 + t.nanos = n ∧ v = .timestamp t := by
  constructor
  · intro h
    cases ht : Timestamp.ofNanos? n with
    | none => rw [ht] at h; cases h
    | some t =>
      rw [ht] at h
      obtain ⟨hcalendar, hnumber⟩ := Timestamp.ofNanos?_eq_some_iff.mp ht
      exact ⟨t, hcalendar, hnumber, (Except.ok.inj h).symm⟩
  · rintro ⟨t, hcalendar, hnumber, rfl⟩
    rw [Timestamp.ofNanos?_eq_some_iff.mpr ⟨hcalendar, hnumber⟩, instantValue]

theorem instantValue_eq_error {n : Int}
    (h : ∀ t : Timestamp, t.InCalendar → t.seconds * 1000000000 + t.nanos ≠ n) :
    instantValue (Timestamp.ofNanos? n) = .error "timestamp is out of range" := by
  have hnone : Timestamp.ofNanos? n = none := by
    apply Option.eq_none_iff_forall_ne_some.mpr
    intro t ht
    obtain ⟨hcalendar, hnumber⟩ := Timestamp.ofNanos?_eq_some_iff.mp ht
    exact h t hcalendar hnumber
  rw [hnone, instantValue]

/-! ## All types -/

theorem decode_integer {type : ColumnType} (h : type.fieldType = .integer) (n : Int) :
    decode type (.integer n) = integerValue n := by
  cases type <;> first | rfl | cases h

/-- A column gives the value that it keeps, and no other. -/
theorem decode_eq_ok_iff {type : ColumnType} {stored : StoredValue} :
    stored.decode type = .ok v ↔ Keeps type stored v := by
  constructor
  · intro h
    cases stored with
    | boolean b =>
      cases type with
      | boolean =>
        obtain rfl := Except.ok.inj h
        exact .boolean rfl b
      | _ => cases h
    | float x =>
      cases type with
      | float32 | float64 =>
        obtain rfl := Except.ok.inj h
        exact .float rfl x
      | _ => cases h
    | text s =>
      cases type with
      | utf8 | largeUtf8 | utf8View =>
        obtain rfl := Except.ok.inj h
        exact .text rfl s
      | _ => cases h
    | unreadable => cases type <;> cases h
    | integer n =>
      cases type with
      | int8 | int16 | int32 | int64 | uint8 | uint16 | uint32 | uint64 =>
        obtain ⟨m, rfl, rfl⟩ := integerValue_eq_ok_iff.mp h
        exact .integer rfl m
      | date32 =>
        obtain ⟨d, hd, rfl, rfl⟩ := dateValue_eq_ok_iff.mp h
        exact .days hd
      | date64 =>
        obtain ⟨d, hd, hday, rfl⟩ := dateValue_eq_ok_iff.mp h
        exact .milliseconds hd (by omega) (by omega)
      | timestamp unit zone =>
        obtain ⟨t, ht, hnanos, rfl⟩ := instantValue_eq_ok_iff.mp h
        rw [TimeUnit.nanos_eq] at hnanos
        exact .instant ht hnanos.symm zone
      | _ => cases h
  · intro h
    cases h with
    | boolean htype b => cases type <;> first | rfl | cases htype
    | integer htype n =>
      rw [decode_integer htype]
      exact integerValue_eq_ok_iff.mpr ⟨n, rfl, rfl⟩
    | float htype x => cases type <;> first | rfl | cases htype
    | text htype s => cases type <;> first | rfl | cases htype
    | days hd => exact dateValue_eq_ok_iff.mpr ⟨_, hd, rfl, rfl⟩
    | milliseconds hd hlow hhigh => exact dateValue_eq_ok_iff.mpr ⟨_, hd, by omega, rfl⟩
    | instant ht hn zone =>
      refine instantValue_eq_ok_iff.mpr ⟨_, ht, ?_, rfl⟩
      rw [TimeUnit.nanos_eq]
      exact hn.symm

/-- Why a column of a type gives no value for what it stores. -/
def refusal (type : ColumnType) (stored : StoredValue) : String :=
  match type.fieldType, stored with
  | .integer, integer n => "value " ++ toString n ++ " does not fit a signed 64-bit integer"
  | .date, integer _ => "date is out of range"
  | .timestamp, integer _ => "timestamp is out of range"
  | .other, _ => "unsupported Arrow type " ++ type.name
  | _, _ => "column does not hold " ++ type.name

/-- A column that keeps no value says why. -/
theorem decode_of_not_keeps {type : ColumnType} {stored : StoredValue}
    (h : ∀ v, ¬Keeps type stored v) : stored.decode type = .error (refusal type stored) := by
  cases stored with
  | boolean b => cases type <;> first | rfl | exact absurd (.boolean rfl b) (h _)
  | float x => cases type <;> first | rfl | exact absurd (.float rfl x) (h _)
  | text s => cases type <;> first | rfl | exact absurd (.text rfl s) (h _)
  | unreadable => cases type <;> rfl
  | integer n =>
    cases type with
    | int8 | int16 | int32 | int64 | uint8 | uint16 | uint32 | uint64 =>
      refine integerValue_eq_error fun m hm => ?_
      subst hm
      exact h _ (.integer rfl m)
    | date32 =>
      refine dateValue_eq_error fun d hd hn => ?_
      subst hn
      exact h _ (.days hd)
    | date64 =>
      exact dateValue_eq_error fun d hd hn => h _ (.milliseconds hd (by omega) (by omega))
    | timestamp unit zone =>
      refine instantValue_eq_error fun t ht hn => h _ (.instant ht ?_ zone)
      rw [← TimeUnit.nanos_eq]
      exact hn.symm
    | _ => rfl

end StoredValue

/-! ## The fields of a record -/

/-- What a column of a type shows where it stores something or nothing: a cell with nothing in it is
null, save where the type has no values at all. -/
inductive ColumnType.Shows (type : ColumnType) : Option StoredValue → FieldValue → Prop
  | absent (htype : type ≠ .null) : Shows type none .null
  | present {stored : StoredValue} {v : FieldValue} (h : StoredValue.Keeps type stored v) :
      Shows type (some stored) v

namespace ColumnarRecord

theorem decodeCell_eq_ok_iff {type : ColumnType} {cell : Option StoredValue} {v : FieldValue} :
    decodeCell type cell = .ok v ↔ type.Shows cell v := by
  cases cell with
  | some stored =>
    rw [decodeCell, StoredValue.decode_eq_ok_iff]
    constructor
    · exact .present
    · rintro ⟨⟩
      assumption
  | none =>
    rw [decodeCell]
    constructor
    · intro h
      split at h
      · cases h
      · next htype =>
        obtain rfl := Except.ok.inj h
        exact .absent htype
    · rintro ⟨htype⟩
      exact if_neg htype

/-- The field of a name shows what the column at its first place has in the row of the record. -/
theorem get_eq_ok_iff (r : ColumnarRecord) {name : String} {i : Nat}
    (hfirst : (Schema.ofColumns r.batch.fields).FirstAt name i) {v : FieldValue} :
    r.get name = .ok v ↔ ∃ f column cell, r.batch.fields[i]? = some f ∧
      r.batch.columns[i]? = some column ∧ column[r.row.val]? = some cell ∧ f.type.Shows cell v := by
  obtain ⟨f, column, hf, hcolumn, hrow, hget⟩ := r.readsColumns.column name i hfirst
  rw [hget, readCell_of_lt f.type hrow]
  constructor
  · intro h
    refine ⟨f, column, _, hf, hcolumn, Array.getElem?_eq_getElem hrow, ?_⟩
    rw [← decodeCell_eq_ok_iff]
    cases hdecode : decodeCell f.type column[r.row.val] with
    | ok w => rw [hdecode] at h; exact congrArg _ (Except.ok.inj h)
    | error reason => rw [hdecode] at h; cases h
  · rintro ⟨f', column', cell, hf', hcolumn', hcell, hshows⟩
    obtain rfl := Option.some.inj (hf.symm.trans hf')
    obtain rfl := Option.some.inj (hcolumn.symm.trans hcolumn')
    rw [Array.getElem?_eq_getElem hrow] at hcell
    rw [Option.some.inj hcell, decodeCell_eq_ok_iff.mpr hshows]
    rfl

end ColumnarRecord

end RecordAudit
