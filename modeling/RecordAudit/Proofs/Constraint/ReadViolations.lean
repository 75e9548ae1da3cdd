import RecordAudit.Aggregation.Aggregator
import RecordAudit.Record.Row
import RecordAudit.Source.Columnar

/-!
# Which fields are told to be unreadable

A field that cannot be read is told by a filter, by a constraint or by a column
with statistics, whichever meets it first.  So the violations of a record tell
of a field iff one of the three asks for it and it cannot be read.  Each lemma
says so of one step, with violations that were found before it.

For this the error of a field must name that field, since a filter tells of the
field in the error.  `Record.NamesField` is that promise; rows and columnar
records keep it.  `Record.NamesFieldIn` is the same of one record.
-/

namespace RecordAudit

/-- The errors of a kind of records name the field that was asked for. -/
def Record.NamesField (ρ : Type) [Record ρ] : Prop :=
  ∀ (r : ρ) (field : String) (e : ReadError), Record.get r field = .error e → e.field = field

/-- The errors of one record name the field that was asked for. -/
def Record.NamesFieldIn {ρ : Type} [Record ρ] (r : ρ) : Prop :=
  ∀ (field : String) (e : ReadError), Record.get r field = .error e → e.field = field

theorem Row.namesField : Record.NamesField Row := by
  intro r field e h
  change r.get field = .error e at h
  rw [Row.get] at h
  split at h
  · obtain rfl := Except.error.inj h
    rfl
  · split at h
    · cases h
    · obtain rfl := Except.error.inj h
      rfl

theorem ColumnarRecord.namesField : Record.NamesField ColumnarRecord := by
  intro r field e h
  change r.get field = .error e at h
  rw [ColumnarRecord.get] at h
  split at h
  · obtain rfl := Except.error.inj h
    rfl
  · split at h
    · cases h
    · obtain rfl := Except.error.inj h
      rfl

variable {ρ : Type} [Record ρ]

/-- Whether a field of a record cannot be read. -/
def Record.unreadable (r : ρ) (field : String) : Bool :=
  match Record.get r field with
  | .ok _ => false
  | .error _ => true

open Record (unreadable)

theorem Record.unreadable_of_ok {r : ρ} {field : String} {v : FieldValue}
    (h : Record.get r field = .ok v) : unreadable r field = false := by
  rw [unreadable, h]

theorem Record.unreadable_of_error {r : ρ} {field : String} {e : ReadError}
    (h : Record.get r field = .error e) : unreadable r field = true := by
  rw [unreadable, h]

theorem Record.exists_of_unreadable {r : ρ} {field : String} (h : unreadable r field = true) :
    ∃ e, Record.get r field = .error e := by
  cases hget : Record.get r field with
  | ok v => simp [Record.unreadable_of_ok hget] at h
  | error e => exact ⟨e, rfl⟩

namespace FieldConstraint

/-! ## Violations of one record -/

/-- Violations that all are of the record at a place. -/
def AllAt (index : Nat) (vs : List Violation) : Prop := ∀ v ∈ vs, v.recordIndex = index

theorem AllAt.append_singleton {index : Nat} {vs : List Violation} (h : AllAt index vs)
    (field : String) (kind : ViolationKind) (message : String) :
    AllAt index (vs ++ [⟨index, field, kind, message⟩]) := by
  intro v hv
  rcases List.mem_append.mp hv with hv | hv
  · exact h v hv
  · rw [List.mem_singleton.mp hv]

theorem AllAt.addReadViolation {index : Nat} {vs : List Violation} (h : AllAt index vs)
    (field message : String) : AllAt index (addReadViolation index vs field message) := by
  rw [FieldConstraint.addReadViolation]
  split
  · exact h
  · exact h.append_singleton field .recordRead message

theorem AllAt.addViolations {index : Nat} {vs : List Violation} (h : AllAt index vs) (r : ρ)
    (c : FieldConstraint) : AllAt index (addViolations index r vs c) := by
  rw [FieldConstraint.addViolations]
  split
  · split
    · exact h.append_singleton _ _ _
    · exact h
  · exact h.addReadViolation _ _

theorem AllAt.validateInto {index : Nat} {vs : List Violation} (h : AllAt index vs) (r : ρ)
    (cs : List FieldConstraint) : AllAt index (validateInto index r cs vs) := by
  rw [FieldConstraint.validateInto]
  induction cs generalizing vs with
  | nil => exact h
  | cons c rest ih => exact ih (h.addViolations r c)

/-! ## Fields that are told -/

theorem hasReadViolation_append_singleton (vs : List Violation) (v : Violation) (field : String) :
    hasReadViolation (vs ++ [v]) field =
      (hasReadViolation vs field || (v.kind == .recordRead && v.field == field)) := by
  simp [hasReadViolation]

/-- A field is told once, so that telling it again changes nothing. -/
theorem hasReadViolation_addReadViolation (index : Nat) (vs : List Violation)
    (told message field : String) :
    hasReadViolation (addReadViolation index vs told message) field =
      (hasReadViolation vs field || told == field) := by
  rw [addReadViolation]
  split
  · next htold =>
    by_cases heq : told = field
    · rw [← heq, htold, Bool.true_or]
    · simp [heq]
  · rw [hasReadViolation_append_singleton]
    rfl

/-- A violation of a rule is none of reading. -/
theorem kind_ne_recordRead (rule : Rule) : rule.kind ≠ .recordRead := by
  cases rule <;> simp [Rule.kind]

theorem hasReadViolation_addViolations (index : Nat) (r : ρ) (vs : List Violation)
    (c : FieldConstraint) (field : String) :
    hasReadViolation (addViolations index r vs c) field =
      (hasReadViolation vs field || (c.field == field && unreadable r field)) := by
  rw [addViolations]
  cases hget : Record.get r c.field with
  | error e =>
    rw [hasReadViolation_addReadViolation]
    by_cases heq : c.field = field
    · subst heq
      rw [beq_self_eq_true, Record.unreadable_of_error hget, Bool.and_true]
    · rw [beq_eq_false_iff_ne.mpr heq, Bool.false_and]
  | ok v =>
    have hfield : (c.field == field && unreadable r field) = false := by
      by_cases heq : c.field = field
      · subst heq
        simp [Record.unreadable_of_ok hget]
      · simp [heq]
    rw [hfield, Bool.or_false]
    cases hcheck : c.check v with
    | none => simp only [hcheck]
    | some message =>
      simp [hcheck, hasReadViolation_append_singleton, kind_ne_recordRead]

theorem hasReadViolation_validateInto (index : Nat) (r : ρ) (cs : List FieldConstraint)
    (vs : List Violation) (field : String) :
    hasReadViolation (validateInto index r cs vs) field =
      (hasReadViolation vs field || (cs.any (·.field == field) && unreadable r field)) := by
  rw [validateInto]
  induction cs generalizing vs with
  | nil => simp
  | cons c rest ih =>
    rw [List.foldl_cons, ih, hasReadViolation_addViolations, List.any_cons, Bool.or_assoc,
      ← Bool.and_or_distrib_right]

end FieldConstraint

namespace RecordFilter

/-- A filter that cannot be applied gives the error of its field. -/
theorem exists_of_allAccept_eq_error {r : ρ} {filters : List RecordFilter} {e : ReadError}
    (h : allAccept r filters = .error e) : ∃ f ∈ filters, Record.get r f.field = .error e := by
  induction filters with
  | nil => cases h
  | cons f rest ih =>
    rw [allAccept] at h
    split at h
    · obtain ⟨g, hg, hget⟩ := ih h
      exact ⟨g, List.mem_cons_of_mem f hg, hget⟩
    · cases h
    · next e' he' =>
      obtain rfl := Except.error.inj h
      refine ⟨f, by simp, ?_⟩
      rw [accepts] at he'
      split at he'
      · cases he'
      · next e hget => rw [hget, Except.error.inj he']

end RecordFilter

namespace Aggregator

open FieldConstraint

theorem allAt_addUnreadColumns {index : Nat} {vs : List Violation} (h : AllAt index vs) (r : ρ)
    (columns : List String) : AllAt index (addUnreadColumns index r vs columns) := by
  rw [addUnreadColumns]
  induction columns generalizing vs with
  | nil => exact h
  | cons c rest ih =>
    rw [List.foldl_cons]
    apply ih
    split
    · exact h
    · exact h.addReadViolation _ _

theorem hasReadViolation_addUnreadColumns (index : Nat) (r : ρ) (vs : List Violation)
    (columns : List String) (field : String) :
    hasReadViolation (addUnreadColumns index r vs columns) field =
      (hasReadViolation vs field || (columns.contains field && unreadable r field)) := by
  rw [addUnreadColumns]
  induction columns generalizing vs with
  | nil => simp
  | cons c rest ih =>
    rw [List.foldl_cons, ih]
    cases hget : Record.get r c with
    | ok v =>
      by_cases heq : c = field
      · simp [← heq, Record.unreadable_of_ok hget]
      · simp [Ne.symm heq]
    | error e =>
      simp only [hasReadViolation_addReadViolation]
      by_cases heq : c = field
      · simp [← heq, Record.unreadable_of_error hget]
      · simp [beq_eq_false_iff_ne.mpr heq, Ne.symm heq]

/-- The fields that are read of every record that is kept. -/
def checkedFields (a : Aggregator) : List String :=
  a.constraints.map (·.field) ++ a.statColumns

/-- The violations after those of the filters tell of the fields that are read and cannot be. -/
theorem hasReadViolation_violationsAfter (a : Aggregator) (index : Nat) (r : ρ)
    (vs : List Violation) (field : String) :
    hasReadViolation (a.violationsAfter index r vs) field =
      (hasReadViolation vs field || (a.checkedFields.contains field && unreadable r field)) := by
  have hchecked : a.checkedFields.contains field =
      (a.constraints.any (·.field == field) || a.statColumns.contains field) := by
    rw [checkedFields, List.contains_append, List.contains_eq_any_beq, List.any_map]
    congr 2
    funext c
    exact Bool.beq_comm
  rw [violationsAfter, hasReadViolation_addUnreadColumns, hasReadViolation_validateInto, hchecked,
    Bool.or_assoc, ← Bool.and_or_distrib_right]

/-- The filters lead to no violation of a record that passes them, or to that of an unreadable
field. -/
theorem violations?_cases {a : Aggregator} {index : Nat} {r : ρ} {vs : List Violation}
    (h : a.violations? index r = some vs) :
    (RecordFilter.allAccept r a.filters = .ok true ∧ vs = a.violationsAfter index r []) ∨
      ∃ f ∈ a.filters, ∃ e, Record.get r f.field = .error e ∧
        RecordFilter.allAccept r a.filters = .error e ∧
        vs = a.violationsAfter index r [⟨index, e.field, .recordRead, e.message⟩] := by
  rw [violations?] at h
  split at h
  · cases h
  · next hpasses => exact .inl ⟨hpasses, (Option.some.inj h).symm⟩
  · next e he =>
    obtain ⟨f, hf, hget⟩ := RecordFilter.exists_of_allAccept_eq_error he
    exact .inr ⟨f, hf, e, hget, he, (Option.some.inj h).symm⟩

theorem allAt_violationsAfter (a : Aggregator) {index : Nat} {vs : List Violation}
    (h : AllAt index vs) (r : ρ) : AllAt index (a.violationsAfter index r vs) :=
  allAt_addUnreadColumns (h.validateInto r a.constraints) r a.statColumns

/-- All violations of a record are at its place. -/
theorem allAt_of_violations? {a : Aggregator} {index : Nat} {r : ρ} {vs : List Violation}
    (h : a.violations? index r = some vs) : AllAt index vs := by
  rcases violations?_cases h with ⟨_, rfl⟩ | ⟨_, _, _, _, _, rfl⟩
  · exact a.allAt_violationsAfter (by simp [AllAt]) r
  · exact a.allAt_violationsAfter (by simp [AllAt]) r

/-- The violations of a record tell of a field that is read iff it cannot be. -/
theorem hasReadViolation_of_violations? {a : Aggregator} {index : Nat} {r : ρ}
    (hnames : Record.NamesFieldIn r) {vs : List Violation} (h : a.violations? index r = some vs)
    {field : String} (hfield : field ∈ a.checkedFields) :
    hasReadViolation vs field = unreadable r field := by
  have hcontains : a.checkedFields.contains field = true := List.contains_iff_mem.mpr hfield
  rcases violations?_cases h with ⟨_, rfl⟩ | ⟨f, _, e, hget, _, rfl⟩
  · rw [hasReadViolation_violationsAfter, hcontains]
    simp [hasReadViolation]
  · rw [hasReadViolation_violationsAfter, hcontains, hnames f.field e hget]
    by_cases heq : f.field = field
    · rw [← heq, Record.unreadable_of_error hget, Bool.true_and, Bool.or_true]
    · simp [hasReadViolation, heq]

end Aggregator

end RecordAudit
