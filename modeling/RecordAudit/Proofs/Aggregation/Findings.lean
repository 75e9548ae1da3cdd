import Mathlib.Data.List.Induction
import RecordAudit.Proofs.Aggregation.Endings
import RecordAudit.Proofs.Constraint.ReadViolations

/-!
# What is found of a record

Filters, constraints and columns add to one list of violations, and each looks
there before it tells that a field cannot be read.  So what a constraint finds
depends on those before it.  `findings` says how: a constraint finds what it
finds alone, but an unreadable field is told by the first that names it.

* `validateInto_eq` is this law, with violations that were there before.
* `untold` takes away what others tell already.  With it `validate_append` says
  what constraints find after others.
* `Tidy` holds of violations that tell an unreadable field once and nothing else
  of it.  Each step keeps it, so `tidy_of_violations?` has it of a record.
* `mem_outcomesFrom_iff` leads from the outcomes of a run to the records that it
  has read.
-/

namespace RecordAudit

variable {ρ : Type} [Record ρ]

open Record (unreadable)

namespace FieldConstraint

/-- What one constraint finds of a record, whose field may have been told to be
unreadable before. -/
def finding? (index : Nat) (r : ρ) (told : Bool) (c : FieldConstraint) : Option Violation :=
  match Record.get r c.field with
  | .ok v => (c.check v).map fun message => ⟨index, c.field, c.rule.kind, message⟩
  | .error e => if told then none else some ⟨index, c.field, .recordRead, e.message⟩

/-- What constraints find of a record, in their order.  An unreadable field is
told by the first constraint that names it, unless it has been told already. -/
def findings (index : Nat) (r : ρ) (out : List Violation) (cs : List FieldConstraint) :
    List Violation :=
  cs.zipIdx.filterMap fun x =>
    finding? index r
      (hasReadViolation out x.1.field || (cs.take x.2).any (·.field == x.1.field)) x.1

theorem addViolations_eq (index : Nat) (r : ρ) (vs : List Violation) (c : FieldConstraint) :
    addViolations index r vs c =
      vs ++ (finding? index r (hasReadViolation vs c.field) c).toList := by
  rw [addViolations, finding?]
  cases Record.get r c.field with
  | ok v => cases hcheck : c.check v <;> simp [hcheck]
  | error e =>
    simp only [addReadViolation]
    cases hasReadViolation vs c.field <;> simp

/-- Whether a field has been told matters only if it is unreadable. -/
theorem finding?_congr (index : Nat) (r : ρ) {told told' : Bool} {c : FieldConstraint}
    (h : unreadable r c.field = true → told = told') :
    finding? index r told c = finding? index r told' c := by
  rw [finding?, finding?]
  cases hget : Record.get r c.field with
  | ok v => rfl
  | error e => rw [h (Record.unreadable_of_error hget)]

theorem findings_concat (index : Nat) (r : ρ) (out : List Violation) (cs : List FieldConstraint)
    (c : FieldConstraint) :
    findings index r out (cs ++ [c]) = findings index r out cs ++
      (finding? index r
        (hasReadViolation out c.field || cs.any (·.field == c.field)) c).toList := by
  rw [findings, List.zipIdx_append, List.filterMap_append, findings]
  congr 1
  · refine List.filterMap_congr fun x hx => ?_
    have hlt := List.snd_lt_of_mem_zipIdx hx
    rw [List.take_append_of_le_length (by omega)]
  · have hplace : ((cs ++ [c]).take cs.length).any (·.field == c.field) =
        cs.any (·.field == c.field) := by rw [List.take_left]
    rw [List.zipIdx_singleton, List.filterMap_cons, List.filterMap_nil, Nat.zero_add, hplace]
    cases finding? index r (hasReadViolation out c.field || cs.any (·.field == c.field)) c <;> rfl

/-- Validation appends what the constraints find. -/
theorem validateInto_eq (index : Nat) (r : ρ) (cs : List FieldConstraint) (out : List Violation) :
    validateInto index r cs out = out ++ findings index r out cs := by
  induction cs using List.reverseRecOn with
  | nil => simp [validateInto, findings]
  | append_singleton cs c ih =>
    have hlast : validateInto index r (cs ++ [c]) out =
        addViolations index r (validateInto index r cs out) c := by
      rw [validateInto, List.foldl_concat, validateInto]
    have htold : unreadable r c.field = true →
        hasReadViolation (validateInto index r cs out) c.field =
          (hasReadViolation out c.field || cs.any (·.field == c.field)) := by
      intro hunread
      rw [hasReadViolation_validateInto, hunread, Bool.and_true]
    rw [hlast, addViolations_eq, finding?_congr index r htold, findings_concat, ih,
      List.append_assoc]

/-! ## Violations that were there before -/

/-- Violations without those of unreadable fields that others tell already. -/
def untold (out vs : List Violation) : List Violation :=
  vs.filter fun v => !(v.kind == .recordRead && hasReadViolation out v.field)

omit [Record ρ] in
theorem hasReadViolation_untold (out vs : List Violation) (field : String) :
    hasReadViolation (out ++ untold out vs) field =
      (hasReadViolation out field || hasReadViolation vs field) := by
  have happend : hasReadViolation (out ++ untold out vs) field =
      (hasReadViolation out field || hasReadViolation (untold out vs) field) := List.any_append
  rw [happend]
  cases hout : hasReadViolation out field with
  | true => rfl
  | false =>
    rw [Bool.false_or, Bool.false_or, untold, hasReadViolation, List.any_filter, hasReadViolation]
    refine List.any_congr rfl fun v => ?_
    by_cases heq : v.field = field
    · rw [heq, hout, Bool.and_false, Bool.not_false, Bool.true_and]
    · rw [beq_eq_false_iff_ne.mpr heq, Bool.and_false, Bool.and_false]

omit [Record ρ] in
theorem addReadViolation_untold (index : Nat) (out vs : List Violation) (field message : String) :
    addReadViolation index (out ++ untold out vs) field message =
      out ++ untold out (addReadViolation index vs field message) := by
  rw [addReadViolation, addReadViolation, hasReadViolation_untold]
  cases hvs : hasReadViolation vs field with
  | true => simp only [Bool.or_true, if_true]
  | false =>
    have hone : untold out (vs ++ [⟨index, field, .recordRead, message⟩]) =
        untold out vs ++ if hasReadViolation out field then [] else
          [⟨index, field, .recordRead, message⟩] := by
      rw [untold, List.filter_append, untold]
      cases hout : hasReadViolation out field <;> simp [hout]
    rw [if_neg Bool.false_ne_true, hone]
    cases hasReadViolation out field with
    | true => simp only [Bool.true_or, if_true, List.append_nil]
    | false => simp only [Bool.or_false, Bool.false_eq_true, if_false, List.append_assoc]

theorem addViolations_untold (index : Nat) (r : ρ) (out vs : List Violation)
    (c : FieldConstraint) :
    addViolations index r (out ++ untold out vs) c =
      out ++ untold out (addViolations index r vs c) := by
  rw [addViolations, addViolations]
  cases Record.get r c.field with
  | error e => exact addReadViolation_untold index out vs c.field e.message
  | ok v =>
    dsimp only
    cases c.check v with
    | none => rfl
    | some message =>
      have hone : untold out (vs ++ [⟨index, c.field, c.rule.kind, message⟩]) =
          untold out vs ++ [⟨index, c.field, c.rule.kind, message⟩] := by
        rw [untold, List.filter_append, untold]
        simp [beq_eq_false_iff_ne.mpr (kind_ne_recordRead c.rule)]
      rw [hone]
      exact List.append_assoc _ _ _

/-- Violations that were there before keep a field from being told again, and
change nothing else. -/
theorem validateInto_untold (index : Nat) (r : ρ) (cs : List FieldConstraint)
    (out vs : List Violation) :
    validateInto index r cs (out ++ untold out vs) =
      out ++ untold out (validateInto index r cs vs) :=
  List.foldl_hom (fun vs => out ++ untold out vs) fun vs c =>
    addViolations_untold index r out vs c

theorem validateInto_eq_untold (index : Nat) (r : ρ) (cs : List FieldConstraint)
    (out : List Violation) :
    validateInto index r cs out = out ++ untold out (validate index r cs) := by
  have hafter := validateInto_untold index r cs out []
  rwa [untold, List.filter_nil, List.append_nil] at hafter

theorem unreadable_of_mem_validate {index : Nat} {r : ρ} {cs : List FieldConstraint}
    {v : Violation} (hv : v ∈ validate index r cs) (hkind : v.kind = .recordRead) :
    unreadable r v.field = true := by
  have htold : hasReadViolation (validate index r cs) v.field = true :=
    List.any_eq_true.mpr ⟨v, hv, by simp [hkind]⟩
  rw [validate, hasReadViolation_validateInto, Bool.or_eq_true, Bool.and_eq_true] at htold
  exact (htold.resolve_left (by simp [hasReadViolation])).2

/-- Constraints after others find the same, but for the fields that the others
name, too, and that cannot be read. -/
theorem validate_append (index : Nat) (r : ρ) (cs₁ cs₂ : List FieldConstraint) :
    validate index r (cs₁ ++ cs₂) = validate index r cs₁ ++
      (validate index r cs₂).filter
        fun v => !(v.kind == .recordRead && cs₁.any (·.field == v.field)) := by
  have hsplit : validate index r (cs₁ ++ cs₂) =
      validateInto index r cs₂ (validate index r cs₁) := by
    rw [validate, validateInto, List.foldl_append]
    rfl
  rw [hsplit, validateInto_eq_untold, untold]
  congr 1
  refine List.filter_congr fun v hv => ?_
  by_cases hkind : v.kind = .recordRead
  · have hunread := unreadable_of_mem_validate hv hkind
    have htold : hasReadViolation (validate index r cs₁) v.field =
        cs₁.any (·.field == v.field) := by
      rw [validate, hasReadViolation_validateInto, hunread, Bool.and_true]
      rfl
    rw [htold]
  · rw [beq_eq_false_iff_ne.mpr hkind, Bool.false_and, Bool.false_and]

/-! ## Violations of one record -/

/-- Violations of a record among which an unreadable field has one at most,
which tells so. -/
structure Tidy (r : ρ) (vs : List Violation) : Prop where
  /-- Only unreadable fields are told to be, with their errors. -/
  sound : ∀ v ∈ vs, v.kind = .recordRead →
    ∃ e, Record.get r v.field = .error e ∧ v.message = e.message
  /-- Nothing else is told of an unreadable field, and that only once. -/
  single : ∀ field, unreadable r field = true →
    vs.countP (·.field == field) = (hasReadViolation vs field).toNat

theorem tidy_nil (r : ρ) : Tidy r [] where
  sound _ h := nomatch h
  single _ _ := rfl

namespace Tidy

variable {r : ρ} {vs : List Violation}

theorem unreadable_of_told (h : Tidy r vs) {field : String}
    (htold : hasReadViolation vs field = true) : unreadable r field = true := by
  obtain ⟨v, hv, hkind⟩ := List.any_eq_true.mp htold
  rw [Bool.and_eq_true, beq_iff_eq, beq_iff_eq] at hkind
  obtain ⟨e, hget, _⟩ := h.sound v hv hkind.1
  rw [← hkind.2, Record.unreadable_of_error hget]

/-- A violation of a field that can be read. -/
theorem append_singleton (h : Tidy r vs) {v : Violation} (hread : unreadable r v.field = false)
    (hkind : v.kind ≠ .recordRead) : Tidy r (vs ++ [v]) := by
  refine ⟨fun w hw hw' => ?_, fun field hunread => ?_⟩
  · rcases List.mem_append.mp hw with hw | hw
    · exact h.sound w hw hw'
    · exact absurd (List.mem_singleton.mp hw ▸ hw') hkind
  · have hne : v.field ≠ field := by
      rintro rfl
      simp [hread] at hunread
    rw [hasReadViolation_append_singleton, beq_eq_false_iff_ne.mpr hkind, Bool.false_and,
      Bool.or_false, List.countP_append, h.single field hunread, List.countP_singleton]
    simp [hne]

/-- An unreadable field that is told, unless it has been told already. -/
theorem addReadViolation (h : Tidy r vs) {field : String} {e : ReadError}
    (hget : Record.get r field = .error e) (index : Nat) :
    Tidy r (addReadViolation index vs field e.message) := by
  rw [FieldConstraint.addReadViolation]
  split
  · exact h
  · next hnew =>
    refine ⟨fun v hv hkind => ?_, fun f hf => ?_⟩
    · rcases List.mem_append.mp hv with hv | hv
      · exact h.sound v hv hkind
      · rw [List.mem_singleton.mp hv]
        exact ⟨e, hget, rfl⟩
    · rw [hasReadViolation_append_singleton, List.countP_append, h.single f hf,
        List.countP_singleton]
      by_cases heq : field = f
      · subst heq
        simp [hnew]
      · simp [beq_eq_false_iff_ne.mpr heq]

theorem addViolations (h : Tidy r vs) (index : Nat) (c : FieldConstraint) :
    Tidy r (addViolations index r vs c) := by
  rw [FieldConstraint.addViolations]
  cases hget : Record.get r c.field with
  | error e => exact h.addReadViolation hget index
  | ok v =>
    dsimp only
    cases c.check v with
    | none => exact h
    | some message =>
      exact h.append_singleton (Record.unreadable_of_ok hget) (kind_ne_recordRead c.rule)

theorem validateInto (h : Tidy r vs) (index : Nat) (cs : List FieldConstraint) :
    Tidy r (validateInto index r cs vs) := by
  rw [FieldConstraint.validateInto]
  induction cs generalizing vs with
  | nil => exact h
  | cons c rest ih => exact ih (h.addViolations index c)

theorem addUnreadColumns (h : Tidy r vs) (index : Nat) (columns : List String) :
    Tidy r (Aggregator.addUnreadColumns index r vs columns) := by
  rw [Aggregator.addUnreadColumns]
  induction columns generalizing vs with
  | nil => exact h
  | cons c rest ih =>
    rw [List.foldl_cons]
    apply ih
    cases hget : Record.get r c with
    | ok v => exact h
    | error e => exact h.addReadViolation hget index

theorem violationsAfter (h : Tidy r vs) (a : Aggregator) (index : Nat) :
    Tidy r (a.violationsAfter index r vs) :=
  (h.validateInto index a.constraints).addUnreadColumns index a.statColumns

end Tidy

end FieldConstraint

namespace Aggregator

open FieldConstraint

/-- Filters, constraints and columns together keep the violations of a record tidy. -/
theorem tidy_of_violations? {a : Aggregator} {index : Nat} {r : ρ}
    (hnames : Record.NamesFieldIn r) {vs : List Violation}
    (h : a.violations? index r = some vs) : Tidy r vs := by
  rcases violations?_cases h with ⟨_, rfl⟩ | ⟨f, _, e, hget, _, rfl⟩
  · exact (tidy_nil r).violationsAfter a index
  · have hget' : Record.get r e.field = .error e := by rw [hnames f.field e hget, hget]
    exact ((tidy_nil r).addReadViolation hget' index).violationsAfter a index

/-! ## Outcomes -/

variable {α : Type} [Arithmetic α]

/-- The outcomes hold the violations of the records that are kept, each at the place of its
record. -/
theorem mem_outcomesFrom_iff {a : Aggregator} {rs : List ρ} {o : Outcome} :
    o ∈ a.outcomesFrom 0 rs ↔
      ∃ r, rs[o.recordIndex]? = some r ∧ a.violations? o.recordIndex r = some o.violations := by
  constructor
  · intro h
    obtain ⟨⟨r, i⟩, hx, rfl⟩ := List.mem_map.mp h
    obtain ⟨hplace, hkeeps⟩ := List.mem_filter.mp hx
    refine ⟨r, List.mk_mem_zipIdx_iff_getElem?.mp hplace, ?_⟩
    rw [violations?_eq, if_pos hkeeps]
  · rintro ⟨r, hplace, hvs⟩
    rw [violations?_eq] at hvs
    obtain ⟨hkeeps, hvs⟩ := Option.ite_none_right_eq_some.mp hvs
    refine List.mem_map.mpr ⟨(r, o.recordIndex), List.mem_filter.mpr ⟨?_, hkeeps⟩, ?_⟩
    · exact List.mk_mem_zipIdx_iff_getElem?.mpr hplace
    · rw [Option.some.inj hvs]

/-- What is found of a record.  Validation appends to the violations that were
there what each constraint finds, in their order (`findings`), so constraints
after others find the same as they do alone, but for unreadable fields that the
others name, too.  In every outcome of a run an unreadable field that is told
has that one violation, and each that a constraint or a column names is told. -/
theorem violations_exact :
    (∀ (index : Nat) (r : ρ) (cs : List FieldConstraint) (out : List Violation),
      validateInto index r cs out = out ++ findings index r out cs) ∧
    (∀ (index : Nat) (r : ρ) (cs₁ cs₂ : List FieldConstraint),
      validate index r (cs₁ ++ cs₂) = validate index r cs₁ ++
        (validate index r cs₂).filter
          fun v => !(v.kind == .recordRead && cs₁.any (·.field == v.field))) ∧
    ∀ (a : Aggregator) (s : RecordStream ρ) (p : PartialAggregation α),
      a.runPartial s = .finished p → ∀ o ∈ p.outcomes,
        ∃ r, (itemsOf s.polls)[o.recordIndex]? = some (.ok r) ∧ (Record.NamesFieldIn r →
          (∀ field, hasReadViolation o.violations field = true →
            o.violations.countP (·.field == field) = 1) ∧
          ∀ field ∈ a.checkedFields, unreadable r field = true →
            hasReadViolation o.violations field = true) := by
  refine ⟨fun index r cs out => validateInto_eq index r cs out, validate_append, ?_⟩
  intro a s p hrun o ho
  obtain ⟨rs, hitems, rfl⟩ := a.exists_reached_of_runPartial hrun
  have hmem : o ∈ a.outcomesFrom 0 rs := by
    rwa [reached, after, PartialAggregation.start, List.nil_append] at ho
  obtain ⟨r, hplace, hvs⟩ := mem_outcomesFrom_iff.mp hmem
  refine ⟨r, by rw [hitems, List.getElem?_map, hplace, Option.map_some], fun hnames => ⟨?_, ?_⟩⟩
  · intro field htold
    have htidy := tidy_of_violations? hnames hvs
    rw [htidy.single field (htidy.unreadable_of_told htold), htold]
    rfl
  · intro field hfield hunread
    rw [hasReadViolation_of_violations? hnames hvs hfield, hunread]

/-- A row whose `n` cannot be read, which is the third of a run. -/
theorem violations_exact_pairRows :
    validateInto 2 ((Row.ofValues pairSchema [.integer 5]).markUnreadable "n" "torn")
        [.notNull "n", .notNull "m", .notNull "n"] [⟨2, "m", .recordRead, "lost"⟩] =
      [⟨2, "m", .recordRead, "lost"⟩, ⟨2, "n", .recordRead, "torn"⟩] ∧
    ∃ (a : Aggregator) (p : PartialAggregation Float),
      build [.notNull "n", .notNull "m"] ["n", "m"] [.isNotNull "n"] .standard = .ok a ∧
        a.runPartial (.ofRecords pairSchema pairRows) = .finished p ∧
        ∀ o ∈ p.outcomes, o.recordIndex = 2 → hasReadViolation o.violations "n" = true ∧
          o.violations.countP (·.field == "n") = 1 := by
  obtain ⟨a, hbuild⟩ :
      ∃ a, build [.notNull "n", .notNull "m"] ["n", "m"] [.isNotNull "n"] .standard = .ok a :=
    ⟨_, rfl⟩
  have hbind : a.bind pairSchema = .ok () := by
    obtain rfl := Except.ok.inj hbuild
    rfl
  have hrun := a.runPartial_of_delivers (α := Float) hbind
    (delivers_ofRecords _ pairSchema pairRows)
  obtain ⟨hvalidate, _, houtcomes⟩ := violations_exact (ρ := Row) (α := Float)
  refine ⟨hvalidate _ _ _ _, a, _, hbuild, hrun, fun o ho hplace => ?_⟩
  obtain ⟨r, hitem, hlaw⟩ := houtcomes a _ _ hrun o ho
  rw [hplace] at hitem
  obtain rfl := Except.ok.inj (Option.some.inj hitem)
  obtain ⟨hsingle, htold⟩ := hlaw (Row.namesField _)
  have hchecked : "n" ∈ a.checkedFields := by
    obtain rfl := Except.ok.inj hbuild
    simp [checkedFields, FieldConstraint.notNull]
  have hn := htold "n" hchecked rfl
  exact ⟨hn, hsingle "n" hn⟩

end Aggregator

end RecordAudit
