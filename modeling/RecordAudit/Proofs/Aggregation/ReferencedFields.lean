import RecordAudit.Proofs.Aggregation.Endings
import RecordAudit.Source.Columnar

/-!
# What a run looks at

A run asks its records only for the fields that a constraint, a column or a
filter names (`referenced`).  So records that agree on these fields are all the
same to it, even if they are of different kinds and schemas.

* `violations?_agree` and `absorb_agree` are one record.
* `Alike` holds of the polls of two streams that a run cannot tell apart, and
  `drive_alike` is a run over them.  Where one stream waits, the other need not.
* `ItemsAlike` is the same of items.  `alike_of_itemsAlike` leads from items to
  polls, for streams that nobody disturbs.
-/

namespace RecordAudit

variable {ρ σ : Type} [Record ρ] [Record σ]

/-- Two records that give the same for some fields, be it a value or an error. -/
def Record.AgreeOn (fields : List String) (r : ρ) (q : σ) : Prop :=
  ∀ field ∈ fields, Record.get r field = Record.get q field

open Record (AgreeOn)

theorem Record.AgreeOn.mono {fields fields' : List String} {r : ρ} {q : σ}
    (h : AgreeOn fields r q) (hsub : fields' ⊆ fields) : AgreeOn fields' r q :=
  fun field hfield => h field (hsub hfield)

/-! ## One record -/

theorem RecordFilter.allAccept_agree {filters : List RecordFilter} {r : ρ} {q : σ}
    (h : AgreeOn (filters.map (·.field)) r q) : allAccept r filters = allAccept q filters := by
  induction filters with
  | nil => rfl
  | cons f rest ih =>
    have haccepts : f.accepts r = f.accepts q := by
      rw [accepts, accepts, h f.field List.mem_cons_self]
    rw [allAccept, allAccept, haccepts, ih (h.mono (List.subset_cons_self _ _))]

theorem FieldConstraint.validateInto_agree (index : Nat) {cs : List FieldConstraint} {r : ρ}
    {q : σ} (h : AgreeOn (cs.map (·.field)) r q) (vs : List Violation) :
    validateInto index r cs vs = validateInto index q cs vs := by
  refine List.foldl_ext _ _ _ fun vs c hc => ?_
  rw [addViolations, addViolations, h c.field (List.mem_map_of_mem hc)]

namespace Aggregator

theorem addUnreadColumns_agree (index : Nat) {columns : List String} {r : ρ} {q : σ}
    (h : AgreeOn columns r q) (vs : List Violation) :
    addUnreadColumns index r vs columns = addUnreadColumns index q vs columns := by
  refine List.foldl_ext _ _ _ fun vs c hc => ?_
  rw [h c hc]

/-- The fields that the constraints, the columns and the filters of an aggregator name. -/
def fields (a : Aggregator) : List String := referenced a.constraints a.statColumns a.filters

theorem violations?_agree (a : Aggregator) (index : Nat) {r : ρ} {q : σ}
    (h : AgreeOn a.fields r q) : a.violations? index r = a.violations? index q := by
  have hconstraints : AgreeOn (a.constraints.map (·.field)) r q :=
    h.mono fun _ hf => List.mem_append_left _ (List.mem_append_left _ hf)
  have hcolumns : AgreeOn a.statColumns r q :=
    h.mono fun _ hf => List.mem_append_left _ (List.mem_append_right _ hf)
  have hfilters : AgreeOn (a.filters.map (·.field)) r q :=
    h.mono fun _ hf => List.mem_append_right _ hf
  have hafter : ∀ vs, a.violationsAfter index r vs = a.violationsAfter index q vs := by
    intro vs
    rw [violationsAfter, violationsAfter, FieldConstraint.validateInto_agree index hconstraints,
      addUnreadColumns_agree index hcolumns]
  rw [violations?, violations?, RecordFilter.allAccept_agree hfilters]
  simp only [hafter]

variable {α : Type} [Arithmetic α]

theorem absorb_agree {p : PartialAggregation α} {r : ρ} {q : σ} (h : AgreeOn p.columns r q)
    (vs : Option (List Violation)) : absorb p r vs = absorb p q vs := by
  cases vs with
  | none => rfl
  | some vs =>
    have hfeed : p.tallies.map (feed r) = p.tallies.map (feed q) := by
      refine List.map_congr_left fun t ht => ?_
      rw [feed, feed, h t.column (List.mem_map_of_mem ht)]
    rw [absorb, absorb, hfeed]

end Aggregator

/-! ## Streams -/

/-- Polls of two streams that a run with a limit of its waits cannot tell apart
if it asks for some fields only.  They find items that agree on these fields,
until both runs are over.  A poll that lets a run wait is left out. -/
inductive Alike (limit : Option Duration) (fields : List String) :
    List (Poll ρ) → List (Poll σ) → Prop
  | nil : Alike limit fields [] []
  | ready {r : ρ} {q : σ} (expired expired' : Bool) {polls : List (Poll ρ)}
      {polls' : List (Poll σ)} (hget : AgreeOn fields r q) (h : Alike limit fields polls polls') :
      Alike limit fields (⟨false, .ready r, expired⟩ :: polls)
        (⟨false, .ready q, expired'⟩ :: polls')
  | idle_left {expired : Bool} {polls : List (Poll ρ)} {polls' : List (Poll σ)}
      (hwait : expired = true → limit = none) (h : Alike limit fields polls polls') :
      Alike limit fields (⟨false, .pending, expired⟩ :: polls) polls'
  | idle_right {expired : Bool} {polls : List (Poll ρ)} {polls' : List (Poll σ)}
      (hwait : expired = true → limit = none) (h : Alike limit fields polls polls') :
      Alike limit fields polls (⟨false, .pending, expired⟩ :: polls')
  | failing (e : AuditError) (expired expired' : Bool) (polls : List (Poll ρ))
      (polls' : List (Poll σ)) :
      Alike limit fields (⟨false, .failing e, expired⟩ :: polls)
        (⟨false, .failing e, expired'⟩ :: polls')
  | ended (expired expired' : Bool) (polls : List (Poll ρ)) (polls' : List (Poll σ)) :
      Alike limit fields (⟨false, .ended, expired⟩ :: polls) (⟨false, .ended, expired'⟩ :: polls')
  | cancelled (pull : Pull ρ) (pull' : Pull σ) (expired expired' : Bool) (polls : List (Poll ρ))
      (polls' : List (Poll σ)) :
      Alike limit fields (⟨true, pull, expired⟩ :: polls) (⟨true, pull', expired'⟩ :: polls')
  | expired {wait : Duration} (hlimit : limit = some wait) (polls : List (Poll ρ))
      (polls' : List (Poll σ)) :
      Alike limit fields (⟨false, .pending, true⟩ :: polls) (⟨false, .pending, true⟩ :: polls')

/-- Items of two streams that a run cannot tell apart if it asks for some fields
only.  What follows an item that fails does not matter. -/
inductive ItemsAlike (fields : List String) :
    List (Except AuditError ρ) → List (Except AuditError σ) → Prop
  | nil : ItemsAlike fields [] []
  | ok {r : ρ} {q : σ} {items : List (Except AuditError ρ)} {items' : List (Except AuditError σ)}
      (hget : AgreeOn fields r q) (h : ItemsAlike fields items items') :
      ItemsAlike fields (.ok r :: items) (.ok q :: items')
  | error (e : AuditError) (later : List (Except AuditError ρ))
      (later' : List (Except AuditError σ)) :
      ItemsAlike fields (.error e :: later) (.error e :: later')

/-- Streams that nobody disturbs are alike if their items are, however long each of them waits. -/
theorem alike_of_itemsAlike {limit : Option Duration} {fields : List String}
    {polls : List (Poll ρ)} {polls' : List (Poll σ)} (h : Undisturbed limit polls)
    (h' : Undisturbed limit polls')
    (hitems : ItemsAlike fields (itemsOf polls) (itemsOf polls')) :
    Alike limit fields polls polls' := by
  induction polls generalizing polls' with
  | nil =>
    obtain ⟨poll, hpoll, _⟩ := h.ends
    cases hpoll
  | cons poll rest ih =>
    obtain ⟨cancelled, pull, expired⟩ := poll
    obtain rfl : cancelled = false := h.uncancelled _ List.mem_cons_self
    by_cases hpending : pull = .pending
    · obtain rfl := hpending
      exact .idle_left (h.patient _ List.mem_cons_self rfl) (ih (h.of_cons (by simp)) h' hitems)
    -- The other stream may wait before it comes to the same.
    induction polls' with
    | nil =>
      obtain ⟨poll, hpoll, _⟩ := h'.ends
      cases hpoll
    | cons poll' rest' ih' =>
      obtain ⟨cancelled', pull', expired'⟩ := poll'
      obtain rfl : cancelled' = false := h'.uncancelled _ List.mem_cons_self
      cases pull' with
      | pending =>
        exact .idle_right (h'.patient _ List.mem_cons_self rfl)
          (ih' (h'.of_cons (by simp)) hitems)
      | ready q =>
        cases pull with
        | ready r =>
          cases hitems with
          | ok hget hrest =>
            exact .ready expired expired' hget
              (ih (h.of_cons (by simp)) (h'.of_cons (by simp)) hrest)
        | failing e => cases hitems
        | ended => cases hitems
        | pending => exact absurd rfl hpending
      | failing e =>
        cases pull with
        | ready r => cases hitems
        | failing e' =>
          cases hitems with
          | error => exact .failing e expired expired' rest rest'
        | ended => cases hitems
        | pending => exact absurd rfl hpending
      | ended =>
        cases pull with
        | ready r => cases hitems
        | failing e => cases hitems
        | ended => exact .ended expired expired' rest rest'
        | pending => exact absurd rfl hpending

namespace Aggregator

variable {α : Type} [Arithmetic α]

/-- Runs over polls that cannot be told apart end in the same way, and log the same. -/
theorem drive_alike (a : Aggregator) {polls : List (Poll ρ)} {polls' : List (Poll σ)}
    (h : Alike a.config.recordTimeout a.fields polls polls') {p : PartialAggregation α}
    (hcolumns : p.columns = a.statColumns) : a.drive p polls = a.drive p polls' := by
  induction h generalizing p with
  | nil => rfl
  | ready expired expired' hget _ ih =>
    have hread : AgreeOn p.columns _ _ :=
      hget.mono fun c hc => List.mem_append_left _ (List.mem_append_right _ (hcolumns ▸ hc))
    simp only [drive_ready, a.violations?_agree _ hget, absorb_agree hread,
      ih ((columns_absorb p _ _).trans hcolumns)]
  | idle_left hwait _ ih => rw [a.drive_idle p hwait, ih hcolumns]
  | idle_right hwait _ ih => rw [a.drive_idle p hwait, ih hcolumns]
  | failing e expired expired' polls polls' => rfl
  | ended expired expired' polls polls' => rfl
  | cancelled pull pull' expired expired' polls polls' => rfl
  | expired hlimit polls polls' =>
    rw [drive, drive]
    simp only [hlimit, Bool.false_eq_true, if_false]

/-- Runs over streams that cannot be told apart, and have all fields that are looked at. -/
theorem consume_alike (a : Aggregator) {s : RecordStream ρ} {t : RecordStream σ}
    (hs : ∀ field ∈ a.fields, s.schema.contains field = true)
    (ht : ∀ field ∈ a.fields, t.schema.contains field = true)
    (h : Alike a.config.recordTimeout a.fields s.polls t.polls) :
    (a.consume s : Ending (PartialAggregation α) × List Event) = a.consume t := by
  rw [consume, consume, (a.bind_eq_ok_iff s.schema).mpr hs, (a.bind_eq_ok_iff t.schema).mpr ht]
  simp only [tallies_eq]
  exact a.drive_alike h a.columns_start

/-- Fields that nobody names have no part in a run.  Over two streams that have
the others and cannot be told apart by them, a run comes to the same in
everything that it counts, measures, finds and logs.  Over streams that nobody
disturbs this is the same report, or the same error at the same place. -/
theorem run_readsReferenced (a : Aggregator) (s : RecordStream ρ) (t : RecordStream σ)
    (hs : ∀ field ∈ a.fields, s.schema.contains field = true)
    (ht : ∀ field ∈ a.fields, t.schema.contains field = true) :
    (Alike a.config.recordTimeout a.fields s.polls t.polls →
      (a.consume s : Ending (PartialAggregation α) × List Event) = a.consume t) ∧
    (Undisturbed a.config.recordTimeout s.polls → Undisturbed a.config.recordTimeout t.polls →
      ItemsAlike a.fields (itemsOf s.polls) (itemsOf t.polls) →
      (∀ rs : List ρ, itemsOf s.polls = rs.map .ok →
        ∃ report : Report α, a.run s = .finished report ∧ a.run t = .finished report) ∧
      ∀ (rs : List ρ) (e : AuditError) (later : List (Except AuditError ρ)),
        itemsOf s.polls = rs.map .ok ++ .error e :: later →
        (a.run s : Ending (Report α)) = .failed (.stream rs.length e) ∧
          (a.run t : Ending (Report α)) = .failed (.stream rs.length e)) := by
  refine ⟨a.consume_alike hs ht, fun hsound hsound' hitems => ?_⟩
  have hbind : a.bind s.schema = .ok () := (a.bind_eq_ok_iff s.schema).mpr hs
  have hsame : (a.run t : Ending (Report α)) = a.run s := by
    have halike := alike_of_itemsAlike hsound hsound' hitems
    rw [run, run, runPartial, runPartial, a.consume_alike hs ht halike]
  rw [hsame]
  constructor
  · intro rs hall
    have hrun := (a.endsAfter_finished (α := α) hbind hsound hall).run_eq
    exact ⟨_, hrun, hrun⟩
  · intro rs e later hfirst
    have hrun := (a.endsAfter_failing (α := α) hbind hsound hfirst).run_eq
    exact ⟨hrun, hrun⟩

/-- The columns of a batch whose second field no row can give. -/
def sealedFields : List ColumnField := [⟨"n", .int64, true⟩, ⟨"sealed", .binary, true⟩]

/-- Two rows of a batch, of which the second has no `n`. -/
def sealedBatch : Batch where
  fields := sealedFields
  rows := 2
  columns := [#[some (.integer 4), none], #[some .unreadable, some .unreadable]]
  complete := rfl
  even := by simp

/-- Rows of a batch, and rows of other fields that agree with them on `n`. -/
theorem run_readsReferenced_sealedBatch :
    ∃ (a : Aggregator) (report : Report Float),
      build [.notNull "n"] ["n"] [.isNotNull "n"] .standard = .ok a ∧
        a.run (.ofRecords pairSchema (pairRows.take 2)) = .finished report ∧
        a.run (.ofRecords (.ofColumns sealedFields) sealedBatch.records) = .finished report ∧
        report.filtered = 1 := by
  obtain ⟨a, hbuild⟩ :
      ∃ a, build [.notNull "n"] ["n"] [.isNotNull "n"] .standard = .ok a := ⟨_, rfl⟩
  have hfields : a.fields = ["n", "n", "n"] := by
    obtain rfl := Except.ok.inj hbuild
    rfl
  obtain ⟨_, hsame⟩ := run_readsReferenced (α := Float) a
    (.ofRecords pairSchema (pairRows.take 2))
    (.ofRecords (.ofColumns sealedFields) sealedBatch.records) (by rw [hfields]; decide)
    (by rw [hfields]; decide)
  have hitems : ItemsAlike a.fields
      (itemsOf (RecordStream.ofRecords pairSchema (pairRows.take 2)).polls)
      (itemsOf (RecordStream.ofRecords (.ofColumns sealedFields) sealedBatch.records).polls) := by
    have hn : ∀ (r : Row) (q : ColumnarRecord), Record.get r "n" = Record.get q "n" →
        AgreeOn a.fields r q := fun r q hget field hfield => by
      rw [hfields] at hfield
      obtain rfl : field = "n" := by simpa using hfield
      exact hget
    exact .ok (hn _ _ rfl) (.ok (hn _ _ rfl) .nil)
  obtain ⟨report, hrun, hrun'⟩ := (hsame (undisturbed_ofItems _ _ _) (undisturbed_ofItems _ _ _)
    hitems).1 (pairRows.take 2) rfl
  refine ⟨a, report, hbuild, hrun, hrun', ?_⟩
  obtain rfl := Except.ok.inj hbuild
  obtain rfl := Ending.finished.inj hrun
  rfl

end Aggregator

end RecordAudit
