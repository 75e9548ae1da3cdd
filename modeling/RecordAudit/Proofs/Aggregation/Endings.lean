import RecordAudit.Proofs.Aggregation.SinglePass

/-!
# How a run ends

A run over a stream that nobody disturbs ends in one of three ways: the schema
lacks a field, an item fails, or the stream ends and there is a report.  How
many items have been pulled by then is told by the polls that decide the
ending (`EndsAfter`): whatever comes after them changes nothing, and with fewer
of them the run still goes on.

* `bind_eq` says which field is missed: the first of those in `referenced`.
* `Passes` holds of polls over which a run goes on.  `drive_passes` is a run
  over them, and `exists_passes` finds them at the start of a stream.
* `exists_consume_eq` says of a run that finishes what it has read and all that it
  logs.
* `endsAfter_columnNotFound`, `endsAfter_failing` and `endsAfter_finished` are
  the three endings.  What is logged has no part in them (`fst_runLogged`).
* `RunError` lists the errors of any run, disturbed or not
  (`runError_of_drive`).
* A run keeps tallies, for which no operation fails.  `observeAll` does the same
  with accumulators, any of which might be refused, and `observeAll_eq` says
  that none is.
-/

namespace RecordAudit

variable {ρ : Type}

/-! ## Endings -/

namespace Ending

variable {α β : Type} {f : α → β} {ending : Ending α}

theorem map_eq_unfinished_iff : ending.map f = .unfinished ↔ ending = .unfinished := by
  cases ending <;> simp [Ending.map]

theorem map_eq_failed_iff {e : AuditError} : ending.map f = .failed e ↔ ending = .failed e := by
  cases ending <;> simp [Ending.map]

theorem map_eq_finished_iff {b : β} :
    ending.map f = .finished b ↔ ∃ a, ending = .finished a ∧ f a = b := by
  cases ending <;> simp [Ending.map]

end Ending

/-! ## Items of a stream -/

/-- Whether a poll has found an item, be it a record or an error. -/
def Pull.isItem : Pull ρ → Bool
  | .ready _ => true
  | .failing _ => true
  | .ended => false
  | .pending => false

/-- How many items some polls find. -/
def pulled (polls : List (Poll ρ)) : Nat := polls.countP (·.pull.isItem)

/-- The items that polls find until the stream ends. -/
def itemsOf : List (Poll ρ) → List (Except AuditError ρ)
  | [] => []
  | poll :: rest =>
    match poll.pull with
    | .ready r => .ok r :: itemsOf rest
    | .failing e => .error e :: itemsOf rest
    | .ended => []
    | .pending => itemsOf rest

/-- Polls of a stream that ends, that nobody cancels, and where no wait lasts
too long. -/
structure Undisturbed (limit : Option Duration) (polls : List (Poll ρ)) : Prop where
  ends : ∃ poll ∈ polls, poll.pull = .ended
  uncancelled : ∀ poll ∈ polls, poll.cancelled = false
  patient : ∀ poll ∈ polls, poll.pull = .pending → poll.expired = true → limit = none

theorem undisturbed_ofItems (limit : Option Duration) (schema : Schema)
    (items : List (Except AuditError ρ)) :
    Undisturbed limit (RecordStream.ofItems schema items).polls := by
  have hnone : ∀ item : Except AuditError ρ, (RecordStream.pollOf item).cancelled = false ∧
      (RecordStream.pollOf item).expired = false := by
    intro item
    cases item <;> exact ⟨rfl, rfl⟩
  refine ⟨⟨_, List.mem_append_right _ (List.mem_singleton_self _), rfl⟩, ?_, ?_⟩
  · intro poll hpoll
    rcases List.mem_append.mp hpoll with hpoll | hpoll
    · obtain ⟨item, _, rfl⟩ := List.mem_map.mp hpoll
      exact (hnone item).1
    · rw [List.mem_singleton.mp hpoll]
  · intro poll hpoll hpending hexpired
    rcases List.mem_append.mp hpoll with hpoll | hpoll
    · obtain ⟨item, _, rfl⟩ := List.mem_map.mp hpoll
      rw [(hnone item).2] at hexpired
      cases hexpired
    · rw [List.mem_singleton.mp hpoll] at hpending
      cases hpending

theorem Undisturbed.of_cons {limit : Option Duration} {poll : Poll ρ} {rest : List (Poll ρ)}
    (h : Undisturbed limit (poll :: rest)) (hpoll : poll.pull ≠ .ended) :
    Undisturbed limit rest := by
  refine ⟨?_, fun p hp => h.uncancelled p (List.mem_cons_of_mem poll hp),
    fun p hp => h.patient p (List.mem_cons_of_mem poll hp)⟩
  obtain ⟨p, hp, hend⟩ := h.ends
  rcases List.mem_cons.mp hp with rfl | hp
  · exact absurd hend hpoll
  · exact ⟨p, hp, hend⟩

theorem exists_map_ok {items : List (Except AuditError ρ)} (h : ∀ e, .error e ∉ items) :
    ∃ rs : List ρ, items = rs.map .ok := by
  induction items with
  | nil => exact ⟨[], rfl⟩
  | cons item rest ih =>
    obtain ⟨rs, rfl⟩ := ih fun e he => h e (List.mem_cons_of_mem item he)
    cases item with
    | error e => exact absurd (List.mem_cons_self) (h e)
    | ok r => exact ⟨r :: rs, rfl⟩

/-- Polls over which a run goes on, with the records that it reads. -/
inductive Passes (limit : Option Duration) : List (Poll ρ) → List ρ → Prop
  | nil : Passes limit [] []
  | ready (r : ρ) (expired : Bool) {polls : List (Poll ρ)} {rs : List ρ}
      (h : Passes limit polls rs) : Passes limit (⟨false, .ready r, expired⟩ :: polls) (r :: rs)
  | pending {expired : Bool} {polls : List (Poll ρ)} {rs : List ρ}
      (hwait : expired = true → limit = none) (h : Passes limit polls rs) :
      Passes limit (⟨false, .pending, expired⟩ :: polls) rs

namespace Passes

variable {limit : Option Duration} {polls : List (Poll ρ)} {rs : List ρ}

theorem pulled_eq (h : Passes limit polls rs) : pulled polls = rs.length := by
  induction h with
  | nil => rfl
  | ready r expired _ ih => simpa [pulled, Pull.isItem] using ih
  | pending hwait _ ih => simpa [pulled, Pull.isItem] using ih

theorem of_prefix (h : Passes limit polls rs) {short : List (Poll ρ)} (hshort : short <+: polls) :
    ∃ read, Passes limit short read := by
  induction h generalizing short with
  | nil =>
    obtain rfl := List.prefix_nil.mp hshort
    exact ⟨[], .nil⟩
  | ready r expired _ ih =>
    rcases List.prefix_cons_iff.mp hshort with rfl | ⟨rest, rfl, hrest⟩
    · exact ⟨[], .nil⟩
    · obtain ⟨read, hread⟩ := ih hrest
      exact ⟨r :: read, .ready r expired hread⟩
  | pending hwait _ ih =>
    rcases List.prefix_cons_iff.mp hshort with rfl | ⟨rest, rfl, hrest⟩
    · exact ⟨[], .nil⟩
    · obtain ⟨read, hread⟩ := ih hrest
      exact ⟨read, .pending hwait hread⟩

/-- The items that polls find over which a run goes on are the records that it reads. -/
theorem itemsOf_append (h : Passes limit polls rs) (rest : List (Poll ρ)) :
    itemsOf (polls ++ rest) = rs.map .ok ++ itemsOf rest := by
  induction h with
  | nil => rfl
  | ready r expired _ ih => exact congrArg _ ih
  | pending hwait _ ih => exact ih

end Passes

/-- A poll that is not pending and is followed by no item is the end. -/
theorem ended_of_itemsOf {poll : Poll ρ} {rest : List (Poll ρ)} (hpull : poll.pull ≠ .pending)
    (h : itemsOf (poll :: rest) = []) : poll.pull = .ended := by
  rw [itemsOf] at h
  split at h
  · cases h
  · cases h
  · assumption
  · contradiction

theorem failing_of_itemsOf {poll : Poll ρ} {rest : List (Poll ρ)} {e : AuditError}
    {later : List (Except AuditError ρ)} (hpull : poll.pull ≠ .pending)
    (h : itemsOf (poll :: rest) = .error e :: later) : poll.pull = .failing e := by
  rw [itemsOf] at h
  split at h
  · simp at h
  · next e' hfailing =>
    obtain ⟨rfl, _⟩ : e' = e ∧ _ := by simpa using h
    exact hfailing
  · cases h
  · contradiction

/-- A stream that nobody disturbs begins with polls that deliver its first
records.  They are followed by a poll that finds what comes next. -/
theorem exists_passes {limit : Option Duration} {polls : List (Poll ρ)}
    (h : Undisturbed limit polls) {rs : List ρ} {tail : List (Except AuditError ρ)}
    (htail : ∀ r later, tail ≠ .ok r :: later) (hitems : itemsOf polls = rs.map .ok ++ tail) :
    ∃ front poll rest, polls = front ++ poll :: rest ∧ Passes limit front rs ∧
      poll.cancelled = false ∧ poll.pull ≠ .pending ∧ itemsOf (poll :: rest) = tail := by
  induction polls generalizing rs with
  | nil =>
    obtain ⟨poll, hpoll, _⟩ := h.ends
    cases hpoll
  | cons poll rest ih =>
    obtain ⟨cancelled, pull, expired⟩ := poll
    obtain rfl : cancelled = false := h.uncancelled _ List.mem_cons_self
    -- Without a record before it, what comes next is found by this poll.
    have hhere : pull ≠ .pending → rs = [] →
        ∃ front poll' rest', (⟨false, pull, expired⟩ : Poll ρ) :: rest = front ++ poll' :: rest' ∧
          Passes limit front rs ∧ poll'.cancelled = false ∧ poll'.pull ≠ .pending ∧
          itemsOf (poll' :: rest') = tail := by
      rintro hpull rfl
      exact ⟨[], _, rest, rfl, .nil, rfl, hpull, hitems⟩
    cases pull with
    | ended =>
      refine hhere (by simp) ?_
      have hnil : ([] : List (Except AuditError ρ)) = rs.map .ok ++ tail := hitems
      simpa using (List.append_eq_nil_iff.mp hnil.symm).1
    | failing e =>
      refine hhere (by simp) ?_
      cases rs with
      | nil => rfl
      | cons r rs => simp [itemsOf] at hitems
    | ready r =>
      cases rs with
      | nil => exact absurd hitems.symm (htail r _)
      | cons r' rs =>
        simp only [itemsOf, List.map_cons, List.cons_append, List.cons.injEq,
          Except.ok.injEq] at hitems
        obtain ⟨rfl, hitems⟩ := hitems
        obtain ⟨front, poll, rest', rfl, hpasses, hfound⟩ := ih (h.of_cons (by simp)) hitems
        exact ⟨_ :: front, poll, rest', rfl, .ready r expired hpasses, hfound⟩
    | pending =>
      have hwait : expired = true → limit = none := h.patient _ List.mem_cons_self rfl
      obtain ⟨front, poll, rest', rfl, hpasses, hfound⟩ := ih (h.of_cons (by simp)) hitems
      exact ⟨_ :: front, poll, rest', rfl, .pending hwait hpasses, hfound⟩

namespace Aggregator

/-! ## Fields that are looked at -/

/-- The fields that a run looks at, in the order in which the schema is checked. -/
def referenced (constraints : List FieldConstraint) (columns : List String)
    (filters : List RecordFilter) : List String :=
  constraints.map (·.field) ++ columns ++ filters.map (·.field)

/-- The first field that a schema lacks of those that a run looks at. -/
def missing? (constraints : List FieldConstraint) (columns : List String)
    (filters : List RecordFilter) (s : Schema) : Option String :=
  (referenced constraints columns filters).find? fun field => !s.contains field

theorem forM_bind_eq (filters : List RecordFilter) (s : Schema) :
    (filters.forM (·.bind s) : Except AuditError Unit) =
      match (filters.map (·.field)).find? fun field => !s.contains field with
      | some field => .error (.columnNotFound field)
      | none => .ok () := by
  induction filters with
  | nil => rfl
  | cons f rest ih =>
    have hcons : ((f :: rest).forM (·.bind s) : Except AuditError Unit) =
        (f.bind s >>= fun _ => rest.forM (·.bind s)) := rfl
    rw [hcons, ih, List.map_cons, List.find?_cons, RecordFilter.bind]
    cases s.contains f.field with
    | true => rfl
    | false => rfl

/-- A schema is refused for the first field that it lacks. -/
theorem bind_eq (a : Aggregator) (s : Schema) :
    a.bind s =
      match missing? a.constraints a.statColumns a.filters s with
      | some field => .error (.columnNotFound field)
      | none => .ok () := by
  have hfields : (a.constraints.map (·.field)).find? (fun field => !s.contains field) =
      (a.constraints.find? fun c => !s.contains c.field).map (·.field) := List.find?_map
  rw [Aggregator.bind, forM_bind_eq, FieldConstraint.bindAll, missing?, referenced,
    List.find?_append, List.find?_append, hfields]
  cases a.constraints.find? fun c => !s.contains c.field with
  | some c => rfl
  | none =>
    cases a.statColumns.find? fun c => !s.contains c with
    | some c => rfl
    | none => rfl

/-- A schema is good for a run if it has all fields that the run looks at. -/
theorem bind_eq_ok_iff (a : Aggregator) (s : Schema) :
    a.bind s = .ok () ↔
      ∀ field ∈ referenced a.constraints a.statColumns a.filters, s.contains field = true := by
  have hnone : missing? a.constraints a.statColumns a.filters s = none ↔
      ∀ field ∈ referenced a.constraints a.statColumns a.filters, s.contains field = true := by
    simp [missing?, List.find?_eq_none]
  rw [bind_eq, ← hnone]
  cases missing? a.constraints a.statColumns a.filters s <;> simp

/-- To leave out columns that came before does not change which is the first of
some kind. -/
theorem find?_foldl_onlyFirst (p : String → Bool) (columns kept : List String) :
    (columns.foldl (fun kept c => if kept.contains c then kept else kept ++ [c]) kept).find? p =
      (kept ++ columns).find? p := by
  induction columns generalizing kept with
  | nil => simp
  | cons c rest ih =>
    rw [List.foldl_cons, ih]
    split
    · next hc =>
      have hmem : c ∈ kept := by simpa using hc
      rw [List.find?_append, List.find?_append, List.find?_cons]
      cases hkept : kept.find? p with
      | some d => rfl
      | none =>
        have hnot : p c = false := by simpa using List.find?_eq_none.mp hkept c hmem
        rw [hnot]
    · rw [List.append_assoc, List.singleton_append]

theorem missing?_of_build {constraints : List FieldConstraint} {columns : List String}
    {filters : List RecordFilter} {config : AggregatorConfig} {a : Aggregator}
    (h : build constraints columns filters config = .ok a) (s : Schema) :
    missing? a.constraints a.statColumns a.filters s =
      missing? constraints columns filters s := by
  have hconstraints : a.constraints = constraints := by
    rw [build] at h
    split at h
    · obtain rfl := Except.ok.inj h
      rfl
    · cases h
  obtain ⟨hcolumns, hfilters, _⟩ := of_build h
  have hfind := find?_foldl_onlyFirst (fun field => !s.contains field) columns []
  rw [missing?, missing?, referenced, referenced, hconstraints, hcolumns, hfilters,
    List.find?_append, List.find?_append, List.find?_append, List.find?_append]
  rw [onlyFirst, hfind, List.nil_append]

/-! ## Runs over the start of a stream -/

variable [Record ρ] {α : Type} [Arithmetic α]

/-- What is logged of some records. -/
def logged (a : Aggregator) (first : Nat) (rs : List ρ) : List Event :=
  (rs.zipIdx first).flatMap fun x => recordEvents a.config.log x.2 (a.violations? x.2 x.1)

/-- A run over polls that deliver records logs these, and goes on from the state after them. -/
theorem drive_passes (a : Aggregator) {front : List (Poll ρ)} {rs : List ρ}
    (h : Passes a.config.recordTimeout front rs) (p : PartialAggregation α)
    (rest : List (Poll ρ)) :
    a.drive p (front ++ rest) =
      ((a.drive (a.after p rs) rest).1,
        a.logged p.recordsRead rs ++ (a.drive (a.after p rs) rest).2) := by
  induction h generalizing p with
  | nil => rw [after_nil, List.nil_append, logged, List.zipIdx_nil, List.flatMap_nil,
      List.nil_append]
  | @ready r expired polls rs _ ih =>
    have hread : (absorb p r (a.violations? p.recordsRead r)).recordsRead = p.recordsRead + 1 := by
      cases a.violations? p.recordsRead r <;> rfl
    rw [List.cons_append, drive_ready]
    simp only [ih, after_absorb, hread, logged, List.zipIdx_cons, List.flatMap_cons,
      List.append_assoc]
  | pending hwait _ ih =>
    rw [List.cons_append, a.drive_idle p hwait]
    exact ih p

theorem drive_append (a : Aggregator) {front : List (Poll ρ)} {rs : List ρ}
    (h : Passes a.config.recordTimeout front rs) (p : PartialAggregation α)
    (rest : List (Poll ρ)) :
    (a.drive p (front ++ rest)).1 = (a.drive (a.after p rs) rest).1 := by
  rw [a.drive_passes h]

theorem drive_failing (a : Aggregator) (p : PartialAggregation α) {poll : Poll ρ} {e : AuditError}
    (hcancelled : poll.cancelled = false) (hpull : poll.pull = .failing e)
    (rest : List (Poll ρ)) :
    (a.drive p (poll :: rest)).1 = .failed (.stream p.recordsRead e) := by
  rw [drive, hcancelled]
  simp only [Bool.false_eq_true, if_false, hpull]

theorem drive_ended (a : Aggregator) (p : PartialAggregation α) {poll : Poll ρ}
    (hcancelled : poll.cancelled = false) (hpull : poll.pull = .ended) (rest : List (Poll ρ)) :
    a.drive p (poll :: rest) =
      (.finished p, if a.config.log.records then [.streamExhausted p.recordsRead] else []) := by
  rw [drive, hcancelled]
  simp only [Bool.false_eq_true, if_false, hpull]

theorem run_eq (a : Aggregator) {s : RecordStream ρ} (hbind : a.bind s.schema = .ok ())
    (polls : List (Poll ρ)) :
    (a.run { s with polls } : Ending (Report α)) =
      (a.drive (.start (a.statColumns.map a.freshTally)) polls).1.map (·.finish) := by
  rw [run, runPartial, consume, hbind]
  simp only [tallies_eq]

/-- A run ends in the same way whether or not it is logged. -/
theorem fst_runLogged (a : Aggregator) (s : RecordStream ρ) : (a.runLogged s).1 = a.run s := by
  rw [runLogged, run, runPartial]
  cases (a.consume s : Ending (PartialAggregation Float) × List Event) with
  | mk ending events => cases ending <;> rfl

/-- A run ends in some way after so many items.  It does so after polls that
find these items, whatever comes next, and not before. -/
def EndsAfter (a : Aggregator) (s : RecordStream ρ) (count : Nat) (ending : Ending (Report α)) :
    Prop :=
  ∃ front, front <+: s.polls ∧ pulled front = count ∧
    (∀ rest, a.run { s with polls := front ++ rest } = ending) ∧
    ∀ short, short <+: front → short ≠ front →
      (a.run { s with polls := short } : Ending (Report α)) = .unfinished

theorem EndsAfter.run_eq {a : Aggregator} {s : RecordStream ρ} {count : Nat}
    {ending : Ending (Report α)} (h : a.EndsAfter s count ending) : a.run s = ending := by
  obtain ⟨front, ⟨rest, hpolls⟩, _, hending, _⟩ := h
  have hrun := hending rest
  rwa [hpolls] at hrun

theorem endsAfter_of_passes (a : Aggregator) {s : RecordStream ρ}
    (hbind : a.bind s.schema = .ok ()) {front : List (Poll ρ)} {poll : Poll ρ}
    {rest : List (Poll ρ)} {rs : List ρ} (hpolls : s.polls = front ++ poll :: rest)
    (hpasses : Passes a.config.recordTimeout front rs) {ending : Ending (PartialAggregation α)}
    (hending : ∀ later, (a.drive (a.reached rs) (poll :: later)).1 = ending) :
    a.EndsAfter s (rs.length + if poll.pull.isItem then 1 else 0) (ending.map (·.finish)) := by
  refine ⟨front ++ [poll], ⟨rest, by simp [hpolls]⟩, ?_, ?_, ?_⟩
  · rw [← hpasses.pulled_eq, pulled, List.countP_append, List.countP_singleton]
    rfl
  · intro later
    rw [a.run_eq hbind, List.append_assoc, List.singleton_append, a.drive_append hpasses]
    exact congrArg _ (hending later)
  · intro short hshort hne
    rw [List.prefix_concat_iff] at hshort
    obtain ⟨read, hread⟩ := hpasses.of_prefix (hshort.resolve_left hne)
    have hdrive := a.drive_append hread (.start (a.statColumns.map (a.freshTally (α := α)))) []
    rw [List.append_nil] at hdrive
    rw [a.run_eq hbind, hdrive]
    rfl

/-! ## Runs that finish -/

/-- A run that finishes goes on until it comes to the end of its stream. -/
theorem exists_passes_of_drive (a : Aggregator) {polls : List (Poll ρ)}
    {p q : PartialAggregation α} (h : (a.drive p polls).1 = .finished q) :
    ∃ front poll rest rs, polls = front ++ poll :: rest ∧
      Passes a.config.recordTimeout front rs ∧ poll.cancelled = false ∧ poll.pull = .ended := by
  induction polls generalizing p with
  | nil => cases h
  | cons poll rest ih =>
    obtain ⟨cancelled, pull, expired⟩ := poll
    cases cancelled with
    | true => cases h
    | false =>
      cases pull with
      | failing e => cases h
      | ended => exact ⟨[], _, rest, [], rfl, .nil, rfl, rfl⟩
      | ready r =>
        obtain ⟨front, poll, rest', rs, rfl, hpasses, hends⟩ := ih h
        exact ⟨_ :: front, poll, rest', r :: rs, rfl, .ready r expired hpasses, hends⟩
      | pending =>
        rw [drive] at h
        simp only [Bool.false_eq_true, if_false] at h
        split at h
        · cases h
        · next hwait =>
          obtain ⟨front, poll, rest', rs, rfl, hpasses, hends⟩ := ih h
          refine ⟨_ :: front, poll, rest', rs, rfl, .pending (fun hexpired => ?_) hpasses, hends⟩
          exact Option.eq_none_iff_forall_ne_some.mpr (hwait · hexpired)

/-- A run that finishes has read all items of its stream, and logs what there is to log of
each of them and of the end. -/
theorem exists_drive_eq (a : Aggregator) {polls : List (Poll ρ)} {p q : PartialAggregation α}
    (h : (a.drive p polls).1 = .finished q) :
    ∃ rs, itemsOf polls = rs.map .ok ∧
      a.drive p polls = (.finished (a.after p rs), a.logged p.recordsRead rs ++
        if a.config.log.records then [.streamExhausted (p.recordsRead + rs.length)] else []) := by
  obtain ⟨front, poll, rest, rs, rfl, hpasses, hcancelled, hpull⟩ := a.exists_passes_of_drive h
  refine ⟨rs, ?_, ?_⟩
  · rw [hpasses.itemsOf_append, itemsOf, hpull, List.append_nil]
  · rw [a.drive_passes hpasses, a.drive_ended _ hcancelled hpull]
    rfl

theorem exists_consume_eq (a : Aggregator) {s : RecordStream ρ} {p : PartialAggregation α}
    (h : a.runPartial s = .finished p) :
    ∃ rs, itemsOf s.polls = rs.map .ok ∧ p = a.reached rs ∧
      a.consume s = (.finished p, a.logged 0 rs ++
        if a.config.log.records then [.streamExhausted rs.length] else []) := by
  rw [runPartial, consume] at h
  rw [consume]
  cases hbind : a.bind s.schema with
  | error e => simp [hbind] at h
  | ok u =>
    simp only [hbind, tallies_eq] at h ⊢
    obtain ⟨rs, hitems, hdrive⟩ := a.exists_drive_eq h
    have hp : p = a.reached rs := by
      rw [hdrive] at h
      exact (Ending.finished.inj h).symm
    refine ⟨rs, hitems, hp, ?_⟩
    rw [hdrive, hp]
    simp only [PartialAggregation.start, Nat.zero_add, reached]

theorem exists_reached_of_runPartial (a : Aggregator) {s : RecordStream ρ}
    {p : PartialAggregation α} (h : a.runPartial s = .finished p) :
    ∃ rs, itemsOf s.polls = rs.map .ok ∧ p = a.reached rs := by
  obtain ⟨rs, hitems, hp, _⟩ := a.exists_consume_eq h
  exact ⟨rs, hitems, hp⟩

/-! ## The three endings -/

theorem endsAfter_columnNotFound (a : Aggregator) {s : RecordStream ρ} {field : String}
    (h : missing? a.constraints a.statColumns a.filters s.schema = some field) :
    a.EndsAfter s 0 (.failed (.columnNotFound field) : Ending (Report α)) := by
  have hrun : ∀ polls : List (Poll ρ), (a.run { s with polls } : Ending (Report α)) =
      .failed (.columnNotFound field) := by
    intro polls
    rw [run, runPartial, consume, bind_eq, h]
    rfl
  refine ⟨[], List.nil_prefix, rfl, fun rest => hrun _, fun short hshort hne => ?_⟩
  exact absurd (List.prefix_nil.mp hshort) hne

/-- The first item that fails ends the run, whatever became of the records before it. -/
theorem endsAfter_failing (a : Aggregator) {s : RecordStream ρ}
    (hbind : a.bind s.schema = .ok ()) (hs : Undisturbed a.config.recordTimeout s.polls)
    {rs : List ρ} {e : AuditError} {later : List (Except AuditError ρ)}
    (hitems : itemsOf s.polls = rs.map .ok ++ .error e :: later) :
    a.EndsAfter s (rs.length + 1) (.failed (.stream rs.length e) : Ending (Report α)) := by
  obtain ⟨front, poll, rest, hpolls, hpasses, hcancelled, hpending, hfound⟩ :=
    exists_passes hs (by simp) hitems
  have hpull := failing_of_itemsOf hpending hfound
  have hends := a.endsAfter_of_passes (α := α) hbind hpolls hpasses fun later =>
    a.drive_failing _ hcancelled hpull later
  simpa [hpull, Pull.isItem, reached, after, PartialAggregation.start, Ending.map] using hends

theorem endsAfter_finished (a : Aggregator) {s : RecordStream ρ}
    (hbind : a.bind s.schema = .ok ()) (hs : Undisturbed a.config.recordTimeout s.polls)
    {rs : List ρ} (hitems : itemsOf s.polls = rs.map .ok) :
    a.EndsAfter s rs.length (.finished (a.reached rs : PartialAggregation α).finish) := by
  have hall : itemsOf s.polls = rs.map .ok ++ [] := by rw [hitems, List.append_nil]
  obtain ⟨front, poll, rest, hpolls, hpasses, hcancelled, hpending, hfound⟩ :=
    exists_passes hs (by simp) hall
  have hpull := ended_of_itemsOf hpending hfound
  have hends := a.endsAfter_of_passes (α := α) hbind hpolls hpasses fun later =>
    congrArg Prod.fst (a.drive_ended _ hcancelled hpull later)
  simpa [hpull, Pull.isItem, Ending.map] using hends

/-! ## Errors -/

/-- The errors with which a run over some polls may end, where a field is
missing and with a limit of the waits. -/
inductive RunError (missing : Option String) (limit : Option Duration) (polls : List (Poll ρ)) :
    AuditError → Prop
  | columnNotFound {field : String} (h : missing = some field) :
      RunError missing limit polls (.columnNotFound field)
  | stream (recordsRead : Nat) {e : AuditError} (h : ∃ poll ∈ polls, poll.pull = .failing e) :
      RunError missing limit polls (.stream recordsRead e)
  | cancelled (recordsRead : Nat) (h : ∃ poll ∈ polls, poll.cancelled = true) :
      RunError missing limit polls (.cancelled recordsRead)
  | timeout (recordsRead : Nat) {wait : Duration} (hlimit : limit = some wait)
      (h : ∃ poll ∈ polls, poll.expired = true) :
      RunError missing limit polls (.timeout recordsRead wait)

omit [Record ρ] in
theorem RunError.cons {missing : Option String} {limit : Option Duration}
    {polls : List (Poll ρ)} {e : AuditError} (h : RunError missing limit polls e)
    (poll : Poll ρ) : RunError missing limit (poll :: polls) e := by
  cases h with
  | columnNotFound h => exact .columnNotFound h
  | stream n h => exact .stream n (h.imp fun _ h => ⟨List.mem_cons_of_mem _ h.1, h.2⟩)
  | cancelled n h => exact .cancelled n (h.imp fun _ h => ⟨List.mem_cons_of_mem _ h.1, h.2⟩)
  | timeout n hlimit h =>
    exact .timeout n hlimit (h.imp fun _ h => ⟨List.mem_cons_of_mem _ h.1, h.2⟩)

theorem runError_of_drive (a : Aggregator) (missing : Option String) {polls : List (Poll ρ)}
    {p : PartialAggregation α} {e : AuditError} (h : (a.drive p polls).1 = .failed e) :
    RunError missing a.config.recordTimeout polls e := by
  induction polls generalizing p with
  | nil => cases h
  | cons poll rest ih =>
    rw [drive] at h
    split at h
    · next hcancelled =>
      obtain rfl := Ending.failed.inj h
      exact .cancelled _ ⟨poll, List.mem_cons_self, hcancelled⟩
    · split at h
      · exact (ih h).cons poll
      · next hpull =>
        obtain rfl := Ending.failed.inj h
        exact .stream _ ⟨poll, List.mem_cons_self, hpull⟩
      · cases h
      · split at h
        · next hexpired hlimit =>
          obtain rfl := Ending.failed.inj h
          exact .timeout _ hlimit ⟨poll, List.mem_cons_self, hexpired⟩
        · exact (ih h).cons poll

theorem runError_of_runPartial (a : Aggregator) {s : RecordStream ρ} {e : AuditError}
    (h : (a.runPartial s : Ending (PartialAggregation α)) = .failed e) :
    RunError (missing? a.constraints a.statColumns a.filters s.schema) a.config.recordTimeout
      s.polls e := by
  rw [runPartial, consume, bind_eq] at h
  cases hmissing : missing? a.constraints a.statColumns a.filters s.schema with
  | some field =>
    rw [hmissing] at h
    obtain rfl := Ending.failed.inj h
    exact .columnNotFound rfl
  | none =>
    simp only [hmissing, tallies_eq] at h
    exact a.runError_of_drive none h

theorem runPartial_of_run_eq_failed {a : Aggregator} {s : RecordStream ρ} {e : AuditError}
    (h : (a.run s : Ending (Report α)) = .failed e) :
    (a.runPartial s : Ending (PartialAggregation α)) = .failed e :=
  Ending.map_eq_failed_iff.mp h

/-! ## Accumulators that might refuse a value -/

/-- The accumulators of a state, all of them open. -/
def accumulators (p : PartialAggregation α) : List (Accumulator α) :=
  p.tallies.map fun t => ⟨t, none⟩

/-- Takes the value of its column into an accumulator, if the value can be read. -/
def observeCell (r : ρ) (acc : Accumulator α) : Except AuditError (Accumulator α) :=
  match Record.get r acc.tally.column with
  | .ok v => acc.observeValue v
  | .error _ => .ok acc

/-- Makes an accumulator for each column and has it observe the records that are
kept.  The first refusal is the result. -/
def observeAll (a : Aggregator) (rs : List ρ) : Except AuditError (List (Accumulator α)) := do
  let fresh ← (a.statColumns.mapM fun c => Accumulator.new c a.config.sketchOptions).mapError
    AuditError.configuration
  (rs.filter (RecordFilter.keeps a.filters)).foldlM
    (fun accs r => accs.mapM (observeCell r)) fresh

theorem observeCell_open (r : ρ) (t : Tally α) :
    observeCell r ⟨t, none⟩ = .ok ⟨feed r t, none⟩ := by
  rw [observeCell, feed]
  cases Record.get r t.column with
  | error e => rfl
  | ok v => exact Accumulator.observeValue_eq_ok_iff.mpr ⟨rfl, rfl⟩

/-- One record: no open accumulator refuses its value. -/
theorem mapM_observeCell (r : ρ) (ts : List (Tally α)) :
    (ts.map fun t => (⟨t, none⟩ : Accumulator α)).mapM (observeCell r) =
      .ok ((ts.map (feed r)).map fun t => ⟨t, none⟩) := by
  induction ts with
  | nil => rfl
  | cons t rest ih =>
    rw [List.map_cons, List.mapM_cons, observeCell_open, ih]
    rfl

theorem foldlM_observeCell (rs : List ρ) (ts : List (Tally α)) :
    rs.foldlM (fun accs r => accs.mapM (observeCell r))
        (ts.map fun t => (⟨t, none⟩ : Accumulator α)) =
      .ok ((ts.map fun t => (cells t.column rs).foldl Tally.observeValue t).map
        fun t => ⟨t, none⟩) := by
  induction rs generalizing ts with
  | nil => simp [cells]; rfl
  | cons r rest ih =>
    rw [List.foldlM_cons, mapM_observeCell]
    refine (ih _).trans ?_
    simp only [List.map_map, Function.comp_def, foldl_cells_feed]

/-- In a run no accumulator is refused and none refuses a value. -/
theorem observeAll_eq (a : Aggregator) (rs : List ρ) :
    (a.observeAll rs : Except AuditError (List (Accumulator α))) =
      .ok (accumulators (a.reached rs)) := by
  have hfresh : (a.statColumns.mapM fun c => Accumulator.new c a.config.sketchOptions) =
      .ok ((a.statColumns.map (a.freshTally (α := α))).map fun t => ⟨t, none⟩) := by
    have hnew : ∀ c, Accumulator.new c a.config.sketchOptions =
        .ok (⟨a.freshTally c, none⟩ : Accumulator α) := fun c =>
      Accumulator.new_eq_ok_iff.mpr ⟨_, a.new_eq_freshTally c, rfl⟩
    simp only [hnew, List.map_map]
    exact List.mapM_pure
  rw [observeAll, hfresh]
  exact foldlM_observeCell _ _

/-! ## The run -/

/-- How a run of a built aggregator ends.  A field that the schema lacks is told
before any item is pulled.  Otherwise the run ends with the first item that
fails, whatever became of the records before it, or else with a report.  No
other errors come out of a run, not even of one that is cancelled or waits too
long: the accumulators can be made, and they take in every value. -/
theorem run_endsAfter {constraints : List FieldConstraint} {columns : List String}
    {filters : List RecordFilter} {config : AggregatorConfig} {a : Aggregator}
    (hbuild : build constraints columns filters config = .ok a) (s : RecordStream ρ) :
    (∀ field, missing? constraints columns filters s.schema = some field →
      a.EndsAfter s 0 (.failed (.columnNotFound field) : Ending (Report α))) ∧
    (missing? constraints columns filters s.schema = none →
      Undisturbed config.recordTimeout s.polls →
      (∀ items e later, itemsOf s.polls = items ++ .error e :: later → (∀ e', .error e' ∉ items) →
        a.EndsAfter s (items.length + 1)
          (.failed (.stream items.length e) : Ending (Report α))) ∧
      ((∀ e, .error e ∉ itemsOf s.polls) →
        ∃ report : Report α, a.EndsAfter s (itemsOf s.polls).length (.finished report))) ∧
    (∀ e, (a.run s : Ending (Report α)) = .failed e ∨
        (a.runPartial s : Ending (PartialAggregation α)) = .failed e →
      RunError (missing? constraints columns filters s.schema) config.recordTimeout s.polls e) ∧
    ∀ rs : List ρ, (a.observeAll rs : Except AuditError (List (Accumulator α))) =
      .ok (accumulators (a.reached rs)) := by
  obtain ⟨_, _, rfl⟩ := of_build hbuild
  rw [← missing?_of_build hbuild]
  refine ⟨fun field hfield => a.endsAfter_columnNotFound hfield, ?_, ?_, a.observeAll_eq⟩
  · intro hnone hs
    have hbind : a.bind s.schema = .ok () := by rw [bind_eq, hnone]
    constructor
    · intro items e later hitems hfirst
      obtain ⟨rs, rfl⟩ := exists_map_ok hfirst
      rw [List.length_map]
      exact a.endsAfter_failing hbind hs hitems
    · intro hall
      obtain ⟨rs, hitems⟩ := exists_map_ok hall
      rw [hitems, List.length_map]
      exact ⟨_, a.endsAfter_finished hbind hs hitems⟩
  · intro e he
    rcases he with hrun | hpartial
    · exact a.runError_of_runPartial (runPartial_of_run_eq_failed hrun)
    · exact a.runError_of_runPartial hpartial

/-- Two rows, of which the second is filtered out, then an item that fails and
one that nobody asks for. -/
def tornItems : List (Except AuditError Row) :=
  [.ok (.ofValues pairSchema [.integer 4, .float 1]), .ok (.ofValues pairSchema [.null, .float 2]),
    .error (.internal (.stated "torn")), .ok (.ofValues pairSchema [.integer 6])]

theorem run_endsAfter_tornItems :
    ∃ a : Aggregator,
      build [.notNull "m"] ["n", "m", "n"] [.isNotNull "n"] .standard = .ok a ∧
        a.EndsAfter (.ofItems pairSchema tornItems) 3
          (.failed (.stream 2 (.internal (.stated "torn"))) : Ending (Report Float)) ∧
        a.EndsAfter (.ofItems ⟨[⟨"n", .integer, true⟩]⟩ tornItems) 0
          (.failed (.columnNotFound "m") : Ending (Report Float)) := by
  obtain ⟨a, hbuild⟩ :
      ∃ a, build [.notNull "m"] ["n", "m", "n"] [.isNotNull "n"] .standard = .ok a := ⟨_, rfl⟩
  obtain ⟨_, hends, _⟩ :=
    run_endsAfter (α := Float) hbuild (RecordStream.ofItems pairSchema tornItems)
  obtain ⟨hmissing, _⟩ := run_endsAfter (α := Float) hbuild
    (RecordStream.ofItems ⟨[⟨"n", .integer, true⟩]⟩ tornItems)
  refine ⟨a, hbuild, ?_, hmissing "m" rfl⟩
  exact (hends rfl (undisturbed_ofItems _ pairSchema tornItems)).1
    (tornItems.take 2) (.internal (.stated "torn")) (tornItems.drop 3) rfl (by simp [tornItems])

end Aggregator

end RecordAudit
