import RecordAudit.Proofs.Aggregation.Endings
import RecordAudit.Proofs.Constraint.ReadViolations

/-!
# What a run tells of its report

The events of a run are told while it goes on, from what is found of one record
after the other, and its report is put together at the end.  `Recounts` says how
the two agree, event by event.

* `Event.map_ofTrace?_saying` gets the events of a report back from the fields
  that a trace shows of them.
* `violations_recordEvents` and `filteredOut_recordEvents` are what is told of
  one record: its violations if it is kept, and otherwise its place.
* `violations_logged` and `filteredOut_logged` are what is told of all records
  that a run reads, beside the outcomes of these records.
* `exists_runLogged_eq` has all events of a run that has a report, and
  `saying_events` picks those with one message from them.
* `run_withLog` is a run with other settings of what is logged: it ends in the
  same way.
-/

namespace RecordAudit

/-- The events with a message. -/
def Event.saying (message : String) (events : List Event) : List Event :=
  events.filter (·.message == message)

/-- The event that tells of a violation. -/
def Event.ofViolation (log : LogConfig) (v : Violation) : Event :=
  .violation v.recordIndex v.field v.kind (Text.cut v.message log.maxFieldLength)

namespace Event

theorem saying_append (message : String) (events later : List Event) :
    saying message (events ++ later) = saying message events ++ saying message later :=
  List.filter_append ..

theorem saying_flatMap {β : Type} (message : String) (f : β → List Event) (xs : List β) :
    saying message (xs.flatMap f) = xs.flatMap fun x => saying message (f x) := by
  rw [saying, List.filter_flatMap]
  rfl

theorem saying_eq_self {message : String} {events : List Event}
    (h : ∀ e ∈ events, e.message = message) : saying message events = events :=
  List.filter_eq_self.mpr fun e he => beq_iff_eq.mpr (h e he)

theorem saying_eq_nil {message : String} {events : List Event}
    (h : ∀ e ∈ events, e.message ≠ message) : saying message events = [] :=
  List.filter_eq_nil_iff.mpr fun e he heq => h e he (beq_iff_eq.mp heq)

/-! ## What a trace shows -/

/-- The number that is the value of a field. -/
def number? (name : String) (fields : List (String × String)) : Option Nat :=
  (fields.lookup name).map fun text => Nat.ofDigitChars 10 text.toList 0

/-- The event of a message and fields, if it is one that tells of violations, of records that did
not pass the filters, or of the completion. -/
def ofTrace? (message : String) (fields : List (String × String)) : Option Event :=
  if message = "Record violation" then do
    let kind ← ViolationKind.named.lookup (← fields.lookup "violation.kind")
    return .violation (← number? "record.index" fields) (← fields.lookup "violation.field") kind
      (← fields.lookup "violation.message")
  else if message = "Record filtered out" then do
    return .filteredOut (← number? "record.index" fields)
  else if message = "Aggregation run completed" then do
    return .completed (← number? "report.total" fields) (← number? "report.valid" fields)
      (← number? "report.invalid" fields) (← number? "report.filtered" fields)
  else none

theorem ofDigitChars_toString (n : Nat) : Nat.ofDigitChars 10 (toString n).toList 0 = n := by
  have hdigits : (toString n).toList = Nat.toDigits 10 n := Nat.toList_repr
  rw [hdigits, Nat.ofDigitChars_ten_toDigits]

/-- The fields of such an event give it back. -/
theorem ofTrace?_eq {e : Event} (h : e.message ∈
    ["Record violation", "Record filtered out", "Aggregation run completed"]) :
    ofTrace? e.message e.fields = some e := by
  cases e with
  | violation index field kind message =>
    have hkind : ViolationKind.named.lookup kind.name = some kind := by cases kind <;> rfl
    show (ViolationKind.named.lookup kind.name).bind (fun kind => some (Event.violation
      (Nat.ofDigitChars 10 (toString index).toList 0) field kind message)) = _
    rw [hkind, ofDigitChars_toString]
    rfl
  | filteredOut index =>
    show some (Event.filteredOut (Nat.ofDigitChars 10 (toString index).toList 0)) = _
    rw [ofDigitChars_toString]
  | completed total valid invalid filtered =>
    show some (Event.completed (Nat.ofDigitChars 10 (toString total).toList 0)
      (Nat.ofDigitChars 10 (toString valid).toList 0)
      (Nat.ofDigitChars 10 (toString invalid).toList 0)
      (Nat.ofDigitChars 10 (toString filtered).toList 0)) = _
    simp only [ofDigitChars_toString]
  | _ => simp [message] at h

/-- The events with one of these messages are got back from the fields that are shown. -/
theorem map_ofTrace?_saying {message : String} (h : message ∈
    ["Record violation", "Record filtered out", "Aggregation run completed"])
    (events : List Event) :
    (saying message events).map (fun e => ofTrace? message e.fields) =
      (saying message events).map some := by
  refine List.map_congr_left fun e he => ?_
  obtain ⟨-, hmessage⟩ := List.mem_filter.mp he
  obtain rfl := eq_of_beq hmessage
  exact ofTrace?_eq h

end Event

namespace Aggregator

open Event (saying ofViolation)

variable {ρ : Type} [Record ρ]

/-! ## One record -/

/-- The violations of a record are told, all of them at its place. -/
theorem violations_recordEvents (a : Aggregator) (index : Nat) (r : ρ) :
    saying "Record violation" (recordEvents a.config.log index (a.violations? index r)) =
      if a.config.log.violations then (a.violationsAt index r).map (ofViolation a.config.log)
      else [] := by
  rw [violationsAt]
  cases hvs : a.violations? index r with
  | none =>
    rw [recordEvents, Option.getD_none, List.map_nil, ite_self]
    split <;> rfl
  | some vs =>
    have hplaced : (vs.map fun v => Event.violation index v.field v.kind
        (Text.cut v.message a.config.log.maxFieldLength)) = vs.map (ofViolation a.config.log) :=
      List.map_congr_left fun v hv => by rw [ofViolation, allAt_of_violations? hvs v hv]
    rw [recordEvents, hplaced, Option.getD_some]
    split
    · exact Event.saying_eq_self (List.forall_mem_map.mpr fun v _ => rfl)
    · rfl

/-- Nothing but violations is told of a record that is kept. -/
theorem saying_recordEvents_some {message : String} (hmessage : "Record violation" ≠ message)
    (log : LogConfig) (index : Nat) (vs : List Violation) :
    saying message (recordEvents log index (some vs)) = [] := by
  rw [recordEvents]
  split
  · exact Event.saying_eq_nil (List.forall_mem_map.mpr fun v _ => hmessage)
  · rfl

theorem filteredOut_recordEvents (a : Aggregator) (index : Nat) (r : ρ) :
    saying "Record filtered out" (recordEvents a.config.log index (a.violations? index r)) =
      if Level.debug.verbosity ≤ a.config.log.level.verbosity then
        if RecordFilter.keeps a.filters r then [] else [.filteredOut index]
      else [] := by
  rw [violations?_eq]
  cases RecordFilter.keeps a.filters r with
  | true =>
    rw [if_pos rfl, if_pos rfl, ite_self]
    exact saying_recordEvents_some (by decide) _ _ _
  | false =>
    rw [if_neg Bool.false_ne_true, if_neg Bool.false_ne_true, recordEvents]
    split <;> rfl

theorem completed_recordEvents (log : LogConfig) (index : Nat) (vs : Option (List Violation)) :
    saying "Aggregation run completed" (recordEvents log index vs) = [] := by
  cases vs with
  | some vs => exact saying_recordEvents_some (by decide) _ _ _
  | none =>
    rw [recordEvents]
    split <;> rfl

/-! ## All records -/

/-- The violations of the outcomes are those of all records: a record that is
set aside has none. -/
theorem flatMap_violations_outcomesFrom (a : Aggregator) (first : Nat) (rs : List ρ) :
    (a.outcomesFrom first rs).flatMap (·.violations) =
      (rs.zipIdx first).flatMap fun x => a.violationsAt x.2 x.1 := by
  induction rs generalizing first with
  | nil => rfl
  | cons r rest ih =>
    rw [outcomesFrom_cons, List.flatMap_append, ih, List.zipIdx_cons, List.flatMap_cons]
    congr 1
    split
    · simp
    · next hkeeps =>
      rw [violationsAt, violations?_eq, if_neg hkeeps]
      rfl

theorem violations_logged (a : Aggregator) (first : Nat) (rs : List ρ) :
    saying "Record violation" (a.logged first rs) =
      if a.config.log.violations then
        ((a.outcomesFrom first rs).flatMap (·.violations)).map (ofViolation a.config.log)
      else [] := by
  rw [logged, Event.saying_flatMap]
  simp only [violations_recordEvents]
  split
  · rw [flatMap_violations_outcomesFrom, List.map_flatMap]
  · simp

/-- The places of the records that are set aside: those where there is no outcome. -/
theorem map_snd_setAside (a : Aggregator) (rs : List ρ) :
    (rs.zipIdx.filter fun x => !RecordFilter.keeps a.filters x.1).map Prod.snd =
      (List.range rs.length).filter fun i => i ∉ (a.outcomesFrom 0 rs).map (·.recordIndex) := by
  rw [List.range_eq_range', ← List.zipIdx_map_snd, List.filter_map]
  congr 1
  refine List.filter_congr fun x hx => ?_
  have hplace : rs[x.2]? = some x.1 := List.mk_mem_zipIdx_iff_getElem?.mp hx
  rw [Function.comp_apply, Bool.eq_iff_iff, decide_eq_true_iff, mem_map_recordIndex_iff hplace]
  simp

theorem filteredOut_logged (a : Aggregator) (rs : List ρ) :
    saying "Record filtered out" (a.logged 0 rs) =
      if Level.debug.verbosity ≤ a.config.log.level.verbosity then
        ((List.range rs.length).filter fun i =>
          i ∉ (a.outcomesFrom 0 rs).map (·.recordIndex)).map .filteredOut
      else [] := by
  rw [logged, Event.saying_flatMap, ← map_snd_setAside]
  simp only [filteredOut_recordEvents]
  split
  · -- A record that is kept adds nothing.
    induction rs.zipIdx with
    | nil => rfl
    | cons x rest ih =>
      rw [List.flatMap_cons, ih, List.filter_cons]
      cases RecordFilter.keeps a.filters x.1 <;> simp
  · simp

theorem completed_logged (a : Aggregator) (first : Nat) (rs : List ρ) :
    saying "Aggregation run completed" (a.logged first rs) = [] := by
  rw [logged, Event.saying_flatMap]
  exact List.flatMap_eq_nil_iff.mpr fun x _ => completed_recordEvents _ _ _

/-! ## The run -/

/-- All events of a run that has a report. -/
theorem exists_runLogged_eq (a : Aggregator) {s : RecordStream ρ} {report : Report Float}
    (h : a.run s = .finished report) :
    ∃ rs, itemsOf s.polls = rs.map .ok ∧
      (a.runPartial s : Ending (PartialAggregation Float)) = .finished (a.reached rs) ∧
      report = (a.reached rs : PartialAggregation Float).finish ∧
      (a.runLogged s).2 = a.logged 0 rs ++
        (if a.config.log.records then [.streamExhausted rs.length] else []) ++
          reportEvents a.config.log report := by
  obtain ⟨p, hpartial, rfl⟩ := Ending.map_eq_finished_iff.mp h
  obtain ⟨rs, hitems, rfl, hconsume⟩ := a.exists_consume_eq hpartial
  refine ⟨rs, hitems, hpartial, rfl, ?_⟩
  rw [runLogged, hconsume]

/-- After the records the completion is told, and otherwise only what has one of two messages. -/
theorem saying_events {message : String} (hend : "Record stream exhausted" ≠ message)
    (hcolumn : "Column statistics" ≠ message) (log : LogConfig) (ofRecords : List Event)
    (count : Nat) (r : Report Float) :
    saying message (ofRecords ++ (if log.records then [.streamExhausted count] else []) ++
        reportEvents log r) =
      saying message ofRecords ++
        saying message [.completed r.total r.valid r.invalid r.filtered] := by
  have hexhausted :
      saying message (if log.records then [.streamExhausted count] else []) = [] := by
    split
    · exact Event.saying_eq_nil (List.forall_mem_singleton.mpr hend)
    · rfl
  have hreport : saying message (reportEvents log r) =
      saying message [.completed r.total r.valid r.invalid r.filtered] := by
    rw [reportEvents, ← List.singleton_append, Event.saying_append]
    refine List.append_right_eq_self.mpr ?_
    split
    · exact Event.saying_eq_nil (List.forall_mem_map.mpr fun x _ => hcolumn)
    · rfl
  rw [Event.saying_append, Event.saying_append, hexhausted, hreport, List.append_nil]

/-- The same aggregator with other settings of what is logged. -/
def withLog (a : Aggregator) (log : LogConfig) : Aggregator :=
  { a with config := { a.config with log }, checked := a.checked }

variable {α : Type} [Arithmetic α]

theorem drive_withLog (a : Aggregator) (log : LogConfig) (p : PartialAggregation α)
    (polls : List (Poll ρ)) : ((a.withLog log).drive p polls).1 = (a.drive p polls).1 := by
  induction polls generalizing p with
  | nil => rfl
  | cons poll rest ih =>
    rw [drive, drive]
    split
    · rfl
    · cases poll.pull with
      | ready r => exact ih _
      | failing e => rfl
      | ended => rfl
      | pending =>
        have hlimit : (a.withLog log).config.recordTimeout = a.config.recordTimeout := rfl
        simp only [hlimit]
        split
        · rfl
        · exact ih p

/-- What is logged has no part in how a run ends. -/
theorem run_withLog (a : Aggregator) (log : LogConfig) (s : RecordStream ρ) :
    ((a.withLog log).run s : Ending (Report α)) = a.run s := by
  have hbind : (a.withLog log).bind s.schema = a.bind s.schema := rfl
  have htallies : ((a.withLog log).tallies : Except ConfigurationFault (List (Tally α))) =
      a.tallies := rfl
  rw [run, run, runPartial, runPartial, consume, consume, hbind, htallies]
  cases a.bind s.schema with
  | error e => rfl
  | ok u =>
    cases (a.tallies : Except ConfigurationFault (List (Tally α))) with
    | error fault => rfl
    | ok ts => exact congrArg _ (a.drive_withLog log _ s.polls)

/-- What the events of a run that has read so many records tell agrees with its report. -/
structure Recounts (log : LogConfig) (recordsRead : Nat) (report : Report Float)
    (events : List Event) : Prop where
  /-- The violations of the report are told in their order, or none is. -/
  violations : saying "Record violation" events =
    if log.violations then report.violations.map (ofViolation log) else []
  /-- The places where there is no outcome are told in ascending order, or none is. -/
  filteredOut : saying "Record filtered out" events =
    if Level.debug.verbosity ≤ log.level.verbosity then
      ((List.range recordsRead).filter fun i =>
        i ∉ report.outcomes.map (·.recordIndex)).map .filteredOut
    else []
  completed : saying "Aggregation run completed" events =
    [.completed report.total report.valid report.invalid report.filtered]

/-- The events of a run that has a report recount that report, and the same report
comes out of the run whatever is logged. -/
theorem runLogged_recounts (a : Aggregator) {s : RecordStream ρ} {report : Report Float}
    (h : a.run s = .finished report) :
    ∃ p : PartialAggregation Float, a.runPartial s = .finished p ∧ report = p.finish ∧
      p.recordsRead = (itemsOf s.polls).length ∧ (a.runLogged s).1 = .finished report ∧
      Recounts a.config.log p.recordsRead report (a.runLogged s).2 ∧
      ∀ log, ((a.withLog log).runLogged s).1 = .finished report := by
  obtain ⟨rs, hitems, hpartial, hreport, hevents⟩ := a.exists_runLogged_eq h
  have hread : (a.reached rs : PartialAggregation Float).recordsRead = rs.length :=
    a.recordsRead_reached rs
  have houtcomes : report.outcomes = a.outcomesFrom 0 rs := by
    rw [hreport, finish_reached]
    rfl
  have hsaying : ∀ {message : String}, "Record stream exhausted" ≠ message →
      "Column statistics" ≠ message →
      saying message (a.runLogged s).2 = saying message (a.logged 0 rs) ++
        saying message [.completed report.total report.valid report.invalid report.filtered] := by
    intro message hend hcolumn
    rw [hevents, saying_events hend hcolumn]
  refine ⟨_, hpartial, hreport, ?_, (a.fst_runLogged s).trans h, ⟨?_, ?_, ?_⟩, fun log => ?_⟩
  · rw [hread, hitems, List.length_map]
  · rw [hsaying (by decide) (by decide), violations_logged, Report.violations, houtcomes]
    exact List.append_nil _
  · rw [hsaying (by decide) (by decide), filteredOut_logged, houtcomes, hread]
    exact List.append_nil _
  · rw [hsaying (by decide) (by decide), completed_logged]
    rfl
  · rw [fst_runLogged, run_withLog, h]

/-- A row that is set aside, one whose `n` cannot be read, and one whose `m` cannot, with a message
that is too long to be logged. -/
theorem runLogged_recounts_pairRows :
    ∃ (a : Aggregator) (report : Report Float) (events : List Event),
      build [.notNull "m"] ["n", "m", "n"] [.isNotNull "n"]
          { AggregatorConfig.standard with log := ⟨.debug, true, false, true, 4⟩ } = .ok a ∧
        a.run (.ofRecords pairSchema pairRows) = .finished report ∧
        (a.runLogged (.ofRecords pairSchema pairRows)).2 = events ∧
        saying "Record violation" events =
          [.violation 2 "n" .recordRead "torn", .violation 3 "m" .recordRead "row ...(truncated)"] ∧
        saying "Record filtered out" events = [.filteredOut 1] ∧
        saying "Aggregation run completed" events = [.completed 3 1 2 1] ∧
        ((a.withLog .production).runLogged (.ofRecords pairSchema pairRows)).1 =
          .finished report := by
  obtain ⟨a, hbuild⟩ : ∃ a, build [.notNull "m"] ["n", "m", "n"] [.isNotNull "n"]
      { AggregatorConfig.standard with log := ⟨.debug, true, false, true, 4⟩ } = .ok a :=
    ⟨_, rfl⟩
  have hbind : a.bind pairSchema = .ok () := by
    obtain rfl := Except.ok.inj hbuild
    rfl
  have hrun := a.run_of_delivers (α := Float) hbind (delivers_ofRecords _ pairSchema pairRows)
  obtain ⟨p, hpartial, -, -, -, htold, hsame⟩ := a.runLogged_recounts hrun
  refine ⟨a, _, _, hbuild, hrun, rfl, ?_, ?_, ?_, hsame .production⟩
  · rw [htold.violations]
    obtain rfl := Except.ok.inj hbuild
    rfl
  · rw [htold.filteredOut]
    obtain rfl := Except.ok.inj hbuild
    obtain rfl := Ending.finished.inj hpartial
    rfl
  · rw [htold.completed]
    obtain rfl := Except.ok.inj hbuild
    rfl

end Aggregator

end RecordAudit
