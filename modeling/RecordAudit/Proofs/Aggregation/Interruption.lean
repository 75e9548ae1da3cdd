import Mathlib.Data.List.Induction
import RecordAudit.Proofs.Aggregation.Endings

/-!
# Runs that are cancelled or wait too long

While a run polls its stream, somebody may set the cancellation flag and time
may pass.  An `Act` is one of these three, and a list of acts is any way in
which they may follow each other.  The flag stays set, and the wait for an item
begins when the item is first asked for, so a `Situation` is all that a poll
sees of the acts before it.

* `pollsAmid` are the polls of a run amid some acts, and `Outlasts` says of acts
  that an item has been pending for as long as a limit.
* `passes_of_drive` and `drive_append_of_ended` say of any polls that a run goes
  on over those that pass, and that nothing changes how it has ended.
* `Verdict` is the step, one poll with what it finds (`verdict_of_unfinished`).
  `exists_polls` finds the poll that has ended a run, and `run_amid_eq_of_polls`
  says that nothing after it counts.
* `HasTaken` says which records a run has read so far: it stands where it would
  stand after taking in each of them once, and has logged no more than that.
-/

namespace RecordAudit

variable {ρ : Type}

/-! ## Acts around a run -/

/-- What may happen next while a run goes on. -/
inductive Act (ρ : Type) where
  /-- Somebody sets the cancellation flag. -/
  | cancel
  /-- Time passes. -/
  | wait (span : Duration)
  /-- The run polls its stream, which has this for it. -/
  | poll (pull : Pull ρ)

/-- What a poll finds beside the item. -/
structure Situation where
  cancelled : Bool
  /-- The nanoseconds since the current item was first asked for, if it was. -/
  waited : Option Nat

namespace Situation

/-- The situation before anything has happened. -/
def start : Situation := ⟨false, none⟩

/-- The situation after one act. -/
def next (s : Situation) : Act ρ → Situation
  | .cancel => { s with cancelled := true }
  | .wait span => { s with waited := s.waited.map (· + span.nanos) }
  | .poll .pending => { s with waited := some (s.waited.getD 0) }
  | .poll _ => { s with waited := none }

/-- Whether the wait for the current item has passed a limit, if there is one. -/
def expired (s : Situation) (limit : Option Duration) : Bool :=
  limit.any fun span => decide (span.nanos ≤ s.waited.getD 0)

end Situation

/-- The polls of a run with a limit of its waits, amid some acts. -/
def pollsAmid (limit : Option Duration) : Situation → List (Act ρ) → List (Poll ρ)
  | _, [] => []
  | s, .cancel :: rest => pollsAmid limit (s.next (.cancel : Act ρ)) rest
  | s, .wait span :: rest => pollsAmid limit (s.next (.wait span : Act ρ)) rest
  | s, .poll pull :: rest =>
    ⟨s.cancelled, pull, s.expired limit⟩ :: pollsAmid limit (s.next (.poll pull)) rest

/-- The records that the polls among some acts find. -/
def recordsAmid : List (Act ρ) → List ρ
  | [] => []
  | .poll (.ready r) :: rest => r :: recordsAmid rest
  | _ :: rest => recordsAmid rest

/-- The nanoseconds that pass amid some acts. -/
def elapsed : List (Act ρ) → Nat
  | [] => 0
  | .wait span :: rest => span.nanos + elapsed rest
  | _ :: rest => elapsed rest

/-- After some acts an item is pending, and has been for as long as a limit: a
poll found it pending, and so did all polls since. -/
def Outlasts (limit : Duration) (acts : List (Act ρ)) : Prop :=
  ∃ earlier later, acts = earlier ++ .poll .pending :: later ∧
    (∀ pull, .poll pull ∈ later → pull = .pending) ∧ limit.nanos ≤ elapsed later

/-- The situation after some acts. -/
def situation (acts : List (Act ρ)) : Situation := acts.foldl .next .start

theorem pollsAmid_append (limit : Option Duration) (s : Situation) (xs ys : List (Act ρ)) :
    pollsAmid limit s (xs ++ ys) =
      pollsAmid limit s xs ++ pollsAmid limit (xs.foldl .next s) ys := by
  induction xs generalizing s with
  | nil => rfl
  | cons act rest ih =>
    cases act with
    | cancel => exact ih _
    | wait span => exact ih _
    | poll pull => exact congrArg _ (ih _)

theorem situation_concat (acts : List (Act ρ)) (act : Act ρ) :
    situation (acts ++ [act]) = (situation acts).next act := by
  rw [situation, List.foldl_concat, situation]

theorem pollsAmid_of_idle {acts : List (Act ρ)} (h : ∀ pull, .poll pull ∉ acts)
    (limit : Option Duration) (s : Situation) : pollsAmid limit s acts = [] := by
  induction acts generalizing s with
  | nil => rfl
  | cons act rest ih =>
    have hrest : ∀ pull, .poll pull ∉ rest := fun pull hpull =>
      h pull (List.mem_cons_of_mem _ hpull)
    cases act with
    | cancel => exact ih hrest _
    | wait span => exact ih hrest _
    | poll pull => exact absurd List.mem_cons_self (h pull)

/-- The flag is set after acts of which one sets it. -/
theorem cancelled_situation (acts : List (Act ρ)) :
    (situation acts).cancelled = true ↔ .cancel ∈ acts := by
  induction acts using List.reverseRecOn with
  | nil => simp [situation, Situation.start]
  | append_singleton acts act ih =>
    rw [situation_concat, List.mem_append, List.mem_singleton, ← ih]
    cases act with
    | cancel => simp [Situation.next]
    | wait span => simp [Situation.next]
    | poll pull => cases pull <;> simp [Situation.next]

/-- While an item is pending, the time that passes is waited. -/
theorem waited_foldl_next {later : List (Act ρ)}
    (hpending : ∀ pull, .poll pull ∈ later → pull = .pending) {s : Situation} {w : Nat}
    (hs : s.waited = some w) : (later.foldl .next s).waited = some (w + elapsed later) := by
  induction later generalizing s w with
  | nil => exact hs
  | cons act rest ih =>
    have hrest : ∀ pull, .poll pull ∈ rest → pull = .pending := fun pull hpull =>
      hpending pull (List.mem_cons_of_mem _ hpull)
    rw [List.foldl_cons]
    cases act with
    | cancel => exact ih hrest hs
    | wait span =>
      have hnext : (s.next (.wait span : Act ρ)).waited = some (w + span.nanos) := by
        simp [Situation.next, hs]
      rw [ih hrest hnext, elapsed, Nat.add_assoc]
    | poll pull =>
      obtain rfl := hpending pull List.mem_cons_self
      have hnext : (s.next (.poll .pending : Act ρ)).waited = some w := by
        simp [Situation.next, hs]
      exact ih hrest hnext

theorem elapsed_append (xs ys : List (Act ρ)) : elapsed (xs ++ ys) = elapsed xs + elapsed ys := by
  induction xs with
  | nil => simp [elapsed]
  | cons act rest ih =>
    cases act with
    | cancel => exact ih
    | poll pull => exact ih
    | wait span => rw [List.cons_append, elapsed, ih, elapsed, Nat.add_assoc]

/-- What has been waited is the time since a poll that found the item pending. -/
theorem exists_of_waited_situation {acts : List (Act ρ)} {w : Nat}
    (h : (situation acts).waited = some w) :
    ∃ earlier later, acts = earlier ++ .poll .pending :: later ∧
      (∀ pull, .poll pull ∈ later → pull = .pending) ∧ elapsed later = w := by
  induction acts using List.reverseRecOn generalizing w with
  | nil => cases h
  | append_singleton acts act ih =>
    rw [situation_concat] at h
    -- One more act that is no answer belongs to the same wait.
    have hextend : ∀ {w' : Nat}, (situation acts).waited = some w' →
        (∀ pull, act = .poll pull → pull = .pending) → w' + elapsed [act] = w →
        ∃ earlier later, acts ++ [act] = earlier ++ .poll .pending :: later ∧
          (∀ pull, .poll pull ∈ later → pull = .pending) ∧ elapsed later = w := by
      intro w' hw' hact hsum
      obtain ⟨earlier, later, rfl, hpending, rfl⟩ := ih hw'
      refine ⟨earlier, later ++ [act], by simp, ?_, by rw [elapsed_append, hsum]⟩
      intro pull hpull
      rcases List.mem_append.mp hpull with hpull | hpull
      · exact hpending pull hpull
      · exact hact pull (List.mem_singleton.mp hpull).symm
    cases act with
    | cancel => exact hextend h (by simp) rfl
    | wait span =>
      obtain ⟨w', hw', rfl⟩ := Option.map_eq_some_iff.mp h
      exact hextend hw' (by simp) (by simp [elapsed])
    | poll pull =>
      cases pull with
      | ready r => cases h
      | failing e => cases h
      | ended => cases h
      | pending =>
        cases hwaited : (situation acts).waited with
        | none =>
          -- The item is asked for by this very poll.
          simp only [Situation.next, hwaited, Option.getD_none, Option.some.injEq] at h
          exact ⟨acts, [], by simp, by simp, h⟩
        | some w' =>
          simp only [Situation.next, hwaited, Option.getD_some, Option.some.injEq] at h
          exact hextend hwaited (by simp) h

/-- The wait for an item has passed a limit iff the item has been pending for
as long as the limit. -/
theorem outlasts_iff {limit : Duration} (hlimit : 0 < limit.nanos) (acts : List (Act ρ)) :
    Outlasts limit acts ↔ limit.nanos ≤ (situation acts).waited.getD 0 := by
  constructor
  · rintro ⟨earlier, later, rfl, hpending, hle⟩
    have hsplit : situation (earlier ++ .poll .pending :: later) =
        later.foldl .next (situation (earlier ++ [.poll .pending])) := by
      simp [situation, List.foldl_append]
    have hasked : (situation (earlier ++ [.poll .pending])).waited =
        some ((situation earlier).waited.getD 0) := by
      rw [situation_concat]
      rfl
    rw [hsplit, waited_foldl_next hpending hasked, Option.getD_some]
    omega
  · intro hle
    cases hwaited : (situation acts).waited with
    | none =>
      rw [hwaited, Option.getD_none] at hle
      omega
    | some w =>
      rw [hwaited, Option.getD_some] at hle
      obtain ⟨earlier, later, hacts, hpending, rfl⟩ := exists_of_waited_situation hwaited
      exact ⟨earlier, later, hacts, hpending, hle⟩

theorem Passes.append {limit : Option Duration} {xs ys : List (Poll ρ)} {rs qs : List ρ}
    (hxs : Passes limit xs rs) (hys : Passes limit ys qs) : Passes limit (xs ++ ys) (rs ++ qs) := by
  induction hxs with
  | nil => exact hys
  | ready r expired _ ih => exact .ready r expired ih
  | pending hwait _ ih => exact .pending hwait ih

theorem Passes.cases_cons {limit : Option Duration} {poll : Poll ρ} {rest : List (Poll ρ)}
    {rs : List ρ} (h : Passes limit (poll :: rest) rs) :
    (∃ r later, poll.pull = .ready r ∧ rs = r :: later ∧ Passes limit rest later) ∨
      poll.pull = .pending ∧ Passes limit rest rs := by
  cases h with
  | ready r expired h => exact .inl ⟨r, _, rfl, rfl, h⟩
  | pending hwait h => exact .inr ⟨rfl, h⟩

/-- A run that goes on amid some acts has read the records that its polls found. -/
theorem Passes.eq_recordsAmid {limit : Option Duration} {s : Situation} {acts : List (Act ρ)}
    {rs : List ρ} (h : Passes limit (pollsAmid limit s acts) rs) : rs = recordsAmid acts := by
  induction acts generalizing s rs with
  | nil =>
    cases h
    rfl
  | cons act rest ih =>
    cases act with
    | cancel => exact ih h
    | wait span => exact ih h
    | poll pull =>
      rcases h.cases_cons with ⟨r, later, hpull, rfl, hrest⟩ | ⟨hpull, hrest⟩
      · obtain rfl : pull = .ready r := hpull
        exact congrArg _ (ih hrest)
      · obtain rfl : pull = .pending := hpull
        exact ih hrest

namespace Aggregator

variable [Record ρ] {α : Type} [Arithmetic α]

/-! ## Runs over any polls -/

/-- A poll ends a run, whatever comes after it, or the run goes on. -/
theorem drive_cases (a : Aggregator) (p : PartialAggregation α) (poll : Poll ρ) :
    (∃ ending events, ending ≠ .unfinished ∧
      ∀ rest, a.drive p (poll :: rest) = (ending, events)) ∨
      ∃ rs, Passes a.config.recordTimeout [poll] rs := by
  obtain ⟨cancelled, pull, expired⟩ := poll
  cases cancelled with
  | true => exact .inl ⟨_, _, by simp, fun rest => rfl⟩
  | false =>
    cases pull with
    | failing e => exact .inl ⟨_, _, by simp, fun rest => rfl⟩
    | ended => exact .inl ⟨_, _, by simp, fun rest => rfl⟩
    | ready r => exact .inr ⟨[r], .ready r expired .nil⟩
    | pending =>
      cases hlimit : a.config.recordTimeout with
      | none => exact .inr ⟨[], .pending (fun _ => rfl) .nil⟩
      | some limit =>
        cases expired with
        | false => exact .inr ⟨[], .pending (by simp) .nil⟩
        | true =>
          refine .inl ⟨.failed (.timeout p.recordsRead limit),
            [.aborted p.recordsRead (.timeout p.recordsRead limit)], by simp, fun rest => ?_⟩
          rw [drive]
          simp only [hlimit, Bool.false_eq_true, if_false]

/-- A run that has not ended has gone on over all its polls. -/
theorem passes_of_drive (a : Aggregator) {polls : List (Poll ρ)} {p : PartialAggregation α}
    (h : (a.drive p polls).1 = .unfinished) : ∃ rs, Passes a.config.recordTimeout polls rs := by
  induction polls generalizing p with
  | nil => exact ⟨[], .nil⟩
  | cons poll rest ih =>
    rcases a.drive_cases p poll with ⟨ending, events, hending, hdrive⟩ | ⟨rs, hrs⟩
    · rw [hdrive] at h
      exact absurd h hending
    · have hgoes : (a.drive (a.after p rs) rest).1 = .unfinished := by
        rw [← a.drive_append hrs]
        exact h
      obtain ⟨later, hlater⟩ := ih hgoes
      exact ⟨rs ++ later, hrs.append hlater⟩

/-- What comes after the end of a run does not change it. -/
theorem drive_append_of_ended (a : Aggregator) {polls : List (Poll ρ)}
    {p : PartialAggregation α} (h : (a.drive p polls).1 ≠ .unfinished) (later : List (Poll ρ)) :
    (a.drive p (polls ++ later)).1 = (a.drive p polls).1 := by
  induction polls generalizing p with
  | nil => exact absurd rfl h
  | cons poll rest ih =>
    rcases a.drive_cases p poll with ⟨ending, events, _, hdrive⟩ | ⟨rs, hrs⟩
    · rw [List.cons_append, hdrive, hdrive]
    · have hrest := a.drive_append hrs p rest
      have hall := a.drive_append hrs p (rest ++ later)
      rw [List.singleton_append] at hrest hall
      rw [hrest] at h
      rw [List.cons_append, hall, hrest, ih h]

/-! ## What has been read -/

/-- Takes one record into the state of a run. -/
def process (a : Aggregator) (p : PartialAggregation α) (r : ρ) : PartialAggregation α :=
  absorb p r (a.violations? p.recordsRead r)

theorem after_eq_foldl (a : Aggregator) (p : PartialAggregation α) (rs : List ρ) :
    a.after p rs = rs.foldl a.process p := by
  induction rs generalizing p with
  | nil => exact a.after_nil p
  | cons r rest ih => rw [← after_absorb, ih, List.foldl_cons, process]

/-- The stream that a run reads amid some acts. -/
def amid (a : Aggregator) (s : RecordStream ρ) (acts : List (Act ρ)) : RecordStream ρ :=
  { s with polls := pollsAmid a.config.recordTimeout .start acts }

/-- Amid some acts a run has taken in some records, each of them once and in
their order, and nothing else.  Whatever its polls find next, it goes on from
the state after these records, and logs what there is to log of each. -/
def HasTaken (α : Type) [Arithmetic α] (a : Aggregator) (s : RecordStream ρ)
    (acts : List (Act ρ)) (rs : List ρ) : Prop :=
  ∀ later, (a.consume { s with polls := (a.amid s acts).polls ++ later } :
      Ending (PartialAggregation α) × List Event) =
    let state := rs.foldl a.process (.start (a.statColumns.map a.freshTally))
    ((a.drive state later).1, a.logged 0 rs ++ (a.drive state later).2)

/-! ## Runs amid acts -/

theorem run_amid_eq (a : Aggregator) {s : RecordStream ρ} (hbind : a.bind s.schema = .ok ())
    (acts : List (Act ρ)) :
    (a.run (a.amid s acts) : Ending (Report α)) =
      (a.drive (.start (a.statColumns.map a.freshTally))
        (pollsAmid a.config.recordTimeout .start acts)).1.map (·.finish) :=
  a.run_eq hbind _

/-- A run that goes on has polls that pass. -/
theorem run_amid_eq_unfinished_iff (a : Aggregator) {s : RecordStream ρ}
    (hbind : a.bind s.schema = .ok ()) (acts : List (Act ρ)) :
    (a.run (a.amid s acts) : Ending (Report α)) = .unfinished ↔
      Passes a.config.recordTimeout (pollsAmid a.config.recordTimeout .start acts)
        (recordsAmid acts) := by
  rw [a.run_amid_eq hbind, Ending.map_eq_unfinished_iff]
  constructor
  · intro h
    obtain ⟨rs, hrs⟩ := a.passes_of_drive h
    rwa [← hrs.eq_recordsAmid]
  · intro h
    rw [← List.append_nil (pollsAmid _ _ _), a.drive_append h]
    rfl

/-- What follows the end of a run does not change it. -/
theorem run_amid_append (a : Aggregator) {s : RecordStream ρ} (hbind : a.bind s.schema = .ok ())
    {acts : List (Act ρ)} (h : (a.run (a.amid s acts) : Ending (Report α)) ≠ .unfinished)
    (later : List (Act ρ)) :
    (a.run (a.amid s (acts ++ later)) : Ending (Report α)) = a.run (a.amid s acts) := by
  rw [a.run_amid_eq hbind, Ne, Ending.map_eq_unfinished_iff] at h
  rw [a.run_amid_eq hbind, a.run_amid_eq hbind, pollsAmid_append, a.drive_append_of_ended h]

theorem hasTaken_of_unfinished (a : Aggregator) {s : RecordStream ρ}
    (hbind : a.bind s.schema = .ok ()) {acts : List (Act ρ)}
    (h : (a.run (a.amid s acts) : Ending (Report α)) = .unfinished) :
    a.HasTaken α s acts (recordsAmid acts) := by
  intro later
  have hpasses := (a.run_amid_eq_unfinished_iff hbind acts).mp h
  rw [consume, hbind]
  simp only [tallies_eq, amid, a.drive_passes hpasses, after_eq_foldl, PartialAggregation.start]

/-- How one poll leaves a run that has gone on amid some acts. -/
inductive Verdict (a : Aggregator) (acts : List (Act ρ)) : Pull ρ → Ending (Report α) → Prop
  | cancelled (pull : Pull ρ) (h : .cancel ∈ acts) :
      Verdict a acts pull (.failed (.cancelled (recordsAmid acts).length))
  | ready (r : ρ) (h : .cancel ∉ acts) : Verdict a acts (.ready r) .unfinished
  | failing (e : AuditError) (h : .cancel ∉ acts) :
      Verdict a acts (.failing e) (.failed (.stream (recordsAmid acts).length e))
  | ended (h : .cancel ∉ acts) :
      Verdict a acts .ended
        (.finished (a.reached (recordsAmid acts) : PartialAggregation α).finish)
  | expired {limit : Duration} (h : .cancel ∉ acts) (hlimit : a.config.recordTimeout = some limit)
      (hwait : Outlasts limit acts) :
      Verdict a acts .pending (.failed (.timeout (recordsAmid acts).length limit))
  | waiting (h : .cancel ∉ acts)
      (hpatient : ∀ limit, a.config.recordTimeout = some limit → ¬ Outlasts limit acts) :
      Verdict a acts .pending .unfinished

theorem Verdict.eq_cancelled {a : Aggregator} {acts : List (Act ρ)} {pull : Pull ρ}
    {ending : Ending (Report α)} (h : Verdict a acts pull ending) (hcancel : .cancel ∈ acts) :
    ending = .failed (.cancelled (recordsAmid acts).length) := by
  cases h with
  | cancelled => rfl
  | ready _ h => exact absurd hcancel h
  | failing _ h => exact absurd hcancel h
  | ended h => exact absurd hcancel h
  | expired h => exact absurd hcancel h
  | waiting h => exact absurd hcancel h

theorem Verdict.eq_timeout {a : Aggregator} {acts : List (Act ρ)} {ending : Ending (Report α)}
    {limit : Duration} (h : Verdict a acts .pending ending) (hcancel : .cancel ∉ acts)
    (hlimit : a.config.recordTimeout = some limit) (hwait : Outlasts limit acts) :
    ending = .failed (.timeout (recordsAmid acts).length limit) := by
  cases h with
  | cancelled _ h => exact absurd h hcancel
  | waiting _ hpatient => exact absurd hwait (hpatient limit hlimit)
  | expired _ hlimit' =>
    obtain rfl := Option.some.inj (hlimit.symm.trans hlimit')
    rfl

/-- A limit of the waits is no empty span. -/
theorem nanos_pos (a : Aggregator) {limit : Duration} (h : a.config.recordTimeout = some limit) :
    0 < limit.nanos := by
  have hchecked := a.checked
  obtain ⟨millis, hmillis, rfl⟩ := Option.map_eq_some_iff.mp h
  rw [AggregatorConfig.validate, hmillis] at hchecked
  have hne : millis ≠ 0 := by
    rintro rfl
    split at hchecked
    · cases hchecked
    · split at hchecked
      · cases hchecked
      · simp at hchecked
  simp only [Duration.ofMillis]
  omega

/-- One poll of a run that has gone on until then. -/
theorem verdict_of_unfinished (a : Aggregator) {s : RecordStream ρ}
    (hbind : a.bind s.schema = .ok ()) {acts : List (Act ρ)}
    (h : (a.run (a.amid s acts) : Ending (Report α)) = .unfinished) (pull : Pull ρ) :
    Verdict a acts pull (a.run (a.amid s (acts ++ [.poll pull])) : Ending (Report α)) := by
  have hpasses := (a.run_amid_eq_unfinished_iff hbind acts).mp h
  have hrun : (a.run (a.amid s (acts ++ [.poll pull])) : Ending (Report α)) =
      (a.drive (a.reached (recordsAmid acts)) [⟨(situation acts).cancelled, pull,
        (situation acts).expired a.config.recordTimeout⟩]).1.map (·.finish) := by
    rw [a.run_amid_eq hbind, pollsAmid_append, a.drive_append hpasses]
    rfl
  rw [hrun, drive]
  by_cases hcancel : .cancel ∈ acts
  · rw [if_pos ((cancelled_situation acts).mpr hcancel), recordsRead_reached]
    exact .cancelled pull hcancel
  · rw [if_neg fun hset => hcancel ((cancelled_situation acts).mp hset)]
    cases pull with
    | ready r => exact .ready r hcancel
    | failing e =>
      simp only [recordsRead_reached]
      exact .failing e hcancel
    | ended => exact .ended hcancel
    | pending =>
      cases hlimit : a.config.recordTimeout with
      | none =>
        simp only [Situation.expired, Option.any_none]
        refine .waiting hcancel fun limit hsome => ?_
        cases hlimit.symm.trans hsome
      | some limit =>
        simp only [Situation.expired, Option.any_some]
        by_cases hwait : limit.nanos ≤ (situation acts).waited.getD 0
        · simp only [decide_eq_true hwait, recordsRead_reached]
          exact .expired hcancel hlimit ((outlasts_iff (a.nanos_pos hlimit) acts).mpr hwait)
        · simp only [decide_eq_false hwait]
          refine .waiting hcancel fun limit' hsome => ?_
          obtain rfl := Option.some.inj (hlimit.symm.trans hsome)
          rwa [outlasts_iff (a.nanos_pos hlimit)]

/-- A run makes a poll amid some acts: it has gone on until then. -/
structure Polls (α : Type) [Arithmetic α] (a : Aggregator) (s : RecordStream ρ)
    (acts before : List (Act ρ)) (pull : Pull ρ) : Prop where
  next : before ++ [.poll pull] <+: acts
  goesOn : (a.run (a.amid s before) : Ending (Report α)) = .unfinished

/-- A run ends with a poll that it makes. -/
theorem exists_polls (a : Aggregator) {s : RecordStream ρ} (hbind : a.bind s.schema = .ok ())
    {acts : List (Act ρ)} (h : (a.run (a.amid s acts) : Ending (Report α)) ≠ .unfinished) :
    ∃ before pull, a.Polls α s acts before pull ∧
      Verdict a before pull (a.run (a.amid s acts) : Ending (Report α)) := by
  induction acts using List.reverseRecOn with
  | nil =>
    rw [a.run_amid_eq hbind] at h
    exact absurd rfl h
  | append_singleton acts act ih =>
    by_cases hgoes : (a.run (a.amid s acts) : Ending (Report α)) = .unfinished
    · -- The run is ended by the last act, which has to be a poll.
      have hsame : pollsAmid a.config.recordTimeout .start (acts ++ [act]) =
          pollsAmid a.config.recordTimeout .start acts →
          (a.run (a.amid s (acts ++ [act])) : Ending (Report α)) = .unfinished := by
        intro hpolls
        rw [a.run_amid_eq hbind, hpolls, ← a.run_amid_eq hbind, hgoes]
      cases act with
      | cancel => exact absurd (hsame (by simp [pollsAmid_append, pollsAmid])) h
      | wait span => exact absurd (hsame (by simp [pollsAmid_append, pollsAmid])) h
      | poll pull =>
        exact ⟨acts, pull, ⟨List.prefix_rfl, hgoes⟩, a.verdict_of_unfinished hbind hgoes pull⟩
    · obtain ⟨before, pull, hpolls, hverdict⟩ := ih hgoes
      refine ⟨before, pull, ⟨hpolls.next.trans (List.prefix_append _ _), hpolls.goesOn⟩, ?_⟩
      rwa [a.run_amid_append hbind hgoes]

/-- What a poll decides is how the run ends. -/
theorem run_amid_eq_of_polls (a : Aggregator) {s : RecordStream ρ}
    (hbind : a.bind s.schema = .ok ()) {acts before : List (Act ρ)} {pull : Pull ρ}
    (hpolls : a.Polls α s acts before pull) {e : AuditError}
    (h : (a.run (a.amid s (before ++ [.poll pull])) : Ending (Report α)) = .failed e) :
    (a.run (a.amid s acts) : Ending (Report α)) = .failed e := by
  obtain ⟨later, rfl⟩ := hpolls.next
  rw [a.run_amid_append hbind (by simp [h]), h]

/-- How a run heeds its cancellation and the limit of its waits, whatever
happens around it.  It is cancelled only if the flag was set, and times out only
if an item was pending for as long as the limit.  Either error tells how many
records had been read, and each of these has been taken in once.  At a poll where
the flag is set the run is cancelled, whatever else that poll might find; so if
there is a report, the flag was not set before the last poll, and if the flag is
set before the first poll, nothing is read. -/
theorem run_heedsCancellation (a : Aggregator) {s : RecordStream ρ}
    (hbind : a.bind s.schema = .ok ()) (acts : List (Act ρ)) :
    (∀ n, (a.run (a.amid s acts) : Ending (Report α)) = .failed (.cancelled n) →
      ∃ before pull, a.Polls α s acts before pull ∧ .cancel ∈ before ∧
        n = (recordsAmid before).length) ∧
    (∀ n limit, (a.run (a.amid s acts) : Ending (Report α)) = .failed (.timeout n limit) →
      ∃ before, a.Polls α s acts before .pending ∧ .cancel ∉ before ∧
        a.config.recordTimeout = some limit ∧ Outlasts limit before ∧
        n = (recordsAmid before).length) ∧
    (∀ before pull, a.Polls α s acts before pull →
      a.HasTaken α s before (recordsAmid before) ∧
      (.cancel ∈ before → (a.run (a.amid s acts) : Ending (Report α)) =
        .failed (.cancelled (recordsAmid before).length)) ∧
      (.cancel ∉ before → pull = .pending → ∀ limit, a.config.recordTimeout = some limit →
        Outlasts limit before → (a.run (a.amid s acts) : Ending (Report α)) =
          .failed (.timeout (recordsAmid before).length limit))) ∧
    (∀ report, (a.run (a.amid s acts) : Ending (Report α)) = .finished report →
      ∃ before, a.Polls α s acts before .ended ∧ .cancel ∉ before) ∧
    (∀ before pull, before ++ [.poll pull] <+: acts → (∀ pull', .poll pull' ∉ before) →
      .cancel ∈ before → (a.run (a.amid s acts) : Ending (Report α)) = .failed (.cancelled 0)) := by
  have hdecided : ∀ {ending : Ending (Report α)}, a.run (a.amid s acts) = ending →
      ending ≠ .unfinished → ∃ before pull, a.Polls α s acts before pull ∧
        Verdict a before pull ending := by
    rintro ending rfl hended
    exact a.exists_polls hbind hended
  have hheeds : ∀ before pull, a.Polls α s acts before pull → .cancel ∈ before →
      (a.run (a.amid s acts) : Ending (Report α)) =
        .failed (.cancelled (recordsAmid before).length) := by
    intro before pull hpolls hcancel
    have hverdict := a.verdict_of_unfinished hbind hpolls.goesOn pull
    exact a.run_amid_eq_of_polls hbind hpolls (hverdict.eq_cancelled hcancel)
  refine ⟨?_, ?_, ?_, ?_, ?_⟩
  · intro n hrun
    obtain ⟨before, pull, hpolls, hverdict⟩ := hdecided hrun (by simp)
    cases hverdict with
    | cancelled _ hcancel => exact ⟨before, pull, hpolls, hcancel, rfl⟩
  · intro n limit hrun
    obtain ⟨before, pull, hpolls, hverdict⟩ := hdecided hrun (by simp)
    cases hverdict with
    | expired hcancel hlimit hwait => exact ⟨before, hpolls, hcancel, hlimit, hwait, rfl⟩
  · intro before pull hpolls
    refine ⟨a.hasTaken_of_unfinished hbind hpolls.goesOn, hheeds before pull hpolls, ?_⟩
    rintro hcancel rfl limit hlimit hwait
    have hverdict := a.verdict_of_unfinished hbind hpolls.goesOn .pending
    exact a.run_amid_eq_of_polls hbind hpolls (hverdict.eq_timeout hcancel hlimit hwait)
  · intro report hrun
    obtain ⟨before, pull, hpolls, hverdict⟩ := hdecided hrun (by simp)
    cases hverdict with
    | ended hcancel => exact ⟨before, hpolls, hcancel⟩
  · intro before pull hnext hidle hcancel
    have hgoes : (a.run (a.amid s before) : Ending (Report α)) = .unfinished := by
      rw [a.run_amid_eq hbind, pollsAmid_of_idle hidle]
      rfl
    have hnone := (a.run_amid_eq_unfinished_iff hbind before).mp hgoes
    rw [pollsAmid_of_idle hidle] at hnone
    rw [hheeds before pull ⟨hnext, hgoes⟩ hcancel, ← hnone.pulled_eq]
    rfl

/-- A row comes, and the next one has been pending for thirty milliseconds. -/
def stalledActs : List (Act Row) :=
  [.poll (.ready (.ofValues pairSchema [.integer 4, .float 1])), .wait (.ofMillis 5),
    .poll .pending, .wait (.ofMillis 10), .poll .pending, .wait (.ofMillis 20)]

/-- The wait ends with an error, but if the flag is set by then the run is
cancelled, even where the item has come at last. -/
theorem run_heedsCancellation_stalledActs :
    ∃ (a : Aggregator) (s : RecordStream Row),
      build [.notNull "m"] ["n"] [.isNotNull "n"]
          (AggregatorConfig.standard.withRecordTimeout (.ofMillis 30)) = .ok a ∧
        (a.run (a.amid s (stalledActs ++ [.poll .pending])) : Ending (Report Float)) =
          .failed (.timeout 1 (.ofMillis 30)) ∧
        (a.run (a.amid s (stalledActs ++
            [.cancel, .poll (.ready (.ofValues pairSchema []))])) : Ending (Report Float)) =
          .failed (.cancelled 1) ∧
        (a.run (a.amid s (.cancel :: stalledActs)) : Ending (Report Float)) =
          .failed (.cancelled 0) := by
  obtain ⟨a, hbuild⟩ : ∃ a, build [.notNull "m"] ["n"] [.isNotNull "n"]
      (AggregatorConfig.standard.withRecordTimeout (.ofMillis 30)) = .ok a := ⟨_, rfl⟩
  have hbind : a.bind (RecordStream.ofRecords pairSchema pairRows).schema = .ok () := by
    obtain rfl := Except.ok.inj hbuild
    rfl
  have hlimit : a.config.recordTimeout = some (.ofMillis 30) := by
    obtain rfl := Except.ok.inj hbuild
    rfl
  have hgoes : ∀ acts : List (Act Row), acts = stalledActs ∨ acts = stalledActs ++ [.cancel] →
      (a.run (a.amid (RecordStream.ofRecords pairSchema pairRows) acts) : Ending (Report Float)) =
        .unfinished := by
    obtain rfl := Except.ok.inj hbuild
    rintro acts (rfl | rfl) <;> rfl
  have hwait : Outlasts (.ofMillis 30) stalledActs :=
    ⟨stalledActs.take 2, stalledActs.drop 3, rfl, by simp [stalledActs], by decide⟩
  refine ⟨a, .ofRecords pairSchema pairRows, hbuild, ?_, ?_, ?_⟩
  · obtain ⟨_, _, hmade, _⟩ := a.run_heedsCancellation (α := Float) hbind
      (stalledActs ++ [.poll .pending])
    exact (hmade stalledActs .pending ⟨List.prefix_rfl, hgoes _ (.inl rfl)⟩).2.2
      (by simp [stalledActs]) rfl _ hlimit hwait
  · obtain ⟨_, _, hmade, _⟩ := a.run_heedsCancellation (α := Float) hbind
      (stalledActs ++ [.cancel, .poll (.ready (.ofValues pairSchema []))])
    exact (hmade (stalledActs ++ [.cancel]) (.ready (.ofValues pairSchema []))
      ⟨⟨[], by simp⟩, hgoes _ (.inr rfl)⟩).2.1 (by simp)
  · obtain ⟨_, _, _, _, hearly⟩ := a.run_heedsCancellation (α := Float) hbind
      (.cancel :: stalledActs)
    exact hearly [.cancel] _ ⟨stalledActs.tail, rfl⟩ (by simp) (by simp)

end Aggregator

end RecordAudit
