import Mathlib.Algebra.Group.Even
import Mathlib.Algebra.Order.Group.Nat
import RecordAudit.Proofs.Filter.Ranges

/-!
# More operands make wider filters

What a filter makes of a list of operands is made of the parts of the list: a
value passes the filter of two lists together iff it passes that of either, or
of both where it must differ from all operands.

* `inPairs?_eq_some_iff` and `rangesOf_append` are the reading of bounds two by
  two, and `rangesOf_of_odd` what becomes of one that is left over.
* `Reads` is what both kinds of bounds have in common.  `Reads.exists_rangesOf_iff`
  is when ranges can be read, and `Reads.rangesOf_eq_error` what is said when not.
* `Condition.joined` is one condition with the operands of two, and
  `Condition.holds_joined` what it asks.
* `FlatFilter` keeps the comparison beside the operands, of which it may take
  the wrong kind.  `FlatFilter.new_eq` and `FlatFilter.answer?_flat` show that
  none that was built does.
-/

namespace RecordAudit

namespace RecordFilter

/-! ## Bounds two by two -/

theorem inPairs?_eq_some_iff {operands : List String} {texts : List (String × String)} :
    inPairs? operands = some texts ↔ operands = operandsOf texts := by
  constructor
  · intro h
    fun_induction inPairs? operands generalizing texts with
    | case1 =>
      obtain rfl := Option.some.inj h
      rfl
    | case2 => cases h
    | case3 a b rest ih =>
      obtain ⟨more, hmore, rfl⟩ := Option.map_eq_some_iff.mp h
      show a :: b :: rest = a :: b :: operandsOf more
      rw [ih hmore]
  · rintro rfl
    exact inPairs?_operandsOf texts

theorem length_operandsOf (texts : List (String × String)) :
    (operandsOf texts).length = 2 * texts.length := by
  induction texts with
  | nil => rfl
  | cons t rest ih =>
    show (operandsOf rest).length + 1 + 1 = _
    rw [ih, List.length_cons]
    omega

theorem operandsOf_append (texts more : List (String × String)) :
    operandsOf (texts ++ more) = operandsOf texts ++ operandsOf more := List.flatMap_append

/-- Operands go into pairs iff their number is even. -/
theorem exists_operandsOf_iff {operands : List String} :
    (∃ texts, operands = operandsOf texts) ↔ Even operands.length := by
  constructor
  · rintro ⟨texts, rfl⟩
    rw [length_operandsOf]
    exact even_two_mul _
  · intro heven
    fun_induction inPairs? operands with
    | case1 => exact ⟨[], rfl⟩
    | case2 => simp at heven
    | case3 a b rest ih =>
      have hrest : Even rest.length := by
        simpa [Nat.even_add_one] using heven
      obtain ⟨texts, rfl⟩ := ih hrest
      exact ⟨(a, b) :: texts, rfl⟩

section

variable {α : Type} {bound : String → Except ConfigurationFault α} {field : String}
  {c : Comparison}

/-- Reads the operands of a comparison as ranges. -/
def rangesOf (bound : String → Except ConfigurationFault α) (field : String) (c : Comparison)
    (operands : List String) : Except ConfigurationFault (List (α × α)) := do
  let texts ← pairs field c operands
  readRanges bound texts

theorem map_rangesOf {β : Type} (f : List (α × α) → β) {operands : List String} :
    (rangesOf bound field c operands).map f =
      (pairs field c operands >>= fun texts => readRanges bound texts >>= fun ranges =>
        .ok (f ranges)) := by
  unfold rangesOf
  cases pairs field c operands with
  | error fault => rfl
  | ok texts =>
    show (readRanges bound texts).map f = readRanges bound texts >>= _
    cases readRanges bound texts <;> rfl

theorem rangesOf_operandsOf {texts : List (String × String)} (hne : texts ≠ []) :
    rangesOf bound field c (operandsOf texts) = readRanges bound texts := by
  unfold rangesOf
  rw [pairs_operandsOf field c hne]
  rfl

theorem rangesOf_of_not_pairs {operands : List String}
    (h : ∀ texts, texts ≠ [] → operands ≠ operandsOf texts) :
    rangesOf bound field c operands = .error (.unpairedOperands c field operands.length) := by
  have hpairs : pairs field c operands = .error (.unpairedOperands c field operands.length) := by
    unfold pairs
    split
    · next t rest hsome => exact absurd (inPairs?_eq_some_iff.mp hsome) (h _ (List.cons_ne_nil _ _))
    · rfl
  unfold rangesOf
  rw [hpairs]
  rfl

/-- An odd number of operands is refused. -/
theorem rangesOf_of_odd {operands : List String} (hodd : ¬Even operands.length) :
    rangesOf bound field c operands = .error (.unpairedOperands c field operands.length) := by
  apply rangesOf_of_not_pairs
  intro texts _ hpairs
  exact hodd (exists_operandsOf_iff.mp ⟨texts, hpairs⟩)

theorem rangesOf_nil :
    rangesOf bound field c [] = .error (.unpairedOperands c field 0) := by
  apply rangesOf_of_not_pairs
  intro texts hne hpairs
  have hlength := congrArg List.length hpairs
  rw [length_operandsOf, List.length_nil] at hlength
  have hpos := List.length_pos_of_ne_nil hne
  omega

theorem readRanges_cons_eq_ok_iff {t : String × String} {rest : List (String × String)}
    {ranges : List (α × α)} :
    readRanges bound (t :: rest) = .ok ranges ↔ ∃ a b more, bound t.1 = .ok a ∧
      bound t.2 = .ok b ∧ readRanges bound rest = .ok more ∧ ranges = (a, b) :: more := by
  simp only [readRanges, Bind.bind, Except.bind]
  cases bound t.1 with
  | error fault => simp
  | ok a =>
    cases bound t.2 with
    | error fault => simp
    | ok b => cases readRanges bound rest <;> simp [eq_comm]

theorem readRanges_append {texts more : List (String × String)} {ranges ranges' : List (α × α)}
    (h : readRanges bound texts = .ok ranges) (h' : readRanges bound more = .ok ranges') :
    readRanges bound (texts ++ more) = .ok (ranges ++ ranges') := by
  induction texts generalizing ranges with
  | nil =>
    obtain rfl := Except.ok.inj h
    exact h'
  | cons t rest ih =>
    obtain ⟨a, b, tail, ha, hb, htail, rfl⟩ := readRanges_cons_eq_ok_iff.mp h
    exact readRanges_cons_eq_ok_iff.mpr ⟨a, b, _, ha, hb, ih htail, rfl⟩

/-- Ranges can be read iff all their bounds can. -/
theorem exists_readRanges_iff {texts : List (String × String)} :
    (∃ ranges, readRanges bound texts = .ok ranges) ↔
      ∀ text ∈ operandsOf texts, ∃ x, bound text = .ok x := by
  induction texts with
  | nil => exact iff_of_true ⟨[], rfl⟩ (by simp [operandsOf])
  | cons t rest ih =>
    have hcons : operandsOf (t :: rest) = t.1 :: t.2 :: operandsOf rest := rfl
    rw [hcons, List.forall_mem_cons, List.forall_mem_cons, ← ih]
    constructor
    · rintro ⟨ranges, h⟩
      obtain ⟨a, b, more, ha, hb, hmore, -⟩ := readRanges_cons_eq_ok_iff.mp h
      exact ⟨⟨a, ha⟩, ⟨b, hb⟩, more, hmore⟩
    · rintro ⟨⟨a, ha⟩, ⟨b, hb⟩, more, hmore⟩
      exact ⟨_, readRanges_cons_eq_ok_iff.mpr ⟨a, b, more, ha, hb, hmore, rfl⟩⟩

/-- The first bound that cannot be read decides. -/
theorem readRanges_of_unreadable {texts : List (String × String)} {before after : List String}
    {text : String} {fault : ConfigurationFault}
    (htexts : operandsOf texts = before ++ text :: after)
    (hbefore : ∀ t ∈ before, ∃ x, bound t = .ok x) (htext : bound text = .error fault) :
    readRanges bound texts = .error fault := by
  induction texts generalizing before with
  | nil => cases before <;> cases htexts
  | cons t rest ih =>
    have hcons : operandsOf (t :: rest) = t.1 :: t.2 :: operandsOf rest := rfl
    rw [hcons] at htexts
    unfold readRanges
    rcases before with _ | ⟨first, _ | ⟨second, before⟩⟩
    · obtain ⟨rfl, -⟩ := List.cons.inj htexts
      rw [htext]
      rfl
    · obtain ⟨rfl, htail⟩ := List.cons.inj htexts
      obtain ⟨rfl, -⟩ := List.cons.inj htail
      obtain ⟨a, ha⟩ := hbefore _ List.mem_cons_self
      rw [ha, htext]
      rfl
    · obtain ⟨rfl, htail⟩ := List.cons.inj htexts
      obtain ⟨rfl, hrest⟩ := List.cons.inj htail
      obtain ⟨a, ha⟩ := hbefore _ List.mem_cons_self
      obtain ⟨b, hb⟩ := hbefore _ (List.mem_cons_of_mem _ List.mem_cons_self)
      have hlater : ∀ t ∈ before, ∃ x, bound t = .ok x := fun t ht =>
        hbefore t (List.mem_cons_of_mem _ (List.mem_cons_of_mem _ ht))
      rw [ha, hb, ih hrest hlater]
      rfl

theorem exists_rangesOf_iff {operands : List String} :
    (∃ ranges, rangesOf bound field c operands = .ok ranges) ↔
      operands ≠ [] ∧ Even operands.length ∧ ∀ text ∈ operands, ∃ x, bound text = .ok x := by
  by_cases heven : Even operands.length
  · obtain ⟨texts, rfl⟩ := exists_operandsOf_iff.mpr heven
    cases texts with
    | nil =>
      refine iff_of_false ?_ fun h => h.1 rfl
      rintro ⟨ranges, h⟩
      rw [show operandsOf [] = [] from rfl, rangesOf_nil] at h
      cases h
    | cons t rest =>
      rw [rangesOf_operandsOf (List.cons_ne_nil _ _), exists_readRanges_iff]
      exact ⟨fun h => ⟨List.cons_ne_nil _ _, heven, h⟩, fun h => h.2.2⟩
  · refine iff_of_false ?_ fun h => heven h.2.1
    rintro ⟨ranges, h⟩
    rw [rangesOf_of_odd heven] at h
    cases h

theorem rangesOf_of_unreadable {operands before after : List String} {text : String}
    {fault : ConfigurationFault} (heven : Even operands.length)
    (hoperands : operands = before ++ text :: after)
    (hbefore : ∀ t ∈ before, ∃ x, bound t = .ok x) (htext : bound text = .error fault) :
    rangesOf bound field c operands = .error fault := by
  obtain ⟨texts, rfl⟩ := exists_operandsOf_iff.mpr heven
  have hne : texts ≠ [] := by
    rintro rfl
    cases before <;> cases hoperands
  rw [rangesOf_operandsOf hne]
  exact readRanges_of_unreadable hoperands hbefore htext

/-- The ranges of two lists of operands. -/
theorem rangesOf_append {operands more : List String} {ranges ranges' : List (α × α)}
    (h : rangesOf bound field c operands = .ok ranges)
    (h' : rangesOf bound field c more = .ok ranges') :
    rangesOf bound field c (operands ++ more) = .ok (ranges ++ ranges') := by
  obtain ⟨hne, heven, -⟩ := exists_rangesOf_iff.mp ⟨ranges, h⟩
  obtain ⟨hne', heven', -⟩ := exists_rangesOf_iff.mp ⟨ranges', h'⟩
  obtain ⟨texts, rfl⟩ := exists_operandsOf_iff.mpr heven
  obtain ⟨texts', rfl⟩ := exists_operandsOf_iff.mpr heven'
  have htexts : texts ≠ [] := by
    rintro rfl
    exact hne rfl
  have htexts' : texts' ≠ [] := by
    rintro rfl
    exact hne' rfl
  rw [rangesOf_operandsOf htexts] at h
  rw [rangesOf_operandsOf htexts'] at h'
  rw [← operandsOf_append, rangesOf_operandsOf (by simp [htexts])]
  exact readRanges_append h h'

end

end RecordFilter

/-! ## What a comparison takes -/

namespace Comparison

/-- A text that is a bound for a comparison with ranges. -/
def IsBound (c : Comparison) (text : String) : Prop :=
  match c with
  | betweenDates => (∃ t, Calendar.instant (Text.trimmed text) = .ok t) ∨
      ∃ d, Calendar.date (Text.trimmed text) = .ok d
  | _ => ∃ x, Number.double? (Text.trimmed text) = some x ∧ Double.isNaN x = false

/-- What is said of a text that is no bound for a comparison with ranges. -/
def boundFault (c : Comparison) (field text : String) : ConfigurationFault :=
  match c with
  | betweenDates => .boundNotInstant (Text.trimmed text) field
  | _ => .boundNotNumber text field

/-- The operands that a comparison takes. -/
def Takes (c : Comparison) (operands : List String) : Prop :=
  match c with
  | isNull | isNotNull => True
  | equals | notEquals | startsWith | endsWith => operands ≠ []
  | between | betweenDates =>
    operands ≠ [] ∧ Even operands.length ∧ ∀ text ∈ operands, c.IsBound text

end Comparison

namespace RecordFilter

/-- Bounds of a comparison are read, and what is none is refused. -/
def Reads {α : Type} (bound : String → Except ConfigurationFault α) (field : String)
    (c : Comparison) : Prop :=
  ∀ text, (c.IsBound text ∧ ∃ x, bound text = .ok x) ∨
    ¬c.IsBound text ∧ bound text = .error (c.boundFault field text)

theorem reads_numberBound (field : String) : Reads (numberBound field) field .between := by
  intro text
  simp only [numberBound, Comparison.IsBound, Comparison.boundFault]
  cases Number.double? (Text.trimmed text) with
  | none => simp
  | some x =>
    cases hnan : Double.isNaN x with
    | true => simp [hnan]
    | false => simp [hnan]

theorem reads_instantBound (field : String) : Reads (instantBound field) field .betweenDates := by
  intro text
  simp only [instantBound, Comparison.IsBound, Comparison.boundFault]
  cases Calendar.instant (Text.trimmed text) with
  | ok t => simp
  | error e =>
    cases Calendar.date (Text.trimmed text) with
    | ok d => simp
    | error e' => simp

section

variable {α : Type} {bound : String → Except ConfigurationFault α} {field : String}
  {c : Comparison}

theorem Reads.exists_iff (h : Reads bound field c) (text : String) :
    (∃ x, bound text = .ok x) ↔ c.IsBound text := by
  rcases h text with ⟨hbound, hx⟩ | ⟨hnot, hfault⟩
  · exact iff_of_true hx hbound
  · refine iff_of_false ?_ hnot
    rw [hfault]
    simp

theorem Reads.exists_rangesOf_iff (h : Reads bound field c) {operands : List String} :
    (∃ ranges, rangesOf bound field c operands = .ok ranges) ↔
      operands ≠ [] ∧ Even operands.length ∧ ∀ text ∈ operands, c.IsBound text := by
  simp only [RecordFilter.exists_rangesOf_iff, h.exists_iff]

/-- Of bounds that go into pairs the first that cannot be read is refused. -/
theorem Reads.rangesOf_eq_error (h : Reads bound field c) {operands before after : List String}
    {text : String} (heven : Even operands.length) (hoperands : operands = before ++ text :: after)
    (hbefore : ∀ t ∈ before, c.IsBound t) (htext : ¬c.IsBound text) :
    rangesOf bound field c operands = .error (c.boundFault field text) := by
  rcases h text with ⟨hbound, -⟩ | ⟨-, hfault⟩
  · exact absurd hbound htext
  · exact rangesOf_of_unreadable heven hoperands
      (fun t ht => (h.exists_iff t).mpr (hbefore t ht)) hfault

end

end RecordFilter

/-! ## Conditions with the operands of two -/

namespace Condition

/-- A condition with the operands of another one of its kind after its own. -/
def joined : Condition → Condition → Condition
  | equals xs, equals ys => equals (xs ++ ys)
  | notEquals xs, notEquals ys => notEquals (xs ++ ys)
  | startsWith xs, startsWith ys => startsWith (xs ++ ys)
  | endsWith xs, endsWith ys => endsWith (xs ++ ys)
  | between xs, between ys => between (xs ++ ys)
  | betweenDates xs, betweenDates ys => betweenDates (xs ++ ys)
  | p, _ => p

/-- A value meets two conditions of one kind together iff it meets either, or both of them if it
must differ from all operands. -/
theorem holds_joined {p q : Condition} (h : p.comparison = q.comparison) (v : FieldValue) :
    (p.joined q).holds v =
      if p.comparison = .notEquals then p.holds v && q.holds v else p.holds v || q.holds v := by
  have hand : ∀ present a b : Bool,
      (present && (a && b)) = (present && a && (present && b)) := by decide
  cases p <;> cases q <;> cases h
  case notEquals.notEquals xs ys =>
    show (!v.isNull && (xs ++ ys).all _) = _
    rw [List.all_append, hand]
    rfl
  all_goals simp [joined, holds, holdsOf, comparison, Bool.and_or_distrib_left]

end Condition

namespace RecordFilter

variable {field : String} {c : Comparison}

theorem conditionOf_between (field : String) (operands : List String) :
    conditionOf field .between operands =
      (rangesOf (numberBound field) field .between operands).map .between :=
  (map_rangesOf Condition.between).symm

theorem conditionOf_betweenDates (field : String) (operands : List String) :
    conditionOf field .betweenDates operands =
      (rangesOf (instantBound field) field .betweenDates operands).map .betweenDates :=
  (map_rangesOf Condition.betweenDates).symm

/-- What a comparison makes of its operands. -/
inductive Makes (field : String) : Comparison → List String → Condition → Prop
  | isNull (operands : List String) : Makes field .isNull operands .isNull
  | isNotNull (operands : List String) : Makes field .isNotNull operands .isNotNull
  | equals {operands : List String} (hne : operands ≠ []) :
      Makes field .equals operands (.equals operands)
  | notEquals {operands : List String} (hne : operands ≠ []) :
      Makes field .notEquals operands (.notEquals operands)
  | startsWith {operands : List String} (hne : operands ≠ []) :
      Makes field .startsWith operands (.startsWith operands)
  | endsWith {operands : List String} (hne : operands ≠ []) :
      Makes field .endsWith operands (.endsWith operands)
  | between {operands : List String} {ranges : List (Float × Float)}
      (h : rangesOf (numberBound field) field .between operands = .ok ranges) :
      Makes field .between operands (.between ranges)
  | betweenDates {operands : List String} {periods : List (Timestamp × Timestamp)}
      (h : rangesOf (instantBound field) field .betweenDates operands = .ok periods) :
      Makes field .betweenDates operands (.betweenDates periods)

theorem map_eq_ok_iff {ε α β : Type} {f : α → β} {x : Except ε α} {b : β} :
    x.map f = .ok b ↔ ∃ a, x = .ok a ∧ f a = b := by
  cases x with
  | error e => simp [Except.map]
  | ok a => simp [Except.map]

theorem ite_eq_ok_iff {operands : List String} {fault : ConfigurationFault} {p q : Condition} :
    (if operands = [] then Except.error fault else .ok p) = .ok q ↔ operands ≠ [] ∧ p = q := by
  by_cases hnil : operands = [] <;> simp [hnil]

theorem conditionOf_eq_ok_iff {operands : List String} {p : Condition} :
    conditionOf field c operands = .ok p ↔ Makes field c operands p := by
  cases c
  case between =>
    rw [conditionOf_between, map_eq_ok_iff]
    constructor
    · rintro ⟨ranges, h, rfl⟩
      exact .between h
    · rintro ⟨⟩
      exact ⟨_, ‹_›, rfl⟩
  case betweenDates =>
    rw [conditionOf_betweenDates, map_eq_ok_iff]
    constructor
    · rintro ⟨periods, h, rfl⟩
      exact .betweenDates h
    · rintro ⟨⟩
      exact ⟨_, ‹_›, rfl⟩
  case isNull =>
    constructor
    · intro h
      obtain rfl := Except.ok.inj h
      exact .isNull operands
    · rintro ⟨⟩
      rfl
  case isNotNull =>
    constructor
    · intro h
      obtain rfl := Except.ok.inj h
      exact .isNotNull operands
    · rintro ⟨⟩
      rfl
  all_goals
    refine ite_eq_ok_iff.trans ⟨?_, ?_⟩
    · rintro ⟨hne, rfl⟩
      constructor
      exact hne
    · rintro ⟨⟩
      exact ⟨‹_›, rfl⟩

theorem new_eq_ok_iff {operands : List String} {f : RecordFilter} :
    new field c operands = .ok f ↔ ∃ p, Makes field c operands p ∧ f = ⟨field, p⟩ := by
  simp only [← conditionOf_eq_ok_iff]
  simp only [new, Bind.bind, Except.bind]
  cases conditionOf field c operands <;> simp [eq_comm]

theorem Makes.comparison_eq {operands : List String} {p : Condition}
    (h : Makes field c operands p) : p.comparison = c := by
  cases h <;> rfl

theorem Makes.append {operands more : List String} {p q : Condition}
    (h : Makes field c operands p) (h' : Makes field c more q) :
    Makes field c (operands ++ more) (p.joined q) := by
  cases h with
  | isNull => exact .isNull _
  | isNotNull => exact .isNotNull _
  | equals hne =>
    cases h'
    exact .equals (List.append_ne_nil_of_left_ne_nil hne _)
  | notEquals hne =>
    cases h'
    exact .notEquals (List.append_ne_nil_of_left_ne_nil hne _)
  | startsWith hne =>
    cases h'
    exact .startsWith (List.append_ne_nil_of_left_ne_nil hne _)
  | endsWith hne =>
    cases h'
    exact .endsWith (List.append_ne_nil_of_left_ne_nil hne _)
  | between hranges =>
    cases h' with
    | between hranges' => exact .between (rangesOf_append hranges hranges')
  | betweenDates hperiods =>
    cases h' with
    | betweenDates hperiods' => exact .betweenDates (rangesOf_append hperiods hperiods')

theorem Makes.takes {operands : List String} {p : Condition} (h : Makes field c operands p) :
    c.Takes operands := by
  cases h with
  | isNull | isNotNull => trivial
  | equals hne | notEquals hne | startsWith hne | endsWith hne => exact hne
  | between hranges => exact (reads_numberBound field).exists_rangesOf_iff.mp ⟨_, hranges⟩
  | betweenDates hperiods => exact (reads_instantBound field).exists_rangesOf_iff.mp ⟨_, hperiods⟩

theorem exists_makes (field : String) {operands : List String} (h : c.Takes operands) :
    ∃ p, Makes field c operands p := by
  cases c with
  | isNull => exact ⟨_, .isNull operands⟩
  | isNotNull => exact ⟨_, .isNotNull operands⟩
  | equals => exact ⟨_, .equals h⟩
  | notEquals => exact ⟨_, .notEquals h⟩
  | startsWith => exact ⟨_, .startsWith h⟩
  | endsWith => exact ⟨_, .endsWith h⟩
  | between =>
    obtain ⟨ranges, hranges⟩ := (reads_numberBound field).exists_rangesOf_iff.mpr h
    exact ⟨_, .between hranges⟩
  | betweenDates =>
    obtain ⟨periods, hperiods⟩ := (reads_instantBound field).exists_rangesOf_iff.mpr h
    exact ⟨_, .betweenDates hperiods⟩

/-- A comparison makes a filter of the operands that it takes, and of no others. -/
theorem exists_new_iff {operands : List String} :
    (∃ f, new field c operands = .ok f) ↔ c.Takes operands := by
  simp only [new_eq_ok_iff]
  constructor
  · rintro ⟨f, p, hp, -⟩
    exact hp.takes
  · intro h
    obtain ⟨p, hp⟩ := exists_makes field h
    exact ⟨_, p, hp, rfl⟩

theorem new_of_conditionOf_error {operands : List String} {fault : ConfigurationFault}
    (h : conditionOf field c operands = .error fault) : new field c operands = .error fault := by
  unfold new
  rw [h]
  rfl

/-- An odd number of bounds is refused, whether or not they can be read. -/
theorem new_of_odd (hranges : c = .between ∨ c = .betweenDates) {operands : List String}
    (hodd : ¬Even operands.length) :
    new field c operands = .error (.unpairedOperands c field operands.length) := by
  apply new_of_conditionOf_error
  rcases hranges with rfl | rfl
  · rw [conditionOf_between, rangesOf_of_odd hodd]
    rfl
  · rw [conditionOf_betweenDates, rangesOf_of_odd hodd]
    rfl

theorem new_of_unreadable (hranges : c = .between ∨ c = .betweenDates)
    {operands before after : List String} {text : String} (heven : Even operands.length)
    (hoperands : operands = before ++ text :: after) (hbefore : ∀ t ∈ before, c.IsBound t)
    (htext : ¬c.IsBound text) : new field c operands = .error (c.boundFault field text) := by
  apply new_of_conditionOf_error
  rcases hranges with rfl | rfl
  · rw [conditionOf_between,
      (reads_numberBound field).rangesOf_eq_error heven hoperands hbefore htext]
    rfl
  · rw [conditionOf_betweenDates,
      (reads_instantBound field).rangesOf_eq_error heven hoperands hbefore htext]
    rfl

end RecordFilter

/-! ## Comparisons beside their operands -/

/-- Operands of any kind. -/
inductive Operands where
  | none
  | texts (operands : List String)
  | numbers (ranges : List (Float × Float))
  | periods (periods : List (Timestamp × Timestamp))

/-- The operands of a comparison that some texts stand for. -/
def Operands.read (field : String) (c : Comparison) (texts : List String) :
    Except ConfigurationFault Operands :=
  match c with
  | .isNull | .isNotNull => .ok none
  | .equals | .notEquals | .startsWith | .endsWith =>
    if texts = [] then .error (.missingOperand c field) else .ok (.texts texts)
  | .between => (RecordFilter.rangesOf (RecordFilter.numberBound field) field c texts).map numbers
  | .betweenDates =>
    (RecordFilter.rangesOf (RecordFilter.instantBound field) field c texts).map periods

/-- The operands of a condition. -/
def Condition.operands : Condition → Operands
  | equals operands | notEquals operands | startsWith operands | endsWith operands =>
    .texts operands
  | between ranges => .numbers ranges
  | betweenDates periods => .periods periods
  | isNull | isNotNull => .none

/-- A filter that keeps its comparison beside operands of any kind. -/
structure FlatFilter where
  field : String
  comparison : Comparison
  operands : Operands

/-- A filter with its comparison beside its operands. -/
def RecordFilter.flat (f : RecordFilter) : FlatFilter :=
  ⟨f.field, f.condition.comparison, f.condition.operands⟩

namespace FlatFilter

/-- The filter of a comparison with its operands. -/
def new (field : String) (c : Comparison) (texts : List String) :
    Except ConfigurationFault FlatFilter :=
  (Operands.read field c texts).map fun operands => ⟨field, c, operands⟩

open Condition in
/-- Whether a value passes a filter.  There is no answer where a comparison is left with a value
that is not null and operands of the wrong kind. -/
def answer? (f : FlatFilter) (v : FieldValue) : Option Bool :=
  match f.comparison, f.operands with
  | .isNull, _ => some v.isNull
  | .isNotNull, _ => some !v.isNull
  | c, o =>
    if v.isNull then some false
    else
      match c, o with
      | .equals, .texts operands => some (operands.any (equalsOperand v))
      | .notEquals, .texts operands => some (operands.all fun o => !equalsOperand v o)
      | .startsWith, .texts operands => some (operands.any (startsWithOperand v))
      | .endsWith, .texts operands => some (operands.any (endsWithOperand v))
      | .between, .numbers ranges => some (ranges.any (inRange v))
      | .betweenDates, .periods periods => some (periods.any (inPeriod v))
      | _, _ => none

/-- A filter that one of the constructors gives. -/
inductive Built : FlatFilter → Prop
  | new {field : String} {c : Comparison} {texts : List String} {f : FlatFilter}
      (h : FlatFilter.new field c texts = .ok f) : Built f
  | isNull (field : String) : Built ⟨field, .isNull, .none⟩
  | isNotNull (field : String) : Built ⟨field, .isNotNull, .none⟩

/-- A condition has its operands from the same texts, and is refused for the same reason. -/
theorem operandsRead_eq (field : String) (c : Comparison) (texts : List String) :
    Operands.read field c texts = (RecordFilter.conditionOf field c texts).map (·.operands) := by
  cases c
  case isNull => rfl
  case isNotNull => rfl
  case between =>
    rw [RecordFilter.conditionOf_between]
    show (RecordFilter.rangesOf _ field _ texts).map _ = _
    cases RecordFilter.rangesOf (RecordFilter.numberBound field) field .between texts <;> rfl
  case betweenDates =>
    rw [RecordFilter.conditionOf_betweenDates]
    show (RecordFilter.rangesOf _ field _ texts).map _ = _
    cases RecordFilter.rangesOf (RecordFilter.instantBound field) field .betweenDates texts <;> rfl
  all_goals
    by_cases hnil : texts = []
    · subst hnil
      rfl
    · simp [Operands.read, RecordFilter.conditionOf, hnil, Except.map, Condition.operands]

/-- Both forms of a filter are built alike. -/
theorem new_eq (field : String) (c : Comparison) (texts : List String) :
    new field c texts = (RecordFilter.new field c texts).map (·.flat) := by
  unfold new
  rw [operandsRead_eq]
  cases hcondition : RecordFilter.conditionOf field c texts with
  | error fault =>
    rw [RecordFilter.new_of_conditionOf_error hcondition]
    rfl
  | ok p =>
    have hp := RecordFilter.conditionOf_eq_ok_iff.mp hcondition
    rw [RecordFilter.new_eq_ok_iff.mpr ⟨p, hp, rfl⟩]
    show Except.ok (⟨field, c, p.operands⟩ : FlatFilter) =
      .ok ⟨field, p.comparison, p.operands⟩
    rw [hp.comparison_eq]

/-- The operands of a condition are of the kind that its comparison has a use for. -/
theorem answer?_flat (f : RecordFilter) (v : FieldValue) :
    f.flat.answer? v = some (f.matchesValue v) := by
  obtain ⟨field, p⟩ := f
  cases hnull : v.isNull <;> cases p <;>
    simp [answer?, RecordFilter.flat, Condition.comparison, Condition.operands,
      RecordFilter.matchesValue, Condition.holds, Condition.holdsOf, hnull]

/-- Texts have no use for ranges of numbers. -/
example : (⟨"n", .equals, .numbers []⟩ : FlatFilter).answer? (.integer 1) = none := rfl

theorem Built.exists_flat {g : FlatFilter} (h : Built g) : ∃ f : RecordFilter, g = f.flat := by
  cases h with
  | new h =>
    rw [new_eq, RecordFilter.map_eq_ok_iff] at h
    obtain ⟨f, -, rfl⟩ := h
    exact ⟨f, rfl⟩
  | isNull field => exact ⟨RecordFilter.isNull field, rfl⟩
  | isNotNull field => exact ⟨RecordFilter.isNotNull field, rfl⟩

end FlatFilter

namespace RecordFilter

theorem matchesValue_null (f : RecordFilter) :
    f.matchesValue .null = true ↔ f.condition.comparison = .isNull := by
  obtain ⟨field, p⟩ := f
  cases p <;> simp [matchesValue, Condition.holds, Condition.comparison, FieldValue.isNull,
    Condition.holdsOf]

/-- What must differ from all operands is what is there and equals none of them. -/
theorem matchesValue_notEquals_iff {field : String} (operands : List String) (v : FieldValue) :
    matchesValue ⟨field, .notEquals operands⟩ v = true ↔
      v ≠ .null ∧ ¬matchesValue ⟨field, .equals operands⟩ v = true := by
  have hnull : v.isNull = true ↔ v = .null := by cases v <;> simp [FieldValue.isNull]
  show (!v.isNull && operands.all fun o => !Condition.equalsOperand v o) = true ↔
    v ≠ .null ∧ ¬(!v.isNull && operands.any (Condition.equalsOperand v)) = true
  rw [ne_eq, ← hnull, List.all_eq_not_any_not]
  cases v.isNull <;> simp

/-- More operands widen a filter, or narrow it where a value must differ from all of them.

* A comparison takes exactly the operands that `Comparison.Takes` says, and those of two lists that
  it takes together, too.
* The filter of both lists passes what either filter passes, or what both pass.
* Ranges need bounds that go into pairs and can be read.
* To differ from all operands is to be there and equal none.
* However a filter is built, its comparison and operands fit each other, and only the comparison
  with null passes null. -/
theorem new_append_widens (field : String) :
    (∀ (c : Comparison) (xs : List String), (∃ f, new field c xs = .ok f) ↔ c.Takes xs) ∧
    (∀ (c : Comparison) (xs ys : List String) (f g : RecordFilter), new field c xs = .ok f →
      new field c ys = .ok g → ∃ h, new field c (xs ++ ys) = .ok h ∧ ∀ v, h.matchesValue v =
        if c = .notEquals then f.matchesValue v && g.matchesValue v
        else f.matchesValue v || g.matchesValue v) ∧
    (∀ c : Comparison, c = .between ∨ c = .betweenDates → ∀ xs : List String,
      (¬Even xs.length → new field c xs = .error (.unpairedOperands c field xs.length)) ∧
      ∀ (before after : List String) (text : String), Even xs.length →
        xs = before ++ text :: after → (∀ t ∈ before, c.IsBound t) → ¬c.IsBound text →
        new field c xs = .error (c.boundFault field text)) ∧
    (∀ (xs : List String) (f g : RecordFilter), new field .notEquals xs = .ok f →
      new field .equals xs = .ok g →
      ∀ v, f.matchesValue v = true ↔ v ≠ .null ∧ ¬g.matchesValue v = true) ∧
    (∀ (c : Comparison) (xs : List String),
      FlatFilter.new field c xs = (new field c xs).map (·.flat)) ∧
    ∀ g : FlatFilter, g.Built → ∃ f : RecordFilter, g = f.flat ∧
      (∀ v, g.answer? v = some (f.matchesValue v)) ∧
      (f.matchesValue .null = true ↔ g.comparison = .isNull) := by
  refine ⟨fun c xs => exists_new_iff, ?_, ?_, ?_, FlatFilter.new_eq field, ?_⟩
  · intro c xs ys f g hf hg
    obtain ⟨p, hp, rfl⟩ := new_eq_ok_iff.mp hf
    obtain ⟨q, hq, rfl⟩ := new_eq_ok_iff.mp hg
    refine ⟨_, new_eq_ok_iff.mpr ⟨_, hp.append hq, rfl⟩, ?_⟩
    intro v
    have hsame : p.comparison = q.comparison := hp.comparison_eq.trans hq.comparison_eq.symm
    have hjoined := Condition.holds_joined hsame v
    rw [hp.comparison_eq] at hjoined
    exact hjoined
  · intro c hranges xs
    refine ⟨new_of_odd hranges, ?_⟩
    intro before after text heven hxs hbefore htext
    exact new_of_unreadable hranges heven hxs hbefore htext
  · intro xs f g hf hg v
    obtain ⟨p, ⟨-⟩, rfl⟩ := new_eq_ok_iff.mp hf
    obtain ⟨q, ⟨-⟩, rfl⟩ := new_eq_ok_iff.mp hg
    exact matchesValue_notEquals_iff xs v
  · intro g hg
    obtain ⟨f, rfl⟩ := hg.exists_flat
    exact ⟨f, rfl, FlatFilter.answer?_flat f, f.matchesValue_null⟩

/-- Two ranges of numbers, and bounds of which the second has no month of its number. -/
theorem new_append_widens_ages :
    ∃ f g h, new "age" .between ["0", "10"] = .ok f ∧ new "age" .between ["20", "30"] = .ok g ∧
      new "age" .between ["0", "10", "20", "30"] = .ok h ∧
      h.matchesValue (.integer 25) =
        (f.matchesValue (.integer 25) || g.matchesValue (.integer 25)) ∧
      new "age" .betweenDates ["2024-01-01", " 2024-13-01"] =
        .error (.boundNotInstant "2024-13-01" "age") := by
  obtain ⟨-, happend, hrefused, -⟩ := new_append_widens "age"
  obtain ⟨f, hf⟩ : ∃ f, new "age" .between ["0", "10"] = .ok f := ⟨_, rfl⟩
  obtain ⟨g, hg⟩ : ∃ g, new "age" .between ["20", "30"] = .ok g := ⟨_, rfl⟩
  obtain ⟨h, hh, hmatches⟩ := happend .between _ _ f g hf hg
  refine ⟨f, g, h, hf, hg, hh, hmatches _, ?_⟩
  refine (hrefused .betweenDates (.inr rfl) _).2 ["2024-01-01"] [] " 2024-13-01" (by decide) rfl
    ?_ ?_
  · simp only [List.mem_singleton, forall_eq]
    exact .inr ⟨_, rfl⟩
  · rintro (⟨t, ht⟩ | ⟨d, hd⟩)
    · cases ht
    · cases hd

end RecordFilter

end RecordAudit
