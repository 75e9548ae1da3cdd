import RecordAudit.Calendar.Timestamp

/-!
# Dates and the numbers of days

Every date of the calendar has a number of days, and every number of days up to
the ends of the calendar has one date (`Date.ofDayNumber?_eq_some_iff`).  A
number of nanoseconds has a point in time if its day is there
(`Timestamp.ofNanos?_eq_some_iff`).

* `IsYearDay` is a year of an era and a day of it, as they are counted from
  March.  `exists_isYearDay` finds both for a day of an era, and
  `year_of_isYearDay` says that the quotient which `ofDayNumberUnbounded` takes
  is that year.
* `HasDay` is a date whose month has its day.  `start_add_daysIn` says where its
  month ends, and from there `isYearDay_of_hasDay` and `ofDayNumber_dayNumber`
  follow the day there and back.
* `exists_hasDay` goes from a day of a year to a date, so that no number of days is
  left without one (`hasDay_ofDayNumber`).
-/

namespace RecordAudit

namespace Date

/-! ## The days of an era -/

theorem isLeap_iff {year : Int} :
    isLeap year = true ↔ year % 4 = 0 ∧ (year % 100 ≠ 0 ∨ year % 400 = 0) := by
  simp [isLeap]

/-- A year of an era and a day of it, both counted from zero and from March.  The last day is there
only before the March of a leap year. -/
structure IsYearDay (year day : Int) : Prop where
  year_nonneg : 0 ≤ year
  year_lt : year < 400
  day_nonneg : 0 ≤ day
  day_le : day ≤ 364 ∨ day = 365 ∧ isLeap (year + 1) = true

/-- The days of an era up to a day of one of its years. -/
def dayOfEra (year day : Int) : Int := year * 365 + year / 4 - year / 100 + day

theorem exists_isYearDay {n : Int} (hlow : 0 ≤ n) (hhigh : n < 146097) :
    ∃ year day, IsYearDay year day ∧ n = dayOfEra year day := by
  -- Whole centuries go off first, then four years at a time, then years; the last century and the
  -- last year of four may be a day longer.
  obtain ⟨c, hc⟩ : ∃ c, c = min (n / 36524) 3 := ⟨_, rfl⟩
  obtain ⟨q, hq⟩ : ∃ q, q = (n - 36524 * c) / 1461 := ⟨_, rfl⟩
  obtain ⟨p, hp⟩ : ∃ p, p = min ((n - 36524 * c - 1461 * q) / 365) 3 := ⟨_, rfl⟩
  have hcentury : 0 ≤ c ∧ c ≤ 3 := by omega
  have hlong : n - 36524 * c = 36524 → c = 3 := by omega
  have hfour : 0 ≤ q ∧ q ≤ 24 := by omega
  have hyear : 0 ≤ p ∧ p ≤ 3 := by omega
  refine ⟨100 * c + 4 * q + p, n - 36524 * c - 1461 * q - 365 * p, ⟨?_, ?_, ?_, ?_⟩, ?_⟩
  · omega
  · omega
  · omega
  · rw [isLeap_iff]
    omega
  · have hfours : (100 * c + 4 * q + p) / 4 = 25 * c + q := by omega
    have hcenturies : (100 * c + 4 * q + p) / 100 = c := by omega
    rw [dayOfEra, hfours, hcenturies]
    omega

/-- The year is a quotient, once the leap days before it are taken off. -/
theorem year_of_isYearDay {year day n : Int} (h : IsYearDay year day) (hn : n = dayOfEra year day) :
    0 ≤ n ∧ n < 146097 ∧ (n - n / 1460 + n / 36524 - n / 146096) / 365 = year := by
  obtain ⟨hnonneg, hlt, hday, hle⟩ := h
  rw [isLeap_iff] at hle
  rw [dayOfEra] at hn
  obtain ⟨c, hc⟩ : ∃ c, c = year / 100 := ⟨_, rfl⟩
  obtain ⟨q, hq⟩ : ∃ q, q = (year - 100 * c) / 4 := ⟨_, rfl⟩
  obtain ⟨p, hp⟩ : ∃ p, year = 100 * c + 4 * q + p := ⟨year - 100 * c - 4 * q, by omega⟩
  have hcentury : 0 ≤ c ∧ c ≤ 3 := by omega
  have hfour : 0 ≤ q ∧ q ≤ 24 := by omega
  have hyear : 0 ≤ p ∧ p ≤ 3 := by omega
  have hlast : day ≤ 364 ∨ day = 365 ∧ p = 3 ∧ (q ≠ 24 ∨ c = 3) := by omega
  have hsplit : n = 36524 * c + 1461 * q + 365 * p + day := by omega
  clear hn hc hq hle
  refine ⟨by omega, by omega, ?_⟩
  have hcenturies : n / 36524 - n / 146096 = c := by
    by_cases hend : n = 146096
    · omega
    · have hquotient : n / 36524 = c := by omega
      omega
  -- Four years have a day more than 1460, so that the quotient may be one ahead.
  have hfours : n / 1460 = 25 * c + q + (24 * c + q + 365 * p + day) / 1460 := by omega
  obtain ⟨e, he⟩ : ∃ e, e = (24 * c + q + 365 * p + day) / 1460 := ⟨_, rfl⟩
  have hrest : 0 ≤ day - e ∧ day - e ≤ 364 := by omega
  have hsum : n - n / 1460 + n / 36524 - n / 146096 = 365 * year + (day - e) := by omega
  omega

/-! ## The days of a year -/

/-- A date whose month has its day. -/
structure HasDay (d : Date) : Prop where
  month_pos : 1 ≤ d.month
  month_le : d.month ≤ 12
  day_pos : 1 ≤ d.day
  day_le : d.day ≤ daysIn d.year d.month

/-- The year of a date, which begins in March. -/
def yearFromMarch (d : Date) : Int := if d.month ≤ 2 then d.year - 1 else d.year

/-- The month of a date, March being zero. -/
def monthFromMarch (month : Nat) : Int := (month + 9) % 12

/-- The day of a date in the year that begins in March. -/
def dayFromMarch (d : Date) : Int := (153 * monthFromMarch d.month + 2) / 5 + d.day - 1

theorem dayNumber_eq (d : Date) :
    d.dayNumber = d.yearFromMarch / 400 * 146097 +
      dayOfEra (d.yearFromMarch % 400) d.dayFromMarch - 719468 := rfl

/-- Where a month ends, the next one begins; February ends the year. -/
theorem start_add_daysIn {month : Nat} (hpos : 1 ≤ month) (hle : month ≤ 12) (year : Int) :
    (153 * monthFromMarch month + 2) / 5 + daysIn year month =
      if month = 2 then (if isLeap year then 366 else 365)
      else (153 * (monthFromMarch month + 1) + 2) / 5 := by
  obtain rfl | rfl | rfl | rfl | rfl | rfl | rfl | rfl | rfl | rfl | rfl | rfl :
    month = 1 ∨ month = 2 ∨ month = 3 ∨ month = 4 ∨ month = 5 ∨ month = 6 ∨ month = 7 ∨ month = 8 ∨
      month = 9 ∨ month = 10 ∨ month = 11 ∨ month = 12 := by omega
  case inr.inl =>
    rw [daysIn, if_pos rfl]
    split <;> rfl
  all_goals rfl

/-- A month goes by the months from March, and they by it. -/
theorem monthFromMarch_bounds {month : Nat} (hpos : 1 ≤ month) (hle : month ≤ 12) :
    0 ≤ monthFromMarch month ∧ monthFromMarch month ≤ 11 ∧
      (month : Int) =
        if monthFromMarch month < 10 then monthFromMarch month + 3
        else monthFromMarch month - 9 := by
  rw [monthFromMarch]
  split <;> omega

theorem isLeap_yearFromMarch (d : Date) :
    isLeap (d.yearFromMarch % 400 + 1) = isLeap (d.yearFromMarch + 1) := by
  rw [Bool.eq_iff_iff, isLeap_iff, isLeap_iff]
  omega

/-- The day of a year goes up to the end of February. -/
theorem isYearDay_of_hasDay {d : Date} (h : d.HasDay) :
    IsYearDay (d.yearFromMarch % 400) d.dayFromMarch where
  year_nonneg := by omega
  year_lt := by omega
  day_nonneg := by
    have hmonth := monthFromMarch_bounds h.month_pos h.month_le
    have hday := h.day_pos
    rw [dayFromMarch]
    omega
  day_le := by
    have hmonth := monthFromMarch_bounds h.month_pos h.month_le
    have hend := start_add_daysIn h.month_pos h.month_le d.year
    have hday := h.day_le
    rw [isLeap_yearFromMarch, dayFromMarch, yearFromMarch]
    split at hend
    · next hfeb =>
      rw [if_pos (by omega), Int.sub_add_cancel]
      split at hend
      · next hleap =>
        simp only [hleap, and_true]
        omega
      · exact .inl (by omega)
    · exact .inl (by split at hmonth <;> omega)

/-- The month of a day of a year, counted from March, is a quotient. -/
theorem month_of_day {d : Date} (h : d.HasDay) :
    (5 * d.dayFromMarch + 2) / 153 = monthFromMarch d.month := by
  have hmonth := monthFromMarch_bounds h.month_pos h.month_le
  have hend := start_add_daysIn h.month_pos h.month_le d.year
  have hpos := h.day_pos
  have hle := h.day_le
  rw [dayFromMarch]
  split at hend
  · split at hend <;> omega
  · omega

/-- The date of the number of days of a date is that date. -/
theorem ofDayNumber_dayNumber {d : Date} (h : d.HasDay) : ofDayNumberUnbounded d.dayNumber = d := by
  obtain ⟨hlow, hhigh, hyear⟩ := year_of_isYearDay (isYearDay_of_hasDay h) rfl
  have hmonth := month_of_day h
  have hbounds := monthFromMarch_bounds h.month_pos h.month_le
  have hera : (d.dayNumber + 719468) / 146097 = d.yearFromMarch / 400 := by
    rw [dayNumber_eq]
    omega
  have hday : (d.dayNumber + 719468) % 146097 =
      dayOfEra (d.yearFromMarch % 400) d.dayFromMarch := by
    rw [dayNumber_eq]
    omega
  have hrest : dayOfEra (d.yearFromMarch % 400) d.dayFromMarch -
      (365 * (d.yearFromMarch % 400) + d.yearFromMarch % 400 / 4 - d.yearFromMarch % 400 / 100) =
        d.dayFromMarch := by
    rw [dayOfEra]
    omega
  unfold ofDayNumberUnbounded
  simp only [hera, hday, hyear, hrest, hmonth, ← hbounds.2.2]
  have hyears : d.yearFromMarch % 400 + d.yearFromMarch / 400 * 400 +
      (if (d.month : Int) ≤ 2 then 1 else 0) = d.year := by
    rw [yearFromMarch]
    split <;> split <;> omega
  have hdays : (d.dayFromMarch - (153 * monthFromMarch d.month + 2) / 5 + 1).toNat = d.day := by
    rw [dayFromMarch]
    omega
  rw [hyears, hdays, Int.toNat_natCast]

/-- Every day of a year is that of a date. -/
theorem exists_hasDay {year day : Int} (h : IsYearDay (year % 400) day) :
    ∃ d : Date, d.HasDay ∧ d.yearFromMarch = year ∧ d.dayFromMarch = day := by
  obtain ⟨-, -, hnonneg, hle⟩ := h
  obtain ⟨m, hm⟩ : ∃ m, m = (5 * day + 2) / 153 := ⟨_, rfl⟩
  obtain ⟨month, hmonth⟩ : ∃ month : Nat, (month : Int) = if m < 10 then m + 3 else m - 9 :=
    ⟨(if m < 10 then m + 3 else m - 9).toNat, by split <;> omega⟩
  obtain ⟨first, hfirst⟩ : ∃ first : Nat, (first : Int) = day - (153 * m + 2) / 5 + 1 :=
    ⟨(day - (153 * m + 2) / 5 + 1).toNat, by omega⟩
  have hmarch : monthFromMarch month = m := by
    rw [monthFromMarch, hmonth]
    split <;> omega
  have hpos : 1 ≤ month := by split at hmonth <;> omega
  have htwelve : month ≤ 12 := by split at hmonth <;> omega
  obtain ⟨named, hnamed⟩ : ∃ named, named = if month ≤ 2 then year + 1 else year := ⟨_, rfl⟩
  have hyear : yearFromMarch ⟨named, month, first⟩ = year := by
    simp only [yearFromMarch]
    split at hnamed <;> omega
  refine ⟨⟨named, month, first⟩, ⟨hpos, htwelve, ?_, ?_⟩, hyear, ?_⟩
  · show 1 ≤ first
    omega
  · show first ≤ daysIn named month
    have hend := start_add_daysIn hpos htwelve named
    have hleap := isLeap_yearFromMarch ⟨named, month, first⟩
    rw [hyear] at hleap
    rw [hleap] at hle
    rw [hmarch] at hend
    split at hend
    · next hfeb =>
      rw [if_pos (by omega)] at hnamed
      rw [← hnamed] at hle
      split at hend
      · omega
      · next hnot =>
        have hshort : day ≤ 364 := hle.resolve_right fun h => hnot h.2
        omega
    · omega
  · simp only [dayFromMarch, hmarch]
    omega

/-- Every number of days is that of a date, which is found by it. -/
theorem hasDay_ofDayNumber (n : Int) :
    (ofDayNumberUnbounded n).HasDay ∧ (ofDayNumberUnbounded n).dayNumber = n := by
  obtain ⟨y, day, hyearDay, hday⟩ :=
    exists_isYearDay (n := (n + 719468) % 146097) (by omega) (by omega)
  have hlow := hyearDay.year_nonneg
  have hhigh := hyearDay.year_lt
  have hera : ((n + 719468) / 146097 * 400 + y) % 400 = y := by omega
  rw [← hera] at hyearDay
  obtain ⟨d, hd, hyear, hdayFrom⟩ := exists_hasDay hyearDay
  have hnumber : d.dayNumber = n := by
    rw [dayNumber_eq, hyear, hdayFrom, hera, ← hday]
    omega
  rw [← hnumber, ofDayNumber_dayNumber hd]
  exact ⟨hd, rfl⟩

/-! ## The calendar -/

/-- A date of the calendar: there is such a day of such a month, and its year has dates. -/
def InCalendar (d : Date) : Prop := ofParts? d.year d.month d.day = some d

theorem inCalendar_iff {d : Date} :
    d.InCalendar ↔ d.HasDay ∧ firstYear ≤ d.year ∧ d.year ≤ lastYear := by
  rw [InCalendar, ofParts?]
  constructor
  · intro h
    split at h
    · next hparts =>
      obtain ⟨hfirst, hlast, hmonth, htwelve, hday, hle⟩ := hparts
      exact ⟨⟨hmonth, htwelve, hday, hle⟩, hfirst, hlast⟩
    · cases h
  · rintro ⟨⟨hmonth, htwelve, hday, hle⟩, hfirst, hlast⟩
    exact if_pos ⟨hfirst, hlast, hmonth, htwelve, hday, hle⟩

/-- A number of days gives the date of the calendar that has that number, and no other. -/
theorem ofDayNumber?_eq_some_iff {n : Int} {d : Date} :
    ofDayNumber? n = some d ↔ d.InCalendar ∧ d.dayNumber = n := by
  obtain ⟨hday, hnumber⟩ := hasDay_ofDayNumber n
  rw [ofDayNumber?, inCalendar_iff]
  constructor
  · intro h
    split at h
    · next hyears =>
      obtain rfl := Option.some.inj h
      exact ⟨⟨hday, hyears⟩, hnumber⟩
    · cases h
  · rintro ⟨⟨hd, hyears⟩, rfl⟩
    rw [ofDayNumber_dayNumber hd]
    exact if_pos hyears

end Date

namespace Timestamp

/-- A point in time of the calendar: its day is there, and what follows its second is less than
another one. -/
structure InCalendar (t : Timestamp) : Prop where
  day : ∃ d : Date, d.InCalendar ∧ d.dayNumber = t.seconds / 86400
  nanos_lt : t.nanos < 1000000000

/-- A number of nanoseconds gives the point in time of the calendar that has that number, and no
other. -/
theorem ofNanos?_eq_some_iff {n : Int} {t : Timestamp} :
    ofNanos? n = some t ↔ t.InCalendar ∧ t.seconds * 1000000000 + t.nanos = n := by
  rw [ofNanos?, Option.map_eq_some_iff]
  constructor
  · rintro ⟨d, hd, rfl⟩
    refine ⟨⟨⟨d, Date.ofDayNumber?_eq_some_iff.mp hd⟩, ?_⟩, ?_⟩
    · show (n % 1000000000).toNat < 1000000000
      omega
    · show n / 1000000000 * 1000000000 + ((n % 1000000000).toNat : Int) = n
      omega
  · rintro ⟨⟨⟨d, hd⟩, hnanos⟩, rfl⟩
    have hseconds : (t.seconds * 1000000000 + t.nanos) / 1000000000 = t.seconds := by omega
    have hrest : ((t.seconds * 1000000000 + t.nanos) % 1000000000).toNat = t.nanos := by omega
    refine ⟨d, ?_, ?_⟩
    · rw [hseconds]
      exact Date.ofDayNumber?_eq_some_iff.mpr hd
    · rw [hseconds, hrest]

end Timestamp

end RecordAudit
