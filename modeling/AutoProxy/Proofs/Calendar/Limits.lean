import AutoProxy.Proofs.Calendar.Shift

/-!
The limits of the calendar. To go on from the reading of a clock by no time at all leads back to it, leap seconds
included (`Instant.add?_zero`); to go on for longer may lead out of the calendar. Days have a date within the
limits exactly if their number lies between those of the first and of the last one (`Date.isSome_addDays?_iff`),
and seconds exactly if they lie on such a day (`Moment.isSome_normalize?_iff`). So it can be told from
nanoseconds alone whether the calendar is over by the time that one has gone on for a while
(`Instant.add?_eq_none_iff`).
-/

namespace AutoProxy.Calendar

/-! ## Readings of a clock -/

/-- A reading of a clock: a moment of universal time on a day of the calendar, within that day. Leap
seconds are among them. -/
structure Instant.IsReading (t : Instant) : Prop where
  date : t.universal.date.isValid = true
  second : t.universal.second < Moment.secondsPerDay

/-- The zone in which a clock is read does not matter. -/
theorem Instant.IsReading.toUtc {t : Instant} (h : t.IsReading) : t.toUtc.IsReading := ⟨h.date, h.second⟩

namespace Moment

variable {date : Date} {second : Int} {nano : Nat} {m : Moment}

/-- A moment that is counted in seconds from a date on lies within its day. -/
theorem second_normalize?_lt (h : normalize? date second nano = some m) : m.second < secondsPerDay := by
  obtain ⟨later, -, rfl⟩ := Option.map_eq_some_iff.mp h
  dsimp only
  rw [Int.toNat_of_nonneg (Int.emod_nonneg _ (by decide))]
  exact Int.emod_lt_of_pos _ (by decide)

/-- A moment within its day is the one that is counted from the start of this day on. -/
theorem normalize?_second (hdate : m.date.isValid = true) (hsecond : m.second < secondsPerDay) :
    normalize? m.date m.second m.nano = some m := by
  have hday : (m.second : Int) / secondsPerDay = 0 :=
    Int.ediv_eq_zero_of_lt (Int.natCast_nonneg _) hsecond
  have hrest : (m.second : Int) % secondsPerDay = m.second :=
    Int.emod_eq_of_lt (Int.natCast_nonneg _) hsecond
  rw [normalize?, hday, hrest, Date.addDays?_eq_some hdate (Int.add_zero _)]
  rfl

/-- A leap second is kept as it is, and so is any other second. -/
theorem add?_zero (hdate : m.date.isValid = true) (hsecond : m.second < secondsPerDay) :
    m.add? ⟨0, 0⟩ = some m := by
  by_cases hleap : nanosPerSecond ≤ (m.nano : Int)
  · simp [add?, hleap]
  · have hnano : (m.nano : Int) / nanosPerSecond = 0 :=
      Int.ediv_eq_zero_of_lt (Int.natCast_nonneg _) (Int.not_le.mp hleap)
    have hrest : (m.nano : Int) % nanosPerSecond = m.nano :=
      Int.emod_eq_of_lt (Int.natCast_nonneg _) (Int.not_le.mp hleap)
    simp only [add?, hleap, false_and, if_false, Int.add_zero, hnano, hrest, Int.toNat_natCast]
    exact normalize?_second hdate hsecond

end Moment

/-- No time at all after a reading of a clock it is the same instant. -/
theorem Instant.add?_zero {t : Instant} (h : t.IsReading) : t.add? ⟨0, 0⟩ = some t := by
  rw [add?, Moment.add?_zero h.date h.second]
  rfl

end AutoProxy.Calendar

/-! ## The limits of the calendar -/

namespace AutoProxy.Calendar

/-! ### Days -/

namespace Date

def first : Date := ⟨minYear, 1, 1⟩

def last : Date := ⟨maxYear, 12, 31⟩

theorem dayNumber_first : first.dayNumber = -96465292 := by decide

theorem dayNumber_last : last.dayNumber = 95026236 := by decide

theorem isProper_first : first.IsProper := ⟨by decide, by decide⟩

/-- Every year has a last date. -/
theorem isProper_yearEnd (year : Int) : IsProper ⟨year, 12, 31⟩ where
  month := show 1 ≤ 12 ∧ 12 ≤ 12 by decide
  day := show 1 ≤ 31 ∧ 31 ≤ 31 by decide

variable {d : Date}

/-- The first date is the earliest one. -/
theorem dayNumber_first_le (h : d.isValid = true) : first.dayNumber ≤ d.dayNumber := by
  obtain ⟨⟨hyear, -⟩, hproper⟩ := isValid_iff.mp h
  have hmonth := hproper.month
  have hday := hproper.day_bounds
  by_cases hlt : first.lt d = true
  · exact (dayNumber_lt isProper_first hproper hlt).le
  · obtain ⟨year, month, day⟩ := d
    rw [lt_iff] at hlt
    simp only [first] at hlt hyear hmonth hday
    obtain ⟨rfl, rfl, rfl⟩ : year = minYear ∧ month = 1 ∧ day = 1 := by omega
    exact le_rfl

/-- No date comes after the last one of its year, nor of a later one. -/
theorem IsProper.dayNumber_le_yearEnd {year : Int} (h : d.IsProper) (hyear : d.year ≤ year) :
    d.dayNumber ≤ (⟨year, 12, 31⟩ : Date).dayNumber := by
  have hmonth := h.month
  have hday := h.day_bounds
  by_cases hlt : d.lt ⟨year, 12, 31⟩ = true
  · exact (dayNumber_lt h (isProper_yearEnd year) hlt).le
  · obtain ⟨year', month, day⟩ := d
    rw [lt_iff] at hlt
    simp only at hlt hyear hmonth hday
    obtain ⟨rfl, rfl, rfl⟩ : year' = year ∧ month = 12 ∧ day = 31 := by omega
    exact le_rfl

/-- The last date is the latest one. -/
theorem dayNumber_le_last (h : d.isValid = true) : d.dayNumber ≤ last.dayNumber := by
  obtain ⟨⟨-, hyear⟩, hproper⟩ := isValid_iff.mp h
  exact hproper.dayNumber_le_yearEnd hyear

/-- No two dates are further apart than the first one and the last one. -/
theorem dayNumber_sub_bounds {d' : Date} (h : d.isValid = true) (h' : d'.isValid = true) :
    -191491528 ≤ d'.dayNumber - d.dayNumber ∧ d'.dayNumber - d.dayNumber ≤ 191491528 := by
  have hfirst := dayNumber_first_le h
  have hlast := dayNumber_le_last h
  have hfirst' := dayNumber_first_le h'
  have hlast' := dayNumber_le_last h'
  rw [dayNumber_first] at hfirst hfirst'
  rw [dayNumber_last] at hlast hlast'
  omega

/-- A number of days is that of a date of the calendar if it lies between those of the first and of the last
one. -/
theorem isValid_ofDayNumber_iff {n : Int} :
    (ofDayNumber n).isValid = true ↔ first.dayNumber ≤ n ∧ n ≤ last.dayNumber := by
  have hnumber := dayNumber_ofDayNumber n
  have hproper := isProper_ofDayNumber n
  constructor
  · intro h
    rw [← hnumber]
    exact ⟨dayNumber_first_le h, dayNumber_le_last h⟩
  · rintro ⟨hfirst, hlast⟩
    refine isValid_iff.mpr ⟨⟨?_, ?_⟩, hproper⟩
    · by_contra hyear
      have hlt := dayNumber_lt hproper isProper_first (lt_iff.mpr (.inl (not_le.mp hyear)))
      omega
    · by_contra hyear
      have hlt : last.dayNumber < (ofDayNumber n).dayNumber :=
        dayNumber_lt (isProper_yearEnd maxYear) hproper (lt_iff.mpr (.inl (not_le.mp hyear)))
      omega

/-- Some days later there is a date as long as the calendar goes. -/
theorem isSome_addDays?_iff {days : Int} :
    (d.addDays? days).isSome = true ↔
      first.dayNumber ≤ d.dayNumber + days ∧ d.dayNumber + days ≤ last.dayNumber := by
  rw [← isValid_ofDayNumber_iff, isValid_iff, addDays?]
  split
  · next hlimits => simp [hlimits, isProper_ofDayNumber]
  · next hlimits => simp [hlimits]

end Date

/-! ### Seconds -/

namespace Moment

/-- The seconds from the beginning of 1970 to the end of the calendar. -/
def lastSecond : Int := 8210266876799

variable {m : Moment} {d : Delta}

/-- Seconds that are counted from a date on have a moment if the day on which they lie has a date. -/
theorem isSome_normalize?_iff {date : Date} {second : Int} {nano : Nat} :
    (normalize? date second nano).isSome = true ↔
      Date.first.dayNumber * secondsPerDay ≤ date.dayNumber * secondsPerDay + second ∧
        date.dayNumber * secondsPerDay + second ≤ lastSecond := by
  rw [normalize?, Option.isSome_map, Date.isSome_addDays?_iff, Date.dayNumber_first, Date.dayNumber_last]
  simp only [secondsPerDay, lastSecond]
  omega

/-- Seconds that are counted from a date on have the moment that lies as many seconds behind its midnight. -/
theorem normalize?_eq_some_iff {date : Date} {second : Int} {nano : Nat} :
    normalize? date second nano = some m ↔
      m.date.isValid = true ∧ m.second < secondsPerDay ∧ m.nano = nano ∧
        m.date.dayNumber * secondsPerDay + m.second = date.dayNumber * secondsPerDay + second := by
  constructor
  · intro h
    have hlt := second_normalize?_lt h
    obtain ⟨later, hlater, rfl⟩ := Option.map_eq_some_iff.mp h
    refine ⟨Date.isValid_addDays? hlater, hlt, rfl, ?_⟩
    dsimp only
    rw [Date.dayNumber_addDays? hlater]
    simp only [secondsPerDay]
    omega
  · obtain ⟨later, second', nano'⟩ := m
    rintro ⟨hvalid, hlt, rfl, htotal⟩
    simp only [secondsPerDay] at hlt htotal
    have hadd : date.addDays? (second / secondsPerDay) = some later := by
      refine Date.addDays?_eq_some hvalid ?_
      simp only [secondsPerDay]
      omega
    have hrest : (second % secondsPerDay).toNat = second' := by
      simp only [secondsPerDay]
      omega
    rw [normalize?, hadd, Option.map_some, hrest]

/-- There is a moment some time later unless the calendar is over by then. A leap second is over with the
second that it prolongs. -/
theorem isSome_add?_iff (hdate : m.date.isValid = true) (hsecond : m.second < secondsPerDay)
    (hnano : m.nano < 2 * nanosPerSecond) (hseconds : 0 ≤ d.seconds) (hnanos : 0 ≤ d.nanos) :
    (m.add? d).isSome = true ↔ m.count + d.count < (lastSecond + 1) * nanosPerSecond := by
  have hfirst := Date.dayNumber_first_le hdate
  have hlast := Date.dayNumber_le_last hdate
  rw [Date.dayNumber_first] at hfirst
  rw [Date.dayNumber_last] at hlast
  simp only [add?]
  split
  · -- the moment stays inside its leap second, on a day that there is
    next hstay =>
    obtain ⟨hleap, hzero, hwithin⟩ := hstay
    simp only [Option.isSome_some, true_iff, count, Delta.count, hzero, hleap, if_true]
    simp only [secondsPerDay, nanosPerSecond, lastSecond] at *
    omega
  · have hback : ¬ (nanosPerSecond ≤ (m.nano : Int) ∧ d.seconds < 0) := by omega
    simp only [hback, if_false, isSome_normalize?_iff, count, Delta.count, Date.dayNumber_first]
    by_cases hleap : nanosPerSecond ≤ (m.nano : Int) <;> simp only [hleap, if_true, if_false] <;>
      simp only [secondsPerDay, nanosPerSecond, lastSecond] at * <;> omega

end Moment

namespace Instant

/-- The calendar is over by the time that so many nanoseconds have gone by since an instant. -/
def EndsWithin (t : Instant) (nanos : Int) : Prop :=
  (Moment.lastSecond + 1) * Moment.nanosPerSecond ≤ t.count + nanos

variable {t : Instant}

/-- A reading of a clock lies between the beginning and the end of the calendar. -/
theorem count_bounds (h : t.IsReading) (hnano : t.universal.nano < 2 * Moment.nanosPerSecond) :
    Date.first.dayNumber * Moment.secondsPerDay * Moment.nanosPerSecond ≤ t.count ∧
      t.count < (Moment.lastSecond + 1) * Moment.nanosPerSecond := by
  have hfirst := Date.dayNumber_first_le h.date
  have hlast := Date.dayNumber_le_last h.date
  have hsecond := h.second
  rw [Date.dayNumber_first] at hfirst ⊢
  rw [Date.dayNumber_last] at hlast
  simp only [count, Moment.count]
  simp only [Moment.secondsPerDay, Moment.nanosPerSecond, Moment.lastSecond] at *
  omega

/-- There is an instant some time after a reading of a clock unless the calendar is over by then. -/
theorem add?_eq_none_iff {d : Delta} (h : t.IsReading) (hnano : t.universal.nano < 2 * Moment.nanosPerSecond)
    (hseconds : 0 ≤ d.seconds) (hnanos : 0 ≤ d.nanos) : t.add? d = none ↔ t.EndsWithin d.count := by
  rw [← Option.not_isSome_iff_eq_none, add?, Option.isSome_map,
    Moment.isSome_add?_iff h.date h.second hnano hseconds hnanos, not_lt]
  rfl

end Instant

end AutoProxy.Calendar
