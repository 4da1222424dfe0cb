import Mathlib.Data.Prod.Lex
import AutoProxy.Proofs.Calendar.Count

/-!
The order of instants. One instant is at or before another as their years, months, days, seconds and
nanoseconds are, the first of these that differs deciding (`Instant.le_iff`). Outside of leap seconds
this is the order of the nanoseconds that have gone by (`Instant.order_le_iff`): of two dates the
earlier one has the lower number (`Date.dayNumber_lt`). To go on from such an instant leads to another
one (`Instant.isRegular_add?`).
-/

namespace AutoProxy.Calendar

/-! ### Comparison -/

/-- What decides when moments are compared, in the order in which it does. -/
def Moment.order (m : Moment) : Int ×ₗ Nat ×ₗ Nat ×ₗ Nat ×ₗ Nat :=
  toLex (m.date.year, toLex (m.date.month, toLex (m.date.day, toLex (m.second, m.nano))))

theorem Moment.lt_iff {a b : Moment} : a.lt b = true ↔ a.order < b.order := by
  obtain ⟨⟨year, month, day⟩, second, nano⟩ := a
  obtain ⟨⟨year', month', day'⟩, second', nano'⟩ := b
  simp only [lt, Date.lt, order, Prod.Lex.toLex_lt_toLex, Bool.or_eq_true, Bool.and_eq_true,
    beq_iff_eq, decide_eq_true_eq, Date.mk.injEq]
  tauto

theorem Moment.eq_of_order_eq {a b : Moment} (h : a.order = b.order) : a = b := by
  obtain ⟨⟨year, month, day⟩, second, nano⟩ := a
  obtain ⟨⟨year', month', day'⟩, second', nano'⟩ := b
  simpa [order, and_assoc] using h

/-- What decides when instants are compared: the moment in universal time. -/
def Instant.order (t : Instant) : Int ×ₗ Nat ×ₗ Nat ×ₗ Nat ×ₗ Nat := t.universal.order

/-- The comparison of instants is that of a linear order. -/
theorem Instant.le_iff {a b : Instant} : a.le b = true ↔ a.order ≤ b.order := by
  rw [le, Moment.le, Bool.not_eq_true', ← Bool.not_eq_true, Moment.lt_iff, not_lt]
  rfl

/-! ### Dates and their numbers -/

/-- The days before a year that begins in March. -/
def Date.daysBefore (year : Int) : Int := 365 * year + year / 4 - year / 100 + year / 400

theorem Date.daysBefore_lt {year later : Int} (h : year < later) :
    daysBefore year + 365 + (if isLeapYear (year + 1) then 1 else 0) ≤ daysBefore later := by
  obtain ⟨k, hk, rfl⟩ : ∃ k : Int, 0 ≤ k ∧ later = year + 1 + k :=
    ⟨later - year - 1, by omega, by omega⟩
  have hmono : daysBefore (year + 1) ≤ daysBefore (year + 1 + k) := by
    simp only [daysBefore]
    omega
  refine le_trans ?_ hmono
  simp only [daysBefore, isLeapYear, Bool.and_eq_true, Bool.or_eq_true, beq_iff_eq, bne_iff_ne]
  split <;> omega

/-- The year of a date, when years begin in March. -/
def Date.marchYear (d : Date) : Int := if d.month ≤ 2 then d.year - 1 else d.year

/-- The month of a date, counted from zero, when years begin in March. -/
def Date.marchMonth (d : Date) : Int := if d.month ≤ 2 then (d.month : Int) + 9 else d.month - 3

/-- The days of its year, begun in March, that lie before a date. -/
def Date.daysInto (d : Date) : Int := (153 * d.marchMonth + 2) / 5 + d.day - 1

theorem Date.dayNumber_eq (d : Date) : d.dayNumber = daysBefore d.marchYear + d.daysInto - 719468 := by
  simp only [dayNumber, daysBefore, daysInto, marchYear, marchMonth]
  omega

/-- A day that its month has, in a month that the year has; how far years go is left open. -/
structure Date.IsProper (d : Date) : Prop where
  month : 1 ≤ d.month ∧ d.month ≤ 12
  day : 1 ≤ d.day ∧ d.day ≤ daysInMonth d.year d.month

theorem Date.isValid_iff {d : Date} :
    d.isValid = true ↔ (minYear ≤ d.year ∧ d.year ≤ maxYear) ∧ d.IsProper := by
  constructor
  · intro h
    obtain ⟨hlow, hhigh, hmonth, hmonth', hday, hday'⟩ : minYear ≤ d.year ∧ d.year ≤ maxYear ∧
        1 ≤ d.month ∧ d.month ≤ 12 ∧ 1 ≤ d.day ∧ d.day ≤ daysInMonth d.year d.month := by
      simpa [isValid, and_assoc] using h
    exact ⟨⟨hlow, hhigh⟩, ⟨hmonth, hmonth'⟩, hday, hday'⟩
  · rintro ⟨hlimits, hmonth, hday⟩
    simp [isValid, hlimits, hmonth, hday]

theorem Date.isProper_of_isValid {d : Date} (h : d.isValid = true) : d.IsProper := (isValid_iff.mp h).2

/-- A month other than February, in which years end, is over when the next one begins. -/
theorem Date.daysInto_lt_of_month {d : Date} (h : d.IsProper) (hlast : d.month ≠ 2) {later : Int}
    (hlater : d.marchMonth < later) : d.daysInto < (153 * later + 2) / 5 := by
  obtain ⟨hmonth, -, hlength⟩ := h
  obtain ⟨year, month, day⟩ := d
  have hcases : month = 1 ∨ month = 3 ∨ month = 4 ∨ month = 5 ∨ month = 6 ∨ month = 7 ∨ month = 8 ∨
      month = 9 ∨ month = 10 ∨ month = 11 ∨ month = 12 := by
    simp only at hmonth hlast
    omega
  rcases hcases with rfl | rfl | rfl | rfl | rfl | rfl | rfl | rfl | rfl | rfl | rfl <;>
    simp only [marchMonth, daysInto, daysInMonth] at hlength hlater ⊢ <;> omega

/-- A date lies within the days of its year. -/
theorem Date.daysInto_bounds {d : Date} (h : d.IsProper) :
    0 ≤ d.daysInto ∧ d.daysInto < 365 + (if isLeapYear (d.marchYear + 1) then 1 else 0) := by
  have hmonth := h.month
  obtain ⟨hday, hlength⟩ := h.day
  constructor
  · simp only [daysInto, marchMonth]
    omega
  · by_cases hlast : d.month = 2
    · have hyear : d.marchYear + 1 = d.year := by
        simp only [marchYear, hlast]
        omega
      simp only [hlast, daysInMonth] at hlength
      simp only [hyear, daysInto, marchMonth, hlast]
      split at hlength <;> simp_all <;> omega
    · have hmonth : d.marchMonth < 11 := by
        simp only [marchMonth]
        omega
      have hlt := daysInto_lt_of_month h hlast hmonth
      omega

/-- Of two dates the earlier one has the lower number. -/
theorem Date.dayNumber_lt {d d' : Date} (h : d.IsProper) (h' : d'.IsProper)
    (hlt : d.lt d' = true) : d.dayNumber < d'.dayNumber := by
  have hmonth := h.month
  have hmonth' := h'.month
  have hlength := h.day.2
  have hday' := h'.day.1
  have horder : d.marchYear < d'.marchYear ∨ (d.marchYear = d'.marchYear ∧
      (d.marchMonth < d'.marchMonth ∨ (d.marchMonth = d'.marchMonth ∧ d.day < d'.day))) := by
    simp only [lt, Bool.or_eq_true, Bool.and_eq_true, decide_eq_true_eq, beq_iff_eq] at hlt
    simp only [marchYear, marchMonth]
    omega
  have hbounds := daysInto_bounds h
  have hbounds' := daysInto_bounds h'
  rw [dayNumber_eq, dayNumber_eq]
  rcases horder with hyear | ⟨hyear, hmonths | ⟨hmonths, hdays⟩⟩
  · have hbefore := daysBefore_lt hyear
    omega
  · have hnotLast : d.month ≠ 2 := by
      intro heq
      simp only [marchMonth, heq] at hmonths
      omega
    have hover := daysInto_lt_of_month h hnotLast hmonths
    have hinto : (153 * d'.marchMonth + 2) / 5 ≤ d'.daysInto := by
      simp only [daysInto]
      omega
    rw [hyear]
    omega
  · simp only [daysInto, hyear, hmonths]
    omega

/-- Every number of days is that of a date. -/
theorem Date.isProper_ofDayNumber (n : Int) : (ofDayNumber n).IsProper := by
  suffices h : (1 ≤ (ofDayNumber n).month ∧ (ofDayNumber n).month ≤ 12) ∧ 1 ≤ (ofDayNumber n).day ∧
      (ofDayNumber n).day ≤ daysInMonth (ofDayNumber n).year (ofDayNumber n).month from ⟨h.1, h.2⟩
  obtain ⟨era, year, rest, month, -, ⟨hrest, hleap, hlast⟩, hmonth, hstart, -, heq⟩ :=
    exists_ofDayNumber n
  rw [heq]
  by_cases hfebruary : month = 11
  · subst hfebruary
    cases hcase : isLeapYear (year + era * 400 + 1) with
    | true =>
        simp [daysInMonth, hcase]
        omega
    | false =>
        have hnot : rest ≠ 365 := by
          intro h
          rw [hleap h] at hcase
          cases hcase
        simp [daysInMonth, hcase]
        omega
  · have hcases : month = 0 ∨ month = 1 ∨ month = 2 ∨ month = 3 ∨ month = 4 ∨ month = 5 ∨
        month = 6 ∨ month = 7 ∨ month = 8 ∨ month = 9 ∨ month = 10 := by omega
    clear heq hleap
    rcases hcases with rfl | rfl | rfl | rfl | rfl | rfl | rfl | rfl | rfl | rfl | rfl <;>
      simp [daysInMonth] <;> omega

theorem Date.isValid_addDays? {d d' : Date} {days : Int} (h : d.addDays? days = some d') :
    d'.isValid = true := by
  simp only [addDays?] at h
  split at h
  · next hlimits =>
    cases h
    exact isValid_iff.mpr ⟨hlimits, isProper_ofDayNumber _⟩
  · cases h

/-! ### Moments and their numbers -/

/-- A moment of a day that there is, and of no leap second. -/
structure Moment.IsRegular (m : Moment) : Prop where
  date : m.date.isValid = true
  second : m.second < secondsPerDay
  nano : m.nano < nanosPerSecond

/-- To go on from a moment outside of leap seconds leads to another one. -/
theorem Moment.isRegular_add? {m m' : Moment} {d : Delta} (hnano : m.nano < nanosPerSecond)
    (h : m.add? d = some m') : m'.IsRegular := by
  have hleap : ¬ nanosPerSecond ≤ (m.nano : Int) := by omega
  simp only [add?, hleap, false_and, if_false, normalize?, Option.map_eq_some_iff] at h
  obtain ⟨date, hdate, rfl⟩ := h
  refine ⟨Date.isValid_addDays? hdate, ?_, ?_⟩
  · rw [Int.toNat_of_nonneg (Int.emod_nonneg _ (by decide))]
    exact Int.emod_lt_of_pos _ (by decide)
  · rw [Int.toNat_of_nonneg (Int.emod_nonneg _ (by decide))]
    exact Int.emod_lt_of_pos _ (by decide)

/-- Of two moments outside of leap seconds the earlier one has the lower number. -/
theorem Moment.count_lt {m m' : Moment} (h : m.IsRegular) (h' : m'.IsRegular)
    (hlt : m.order < m'.order) : m.count < m'.count := by
  obtain ⟨hdate, hsecond, hnano⟩ := h
  obtain ⟨hdate', hsecond', hnano'⟩ := h'
  have hleap : ¬ nanosPerSecond ≤ (m.nano : Int) := by omega
  have hleap' : ¬ nanosPerSecond ≤ (m'.nano : Int) := by omega
  rw [← lt_iff, lt, Bool.or_eq_true] at hlt
  simp only [count, hleap, hleap', if_false]
  simp only [secondsPerDay, nanosPerSecond] at *
  rcases hlt with hdays | hday
  · have hnumber := Date.dayNumber_lt (Date.isProper_of_isValid hdate) (Date.isProper_of_isValid hdate') hdays
    omega
  · simp only [Bool.and_eq_true, Bool.or_eq_true, decide_eq_true_eq, beq_iff_eq] at hday
    rw [hday.1]
    omega

/-- An instant outside of leap seconds. -/
def Instant.IsRegular (t : Instant) : Prop := t.universal.IsRegular

theorem Instant.isRegular_add? {t t' : Instant} {d : Delta} (h : t.IsRegular)
    (hadd : t.add? d = some t') : t'.IsRegular := by
  simp only [add?, Option.map_eq_some_iff] at hadd
  obtain ⟨m, hm, rfl⟩ := hadd
  exact Moment.isRegular_add? h.nano hm

/-- Outside of leap seconds instants are in the order of their numbers. -/
theorem Instant.order_le_iff {t t' : Instant} (h : t.IsRegular) (h' : t'.IsRegular) :
    t.order ≤ t'.order ↔ t.count ≤ t'.count := by
  constructor
  · intro hle
    rcases lt_or_eq_of_le hle with hlt | heq
    · exact (Moment.count_lt h h' hlt).le
    · exact (congrArg Moment.count (Moment.eq_of_order_eq heq)).le
  · intro hle
    by_contra hnot
    have hlt := Moment.count_lt h' h (not_le.mp hnot)
    exact absurd hle (not_le.mpr hlt)

end AutoProxy.Calendar
