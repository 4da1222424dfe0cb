import AutoProxy.Calendar.Instant

/-!
Instants as numbers. To move an instant by some time is to add that time to the nanoseconds that have
gone by since the beginning of 1970 (`Instant.count_add?`); behind this stands that the date found for a
number of days has that number (`Date.dayNumber_ofDayNumber`).
-/

namespace AutoProxy.Calendar

/-! ### Days -/

/-- A day of an era, as centuries, terms of four years, years and days of the last of these. -/
theorem Date.exists_year {day : Int} (hday : 0 ≤ day ∧ day < 146097) :
    ∃ c q y r : Int, ((0 ≤ c ∧ c ≤ 3) ∧ (0 ≤ q ∧ q ≤ 24) ∧ (0 ≤ y ∧ y ≤ 3) ∧ (0 ≤ r ∧ r ≤ 365)) ∧
      (r = 365 → y = 3 ∧ (q = 24 → c = 3)) ∧ day = 36524 * c + 1461 * q + 365 * y + r := by
  have hcentury : ∃ c r : Int, (0 ≤ c ∧ c ≤ 3) ∧ (0 ≤ r ∧ r ≤ 36524) ∧ (r = 36524 → c = 3) ∧
      day = 36524 * c + r := by
    by_cases hlast : day = 146096
    · exact ⟨3, 36524, by omega⟩
    · exact ⟨day / 36524, day % 36524, by omega⟩
  obtain ⟨c, r, hc, hr, hlast, rfl⟩ := hcentury
  have hterm : ∃ q s : Int, (0 ≤ q ∧ q ≤ 24) ∧ (0 ≤ s ∧ s ≤ 1460) ∧ r = 1461 * q + s :=
    ⟨r / 1461, r % 1461, by omega⟩
  obtain ⟨q, s, hq, hs, rfl⟩ := hterm
  have hyear : ∃ y t : Int, (0 ≤ y ∧ y ≤ 3) ∧ (0 ≤ t ∧ t ≤ 365) ∧ (t = 365 → y = 3) ∧
      s = 365 * y + t := by
    by_cases hlast : s = 1460
    · exact ⟨3, 365, by omega⟩
    · exact ⟨s / 365, s % 365, by omega⟩
  obtain ⟨y, t, hy, ht, hleap, rfl⟩ := hyear
  exact ⟨c, q, y, t, ⟨hc, hq, hy, ht⟩, by omega, by omega⟩

/-- The year of the era that such a day lies in. -/
theorem Date.yearOfEra_eq {c q y r day : Int} (hc : 0 ≤ c ∧ c ≤ 3) (hq : 0 ≤ q ∧ q ≤ 24)
    (hy : 0 ≤ y ∧ y ≤ 3) (hr : 0 ≤ r ∧ r ≤ 365) (hleap : r = 365 → y = 3 ∧ (q = 24 → c = 3))
    (hday : day = 36524 * c + 1461 * q + 365 * y + r) :
    (day - day / 1460 + day / 36524 - day / 146096) / 365 = 100 * c + 4 * q + y := by
  have hquarters : day / 1460 = 25 * c + q ∨ day / 1460 = 25 * c + q + 1 := by omega
  -- the last day of an era is the only one at which the other two quotients are off
  by_cases hlast : day = 146096
  · subst hlast
    omega
  · have hcenturies : day / 36524 = c := by omega
    have heras : day / 146096 = 0 := by omega
    rw [hcenturies, heras]
    rcases hquarters with h | h <;> rw [h] <;> omega

/-- No day of an era lies before the year that is found for it, or after its end, and only a leap year
has a day after its 365th. -/
theorem Date.dayOfYear_bounds {day year rest : Int} (hday : 0 ≤ day ∧ day < 146097)
    (hyear : (day - day / 1460 + day / 36524 - day / 146096) / 365 = year)
    (hrest : day - (365 * year + year / 4 - year / 100) = rest) :
    (0 ≤ year ∧ year < 400) ∧ (0 ≤ rest ∧ rest ≤ 365) ∧
      (rest = 365 → ∀ era, isLeapYear (year + era * 400 + 1) = true) := by
  obtain ⟨c, q, y, r, ⟨hc, hq, hy, hr⟩, hleap, hsplit⟩ := exists_year hday
  rw [yearOfEra_eq hc hq hy hr hleap hsplit] at hyear
  have hterms : year / 4 = 25 * c + q := by omega
  have hcenturies : year / 100 = c := by omega
  rw [hterms, hcenturies] at hrest
  obtain rfl : r = rest := by omega
  refine ⟨by omega, hr, fun hlast era => ?_⟩
  obtain ⟨rfl, hcentury⟩ := hleap hlast
  simp only [isLeapYear, Bool.and_eq_true, Bool.or_eq_true, beq_iff_eq, bne_iff_ne]
  omega

/-- The date at a number of days, whose year is taken to begin in March: `rest` days of that year lie
before it, and `month` whole months. -/
theorem Date.exists_ofDayNumber (n : Int) :
    ∃ era year rest month : Int, (0 ≤ year ∧ year < 400) ∧
      (0 ≤ rest ∧ (rest = 365 → isLeapYear (year + era * 400 + 1) = true) ∧ rest ≤ 365) ∧
      (0 ≤ month ∧ month < 12) ∧
      ((153 * month + 2) / 5 ≤ rest ∧ rest < (153 * (month + 1) + 2) / 5) ∧
      n + 719468 = 146097 * era + (365 * year + year / 4 - year / 100) + rest ∧
      ofDayNumber n =
        if month < 10 then
          ⟨year + era * 400, (month + 3).toNat, (rest - (153 * month + 2) / 5 + 1).toNat⟩
        else
          ⟨year + era * 400 + 1, (month - 9).toNat, (rest - (153 * month + 2) / 5 + 1).toNat⟩ := by
  obtain ⟨day, hday⟩ : ∃ day, (n + 719468) % 146097 = day := ⟨_, rfl⟩
  obtain ⟨era, hera⟩ : ∃ era, (n + 719468) / 146097 = era := ⟨_, rfl⟩
  obtain ⟨year, hyear⟩ : ∃ year, (day - day / 1460 + day / 36524 - day / 146096) / 365 = year :=
    ⟨_, rfl⟩
  obtain ⟨rest, hrest⟩ : ∃ rest, day - (365 * year + year / 4 - year / 100) = rest := ⟨_, rfl⟩
  obtain ⟨month, hmonth⟩ : ∃ month, (5 * rest + 2) / 153 = month := ⟨_, rfl⟩
  obtain ⟨hinYears, hinYear, hleap⟩ := dayOfYear_bounds (by omega) hyear hrest
  refine ⟨era, year, rest, month, hinYears, ⟨hinYear.1, fun h => hleap h era, hinYear.2⟩, ?_, ?_, ?_, ?_⟩
  · omega
  · omega
  · omega
  · simp only [ofDayNumber, hday, hera, hyear, hrest, hmonth]
    clear hday hera hyear hrest
    by_cases hlate : month < 10
    · have hnext : ¬ month + 3 ≤ 2 := by omega
      simp only [hlate, if_true, hnext, if_false, Int.add_zero]
    · have hnext : month - 9 ≤ 2 := by omega
      simp only [hlate, hnext, if_true, if_false]

/-- The date that is found for a number of days has that number. -/
theorem Date.dayNumber_ofDayNumber (n : Int) : (ofDayNumber n).dayNumber = n := by
  obtain ⟨era, year, rest, month, hyear, hrest, hmonth, hstart, hn, heq⟩ := exists_ofDayNumber n
  have hterms : (year + era * 400) / 4 = year / 4 + 100 * era := by omega
  have hcenturies : (year + era * 400) / 100 = year / 100 + 4 * era := by omega
  have heras : (year + era * 400) / 400 = era := by omega
  have hday : ((rest - (153 * month + 2) / 5 + 1).toNat : Int) = rest - (153 * month + 2) / 5 + 1 := by
    omega
  rw [heq]
  -- the last two months of a year that begins in March belong to the next one
  by_cases hlate : month < 10
  · have hnot : ¬ (month + 3).toNat ≤ 2 := by omega
    have hback : ((month + 3).toNat : Int) - 3 = month := by omega
    simp only [hlate, dayNumber, if_true, hnot, if_false]
    rw [hback, hday, hterms, hcenturies, heras]
    omega
  · have hyes : (month - 9).toNat ≤ 2 := by omega
    have hback : ((month - 9).toNat : Int) + 9 = month := by omega
    simp only [hlate, dayNumber, hyes, if_true, if_false, Int.add_sub_cancel]
    rw [hback, hday, hterms, hcenturies, heras]
    omega

theorem Date.dayNumber_addDays? {d d' : Date} {days : Int} (h : d.addDays? days = some d') :
    d'.dayNumber = d.dayNumber + days := by
  simp only [addDays?] at h
  split at h
  · cases h
    exact dayNumber_ofDayNumber _
  · cases h

/-! ### Lengths of time -/

namespace Delta

/-- A number of seconds that is not too long for a length of time. -/
def IsLength (seconds : Int) : Prop := -maxSeconds ≤ seconds ∧ seconds ≤ maxSeconds

theorem ofSeconds?_eq_some_iff {seconds : Int} {d : Delta} :
    ofSeconds? seconds = some d ↔ IsLength seconds ∧ d = ⟨seconds, 0⟩ := by
  simp only [ofSeconds?, Option.ite_none_right_eq_some, Option.some.injEq, IsLength]
  rw [eq_comm (a := d)]

end Delta

/-! ### Nanoseconds -/

/-- A length of time in nanoseconds. -/
def Delta.count (d : Delta) : Int := d.seconds * Moment.nanosPerSecond + d.nanos

namespace Moment

/-- The nanoseconds from the beginning of 1970 to a moment. A leap second has those of the second that
it prolongs. -/
def count (m : Moment) : Int :=
  (m.date.dayNumber * secondsPerDay + m.second) * nanosPerSecond +
    (if nanosPerSecond ≤ m.nano then m.nano - nanosPerSecond else m.nano)

theorem count_normalize? {date : Date} {second : Int} {nano : Nat} {m : Moment}
    (hnano : nano < nanosPerSecond) (h : normalize? date second nano = some m) :
    m.count = (date.dayNumber * secondsPerDay + second) * nanosPerSecond + nano := by
  simp only [normalize?, Option.map_eq_some_iff] at h
  obtain ⟨later, hlater, rfl⟩ := h
  have hnot : ¬ nanosPerSecond ≤ nano := by omega
  have hsecond : ((second % secondsPerDay).toNat : Int) = second % secondsPerDay :=
    Int.toNat_of_nonneg (Int.emod_nonneg _ (by decide))
  simp only [count, hnot, if_false, Date.dayNumber_addDays? hlater, hsecond]
  simp only [secondsPerDay, nanosPerSecond]
  omega

/-- To go on from a moment is to add to its nanoseconds. -/
theorem count_add? {m m' : Moment} {d : Delta} (hseconds : 0 ≤ d.seconds) (hnanos : 0 ≤ d.nanos)
    (h : m.add? d = some m') : m'.count = m.count + d.count := by
  simp only [add?] at h
  split at h
  · -- the moment stays inside its leap second
    next hstay =>
    obtain ⟨hleap, hzero, -⟩ := hstay
    cases h
    have hsum : (((m.nano : Int) + d.nanos).toNat : Int) = m.nano + d.nanos := by omega
    have hleap' : nanosPerSecond ≤ ((m.nano : Int) + d.nanos) := by omega
    simp only [count, Delta.count, hsum, hleap, hleap', if_true, hzero]
    omega
  · have hback : ¬ (nanosPerSecond ≤ (m.nano : Int) ∧ d.seconds < 0) := by omega
    simp only [hback, if_false] at h
    obtain ⟨total, htotal⟩ : ∃ total, (if nanosPerSecond ≤ (m.nano : Int)
      then (m.nano : Int) - nanosPerSecond else m.nano) + d.nanos = total := ⟨_, rfl⟩
    rw [htotal] at h
    have hrest : ((total % nanosPerSecond).toNat : Int) = total % nanosPerSecond :=
      Int.toNat_of_nonneg (Int.emod_nonneg _ (by decide))
    have hsmall : ((total % nanosPerSecond).toNat : Int) < nanosPerSecond := by
      rw [hrest]
      exact Int.emod_lt_of_pos _ (by decide)
    rw [count_normalize? hsmall h, hrest]
    simp only [count, Delta.count, ← htotal, secondsPerDay, nanosPerSecond]
    omega

end Moment

/-- The nanoseconds from the beginning of 1970 to an instant. -/
def Instant.count (t : Instant) : Int := t.universal.count

/-- To go on from an instant is to add to its nanoseconds. -/
theorem Instant.count_add? {t t' : Instant} {d : Delta} (hseconds : 0 ≤ d.seconds)
    (hnanos : 0 ≤ d.nanos) (h : t.add? d = some t') : t'.count = t.count + d.count := by
  simp only [add?, Option.map_eq_some_iff] at h
  obtain ⟨m, hm, rfl⟩ := h
  exact Moment.count_add? hseconds hnanos hm

end AutoProxy.Calendar
