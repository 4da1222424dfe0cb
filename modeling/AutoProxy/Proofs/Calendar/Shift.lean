import AutoProxy.Proofs.Calendar.Order

/-!
Dates some days or months later. A date is the only one with its number of days (`Date.ofDayNumber_dayNumber`),
so that to count days from the first of a month leads to the day of that number, or into the next month
where the month has no such day (`Date.addDays?_firstOfMonth`). To go on by months keeps the day of the
month, or takes the last one (`Date.addMonths?_eq_some`).
-/

namespace AutoProxy.Calendar

namespace Date

variable {d d' : Date} {year : Int} {month day : Nat}

/-! ### Order -/

theorem lt_iff : d.lt d' = true ↔
    d.year < d'.year ∨ (d.year = d'.year ∧
      (d.month < d'.month ∨ (d.month = d'.month ∧ d.day < d'.day))) := by
  simp only [lt, Bool.or_eq_true, Bool.and_eq_true, decide_eq_true_eq, beq_iff_eq]

theorem lt_eq_false_iff : d.lt d' = false ↔
    d'.year < d.year ∨ (d'.year = d.year ∧
      (d'.month < d.month ∨ (d'.month = d.month ∧ d'.day ≤ d.day))) := by
  rw [← Bool.not_eq_true, lt_iff]
  omega

theorem lt_irrefl (d : Date) : d.lt d = false := by
  rw [lt_eq_false_iff]
  omega

/-- There is one date for each number of days. -/
theorem ofDayNumber_dayNumber (h : d.IsProper) : ofDayNumber d.dayNumber = d := by
  have hproper := isProper_ofDayNumber d.dayNumber
  have hnumber := dayNumber_ofDayNumber d.dayNumber
  -- of two dates the earlier one would have the lower number
  have hbefore : (ofDayNumber d.dayNumber).lt d ≠ true := by
    intro hlt
    have hless := dayNumber_lt hproper h hlt
    omega
  have hafter : d.lt (ofDayNumber d.dayNumber) ≠ true := by
    intro hlt
    have hless := dayNumber_lt h hproper hlt
    omega
  rw [Ne, lt_iff] at hbefore hafter
  have hyear : (ofDayNumber d.dayNumber).year = d.year := by omega
  have hmonth : (ofDayNumber d.dayNumber).month = d.month := by omega
  have hday : (ofDayNumber d.dayNumber).day = d.day := by omega
  calc ofDayNumber d.dayNumber
      = ⟨(ofDayNumber d.dayNumber).year, (ofDayNumber d.dayNumber).month,
          (ofDayNumber d.dayNumber).day⟩ := rfl
    _ = ⟨d.year, d.month, d.day⟩ := by rw [hyear, hmonth, hday]

theorem addDays?_eq_some {days : Int} (h : d'.isValid = true)
    (hnumber : d.dayNumber + days = d'.dayNumber) : d.addDays? days = some d' := by
  obtain ⟨hlimits, hproper⟩ := isValid_iff.mp h
  simp [addDays?, hnumber, ofDayNumber_dayNumber hproper, hlimits]

/-! ### Days of a month -/

theorem daysInMonth_bounds (year : Int) (month : Nat) :
    28 ≤ daysInMonth year month ∧ daysInMonth year month ≤ 31 := by
  simp only [daysInMonth]
  split <;> try split
  all_goals omega

theorem IsProper.day_bounds (h : d.IsProper) : 1 ≤ d.day ∧ d.day ≤ 31 :=
  ⟨h.day.1, h.day.2.trans (daysInMonth_bounds d.year d.month).2⟩

theorem daysInMonth_december (year : Int) : daysInMonth year 12 = 31 := rfl

/-- A month begins when the one before it is over. -/
theorem dayNumber_nextMonth (hmonth : 1 ≤ month ∧ month < 12) (day : Nat) :
    (⟨year, month + 1, day⟩ : Date).dayNumber =
      (⟨year, month, daysInMonth year month + day⟩ : Date).dayNumber := by
  by_cases hfebruary : month = 2
  · subst hfebruary
    have hleap : isLeapYear year = true ↔ year % 4 = 0 ∧ (year % 100 ≠ 0 ∨ year % 400 = 0) := by
      simp [isLeapYear]
    cases hcase : isLeapYear year <;> simp [hcase, dayNumber, daysInMonth] at hleap ⊢ <;> omega
  · have hcases : month = 1 ∨ month = 3 ∨ month = 4 ∨ month = 5 ∨ month = 6 ∨ month = 7 ∨ month = 8 ∨
        month = 9 ∨ month = 10 ∨ month = 11 := by omega
    rcases hcases with rfl | rfl | rfl | rfl | rfl | rfl | rfl | rfl | rfl | rfl <;>
      simp [dayNumber, daysInMonth] <;> omega

/-- The day of a month, or the day of the next month that it is if the month is over by then. -/
def ofDayOfMonth (year : Int) (month day : Nat) : Date :=
  if day ≤ daysInMonth year month then ⟨year, month, day⟩
  else ⟨year, month + 1, day - daysInMonth year month⟩

/-- December has all of the 31 days, so that no day of it is one of the next month. -/
theorem lt_december_of_over (hmonth : month ≤ 12) (hday : day ≤ 31) (hover : daysInMonth year month < day) :
    month < 12 := by
  rcases Nat.lt_or_eq_of_le hmonth with hlt | rfl
  · exact hlt
  · rw [daysInMonth_december] at hover
    omega

theorem ofDayOfMonth_of_le (h : day ≤ daysInMonth year month) :
    ofDayOfMonth year month day = ⟨year, month, day⟩ := if_pos h

theorem ofDayOfMonth_of_lt (h : daysInMonth year month < day) :
    ofDayOfMonth year month day = ⟨year, month + 1, day - daysInMonth year month⟩ :=
  if_neg (Nat.not_le.mpr h)

/-- A day that is counted from the first of a month lies in this month or early in the next one. -/
theorem ofDayOfMonth_cases (year : Int) (month day : Nat) :
    (day ≤ daysInMonth year month ∧ ofDayOfMonth year month day = ⟨year, month, day⟩) ∨
      ∃ rest, day = daysInMonth year month + rest ∧ 1 ≤ rest ∧
        ofDayOfMonth year month day = ⟨year, month + 1, rest⟩ := by
  rcases Nat.lt_or_ge (daysInMonth year month) day with hover | hin
  · exact .inr ⟨day - daysInMonth year month, by omega, by omega, ofDayOfMonth_of_lt hover⟩
  · exact .inl ⟨hin, ofDayOfMonth_of_le hin⟩

/-- The days that are counted from the first of a month come in order, also behind its end. -/
theorem lt_ofDayOfMonth_iff (h : d.IsProper) :
    d.lt (ofDayOfMonth d.year d.month day) = true ↔ d.day < day := by
  have hlength := h.day.2
  rcases ofDayOfMonth_cases d.year d.month day with ⟨hin, heq⟩ | ⟨rest, hover, hrest, heq⟩
  all_goals
    rw [heq, lt_iff]
    dsimp only
    omega

theorem ofDayOfMonth_lt_iff (h : d.IsProper) :
    (ofDayOfMonth d.year d.month day).lt d = true ↔ day < d.day := by
  have hlength := h.day.2
  rcases ofDayOfMonth_cases d.year d.month day with ⟨hin, heq⟩ | ⟨rest, hover, hrest, heq⟩
  all_goals
    rw [heq, lt_iff]
    dsimp only
    omega

/-- No month has a day of its own without being as long as that. -/
theorem IsProper.ne_of_lt (h : d.IsProper) (hover : daysInMonth year month < d.day) :
    ¬ (d.year = year ∧ d.month = month) := by
  rintro ⟨rfl, rfl⟩
  exact absurd h.day.2 (Nat.not_le.mpr hover)

/-- The same day of another month, or what comes in its place, lies on the side on which that month
does. -/
theorem lt_ofDayOfMonth_day_iff (h : d.IsProper) (year : Int) (month : Nat) :
    d.lt (ofDayOfMonth year month d.day) = true ↔ d.year < year ∨ (d.year = year ∧ d.month < month) := by
  have hday := h.day_bounds
  have hlength := daysInMonth_bounds year month
  rcases ofDayOfMonth_cases year month d.day with ⟨-, heq⟩ | ⟨rest, hover, hrest, heq⟩
  · rw [heq, lt_iff]
    dsimp only
    omega
  · have hne := h.ne_of_lt (show daysInMonth year month < d.day by omega)
    rw [heq, lt_iff]
    dsimp only
    omega

theorem ofDayOfMonth_day_lt_iff (h : d.IsProper) (year : Int) (month : Nat) :
    (ofDayOfMonth year month d.day).lt d = true ↔ year < d.year ∨ (year = d.year ∧ month < d.month) := by
  have hday := h.day_bounds
  have hlength := daysInMonth_bounds year month
  rcases ofDayOfMonth_cases year month d.day with ⟨-, heq⟩ | ⟨rest, hover, hrest, heq⟩
  · rw [heq, lt_iff]
    dsimp only
    omega
  · have hne := h.ne_of_lt (show daysInMonth year month < d.day by omega)
    rw [heq, lt_iff]
    dsimp only
    omega

theorem isValid_ofDayOfMonth (hyear : minYear ≤ year ∧ year ≤ maxYear) (hmonth : 1 ≤ month ∧ month ≤ 12)
    (hday : 1 ≤ day ∧ day ≤ 31) : (ofDayOfMonth year month day).isValid = true := by
  have hlength := daysInMonth_bounds year month
  have hnext := daysInMonth_bounds year (month + 1)
  rcases Nat.lt_or_ge (daysInMonth year month) day with hover | hin
  · have hmonth' := lt_december_of_over hmonth.2 hday.2 hover
    rw [ofDayOfMonth_of_lt hover]
    exact isValid_iff.mpr ⟨hyear, ⟨by simp, hmonth'⟩, by simp only; omega, by simp only; omega⟩
  · rw [ofDayOfMonth_of_le hin]
    exact isValid_iff.mpr ⟨hyear, hmonth, hday.1, hin⟩

theorem addDays?_firstOfMonth (hyear : minYear ≤ year ∧ year ≤ maxYear) (hmonth : 1 ≤ month ∧ month ≤ 12)
    (hday : 1 ≤ day ∧ day ≤ 31) :
    (⟨year, month, 1⟩ : Date).addDays? ((day : Int) - 1) = some (ofDayOfMonth year month day) := by
  refine addDays?_eq_some (isValid_ofDayOfMonth hyear hmonth hday) ?_
  have hcount (n : Nat) : (⟨year, month, n⟩ : Date).dayNumber =
      (⟨year, month, 1⟩ : Date).dayNumber + n - 1 := by
    simp only [dayNumber]
    omega
  rcases Nat.lt_or_ge (daysInMonth year month) day with hover | hin
  · have hmonth' := lt_december_of_over hmonth.2 hday.2 hover
    rw [ofDayOfMonth_of_lt hover, dayNumber_nextMonth ⟨hmonth.1, hmonth'⟩,
      hcount (daysInMonth year month + _)]
    omega
  · rw [ofDayOfMonth_of_le hin, hcount day]
    omega

/-! ### Months later -/

theorem addMonths?_eq_some (h : d.isValid = true) (months year : Int) (month : Nat)
    (hcount : d.year * 12 + d.month + months = year * 12 + month)
    (hyear : minYear ≤ year ∧ year ≤ maxYear) (hmonth : 1 ≤ month ∧ month ≤ 12) :
    d.addMonths? months = some ⟨year, month, min d.day (daysInMonth year month)⟩ := by
  obtain ⟨-, hproper⟩ := isValid_iff.mp h
  have hday := hproper.day
  have hlength := daysInMonth_bounds year month
  have hyears : (d.year * 12 + (d.month : Int) - 1 + months) / 12 = year := by omega
  have hmonths : ((d.year * 12 + (d.month : Int) - 1 + months) % 12).toNat + 1 = month := by omega
  have hvalid : (⟨year, month, min d.day (daysInMonth year month)⟩ : Date).isValid = true :=
    isValid_iff.mpr ⟨hyear, hmonth, by simp only; omega, Nat.min_le_right ..⟩
  simp only [addMonths?, hyears, hmonths, ofFields?, hvalid, if_true]

theorem isValid_of_addMonths? {months : Int} (h : d.addMonths? months = some d') : d'.isValid = true := by
  simp only [addMonths?, ofFields?, Option.ite_none_right_eq_some, Option.some.injEq] at h
  obtain ⟨hvalid, rfl⟩ := h
  exact hvalid

/-- No month lies behind the last year. -/
theorem addMonths?_eq_none {months : Int} (h : maxYear * 12 + 12 < d.year * 12 + d.month + months) :
    d.addMonths? months = none := by
  have hlate : maxYear < (d.year * 12 + (d.month : Int) - 1 + months) / 12 := by omega
  have hnot (month day : Nat) :
      (⟨(d.year * 12 + (d.month : Int) - 1 + months) / 12, month, day⟩ : Date).isValid = false := by
    rw [← Bool.not_eq_true, isValid_iff]
    rintro ⟨⟨-, hlimit⟩, -⟩
    exact absurd hlimit (by simpa using hlate)
  simp only [addMonths?, ofFields?, hnot]
  rfl

/-- A month later it is the next month, and no later day of it, unless the calendar is over by then. -/
theorem exists_addMonths?_one (h : d.isValid = true) (hlast : ¬ (d.year = maxYear ∧ d.month = 12)) :
    ∃ next, d.addMonths? 1 = some next ∧ next.day ≤ d.day ∧
      ((d.month < 12 ∧ next.year = d.year ∧ next.month = d.month + 1) ∨
        (d.month = 12 ∧ next.year = d.year + 1 ∧ next.month = 1)) := by
  obtain ⟨hlimits, hmonth, -⟩ := isValid_iff.mp h
  rcases Nat.lt_or_eq_of_le hmonth.2 with hbefore | hdecember
  · exact ⟨_, addMonths?_eq_some h 1 d.year (d.month + 1) (by omega) hlimits (by omega),
      Nat.min_le_left .., .inl ⟨hbefore, rfl, rfl⟩⟩
  · exact ⟨_, addMonths?_eq_some h 1 (d.year + 1) 1 (by omega) (by omega) (by omega),
      Nat.min_le_left .., .inr ⟨hdecember, rfl, rfl⟩⟩

end Date

end AutoProxy.Calendar
