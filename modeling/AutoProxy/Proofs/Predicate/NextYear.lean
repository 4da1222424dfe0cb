import AutoProxy.Proofs.Predicate.Words

/-!
Ranges of dates whose end has to move on into the next year. It gets there by way of the month after: on by
one month, by twelve, and back by one, and each time a day that the month does not have becomes the last
day of it. What is left is the same day of the next year, unless it is one that the month after does not
have (`Date.addMonths?_thereAndBack`, `Date.dayKept_eq_iff`). So the last days of a month that is longer
than the next one are lost on the way (`rollForward?_eq_yearLater_iff`).
-/

namespace AutoProxy

open Calendar

namespace Calendar.Date

variable {d next : Date}

/-- The same day of the same month in the next year; for the 29th of February it is the 28th. -/
def yearLater (d : Date) : Date :=
  ⟨d.year + 1, d.month, if d.month = 2 ∧ d.day = 29 then 28 else d.day⟩

/-- A day that the month after does not have in two successive years. -/
def Outlasts (d : Date) : Prop :=
  (d.month = 1 ∧ 28 < d.day) ∨ (d.month ∈ [3, 5, 8, 10] ∧ d.day = 31)

instance (d : Date) : Decidable d.Outlasts := inferInstanceAs (Decidable (_ ∨ _))

/-- What is left of the day of the month by way of the month after. -/
def dayKept (d : Date) : Nat :=
  match d.month with
  | 1 | 2 => min d.day 28
  | 7 | 12 => d.day
  | _ => min d.day 30

/-- Of two successive Februaries one has 28 days. -/
theorem min_february (year : Int) : min (daysInMonth year 2) (daysInMonth (year + 1) 2) = 28 := by
  have hnot : isLeapYear year = true → isLeapYear (year + 1) = true → False := by
    simp only [isLeapYear, Bool.and_eq_true, beq_iff_eq]
    omega
  simp only [daysInMonth]
  split_ifs with hthis hnext
  · exact (hnot hthis hnext).elim
  · rfl
  · rfl
  · rfl

/-- Cut to the length of the month after, in that year and the next one, and then to that of its own month, a
day of a month is the one that is kept. -/
theorem min_daysInMonth_eq_dayKept (h : d.IsProper) {year : Int} {month : Nat}
    (hnext : d.year * 12 + d.month + 1 = year * 12 + month) (hmonth : 1 ≤ month ∧ month ≤ 12) :
    min (min (min d.day (daysInMonth year month)) (daysInMonth (year + 1) month))
      (daysInMonth (d.year + 1) d.month) = d.dayKept := by
  have hown := h.month
  have hday := h.day.2
  obtain ⟨year', month', day⟩ := d
  dsimp only at hnext hown hday ⊢
  obtain rfl : month = month' % 12 + 1 := by omega
  have hcases : month' = 1 ∨ month' = 2 ∨ month' = 3 ∨ month' = 4 ∨ month' = 5 ∨ month' = 6 ∨ month' = 7 ∨
      month' = 8 ∨ month' = 9 ∨ month' = 10 ∨ month' = 11 ∨ month' = 12 := by omega
  rcases hcases with rfl | rfl | hlater
  · obtain rfl : year = year' := by omega
    have hfebruary := min_february year
    have hjanuary : daysInMonth (year + 1) 1 = 31 := rfl
    simp only [dayKept, hjanuary, Nat.reduceMod, Nat.reduceAdd]
    omega
  · have hfebruary := min_february year'
    have hlength := daysInMonth_bounds year' 2
    have hlength' := daysInMonth_bounds (year' + 1) 2
    have hmarch (y : Int) : daysInMonth y 3 = 31 := rfl
    simp only [dayKept, hmarch, Nat.reduceMod, Nat.reduceAdd]
    omega
  · -- no month that is left, nor the one after it, is longer in one year than in another
    rcases hlater with rfl | rfl | rfl | rfl | rfl | rfl | rfl | rfl | rfl | rfl <;>
      simp only [daysInMonth, dayKept, Nat.reduceMod, Nat.reduceAdd] at hday ⊢ <;> omega

/-- A month later there is one month more, and of the day what that month has. -/
theorem eq_of_addMonths?_one (h : d.IsProper) (hnext : d.addMonths? 1 = some next) :
    d.year * 12 + d.month + 1 = next.year * 12 + next.month ∧
      next.day = min d.day (daysInMonth next.year next.month) := by
  have hown := h.month
  simp only [addMonths?, ofFields?, Option.ite_none_right_eq_some, Option.some.injEq] at hnext
  obtain ⟨-, rfl⟩ := hnext
  exact ⟨by dsimp only; omega, rfl⟩

/-- On by a month, by twelve and back by one: a year later, as long as there is one, with the day that is
kept. -/
theorem addMonths?_thereAndBack (h : d.isValid = true) (hnext : d.addMonths? 1 = some next) :
    ((next.addMonths? 12).bind fun later => later.addMonths? (-1)) =
      if next.year < maxYear then some ⟨d.year + 1, d.month, d.dayKept⟩ else none := by
  obtain ⟨hlimits, hproper⟩ := isValid_iff.mp h
  have hvalid := isValid_of_addMonths? hnext
  obtain ⟨hlimits', hproper'⟩ := isValid_iff.mp hvalid
  obtain ⟨hcount, hday⟩ := eq_of_addMonths?_one hproper hnext
  have hmonth := hproper.month
  have hmonth' := hproper'.month
  by_cases hyear : next.year < maxYear
  · have hlater := addMonths?_eq_some hvalid 12 (next.year + 1) next.month (by omega) (by omega) hmonth'
    have hback := addMonths?_eq_some (isValid_of_addMonths? hlater) (-1) (d.year + 1) d.month
      (by dsimp only; omega) (by omega) hmonth
    rw [if_pos hyear, hlater, Option.bind_some, hback, hday,
      min_daysInMonth_eq_dayKept hproper hcount hmonth']
  · rw [if_neg hyear, addMonths?_eq_none (by omega), Option.bind_none]

/-- That is the same day of the next year for all days but those that outlast the month after. -/
theorem dayKept_eq_iff (h : d.IsProper) :
    (⟨d.year + 1, d.month, d.dayKept⟩ : Date) = d.yearLater ↔ ¬ d.Outlasts := by
  have hmonth := h.month
  have hday := h.day.2
  obtain ⟨year, month, day⟩ := d
  dsimp only at hmonth hday
  simp only [yearLater, dayKept, Outlasts, Date.mk.injEq, true_and]
  have hcases : month = 2 ∨ month = 1 ∨ month = 3 ∨ month = 4 ∨ month = 5 ∨ month = 6 ∨ month = 7 ∨
      month = 8 ∨ month = 9 ∨ month = 10 ∨ month = 11 ∨ month = 12 := by omega
  rcases hcases with rfl | hother
  · have hfebruary : day ≤ 29 := by
      simp only [daysInMonth] at hday
      split at hday <;> omega
    have hkept : min day 28 = if 2 = 2 ∧ day = 29 then 28 else day := by
      split <;> omega
    simp [hkept]
  · rcases hother with rfl | rfl | rfl | rfl | rfl | rfl | rfl | rfl | rfl | rfl | rfl <;>
      simp [daysInMonth] at hday ⊢ <;> omega

end Calendar.Date

/-! ### The end of a range -/

namespace Predicate

variable {now : Instant} {arguments : List Argument} {start finish next : Date}

/-- The days on which the range begins and, before it moves on, ends that the arguments make on a clock. -/
def EndsOf (now : Instant) (arguments : List Argument) (start finish : Date) : Prop :=
  Ends (present now (arguments.any Argument.isGmt)) (DateFields.ofArguments arguments).day
    (DateFields.ofArguments arguments).month (DateFields.ofArguments arguments).year start finish

/-- Where a range ends whose end still precedes its start when it has moved on by a month. -/
theorem rollForward?_eq_dayKept {m : Moment} (h : finish.isValid = true) (hlt : finish.lt start = true)
    (hnext : finish.addMonths? 1 = some next) (hstill : next.lt start = true) :
    rollForward? (m.on start) (m.on finish) =
      (if next.year < Date.maxYear then
        some (⟨finish.year + 1, finish.month, finish.dayKept⟩ : Date) else none).map m.on := by
  rw [rollForward?_of_lt_lt hlt hnext hstill, Date.addMonths?_thereAndBack h hnext]

theorem EndsOf.isValid (h : EndsOf now arguments start finish) : finish.isValid = true :=
  isValid_of_withFields? h.ends

/-- The end of a range that precedes the start, and still does when it has moved on by a month, comes to the
same day of the next year exactly if that day does not outlast the month after and the calendar is not over
by then. In any case the range ends on the day that is kept by way of the month after, and holds what lies
between the start and there. -/
theorem rollForward?_eq_yearLater_iff (h : EndsOf now arguments start finish)
    (hlt : finish.lt start = true) (hnext : finish.addMonths? 1 = some next)
    (hstill : next.lt start = true) :
    (∀ m : Moment, rollForward? (m.on start) (m.on finish) = some (m.on finish.yearLater) ↔
      next.year < Date.maxYear ∧ ¬ finish.Outlasts) ∧
    (dateRange now arguments = true ↔
      (today now arguments).lt start = false ∧ next.year < Date.maxYear ∧
        (⟨finish.year + 1, finish.month, finish.dayKept⟩ : Date).lt (today now arguments) = false) := by
  have hvalid := h.isValid
  have hkept := Date.dayKept_eq_iff (Date.isProper_of_isValid hvalid)
  constructor
  · intro m
    have hon : ∀ {d d' : Date}, m.on d = m.on d' ↔ d = d' :=
      ⟨congrArg Moment.date, congrArg m.on⟩
    rw [rollForward?_eq_dayKept hvalid hlt hnext hstill, ← hkept]
    by_cases hyear : next.year < Date.maxYear <;> simp [hyear, hon]
  · have hgmt : (DateFields.ofArguments arguments).gmt = arguments.any Argument.isGmt := by
      rw [DateFields.ofArguments_eq ⟨rfl, rfl, rfl⟩]
    have hanswer : dateRange now arguments = inRange (present now (arguments.any Argument.isGmt))
        (DateFields.ofArguments arguments).day (DateFields.ofArguments arguments).month
        (DateFields.ofArguments arguments).year := by
      rw [← hgmt]
      rfl
    rw [hanswer, inRange_iff h (rollForward?_eq_dayKept hvalid hlt hnext hstill)]
    by_cases hyear : next.year < Date.maxYear <;> simp [hyear, today]

/-- From the 30th of November to a 29th of February of the same year: the end comes to the 28th of February of
the next year. -/
theorem rollForward?_eq_yearLater_leapDay :
    (EndsOf (noon ⟨2025, 2, 28⟩) [.number 30, .text "NOV", .number 2024, .number 29, .text "FEB"]
        ⟨2024, 11, 30⟩ ⟨2024, 2, 29⟩ ∧
      (⟨2024, 2, 29⟩ : Date).lt ⟨2024, 11, 30⟩ = true ∧
      (⟨2024, 2, 29⟩ : Date).addMonths? 1 = some ⟨2024, 3, 29⟩ ∧
      (⟨2024, 3, 29⟩ : Date).lt ⟨2024, 11, 30⟩ = true) ∧
    rollForward? (.midnight ⟨2024, 11, 30⟩) (.midnight ⟨2024, 2, 29⟩) = some (.midnight ⟨2025, 2, 28⟩) ∧
    dateRange (noon ⟨2025, 2, 28⟩) [.number 30, .text "NOV", .number 2024, .number 29, .text "FEB"] = true := by
  have hends : EndsOf (noon ⟨2025, 2, 28⟩) [.number 30, .text "NOV", .number 2024, .number 29, .text "FEB"]
      ⟨2024, 11, 30⟩ ⟨2024, 2, 29⟩ := ⟨by decide +kernel, by decide +kernel⟩
  have hlt : (⟨2024, 2, 29⟩ : Date).lt ⟨2024, 11, 30⟩ = true := by decide
  have hnext : (⟨2024, 2, 29⟩ : Date).addMonths? 1 = some ⟨2024, 3, 29⟩ := by decide +kernel
  have hstill : (⟨2024, 3, 29⟩ : Date).lt ⟨2024, 11, 30⟩ = true := by decide
  obtain ⟨hroll, hanswer⟩ := rollForward?_eq_yearLater_iff hends hlt hnext hstill
  exact ⟨⟨hends, hlt, hnext, hstill⟩, (hroll (.midnight ⟨2024, 1, 1⟩)).mpr (by decide +kernel),
    hanswer.mpr (by decide +kernel)⟩

/-- From the 15th of March to the 31st of January: the end comes to the 28th of January of the next year, so that
the 30th is outside. -/
theorem rollForward?_ne_yearLater_januaryEnd :
    EndsOf (noon ⟨2026, 1, 30⟩) [.number 15, .text "MAR", .number 2025, .number 31, .text "JAN"]
        ⟨2025, 3, 15⟩ ⟨2025, 1, 31⟩ ∧
      (⟨2025, 1, 31⟩ : Date).addMonths? 1 = some ⟨2025, 2, 28⟩ ∧
      (⟨2025, 2, 28⟩ : Date).lt ⟨2025, 3, 15⟩ = true ∧
      (⟨2025, 1, 31⟩ : Date).yearLater = ⟨2026, 1, 31⟩ ∧
      rollForward? (.midnight ⟨2025, 3, 15⟩) (.midnight ⟨2025, 1, 31⟩) = some (.midnight ⟨2026, 1, 28⟩) ∧
      dateRange (noon ⟨2026, 1, 30⟩) [.number 15, .text "MAR", .number 2025, .number 31, .text "JAN"] =
        false :=
  ⟨⟨by decide +kernel, by decide +kernel⟩, by decide +kernel, by decide, by decide, by decide +kernel,
    by decide +kernel⟩

end Predicate

end AutoProxy
