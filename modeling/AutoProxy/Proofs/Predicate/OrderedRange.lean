import AutoProxy.Proofs.Predicate.DateRange

/-!
Ranges of dates whose end does not precede their beginning. From one day of the month to another, from one
year to another and from one date to another they hold what lies between the two (`inRange_days_iff`,
`inRange_years_iff`, `inRange_dates_iff`), however long the months are. From one month to another they do
so on a day that the first month has. On any other day the range begins early in the month after it, on a
day that is also looked for in the last month, so that today lies behind the end when that month has come
(`inRange_months_iff`).
-/

namespace AutoProxy.Predicate

open Calendar

/-! ### Ranges in order -/

section Ordered

variable {m : Moment}

/-- From one day of the month to a later one, however long the month is. -/
theorem inRange_days_iff (hm : m.date.isValid = true) {first last : Nat} (hfirst : 1 ≤ first)
    (hle : first ≤ last) (hlast : last ≤ 31) :
    inRange m ⟨some first, some last⟩ {} {} = true ↔ first ≤ m.date.day ∧ m.date.day ≤ last := by
  have hproper := Date.isProper_of_isValid hm
  have hlength := hproper.day.2
  have hfirst' : 1 ≤ first ∧ first ≤ 31 := by omega
  have hlast' : 1 ≤ last ∧ last ≤ 31 := by omega
  rcases Date.ofDayOfMonth_cases m.date.year m.date.month first with
    ⟨hin, hstart⟩ | ⟨rest, hover, hrest, -⟩
  · have hends := ends_of_days hm hfirst' hlast' hstart
    have hstartProper : (⟨m.date.year, m.date.month, first⟩ : Date).IsProper :=
      ⟨hproper.month, hfirst, hin⟩
    have hnot : (Date.ofDayOfMonth m.date.year m.date.month last).lt
        ⟨m.date.year, m.date.month, first⟩ = false := by
      rw [← Bool.not_eq_true, Date.ofDayOfMonth_lt_iff hstartProper]
      exact Nat.not_lt.mpr hle
    have hbefore : m.date.lt ⟨m.date.year, m.date.month, first⟩ = true ↔ m.date.day < first := by
      rw [← hstart]
      exact Date.lt_ofDayOfMonth_iff hproper
    have hafter : (Date.ofDayOfMonth m.date.year m.date.month last).lt m.date = true ↔
        last < m.date.day := Date.ofDayOfMonth_lt_iff hproper
    rw [inRange_iff_of_not_lt hends hnot, ← Bool.not_eq_true, ← Bool.not_eq_true, hbefore, hafter]
    omega
  · -- the range begins in the next month
    have hends := ends_of_days hm hfirst' hlast' rfl
    have hafter := (Date.lt_ofDayOfMonth_iff hproper).mpr (show m.date.day < first by omega)
    have hnot : ¬ first ≤ m.date.day := by omega
    simp [inRange_eq_false_of_lt hends hafter, hnot]

/-- From one year to a later one, also on a day that the years do not have. -/
theorem inRange_years_iff (hm : m.date.isValid = true) {first last : Int} (hfirst : Date.minYear ≤ first)
    (hle : first ≤ last) (hlast : last ≤ Date.maxYear) :
    inRange m {} {} ⟨some first, some last⟩ = true ↔ first ≤ m.date.year ∧ m.date.year ≤ last := by
  have hproper := Date.isProper_of_isValid hm
  have hday := hproper.day_bounds
  have hbefore := Date.lt_ofDayOfMonth_day_iff hproper first m.date.month
  have hfirst' : Date.minYear ≤ first ∧ first ≤ Date.maxYear := by omega
  have hlast' : Date.minYear ≤ last ∧ last ≤ Date.maxYear := by omega
  rcases Date.ofDayOfMonth_cases first m.date.month m.date.day with
    ⟨hin, hstart⟩ | ⟨rest, hover, hrest, hstart⟩
  · have hends := ends_of_years hm hfirst' hlast' hstart
    have hstartProper : (⟨first, m.date.month, m.date.day⟩ : Date).IsProper :=
      ⟨hproper.month, hday.1, hin⟩
    have hafter := Date.ofDayOfMonth_day_lt_iff hproper last m.date.month
    have hnot : (Date.ofDayOfMonth last m.date.month m.date.day).lt ⟨first, m.date.month, m.date.day⟩ =
        false := by
      rw [← Bool.not_eq_true, Date.ofDayOfMonth_day_lt_iff hstartProper]
      dsimp only
      omega
    rw [hstart] at hbefore
    rw [inRange_iff_of_not_lt hends hnot, ← Bool.not_eq_true, ← Bool.not_eq_true, hbefore, hafter]
    omega
  · -- both ends lie at the beginning of the next month
    have hends := ends_of_years hm hfirst' hlast' hstart
    have hlength := Date.daysInMonth_bounds first m.date.month
    have hnext := Date.daysInMonth_bounds last (m.date.month + 1)
    rw [Date.ofDayOfMonth_of_le (by dsimp only; omega)] at hends
    have hnot : (⟨last, m.date.month + 1, rest⟩ : Date).lt ⟨first, m.date.month + 1, rest⟩ = false := by
      rw [Date.lt_eq_false_iff]
      dsimp only
      omega
    rw [hstart] at hbefore
    rw [inRange_iff_of_not_lt hends hnot, ← Bool.not_eq_true, hbefore, Date.lt_eq_false_iff]
    dsimp only
    omega

/-- From one date to a later one. -/
theorem inRange_dates_iff {first last : Date} (hfirst : first.isValid = true) (hlast : last.isValid = true)
    (hle : last.lt first = false) :
    inRange m ⟨some first.day, some last.day⟩
        ⟨some (first.month - 1 : Nat), some (last.month - 1 : Nat)⟩
        ⟨some first.year, some last.year⟩ = true ↔
      m.date.lt first = false ∧ last.lt m.date = false :=
  inRange_iff_of_not_lt (ends_of_dates hfirst hlast) hle

/-- From one month of the year to a later one, on a day that the first month has. -/
theorem inRange_months_iff_of_le (hm : m.date.isValid = true) {first last : Nat} (hle : first ≤ last)
    (hlast : last < 12) (hin : m.date.day ≤ Date.daysInMonth m.date.year (first + 1)) :
    inRange m {} ⟨some first, some last⟩ {} = true ↔
      first + 1 ≤ m.date.month ∧ m.date.month ≤ last + 1 := by
  have hproper := Date.isProper_of_isValid hm
  have hends := ends_of_months_of_le hm (Nat.lt_of_le_of_lt hle hlast) hlast hin
  have hstart : (⟨m.date.year, first + 1, m.date.day⟩ : Date).IsProper :=
    ⟨by dsimp only; omega, hproper.day.1, hin⟩
  have hnot : (Date.ofDayOfMonth m.date.year (last + 1) m.date.day).lt
      ⟨m.date.year, first + 1, m.date.day⟩ = false := by
    rw [← Bool.not_eq_true, Date.ofDayOfMonth_day_lt_iff hstart]
    dsimp only
    omega
  rw [inRange_iff_of_not_lt hends hnot, ← Bool.not_eq_true, ← Bool.not_eq_true, Date.lt_iff,
    Date.ofDayOfMonth_day_lt_iff hproper]
  dsimp only
  omega

/-- From one month of the year to a later one, on a day that the first month does not have: only the
months between them belong to the range. -/
theorem inRange_months_iff_of_lt (hm : m.date.isValid = true) {first last : Nat} (hle : first ≤ last)
    (hlast : last < 12) (hover : Date.daysInMonth m.date.year (first + 1) < m.date.day) :
    inRange m {} ⟨some first, some last⟩ {} = true ↔
      first + 1 < m.date.month ∧ m.date.month < last + 1 := by
  obtain ⟨hyear, hproper⟩ := Date.isValid_iff.mp hm
  have hbounds := hproper.day_bounds
  have hlength := Date.daysInMonth_bounds m.date.year (first + 1)
  have hmonth := Date.lt_december_of_over (show first + 1 ≤ 12 by omega) hbounds.2 hover
  obtain ⟨day, hday⟩ := Nat.exists_eq_add_of_le (Nat.le_of_lt hover)
  have hends := ends_of_months_of_lt hm (Nat.lt_of_le_of_lt hle hlast) hlast hday (by omega)
  rcases Nat.lt_or_eq_of_le hle with hlt | rfl
  · have hnot : (⟨m.date.year, last + 1, day⟩ : Date).lt ⟨m.date.year, first + 1 + 1, day⟩ = false := by
      rw [Date.lt_eq_false_iff]
      dsimp only
      omega
    rw [inRange_iff_of_not_lt hends hnot, Date.lt_eq_false_iff, Date.lt_eq_false_iff]
    dsimp only
    omega
  · -- the end is looked for from the start, precedes it, and so moves on to it
    have hnext := Date.daysInMonth_bounds m.date.year (first + 1 + 1)
    have hearly : (⟨m.date.year, first + 1, day⟩ : Date).lt ⟨m.date.year, first + 1 + 1, day⟩ = true := by
      rw [Date.lt_iff]
      dsimp only
      omega
    have hvalid : (⟨m.date.year, first + 1, day⟩ : Date).isValid = true :=
      Date.isValid_iff.mpr ⟨hyear, by dsimp only; omega, by dsimp only; omega⟩
    have hmove := Date.addMonths?_eq_some hvalid 1 m.date.year (first + 1 + 1) (by dsimp only; omega) hyear
      (by omega)
    rw [Nat.min_eq_left (by dsimp only; omega)] at hmove
    rw [inRange_iff_of_lt hends hearly hmove (Date.lt_irrefl _), Date.lt_eq_false_iff,
      Date.lt_eq_false_iff]
    dsimp only
    omega

/-- From one month of the year to a later one: both of them and the months between them, but not the
last one on a day that the first one does not have. -/
theorem inRange_months_iff (hm : m.date.isValid = true) {first last : Nat} (hle : first ≤ last)
    (hlast : last < 12) :
    inRange m {} ⟨some first, some last⟩ {} = true ↔
      (first + 1 ≤ m.date.month ∧ m.date.month ≤ last + 1) ∧
        (m.date.day ≤ Date.daysInMonth m.date.year (first + 1) ∨ m.date.month ≠ last + 1) := by
  rcases Nat.lt_or_ge (Date.daysInMonth m.date.year (first + 1)) m.date.day with hover | hin
  · -- the month of today is longer than the first one
    have hne := (Date.isProper_of_isValid hm).ne_of_lt hover
    rw [inRange_months_iff_of_lt hm hle hlast hover]
    omega
  · rw [inRange_months_iff_of_le hm hle hlast hin]
    omega

end Ordered

/-! ### What a script asks for -/

section Arguments

variable {now : Instant} {arguments : List Argument}

/-- A range from one day of the month to a later one, from one year to a later one, or from one date to a
later one holds exactly the dates that lie between the two, both included. The arguments of different kinds
may be given in any order, and a request for universal time anywhere among them. -/
theorem dateRange_iff_of_ordered (hnow : now.universal.date.isValid = true) (arguments : List Argument) :
    (∀ first last : Nat, Given arguments [(first : Int), (last : Int)] [] [] →
      1 ≤ first → first ≤ last → last ≤ 31 →
        (dateRange now arguments = true ↔
          first ≤ (today now arguments).day ∧ (today now arguments).day ≤ last)) ∧
    (∀ first last : Int, Given arguments [] [] [first, last] →
      32 ≤ first → first ≤ last → last ≤ Date.maxYear →
        (dateRange now arguments = true ↔
          first ≤ (today now arguments).year ∧ (today now arguments).year ≤ last)) ∧
    (∀ first last : Date,
      Given arguments [(first.day : Int), (last.day : Int)] [first.month - 1, last.month - 1]
        [first.year, last.year] →
      first.isValid = true → last.isValid = true → 31 < first.year → last.lt first = false →
        (dateRange now arguments = true ↔
          (today now arguments).lt first = false ∧ last.lt (today now arguments) = false)) := by
  have hvalid := isValid_present hnow (arguments.any Argument.isGmt)
  refine ⟨?_, ?_, ?_⟩
  · intro first last hgiven hfirst hle hlast
    rw [dateRange_eq hgiven]
    exact inRange_days_iff hvalid hfirst hle hlast
  · intro first last hgiven hfirst hle hlast
    rw [dateRange_eq hgiven]
    exact inRange_years_iff hvalid (by simp only [Date.minYear]; omega) hle hlast
  · intro first last hgiven hfirst hlast _ hle
    rw [dateRange_eq hgiven]
    exact inRange_dates_iff hfirst hlast hle

/-- The end of a 29th of February, two hours west of Greenwich. -/
def leapNight : Instant := ⟨⟨⟨2024, 3, 1⟩, 5400, 0⟩, -7200⟩

theorem dateRange_iff_of_ordered_leapNight :
    leapNight.universal.date.isValid = true ∧
    (Given [.number 29, .number 31] [29, 31] [] [] ∧
      dateRange leapNight [.number 29, .number 31] = true) ∧
    (Given [.number 2023, .number 2025.5] [] [] [2023, 2025] ∧
      dateRange leapNight [.number 2023, .number 2025.5] = true) ∧
    Given [.text "mar", .number 2024, .number 1, .text "GMT", .number 31, .text "Mar", .number 2024]
      [1, 31] [2, 2] [2024, 2024] ∧
    dateRange leapNight
      [.text "mar", .number 2024, .number 1, .text "GMT", .number 31, .text "Mar", .number 2024] = true := by
  have hnow : leapNight.universal.date.isValid = true := by decide
  have hdays : Given [.number 29, .number 31] [29, 31] [] [] := ⟨by decide, by decide, by decide⟩
  have hyears : Given [.number 2023, .number 2025.5] [] [] [2023, 2025] := ⟨by decide, by decide, by decide⟩
  have hdates : Given
      [.text "mar", .number 2024, .number 1, .text "GMT", .number 31, .text "Mar", .number 2024]
      [1, 31] [2, 2] [2024, 2024] := ⟨by decide, by decide, by decide⟩
  refine ⟨hnow, ⟨hdays, ?_⟩, ⟨hyears, ?_⟩, hdates, ?_⟩
  · exact ((dateRange_iff_of_ordered hnow _).1 29 31 hdays (by decide) (by decide) (by decide)).mpr
      (by decide)
  · exact ((dateRange_iff_of_ordered hnow _).2.1 2023 2025 hyears (by decide) (by decide)
      (by decide +kernel)).mpr (by decide)
  · exact ((dateRange_iff_of_ordered hnow _).2.2 ⟨2024, 3, 1⟩ ⟨2024, 3, 31⟩ hdates (by decide) (by decide)
      (by decide) (by decide)).mpr (by decide)

/-- A range from one month to a later one holds the months between the two, both included, but not the
last one on a day that the first one does not have. -/
theorem dateRange_months_iff (hnow : now.universal.date.isValid = true) {first last : Nat}
    (hgiven : Given arguments [] [first, last] []) (hle : first ≤ last) :
    dateRange now arguments = true ↔
      (first + 1 ≤ (today now arguments).month ∧ (today now arguments).month ≤ last + 1) ∧
        ((today now arguments).day ≤ Date.daysInMonth (today now arguments).year (first + 1) ∨
          (today now arguments).month ≠ last + 1) := by
  have hvalid := isValid_present hnow (arguments.any Argument.isGmt)
  rw [dateRange_eq hgiven]
  exact inRange_months_iff hvalid hle (hgiven.lt_of_mem_month (by simp))

/-- On the 31st of March a range from February begins on the 3rd of March; April is still ahead. -/
theorem dateRange_months_iff_marchEnd :
    (noon ⟨2026, 3, 31⟩).universal.date.isValid = true ∧
      Given [.text "FEB", .text "APR"] [] [1, 3] [] ∧ 1 ≤ 3 ∧
        dateRange (noon ⟨2026, 3, 31⟩) [.text "FEB", .text "APR"] = true := by
  have hnow : (noon ⟨2026, 3, 31⟩).universal.date.isValid = true := by decide
  have hgiven : Given [.text "FEB", .text "APR"] [] [1, 3] [] := ⟨by decide, by decide, by decide⟩
  exact ⟨hnow, hgiven, by decide, (dateRange_months_iff hnow hgiven (by decide)).mpr (by decide)⟩

/-- On the 31st of October a range from September to October begins on the 1st of October, and ends there. -/
theorem not_dateRange_months_octoberEnd :
    ¬ (dateRange (noon ⟨2026, 10, 31⟩) [.text "SEP", .text "OCT"] = true ↔
      9 ≤ (today (noon ⟨2026, 10, 31⟩) [.text "SEP", .text "OCT"]).month ∧
        (today (noon ⟨2026, 10, 31⟩) [.text "SEP", .text "OCT"]).month ≤ 10) := by
  decide +kernel

end Arguments

end AutoProxy.Predicate
