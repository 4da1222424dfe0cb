import AutoProxy.Proofs.Predicate.DateRange

/-!
Ranges of dates whose end precedes their beginning. Such a range is looked for from today on only: it
begins in this month and ends in the next one (`inRange_days_wrapping_iff`), or begins in this year and
ends in the next one (`inRange_months_wrapping_iff`). What is left of a range that began in the month or
in the year before does not belong to it. An end that lies only a month before the start is made up for
by a single month, so that the range does not go beyond its first month (`inRange_months_adjacent_iff`).
-/

namespace AutoProxy.Predicate

open Calendar

section Wrapping

variable {m : Moment}

/-- From one day of the month to an earlier one: the days from the first one to the end of the month, but
none in the last month of the calendar. -/
theorem inRange_days_wrapping_iff (hm : m.date.isValid = true) {first last : Nat} (hfirst : first ≤ 31)
    (hlast : 1 ≤ last) (hlt : last < first) :
    inRange m ⟨some first, some last⟩ {} {} = true ↔
      first ≤ m.date.day ∧ ¬ (m.date.year = Date.maxYear ∧ m.date.month = 12) := by
  obtain ⟨hyear, hproper⟩ := Date.isValid_iff.mp hm
  have hlength := hproper.day.2
  have hfirst' : 1 ≤ first ∧ first ≤ 31 := by omega
  have hlast' : 1 ≤ last ∧ last ≤ 31 := by omega
  rcases Date.ofDayOfMonth_cases m.date.year m.date.month first with
    ⟨hin, hstart⟩ | ⟨rest, hover, hrest, -⟩
  · have hends := ends_of_days hm hfirst' hlast' hstart
    rw [Date.ofDayOfMonth_of_le (by dsimp only; omega)] at hends
    dsimp only at hends
    have hearly : (⟨m.date.year, m.date.month, last⟩ : Date).lt
        ⟨m.date.year, m.date.month, first⟩ = true := by
      rw [Date.lt_iff]
      dsimp only
      omega
    have hvalid : (⟨m.date.year, m.date.month, last⟩ : Date).isValid = true :=
      Date.isValid_iff.mpr ⟨hyear, hproper.month, hlast, by dsimp only; omega⟩
    by_cases hover : m.date.year = Date.maxYear ∧ m.date.month = 12
    · have hnone : (⟨m.date.year, m.date.month, last⟩ : Date).addMonths? 1 = none :=
        Date.addMonths?_eq_none (by dsimp only; omega)
      simp [inRange_eq_false_of_none hends hearly hnone, hover]
    · obtain ⟨next, hnext, -, hlater⟩ := Date.exists_addMonths?_one hvalid hover
      dsimp only at hlater
      have hnot : next.lt ⟨m.date.year, m.date.month, first⟩ = false := by
        rw [Date.lt_eq_false_iff]
        dsimp only
        omega
      rw [inRange_iff_of_lt hends hearly hnext hnot, Date.lt_eq_false_iff, Date.lt_eq_false_iff]
      dsimp only
      omega
  · -- the range begins in the next month
    have hends := ends_of_days hm hfirst' hlast' rfl
    have hafter := (Date.lt_ofDayOfMonth_iff hproper).mpr (show m.date.day < first by omega)
    have hnot : ¬ first ≤ m.date.day := by omega
    simp [inRange_eq_false_of_lt hends hafter, hnot]

/-- From one month of the year to an earlier one that does not stand right before it: the months from
the first one to the end of the year, but none in the last year of the calendar. -/
theorem inRange_months_wrapping_iff (hm : m.date.isValid = true) {first last : Nat} (hfirst : first < 12)
    (hlt : last + 1 < first) :
    inRange m {} ⟨some first, some last⟩ {} = true ↔
      first + 1 ≤ m.date.month ∧ m.date.year < Date.maxYear := by
  obtain ⟨hyear, hproper⟩ := Date.isValid_iff.mp hm
  have hbounds := hproper.day_bounds
  have hlast : last < 12 := by omega
  have hlastLength := Date.daysInMonth_bounds m.date.year (last + 1)
  rcases Nat.lt_or_ge (Date.daysInMonth m.date.year (first + 1)) m.date.day with hover | hin
  · have hlength := Date.daysInMonth_bounds m.date.year (first + 1)
    have hne := hproper.ne_of_lt hover
    obtain ⟨day, hday⟩ := Nat.exists_eq_add_of_le (Nat.le_of_lt hover)
    have hends := ends_of_months_of_lt hm hfirst hlast hday (by omega)
    have hvalid : (⟨m.date.year, last + 1, day⟩ : Date).isValid = true :=
      Date.isValid_iff.mpr ⟨hyear, by dsimp only; omega, by dsimp only; omega⟩
    rw [inRange_iff_of_lt_lt hends hvalid rfl (by dsimp only; omega)
      (by rw [Date.lt_iff]; dsimp only; omega) (by rw [Date.lt_iff]; dsimp only; omega),
      Date.lt_eq_false_iff]
    dsimp only
    omega
  · have hends := ends_of_months_of_le hm hfirst hlast hin
    have hvalid : (Date.ofDayOfMonth m.date.year (last + 1) m.date.day).isValid = true :=
      Date.isValid_ofDayOfMonth hyear (by omega) hbounds
    -- the end lies in the last month, or early in the one after it
    obtain ⟨finish, hfinish, hfinishYear, hearly⟩ : ∃ finish,
        Date.ofDayOfMonth m.date.year (last + 1) m.date.day = finish ∧ finish.year = m.date.year ∧
          (finish.month = last + 1 ∨ (finish.month = last + 1 + 1 ∧ finish.day < m.date.day)) := by
      rcases Date.ofDayOfMonth_cases m.date.year (last + 1) m.date.day with
        ⟨-, heq⟩ | ⟨rest, hover, -, heq⟩
      · exact ⟨_, heq, rfl, .inl rfl⟩
      · exact ⟨_, heq, rfl, .inr ⟨rfl, by dsimp only; omega⟩⟩
    rw [hfinish] at hends hvalid
    rw [inRange_iff_of_lt_lt hends hvalid hfinishYear (by omega)
      (by rw [Date.lt_iff]; dsimp only; omega) (by rw [Date.lt_iff]; dsimp only; omega),
      Date.lt_eq_false_iff]
    dsimp only
    omega

/-- From one month of the year to the one right before it, on a day that the first month has: only the first
month, for the end that moves on by a month comes to the start, or to an early day of the month after it. -/
theorem inRange_months_adjacent_iff (hm : m.date.isValid = true) {last : Nat} (hlast : last + 1 < 12)
    (hin : m.date.day ≤ Date.daysInMonth m.date.year (last + 1 + 1))
    (hnextYear : last + 1 = 11 → m.date.year < Date.maxYear) :
    inRange m {} ⟨some (last + 1 : Nat), some last⟩ {} = true ↔ m.date.month = last + 1 + 1 := by
  obtain ⟨hyear, hproper⟩ := Date.isValid_iff.mp hm
  have hmonth := hproper.month
  have hends := ends_of_months_of_le hm hlast (Nat.lt_of_succ_lt hlast) hin
  rcases Date.ofDayOfMonth_cases m.date.year (last + 1) m.date.day with
    ⟨hin', hfinish⟩ | ⟨rest, hover, hrest, hfinish⟩
  · rw [hfinish] at hends
    have hvalid : (⟨m.date.year, last + 1, m.date.day⟩ : Date).isValid = true :=
      Date.isValid_iff.mpr ⟨hyear, by dsimp only; omega, hproper.day.1, hin'⟩
    have hmove := Date.addMonths?_eq_some hvalid 1 m.date.year (last + 1 + 1) (by dsimp only; omega) hyear
      (by omega)
    rw [Nat.min_eq_left hin] at hmove
    have hearly : (⟨m.date.year, last + 1, m.date.day⟩ : Date).lt
        ⟨m.date.year, last + 1 + 1, m.date.day⟩ = true := by
      rw [Date.lt_iff]
      dsimp only
      omega
    rw [inRange_iff_of_lt hends hearly hmove (Date.lt_irrefl _), Date.lt_eq_false_iff, Date.lt_eq_false_iff]
    dsimp only
    omega
  · have hlength := Date.daysInMonth_bounds m.date.year (last + 1)
    rw [hfinish] at hends
    have hvalid : (⟨m.date.year, last + 1 + 1, rest⟩ : Date).isValid = true :=
      Date.isValid_iff.mpr ⟨hyear, by dsimp only; omega, by dsimp only; omega⟩
    obtain ⟨next, hnext, hday, hlater⟩ := Date.exists_addMonths?_one hvalid (by dsimp only; omega)
    dsimp only at hday hlater
    have hearly : (⟨m.date.year, last + 1 + 1, rest⟩ : Date).lt
        ⟨m.date.year, last + 1 + 1, m.date.day⟩ = true := by
      rw [Date.lt_iff]
      dsimp only
      omega
    have hnot : next.lt ⟨m.date.year, last + 1 + 1, m.date.day⟩ = false := by
      rw [Date.lt_eq_false_iff]
      dsimp only
      omega
    rw [inRange_iff_of_lt hends hearly hnext hnot, Date.lt_eq_false_iff, Date.lt_eq_false_iff]
    dsimp only
    omega

/-- From December to November: only December, which has every day. -/
theorem inRange_months_december_iff (hm : m.date.isValid = true) (hnextYear : m.date.year < Date.maxYear) :
    inRange m {} ⟨some (11 : Nat), some (10 : Nat)⟩ {} = true ↔ 12 ≤ m.date.month := by
  have hproper := Date.isProper_of_isValid hm
  have hmonth := hproper.month
  have hin : m.date.day ≤ Date.daysInMonth m.date.year 12 := hproper.day_bounds.2
  rw [inRange_months_adjacent_iff hm (by omega) hin fun _ => hnextYear]
  omega

end Wrapping

/-! ### What a script asks for -/

/-- A range that wraps around holds what is left of the month or of the year from its beginning on, if
the calendar has its end. -/
theorem dateRange_iff_of_wrapping {now : Instant} (hnow : now.universal.date.isValid = true)
    (arguments : List Argument) :
    (∀ first last : Nat, Given arguments [(first : Int), (last : Int)] [] [] →
      1 ≤ last → last < first → first ≤ 31 →
        (dateRange now arguments = true ↔ first ≤ (today now arguments).day ∧
          ¬ ((today now arguments).year = Date.maxYear ∧ (today now arguments).month = 12))) ∧
    (∀ first last : Nat, Given arguments [] [first, last] [] → last < first →
      last + 1 < first ∨ (first = 11 ∧ (today now arguments).year < Date.maxYear) →
        (dateRange now arguments = true ↔
          first + 1 ≤ (today now arguments).month ∧ (today now arguments).year < Date.maxYear)) := by
  have hvalid := isValid_present hnow (arguments.any Argument.isGmt)
  constructor
  · intro first last hgiven hlast hlt hfirst
    rw [dateRange_eq hgiven]
    exact inRange_days_wrapping_iff hvalid hfirst hlast hlt
  · intro first last hgiven hlt hgap
    rw [dateRange_eq hgiven]
    by_cases hapart : last + 1 < first
    · exact inRange_months_wrapping_iff hvalid (hgiven.lt_of_mem_month (by simp)) hapart
    · obtain ⟨rfl, hnextYear⟩ := hgap.resolve_left hapart
      obtain rfl : last = 10 := by omega
      rw [and_iff_left hnextYear]
      exact inRange_months_december_iff hvalid hnextYear

theorem dateRange_iff_of_wrapping_yearEnd :
    (noon ⟨2026, 12, 31⟩).universal.date.isValid = true ∧
    (Given [.number 25, .text "GMT", .number 5] [25, 5] [] [] ∧
      dateRange (noon ⟨2026, 12, 31⟩) [.number 25, .text "GMT", .number 5] = true) ∧
    Given [.text "NOV", .text "FEB"] [] [10, 1] [] ∧
    dateRange (noon ⟨2026, 12, 31⟩) [.text "NOV", .text "FEB"] = true := by
  have hnow : (noon ⟨2026, 12, 31⟩).universal.date.isValid = true := by decide
  have hdays : Given [.number 25, .text "GMT", .number 5] [25, 5] [] [] :=
    ⟨by decide, by decide, by decide⟩
  have hmonths : Given [.text "NOV", .text "FEB"] [] [10, 1] [] := ⟨by decide, by decide, by decide⟩
  refine ⟨hnow, ⟨hdays, ?_⟩, hmonths, ?_⟩
  · exact ((dateRange_iff_of_wrapping hnow _).1 25 5 hdays (by decide) (by decide) (by decide)).mpr
      (by decide)
  · exact ((dateRange_iff_of_wrapping hnow _).2 10 1 hmonths (by decide) (.inl (by decide))).mpr
      (by decide)

/-- The 3rd of October in a range that may have begun in September, and a day of January in one that may have
begun in November of the year before. -/
theorem not_dateRange_wrapping_begunBefore :
    ¬ (dateRange (noon ⟨2026, 10, 3⟩) [.number 25, .number 5] = true ↔
      25 ≤ (today (noon ⟨2026, 10, 3⟩) [.number 25, .number 5]).day ∨
        (today (noon ⟨2026, 10, 3⟩) [.number 25, .number 5]).day ≤ 5) ∧
    ¬ (dateRange (noon ⟨2026, 1, 10⟩) [.text "NOV", .text "FEB"] = true ↔
      11 ≤ (today (noon ⟨2026, 1, 10⟩) [.text "NOV", .text "FEB"]).month ∨
        (today (noon ⟨2026, 1, 10⟩) [.text "NOV", .text "FEB"]).month ≤ 2) := by
  decide +kernel

end AutoProxy.Predicate
