import Mathlib.Data.List.Basic
import AutoProxy.Predicate.Calendar
import AutoProxy.Proofs.Calendar.Shift
import AutoProxy.Proofs.Predicate.Present

/-!
Ranges of dates. Each argument of a range gives a day, a month, a year, or none of these, whatever stands
before it; of each kind the first argument counts and, if there are several, the last one
(`DateFields.ofArguments_eq`). So it does not matter in which order arguments of different kinds are given.

The fields of a range name two days at a moment (`Ends`), one lemma for each kind of
field (`ends_of_days`, `ends_of_months`, `ends_of_years`, `ends_of_dates`). Both ends have the time of day
of the moment, so that only their dates count (`inRange_iff`), and there are three ways for them to lie:
the end does not precede the start (`inRange_iff_of_not_lt`), it no longer does a month later
(`inRange_iff_of_lt`), or it still does and moves on into the next year (`inRange_iff_of_lt_lt`).
-/

namespace AutoProxy.Predicate

/-! ## Fields -/

namespace Argument

def day? (argument : Argument) : Option Int := argument.int?.filter fun n => n ≤ lastDay

/-- The month that an argument gives, counted from zero. -/
def month? (argument : Argument) : Option Nat := argument.text?.bind fun name => placeOf? name monthNames

def year? (argument : Argument) : Option Int := argument.int?.filter fun n => lastDay < n

end Argument

/-- The days, the months and the years that a list of arguments gives, each in their order. -/
structure Given (arguments : List Argument) (days : List Int) (months : List Nat) (years : List Int) :
    Prop where
  day : arguments.filterMap Argument.day? = days
  month : arguments.filterMap Argument.month? = months
  year : arguments.filterMap Argument.year? = years

theorem lt_of_placeOf? {name : String} {names : List String} {place : Nat}
    (h : placeOf? name names = some place) : place < names.length :=
  (List.findIdx?_eq_some_iff_getElem.mp h).1

section Fields

variable {arguments : List Argument} {days : List Int} {months : List Nat} {years : List Int}

theorem Given.lt_of_mem_month {month : Nat} (h : Given arguments days months years)
    (hmem : month ∈ months) : month < 12 := by
  rw [← h.month, List.mem_filterMap] at hmem
  obtain ⟨argument, -, hmonth⟩ := hmem
  obtain ⟨name, -, hplace⟩ := Option.bind_eq_some_iff.mp hmonth
  exact lt_of_placeOf? hplace

/-- One argument adds what it gives, and asks for universal time if it does. -/
theorem DateFields.add_eq (fields : DateFields) (argument : Argument) : fields.add argument =
    { day := argument.day?.toList.foldl Slots.add fields.day
      month := (argument.month?.toList.map (↑)).foldl Slots.add fields.month
      year := argument.year?.toList.foldl Slots.add fields.year
      gmt := fields.gmt || argument.isGmt } := by
  cases argument with
  | number x =>
      cases hint : (Argument.number x).int? with
      | none => simp [add, Argument.day?, Argument.month?, Argument.year?, Argument.text?, hint]
      | some n =>
          by_cases hday : n ≤ lastDay
          · have hnot : ¬ lastDay < n := Int.not_lt.mpr hday
            simp [add, Argument.day?, Argument.month?, Argument.year?, Argument.text?, Option.filter, hint,
              hday, hnot]
          · have hyear : lastDay < n := Int.not_le.mp hday
            simp [add, Argument.day?, Argument.month?, Argument.year?, Argument.text?, Option.filter, hint,
              hday, hyear]
  | text s =>
      cases hmonth : placeOf? s monthNames <;>
        simp [add, Argument.day?, Argument.month?, Argument.year?, Argument.text?, Argument.int?, hmonth]
  | missing => simp [add, Argument.day?, Argument.month?, Argument.year?, Argument.text?, Argument.int?]

/-- Arguments of different kinds do not get in each other's way. -/
theorem DateFields.ofArguments_eq (h : Given arguments days months years) : ofArguments arguments =
    { day := days.foldl Slots.add {}
      month := (months.map (↑)).foldl Slots.add {}
      year := years.foldl Slots.add {}
      gmt := arguments.any Argument.isGmt } := by
  obtain ⟨rfl, rfl, rfl⟩ := h
  suffices hall : ∀ fields : DateFields, arguments.foldl DateFields.add fields =
      { day := (arguments.filterMap Argument.day?).foldl Slots.add fields.day
        month := ((arguments.filterMap Argument.month?).map (↑)).foldl Slots.add fields.month
        year := (arguments.filterMap Argument.year?).foldl Slots.add fields.year
        gmt := fields.gmt || arguments.any Argument.isGmt } from hall {}
  induction arguments with
  | nil => simp
  | cons argument arguments ih =>
      intro fields
      rw [List.foldl_cons, ih, DateFields.add_eq]
      cases hday : argument.day? <;> cases hmonth : argument.month? <;> cases hyear : argument.year? <;>
        simp [hday, hmonth, hyear, Bool.or_assoc]

end Fields

end AutoProxy.Predicate

/-! ## Ends -/

namespace AutoProxy

open Calendar

/-! ### Moments of one time of day -/

namespace Calendar.Moment

/-- The same time of day on another date. -/
def on (m : Moment) (date : Date) : Moment := { m with date := date }

@[simp] theorem on_lt_on (m : Moment) (date date' : Date) : (m.on date).lt (m.on date') = date.lt date' := by
  simp [lt, on]

end Calendar.Moment

namespace Predicate

/-- The date with which a range of dates is compared: that of universal time if an argument asks for it,
or else the one that the clock's zone shows. -/
def today (now : Instant) (arguments : List Argument) : Date :=
  (present now (arguments.any Argument.isGmt)).date

def noon (date : Date) : Instant := ⟨⟨date, 43200, 0⟩, 0⟩

/-- Whether the range that the fields make at a moment holds that moment. -/
def inRange (m : Moment) (day month year : Slots) : Bool :=
  let range : Option (Moment × Moment) := do
    let start ← withFields? m day.first month.first year.first
    let finish ← withFields? start day.last month.last year.last
    return (start, ← rollForward? start finish)
  match range with
  | some (start, finish) => start.le m && m.le finish
  | none => false

theorem dateRange_eq {now : Instant} {arguments : List Argument} {days : List Int} {months : List Nat}
    {years : List Int} (h : Given arguments days months years) : dateRange now arguments =
      inRange (present now (arguments.any Argument.isGmt)) (days.foldl Slots.add {})
        ((months.map (↑)).foldl Slots.add {}) (years.foldl Slots.add {}) := by
  have hfields := DateFields.ofArguments_eq h
  have hrange : dateRange now arguments =
    inRange (present now (DateFields.ofArguments arguments).gmt) (DateFields.ofArguments arguments).day
      (DateFields.ofArguments arguments).month (DateFields.ofArguments arguments).year := rfl
  rw [hrange, hfields]

/-! ### The ends of a range -/

section Ends

variable {m : Moment} {start finish next : Date}

theorem rollForward?_of_not_lt (h : finish.lt start = false) :
    rollForward? (m.on start) (m.on finish) = some (m.on finish) := by
  simp [rollForward?, h]

theorem addMonths?_on (date : Date) (months : Int) :
    addMonths? (m.on date) months = (date.addMonths? months).map m.on := rfl

/-- An end that precedes the start moves on by a month. -/
theorem rollForward?_of_lt (h : finish.lt start = true) (hnext : finish.addMonths? 1 = some next)
    (hnot : next.lt start = false) : rollForward? (m.on start) (m.on finish) = some (m.on next) := by
  simp [rollForward?, addMonths?_on, h, hnext, hnot]

theorem rollForward?_of_none (h : finish.lt start = true) (hnext : finish.addMonths? 1 = none) :
    rollForward? (m.on start) (m.on finish) = none := by
  simp [rollForward?, addMonths?_on, h, hnext]

theorem rollForward?_of_lt_lt (h : finish.lt start = true) (hnext : finish.addMonths? 1 = some next)
    (hlt : next.lt start = true) : rollForward? (m.on start) (m.on finish) =
      ((next.addMonths? 12).bind fun later => later.addMonths? (-1)).map m.on := by
  simp only [rollForward?, addMonths?_on, Moment.on_lt_on, h, if_true, hnext, Option.map_some, hlt,
    Option.bind_eq_bind, Option.bind_some]
  cases next.addMonths? 12 <;> rfl

variable {day month year : Slots}

/-- The days on which a range begins and, before it moves on, ends. -/
structure Ends (m : Moment) (day month year : Slots) (start finish : Date) : Prop where
  begins : withFields? m day.first month.first year.first = some (m.on start)
  ends : withFields? (m.on start) day.last month.last year.last = some (m.on finish)

/-- A range that begins after the day of the moment does not hold it, wherever it ends. -/
theorem inRange_eq_false_of_lt (h : Ends m day month year start finish) (hlt : m.date.lt start = true) :
    inRange m day month year = false := by
  have hle : (m.on start).le m = false := by
    have hself : (m.on m.date).lt (m.on start) = true := by rw [Moment.on_lt_on, hlt]
    rw [Moment.le, Bool.not_eq_false']
    exact hself
  simp only [inRange, h.begins, h.ends, Option.bind_eq_bind, Option.bind_some]
  cases hroll : rollForward? (m.on start) (m.on finish) <;> simp [hle]

/-- The time of day does not count: a range holds a moment if its day is neither before the first day of
the range nor after the last one, and if the calendar has that last one. -/
theorem inRange_iff (h : Ends m day month year start finish) {last : Option Date}
    (hroll : rollForward? (m.on start) (m.on finish) = last.map m.on) :
    inRange m day month year = true ↔
      m.date.lt start = false ∧ ∃ date, last = some date ∧ date.lt m.date = false := by
  have hle (date date' : Date) : (m.on date).le (m.on date') = !date'.lt date := by
    rw [Moment.le, Moment.on_lt_on]
  have hstartLe : (m.on start).le m = !m.date.lt start := hle start m.date
  simp only [inRange, h.begins, h.ends, hroll, Option.bind_eq_bind, Option.bind_some]
  cases last with
  | none => simp
  | some date =>
      have hlastLe : m.le (m.on date) = !date.lt m.date := hle m.date date
      simp [hstartLe, hlastLe]

/-- A range whose end does not precede its start is what lies between the two. -/
theorem inRange_iff_of_not_lt (h : Ends m day month year start finish) (hnot : finish.lt start = false) :
    inRange m day month year = true ↔ m.date.lt start = false ∧ finish.lt m.date = false := by
  have hroll : rollForward? (m.on start) (m.on finish) = (some finish).map m.on :=
    rollForward?_of_not_lt hnot
  rw [inRange_iff h hroll]
  simp

/-- A range whose end no longer precedes its start when it has moved on by a month is what lies between
the start and there. -/
theorem inRange_iff_of_lt (h : Ends m day month year start finish) (hlt : finish.lt start = true)
    (hnext : finish.addMonths? 1 = some next) (hnot : next.lt start = false) :
    inRange m day month year = true ↔ m.date.lt start = false ∧ next.lt m.date = false := by
  have hroll : rollForward? (m.on start) (m.on finish) = (some next).map m.on :=
    rollForward?_of_lt hlt hnext hnot
  rw [inRange_iff h hroll]
  simp

/-- A range whose end would have to move on behind the last month of the calendar is empty. -/
theorem inRange_eq_false_of_none (h : Ends m day month year start finish) (hlt : finish.lt start = true)
    (hnext : finish.addMonths? 1 = none) : inRange m day month year = false := by
  have hroll : rollForward? (m.on start) (m.on finish) = Option.map m.on none :=
    rollForward?_of_none hlt hnext
  rw [← Bool.not_eq_true, inRange_iff h hroll]
  simp

/-- A range whose end precedes its start also when it has moved on by a month ends in the next year. So
it holds the whole rest of this one, unless the calendar is over by then. -/
theorem inRange_iff_of_lt_lt (h : Ends m day month year start finish) (hvalid : finish.isValid = true)
    (hyear : finish.year = m.date.year) (hmonth : finish.month < 12) (hlt : finish.lt start = true)
    (hnext : (⟨finish.year, finish.month + 1,
      min finish.day (Date.daysInMonth finish.year (finish.month + 1))⟩ : Date).lt start = true) :
    inRange m day month year = true ↔ m.date.lt start = false ∧ m.date.year < Date.maxYear := by
  obtain ⟨hlimits, hproper⟩ := Date.isValid_iff.mp hvalid
  have hpositive := hproper.month.1
  have hday := hproper.day.1
  have hmove := Date.addMonths?_eq_some hvalid 1 finish.year (finish.month + 1) (by omega) hlimits (by omega)
  have hnextValid := Date.isValid_of_addMonths? hmove
  have hroll := rollForward?_of_lt_lt (m := m) hlt hmove hnext
  rcases Int.lt_or_eq_of_le hlimits.2 with hless | hlastYear
  · have hlater := Date.addMonths?_eq_some hnextValid 12 (finish.year + 1) (finish.month + 1)
      (by dsimp only; omega) (by omega) (by omega)
    have hback := Date.addMonths?_eq_some (Date.isValid_of_addMonths? hlater) (-1) (finish.year + 1)
      finish.month (by dsimp only; omega) (by omega) (by omega)
    rw [hlater, Option.bind_some, hback] at hroll
    rw [inRange_iff h hroll]
    simp only [Option.some.injEq, exists_eq_left', Date.lt_eq_false_iff]
    omega
  · have hlater : (⟨finish.year, finish.month + 1,
        min finish.day (Date.daysInMonth finish.year (finish.month + 1))⟩ : Date).addMonths? 12 = none :=
      Date.addMonths?_eq_none (by dsimp only; omega)
    rw [hlater, Option.bind_none] at hroll
    rw [inRange_iff h hroll]
    have hnot : ¬ m.date.year < Date.maxYear := by omega
    simp [hnot]

end Ends

/-! ### Fields within the calendar -/

section Fields

variable {m : Moment} {start : Date}

/-- Fields within the calendar name a day, or a day of the next month where the month is over by then. -/
theorem withFields?_eq_some {day month year : Option Int} {y : Int} {mo n : Nat}
    (hyear : year.getD m.date.year = y) (hmonth : month.getD ((m.date.month : Int) - 1) = (mo : Int) - 1)
    (hday : day.getD m.date.day = n) (hy : Date.minYear ≤ y ∧ y ≤ Date.maxYear)
    (hmo : 1 ≤ mo ∧ mo ≤ 12) (hn : 1 ≤ n ∧ n ≤ 31) :
    withFields? m day month year = some (m.on (Date.ofDayOfMonth y mo n)) := by
  have hfirst : Date.ofFields? y mo 1 = some ⟨y, mo, 1⟩ := by
    have hlength := Date.daysInMonth_bounds y mo
    have hvalid : (⟨y, mo, 1⟩ : Date).isValid = true :=
      Date.isValid_iff.mpr ⟨hy, hmo, Nat.le_refl 1, by simp only; omega⟩
    rw [Date.ofFields?, if_pos hvalid]
  have hdelta : Delta.ofUnits? Moment.secondsPerDay ((n : Int) - 1) =
      some ⟨((n : Int) - 1) * Moment.secondsPerDay, 0⟩ := by
    rw [Delta.ofUnits?, Delta.ofSeconds?, if_pos]
    simp only [Delta.maxSeconds, Moment.secondsPerDay]
    omega
  have hyears : y + ((mo : Int) - 1) / 12 = y := by omega
  have hmonths : (((mo : Int) - 1) % 12).toNat + 1 = mo := by omega
  have hdays : ((n : Int) - 1) * Moment.secondsPerDay / Moment.secondsPerDay = (n : Int) - 1 :=
    Int.mul_ediv_cancel _ (by decide)
  simp only [withFields?, hyear, hmonth, hday, hyears, hmonths, hfirst, hdelta, hdays, Option.bind_eq_bind,
    Option.bind_some, Date.addDays?_firstOfMonth hy hmo hn]
  rfl

theorem ends_of_days (hm : m.date.isValid = true) {first last : Nat} (hfirst : 1 ≤ first ∧ first ≤ 31)
    (hlast : 1 ≤ last ∧ last ≤ 31) (hstart : Date.ofDayOfMonth m.date.year m.date.month first = start) :
    Ends m ⟨some first, some last⟩ {} {} start (Date.ofDayOfMonth start.year start.month last) := by
  obtain ⟨hyear, hmonth, -⟩ := Date.isValid_iff.mp hm
  have hvalid := Date.isValid_ofDayOfMonth hyear hmonth hfirst
  rw [hstart] at hvalid
  obtain ⟨hyear', hmonth', -⟩ := Date.isValid_iff.mp hvalid
  refine ⟨?_, withFields?_eq_some rfl rfl rfl hyear' hmonth' hlast⟩
  rw [← hstart]
  exact withFields?_eq_some rfl rfl rfl hyear hmonth hfirst

theorem ends_of_months (hm : m.date.isValid = true) {first last : Nat} (hfirst : first < 12)
    (hlast : last < 12) (hstart : Date.ofDayOfMonth m.date.year (first + 1) m.date.day = start) :
    Ends m {} ⟨some first, some last⟩ {} start (Date.ofDayOfMonth start.year (last + 1) start.day) := by
  obtain ⟨hyear, hproper⟩ := Date.isValid_iff.mp hm
  have hday := hproper.day_bounds
  have hvalid : (Date.ofDayOfMonth m.date.year (first + 1) m.date.day).isValid = true :=
    Date.isValid_ofDayOfMonth hyear (by omega) hday
  rw [hstart] at hvalid
  obtain ⟨hyear', hstartProper⟩ := Date.isValid_iff.mp hvalid
  refine ⟨?_, withFields?_eq_some rfl (by simp) rfl hyear' (by omega) hstartProper.day_bounds⟩
  rw [← hstart]
  exact withFields?_eq_some rfl (by simp) rfl hyear (by omega) hday

/-- On a day that the first month has, the range begins on that day of it. -/
theorem ends_of_months_of_le (hm : m.date.isValid = true) {first last : Nat} (hfirst : first < 12)
    (hlast : last < 12) (hin : m.date.day ≤ Date.daysInMonth m.date.year (first + 1)) :
    Ends m {} ⟨some first, some last⟩ {} ⟨m.date.year, first + 1, m.date.day⟩
      (Date.ofDayOfMonth m.date.year (last + 1) m.date.day) :=
  ends_of_months hm hfirst hlast (Date.ofDayOfMonth_of_le hin)

/-- On a day that the first month does not have, the range begins early in the month after it, and this
early day is the one that is looked for in the last month. -/
theorem ends_of_months_of_lt (hm : m.date.isValid = true) {first last day : Nat} (hfirst : first < 12)
    (hlast : last < 12) (hday : m.date.day = Date.daysInMonth m.date.year (first + 1) + day)
    (hpos : 1 ≤ day) :
    Ends m {} ⟨some first, some last⟩ {} ⟨m.date.year, first + 1 + 1, day⟩
      ⟨m.date.year, last + 1, day⟩ := by
  have hbounds := (Date.isProper_of_isValid hm).day_bounds
  have hlength := Date.daysInMonth_bounds m.date.year (first + 1)
  have hnext := Date.daysInMonth_bounds m.date.year (last + 1)
  have hover : Date.daysInMonth m.date.year (first + 1) < m.date.day := by omega
  have hstart := Date.ofDayOfMonth_of_lt hover
  rw [hday, Nat.add_sub_cancel_left, ← hday] at hstart
  have hends := ends_of_months hm hfirst hlast hstart
  rw [Date.ofDayOfMonth_of_le (by dsimp only; omega)] at hends
  exact hends

theorem ends_of_years (hm : m.date.isValid = true) {first last : Int}
    (hfirst : Date.minYear ≤ first ∧ first ≤ Date.maxYear)
    (hlast : Date.minYear ≤ last ∧ last ≤ Date.maxYear)
    (hstart : Date.ofDayOfMonth first m.date.month m.date.day = start) :
    Ends m {} {} ⟨some first, some last⟩ start (Date.ofDayOfMonth last start.month start.day) := by
  have hproper := Date.isProper_of_isValid hm
  have hvalid := Date.isValid_ofDayOfMonth hfirst hproper.month hproper.day_bounds
  rw [hstart] at hvalid
  have hstartProper := Date.isProper_of_isValid hvalid
  refine ⟨?_, withFields?_eq_some rfl rfl rfl hlast hstartProper.month hstartProper.day_bounds⟩
  rw [← hstart]
  exact withFields?_eq_some rfl rfl rfl hfirst hproper.month hproper.day_bounds

theorem ends_of_dates {first last : Date} (hfirst : first.isValid = true) (hlast : last.isValid = true) :
    Ends m ⟨some first.day, some last.day⟩
      ⟨some (first.month - 1 : Nat), some (last.month - 1 : Nat)⟩
      ⟨some first.year, some last.year⟩ first last := by
  obtain ⟨hyear, hproper⟩ := Date.isValid_iff.mp hfirst
  obtain ⟨hyear', hproper'⟩ := Date.isValid_iff.mp hlast
  have hstart : withFields? m (some first.day) (some (first.month - 1 : Nat)) (some first.year) =
      some (m.on (Date.ofDayOfMonth first.year first.month first.day)) :=
    withFields?_eq_some rfl (Int.ofNat_sub hproper.month.1) rfl hyear hproper.month hproper.day_bounds
  have hfinish : withFields? (m.on first) (some last.day) (some (last.month - 1 : Nat)) (some last.year) =
      some (m.on (Date.ofDayOfMonth last.year last.month last.day)) :=
    withFields?_eq_some rfl (Int.ofNat_sub hproper'.month.1) rfl hyear' hproper'.month hproper'.day_bounds
  rw [Date.ofDayOfMonth_of_le hproper.day.2] at hstart
  rw [Date.ofDayOfMonth_of_le hproper'.day.2] at hfinish
  exact ⟨hstart, hfinish⟩

end Fields

end Predicate

end AutoProxy
