import AutoProxy.Proofs.Calendar.Limits
import AutoProxy.Proofs.Predicate.DateRange
import AutoProxy.Proofs.Predicate.TimeRange
import AutoProxy.Proofs.Words
import AutoProxy.Script.Question

/-!
The calendar predicates in words of 64 bits. A script may pass any numbers, and those that no word holds come
in as the least or the greatest of all words. Products are checked, and so is what lies outside the calendar:
there an operation is refused, and then a range of dates holds nothing and a range of times is an error. Sums
are not checked. They are exact all the same (`timeOfDayInWords_eq`), but for one: from the least word no day
can be taken away (`TakesDayFromLeast`, `withWords_eq`). Where sums wrap around, such a range of dates holds
nothing either, and where they may not, the evaluation breaks down. It does so too on a clock that shows no date
in its zone, whatever the arguments are, and for no other reason (`endsAs_inWords`).
-/

namespace AutoProxy

open Calendar

namespace Predicate

open Number Words

/-! ### Arguments -/

/-- The integer part of an argument is held by a word, whatever the argument. -/
theorem isWord_of_int? {argument : Argument} {n : Int} (h : argument.int? = some n) : IsWord n := by
  cases argument with
  | number x =>
      obtain ⟨whole, -, rfl⟩ := Option.map_eq_some_iff.mp h
      exact isWord_clamp64 whole
  | text s => cases h
  | missing => cases h

/-- Both values of a kind have a property, where they are given. -/
structure Slots.All (P : Int → Prop) (s : Slots) : Prop where
  first : ∀ n, s.first = some n → P n
  last : ∀ n, s.last = some n → P n

theorem Slots.All.add {P : Int → Prop} {s : Slots} (h : s.All P) {n : Int} (hn : P n) : (s.add n).All P := by
  obtain ⟨hfirst, hlast⟩ := h
  cases hs : s.first with
  | none => exact ⟨by simpa [Slots.add, hs] using hn, by simpa [Slots.add, hs] using hlast⟩
  | some m => exact ⟨by simpa [Slots.add, hs] using hfirst m hs, by simpa [Slots.add, hs] using hn⟩

theorem Slots.all_foldl {P : Int → Prop} {values : List Int} (h : ∀ n ∈ values, P n) :
    (values.foldl Slots.add {}).All P := by
  suffices hall : ∀ s : Slots, s.All P → (values.foldl Slots.add s).All P from
    hall {} ⟨by simp, by simp⟩
  induction values with
  | nil => exact fun s hs => hs
  | cons n values ih =>
      intro s hs
      exact ih (fun m hm => h m (List.mem_cons_of_mem n hm)) (s.add n) (hs.add (h n List.mem_cons_self))

/-! ### Dates -/

/-- The first day of the month that the fields name; a field that is not given is that of the date. -/
def monthStart? (date : Date) (month year : Option Int) : Option Date :=
  let month := month.getD ((date.month : Int) - 1)
  Date.ofFields? (year.getD date.year + month / 12) ((month % 12).toNat + 1) 1

/-- The moment with the given fields in place of its own, in words. -/
def withWords (o : Overflow) (base : Moment) (day month year : Option Int) : Except Stop Moment := do
  let month := month.getD ((base.date.month : Int) - 1)
  let year ← o.settle (year.getD base.date.year + month / 12)
  let firstOfMonth ← checked (Date.ofFields? year ((month % 12).toNat + 1) 1)
  let days ← o.settle (day.getD base.date.day - 1)
  let delta ← units Moment.secondsPerDay days
  let date ← checked (firstOfMonth.addDays? (delta.seconds / Moment.secondsPerDay))
  return { base with date := date }

/-- The two ends of a range of dates, in words. -/
def endsInWords (o : Overflow) (current : Moment) (fields : DateFields) : Except Stop (Moment × Moment) := do
  let start ← withWords o current fields.day.first fields.month.first fields.year.first
  let finish ← withWords o start fields.day.last fields.month.last fields.year.last
  let later ← checked (rollForward? start finish)
  return (start, later)

/-- A day is to be taken away from the least word, on the way to a month that the calendar has. -/
def TakesDayFromLeast (date : Date) (day month year : Option Int) : Prop :=
  day = some (-(signedLimit : Int)) ∧ (monthStart? date month year).isSome = true

/-- One of the two ends of a range takes a day away from the least word. -/
def DateFields.TakesFromLeast (fields : DateFields) (current : Moment) : Prop :=
  TakesDayFromLeast current.date fields.day.first fields.month.first fields.year.first ∨
    ∃ start, withFields? current fields.day.first fields.month.first fields.year.first = some start ∧
      TakesDayFromLeast start.date fields.day.last fields.month.last fields.year.last

/-- The fields name this date: as many days behind the first one of the month as the day says. -/
def Names (date : Date) (day month year : Option Int) (named : Date) : Prop :=
  ∃ first, monthStart? date month year = some first ∧ named.isValid = true ∧
    named.dayNumber = first.dayNumber + (day.getD date.day - 1)

/-- Both ends of a range of dates are dates of the calendar. -/
def DateFields.HasEnds (fields : DateFields) (date : Date) : Prop :=
  ∃ start finish, Names date fields.day.first fields.month.first fields.year.first start ∧
    Names start fields.day.last fields.month.last fields.year.last finish

/-- Words hold the day and the year, and the month is one of a year. -/
structure HeldByWords (day month year : Option Int) : Prop where
  day : ∀ n, day = some n → IsWord n
  month : ∀ n, month = some n → 0 ≤ n ∧ n < 12
  year : ∀ n, year = some n → IsWord n

/-- Words hold what the fields of a range of dates say. -/
structure DateFields.InWords (fields : DateFields) : Prop where
  first : HeldByWords fields.day.first fields.month.first fields.year.first
  last : HeldByWords fields.day.last fields.month.last fields.year.last

section Dates

variable {o : Overflow} {base : Moment} {day month year : Option Int}

theorem withFields?_eq : withFields? base day month year =
    (monthStart? base.date month year).bind fun first =>
      (Delta.ofUnits? Moment.secondsPerDay (day.getD base.date.day - 1)).bind fun delta =>
        (first.addDays? (delta.seconds / Moment.secondsPerDay)).bind fun date =>
          some { base with date := date } := rfl

theorem isValid_of_monthStart? {date first : Date} (h : monthStart? date month year = some first) :
    first.isValid = true := by
  obtain ⟨hvalid, hfirst⟩ := Option.ite_none_right_eq_some.mp h
  cases hfirst
  exact hvalid

/-- A date that is some days behind the first of a month. -/
theorem bind_addDays?_eq_some_iff {first : Date} (hfirst : first.isValid = true) {days : Int} {r : Moment} :
    ((Delta.ofUnits? Moment.secondsPerDay days).bind fun delta =>
        (first.addDays? (delta.seconds / Moment.secondsPerDay)).bind fun date =>
          some { base with date := date }) = some r ↔
      ∃ date, (date.isValid = true ∧ date.dayNumber = first.dayNumber + days) ∧
        r = { base with date := date } := by
  have hback : days * Moment.secondsPerDay / Moment.secondsPerDay = days :=
    Int.mul_ediv_cancel days (by decide)
  constructor
  · intro h
    obtain ⟨delta, hdelta, h⟩ := Option.bind_eq_some_iff.mp h
    obtain ⟨-, rfl⟩ := Delta.ofSeconds?_eq_some_iff.mp hdelta
    obtain ⟨date, hadd, h⟩ := Option.bind_eq_some_iff.mp h
    rw [hback] at hadd
    exact ⟨date, ⟨Date.isValid_addDays? hadd, Date.dayNumber_addDays? hadd⟩, (Option.some.inj h).symm⟩
  · rintro ⟨date, ⟨hvalid, hnumber⟩, rfl⟩
    -- both days lie in the calendar, so that they are not too far from each other
    have hshort : Delta.IsLength (days * Moment.secondsPerDay) := by
      have hdays := Date.dayNumber_sub_bounds hfirst hvalid
      simp only [Delta.IsLength, Delta.maxSeconds, Moment.secondsPerDay]
      omega
    have hdelta : Delta.ofUnits? Moment.secondsPerDay days = some ⟨days * Moment.secondsPerDay, 0⟩ :=
      Delta.ofSeconds?_eq_some_iff.mpr ⟨hshort, rfl⟩
    rw [hdelta, Option.bind_some, hback, Date.addDays?_eq_some hvalid hnumber.symm, Option.bind_some]

/-- The fields take the place of those of a moment if they name a date. -/
theorem withFields?_eq_some_iff {r : Moment} :
    withFields? base day month year = some r ↔
      ∃ date, Names base.date day month year date ∧ r = { base with date := date } := by
  rw [withFields?_eq, Option.bind_eq_some_iff]
  constructor
  · rintro ⟨first, hfirst, h⟩
    obtain ⟨date, hdate, rfl⟩ := (bind_addDays?_eq_some_iff (isValid_of_monthStart? hfirst)).mp h
    exact ⟨date, ⟨first, hfirst, hdate⟩, rfl⟩
  · rintro ⟨date, ⟨first, hfirst, hdate⟩, rfl⟩
    refine ⟨first, hfirst, ?_⟩
    exact (bind_addDays?_eq_some_iff (isValid_of_monthStart? hfirst)).mpr ⟨date, hdate, rfl⟩

/-- A year and what the months carry over to it are added exactly. -/
theorem isWord_year (hdate : base.date.isValid = true) (hheld : HeldByWords day month year) :
    IsWord (year.getD base.date.year + month.getD ((base.date.month : Int) - 1) / 12) := by
  obtain ⟨⟨hfirst, hlast⟩, hproper⟩ := Date.isValid_iff.mp hdate
  have hmonth : 0 ≤ month.getD ((base.date.month : Int) - 1) ∧
      month.getD ((base.date.month : Int) - 1) < 12 := by
    cases hgiven : month with
    | none =>
        have hown := hproper.month
        simp only [Option.getD_none]
        omega
    | some n => exact hheld.month n hgiven
  rw [Int.ediv_eq_zero_of_lt hmonth.1 hmonth.2, Int.add_zero]
  cases hgiven : year with
  | none =>
      simp only [Option.getD_none, IsWord, signedLimit]
      simp only [Date.minYear, Date.maxYear] at hfirst hlast
      omega
  | some n => exact hheld.year n hgiven

/-- So it is only with the days that something can go wrong. -/
theorem withWords_eq_settle (hdate : base.date.isValid = true) (hheld : HeldByWords day month year) :
    withWords o base day month year =
      (checked (monthStart? base.date month year) >>= fun first =>
        o.settle (day.getD base.date.day - 1) >>= fun days =>
          checked ((Delta.ofUnits? Moment.secondsPerDay days).bind fun delta =>
            (first.addDays? (delta.seconds / Moment.secondsPerDay)).bind fun date =>
              some { base with date := date })) := by
  have hsettle := settle_of_isWord (o := o) (isWord_year hdate hheld)
  simp only [withWords, hsettle, ok_bind, monthStart?, units_eq, ← checked_bind]
  rfl

/-- From all words but the least one a day can be taken away. -/
theorem eq_least_of_not_isWord (hdate : base.date.isValid = true) (hheld : HeldByWords day month year)
    (hword : ¬ IsWord (day.getD base.date.day - 1)) : day = some (-(signedLimit : Int)) := by
  have hown := (Date.isProper_of_isValid hdate).day_bounds
  cases hgiven : day with
  | none =>
      simp only [hgiven, Option.getD_none, IsWord, signedLimit] at hword
      omega
  | some n =>
      have hn := hheld.day n hgiven
      simp only [hgiven, Option.getD_some, IsWord, signedLimit] at hword hn
      simp only [signedLimit, Option.some.injEq]
      omega

/-- The calendar has neither the day before the least word nor what stands for it when sums wrap around. -/
theorem ofUnits?_beyond_least :
    Delta.ofUnits? Moment.secondsPerDay (-(signedLimit : Int) - 1) = none ∧
      Delta.ofUnits? Moment.secondsPerDay (wrapped (-(signedLimit : Int) - 1)) = none := by decide

theorem withWords_of_takesDayFromLeast (hdate : base.date.isValid = true) (hheld : HeldByWords day month year)
    (h : TakesDayFromLeast base.date day month year) :
    withWords .breaksDown base day month year = .error .overflow := by
  obtain ⟨rfl, hstart⟩ := h
  obtain ⟨first, hfirst⟩ := Option.isSome_iff_exists.mp hstart
  have hsettle : Overflow.breaksDown.settle (-(signedLimit : Int) - 1) = .error .overflow := by decide
  rw [withWords_eq_settle hdate hheld, hfirst, checked_some, ok_bind, Option.getD_some, hsettle, error_bind]

/-- If no day is taken away from the least word, or if sums wrap around, then the outcome in words is the exact
one. -/
theorem withWords_eq (hdate : base.date.isValid = true) (hheld : HeldByWords day month year)
    (h : ¬ (o = .breaksDown ∧ TakesDayFromLeast base.date day month year)) :
    withWords o base day month year = checked (withFields? base day month year) := by
  rw [withWords_eq_settle hdate hheld, withFields?_eq]
  cases hfirst : monthStart? base.date month year with
  | none => rfl
  | some first =>
      rw [checked_some, ok_bind, Option.bind_some]
      by_cases hword : IsWord (day.getD base.date.day - 1)
      · rw [settle_of_isWord hword, ok_bind]
      · obtain rfl := eq_least_of_not_isWord hdate hheld hword
        have hwraps : o = .wraps := by
          cases o with
          | breaksDown => exact absurd ⟨rfl, rfl, by rw [hfirst]; rfl⟩ h
          | wraps => rfl
        have hsettle : o.settle (-(signedLimit : Int) - 1) = .ok (wrapped (-(signedLimit : Int) - 1)) := by
          rw [hwraps]
          decide
        rw [Option.getD_some, hsettle, ok_bind, ofUnits?_beyond_least.1, ofUnits?_beyond_least.2]

end Dates

/-! ### Ranges of dates -/

section DateRanges

variable {o : Overflow} {current : Moment} {fields : DateFields}

/-- What a list of arguments says fits into words. -/
theorem DateFields.inWords_ofArguments (arguments : List Argument) : (ofArguments arguments).InWords := by
  rw [ofArguments_eq ⟨rfl, rfl, rfl⟩]
  have hday : ((arguments.filterMap Argument.day?).foldl Slots.add {}).All IsWord := by
    refine Slots.all_foldl fun n hn => ?_
    obtain ⟨argument, -, hday⟩ := List.mem_filterMap.mp hn
    exact isWord_of_int? (Option.eq_some_of_filter_eq_some hday)
  have hmonth : (((arguments.filterMap Argument.month?).map (↑)).foldl Slots.add {}).All
      fun n => 0 ≤ n ∧ n < 12 := by
    refine Slots.all_foldl fun n hn => ?_
    obtain ⟨month, hmem, rfl⟩ := List.mem_map.mp hn
    have hlt := Given.lt_of_mem_month ⟨rfl, rfl, rfl⟩ hmem
    exact ⟨Int.natCast_nonneg _, Int.ofNat_lt.mpr hlt⟩
  have hyear : ((arguments.filterMap Argument.year?).foldl Slots.add {}).All IsWord := by
    refine Slots.all_foldl fun n hn => ?_
    obtain ⟨argument, -, hyear⟩ := List.mem_filterMap.mp hn
    exact isWord_of_int? (Option.eq_some_of_filter_eq_some hyear)
  exact ⟨⟨hday.first, hmonth.first, hyear.first⟩, ⟨hday.last, hmonth.last, hyear.last⟩⟩

/-- Whether a moment lies between two ends. -/
def holds (current : Moment) (ends : Moment × Moment) : Bool := ends.1.le current && current.le ends.2

def ends? (current : Moment) (fields : DateFields) : Option (Moment × Moment) := do
  let start ← withFields? current fields.day.first fields.month.first fields.year.first
  let finish ← withFields? start fields.day.last fields.month.last fields.year.last
  let later ← rollForward? start finish
  return (start, later)

theorem dateRange_eq_ends? {now : Instant} {arguments : List Argument} :
    dateRange now arguments =
      ((ends? (present now (DateFields.ofArguments arguments).gmt) (DateFields.ofArguments arguments)).map
        (holds (present now (DateFields.ofArguments arguments).gmt))).getD false := by
  simp only [dateRange, ends?]
  split
  · next start finish hends =>
    rw [hends]
    rfl
  · next hends =>
    rw [hends]
    rfl

theorem isValid_of_withFields? {base start : Moment} {day month year : Option Int}
    (h : withFields? base day month year = some start) : start.date.isValid = true := by
  obtain ⟨date, ⟨-, -, hvalid, -⟩, rfl⟩ := withFields?_eq_some_iff.mp h
  exact hvalid

theorem endsInWords_of_takesFromLeast (hdate : current.date.isValid = true) (hfields : fields.InWords)
    (h : fields.TakesFromLeast current) : endsInWords .breaksDown current fields = .error .overflow := by
  by_cases hfirst : TakesDayFromLeast current.date fields.day.first fields.month.first fields.year.first
  · rw [endsInWords, withWords_of_takesDayFromLeast hdate hfields.first hfirst, error_bind]
  · obtain ⟨start, hstart, hlast⟩ := h.resolve_left hfirst
    have hexact : withWords .breaksDown current fields.day.first fields.month.first fields.year.first =
        .ok start := by
      rw [withWords_eq hdate hfields.first (fun hbad => hfirst hbad.2), hstart, checked_some]
    rw [endsInWords, hexact, ok_bind,
      withWords_of_takesDayFromLeast (isValid_of_withFields? hstart) hfields.last hlast, error_bind]

theorem endsInWords_eq (hdate : current.date.isValid = true) (hfields : fields.InWords)
    (h : ¬ (o = .breaksDown ∧ fields.TakesFromLeast current)) :
    endsInWords o current fields = checked (ends? current fields) := by
  have hfirst := withWords_eq (o := o) hdate hfields.first fun hbad => h ⟨hbad.1, .inl hbad.2⟩
  rw [endsInWords, hfirst, ends?]
  cases hstart : withFields? current fields.day.first fields.month.first fields.year.first with
  | none => rfl
  | some start =>
      have hlast := withWords_eq (o := o) (isValid_of_withFields? hstart) hfields.last
        fun hbad => h ⟨hbad.1, .inr ⟨start, hstart, hbad.2⟩⟩
      simp only [checked_some, ok_bind, Option.bind_eq_bind, Option.bind_some, hlast]
      cases withFields? start fields.day.last fields.month.last fields.year.last with
      | none => rfl
      | some finish => cases hlater : rollForward? start finish <;> simp [hlater]

end DateRanges

/-! ### Times of day -/

/-- The moment so many hours, minutes and seconds after the midnight that starts a day, in words. -/
def timeOfDayInWords (o : Overflow) (date : Date) (t : TimeFields) : Except Stop Moment := do
  let hours ← units 3600 t.hour
  let minutes ← units 60 t.minute
  let upToMinutes ← sum o hours minutes
  let seconds ← checked (Delta.ofSeconds? t.second)
  let offset ← sum o upToMinutes seconds
  checked ((Moment.midnight date).add? offset)

/-- The fields are not too long for lengths of time, nor are hours and minutes together, and this is the moment
as many seconds behind the midnight that starts a day. -/
structure TimeFields.At (t : TimeFields) (date : Date) (m : Moment) : Prop where
  hours : Delta.IsLength (t.hour * 3600)
  minutes : Delta.IsLength (t.minute * 60)
  upToMinutes : Delta.IsLength (t.hour * 3600 + t.minute * 60)
  seconds : Delta.IsLength t.second
  valid : m.date.isValid = true
  within : m.second < Moment.secondsPerDay
  whole : m.nano = 0
  total : m.date.dayNumber * Moment.secondsPerDay + m.second =
    date.dayNumber * Moment.secondsPerDay + t.count

section TimesOfDay

variable {o : Overflow} {date : Date} {t : TimeFields}

/-- All sums of a time of day are exact. -/
theorem timeOfDayInWords_eq : timeOfDayInWords o date t = checked (timeOfDay? date t) := by
  simp only [timeOfDayInWords, timeOfDay?, units_eq, Option.bind_eq_bind]
  cases hhours : Delta.ofUnits? 3600 t.hour with
  | none => rfl
  | some hours =>
      cases hminutes : Delta.ofUnits? 60 t.minute with
      | none => rfl
      | some minutes =>
          simp only [checked_some, ok_bind, Option.bind_some, sum_eq hhours hminutes]
          cases hupTo : hours.add? minutes with
          | none => cases Delta.ofSeconds? t.second <;> rfl
          | some upToMinutes =>
              cases hseconds : Delta.ofSeconds? t.second with
              | none => rfl
              | some seconds =>
                  simp only [checked_some, ok_bind, Option.bind_some, sum_eq hupTo hseconds]
                  cases upToMinutes.add? seconds <;> rfl

/-- A time of day is a moment if its fields fit, and then the right one. -/
theorem timeOfDay?_eq_some_iff (hdate : date.isValid = true) {m : Moment} :
    timeOfDay? date t = some m ↔ t.At date m := by
  have hunits (unit count : Int) (d : Delta) :
      Delta.ofUnits? unit count = some d ↔ Delta.IsLength (count * unit) ∧ d = ⟨count * unit, 0⟩ :=
    Delta.ofSeconds?_eq_some_iff
  have hsum (a b d : Delta) :
      a.add? b = some d ↔ Delta.IsLength (a.seconds + b.seconds) ∧ d = ⟨a.seconds + b.seconds, 0⟩ :=
    Delta.ofSeconds?_eq_some_iff
  constructor
  · intro h
    simp only [timeOfDay?, Option.bind_eq_bind, Option.bind_eq_some_iff, hunits, hsum,
      Delta.ofSeconds?_eq_some_iff] at h
    obtain ⟨-, ⟨hhours, rfl⟩, -, ⟨hminutes, rfl⟩, -, ⟨hseconds, rfl⟩, -, ⟨hupTo, rfl⟩, -, ⟨-, rfl⟩,
      hmoment⟩ := h
    rw [midnight_add?] at hmoment
    obtain ⟨hvalid, hwithin, hwhole, htotal⟩ := Moment.normalize?_eq_some_iff.mp hmoment
    exact ⟨hhours, hminutes, hupTo, hseconds, hvalid, hwithin, hwhole, htotal⟩
  · rintro ⟨hhours, hminutes, hupTo, hseconds, hvalid, hwithin, hwhole, htotal⟩
    -- the moment lies in the calendar, and so does the day: they are not too far from each other
    have hcount : Delta.IsLength t.count := by
      have hdays := Date.dayNumber_sub_bounds hdate hvalid
      simp only [Moment.secondsPerDay] at hwithin htotal
      simp only [Delta.IsLength, Delta.maxSeconds]
      omega
    have hmoment : (Moment.midnight date).add? ⟨t.count, 0⟩ = some m :=
      (midnight_add? date t.count).trans
        (Moment.normalize?_eq_some_iff.mpr ⟨hvalid, hwithin, hwhole, htotal⟩)
    simp only [timeOfDay?, Option.bind_eq_bind, Option.bind_eq_some_iff, hunits, hsum,
      Delta.ofSeconds?_eq_some_iff]
    exact ⟨_, ⟨hhours, rfl⟩, _, ⟨hminutes, rfl⟩, _, ⟨hseconds, rfl⟩, _, ⟨hupTo, rfl⟩, _, ⟨hcount, rfl⟩,
      hmoment⟩

end TimesOfDay

/-! ### Answers -/

/-- Why a calendar predicate gives no answer, not even an error. -/
inductive Breakdown where
  /-- The clock shows no date in its zone. -/
  | untold
  /-- A sum is held by no word. -/
  | overflow
deriving DecidableEq, Repr

/-- What comes of a predicate that reads the clock, if this can be told, and then reckons: an answer for what
it has reckoned, or another one if an operation is refused. -/
def answered {α β : Type} (told : Bool) (reckoned : Except Stop β) (answer : β → α) (otherwise : α) :
    Except Breakdown α :=
  if told then
    match reckoned with
    | .ok b => .ok (answer b)
    | .error .refused => .ok otherwise
    | .error .overflow => .error .overflow
  else .error .untold

def dateRangeInWords (o : Overflow) (now : Instant) (arguments : List Argument) : Except Breakdown Bool :=
  let fields := DateFields.ofArguments arguments
  let current := present now fields.gmt
  answered (isTold now fields.gmt) (endsInWords o current fields) (holds current) false

/-- The two ends of a range of times, in words, or what is wrong with the arguments. -/
def timeEndsInWords (o : Overflow) (date : Date) (arguments : List Argument) :
    Except Stop (Except TimeRangeError (Moment × Moment)) :=
  match timeFields arguments with
  | .error fault => .ok (.error fault)
  | .ok (first, last) => do
    let start ← timeOfDayInWords o date first
    let finish ← timeOfDayInWords o date last
    return .ok (start, finish)

/-- Whether a moment lies between two times of day, over midnight if the later one comes first. -/
def holdsTime (current : Moment) (ends : Moment × Moment) : Bool :=
  if ends.2.lt ends.1 then ends.1.le current || current.le ends.2 else holds current ends

def timeRangeInWords (o : Overflow) (now : Instant) (arguments : List Argument) :
    Except Breakdown (Except TimeRangeError Bool) :=
  let current := (present now (timeGmt arguments)).wholeSecond
  answered (isTold now (timeGmt arguments)) (timeEndsInWords o current.date arguments)
    (Except.map (holdsTime current)) (.error .outOfRange)

/-- How a predicate ends that is reckoned in words: it breaks down where the clock cannot be told and where a
sum overflows, and everywhere else its answer is the given one. -/
structure EndsAs {α : Type} (outcome : Except Breakdown α) (told : Bool) (overflows : Prop) (answer : α) :
    Prop where
  untold : outcome = .error .untold ↔ told = false
  overflow : outcome = .error .overflow ↔ told = true ∧ overflows
  answer : outcome = .ok answer ↔ told = true ∧ ¬ overflows

theorem EndsAs.exists_answer_iff {α : Type} {outcome : Except Breakdown α} {told : Bool} {overflows : Prop}
    {answer : α} (h : EndsAs outcome told overflows answer) :
    (∃ a, outcome = .ok a) ↔ told = true ∧ ¬ overflows := by
  constructor
  · rintro ⟨a, rfl⟩
    have htold : told ≠ false := fun hfalse => nomatch h.untold.mpr hfalse
    exact ⟨Bool.eq_true_of_not_eq_false htold, fun hoverflows =>
      nomatch h.overflow.mpr ⟨Bool.eq_true_of_not_eq_false htold, hoverflows⟩⟩
  · intro hanswer
    exact ⟨answer, h.answer.mpr hanswer⟩

section Answers

variable {o : Overflow} {now : Instant} {arguments : List Argument}

/-- The answer is that to what would be reckoned exactly, if this is what is reckoned where no sum overflows. -/
theorem endsAs_answered {α β : Type} {told : Bool} {overflows : Prop} {reckoned : Except Stop β}
    {exact : Option β} {answer : β → α} {otherwise : α}
    (hoverflows : overflows → reckoned = .error .overflow) (hexact : ¬ overflows → reckoned = checked exact) :
    EndsAs (answered told reckoned answer otherwise) told overflows ((exact.map answer).getD otherwise) := by
  cases told with
  | false => constructor <;> simp [answered]
  | true =>
      by_cases hcase : overflows
      · constructor <;> simp [answered, hoverflows hcase, hcase]
      · cases exact <;> constructor <;> simp [answered, hexact hcase, hcase]

theorem dateRange_endsAs (hnow : now.IsReading) :
    EndsAs (dateRangeInWords o now arguments) (isTold now (DateFields.ofArguments arguments).gmt)
      (o = .breaksDown ∧
        (DateFields.ofArguments arguments).TakesFromLeast (present now (DateFields.ofArguments arguments).gmt))
      (dateRange now arguments) := by
  have hdate := isValid_present hnow.date (DateFields.ofArguments arguments).gmt
  have hfields := DateFields.inWords_ofArguments arguments
  rw [dateRange_eq_ends?]
  refine endsAs_answered ?_ (endsInWords_eq hdate hfields)
  rintro ⟨rfl, hleast⟩
  exact endsInWords_of_takesFromLeast hdate hfields hleast

/-- The two ends of a range of times, or what is wrong with the arguments. -/
def timeEnds? (date : Date) (arguments : List Argument) : Option (Except TimeRangeError (Moment × Moment)) :=
  match timeFields arguments with
  | .error fault => some (.error fault)
  | .ok (first, last) => do
    let start ← timeOfDay? date first
    let finish ← timeOfDay? date last
    return .ok (start, finish)

theorem timeEndsInWords_eq {date : Date} :
    timeEndsInWords o date arguments = checked (timeEnds? date arguments) := by
  rw [timeEndsInWords, timeEnds?]
  cases timeFields arguments with
  | error fault => rfl
  | ok ends =>
      simp only [timeOfDayInWords_eq]
      cases timeOfDay? date ends.1 with
      | none => rfl
      | some start => cases timeOfDay? date ends.2 <;> rfl

theorem timeRange_eq_timeEnds? : timeRange now arguments =
    ((timeEnds? (present now (timeGmt arguments)).date arguments).map
      (Except.map (holdsTime (present now (timeGmt arguments)).wholeSecond))).getD (.error .outOfRange) := by
  rw [timeRange, timeEnds?]
  cases timeFields arguments with
  | error fault => rfl
  | ok ends =>
      simp only [bind, Except.bind, Moment.wholeSecond]
      cases timeOfDay? (present now (timeGmt arguments)).date ends.1 with
      | none => rfl
      | some start =>
          cases timeOfDay? (present now (timeGmt arguments)).date ends.2 with
          | none => rfl
          | some finish =>
              simp only [Option.bind_some, Option.map_some, Option.getD_some, Except.map,
                pure, Except.pure, holdsTime, holds]
              split <;> rfl

theorem timeRange_endsAs :
    EndsAs (timeRangeInWords o now arguments) (isTold now (timeGmt arguments)) False
      (timeRange now arguments) := by
  rw [timeRange_eq_timeEnds?]
  exact endsAs_answered False.elim fun _ => timeEndsInWords_eq

/-- A range of times is out of range exactly if one of its ends does not fit. -/
theorem timeRange_eq_outOfRange_iff (hnow : now.IsReading) {first last : TimeFields}
    (h : timeFields arguments = .ok (first, last)) :
    timeRange now arguments = .error .outOfRange ↔
      ¬ ((∃ start, first.At (present now (timeGmt arguments)).date start) ∧
        ∃ finish, last.At (present now (timeGmt arguments)).date finish) := by
  simp only [← timeOfDay?_eq_some_iff (isValid_present hnow.date (timeGmt arguments)), timeRange_eq_timeEnds?,
    timeEnds?, h]
  cases timeOfDay? (present now (timeGmt arguments)).date first <;>
    cases timeOfDay? (present now (timeGmt arguments)).date last <;> simp [Except.map]

/-- A range of dates holds nothing unless both its ends fit. -/
theorem hasEnds_of_dateRange (h : dateRange now arguments = true) :
    (DateFields.ofArguments arguments).HasEnds (present now (DateFields.ofArguments arguments).gmt).date := by
  rw [dateRange_eq_ends?] at h
  cases hends : ends? (present now (DateFields.ofArguments arguments).gmt)
      (DateFields.ofArguments arguments) with
  | none => simp [hends] at h
  | some ends =>
      obtain ⟨m, hm, hends⟩ := Option.bind_eq_some_iff.mp hends
      obtain ⟨m', hm', -⟩ := Option.bind_eq_some_iff.mp hends
      obtain ⟨start, hstart, rfl⟩ := withFields?_eq_some_iff.mp hm
      obtain ⟨finish, hfinish, -⟩ := withFields?_eq_some_iff.mp hm'
      exact ⟨start, finish, hstart, hfinish⟩

/-- Of all that is reckoned for the calendar predicates, whatever the arguments and the clock, only the day
before the least word is not exact, and nothing else but a clock that shows no date in its zone keeps them from
an answer. What does not fit makes a range of dates empty, and a range of times an error. -/
theorem endsAs_inWords (o : Overflow) (hnow : now.IsReading) (arguments : List Argument) :
    EndsAs (dateRangeInWords o now arguments) (isTold now (DateFields.ofArguments arguments).gmt)
        (o = .breaksDown ∧
          (DateFields.ofArguments arguments).TakesFromLeast
            (present now (DateFields.ofArguments arguments).gmt))
        (dateRange now arguments) ∧
      (dateRange now arguments = true → (DateFields.ofArguments arguments).HasEnds
        (present now (DateFields.ofArguments arguments).gmt).date) ∧
      EndsAs (timeRangeInWords o now arguments) (isTold now (timeGmt arguments)) False
        (timeRange now arguments) ∧
      ∀ first last, timeFields arguments = .ok (first, last) →
        (timeRange now arguments = .error .outOfRange ↔
          ¬ ((∃ start, first.At (present now (timeGmt arguments)).date start) ∧
            ∃ finish, last.At (present now (timeGmt arguments)).date finish)) :=
  ⟨dateRange_endsAs hnow, hasEnds_of_dateRange, timeRange_endsAs,
    fun _ _ hfields => timeRange_eq_outOfRange_iff hnow hfields⟩

/-- Two hours before the calendar is over, on a clock that is fourteen hours ahead. -/
def afterLastDate : Instant := ⟨⟨Date.last, 79200, 0⟩, 50400⟩

theorem endsAs_inWords_extreme :
    (noon ⟨2026, 10, 19⟩).IsReading ∧
      dateRangeInWords .wraps (noon ⟨2026, 10, 19⟩) [.number (-1e19)] = .ok false ∧
      timeRangeInWords .breaksDown (noon ⟨2026, 10, 19⟩) [.number 1e19, .number (-1e19)] =
        .ok (.error .outOfRange) := by
  have hnow : (noon ⟨2026, 10, 19⟩).IsReading := ⟨by decide, by decide⟩
  have hdate := (endsAs_inWords .wraps hnow [.number (-1e19)]).1
  have htime := (endsAs_inWords .breaksDown hnow [.number 1e19, .number (-1e19)]).2.2.1
  refine ⟨hnow, ?_, ?_⟩
  · exact (hdate.answer.mpr ⟨by decide, by simp⟩).trans (by decide)
  · exact (htime.answer.mpr ⟨by decide, id⟩).trans (by decide)

/-- From the least word no day can be taken away, and at the end of the calendar the clock cannot be told, though
reckoned exactly the range holds nothing in either case. -/
theorem dateRangeInWords_extreme :
    (dateRangeInWords .breaksDown (noon ⟨2026, 10, 19⟩) [.number (-1e19)] = .error .overflow ∧
      dateRange (noon ⟨2026, 10, 19⟩) [.number (-1e19)] = false) ∧
    (afterLastDate.IsReading ∧ dateRangeInWords .wraps afterLastDate [.number (-1e19)] = .error .untold ∧
      dateRange afterLastDate [.number (-1e19)] = false) := by
  refine ⟨⟨by decide, by decide⟩, ⟨⟨by decide, by decide⟩, by decide, by decide⟩⟩

end Answers

end Predicate

namespace Script.Question

open Predicate Words

variable {library : Library} {s : Surroundings} {arguments : List Value}

/-- A question about dates has an answer exactly if reckoning in words comes to one, where sums wrap around. -/
theorem hasAnswerToValues_dateRange_iff (hnow : (library.now s.clock).IsReading) :
    dateRange.hasAnswerToValues library s arguments = true ↔
      ∃ answer, dateRangeInWords .wraps (library.now s.clock) (arguments.map argumentOf) = .ok answer := by
  rw [(dateRange_endsAs hnow).exists_answer_iff]
  simp [hasAnswerToValues]

/-- And so does a question about times of day, whatever becomes of sums. -/
theorem hasAnswerToValues_timeRange_iff (o : Overflow) :
    timeRange.hasAnswerToValues library s arguments = true ↔
      ∃ answer, timeRangeInWords o (library.now s.clock) (arguments.map argumentOf) = .ok answer := by
  rw [timeRange_endsAs.exists_answer_iff]
  simp [hasAnswerToValues]

end Script.Question

end AutoProxy
