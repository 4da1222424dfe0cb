import AutoProxy.Number.Whole

/-!
Dates and points in time. The calendar is the Gregorian one, extended to all years, year zero included. A
date is a year, a month from 1 to 12 and a day of that month. `dayNumber` counts days from
1 January 1970 and `ofDayNumber` goes back; shifting by days goes through the count, shifting
by months keeps the day where the target month has it and takes the month's last day otherwise.

A `Moment` is a date with a time of day and knows no zone; an `Instant` is a moment of universal time
together with the offset of the zone it is read in. Two instants are compared by their universal time
alone. A time of day counts whole seconds and nanoseconds; during a leap second the nanoseconds run on
from one thousand million.
-/

namespace AutoProxy.Calendar

/-! ## Dates -/

/-- A day of the calendar. Order is that of time: year, then month, then day. -/
structure Date where
  year : Int
  month : Nat
  day : Nat
deriving DecidableEq, Repr

namespace Date

def isLeapYear (year : Int) : Bool := year % 4 == 0 && (year % 100 != 0 || year % 400 == 0)

def daysInMonth (year : Int) (month : Nat) : Nat :=
  match month with
  | 2 => if isLeapYear year then 29 else 28
  | 4 | 6 | 9 | 11 => 30
  | _ => 31

def minYear : Int := -262143

def maxYear : Int := 262142

/-- Whether year, month and day name a date within the limits. -/
def isValid (d : Date) : Bool :=
  minYear ≤ d.year && d.year ≤ maxYear && 1 ≤ d.month && d.month ≤ 12 &&
    1 ≤ d.day && d.day ≤ daysInMonth d.year d.month

def ofFields? (year : Int) (month day : Nat) : Option Date :=
  let d : Date := ⟨year, month, day⟩
  if d.isValid then some d else none

/-! ### Counting days -/

/-- Days from 1 January 1970 to this date. The year is taken to begin in March, so that the leap
day is its last one. -/
def dayNumber (d : Date) : Int :=
  let year := if d.month ≤ 2 then d.year - 1 else d.year
  let month : Int := if d.month ≤ 2 then (d.month : Int) + 9 else (d.month : Int) - 3
  let beforeYear := 365 * year + year / 4 - year / 100 + year / 400
  beforeYear + (153 * month + 2) / 5 + (d.day : Int) - 1 - 719468

/-- The date that lies `n` days after 1 January 1970. -/
def ofDayNumber (n : Int) : Date :=
  let z := n + 719468
  let era := z / 146097
  let dayOfEra := z % 146097
  let yearOfEra := (dayOfEra - dayOfEra / 1460 + dayOfEra / 36524 - dayOfEra / 146096) / 365
  let dayOfYear := dayOfEra - (365 * yearOfEra + yearOfEra / 4 - yearOfEra / 100)
  let shifted := (5 * dayOfYear + 2) / 153
  let day := dayOfYear - (153 * shifted + 2) / 5 + 1
  let month := if shifted < 10 then shifted + 3 else shifted - 9
  let year := yearOfEra + era * 400 + (if month ≤ 2 then 1 else 0)
  ⟨year, month.toNat, day.toNat⟩

/-- The date some days later, or earlier; none outside the limits. -/
def addDays? (d : Date) (days : Int) : Option Date :=
  let later := ofDayNumber (d.dayNumber + days)
  if minYear ≤ later.year ∧ later.year ≤ maxYear then some later else none

/-- The day of the week, counted from Sunday as zero. -/
def weekday (d : Date) : Nat := ((d.dayNumber + 4) % 7).toNat

/-! ### Shifting by months -/

/-- The same day of the month some months later, or the last day of that month if it is
shorter; none outside the limits. -/
def addMonths? (d : Date) (months : Int) : Option Date :=
  let count := d.year * 12 + (d.month : Int) - 1 + months
  let year := count / 12
  let month := (count % 12).toNat + 1
  ofFields? year month (min d.day (daysInMonth year month))

/-! ### Order -/

def lt (a b : Date) : Bool :=
  a.year < b.year || (a.year == b.year && (a.month < b.month || (a.month == b.month && a.day < b.day)))

end Date

/-! ## Moments and instants -/

structure Moment where
  date : Date
  second : Nat
  nano : Nat
deriving DecidableEq, Repr

/-- A length of time as whole seconds and nanoseconds of the same sign. -/
structure Delta where
  seconds : Int
  nanos : Int
deriving DecidableEq, Repr

namespace Delta

/-- The number of whole seconds that a length of time can have at most, in either direction. -/
def maxSeconds : Int := 9223372036854775

def ofSeconds? (seconds : Int) : Option Delta :=
  if -maxSeconds ≤ seconds ∧ seconds ≤ maxSeconds then some ⟨seconds, 0⟩ else none

/-- A length in units of so many seconds, if it can be represented. -/
def ofUnits? (unit count : Int) : Option Delta := ofSeconds? (count * unit)

def ofMillis (ms : Int) : Delta := ⟨Int.tdiv ms 1000, Int.tmod ms 1000 * 1000000⟩

/-- The sum of two lengths of whole seconds, if it can be represented. -/
def add? (a b : Delta) : Option Delta := ofSeconds? (a.seconds + b.seconds)

end Delta

namespace Moment

def secondsPerDay : Int := 86400

def nanosPerSecond : Int := 1000000000

def lt (a b : Moment) : Bool :=
  a.date.lt b.date ||
    (a.date == b.date && (a.second < b.second || (a.second == b.second && a.nano < b.nano)))

def le (a b : Moment) : Bool := !b.lt a

def midnight (date : Date) : Moment := ⟨date, 0, 0⟩

def wholeSecond (m : Moment) : Moment := { m with nano := 0 }

/-- The moment at `second` seconds after midnight of the date, which may lie on another day. -/
def normalize? (date : Date) (second : Int) (nano : Nat) : Option Moment :=
  (date.addDays? (second / secondsPerDay)).map fun date =>
    ⟨date, (second % secondsPerDay).toNat, nano⟩

/-- The moment some time later, or earlier; none outside the calendar's limits. A moment inside
a leap second stays in it if only a fraction is added that does not leave it. -/
def add? (m : Moment) (d : Delta) : Option Moment :=
  let nano : Int := m.nano
  let second : Int := m.second
  let leap := nanosPerSecond ≤ nano
  if leap ∧ d.seconds = 0 ∧ ¬ (0 < d.nanos ∧ 2 * nanosPerSecond - d.nanos ≤ nano) then
    some { m with nano := (nano + d.nanos).toNat }
  else
    let nano' := if leap then nano - nanosPerSecond else nano
    let second' := if leap ∧ d.seconds < 0 then second + 1 else second
    let total := nano' + d.nanos
    let carry := total / nanosPerSecond
    normalize? m.date (second' + d.seconds + carry) (total % nanosPerSecond).toNat

/-- The moment some whole seconds later or earlier, a leap second kept: what a change of zone
does to the time of day. -/
def shift? (m : Moment) (seconds : Int) : Option Moment :=
  normalize? m.date ((m.second : Int) + seconds) m.nano

end Moment

/-- A point in time: its moment in universal time and the offset in seconds, east positive, of
the zone in which it is read. -/
structure Instant where
  universal : Moment
  offset : Int
deriving DecidableEq, Repr

namespace Instant

def utc (t : Instant) : Moment := t.universal

/-- The moment shown by a clock in the instant's own zone. -/
def local? (t : Instant) : Option Moment := t.universal.shift? t.offset

/-- The moment shown by a clock in the instant's own zone; at the very ends of the calendar,
where that zone has no date left, universal time. -/
def localMoment (t : Instant) : Moment := t.local?.getD t.universal

/-- The instant some time later, or earlier, read in the same zone. -/
def add? (t : Instant) (d : Delta) : Option Instant :=
  (t.universal.add? d).map fun m => { t with universal := m }

def le (a b : Instant) : Bool := a.universal.le b.universal

/-- The instant so many seconds after the beginning of 1970, and some nanoseconds, read in universal
time; none outside the calendar's limits. -/
def ofEpoch? (seconds : Int) (nano : Nat) : Option Instant :=
  (Moment.normalize? (Date.ofDayNumber 0) seconds nano).map (⟨·, 0⟩)

/-- The same point in time read in universal time. -/
def toUtc (t : Instant) : Instant := { t with offset := 0 }

end Instant

end AutoProxy.Calendar
