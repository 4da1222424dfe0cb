import AutoProxy.Address
import AutoProxy.Calendar.Instant
import AutoProxy.Number.Double
import AutoProxy.Text.Basic

/-!
Predicates on date and time: whether the present lies in a range of weekdays, of dates or of
times of day. Each reads a clock in its own zone, or in universal time when an argument asks for
it. A range whose end precedes its start wraps around, over the weekend, into the next month or
year, or past midnight.

A script may pass any number of values of any type; what is neither a number nor a text counts as
missing. Besides their arguments the predicates as a script sees them depend on three things: the clock,
the lookup of host names and the address given as the machine's own. While an evaluation runs,
the clock is pinned: all predicates see the instant at which the evaluation began.
-/

namespace AutoProxy.Predicate

/-! ## Arguments -/

/-- A value that a script passes to a calendar predicate. -/
inductive Argument where
  | number (value : Float)
  | text (value : String)
  | missing

/-- The word that asks for universal time, in any case of its letters. -/
def isGmtWord (s : String) : Bool := Text.sameWord s "GMT"

namespace Argument

def isGmt : Argument → Bool
  | text s => isGmtWord s
  | _ => false

/-- The integer part of a finite number, held within 64 bits. -/
def int? : Argument → Option Int
  | number x => (Number.truncate? x).map Number.clamp64
  | _ => none

def text? : Argument → Option String
  | text s => some s
  | _ => none

end Argument

/-! ## Ranges -/

open Calendar

/-- The moment that a predicate compares with: in universal time, or as the clock's zone shows. -/
def present (now : Instant) (gmt : Bool) : Moment := if gmt then now.utc else now.localMoment

/-- Whether that moment can be told: at the very ends of the calendar a clock's zone may have no date
left. -/
def isTold (now : Instant) (gmt : Bool) : Bool := gmt || now.local?.isSome

/-- The place of a name in a list, in any case of its letters. -/
def placeOf? (name : String) (names : List String) : Option Nat :=
  names.findIdx? fun n => Text.sameWord n name

/-! ### Weekdays -/

/-- The days of the week from Sunday. -/
def dayNames : List String := ["SUN", "MON", "TUE", "WED", "THU", "FRI", "SAT"]

/-- Whether the arguments after the first ask for universal time. -/
def weekdayGmt (day2 gmt : Option String) : Bool := day2.any isGmtWord || gmt.any isGmtWord

/-- Whether today lies between the two days, both included; without a second day, or with one
that is no day, whether today is the first. -/
def weekdayRange (now : Instant) (day1 : String) (day2 gmt : Option String) : Bool :=
  let today := (present now (weekdayGmt day2 gmt)).date.weekday
  match placeOf? day1 dayNames with
  | none => false
  | some first =>
    let last := (day2.bind fun d => placeOf? d dayNames).getD first
    if last < first then first ≤ today || today ≤ last else first ≤ today && today ≤ last

/-! ### Dates -/

def monthNames : List String :=
  ["JAN", "FEB", "MAR", "APR", "MAY", "JUN", "JUL", "AUG", "SEP", "OCT", "NOV", "DEC"]

/-- The first value given of a kind, and the last one if there are several. -/
structure Slots where
  first : Option Int := none
  last : Option Int := none
deriving DecidableEq, Repr

def Slots.add (s : Slots) (value : Int) : Slots :=
  match s.first with
  | none => { s with first := some value }
  | some _ => { s with last := some value }

/-- What the arguments of a date range say: days, months counted from zero, years, and whether
universal time is asked for. -/
structure DateFields where
  day : Slots := {}
  month : Slots := {}
  year : Slots := {}
  gmt : Bool := false
deriving DecidableEq, Repr

/-- The largest number that counts as a day; larger ones are years. -/
def lastDay : Int := 31

/-- One more argument. Numbers are days or years, texts are months or ask for universal time;
anything else says nothing. -/
def DateFields.add (fields : DateFields) (argument : Argument) : DateFields :=
  let fields := { fields with gmt := fields.gmt || argument.isGmt }
  match argument with
  | .number _ =>
    match argument.int? with
    | none => fields
    | some n =>
      if n ≤ lastDay then { fields with day := fields.day.add n }
      else { fields with year := fields.year.add n }
  | .text s =>
    match placeOf? s monthNames with
    | some month => { fields with month := fields.month.add month }
    | none => fields
  | .missing => fields

def DateFields.ofArguments (arguments : List Argument) : DateFields :=
  arguments.foldl DateFields.add {}

/-- The moment with the given fields in place of its own, the time of day kept. Days count from
the first of the month and may run out of it; there is none when a field cannot be represented. -/
def withFields? (base : Moment) (day month year : Option Int) : Option Moment := do
  let year := year.getD base.date.year
  let month := month.getD ((base.date.month : Int) - 1)
  let day := day.getD base.date.day
  let firstOfMonth ← Date.ofFields? (year + month / 12) ((month % 12).toNat + 1) 1
  let delta ← Delta.ofUnits? Moment.secondsPerDay (day - 1)
  let date ← firstOfMonth.addDays? (delta.seconds / Moment.secondsPerDay)
  return { base with date := date }

/-- The moment some months later, the time of day kept. -/
def addMonths? (m : Moment) (months : Int) : Option Moment :=
  (m.date.addMonths? months).map fun date => { m with date := date }

/-- The end of a range that starts at `start`: one that precedes the start moves on by a month,
and if it still precedes it, by a further eleven. -/
def rollForward? (start finish : Moment) : Option Moment := do
  let finish ← if finish.lt start then addMonths? finish 1 else some finish
  if finish.lt start then do
    let later ← addMonths? finish 12
    addMonths? later (-1)
  else some finish

/-- Whether the present lies between the date made of the first fields and the one made of the
last fields; fields that are not given are those of the present, and for the second date those
of the first. -/
def dateRange (now : Instant) (arguments : List Argument) : Bool :=
  let fields := DateFields.ofArguments arguments
  let current := present now fields.gmt
  let range : Option (Moment × Moment) := do
    let start ← withFields? current fields.day.first fields.month.first fields.year.first
    let finish ← withFields? start fields.day.last fields.month.last fields.year.last
    return (start, ← rollForward? start finish)
  match range with
  | some (start, finish) => start.le current && current.le finish
  | none => false

/-! ### Times of day -/

inductive TimeRangeError where
  /-- The argument at this place, counted from one, has to be a number. -/
  | notANumber (position : Nat)
  | outOfRange
deriving DecidableEq, Repr

def TimeRangeError.message : TimeRangeError → String
  | notANumber position => s!"timeRange: argument {position} must be a number"
  | outOfRange => "timeRange: time out of range"

/-- Hours, minutes and seconds after midnight, each of any size. -/
structure TimeFields where
  hour : Int
  minute : Int
  second : Int
deriving DecidableEq, Repr

/-- The places of the arguments at which a request for universal time is looked for. -/
def gmtPlaces : List Nat := [1, 2, 4, 6]

def timeGmt (arguments : List Argument) : Bool :=
  gmtPlaces.any fun place => (arguments[place]?).any Argument.isGmt

/-- The number at a place of the arguments, which is required there. -/
def required (arguments : List Argument) (place : Nat) : Except TimeRangeError Int :=
  match (arguments[place]?).bind Argument.int? with
  | some n => .ok n
  | none => .error (.notANumber (place + 1))

/-- Start and end of a time range. Six numbers give hours, minutes and seconds of both, four
give hours and minutes, two give hours, and one an hour from its start to its end. -/
def timeFields (arguments : List Argument) : Except TimeRangeError (TimeFields × TimeFields) := do
  let isNumber (place : Nat) : Bool := ((arguments[place]?).bind Argument.int?).isSome
  let number := required arguments
  if isNumber 5 then
    let start : TimeFields := ⟨← number 0, ← number 1, ← number 2⟩
    return (start, ⟨← number 3, ← number 4, ← number 5⟩)
  else if isNumber 3 then
    let start : TimeFields := ⟨← number 0, ← number 1, 0⟩
    return (start, ⟨← number 2, ← number 3, 59⟩)
  else if isNumber 1 then
    return (⟨← number 0, 0, 0⟩, ⟨← number 1, 59, 59⟩)
  else
    let hour ← number 0
    return (⟨hour, 0, 0⟩, ⟨hour, 59, 59⟩)

/-- The moment so many hours, minutes and seconds after the midnight that starts a day. -/
def timeOfDay? (date : Date) (t : TimeFields) : Option Moment := do
  let hours ← Delta.ofUnits? 3600 t.hour
  let minutes ← Delta.ofUnits? 60 t.minute
  let seconds ← Delta.ofSeconds? t.second
  let upToMinutes ← hours.add? minutes
  let offset ← upToMinutes.add? seconds
  (Moment.midnight date).add? offset

/-- Whether the time of day, without its fraction of a second, lies in the range. -/
def timeRange (now : Instant) (arguments : List Argument) : Except TimeRangeError Bool := do
  let current := (present now (timeGmt arguments)).wholeSecond
  let (first, last) ← timeFields arguments
  match timeOfDay? current.date first, timeOfDay? current.date last with
  | some start, some finish =>
    if finish.lt start then return start.le current || current.le finish
    else return start.le current && current.le finish
  | _, _ => throw .outOfRange

/-! ## The library -/

/-- The state of a predicate library: the address it reports as the machine's own, if one is
set, and the instant at which its clock is pinned, if it is. -/
structure Library where
  ownAddress : Option Address := none
  pinned : Option Instant := none
deriving DecidableEq, Repr

namespace Library

def pin (library : Library) (clock : Instant) : Library := { library with pinned := some clock }

def release (library : Library) : Library := { library with pinned := none }

def now (library : Library) (clock : Instant) : Instant := library.pinned.getD clock

/-- The text of the machine's own address: the one set, or that of the machine itself. -/
def myIpAddress (library : Library) : String :=
  (library.ownAddress.getD Lookup.loopback).toText

end Library

end AutoProxy.Predicate
