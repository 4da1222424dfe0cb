import AutoProxy.Calendar.Instant

/-!
Timestamps in the internet format, `2026-10-19T09:30:00+02:00`: reading and writing.

Reading takes the fixed part of nineteen characters first, then an optional fraction, then the
zone; the first thing wrong decides the error. Years have four digits, the letters may be small,
and a blank may stand for the `T`.
-/

namespace AutoProxy.Calendar

inductive TimestampError where
  | tooShort
  | badCharacter
  | outOfRange
  | trailing
deriving DecidableEq, Repr

def TimestampError.message : TimestampError → String
  | tooShort => "premature end of input"
  | badCharacter => "input contains invalid characters"
  | outOfRange => "input is out of range"
  | trailing => "trailing input"

namespace Timestamp

/-- The outcome of reading a part of the text; a reader also returns the rest. -/
abbrev Outcome := Except TimestampError

def digits : Nat → Nat → List Char → Outcome (Nat × List Char)
  | 0, value, cs => .ok (value, cs)
  | _ + 1, _, [] => .error .tooShort
  | n + 1, value, c :: cs =>
    match Number.digitOf? 10 c with
    | some d => digits n (value * 10 + d) cs
    | none => .error .badCharacter

def oneOf (admitted : List Char) : List Char → Outcome (List Char)
  | [] => .error .tooShort
  | c :: cs => if admitted.contains c then .ok cs else .error .badCharacter

/-- A fraction of a second after its point: one digit at least, those after the ninth ignored. -/
def fraction (cs : List Char) : Outcome (Nat × List Char) :=
  let isDigit (c : Char) := (Number.digitOf? 10 c).isSome
  match cs with
  | [] => .error .tooShort
  | c :: _ =>
    if isDigit c then
      let shown := (cs.takeWhile isDigit).take 9
      let value := (Number.ofDigits? 10 shown).getD 0 * Nat.pow 10 (9 - shown.length)
      .ok (value, cs.dropWhile isDigit)
    else .error .badCharacter

/-- The two digits of the minutes of an offset. -/
def offsetMinutes : List Char → Outcome (Nat × List Char)
  | a :: b :: cs =>
    match Number.digitOf? 10 a, Number.digitOf? 10 b with
    | some m, some n => if m < 6 then .ok (m * 10 + n, cs) else .error .outOfRange
    | _, _ => .error .badCharacter
  | _ => .error .tooShort

/-- An offset with its sign: hours, a colon, minutes; or the letter for universal time. -/
def offset : List Char → Outcome (Int × List Char)
  | [] => .error .tooShort
  | 'Z' :: cs => .ok (0, cs)
  | 'z' :: cs => .ok (0, cs)
  | c :: cs => do
    let sign ← if c = '+' then .ok (1 : Int)
      else if c = '-' ∨ c = '\u2212' then .ok (-1 : Int)
      else .error TimestampError.badCharacter
    let (hours, cs) ← digits 2 0 cs
    let cs ← oneOf [':'] cs
    let (minutes, cs) ← offsetMinutes cs
    return (sign * ((hours : Int) * 3600 + (minutes : Int) * 60), cs)

/-- The largest offset, in seconds: one minute short of a day. -/
def maxOffset : Int := 86340

/-- A time of day within a day, a sixtieth second being the leap second after the fifty-ninth. -/
def timeOfDay? (hour minute second nano : Nat) : Option (Nat × Nat) :=
  let (second, nano) := if second = 60 then (59, nano + 1000000000) else (second, nano)
  if hour < 24 ∧ minute < 60 ∧ second < 60 then some (hour * 3600 + minute * 60 + second, nano)
  else none

def date (cs : List Char) : Outcome (Date × List Char) := do
  let (year, cs) ← digits 4 0 cs
  let cs ← oneOf ['-'] cs
  let (month, cs) ← digits 2 0 cs
  let cs ← oneOf ['-'] cs
  let (day, cs) ← digits 2 0 cs
  match Date.ofFields? year month day with
  | some d => return (d, cs)
  | none => throw .outOfRange

/-- The time of day after the date, with its fraction, as seconds and nanoseconds. -/
def time (cs : List Char) : Outcome ((Nat × Nat) × List Char) := do
  let (hour, cs) ← digits 2 0 cs
  let cs ← oneOf [':'] cs
  let (minute, cs) ← digits 2 0 cs
  let cs ← oneOf [':'] cs
  let (second, cs) ← digits 2 0 cs
  let (nano, cs) ← match cs with
    | '.' :: cs => fraction cs
    | _ => .ok (0, cs)
  match timeOfDay? hour minute second nano with
  | some t => return (t, cs)
  | none => throw .outOfRange

def read (cs : List Char) : Outcome Instant := do
  if Text.byteLength cs < 19 then throw .tooShort
  let (day, cs) ← date cs
  let cs ← oneOf ['t', 'T', ' '] cs
  let ((second, nano), cs) ← time cs
  let (east, cs) ← offset cs
  if !cs.isEmpty then throw .trailing
  if east < -maxOffset ∨ maxOffset < east then throw .outOfRange
  match Moment.shift? ⟨day, second, nano⟩ (-east) with
  | some m => return ⟨m, east⟩
  | none => throw .outOfRange

end Timestamp

/-- The instant that a timestamp names. -/
def Instant.ofText (s : String) : Except TimestampError Instant := Timestamp.read s.toList

/-! ### Writing -/

/-- The year: four digits, or a sign and at least four outside the years 0 to 9999. -/
def Date.yearText (year : Int) : String :=
  if 0 ≤ year ∧ year ≤ 9999 then Number.padded 4 year.toNat
  else if year < 0 then "-" ++ Number.padded 4 year.natAbs
  else "+" ++ Number.padded 4 year.natAbs

/-- The fraction in thousandths, millionths or billionths, the coarsest that is exact; nothing
for a whole second. -/
def fractionText (nano : Nat) : String :=
  if nano = 0 then ""
  else if nano % 1000000 = 0 then "." ++ Number.padded 3 (nano / 1000000)
  else if nano % 1000 = 0 then "." ++ Number.padded 6 (nano / 1000)
  else "." ++ Number.padded 9 nano

/-- A moment with a `T` between date and time. -/
def Moment.toText (m : Moment) : String :=
  let leap := m.nano / 1000000000
  let date := Date.yearText m.date.year ++ "-" ++ Number.padded 2 m.date.month ++ "-" ++
    Number.padded 2 m.date.day
  date ++ "T" ++ Number.padded 2 (m.second / 3600) ++ ":" ++ Number.padded 2 (m.second / 60 % 60) ++
    ":" ++ Number.padded 2 (m.second % 60 + leap) ++ fractionText (m.nano % 1000000000)

/-- The timestamp of an instant in its own zone, the offset in hours and minutes. -/
def Instant.toText (t : Instant) : String :=
  let sign := if t.offset < 0 then "-" else "+"
  let minutes := t.offset.natAbs / 60
  t.localMoment.toText ++ sign ++ Number.padded 2 (minutes / 60) ++ ":" ++ Number.padded 2 (minutes % 60)

end AutoProxy.Calendar
