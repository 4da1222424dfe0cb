import AutoProxy.Number.Whole

/-!
Lengths of time, in whole nanoseconds. The seconds of a length fit in a word of 64 bits.

Text forms: `toText` writes a length as a row of units, the largest first and each at most once,
such as `1m 30s`; months count 30.44 days and years 365.25 days. A text that is read is any row of numbers
with units, such as `1.5 hours`; blanks may stand before and after each number and within it. Counts add
up, and a fraction has to come out in whole nanoseconds, or in whole seconds for units longer than a
minute.

A text is read one character at a time. Between characters a stage says what has been read of
the current number and unit; errors name a place in the text, counted in bytes.
-/

namespace AutoProxy

def Span.perSecond : Nat := 1000000000

structure Span where
  nanos : Nat
  inRange : nanos < 18446744073709551616 * 1000000000 := by decide
deriving DecidableEq, Repr

namespace Span

def zero : Span := ⟨0, by decide⟩

/-- The length of a number of nanoseconds, if it is in range. -/
def ofNanos? (n : Nat) : Option Span :=
  if h : n < 18446744073709551616 * 1000000000 then some ⟨n, h⟩ else none

def ofSeconds (s : UInt64) : Span :=
  ⟨s.toNat * 1000000000, Nat.mul_lt_mul_of_pos_right s.toNat_lt (by decide)⟩

def seconds (s : Span) : Nat := s.nanos / perSecond

/-- The nanoseconds beyond the whole seconds. -/
def subsecond (s : Span) : Nat := s.nanos % perSecond

def isZero (s : Span) : Bool := s.nanos == 0

/-! ### Units -/

inductive Unit where
  | year | month | week | day | hour | minute | second | millisecond | microsecond | nanosecond
deriving DecidableEq, Repr

def Unit.nanos : Unit → Nat
  | year => 31557600 * 1000000000
  | month => 2630016 * 1000000000
  | week => 604800 * 1000000000
  | day => 86400 * 1000000000
  | hour => 3600 * 1000000000
  | minute => 60 * 1000000000
  | second => 1000000000
  | millisecond => 1000000
  | microsecond => 1000
  | nanosecond => 1

/-- The units in which lengths are written, the largest first, and the number of each that makes
up the next larger one does not exceed its remainder. -/
def Unit.written : List Unit :=
  [year, month, day, hour, minute, second, millisecond, microsecond, nanosecond]

/-- A count of a unit in words; the names of the longest three are put in the plural. -/
def Unit.countText (unit : Unit) (count : Nat) : String :=
  let plural (name : String) : String :=
    toString count ++ name ++ (if count = 1 then "" else "s")
  match unit with
  | year => plural "year"
  | month => plural "month"
  | week => toString count ++ "w"
  | day => plural "day"
  | hour => toString count ++ "h"
  | minute => toString count ++ "m"
  | second => toString count ++ "s"
  | millisecond => toString count ++ "ms"
  | microsecond => toString count ++ "us"
  | nanosecond => toString count ++ "ns"

/-- The counts of the units in a number of nanoseconds, each unit taken as often as it fits. -/
def counts : List Unit → Nat → List (Unit × Nat)
  | [], _ => []
  | unit :: rest, n => (unit, n / unit.nanos) :: counts rest (n % unit.nanos)

/-- A length as a row of units that occur in it. -/
def toText (s : Span) : String :=
  if s.isZero then "0s"
  else
    let parts := (counts Unit.written s.nanos).filter fun (_, count) => count != 0
    " ".intercalate (parts.map fun (unit, count) => unit.countText count)

/-- A fraction of a unit without the zeros it ends with, after the point; nothing for zero. -/
def fractionText (width n : Nat) : String :=
  let digits := (Number.padded width n).toList
  let shown := (digits.reverse.dropWhile (· == '0')).reverse
  if shown.isEmpty then "" else "." ++ String.ofList shown

/-- A length as a decimal number of the largest unit that it reaches, seconds at most. -/
def decimalText (s : Span) : String :=
  let write (unit : Nat) (width : Nat) (name : String) : String :=
    toString (s.nanos / unit) ++ fractionText width (s.nanos % unit) ++ name
  if perSecond ≤ s.nanos then write 1000000000 9 "s"
  else if 1000000 ≤ s.nanos then write 1000000 6 "ms"
  else if 1000 ≤ s.nanos then write 1000 3 "µs"
  else toString s.nanos ++ "ns"

end Span

/-! ## Reading -/

inductive SpanFault where
  | empty
  | numberExpected (place : Nat)
  | invalidCharacter (place : Nat)
  | unitNeeded (count : Nat)
  | unknownUnit (name : String)
  | overflow
deriving DecidableEq, Repr

def SpanFault.message : SpanFault → String
  | empty => "value was empty"
  | numberExpected place => s!"expected number at {place}"
  | invalidCharacter place => s!"invalid character at {place}"
  | unitNeeded count => s!"time unit needed, for example {count}sec or {count}ms"
  | unknownUnit name =>
    "unknown time unit \"" ++ name ++ "\", supported units: ns, us/µs, ms, sec, min, hours, " ++
      "days, weeks, months, years (and few variations)"
  | overflow =>
    "number is too large or cannot be represented without a lack of precision " ++
      "(values below 1ns are not supported)"

namespace Span

def Unit.ofName? (name : String) : Option Unit :=
  match name with
  | "nanos" | "nsec" | "ns" => some nanosecond
  | "usec" | "us" | "µs" => some microsecond
  | "millis" | "msec" | "ms" => some millisecond
  | "seconds" | "second" | "secs" | "sec" | "s" => some second
  | "minutes" | "minute" | "min" | "mins" | "m" => some minute
  | "hours" | "hour" | "hrs" | "hr" | "h" => some hour
  | "days" | "day" | "d" => some day
  | "weeks" | "week" | "wks" | "wk" | "w" => some week
  | "months" | "month" | "M" => some month
  | "years" | "year" | "yrs" | "yr" | "y" => some year
  | _ => none

/-- The finest part of a unit that a fraction of it may come out in. -/
def Unit.grain : Unit → Nat
  | year | month | week | day | hour => 1000000000
  | _ => 1

def isUnitLetter (c : Char) : Bool := c.isAlpha || c == 'µ'

/-- A number with one more decimal digit, within 64 bits. -/
def pushDigit? (n digit : Nat) : Option Nat :=
  if n * 10 + digit < Number.wordLimit then some (n * 10 + digit) else none

/-- A fraction as it was written: its digits as a number, and the power of ten below them. -/
structure Fraction where
  digits : Nat := 0
  scale : Nat := 1
deriving DecidableEq, Repr

inductive Stage where
  /-- Nothing yet; `place` is reported for what is no number, and `first` tells whether no
  number has been read at all. -/
  | blank (place : Nat) (first : Bool)
  | number (count : Nat)
  /-- The digits after the point; `place` is reported for what does not belong to them. -/
  | fraction (count : Nat) (part : Fraction) (place : Nat)
  /-- Letters of the unit, from the last. -/
  | unit (count : Nat) (part : Option Fraction) (letters : List Char)
deriving DecidableEq, Repr

/-- A sum that fits in a length. The nanoseconds beyond whole seconds fit in a word. -/
def plus? (sum : Span) (seconds nanos : Nat) : Option Span :=
  if sum.subsecond + nanos < Number.wordLimit then ofNanos? (sum.nanos + seconds * perSecond + nanos)
  else none

def plusCount? (sum : Span) (unit : Unit) (count : Nat) : Option Span :=
  let grain := if perSecond ≤ unit.nanos then perSecond else 1
  let product := count * (unit.nanos / grain)
  if product < Number.wordLimit then
    if grain = 1 then sum.plus? 0 product else sum.plus? product 0
  else none

/-- The sum with a fraction of a unit, which has to be a whole number of the unit's grains. -/
def plusFraction? (sum : Span) (unit : Unit) (part : Fraction) : Option Span :=
  let product := part.digits * (unit.nanos / unit.grain)
  if unit = .nanosecond then none
  else if product < Number.wordLimit ∧ product % part.scale = 0 then
    let amount := product / part.scale
    if unit.grain = 1 then sum.plus? 0 amount else sum.plus? amount 0
  else none

def plusItem (sum : Span) (count : Nat) (part : Option Fraction) (letters : List Char) :
    Except SpanFault Span :=
  let name := String.ofList letters.reverse
  match Unit.ofName? name with
  | none => .error (if name.isEmpty then .unitNeeded count else .unknownUnit name)
  | some unit =>
    let sum := match part, sum.plusCount? unit count with
      | some part, some sum => sum.plusFraction? unit part
      | _, sum => sum
    match sum with
    | some sum => .ok sum
    | none => .error .overflow

/-- One more character, which begins at `place`, after what has been read. -/
def step (sum : Span) (stage : Stage) (place : Nat) (c : Char) : Except SpanFault (Span × Stage) :=
  let next := place + c.utf8Size
  match stage with
  | .blank shown first =>
    match Number.digitOf? 10 c with
    | some d => .ok (sum, .number d)
    | none => if Text.isBlank c then .ok (sum, .blank shown first) else .error (.numberExpected shown)
  | .number count =>
    match Number.digitOf? 10 c with
    | some d =>
      match pushDigit? count d with
      | some count => .ok (sum, .number count)
      | none => .error .overflow
    | none =>
      if Text.isBlank c then .ok (sum, .number count)
      else if isUnitLetter c then .ok (sum, .unit count none [c])
      else if c = '.' then .ok (sum, .fraction count {} place)
      else .error (.invalidCharacter place)
  | .fraction count part shown =>
    match Number.digitOf? 10 c with
    | some d =>
      match pushDigit? part.digits d, pushDigit? part.scale 0 with
      | some digits, some scale => .ok (sum, .fraction count ⟨digits, scale⟩ next)
      | _, _ => .error .overflow
    | none =>
      if Text.isBlank c then .ok (sum, .fraction count part next)
      else if isUnitLetter c ∧ part.scale ≠ 1 then .ok (sum, .unit count (some part) [c])
      else .error (.invalidCharacter shown)
  | .unit count part letters =>
    match Number.digitOf? 10 c with
    | some d => (sum.plusItem count part letters).map fun sum => (sum, .number d)
    | none =>
      if Text.isBlank c then
        (sum.plusItem count part letters).map fun sum => (sum, .blank next false)
      else if isUnitLetter c then .ok (sum, .unit count part (c :: letters))
      else .error (.invalidCharacter place)

/-- The length once the text has ended. -/
def finish (sum : Span) : Stage → Except SpanFault Span
  | .blank _ first => if first then .error .empty else .ok sum
  | .number count => sum.plusItem count none []
  | .fraction count part shown =>
    if part.scale = 1 then .error (.invalidCharacter shown) else sum.plusItem count (some part) []
  | .unit count part letters => sum.plusItem count part letters

/-- The rest of a text after what has been read. -/
def readFrom (sum : Span) (stage : Stage) (place : Nat) : List Char → Except SpanFault Span
  | [] => finish sum stage
  | c :: cs =>
    match step sum stage place c with
    | .ok (sum, stage) => readFrom sum stage (place + c.utf8Size) cs
    | .error fault => .error fault

def ofText (s : String) : Except SpanFault Span := readFrom zero (.blank 0 true) 0 s.toList

end Span

end AutoProxy
