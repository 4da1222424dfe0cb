import AutoProxy.Number.Whole

/-!
What a double stands for: sign, mantissa and power of two, the integer part, and the exact
remainder of a division. All of it is computed on integers from the bits of the double.

A double is written with the fewest decimal digits that still read back as it. Of the decimal grids with
1, 2, … 17 digits the first one with a point in the interval of reals that round to the double
is taken; of two such points the nearer, and of two equally near the even one.
-/

namespace AutoProxy.Number

/-- A finite double: `mantissa * 2 ^ exponent`, negated if `negative`. -/
structure Parts where
  negative : Bool
  mantissa : Nat
  exponent : Int
deriving DecidableEq, Repr

/-- The leading binary digit of a mantissa of full length, which is not stored. -/
def leadingDigit : Nat := 4503599627370496

/-- The parts of a finite double; an infinity and a value that is not a number have none. -/
def parts? (x : Float) : Option Parts :=
  let bits := x.toBits
  let biased := ((bits >>> 52) &&& 0x7FF).toNat
  let fraction := (bits &&& 0xFFFFFFFFFFFFF).toNat
  let negative := bits >>> 63 == 1
  if biased = 2047 then none
  else if biased = 0 then some ⟨negative, fraction, -1074⟩
  else some ⟨negative, fraction + leadingDigit, (biased : Int) - 1075⟩

def Parts.floor (p : Parts) : Nat :=
  if 0 ≤ p.exponent then p.mantissa * Nat.pow 2 p.exponent.toNat
  else p.mantissa / Nat.pow 2 (-p.exponent).toNat

def Parts.truncate (p : Parts) : Int :=
  if p.negative then -(p.floor : Int) else (p.floor : Int)

/-- The integer part of a finite double, toward zero. -/
def truncate? (x : Float) : Option Int := (parts? x).map Parts.truncate

def clamp64 (n : Int) : Int :=
  if n < -signedLimit then -signedLimit else if n < signedLimit then n else signedLimit - 1

def ofInt (n : Int) : Float :=
  if n < 0 then -(Float.ofScientific n.natAbs false 0) else Float.ofScientific n.natAbs false 0

/-- `m * 2 ^ e` as a double, for a mantissa and exponent that came out of doubles, hence exact. -/
def ofBinary (m : Nat) (e : Int) : Float :=
  if 0 ≤ e then Float.ofScientific (m * Nat.pow 2 e.toNat) false 0
  else Float.ofScientific (m * Nat.pow 5 (-e).toNat) true (-e).toNat

/-- The remainder of a division that goes toward zero; it has the sign of the dividend. -/
def remainder (x y : Float) : Float :=
  match parts? x, parts? y with
  | some a, some b =>
    if b.mantissa = 0 then 0.0 / 0.0
    else
      let e := min a.exponent b.exponent
      let m := a.mantissa * Nat.pow 2 (a.exponent - e).toNat
      let n := b.mantissa * Nat.pow 2 (b.exponent - e).toNat
      let r := ofBinary (m % n) e
      if a.negative then -r else r
  | some _, none => if y == y then x else y
  | none, _ => 0.0 / 0.0

/-! ## Shortest digits -/

/-- A decimal text of a positive value: `0.digits * 10 ^ point`. -/
structure Decimal where
  digits : List Char
  point : Int
deriving DecidableEq, Repr

/-- A positive rational with the bounds of the interval around it, over a common denominator. -/
structure Interval where
  value : Nat
  lower : Nat
  upper : Nat
  denominator : Nat
  closed : Bool

/-- The interval of reals that round to a double: half a step to either side, but a quarter of
one below a power of two; the ends belong to it when the mantissa is even. -/
def Parts.interval (p : Parts) : Interval :=
  let narrow := p.mantissa == leadingDigit && p.exponent != -1074
  let scale := if 2 ≤ p.exponent then Nat.pow 2 (p.exponent - 2).toNat else 1
  { value := 4 * p.mantissa * scale
    lower := (4 * p.mantissa - if narrow then 1 else 2) * scale
    upper := (4 * p.mantissa + 2) * scale
    denominator := if 2 ≤ p.exponent then 1 else Nat.pow 2 (2 - p.exponent).toNat
    closed := p.mantissa % 2 == 0 }

/-- The least `k` below the fuel for which `value * 10 ^ k` reaches `denominator`. -/
def liftCount (value denominator : Nat) : Nat → Nat
  | 0 => 0
  | fuel + 1 => if denominator ≤ value then 0 else liftCount (value * 10) denominator fuel + 1

/-- The power of ten at or below the value, as an exponent. -/
def Interval.magnitude (i : Interval) : Int :=
  if i.denominator ≤ i.value then ((Nat.toDigits 10 (i.value / i.denominator)).length : Int) - 1
  else -(liftCount i.value i.denominator 400 : Int)

/-- The point of the grid of multiples of `10 ^ power` that lies in the interval and is nearest
to the value. -/
def Interval.onGrid? (i : Interval) (power : Int) : Option Nat :=
  let up := if 0 ≤ power then Nat.pow 10 power.toNat else 1
  let down := if 0 ≤ power then 1 else Nat.pow 10 (-power).toNat
  let step := up * i.denominator
  let low := i.value * down / step
  let high := low + 1
  let inside (n : Nat) : Bool :=
    let point := n * step
    if i.closed then i.lower * down ≤ point && point ≤ i.upper * down
    else i.lower * down < point && point < i.upper * down
  match inside low && low != 0, inside high with
  | false, false => none
  | true, false => some low
  | false, true => some high
  | true, true =>
    let below := i.value * down - low * step
    let above := high * step - i.value * down
    if below < above then some low
    else if above < below then some high
    else if low % 2 == 0 then some low else some high

/-- The first of the grids with `count`, `count + 1`, … digits that has a point inside. -/
def Interval.search (i : Interval) (magnitude : Int) : Nat → Nat → Nat × Int
  | _, 0 => (0, magnitude)
  | count, fuel + 1 =>
    let power := magnitude - (count : Int) + 1
    match i.onGrid? power with
    | some n => (n, power)
    | none => i.search magnitude (count + 1) fuel

def stripZeros (digits : List Char) : List Char := (digits.reverse.dropWhile (· == '0')).reverse

/-- The fewest digits that read back as the double, for a value other than zero. -/
def Parts.shortest (p : Parts) : Decimal :=
  let i := p.interval
  let (n, power) := i.search i.magnitude 1 17
  let digits := Nat.toDigits 10 n
  { digits := stripZeros digits, point := power + digits.length }

/-- The digits in full, without an exponent. -/
def Decimal.positional (d : Decimal) : List Char :=
  let count : Int := d.digits.length
  if d.point ≤ 0 then '0' :: '.' :: (List.replicate (-d.point).toNat '0' ++ d.digits)
  else if count ≤ d.point then d.digits ++ List.replicate (d.point - count).toNat '0'
  else d.digits.take d.point.toNat ++ '.' :: d.digits.drop d.point.toNat

/-- A finite double of any size in full, without an exponent. -/
def plainText (x : Float) : String :=
  match parts? x with
  | none => if x == x then (if x < 0 then "-inf" else "inf") else "NaN"
  | some p =>
    let text := if p.mantissa = 0 then ['0'] else p.shortest.positional
    String.ofList (if p.negative then '-' :: text else text)

end AutoProxy.Number
