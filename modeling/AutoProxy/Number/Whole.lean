import AutoProxy.Text.Basic

/-!
Whole numbers written with digits: reading in a base, reading with a bound, and writing.
-/

namespace AutoProxy.Number

def wordLimit : Nat := 18446744073709551616

/-- The first number that does not fit in a word of 64 bits with a sign. -/
def signedLimit : Nat := 9223372036854775808

def digit? (c : Char) : Option Nat :=
  let n := c.toNat
  if 48 ≤ n ∧ n ≤ 57 then some (n - 48)
  else if 97 ≤ n ∧ n ≤ 102 then some (n - 87)
  else if 65 ≤ n ∧ n ≤ 70 then some (n - 55)
  else none

/-- The value of a digit, when it is one of the base. -/
def digitOf? (base : Nat) (c : Char) : Option Nat :=
  match digit? c with
  | some d => if d < base then some d else none
  | none => none

/-- The number that the digits denote after those already read as `value`. -/
def continueDigits? (base : Nat) : Nat → List Char → Option Nat
  | value, [] => some value
  | value, c :: cs =>
    match digitOf? base c with
    | some d => continueDigits? base (value * base + d) cs
    | none => none

/-- The number written by a non-empty list of digits of the base. -/
def ofDigits? (base : Nat) (cs : List Char) : Option Nat :=
  if cs.isEmpty then none else continueDigits? base 0 cs

/-- A decimal number below `bound`, with an optional plus sign. -/
def unsigned? (bound : Nat) (cs : List Char) : Option Nat :=
  let digits := match cs with
    | '+' :: rest => rest
    | _ => cs
  match ofDigits? 10 digits with
  | some n => if n < bound then some n else none
  | none => none

def signed64? (cs : List Char) : Option Int :=
  let (negative, digits) : Bool × List Char := match cs with
    | '-' :: rest => (true, rest)
    | '+' :: rest => (false, rest)
    | _ => (false, cs)
  match ofDigits? 10 digits with
  | none => none
  | some n =>
    if negative then (if n ≤ signedLimit then some (-(n : Int)) else none)
    else if n < signedLimit then some (n : Int) else none

/-- The decimal digits of a number, at least `width` of them. -/
def padded (width n : Nat) : String :=
  let digits := Nat.toDigits 10 n
  String.ofList (List.replicate (width - digits.length) '0' ++ digits)

def hex (n : Nat) : String := String.ofList (Nat.toDigits 16 n)

end AutoProxy.Number
