import AutoProxy.Text.Basic

/-!
Labels of domain names in ASCII. The characters beyond ASCII are taken in the order of their
numbers; each is written as the count of steps from the one before it, a step being one place in
the label or one turn to the next number. Counts are numbers of variable length whose digits have
thresholds that adapt to the label.
-/

namespace AutoProxy.Domain.Punycode

/-- The digit of a value below thirty-six: letters, then decimal digits. -/
def digit (value : Nat) : Char :=
  if value < 26 then Char.ofNat (97 + value) else Char.ofNat (48 + (value - 26))

def value? (c : Char) : Option Nat :=
  let n := c.toNat
  if 97 ≤ n ∧ n ≤ 122 then some (n - 97)
  else if 65 ≤ n ∧ n ≤ 90 then some (n - 65)
  else if 48 ≤ n ∧ n ≤ 57 then some (n - 48 + 26)
  else none

/-- The threshold of the digit with the given weight: at least 1 and at most 26. -/
def threshold (weight bias : Nat) : Nat := max 1 (min 26 (weight - bias))

/-- The bias for the next count, from this one halved or divided and scaled down. -/
def scaleDown : Nat → Nat → Nat → Nat
  | 0, delta, turns => turns + 36 * delta / (delta + 38)
  | rounds + 1, delta, turns =>
    if 455 < delta then scaleDown rounds (delta / 35) (turns + 36)
    else turns + 36 * delta / (delta + 38)

/-- The bias after a count, in a label that now has so many characters. -/
def adapt (delta length : Nat) (first : Bool) : Nat :=
  let delta := if first then delta / 700 else delta / 2
  scaleDown delta (delta + delta / length) 0

/-! ### Writing -/

/-- A count as digits, the least significant first. The count of rounds is bounded by the count
itself, which each round makes smaller. -/
def digits (bias : Nat) : Nat → Nat → Nat → List Char
  | 0, _, _ => []
  | rounds + 1, weight, count =>
    let t := threshold weight bias
    if count < t then [digit count]
    else digit (t + (count - t) % (36 - t)) :: digits bias rounds (weight + 36) ((count - t) / (36 - t))

/-- The state of writing: what is written, from its end; the steps since the last count; the
bias; and how many characters are done. -/
structure Writer where
  out : List Char
  steps : Nat
  bias : Nat
  done : Nat

/-- One place of the label, while the characters with number `n` are written. -/
def Writer.pass (basic n : Nat) (w : Writer) (c : Char) : Writer :=
  if c.toNat < n then { w with steps := w.steps + 1 }
  else if c.toNat = n then
    { out := (digits w.bias (w.steps + 1) 36 w.steps).reverse ++ w.out
      steps := 0
      bias := adapt w.steps (w.done + 1) (w.done = basic)
      done := w.done + 1 }
  else w

/-- The characters of the label from the number `n` on; `rest` holds the numbers to come, in
ascending order. -/
def Writer.run (label : List Char) (basic : Nat) : List Nat → Nat → Writer → Writer
  | [], _, w => w
  | m :: rest, n, w =>
    let w := { w with steps := w.steps + (m - n) * (w.done + 1) }
    let w := label.foldl (Writer.pass basic m) w
    Writer.run label basic rest (m + 1) { w with steps := w.steps + 1 }

/-- A number put into an ascending list that holds each number once. -/
def insertNumber (n : Nat) : List Nat → List Nat
  | [] => [n]
  | m :: ms => if n < m then n :: m :: ms else if n = m then m :: ms else m :: insertNumber n ms

/-- The numbers of the characters beyond ASCII, ascending, each once. -/
def numbers (label : List Char) : List Nat :=
  ((label.filter fun c => 128 ≤ c.toNat).map Char.toNat).foldr insertNumber []

/-- The label in ASCII, without the mark in front: its own ASCII characters, a hyphen if there
are any, and the counts. -/
def encode (label : List Char) : List Char :=
  let basic := label.filter fun c => c.toNat < 128
  let w := Writer.run label basic.length (numbers label) 128 ⟨[], 0, 72, basic.length⟩
  basic ++ (if basic.isEmpty then [] else ['-']) ++ w.out.reverse

/-! ### Reading -/

/-- A count and what follows it; `sum` is what has been counted so far. -/
def count? (bias : Nat) : Nat → Nat → Nat → List Char → Option (Nat × List Char)
  | _, _, _, [] => none
  | weight, unit, sum, c :: cs =>
    match value? c with
    | none => none
    | some v =>
      let t := threshold weight bias
      if v < t then some (sum + v * unit, cs)
      else count? bias (weight + 36) (unit * (36 - t)) (sum + v * unit) cs

/-- The label with the counted characters put in; `steps` counts from the start of the label at
the number `n`. The rounds are bounded by the length of the text. -/
def fillIn? : Nat → Nat → Nat → Nat → List Char → List Char → Option (List Char)
  | _, _, _, _, label, [] => some label
  | 0, _, _, _, _, _ :: _ => none
  | rounds + 1, bias, n, steps, label, c :: cs =>
    match count? bias 36 1 steps (c :: cs) with
    | none => none
    | some (sum, rest) =>
      let length := label.length + 1
      let n := n + sum / length
      let place := sum % length
      if n < 0xD800 ∨ (0xDFFF < n ∧ n < 0x110000) then
        let label := label.take place ++ Char.ofNat n :: label.drop place
        fillIn? rounds (adapt (sum - steps) length (steps = 0)) n (place + 1) label rest
      else none

/-- The label that a text in ASCII stands for, the mark in front taken off. -/
def decode? (text : List Char) : Option (List Char) :=
  let (basic, counts) := match Text.cutLast (· = '-') text with
    | some (basic, counts) => (basic, counts)
    | none => ([], text)
  if basic.all (fun c => c.toNat < 128) then fillIn? counts.length 72 128 0 basic counts else none

end AutoProxy.Domain.Punycode
