import AutoProxy.Number.Whole
import AutoProxy.Text.Table.Case

/-!
Characters of all scripts. What is to be known about them stands in tables of character ranges
(`Text.Range`): a table is read from a text whose rows hold the first character and the count of a range,
both hexadecimal with a colon after them, and what the table says about the range. Rows ascend, so that
the range of a character is found by halving.

Capitals and small letters are such tables. In its UTF-16 form a text is a list of units of 16 bits. A
character beyond the first 2^16 is a pair of surrogates; a surrogate that stands alone is no character, and
the two ways to show a list of units as text differ in what they put in its place.
-/

namespace AutoProxy.Text

/-- A range of characters with what a table says about it. -/
structure Range where
  first : Nat
  count : Nat
  note : List Char
deriving DecidableEq, Repr

namespace Range

def ofRow? (row : List Char) : Option Range := do
  let (first, rest) ← cut (· = ':') row
  let (count, note) ← cut (· = ':') rest
  return ⟨← Number.ofDigits? 16 first, ← Number.ofDigits? 16 count, note⟩

/-- The rows of a table, which stand between blanks. -/
def rowsOf (table : String) : List (List Char) :=
  (split ' ' (table.toList.map fun c => if c = '\n' then ' ' else c)).filter (!·.isEmpty)

def ofTable (table : String) : Array Range := ((rowsOf table).filterMap ofRow?).toArray

def contains (r : Range) (n : Nat) : Bool := r.first ≤ n && n < r.first + r.count

/-- The place of the last of the ranges from `low` to below `high` that does not begin after
`n`; each round halves the distance. -/
def place (ranges : Array Range) (n : Nat) : Nat → Nat → Nat → Nat
  | 0, low, _ => low
  | rounds + 1, low, high =>
    if high ≤ low + 1 then low
    else
      let middle := (low + high) / 2
      match ranges[middle]? with
      | some r => if r.first ≤ n then place ranges n rounds middle high
        else place ranges n rounds low middle
      | none => low

def find? (ranges : Array Range) (c : Char) : Option Range :=
  let n := c.toNat
  match ranges[place ranges n ranges.size 0 ranges.size]? with
  | some r => if r.contains n then some r else none
  | none => none

end Range

end AutoProxy.Text

/-! ## Capitals and small letters -/

namespace AutoProxy.Text.Case

/-- The letters with a capital, beyond ASCII. -/
def capitalRanges : Array Range := Range.ofTable Table.capitals

/-- The letters with a small form, beyond ASCII. -/
def smallRanges : Array Range := Range.ofTable Table.smallLetters

/-- The characters that hexadecimal numbers between commas stand for. -/
def charsOf (numbers : List Char) : List Char :=
  (split ',' numbers).filterMap fun digits => (Number.ofDigits? 16 digits).map Char.ofNat

def moved (r : Range) (c : Char) : List Char :=
  match r.note with
  | '=' :: numbers => charsOf numbers
  | every :: distance =>
    let isMeant := (c.toNat - r.first) % ((Number.digit? every).getD 1) == 0
    match isMeant, Number.signed64? distance with
    | true, some d => [Char.ofNat (c.toNat + d).toNat]
    | _, _ => [c]
  | [] => [c]

/-- A character in the case that the ranges lead to. -/
def inCase (ranges : Array Range) (c : Char) : List Char :=
  match Range.find? ranges c with
  | some r => moved r c
  | none => [c]

def upperChar (c : Char) : List Char :=
  if c.toNat < 128 then [c.toUpper] else inCase capitalRanges c

def lowerChar (c : Char) : List Char :=
  if c.toNat < 128 then [c.toLower] else inCase smallRanges c

end AutoProxy.Text.Case

/-! ## The UTF-16 form -/

namespace AutoProxy.Text.Utf16

/-! ### Writing -/

/-- The units of a code point. -/
def encodePoint (n : Nat) : List UInt16 :=
  if n < 0x10000 then [UInt16.ofNat n]
  else [UInt16.ofNat (0xD800 + (n - 0x10000) / 1024), UInt16.ofNat (0xDC00 + (n - 0x10000) % 1024)]

def encodeChar (c : Char) : List UInt16 := encodePoint c.toNat

def encode (cs : List Char) : List UInt16 := cs.flatMap encodeChar

/-! ### Reading -/

/-- Whether a unit is the first half of a pair. -/
def isHigh (u : UInt16) : Bool := 0xD800 ≤ u && u < 0xDC00

/-- Whether a unit is the second half of a pair. -/
def isLow (u : UInt16) : Bool := 0xDC00 ≤ u && u < 0xE000

def joined (high low : UInt16) : Char :=
  Char.ofNat (0x10000 + (high.toNat - 0xD800) * 1024 + (low.toNat - 0xDC00))

/-- The text of the units; `alone` is shown for a surrogate without its partner. -/
def decodeWith (alone : UInt16 → List Char) : List UInt16 → List Char
  | [] => []
  | [u] => if isHigh u || isLow u then alone u else [Char.ofNat u.toNat]
  | u :: v :: rest =>
    if isHigh u then
      if isLow v then joined u v :: decodeWith alone rest
      else alone u ++ decodeWith alone (v :: rest)
    else if isLow u then alone u ++ decodeWith alone (v :: rest)
    else Char.ofNat u.toNat :: decodeWith alone (v :: rest)

/-- The text of the units, with a replacement character for each surrogate that stands alone. -/
def decodeLossy (us : List UInt16) : List Char := decodeWith (fun _ => ['\uFFFD']) us

/-- An escape that names a unit: four large hexadecimal digits. -/
def escape (u : UInt16) : List Char :=
  let digits := Nat.toDigits 16 u.toNat
  '\\' :: 'u' :: (List.replicate (4 - digits.length) '0' ++ digits.map Char.toUpper)

/-- The text of the units, with an escape for each surrogate that stands alone. -/
def decodeEscaped (us : List UInt16) : List Char := decodeWith escape us

/-! ### Strings -/

def ofString (s : String) : List UInt16 := encode s.toList

def toString (us : List UInt16) : String := String.ofList (decodeEscaped us)

/-! ### Cases of letters -/

/-- The units with every character replaced; a surrogate that stands alone stays. -/
def mapChars (f : Char → List Char) : List UInt16 → List UInt16
  | [] => []
  | [u] => if isHigh u || isLow u then [u] else encode (f (Char.ofNat u.toNat))
  | u :: v :: rest =>
    if isHigh u && isLow v then encode (f (joined u v)) ++ mapChars f rest
    else if isHigh u || isLow u then u :: mapChars f (v :: rest)
    else encode (f (Char.ofNat u.toNat)) ++ mapChars f (v :: rest)

def upper (us : List UInt16) : List UInt16 := mapChars Case.upperChar us

def lower (us : List UInt16) : List UInt16 := mapChars Case.lowerChar us

end AutoProxy.Text.Utf16
