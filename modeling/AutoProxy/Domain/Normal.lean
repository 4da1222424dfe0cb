import AutoProxy.Domain.Table.Composition
import AutoProxy.Domain.Table.Mapping
import AutoProxy.Text.Unicode

/-!
The first steps of reading a domain name. Characters that mean the same are made one: capitals
become small letters, compatible forms their plain forms; some characters are left out and many
are not allowed at all.

A letter with a mark can be written as one character or as two, and several marks in more than one
order; the composed form is the same for all of them. Characters are taken apart, the marks after each
letter are ordered by their classes, and what can be joined again is joined.
-/

namespace AutoProxy.Domain

/-! ## Mapping -/

/-- How a character counts in a domain name. -/
inductive Status where
  | valid
  | ignored
  | mapped (replacement : List Char)
  | disallowed
deriving DecidableEq, Repr

def mappingRanges : Array Text.Range := Text.Range.ofTable Table.mapping

/-- What a row of the mapping says about the character with this number. -/
def statusIn (r : Text.Range) (n : Nat) : Status :=
  let index := n - r.first
  match r.note with
  | 'v' :: _ => .valid
  | 'i' :: _ => .ignored
  | 'p' :: _ => if index % 2 = 0 then .mapped [Char.ofNat (n + 1)] else .valid
  | 's' :: target =>
    match Number.ofDigits? 16 target with
    | some start => .mapped [Char.ofNat (start + index)]
    | none => .disallowed
  | 'm' :: words =>
    match (Text.split '▸' words)[index]? with
    | some word => .mapped (word.map fun c => if c = '␣' then ' ' else c)
    | none => .disallowed
  | _ => .disallowed

def status (c : Char) : Status :=
  match Text.Range.find? mappingRanges c with
  | some r => statusIn r c.toNat
  | none => .disallowed

/-- The name with each character replaced as the mapping says, if all are allowed. -/
def mapName? : List Char → Option (List Char)
  | [] => some []
  | c :: cs =>
    match status c with
    | .valid => (mapName? cs).map (c :: ·)
    | .ignored => mapName? cs
    | .mapped replacement => (mapName? cs).map (replacement ++ ·)
    | .disallowed => none

/-! ## Composition -/

/-- A composition: the character made of a character and a mark. -/
structure Pair where
  base : Char
  mark : Char
  whole : Char
deriving DecidableEq, Repr

/-- The compositions with one mark: each base is followed by what it becomes. -/
def pairsOf (mark : Char) : List Char → List Pair
  | base :: whole :: rest => ⟨base, mark, whole⟩ :: pairsOf mark rest
  | _ => []

def pairsOfRow (row : List Char) : List Pair :=
  match Text.cut (· = ':') row with
  | some (mark, rest) =>
    match Number.ofDigits? 16 mark with
    | some n => pairsOf (Char.ofNat n) rest
    | none => []
  | none => []

/-- All compositions but those of Korean syllables, which follow a rule of their own. -/
def pairs : List Pair := (Text.Range.rowsOf Table.pairs).flatMap pairsOfRow

def classRanges : Array Text.Range := Text.Range.ofTable Table.classes

/-- The class by which a mark is ordered; zero for characters that stay where they are. -/
def markClass (c : Char) : Nat :=
  match Text.Range.find? classRanges c with
  | some r => (Number.ofDigits? 10 r.note).getD 0
  | none => 0

/-! ### Korean syllables

A syllable is a leading consonant, a vowel and possibly a trailing consonant; syllables are
numbered in that order. -/

namespace Hangul

def syllables : Nat := 0xAC00

def leading : Nat := 0x1100

def vowels : Nat := 0x1161

/-- The number before the first trailing consonant. -/
def trailing : Nat := 0x11A7

/-- The counts of vowels and of trailing consonants with the choice of none. -/
def vowelCount : Nat := 21

/-- The count of trailing consonants, with the choice of none. -/
def trailingCount : Nat := 28

def count : Nat := 19 * vowelCount * trailingCount

def parts? (c : Char) : Option (List Char) :=
  let n := c.toNat
  if syllables ≤ n ∧ n < syllables + count then
    let index := n - syllables
    let lead := Char.ofNat (leading + index / (vowelCount * trailingCount))
    let vowel := Char.ofNat (vowels + index % (vowelCount * trailingCount) / trailingCount)
    let last := index % trailingCount
    some (lead :: vowel :: if last = 0 then [] else [Char.ofNat (trailing + last)])
  else none

def join? (a b : Char) : Option Char :=
  let m := a.toNat
  let n := b.toNat
  if leading ≤ m ∧ m < leading + 19 ∧ vowels ≤ n ∧ n < vowels + vowelCount then
    some (Char.ofNat (syllables + ((m - leading) * vowelCount + (n - vowels)) * trailingCount))
  else if syllables ≤ m ∧ m < syllables + count ∧ (m - syllables) % trailingCount = 0 ∧
      trailing < n ∧ n < trailing + trailingCount then
    some (Char.ofNat (m + (n - trailing)))
  else none

end Hangul

/-! ### Taking apart and joining -/

/-- The parts of a character; no character has parts nested deeper than the rounds given. -/
def partsWithin : Nat → Char → List Char
  | 0, c => [c]
  | rounds + 1, c =>
    match Hangul.parts? c with
    | some parts => parts
    | none =>
      match pairs.find? fun p => p.whole == c with
      | some p => partsWithin rounds p.base ++ [p.mark]
      | none => [c]

def charParts (c : Char) : List Char := if c.toNat < 0xC0 then [c] else partsWithin 4 c

/-- A character put behind the text, before marks of higher class; the text is given from its
end. -/
def putMark (c : Char) : List Char → List Char
  | [] => [c]
  | d :: ds => if 0 < markClass c ∧ markClass c < markClass d then d :: putMark c ds else c :: d :: ds

/-- The marks after each letter in the order of their classes. -/
def ordered (cs : List Char) : List Char := (cs.foldl (fun done c => putMark c done) []).reverse

def join? (a b : Char) : Option Char :=
  if a.toNat < 0x80 ∧ b.toNat < 0x80 then none
  else
    match Hangul.join? a b with
    | some c => some c
    | none => (pairs.find? fun p => p.base == a && p.mark == b).map Pair.whole

/-- A text being joined: what is finished, the letter that marks are joined to, and the marks
after it that stay; the two lists are kept from their ends. -/
structure Joining where
  finished : List Char := []
  letter : Option Char := none
  marks : List Char := []

def Joining.toReversed (j : Joining) : List Char :=
  match j.letter with
  | some c => j.marks ++ c :: j.finished
  | none => j.finished

/-- One more character. A mark reaches the letter if no mark between has its class or a higher
one. -/
def Joining.add (j : Joining) (c : Char) : Joining :=
  match j.letter with
  | none =>
    if markClass c = 0 then { j with letter := some c } else { j with finished := c :: j.finished }
  | some letter =>
    let reaches := match j.marks with
      | [] => true
      | m :: _ => markClass m < markClass c
    match if reaches then join? letter c else none with
    | some whole => { j with letter := some whole }
    | none =>
      if markClass c = 0 then ⟨j.toReversed, some c, []⟩ else { j with marks := c :: j.marks }

def compose (cs : List Char) : List Char :=
  ((ordered (cs.flatMap charParts)).foldl Joining.add {}).toReversed.reverse

end AutoProxy.Domain
