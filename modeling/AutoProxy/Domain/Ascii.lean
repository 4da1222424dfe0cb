import AutoProxy.Domain.Normal
import AutoProxy.Domain.Punycode
import AutoProxy.Domain.Table.Class

/-!
Domain names in ASCII. A name is mapped and composed; each of its labels has to be in order, and
a label beyond ASCII is then written in ASCII with a mark in front. A label that already has the
mark has to stand for one that would be written so.
-/

namespace AutoProxy.Domain

/-! ### Classes of characters -/

/-- The letter that a table of classes has for a character. -/
def letterIn (ranges : Array Text.Range) (c : Char) : Option Char :=
  (Text.Range.find? ranges c).bind fun r => r.note.head?

def markRanges : Array Text.Range := Text.Range.ofTable Table.marks

def directionRanges : Array Text.Range := Text.Range.ofTable Table.directions

def joiningRanges : Array Text.Range := Text.Range.ofTable Table.joining

def isMark (c : Char) : Bool := (letterIn markRanges c).isSome

inductive Direction where
  | leftToRight
  | rightToLeft
  | arabicLetter
  | arabicDigit
  | europeanDigit
  | neutral
  | nonspacing
  | other
deriving DecidableEq, Repr

def direction (c : Char) : Direction :=
  if letterIn markRanges c = some 'n' then .nonspacing
  else
    match letterIn directionRanges c with
    | none => .leftToRight
    | some 'r' => .rightToLeft
    | some 'a' => .arabicLetter
    | some 'n' => .arabicDigit
    | some 'e' => .europeanDigit
    | some 'x' => .other
    | some _ => .neutral

/-- Whether a character makes its name one with both directions. -/
def Direction.isRight : Direction → Bool
  | rightToLeft | arabicLetter | arabicDigit => true
  | _ => false

/-- Whether a label can be read in a name with both directions. It begins with a letter of its
main direction, holds nothing that is written against it, and ends in a letter or digit. -/
def isReadable (label : List Char) : Bool :=
  let classes := label.map direction
  let last := (classes.reverse.dropWhile (· == .nonspacing)).head?
  match classes with
  | [] => true
  | .leftToRight :: _ =>
    classes.all (fun d => [.leftToRight, .europeanDigit, .neutral, .nonspacing].contains d) &&
      (last == some .leftToRight || last == some .europeanDigit)
  | .rightToLeft :: _ | .arabicLetter :: _ =>
    classes.all (fun d => d != .leftToRight && d != .other) &&
      last.any (fun d => [.rightToLeft, .arabicLetter, .arabicDigit, .europeanDigit].contains d) &&
      !(classes.contains .europeanDigit && classes.contains .arabicDigit)
  | _ => false

/-! ### Joiners -/

/-- The character that forbids a join. -/
def nonJoiner : Char := '\u200C'

/-- The character that asks for a join. -/
def joiner : Char := '\u200D'

/-- The class of the mark that takes a vowel away; after it joiners have a meaning. -/
def vowelless : Nat := 9

/-- How a character joins: `l`, `r` or `d`; `t` for characters that are passed over. -/
def joins (c : Char) : Option Char :=
  if letterIn markRanges c = some 'n' then some 't' else letterIn joiningRanges c

/-- Whether the first character that is not passed over joins in one of the given ways. -/
def nextJoins (ways : List Char) (cs : List Char) : Bool :=
  match (cs.dropWhile fun c => joins c == some 't').head? with
  | some c => (joins c).any ways.contains
  | none => false

/-- Whether each joiner has a meaning where it stands; `before` is what precedes, from its end. -/
def joinersFit (before : List Char) : List Char → Bool
  | [] => true
  | c :: cs =>
    let afterVowelless := before.head?.any fun b => markClass b == vowelless
    let fits :=
      if c = joiner then afterVowelless
      else if c = nonJoiner then
        afterVowelless || (nextJoins ['l', 'd'] before && nextJoins ['r', 'd'] cs)
      else true
    fits && joinersFit (c :: before) cs

/-! ### Labels -/

def isForbidden (c : Char) : Bool :=
  c.toNat ≤ 32 || c.toNat == 127 ||
    ['%', '#', '/', ':', '<', '>', '?', '@', '[', '\\', ']', '^', '|'].contains c

/-- Whether a label, read from its ASCII form or not, is in order. -/
def isLabel (label : List Char) : Bool :=
  compose label == label && !label.head?.any isMark &&
    label.all (fun c => status c == .valid && c != '.' && !isForbidden c) && joinersFit [] label

/-- The mark in front of a label in ASCII that stands for one beyond it. -/
def aceMark : List Char := "xn--".toList

/-- A label as it reads: one in ASCII that has the mark is decoded. -/
def readLabel? (label : List Char) : Option (List Char) :=
  match Text.dropPrefix? aceMark label with
  | some text =>
    match Punycode.decode? text with
    | some read =>
      if read.any (fun c => 128 ≤ c.toNat) && isLabel read && Punycode.encode read == text then
        some read
      else none
    | none => none
  | none => if isLabel label then some label else none

def writeLabel (label : List Char) : List Char :=
  if label.all fun c => c.toNat < 128 then label else aceMark ++ Punycode.encode label

def toAscii? (name : List Char) : Option (List Char) := do
  let mapped ← mapName? name
  let labels ← (Text.split '.' (compose mapped)).mapM readLabel?
  let bothDirections := labels.any fun label => label.any fun c => (direction c).isRight
  if bothDirections && !labels.all isReadable then none
  return ['.'].intercalate (labels.map writeLabel)

end AutoProxy.Domain
