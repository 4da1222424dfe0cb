import AutoProxy.Number.Whole

/-!
Addresses of the internet protocol, versions four and six: reading the standard texts, writing
them, and the numeric forms of version four that name resolution also accepts.

A lookup leads from a host name to addresses in order, or to none. The one that needs no server knows
address literals, the numeric forms and the name of the machine itself.
-/

namespace AutoProxy

/-- An address of version four as a word, the first octet most significant. -/
structure IPv4 where
  bits : UInt32
deriving DecidableEq, Repr

/-- An address of version six as its eight groups of sixteen bits. -/
structure IPv6 where
  groups : List UInt16
  length_groups : groups.length = 8
deriving DecidableEq, Repr

inductive Address where
  | v4 (address : IPv4)
  | v6 (address : IPv6)
deriving DecidableEq, Repr

namespace IPv4

def ofOctets (a b c d : Nat) : IPv4 := ⟨UInt32.ofNat (((a * 256 + b) * 256 + c) * 256 + d)⟩

/-- An octet: one to three decimal digits without a superfluous zero in front. -/
def octet? (cs : List Char) : Option Nat :=
  match cs with
  | ['0'] => some 0
  | '0' :: _ => none
  | _ =>
    if cs.length ≤ 3 then
      match Number.ofDigits? 10 cs with
      | some n => if n < 256 then some n else none
      | none => none
    else none

/-- An address in dotted decimal notation, four octets exactly. -/
def ofChars? (cs : List Char) : Option IPv4 :=
  match Text.split '.' cs with
  | [a, b, c, d] =>
    match octet? a, octet? b, octet? c, octet? d with
    | some a, some b, some c, some d => some (ofOctets a b c d)
    | _, _, _, _ => none
  | _ => none

def toText (a : IPv4) : String :=
  let n := a.bits.toNat
  s!"{n / 16777216}.{n / 65536 % 256}.{n / 256 % 256}.{n % 256}"

/-! ### Numeric forms

One to four numbers between dots, each decimal, octal (leading zero) or hexadecimal (leading
`0x`). All but the last are octets; the last one fills the remaining octets. -/

/-- A number in the notation of the base that its start announces. -/
def numeral? : List Char → Option Nat
  | '0' :: 'x' :: cs => Number.ofDigits? 16 cs
  | '0' :: 'X' :: cs => Number.ofDigits? 16 cs
  | '0' :: c :: cs => Number.ofDigits? 8 (c :: cs)
  | cs => Number.ofDigits? 10 cs

/-- The address of a list of numbers, where `value` and `room` are the number made of the octets
so far and the count of octets still to fill. -/
def fill? : Nat → Nat → List Nat → Option IPv4
  | _, _, [] => none
  | value, room, [n] =>
    if n < Nat.pow 256 room then some ⟨UInt32.ofNat (value * Nat.pow 256 room + n)⟩ else none
  | _, 0, _ :: _ => none
  | value, room + 1, n :: ns => if n < 256 then fill? (value * 256 + n) room ns else none

def ofNumeric? (cs : List Char) : Option IPv4 := do
  let numbers ← (Text.split '.' cs).mapM numeral?
  if numbers.length ≤ 4 then fill? 0 4 numbers else none

end IPv4

namespace IPv6

/-- A group: one to four hexadecimal digits. -/
def group? (cs : List Char) : Option UInt16 :=
  if cs.length ≤ 4 then (Number.ofDigits? 16 cs).map UInt16.ofNat else none

/-- The two groups of an address of version four. -/
def ofEmbedded (a : IPv4) : List UInt16 :=
  [UInt16.ofNat (a.bits.toNat / 65536), UInt16.ofNat (a.bits.toNat % 65536)]

/-- Groups between colons; the last one may be an address of version four if `embedded`. -/
def groups? (embedded : Bool) : List (List Char) → Option (List UInt16)
  | [] => some []
  | [last] =>
    match group? last with
    | some g => some [g]
    | none => if embedded then (IPv4.ofChars? last).map ofEmbedded else none
  | cs :: rest =>
    match group? cs, groups? embedded rest with
    | some g, some gs => some (g :: gs)
    | _, _ => none

/-- The groups of one side of a gap; the side may be empty. -/
def side? (embedded : Bool) (cs : List Char) : Option (List UInt16) :=
  if cs.isEmpty then some [] else groups? embedded (Text.split ':' cs)

/-- The text before and after the first pair of colons. -/
def cutGap : List Char → Option (List Char × List Char)
  | ':' :: ':' :: cs => some ([], cs)
  | c :: cs => (cutGap cs).map fun (before, after) => (c :: before, after)
  | [] => none

def ofGroups? (groups : List UInt16) : Option IPv6 :=
  if h : groups.length = 8 then some ⟨groups, h⟩ else none

/-- An address in the standard notation: eight groups, or fewer with one pair of colons that
stands for the missing ones, at least one; the last two groups may be written as an address of
version four. -/
def ofChars? (cs : List Char) : Option IPv6 :=
  match cutGap cs with
  | none => (groups? true (Text.split ':' cs)).bind ofGroups?
  | some (before, after) =>
    match side? false before, side? true after with
    | some front, some back =>
      if front.length + back.length ≤ 7 then
        ofGroups? (front ++ List.replicate (8 - (front.length + back.length)) 0 ++ back)
      else none
    | _, _ => none

/-- The length of the run of zero groups at the start. -/
def zeros (groups : List UInt16) : Nat := (groups.takeWhile (· == 0)).length

/-- Start and length of the longest run of zero groups, the first of equals; `index` counts the
groups already passed. -/
def longestZeros (index : Nat) : List UInt16 → Nat × Nat
  | [] => (index, 0)
  | g :: gs =>
    let here := zeros (g :: gs)
    let later := longestZeros (index + 1) gs
    if later.2 ≤ here then (index, here) else later

/-- Groups in hexadecimal with colons between them. -/
def groupsText (groups : List UInt16) : String :=
  ":".intercalate (groups.map fun g => Number.hex g.toNat)

/-- The notation with the longest run of two or more zero groups left out. -/
def compressed (groups : List UInt16) : String :=
  let (start, length) := longestZeros 0 groups
  if length ≤ 1 then groupsText groups
  else groupsText (groups.take start) ++ "::" ++ groupsText (groups.drop (start + length))

/-- The standard notation; an address of version four mapped into version six keeps its dots. -/
def toText (a : IPv6) : String :=
  match a.groups with
  | [0, 0, 0, 0, 0, 0xFFFF, high, low] =>
    "::ffff:" ++ IPv4.toText ⟨UInt32.ofNat (high.toNat * 65536 + low.toNat)⟩
  | groups => compressed groups

end IPv6

namespace Address

def isV4 : Address → Bool
  | v4 _ => true
  | v6 _ => false

def toText : Address → String
  | v4 a => a.toText
  | v6 a => a.toText

/-- An address in the standard notation of either version. -/
def ofChars? (cs : List Char) : Option Address :=
  match IPv4.ofChars? cs with
  | some a => some (v4 a)
  | none => (IPv6.ofChars? cs).map v6

def ofString? (s : String) : Option Address := ofChars? s.toList

end Address

/-! ## Lookups -/

/-- The addresses found for a host name, in order; empty when there are none. -/
abbrev Lookup := List Char → List Address

namespace Lookup

def loopback : Address := .v4 (IPv4.ofOctets 127 0 0 1)

/-- The lookup that knows address literals, numeric forms and `localhost`. -/
def withoutServer : Lookup := fun host =>
  match Address.ofChars? host with
  | some a => [a]
  | none =>
    match IPv4.ofNumeric? host with
    | some a => [.v4 a]
    | none => if Text.sameIgnoringCase host "localhost".toList then [loopback] else []

end Lookup

/-- Each address once, at the place where it comes first; `seen` holds those already given. -/
def distinctAfter (seen : List Address) : List Address → List Address
  | [] => []
  | a :: rest => if seen.contains a then distinctAfter seen rest else a :: distinctAfter (a :: seen) rest

/-- The distinct addresses of a host, blanks around its name ignored; a blank name has none. -/
def Lookup.addresses (lookup : Lookup) (host : String) : List Address :=
  let name := Text.trim host.toList
  if name.isEmpty then [] else distinctAfter [] (lookup name)

end AutoProxy
