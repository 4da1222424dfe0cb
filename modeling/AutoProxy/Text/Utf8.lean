/-!
The UTF-8 form of a text: writing it, the places at which it can be cut, and reading it with what is
malformed set apart.

Reading is one pass with a state that says which byte may follow. A malformed run of bytes is
the longest start of a character that its next byte does not continue, or else a single byte;
each such run yields one gap. `decodeLossy` fills the gaps, `decode?` admits none.
-/

namespace AutoProxy.Text.Utf8

/-- The character shown in place of what cannot be read. -/
def replacement : Char := '\uFFFD'

/-! ### Writing -/

def encodeChar (c : Char) : List UInt8 :=
  let n := c.toNat
  let tail (shift : Nat) : UInt8 := UInt8.ofNat (0x80 + (n >>> shift) % 64)
  if n < 0x80 then [UInt8.ofNat n]
  else if n < 0x800 then [UInt8.ofNat (0xC0 + n / 64), tail 0]
  else if n < 0x10000 then [UInt8.ofNat (0xE0 + n / 4096), tail 6, tail 0]
  else [UInt8.ofNat (0xF0 + n / 262144), tail 12, tail 6, tail 0]

def encode (cs : List Char) : List UInt8 := cs.flatMap encodeChar

/-! ### Places

A place in a text is counted in bytes from its start. A text can be cut only between two characters,
or at one of its ends.
-/

/-- Whether a byte goes on with a character that has begun before it. -/
def isContinuation (b : UInt8) : Bool := 0x80 ≤ b && b < 0xC0

/-- Whether a text can be cut at a place. -/
def isBoundary (bs : List UInt8) (place : Nat) : Bool :=
  match bs[place]? with
  | some b => !isContinuation b
  | none => place == bs.length

/-- The bytes from a place on, if the text can be cut there. -/
def cutAt? (bs : List UInt8) (place : Nat) : Option (List UInt8) :=
  if isBoundary bs place then some (bs.drop place) else none

/-! ### Reading -/

/-- What is known of a character that has begun: how many bytes are missing, the bounds of the
next one, and the value of the bits so far. -/
structure Begun where
  missing : Nat
  low : UInt8
  high : UInt8
  value : Nat
deriving DecidableEq, Repr

/-- What a byte means where a character has to begin. -/
inductive Start where
  | whole (c : Char)
  | begun (b : Begun)
  | malformed

/-- The start of a character. Bytes that would begin a needlessly long form, a surrogate or a
value past the last character are kept out by the bounds of the second byte. -/
def start (b : UInt8) : Start :=
  let n := b.toNat
  if n < 0x80 then .whole (Char.ofNat n)
  else if n < 0xC2 then .malformed
  else if n < 0xE0 then .begun ⟨1, 0x80, 0xBF, n - 0xC0⟩
  else if n < 0xF0 then
    .begun ⟨2, if n = 0xE0 then 0xA0 else 0x80, if n = 0xED then 0x9F else 0xBF, n - 0xE0⟩
  else if n < 0xF5 then
    .begun ⟨3, if n = 0xF0 then 0x90 else 0x80, if n = 0xF4 then 0x8F else 0xBF, n - 0xF0⟩
  else .malformed

/-- The characters of a run of bytes, a gap for each malformed run; `begun` is the character
that has begun, if one has. -/
def unitsAfter : Option Begun → List UInt8 → List (Option Char)
  | none, [] => []
  | some _, [] => [none]
  | none, b :: bs =>
    match start b with
    | .whole c => some c :: unitsAfter none bs
    | .begun s => unitsAfter (some s) bs
    | .malformed => none :: unitsAfter none bs
  | some s, b :: bs =>
    if s.low ≤ b ∧ b ≤ s.high then
      let value := s.value * 64 + (b.toNat - 0x80)
      if s.missing = 1 then some (Char.ofNat value) :: unitsAfter none bs
      else unitsAfter (some ⟨s.missing - 1, 0x80, 0xBF, value⟩) bs
    else
      none :: match start b with
        | .whole c => some c :: unitsAfter none bs
        | .begun s => unitsAfter (some s) bs
        | .malformed => none :: unitsAfter none bs

/-- The characters of a run of bytes, a gap for each malformed run. -/
def units (bs : List UInt8) : List (Option Char) := unitsAfter none bs

/-- The text of the bytes, each gap filled with the replacement character. -/
def decodeLossy (bs : List UInt8) : List Char := (units bs).map (·.getD replacement)

/-- The text of the bytes, if nothing in them is malformed. -/
def decode? (bs : List UInt8) : Option (List Char) := (units bs).mapM id

end AutoProxy.Text.Utf8
