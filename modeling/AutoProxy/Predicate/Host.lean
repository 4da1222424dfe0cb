import AutoProxy.Address
import AutoProxy.Text.Basic
import AutoProxy.Text.Utf8

/-!
Predicates on hosts. Those on names are tests on the text of the name alone. Those that need to find the
addresses of a host take the lookup as an argument; a host without addresses is an answer, not an error.

Names are compared with shell expressions, in which `*` is the only wildcard. A pattern is a list of
literal runs; a text matches when it holds the runs in order, without overlap, anything before, between
and after them. `Text.Wildcard.Spaced` states this on its own, and `Text.Wildcard.scan` decides it on the
bytes of the text, from left to right, by taking each run at its first place.
-/

namespace AutoProxy.Text.Wildcard

/-! ## Shell expressions -/

/-- The non-empty runs of the pattern between its stars. -/
def literals (pattern : List Char) : List (List Char) :=
  (split '*' pattern).filter fun run => !run.isEmpty

/-- The text is made of the runs in order with arbitrary text before, between and after them. -/
inductive Spaced : List (List Char) → List Char → Prop where
  | nil (cs : List Char) : Spaced [] cs
  | cons (gap run : List Char) {runs : List (List Char)} {rest : List Char} :
      Spaced runs rest → Spaced (run :: runs) (gap ++ run ++ rest)

/-- The first place at which `part` occurs in the bytes, the first of which is at `place`. -/
def find? (part : List UInt8) (place : Nat) : List UInt8 → Option Nat
  | [] => if part.isEmpty then some place else none
  | b :: bs => if part.isPrefixOf (b :: bs) then some place else find? part (place + 1) bs

inductive Scan where
  /-- Every run has been found, and the last one ends at this place. -/
  | found (place : Nat)
  /-- A run does not occur behind the ones before it. -/
  | missed
  /-- The text cannot be cut at the place that the scan has come to. -/
  | broken
deriving DecidableEq, Repr

/-- The scan of a text from a place on. -/
def scanFrom (text : List UInt8) (place : Nat) : List (List Char) → Scan
  | [] => .found place
  | run :: runs =>
    match Utf8.cutAt? text place with
    | none => .broken
    | some rest =>
      match find? (Utf8.encode run) 0 rest with
      | none => .missed
      | some offset => scanFrom text (place + (offset + (Utf8.encode run).length)) runs

def scan (text : List Char) (runs : List (List Char)) : Scan := scanFrom (Utf8.encode text) 0 runs

end AutoProxy.Text.Wildcard

/-! ## Names -/

namespace AutoProxy.Predicate

def isPlainHostName (host : String) : Bool := !host.toList.contains '.'

def dnsDomainIs (host domain : String) : Bool := domain.toList.isSuffixOf host.toList

/-- Whether the domain begins with the host, as it does for an unqualified name of that host. -/
def localHostOrDomainIs (host domain : String) : Bool := host.toList.isPrefixOf domain.toList

/-- The number of dots that separate labels; one at the very start separates nothing. -/
def dnsDomainLevels (host : String) : Nat := (host.toList.drop 1).count '.'

def shExpScan (text pattern : String) : Text.Wildcard.Scan :=
  Text.Wildcard.scan text.toList (Text.Wildcard.literals pattern.toList)

/-- Whether the text matches the shell expression; neither end of the text is anchored. -/
def shExpMatch (text pattern : String) : Bool :=
  match shExpScan text pattern with
  | .found _ => true
  | .missed | .broken => false

/-! ## Addresses -/

def isResolvable (lookup : Lookup) (host : String) : Bool := !(lookup.addresses host).isEmpty

/-- The text of the first address of version four, or else of the first address; empty for a
host without any. -/
def dnsResolve (lookup : Lookup) (host : String) : String :=
  let found := lookup.addresses host
  match found.find? Address.isV4 with
  | some a => a.toText
  | none =>
    match found with
    | a :: _ => a.toText
    | [] => ""

def dnsResolveEx (lookup : Lookup) (host : String) : String :=
  "; ".intercalate ((lookup.addresses host).map Address.toText)

/-- An address of version four, blanks around it ignored. -/
def dottedQuad? (s : String) : Option IPv4 := IPv4.ofChars? (Text.trim s.toList)

/-- Whether the host lies in the network: its address under the mask is the pattern as given.
Host, pattern and mask are dotted quads, or the answer is no. -/
def isInNet (host pattern mask : String) : Bool :=
  match dottedQuad? host, dottedQuad? pattern, dottedQuad? mask with
  | some host, some pattern, some mask => host.bits &&& mask.bits == pattern.bits
  | _, _, _ => false

/-- Networks with a prefix length are not supported: no address lies in one. -/
def isInNetEx (_address _network : String) : Bool := false

/-- The list as given, or nothing for a blank one; addresses are not sorted. -/
def sortIpAddressList (list : String) : String := if Text.isBlankString list then "" else list

def clientVersion : String := "1.0"

end AutoProxy.Predicate
