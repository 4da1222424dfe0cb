import AutoProxy.Number.Whole

/-!
Proxy candidates: the ways to reach a target that a script's answer lists, in the order in which
a client should try them.

An answer has segments between semicolons, each a keyword with the address of a proxy, such as
`PROXY host:8080`, or `DIRECT`. A blank segment says nothing. A segment whose keyword is unknown or stands
alone means the direct way. A known keyword with a bad address is rejected, and the other segments still
count.
-/

namespace AutoProxy

structure Endpoint where
  host : String
  port : UInt16
deriving DecidableEq, Repr

inductive Protocol where
  | http
  | https
  | socks4
  | socks5
deriving DecidableEq, Repr

inductive Candidate where
  | direct
  | proxy (protocol : Protocol) (endpoint : Endpoint)
deriving DecidableEq, Repr

/-- Host and port with a colon between them; a host that holds a colon itself stands in
brackets. -/
def Endpoint.toText (e : Endpoint) : String :=
  let host := if e.host.toList.contains ':' then "[" ++ e.host ++ "]" else e.host
  host ++ ":" ++ toString e.port.toNat

namespace Protocol

/-- The word that stands for the protocol in an answer. -/
def keyword : Protocol → String
  | http => "PROXY"
  | https => "HTTPS"
  | socks4 => "SOCKS4"
  | socks5 => "SOCKS5"

def scheme : Protocol → String
  | http => "http"
  | https => "https"
  | socks4 => "socks4"
  | socks5 => "socks5"

/-- The port meant when an answer gives none. -/
def defaultPort : Protocol → UInt16
  | https => 443
  | _ => 80

/-- The protocol that a word of an answer stands for, in any case of its letters. -/
def ofKeyword? (word : List Char) : Option Protocol :=
  match String.ofList (word.map Char.toUpper) with
  | "PROXY" | "HTTP" => some http
  | "HTTPS" => some https
  | "SOCKS" | "SOCKS5" => some socks5
  | "SOCKS4" => some socks4
  | _ => none

end Protocol

namespace Candidate

def endpoint? : Candidate → Option Endpoint
  | direct => none
  | proxy _ e => some e

def isDirect : Candidate → Bool
  | direct => true
  | proxy _ _ => false

def scheme : Candidate → String
  | direct => "direct"
  | proxy p _ => p.scheme

/-- The candidate in the notation of answers. -/
def toText : Candidate → String
  | direct => "DIRECT"
  | proxy p e => p.keyword ++ " " ++ e.toText

def toUrl : Candidate → String
  | direct => "direct://"
  | proxy p e => p.scheme ++ "://" ++ e.toText

def listText (candidates : List Candidate) : String :=
  "; ".intercalate (candidates.map toText)

end Candidate

/-! ## Answers -/

inductive SegmentFault where
  | missingHost
  | invalidPort (text : String)
deriving DecidableEq, Repr

/-- A segment that was set aside, with the reason. -/
structure Rejection where
  segment : String
  fault : SegmentFault
deriving DecidableEq, Repr

def SegmentFault.message : SegmentFault → String
  | missingHost => "missing proxy host"
  | invalidPort text => "invalid port '" ++ text ++ "'"

def Rejection.message (r : Rejection) : String :=
  "malformed proxy spec '" ++ r.segment ++ "': " ++ r.fault.message

/-- What an answer says: its candidates and the segments set aside, each list in the order of
the answer. -/
structure Answer where
  candidates : List Candidate := []
  rejected : List Rejection := []
deriving DecidableEq, Repr

namespace Answer

/-- The address of a proxy cut into the host and the text of the port, if a port is given.

A host in brackets is followed by nothing or by a colon and the port. Without brackets one colon
separates host and port, and several colons all belong to the host. An opening bracket that is
never closed belongs to the host too. -/
def cutPort (address : List Char) : List Char × Option (List Char) :=
  match address with
  | '[' :: inner =>
    match Text.cut (· = ']') inner with
    | some (host, rest) =>
      match Text.trimStart rest with
      | ':' :: port => (Text.trim host, some (Text.trim port))
      | _ => (Text.trim host, none)
    | none => (address, none)
  | _ =>
    if 1 < address.count ':' then (address, none)
    else
      match Text.cutLast (· = ':') address with
      | some (host, port) => (Text.trim host, some (Text.trim port))
      | none => (address, none)

/-- A port: a decimal number from 1 to 65535, with an optional plus sign. -/
def port? (text : List Char) : Option UInt16 :=
  match Number.unsigned? 65536 text with
  | some n => if n = 0 then none else some (UInt16.ofNat n)
  | none => none

/-- The proxy at an address, whose port is `defaultPort` when it gives none. -/
def readEndpoint (address : List Char) (defaultPort : UInt16) : Except SegmentFault Endpoint :=
  let (host, port) := cutPort address
  if host.isEmpty then .error .missingHost
  else
    match port with
    | none => .ok ⟨String.ofList host, defaultPort⟩
    | some text =>
      match port? text with
      | some p => .ok ⟨String.ofList host, p⟩
      | none => .error (.invalidPort (String.ofList text))

/-- The first word of a segment and the trimmed rest. -/
def cutWord (segment : List Char) : List Char × List Char :=
  match Text.cut Text.isBlank segment with
  | some (word, rest) => (word, Text.trim rest)
  | none => (segment, [])

/-- The length in bytes below which a segment cannot hold a keyword and an address. -/
def minLength : Nat := 6

def readSegment (segment : List Char) : Except SegmentFault Candidate :=
  if Text.startsWithIgnoringCase "DIRECT".toList segment || Text.byteLength segment < minLength then
    .ok .direct
  else
    let (word, address) := cutWord segment
    match Protocol.ofKeyword? word with
    | none => .ok .direct
    | some protocol =>
      if address.isEmpty then .ok .direct
      else (readEndpoint address protocol.defaultPort).map (.proxy protocol)

/-- The trimmed segments of an answer that are not blank. -/
def segments (answer : List Char) : List (List Char) :=
  ((Text.split ';' answer).map Text.trim).filter fun segment => !segment.isEmpty

def ofSegments : List (List Char) → Answer
  | [] => {}
  | segment :: rest =>
    let later := ofSegments rest
    match readSegment segment with
    | .ok candidate => { later with candidates := candidate :: later.candidates }
    | .error fault =>
      { later with rejected := ⟨String.ofList segment, fault⟩ :: later.rejected }

def ofText (text : String) : Answer := ofSegments (segments text.toList)

end Answer

end AutoProxy
