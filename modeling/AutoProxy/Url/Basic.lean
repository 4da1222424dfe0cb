import AutoProxy.Address
import AutoProxy.Domain.Ascii
import AutoProxy.Number.Whole
import AutoProxy.Text.Utf8

/-!
Addresses of resources: scheme, authority, path, query and fragment. The text of an address is
in normal form: the reader has brought the parts into it, and writing only puts them together.

A byte that may not stand for itself is written as a percent sign and two hexadecimal digits. Which
characters may stand for themselves depends on the place; none beyond ASCII may. A host is a domain
name in ASCII or an address; a text that ends in a number is an address of version four in one of its
numeric forms, and brackets hold one of version six. Schemes that are not special keep their hosts as
they are written.
-/

namespace AutoProxy.Url.Percent

/-! ## Percent signs -/

/-- The hexadecimal digit of a value below sixteen, a capital beyond nine. -/
def digit (value : Nat) : Char :=
  if value < 10 then Char.ofNat (48 + value) else Char.ofNat (55 + value)

def writeByte (b : UInt8) : List Char := ['%', digit (b.toNat / 16), digit (b.toNat % 16)]

/-- The text with the characters of the set written with percent signs, byte by byte. -/
def encode (set : Char → Bool) (cs : List Char) : List Char :=
  cs.flatMap fun c => if set c then (Text.Utf8.encodeChar c).flatMap writeByte else [c]

/-- The bytes of a text in which percent signs with two digits stand for bytes. -/
def decode : List Char → List UInt8
  | '%' :: a :: b :: cs =>
    match Number.digit? a, Number.digit? b with
    | some m, some n => UInt8.ofNat (m * 16 + n) :: decode cs
    | _, _ => 37 :: decode (a :: b :: cs)
  | c :: cs => Text.Utf8.encodeChar c ++ decode cs
  | [] => []

/-! ### Sets of characters that may not stand for themselves -/

/-- Control characters and all beyond ASCII. -/
def controls (c : Char) : Bool := c.toNat < 32 || 126 < c.toNat

def inFragment (c : Char) : Bool := controls c || [' ', '"', '<', '>', '\x60'].contains c

def inPath (c : Char) : Bool := inFragment c || ['#', '?', '\x7b', '\x7d'].contains c

def inUserInfo (c : Char) : Bool :=
  inPath c || ['/', ':', ';', '=', '@', '[', '\\', ']', '^', '|'].contains c

/-- The set for a query; the quotation mark belongs to it only for special schemes. -/
def inQuery (special : Bool) (c : Char) : Bool :=
  controls c || [' ', '"', '#', '<', '>'].contains c || (special && c == '\'')

end AutoProxy.Url.Percent

/-! ## Hosts -/

namespace AutoProxy

inductive UrlFault where
  | relative
  | emptyHost
  | invalidPort
  | invalidIPv4
  | invalidIPv6
  | invalidHostCharacter
  | invalidDomainName
deriving DecidableEq, Repr

def UrlFault.message : UrlFault → String
  | relative => "relative URL without a base"
  | emptyHost => "empty host"
  | invalidPort => "invalid port number"
  | invalidIPv4 => "invalid IPv4 address"
  | invalidIPv6 => "invalid IPv6 address"
  | invalidHostCharacter => "invalid domain character"
  | invalidDomainName => "invalid international domain name"

inductive Host where
  | domain (name : String)
  | v4 (address : IPv4)
  | v6 (address : IPv6)
deriving DecidableEq, Repr

namespace Host

/-- The host as an address writes it, version six in brackets and with no dots. -/
def toText : Host → String
  | domain name => name
  | v4 a => a.toText
  | v6 a => "[" ++ IPv6.compressed a.groups ++ "]"

/-- The host by itself, version six without brackets. -/
def bareText : Host → String
  | domain name => name
  | v4 a => a.toText
  | v6 a => a.toText

/-! ### Reading -/

/-- A part of a numeric address; a base without digits counts as zero. -/
def numeral? (cs : List Char) : Option Nat :=
  if cs = ['0', 'x'] ∨ cs = ['0', 'X'] then some 0 else IPv4.numeral? cs

/-- The parts between the dots, without an empty one at the end. -/
def parts (cs : List Char) : List (List Char) :=
  let parts := Text.split '.' cs
  if 1 < parts.length ∧ parts.getLast? = some [] then parts.dropLast else parts

/-- Whether the last part is a number, in any of the notations. -/
def endsInNumber (cs : List Char) : Bool :=
  match (parts cs).getLast? with
  | some last => (!last.isEmpty && last.all Char.isDigit) || (numeral? last).isSome
  | none => false

/-- An address of version four in one of its numeric forms. -/
def numeric? (cs : List Char) : Option IPv4 := do
  let numbers ← (parts cs).mapM numeral?
  if numbers.length ≤ 4 then IPv4.fill? 0 4 numbers else none

/-- An address of version six in brackets; `inner` is what follows the first one. -/
def bracketed (inner : List Char) : Except UrlFault Host :=
  match inner.getLast? with
  | some ']' =>
    match IPv6.ofChars? inner.dropLast with
    | some a => .ok (.v6 a)
    | none => .error .invalidIPv6
  | _ => .error .invalidIPv6

/-- The host of an address with a special scheme. -/
def read (cs : List Char) : Except UrlFault Host :=
  match cs with
  | '[' :: inner => bracketed inner
  | _ =>
    match Domain.toAscii? (Text.Utf8.decodeLossy (Url.Percent.decode cs)) with
    | none => .error .invalidDomainName
    | some name =>
      if name.isEmpty then .error .emptyHost
      else if endsInNumber name then
        match numeric? name with
        | some a => .ok (.v4 a)
        | none => .error .invalidIPv4
      else .ok (.domain (String.ofList name))

/-- Characters that no host may hold, of whatever scheme. -/
def isForbidden (c : Char) : Bool :=
  ['\x00', '\t', '\n', '\r', ' ', '#', '/', ':', '<', '>', '?', '@', '[', '\\', ']', '^', '|'].contains c

/-- The host of an address whose scheme is not special. -/
def readOpaque (cs : List Char) : Except UrlFault Host :=
  match cs with
  | '[' :: inner => bracketed inner
  | _ =>
    if cs.any isForbidden then .error .invalidHostCharacter
    else .ok (.domain (String.ofList (Url.Percent.encode Url.Percent.controls cs)))

end Host

/-! ## Parts -/

/-- Who is asked, at which host and port. The host may be empty; a port that the scheme implies
is not given. -/
structure Authority where
  user : String := ""
  password : String := ""
  host : Option Host := none
  port : Option Nat := none
deriving DecidableEq, Repr

/-- The path of an address: the names between its slashes, or a text that is no hierarchy. -/
inductive UrlPath where
  | names (list : List String)
  | flat (text : String)
deriving DecidableEq, Repr

structure Url where
  scheme : String
  authority : Option Authority := none
  path : UrlPath
  query : Option String := none
  fragment : Option String := none
deriving DecidableEq, Repr

/-- The text of a path, a slash before each name. -/
def UrlPath.toText : UrlPath → String
  | names list => String.join (list.map fun name => "/" ++ name)
  | flat text => text

/-- User, host and port with their marks. -/
def Authority.toText (a : Authority) : String :=
  let password := if a.password.isEmpty then "" else ":" ++ a.password
  let asked := if a.user.isEmpty && a.password.isEmpty then "" else a.user ++ password ++ "@"
  let host := match a.host with
    | some host => host.toText
    | none => ""
  let port := match a.port with
    | some port => ":" ++ toString port
    | none => ""
  asked ++ host ++ port

namespace Url

def host? (u : Url) : Option Host := u.authority.bind Authority.host

/-- What stands between scheme and query. A path that begins with two slashes keeps apart from
a missing authority by a dot. -/
def resourceText (u : Url) : String :=
  let path := u.path.toText
  match u.authority with
  | some a => "//" ++ a.toText ++ path
  | none => if path.startsWith "//" then "/." ++ path else path

def toText (u : Url) : String :=
  let query := match u.query with
    | some q => "?" ++ q
    | none => ""
  let fragment := match u.fragment with
    | some f => "#" ++ f
    | none => ""
  u.scheme ++ ":" ++ u.resourceText ++ query ++ fragment

/-! ### Files -/

/-- Whether the bytes end in a letter and a colon or bar, as the name of a drive does. -/
def endsLikeDrive (bytes : List UInt8) : Bool :=
  match bytes.reverse with
  | mark :: letter :: _ :: _ =>
    (mark == 58 || mark == 124) && (Char.ofNat letter.toNat).isAlpha
  | _ => false

/-- The bytes of the path that an address names on this machine: it has no host, and its path is
a hierarchy. The name of a drive gets a slash at its end. -/
def filePath? (u : Url) : Option (List UInt8) :=
  match u.host?, u.path with
  | none, .names list =>
    let bytes := list.flatMap fun name => 47 :: Percent.decode name.toList
    some (if endsLikeDrive bytes then bytes ++ [47] else bytes)
  | _, _ => none

end Url

end AutoProxy
