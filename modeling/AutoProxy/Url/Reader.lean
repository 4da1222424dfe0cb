import AutoProxy.Url.Basic

/-!
Reading addresses. Blanks and control characters around the text, and tabulators and line breaks
anywhere, are passed over. The scheme decides how the rest is read: some schemes are special,
take backslashes for slashes and need a host; `file` is special but may go without one.

A reference is an address that leaves out what it has in common with the address it stands at. It is made
whole by writing what it leaves out in front of it, and is then read like any other address.
-/

namespace AutoProxy.Url

inductive Kind where
  | file
  | special
  | other
deriving DecidableEq, Repr

def kindOf (scheme : String) : Kind :=
  if scheme = "file" then .file
  else if ["http", "https", "ws", "wss", "ftp"].contains scheme then .special
  else .other

def defaultPort? (scheme : String) : Option Nat :=
  match scheme with
  | "http" | "ws" => some 80
  | "https" | "wss" => some 443
  | "ftp" => some 21
  | _ => none

/-- Whether backslashes count as slashes. -/
def Kind.isSpecial : Kind → Bool
  | other => false
  | _ => true

/-- The text that is read: without blanks and control characters around it, and without
tabulators and line breaks. -/
def clean (cs : List Char) : List Char :=
  let outer (c : Char) : Bool := c.toNat ≤ 32
  let trimmed := ((cs.dropWhile outer).reverse.dropWhile outer).reverse
  trimmed.filter fun c => c != '\t' && c != '\n' && c != '\r'

/-- The scheme, in small letters, and what follows its colon. -/
def scheme? (cs : List Char) : Option (String × List Char) :=
  let isName (c : Char) : Bool := c.isAlphanum || c == '+' || c == '-' || c == '.'
  match cs with
  | c :: _ =>
    if c.isAlpha then
      match cs.dropWhile isName with
      | ':' :: rest => some (String.ofList (Text.toLower (cs.takeWhile isName)), rest)
      | _ => none
    else none
  | [] => none

/-! ### Paths -/

def isSlash (kind : Kind) (c : Char) : Bool := c == '/' || (kind.isSpecial && c == '\\')

def endsPath (c : Char) : Bool := c == '?' || c == '#'

/-- A letter with a colon or a bar: the name of a drive. -/
def isDrive (name : List Char) : Bool :=
  match name with
  | [letter, mark] => letter.isAlpha && (mark == ':' || mark == '|')
  | _ => false

/-- Names that stand for the directory itself. -/
def isSelf (name : List Char) : Bool := [".", "%2e"].contains (String.ofList (Text.toLower name))

/-- Names that stand for the directory above. -/
def isParent (name : List Char) : Bool :=
  ["..", "%2e.", ".%2e", "%2e%2e"].contains (String.ofList (Text.toLower name))

/-- The path, given from its end, without its last name; a drive stays. -/
def leave (path : List (List Char)) : List (List Char) :=
  match path with
  | name :: above => if isDrive name then path else above
  | [] => []

/-- The names of a path with those that stand for directories carried out; `path` holds the names
so far, from the last. -/
def walk (kind : Kind) (path : List (List Char)) : List (List Char) → List (List Char)
  | [] => path.reverse
  | name :: rest =>
    if isParent name then
      let path := leave path
      if rest.isEmpty then (([] : List Char) :: path).reverse else walk kind path rest
    else if isSelf name then
      if rest.isEmpty then (([] : List Char) :: path).reverse else walk kind path rest
    else
      let name := match kind, isDrive name, name with
        | .file, true, letter :: _ => [letter, ':']
        | _, _, _ => name
      walk kind (name :: path) rest

/-- The path of the text after its first slash. -/
def readNames (kind : Kind) (text : List Char) : List (List Char) :=
  let slashed := text.map fun c => if isSlash kind c then '/' else c
  let names := walk kind [] ((Text.split '/' slashed).map (Percent.encode Percent.inPath))
  match kind with
  | .file => if names.all List.isEmpty then [[]] else names.dropWhile List.isEmpty
  | _ => names

/-- The text up to the end of the path, and the rest. -/
def cutPath (cs : List Char) : List Char × List Char :=
  (cs.takeWhile (!endsPath ·), cs.dropWhile (!endsPath ·))

def pathOf (names : List (List Char)) : UrlPath := .names (names.map String.ofList)

/-- The path after an authority. A special address always has one. -/
def readPath (kind : Kind) (cs : List Char) : UrlPath :=
  match cs with
  | [] => if kind.isSpecial then pathOf [[]] else pathOf []
  | c :: rest => pathOf (readNames kind (if isSlash kind c then rest else cs))

/-! ### Query and fragment -/

/-- The address with the query and fragment that the rest of the text holds. -/
def finish (special : Bool) (u : Url) (cs : List Char) : Url :=
  let fragment (cs : List Char) : Option String :=
    some (String.ofList (Percent.encode Percent.inFragment cs))
  match cs with
  | '#' :: rest => { u with fragment := fragment rest }
  | '?' :: rest =>
    let text := String.ofList (Percent.encode (Percent.inQuery special) (rest.takeWhile (· != '#')))
    match rest.dropWhile (· != '#') with
    | _ :: rest => { u with query := some text, fragment := fragment rest }
    | [] => { u with query := some text }
  | _ => u

/-! ### Authority -/

def endsAuthority (kind : Kind) (c : Char) : Bool := isSlash kind c || endsPath c

/-- The host and what follows it: a colon outside of brackets ends the host. -/
def cutHost (inside : Bool) : List Char → List Char × List Char
  | [] => ([], [])
  | c :: cs =>
    if c == ':' && !inside then ([], c :: cs)
    else
      let inside := if c == '[' then true else if c == ']' then false else inside
      let (host, rest) := cutHost inside cs
      (c :: host, rest)

/-- The port after its colon, and what follows it: a backslash, if anything. -/
def readPort (cs : List Char) : Except UrlFault (Option Nat × List Char) :=
  let digits := cs.takeWhile Char.isDigit
  let rest := cs.dropWhile Char.isDigit
  let port := Number.ofDigits? 10 digits
  if port.any (65535 < ·) then .error .invalidPort
  else
    match rest with
    | [] => .ok (port, [])
    | '\\' :: _ => .ok (port, rest)
    | _ => .error .invalidPort

/-- User and password between the slashes and the sign `@`. -/
def readUser (cs : List Char) : String × String :=
  let coded (cs : List Char) : String := String.ofList (Percent.encode Percent.inUserInfo cs)
  match Text.cut (· = ':') cs with
  | some (user, password) => (coded user, coded password)
  | none => (coded cs, "")

/-- The host as its scheme reads it; an empty one only where the scheme allows it, and without a
port. -/
def readHost (kind : Kind) (host rest : List Char) : Except UrlFault (Option Host) :=
  if host.isEmpty then
    if kind.isSpecial || !rest.isEmpty then .error .emptyHost else .ok none
  else if kind.isSpecial then (Host.read host).map some
  else (Host.readOpaque host).map some

/-- The authority after two slashes, and the text after it. -/
def readAuthority (scheme : String) (kind : Kind) (cs : List Char) :
    Except UrlFault (Authority × List Char) := do
  let text := cs.takeWhile (!endsAuthority kind ·)
  let after := cs.dropWhile (!endsAuthority kind ·)
  let (userInfo, text) := match Text.cutLast (· = '@') text with
    | some (userInfo, text) => (some userInfo, text)
    | none => (none, text)
  if userInfo = some [] ∧ text.isEmpty ∧ !after.isEmpty then throw .emptyHost
  let (user, password) := readUser (userInfo.getD [])
  let (host, rest) := cutHost false text
  let host ← readHost kind host (rest.takeWhile (· == ':'))
  if host.isNone && !(user.isEmpty && password.isEmpty) then throw .emptyHost
  let (port, rest) ← match rest with
    | _ :: rest => readPort rest
    | [] => .ok (none, [])
  let port := if port = defaultPort? scheme then none else port
  return (⟨user, password, host, port⟩, rest ++ after)

/-- An address whose authority begins with the text. -/
def readWithAuthority (scheme : String) (kind : Kind) (cs : List Char) : Except UrlFault Url := do
  let (authority, rest) ← readAuthority scheme kind cs
  let (path, rest) := cutPath rest
  return finish kind.isSpecial ⟨scheme, some authority, readPath kind path, none, none⟩ rest

/-! ### Files -/

/-- The host of a file: none for an empty one and for the machine itself. -/
def readFileHost (host : List Char) : Except UrlFault (Option Host) :=
  if host.isEmpty then .ok none
  else (Host.read host).map fun host => if host = .domain "localhost" then none else some host

/-- An address of a file. Two slashes announce a host, which the name of a drive never is; a
drive in the path takes the place of a host. -/
def readFile (cs : List Char) : Except UrlFault Url := do
  let (host, rest) ← match cs with
    | a :: b :: rest =>
      if isSlash .file a && isSlash .file b then
        let host := rest.takeWhile (!endsAuthority .file ·)
        if isDrive host then pure (none, rest)
        else pure (← readFileHost host, rest.dropWhile (!endsAuthority .file ·))
      else pure (none, cs)
    | _ => pure (none, cs)
  let (path, rest) := cutPath rest
  let names := readNames .file path
  let host := if names.any isDrive then none else host
  return finish true ⟨"file", some { host := host }, pathOf names, none, none⟩ rest

/-! ### All schemes -/

/-- An address of a scheme that is not special and has no authority. -/
def readPlain (scheme : String) (cs : List Char) : Url :=
  let (path, rest) := cutPath cs
  let path : UrlPath := match path with
    | '/' :: path => pathOf (readNames .other path)
    | _ => .flat (String.ofList (Percent.encode Percent.controls path))
  finish false ⟨scheme, none, path, none, none⟩ rest

def ofText (s : String) : Except UrlFault Url :=
  match scheme? (clean s.toList) with
  | none => .error .relative
  | some (scheme, rest) =>
    match kindOf scheme with
    | .file => readFile rest
    | .special =>
      readWithAuthority scheme .special (rest.dropWhile (isSlash .special))
    | .other =>
      match rest with
      | '/' :: '/' :: rest => readWithAuthority scheme .other rest
      | _ => .ok (readPlain scheme rest)

/-! ## References -/

def isSchemeChar (c : Char) : Bool := c.isAlphanum || c == '+' || c == '-' || c == '.'

def hasScheme (cs : List Char) : Bool :=
  cs.head?.any Char.isAlpha && (cs.dropWhile isSchemeChar).head? == some ':'

/-- The part of a path up to its last slash. -/
def directoryOf (path : String) : String :=
  String.ofList (path.toList.reverse.dropWhile (· != '/')).reverse

/-- Scheme and authority. -/
def originText (u : Url) : String :=
  match u.authority with
  | some a => u.scheme ++ "://" ++ a.toText
  | none => u.scheme ++ ":"

/-- The address that a reference at an address means. -/
def resolve (u : Url) (reference : List Char) : Except UrlFault Url :=
  let text := String.ofList reference
  let whole :=
    if hasScheme reference then text
    else
      match reference with
      | '/' :: '/' :: _ => u.scheme ++ ":" ++ text
      | '/' :: _ => u.originText ++ text
      | '?' :: _ => u.originText ++ u.path.toText ++ text
      | '#' :: _ | [] => { u with fragment := none }.toText ++ text
      | _ => u.originText ++ directoryOf u.path.toText ++ text
  ofText whole

end AutoProxy.Url
