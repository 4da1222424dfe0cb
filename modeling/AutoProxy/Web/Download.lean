import AutoProxy.Text.Basic
import AutoProxy.Url.Reader
import AutoProxy.Web.Expiry
import AutoProxy.Web.Message

/-!
Downloading a script. What a server sends back has a status, header fields and a body; the status says
whether the body is what was asked for, or that it is to be looked for elsewhere. A server may send on to
another address, up to ten times; what comes in the end has to be a success. Its body becomes text with
line ends of one kind, and its header fields say when it expires.
-/

namespace AutoProxy.Web

/-! ## Replies -/

structure Reply where
  status : Nat
  headers : List Header
  body : List UInt8
deriving DecidableEq, Repr

/-- How servers are asked: the reply of the one that an address names, if there is any. -/
abbrev Transport := Url → Option Reply

def statusPhrase? : Nat → Option String
  | 100 => some "Continue"
  | 101 => some "Switching Protocols"
  | 102 => some "Processing"
  | 200 => some "OK"
  | 201 => some "Created"
  | 202 => some "Accepted"
  | 203 => some "Non Authoritative Information"
  | 204 => some "No Content"
  | 205 => some "Reset Content"
  | 206 => some "Partial Content"
  | 207 => some "Multi-Status"
  | 208 => some "Already Reported"
  | 226 => some "IM Used"
  | 300 => some "Multiple Choices"
  | 301 => some "Moved Permanently"
  | 302 => some "Found"
  | 303 => some "See Other"
  | 304 => some "Not Modified"
  | 305 => some "Use Proxy"
  | 307 => some "Temporary Redirect"
  | 308 => some "Permanent Redirect"
  | 400 => some "Bad Request"
  | 401 => some "Unauthorized"
  | 402 => some "Payment Required"
  | 403 => some "Forbidden"
  | 404 => some "Not Found"
  | 405 => some "Method Not Allowed"
  | 406 => some "Not Acceptable"
  | 407 => some "Proxy Authentication Required"
  | 408 => some "Request Timeout"
  | 409 => some "Conflict"
  | 410 => some "Gone"
  | 411 => some "Length Required"
  | 412 => some "Precondition Failed"
  | 413 => some "Payload Too Large"
  | 414 => some "URI Too Long"
  | 415 => some "Unsupported Media Type"
  | 416 => some "Range Not Satisfiable"
  | 417 => some "Expectation Failed"
  | 418 => some "I'm a teapot"
  | 421 => some "Misdirected Request"
  | 422 => some "Unprocessable Entity"
  | 423 => some "Locked"
  | 424 => some "Failed Dependency"
  | 425 => some "Too Early"
  | 426 => some "Upgrade Required"
  | 428 => some "Precondition Required"
  | 429 => some "Too Many Requests"
  | 431 => some "Request Header Fields Too Large"
  | 451 => some "Unavailable For Legal Reasons"
  | 500 => some "Internal Server Error"
  | 501 => some "Not Implemented"
  | 502 => some "Bad Gateway"
  | 503 => some "Service Unavailable"
  | 504 => some "Gateway Timeout"
  | 505 => some "HTTP Version Not Supported"
  | 506 => some "Variant Also Negotiates"
  | 507 => some "Insufficient Storage"
  | 508 => some "Loop Detected"
  | 510 => some "Not Extended"
  | 511 => some "Network Authentication Required"
  | _ => none

def statusText (status : Nat) : String :=
  toString status ++ " " ++ (statusPhrase? status).getD "<unknown status code>"

namespace Reply

/-- Whether the reply is only a notice that comes before the proper one. -/
def isNotice (r : Reply) : Bool := r.status < 200

def isSuccess (r : Reply) : Bool := 200 ≤ r.status && r.status < 300

/-- Whether the status says that the resource is elsewhere. -/
def isMove (r : Reply) : Bool := [301, 302, 303, 307, 308].contains r.status

/-- The address that a reply sends on to, if it does and the address can be read. -/
def movedTo? (r : Reply) (url : Url) : Option Url :=
  if !r.isMove then none
  else do
    let field ← Header.find? "Location" r.headers
    let text ← Text.Utf8.decode? field.value
    (url.resolve text).toOption

end Reply

/-! ## Following replies -/

/-- How many times a server may send on to another address. -/
def maxMoves : Nat := 10

inductive WebFault where
  | unreachable (url : Url)
  | tooManyMoves (url : Url)
  | refused (status : Nat)
deriving DecidableEq, Repr

def WebFault.message : WebFault → String
  | unreachable url => "error sending request for url (" ++ url.toText ++ ")"
  | tooManyMoves url => "error following redirect for url (" ++ url.toText ++ ")"
  | refused status => "server returned " ++ statusText status

/-- A script that has been read: its text, and what is said of its expiry. -/
structure Download where
  content : String
  expiry : Expiry.Announced
deriving DecidableEq, Repr

/-- The reply in the end, when a server may send on `moves` more times. -/
def finalReply (transport : Transport) (moves : Nat) (url : Url) : Except WebFault Reply :=
  match transport url with
  | none => .error (.unreachable url)
  | some reply =>
    if reply.isNotice then .error (.unreachable url)
    else
      match reply.movedTo? url, moves with
      | none, _ => .ok reply
      | some _, 0 => .error (.tooManyMoves url)
      | some next, moves + 1 => finalReply transport moves next

/-- The address that is asked: user and password do not stand in it. -/
def asked (url : Url) : Url :=
  { url with authority := url.authority.map fun a => { a with user := "", password := "" } }

def download (transport : Transport) (url : Url) (now : Calendar.Instant) :
    Except WebFault Download :=
  match finalReply transport maxMoves (asked url) with
  | .error fault => .error fault
  | .ok reply =>
    if reply.isSuccess then
      let text := (Charset.ofHeaders reply.headers).bodyText reply.body
      .ok ⟨Text.normalizeLines (String.ofList text), Expiry.announced reply.headers now⟩
    else .error (.refused reply.status)

end AutoProxy.Web
