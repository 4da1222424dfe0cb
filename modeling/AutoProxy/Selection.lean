import AutoProxy.Candidate
import AutoProxy.Text.Json
import AutoProxy.Url.Reader

/-!
What is asked of a resolver and what it answers. A request is an address and the host in it. The answer
is candidates in the order in which they should be tried, or no decision, so that the platform does as it
always does.
-/

namespace AutoProxy

/-! ## Requests -/

structure Request where
  url : String
  host : String
deriving DecidableEq, Repr

inductive RequestFault where
  | invalidUrl (url : String) (fault : UrlFault)
  | noHost (url : String)
  | blankHost
deriving DecidableEq, Repr

def RequestFault.message : RequestFault → String
  | invalidUrl url fault => "invalid URL '" ++ url ++ "': " ++ fault.message
  | noHost url => "URL '" ++ url ++ "' has no host"
  | blankHost => "request host is empty"

/-- The request for an address, which is kept as it is written; its host is the one that it
names. -/
def Request.ofUrl (url : String) : Except RequestFault Request :=
  match Url.ofText url with
  | .error fault => .error (.invalidUrl url fault)
  | .ok u =>
    match u.host? with
    | some host => .ok ⟨url, host.bareText⟩
    | none => .error (.noHost url)

/-! ## Answers -/

/-- Why there is no decision. -/
inductive Undecided where
  /-- The request is not put to the script. -/
  | bypassed
  /-- The script has failed; the text says how. -/
  | evaluationFailed (message : String)
deriving DecidableEq, Repr

def Undecided.message : Undecided → String
  | bypassed => "request bypasses PAC evaluation"
  | evaluationFailed message => message

inductive Selection where
  /-- Candidates; where there are none, the target is reached directly. -/
  | proxies (candidates : List Candidate)
  | noDecision (why : Undecided)
deriving DecidableEq, Repr

namespace Selection

def candidates : Selection → List Candidate
  | proxies candidates => candidates
  | noDecision _ => []

def isNoDecision : Selection → Bool
  | proxies _ => false
  | noDecision _ => true

def toText : Selection → String
  | proxies candidates => Candidate.listText candidates
  | noDecision why => "NO-DECISION (" ++ why.message ++ ")"

end Selection

/-! ### As a value -/

open Text

def Candidate.toJson : Candidate → Json
  | .direct => .object [("type", .text Candidate.direct.scheme)]
  | .proxy p e =>
    .object [("host", .text e.host), ("port", .number e.port.toNat), ("type", .text p.scheme)]

def Undecided.toJson : Undecided → Json
  | .bypassed => .object [("reason", .text "bypassed")]
  | .evaluationFailed message =>
    .object [("detail", .text message), ("reason", .text "evaluation-failed")]

def Selection.toJson : Selection → Json
  | .proxies candidates =>
    .object [("candidates", .list (candidates.map Candidate.toJson)), ("selection", .text "proxies")]
  | .noDecision why => .object [("reason", why.toJson), ("selection", .text "no-decision")]

end AutoProxy
