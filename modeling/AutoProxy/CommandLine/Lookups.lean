import AutoProxy.CommandLine.Report
import AutoProxy.CommandLine.Options
import AutoProxy.Tally

/-!
The lookups of a command. Each address is looked up in the order in which it is given, those of the
arguments first and those of the input after them. A lookup that succeeds is printed on a line; one
that fails is counted and logged, and printed only where answers are written as values.
-/

namespace AutoProxy.CommandLine

open Text

/-- What a command prints, and what it writes to its log. -/
inductive Event where
  | print (text : String)
  | log (line : LogLine)
deriving DecidableEq, Repr

/-- Where a command runs: what lies outside of the source of the script, the variables of its
environment, the clock, and the lookup of host names. -/
structure Site where
  outside : Outside
  environment : Settings.Environment
  clock : Calendar.Instant
  lookup : Lookup

inductive Abort where
  | fault (fault : Fault)
  /-- An instant was asked for that is outside the calendar. -/
  | outOfCalendar
deriving DecidableEq, Repr

/-- The state of the lookups: the resolver, how answers are written, which lines of the log are
written, and how many lookups have failed. -/
structure Lookups (E : Type) where
  resolver : Resolver E
  json : Bool
  threshold : Threshold
  /-- The time of all lookups, if the command line gives one. -/
  fixedTime : Option Calendar.Instant := none
  /-- Whether changes of the script's file are noticed between lines of the input. -/
  watched : Bool := false
  failures : Nat := 0

/-! ### Attempts -/

/-- A lookup that has come to its end: its address, and what was returned. -/
structure Attempt where
  url : String
  result : Except ResolutionFault Selection

namespace Attempt

def isFailed (a : Attempt) : Bool :=
  match a.result with
  | .ok _ => false
  | .error _ => true

def toJson (a : Attempt) : Json :=
  match a.result with
  | .ok selection => .object [("result", selection.toJson), ("url", .text a.url)]
  | .error fault =>
    .object [("error", .text fault.kind), ("message", .text fault.message), ("url", .text a.url)]

def line? (json : Bool) (a : Attempt) : Option String :=
  if json then some a.toJson.toText
  else
    match a.result with
    | .ok selection => some (a.url ++ "\t" ++ selection.toText)
    | .error _ => none

def logLines (a : Attempt) : List LogLine :=
  match a.result with
  | .ok _ => []
  | .error fault => [⟨.error, fault.message ++ " url=" ++ a.url⟩]

end Attempt

/-! ### Items -/

/-- The address in a line of the input, blanks around it ignored; a line without one is blank or a
remark. -/
def urlIn? (line : List Char) : Option String :=
  let chars := Text.trim line
  if chars.isEmpty || chars.head? = some '#' then none else some (String.ofList chars)

/-- The lines of an input without the ends of lines. -/
def linesOf (input : List UInt8) : List (List UInt8) :=
  match input with
  | [] => []
  | b :: rest =>
    if b = 10 then [] :: linesOf rest
    else
      match linesOf rest with
      | [] => [[b]]
      | line :: more => (b :: line) :: more

/-- What a command is given to look up: an address among its arguments, or a line of its input. -/
inductive Item where
  | argument (url : String)
  | line (bytes : List UInt8)
deriving DecidableEq, Repr

/-- The address of an item, if it has one; a line has to be a text. -/
def Item.read : Item → Except Fault (Option String)
  | argument url => .ok (some url)
  | line bytes =>
    match Text.Utf8.decode? bytes with
    | none => .error .badInput
    | some chars => .ok (urlIn? chars)

namespace Lookups

variable {E : Type}

/-! ### Running -/

/-- Log lines as events, as far as they are written. -/
def logged (threshold : Threshold) (lines : List LogLine) : List Event :=
  (lines.filter threshold.admits).map .log

def shown (l : Lookups E) (a : Attempt) : List Event :=
  logged l.threshold a.logLines ++ ((a.line? l.json).map fun line => .print (line ++ "\n")).toList

def lookUp (evaluator : Evaluator E) (site : Site) (l : Lookups E) (url : String) :
    Except Abort (Attempt × Lookups E) :=
  let clock := l.fixedTime.getD site.clock
  let (conclusion, resolver) := l.resolver.selectUrl evaluator site.outside clock url
  match conclusion with
  | .brokenDown => .error .outOfCalendar
  | .returned result =>
    let attempt : Attempt := ⟨url, result⟩
    .ok (attempt, { l with resolver, failures := l.failures + if attempt.isFailed then 1 else 0 })

/-- The state after a look at the file of the script, if it is watched: where the file has another
text now than the one that is kept, that one is set aside. -/
def noticeChange (outside : Outside) (l : Lookups E) : Lookups E :=
  if l.watched && !l.resolver.source.isCurrent outside then
    { l with resolver := { l.resolver with source := l.resolver.source.invalidate } }
  else l

/-- The state in which an item is met. -/
def meeting (outside : Outside) (l : Lookups E) : Item → Lookups E
  | .argument _ => l
  | .line _ => l.noticeChange outside

/-- Looks up the address of an item, if it has one: the attempts, and the state afterwards. -/
def lookUpItem (evaluator : Evaluator E) (site : Site) (l : Lookups E) (item : Item) :
    Except Abort (List Attempt × Lookups E) :=
  match item.read with
  | .error fault => .error (.fault fault)
  | .ok none => .ok ([], l)
  | .ok (some url) =>
    match (l.meeting site.outside item).lookUp evaluator site url with
    | .error abort => .error abort
    | .ok (attempt, l) => .ok ([attempt], l)

/-- Looks up the addresses of items one after the other, each of them at its own site, until one of
the lookups does not come to its end. -/
def lookUpAll (evaluator : Evaluator E) (l : Lookups E) :
    List (Site × Item) → List Attempt × Except Abort (Lookups E)
  | [] => ([], .ok l)
  | (site, item) :: rest =>
    match l.lookUpItem evaluator site item with
    | .error abort => ([], .error abort)
    | .ok (attempts, l) =>
      let (more, result) := l.lookUpAll evaluator rest
      (attempts ++ more, result)

/-! ### Closing -/

/-- The number of lookups that were attempted, as far as they were counted. -/
def attempted (l : Lookups E) : Nat := max l.resolver.tally.counts.resolutions.toNat l.failures

def closing (l : Lookups E) (metrics : Bool) : List Event :=
  let counts := l.resolver.tally.counts
  let done := "Done resolutions=" ++ toString counts.resolutions.toNat ++ " no_decisions=" ++
    toString counts.noDecisions.toNat ++ " fetch_failures=" ++ toString counts.fetchFailures.toNat
  (if metrics then [.print l.resolver.tally.exposition] else []) ++ logged l.threshold [⟨.info, done⟩]

def verdict (l : Lookups E) : Except Abort Unit :=
  if 0 < l.failures then .error (.fault (.lookups l.failures l.attempted)) else .ok ()

end Lookups

end AutoProxy.CommandLine
