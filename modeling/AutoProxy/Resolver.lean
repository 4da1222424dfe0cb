import AutoProxy.Selection
import AutoProxy.Script.Engine
import AutoProxy.Source.Basic
import AutoProxy.Tally

/-!
The resolver: from a request to a selection. A request without a host is refused before anything is
counted. A request that concerns the script itself is not put to it. Otherwise the script is loaded
and asked; where the script fails there is no decision, and any other fault is one of the lookup.

What evaluates scripts is a parameter, and may fail in any way that there is.
-/

namespace AutoProxy

open Calendar

/-- What evaluates scripts: the answer of a script for an address and a host, how long it took, and
the evaluator afterwards. -/
structure Evaluator (E : Type) where
  evaluate : E → Instant → (script url host : String) → Except ResolutionFault String × Span × E

/-- A resolver: the source of its script, the state of its evaluator, which requests it does not put
to the script, and what it has counted. -/
structure Resolver (E : Type) where
  source : Source
  engine : E
  bypass : Bypass
  tally : Tally := {}

namespace Resolver

variable {E : Type}

/-! ### Lookups -/

/-- Whether a host is the one that serves the script. -/
def servesScript (r : Resolver E) (host : String) : Bool :=
  r.source.location.remoteHost?.any fun server => Text.sameWord server host

/-- Whether the text of the script that is kept has the host in it. -/
def mentions (r : Resolver E) (host : String) : Bool :=
  r.source.cached.any fun script => Text.contains host.toList script.toList

/-- Whether a request for a host is not put to the script. -/
def bypasses (r : Resolver E) (host : String) : Bool :=
  r.servesScript host ||
    match r.bypass with
    | .sourceHost => false
    | .scriptText => r.mentions host

inductive Conclusion where
  | returned (result : Except ResolutionFault Selection)
  /-- The script would expire at an instant outside the calendar; nothing is returned. -/
  | brokenDown

/-- What a lookup returns when this has come of the evaluation, and what is then counted. A failure of the
script is no failure of the lookup. -/
def judge (tally : Tally) : Except ResolutionFault String → Except ResolutionFault Selection × Tally
  | .ok text =>
    let answer := Answer.ofText text
    (.ok (.proxies answer.candidates), tally.rejected answer.rejected.length)
  | .error fault =>
    if fault.isEvaluation then
      (.ok (.noDecision (.evaluationFailed fault.message)), tally.evaluationFailure)
    else (.error fault, tally)

def select (evaluator : Evaluator E) (r : Resolver E) (outside : Outside) (clock : Instant)
    (request : Request) : Conclusion × Resolver E :=
  if Text.isBlankString request.host then (.returned (.error (.validation .blankHost)), r)
  else
    let r := { r with tally := r.tally.resolution }
    if r.bypasses request.host then
      (.returned (.ok (.noDecision .bypassed)), { r with tally := r.tally.bypass })
    else
      match r.source.load outside clock with
      | (.error .outOfCalendar, source) => (.brokenDown, { r with source })
      | (.error (.fetch fault), source) =>
        (.returned (.error (.fetch fault)), { r with source, tally := r.tally.fetchFailure })
      | (.ok script, source) =>
        let (answer, elapsed, engine) :=
          evaluator.evaluate r.engine clock script request.url request.host
        let (result, tally) := judge (r.tally.observe elapsed) answer
        (.returned result, { r with source, engine, tally })

/-- The selection for an address; the host is the one in it. -/
def selectUrl (evaluator : Evaluator E) (r : Resolver E) (outside : Outside) (clock : Instant)
    (url : String) : Conclusion × Resolver E :=
  match Request.ofUrl url with
  | .error fault => (.returned (.error (.validation fault)), r)
  | .ok request => r.select evaluator outside clock request

end Resolver

namespace Script.Engine

def elapsed (after : Engine) : Except ResolutionFault String → Span
  | .error (.evaluation (.timedOut limit)) => limit
  | _ => (Span.ofNanos? (after.session.context.work * nanosPerUnit)).getD Span.zero

def evaluator : Evaluator Engine where
  evaluate := fun engine clock script url host =>
    let (result, after) := engine.evaluate clock script url host
    (result, elapsed after result, after)

end Script.Engine

namespace Resolver

def ofSource (settings : Settings) (lookup : Lookup) (source : Source) :
    Except ResolutionFault (Resolver Script.Engine) :=
  match Script.Engine.start { ownAddress := settings.ownAddress } settings.limits lookup with
  | .error fault => .error fault
  | .ok engine => .ok { source, engine, bypass := settings.bypass }

def ofSettings (settings : Settings) (lookup : Lookup) :
    Except ResolutionFault (Resolver Script.Engine) :=
  match settings.script.source with
  | none => .error (.config .noSource)
  | some text =>
    match Location.ofText text with
    | .error fault => .error (.config (.location fault))
    | .ok location => ofSource settings lookup (.ofLocation location settings.script)

end Resolver

end AutoProxy
