import AutoProxy.Candidate
import AutoProxy.Selection
import AutoProxy.Script.Limit
import AutoProxy.Source.Basic

/-!
What can go wrong on the way from a request to a selection. Loading a script, evaluating it, reading its
answer, taking a request and building a resolver all have faults of their own; here they are of one type,
so that a fault can be handed on from where it is found to whoever has asked.

Only a fault of the evaluation may be passed over by a resolver (`ResolutionFault.isEvaluation`).
-/

namespace AutoProxy

/-- What is wrong with what a resolver is built from. -/
inductive SetupFault where
  | noSource
  | location (fault : LocationFault)
  /-- The system gives a worker no thread, for a reason that is left out here. -/
  | noThread
deriving DecidableEq, Repr

def SetupFault.message : SetupFault → String
  | noSource => "no PAC script source configured"
  | location fault => fault.message
  | noThread => "failed to start PAC engine thread"

inductive ResolutionFault where
  /-- The script could not be read or downloaded. -/
  | fetch (fault : FetchFault)
  /-- A segment of the script's answer is malformed. -/
  | parse (rejection : Rejection)
  /-- The script is none, or has failed while it ran. -/
  | evaluation (fault : EvaluationFault)
  /-- The request cannot be used. -/
  | validation (fault : RequestFault)
  | config (fault : SetupFault)
deriving DecidableEq, Repr

namespace ResolutionFault

def message : ResolutionFault → String
  | fetch fault => fault.message
  | parse rejection => rejection.message
  | evaluation fault => fault.message
  | validation fault => "invalid resolution request: " ++ fault.message
  | config fault => "invalid configuration: " ++ fault.message

def kind : ResolutionFault → String
  | fetch _ => "fetch"
  | parse _ => "parse"
  | evaluation _ => "evaluation"
  | validation _ => "validation"
  | config _ => "config"

/-- Whether a fault is a failure of the script, which a resolver may pass over. -/
def isEvaluation : ResolutionFault → Bool
  | evaluation _ => true
  | _ => false

theorem isEvaluation_iff {fault : ResolutionFault} :
    fault.isEvaluation = true ↔ ∃ unanswered, fault = .evaluation unanswered := by
  cases fault <;> simp [isEvaluation]

end ResolutionFault

end AutoProxy
