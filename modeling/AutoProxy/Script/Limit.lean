import AutoProxy.Script.Value
import AutoProxy.Span

/-!
The ends of statements and of evaluations. The turns of loops are counted over all loops of one call
together, and the calls by how many of them have begun and not ended. A limit cannot be caught by
the script, and what a script wants done last is not done then.
-/

namespace AutoProxy

/-! ### Faults of evaluations -/

/-- Why an evaluation gives no answer. -/
inductive EvaluationFault where
  /-- The text is not a script, or declares a name that is taken. -/
  | unreadable
  /-- The script has thrown a value that shows as this text. -/
  | thrown (shown : String)
  | tooManyTurns (limit : Nat)
  | tooManyCalls
  /-- The evaluation was stopped when nobody waited for it any longer. -/
  | abandoned
  /-- The evaluation has broken down, and with it whoever carried it out. -/
  | collapsed
  | timedOut (after : Span)
  | unbound (reason : String)
  | notRebuilt (reason : String)
  | workerGone
  | workerDied
deriving DecidableEq, Repr

namespace EvaluationFault

def detail : EvaluationFault → String
  | unreadable => "SyntaxError: the text is not a script"
  | thrown shown => shown
  | tooManyTurns limit =>
    "RuntimeLimit: Maximum loop iteration limit " ++ toString limit ++ " exceeded"
  | tooManyCalls => "RuntimeLimit: exceeded maximum number of recursive calls"
  | abandoned => "evaluation stopped"
  | collapsed => "evaluation broke down"
  | timedOut after => "evaluation timed out after " ++ after.toText
  | unbound reason => "failed to bind PAC functions: " ++ reason
  | notRebuilt reason => reason
  | workerGone => "PAC engine worker is not running"
  | workerDied => "PAC engine worker dropped the evaluation"

/-- The words with which every such message begins. -/
def heading : String := "PAC script evaluation failed: "

def message (f : EvaluationFault) : String := heading ++ f.detail

end EvaluationFault

namespace Script

/-! ### Ends -/

/-- The limits of an evaluation; the amount of work is unlimited if none is given. -/
structure Bounds where
  turns : Nat
  calls : Nat
  work : Option Nat := none
deriving DecidableEq, Repr

inductive Completion where
  /-- By going on; with the value of the last expression, if one was evaluated as a statement. -/
  | onward (value : Option Value)
  | left
  | skipped
  | returned (value : Value)

/-! ### Limits -/

def work (b : Bounds) : Run Unit := fun m =>
  match b.work with
  | none => .ok () m
  | some limit =>
    if limit ≤ m.work then .error (.halted .outOfTime) m
    else .ok () { m with work := m.work + 1 }

def countTurn (b : Bounds) : Run Unit := do
  work b
  fun m =>
    if b.turns < m.turns then .error (.halted .tooManyTurns) m
    else .ok () { m with turns := m.turns + 1 }

/-- Refuses a call if too many have begun. -/
def admitCall (b : Bounds) : Run Unit := fun m =>
  if b.calls ≤ m.depth then .error (.halted .tooManyCalls) m else .ok () m

/-- Runs the body of a call, with turns of its own. -/
def framed {α : Type} (body : Run α) : Run α := fun m =>
  let depth := m.depth
  let turns := m.turns
  match body { m with depth := depth + 1, turns := 0 } with
  | .ok a m => .ok a { m with depth := depth, turns := turns }
  | .error e m => .error e { m with depth := depth, turns := turns }

def caught {α : Type} (body : Run α) (handler : Value → Run α) : Run α := fun m =>
  match body m with
  | .ok a m => .ok a m
  | .error (.thrown v) m => handler v m
  | .error (.halted why) m => .error (.halted why) m

/-- Does something last, whether or not a value was thrown; if that does not simply go on, it
decides how all of it ends. -/
def thenLast (body last : Run Completion) : Run Completion := fun m =>
  match body m with
  | .error (.halted why) m => .error (.halted why) m
  | .ok c m =>
    match last m with
    | .ok (.onward _) m => .ok c m
    | other => other
  | .error (.thrown v) m =>
    match last m with
    | .ok (.onward _) m => .error (.thrown v) m
    | other => other

end Script

end AutoProxy
