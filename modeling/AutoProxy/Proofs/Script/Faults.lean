import AutoProxy.Proofs.Workers.Evaluations
import AutoProxy.Resolver

/-!
Which faults an evaluation can come to. On its way to the caller an answer passes through the session, the
worker and the engine, and each of them may add faults of its own: a context that cannot be built, a thread
that cannot be started, a queue that is closed, a reply that never comes, a time that is over. All that are
handed on are faults of the evaluation (`Session.isEvaluation_of_evaluate`, `Engine.isEvaluation_of_evaluate`,
and for callers side by side `Workers.State.isEvaluation_of_returned`). The one fault that is of another kind,
a missing thread, stays with whoever has asked for the worker.
-/

namespace AutoProxy

open Calendar

namespace Script

variable {Context : Type} {i : Interpreter Context} {fault : ResolutionFault}

/-! ### Sessions -/

namespace Session

variable {s t : Session Context} {thread : Thread} {script url host : String}

theorem isEvaluation_of_start {library : Predicate.Library} (h : start i library = .error fault) :
    fault.isEvaluation = true := by
  rw [start] at h
  split at h
  · cases h
  · cases h
    rfl

theorem isEvaluation_of_prepare (h : s.prepare i script = .error fault) : fault.isEvaluation = true := by
  rw [prepare] at h
  split at h
  · cases h
  · split at h
    · cases h
    · cases h
      rfl

/-- Whatever the interpreter makes of a program, a session passes it on as a fault of the evaluation. -/
theorem isEvaluation_of_evaluate (h : (s.evaluate i thread script url host).1 = .error fault) :
    fault.isEvaluation = true := by
  rw [evaluate] at h
  split at h
  · next hprepare =>
    cases h
    exact isEvaluation_of_prepare hprepare
  · next prepared _ =>
    -- the session is ready, and what is left is the fault of the interpreter, if it has one
    dsimp only at h
    cases hresult : (i.run prepared.context (thread.enter (prepared.library.pin thread.clock))
        (programText script url host)).result with
    | ok text =>
        rw [hresult] at h
        cases h
    | error unanswered =>
        rw [hresult] at h
        cases h
        rfl

end Session

/-! ### Engines -/

namespace Engine

variable {e : Engine} {clock : Instant} {script url host : String}

theorem isEvaluation_of_evaluate (h : (e.evaluate clock script url host).1 = .error fault) :
    fault.isEvaluation = true := by
  rw [evaluate] at h
  split at h
  · split at h
    · cases h
      rfl
    · cases h
      rfl
    · next hanswer =>
      dsimp only at h
      rw [h] at hanswer
      exact Session.isEvaluation_of_evaluate (congrArg Prod.fst hanswer)
  · cases h
    rfl

end Engine

/-! ### Callers and workers -/

namespace Workers

variable {start s : State Context} {library : Predicate.Library} {patience : Span} {place g : Nat}

theorem Evaluation.isEvaluation_of_answer {e : Evaluation Context} (h : e.answer i = .error fault) :
    fault.isEvaluation = true :=
  Session.isEvaluation_of_evaluate h

namespace State

/-- Whatever callers and workers do, a caller that has an error has one of the evaluation. -/
theorem isEvaluation_of_answer? (hstart : State.start i library patience = .ok start)
    (hs : Reachable i start s) {c : Caller} (hc : s.callers[place]? = some c)
    (hanswer : c.stage.answer? = some (g, .error fault)) : fault.isEvaluation = true := by
  refine stage_of_reachable
    (P := fun _ stage => ∀ g fault, stage.answer? = some (g, .error fault) → fault.isEvaluation = true)
    hstart hs ?_ (fun _ _ _ _ _ h => h) ?_ hc g fault hanswer
  · intro _ _ _ hcalled
    cases hcalled
  intro u a place c stage hu hc h hmove g fault hanswer
  cases hmove with
  | connect | send | cancel => cases hanswer
  | refuse | miss | timeOut =>
      cases hanswer
      rfl
  | receive _ hreply =>
      -- the worker has replied with what the evaluation has come to
      cases hanswer
      obtain ⟨first, hnew⟩ := IsSound.start hstart
      obtain ⟨_, -, _, e, -, -, -, hevaluated⟩ := (hnew.of_reachable hu).replies place c _ hc hreply
      exact Evaluation.isEvaluation_of_answer hevaluated
  | findOpen hstage | findClosed hstage | replace hstage =>
      cases hanswer
      exact h _ _ (by rw [hstage]; rfl)

theorem isEvaluation_of_returned (hstart : State.start i library patience = .ok start)
    (hs : Reachable i start s) (h : s.stage? place = some (.returned g (.error fault))) :
    fault.isEvaluation = true := by
  obtain ⟨c, hc, hstage⟩ := stage?_eq_some_iff.mp h
  exact isEvaluation_of_answer? (g := g) hstart hs hc (by rw [hstage]; rfl)

end State

end Workers

end Script

/-! ### Evaluators -/

/-- Whatever an evaluator is asked: if it fails, the fault is one of the evaluation. -/
def Evaluator.FailsInEvaluation {E : Type} (evaluator : Evaluator E) : Prop :=
  ∀ (engine : E) (clock : Instant) (script url host : String) (fault : ResolutionFault),
    (evaluator.evaluate engine clock script url host).1 = .error fault → fault.isEvaluation = true

theorem Script.Engine.failsInEvaluation_evaluator : evaluator.FailsInEvaluation :=
  fun _ _ _ _ _ _ => isEvaluation_of_evaluate

end AutoProxy
