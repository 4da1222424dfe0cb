import AutoProxy.Proofs.Resolver.Bypass
import AutoProxy.Proofs.Script.Faults
import AutoProxy.Proofs.Source.Calls
import AutoProxy.Proofs.Text

/-!
The law of a lookup. `Selects` says what a resolver returns for a request and what it leaves behind, for
each way in which a lookup can go, and in terms of what its source answers (`Source.Answers`) and of what
its evaluator does.

A resolver itself hands on every fault that is not one of the evaluation (`judge_of_not_isEvaluation`). That it
keeps to the law is because its evaluator has no others (`select_eq_iff`), which is a matter of sessions, workers
and engines (`Script.Engine.failsInEvaluation_evaluator`). So whatever goes wrong once the script is there ends
without a decision, and a lookup fails only when the request has no host, or when the script cannot be read
(`select_law`).
-/

namespace AutoProxy

open Calendar Text

namespace Resolver

variable {E : Type} {evaluator : Evaluator E} {r after : Resolver E} {outside : Outside}
  {clock : Instant} {request : Request} {conclusion : Conclusion}

/-- What a resolver returns for a request, and the resolver that it leaves behind. -/
inductive Selects (evaluator : Evaluator E) (r : Resolver E) (outside : Outside) (clock : Instant)
    (request : Request) : Conclusion → Resolver E → Prop where
  /-- There is no host: nothing is counted, loaded or evaluated. -/
  | refused :
      trimmed request.host = "" →
      Selects evaluator r outside clock request (.returned (.error (.validation .blankHost))) r
  /-- The request is not put to the script: nothing is loaded or evaluated. -/
  | bypassed :
      trimmed request.host ≠ "" → r.bypasses request.host = true →
      Selects evaluator r outside clock request (.returned (.ok (.noDecision .bypassed)))
        { r with tally := r.tally.resolution.bypass }
  /-- The script cannot be read: nothing is evaluated, and what is kept stays. -/
  | unloaded {fault : FetchFault} {source : Source} :
      trimmed request.host ≠ "" → r.bypasses request.host = false →
      r.source.Answers (.load outside clock) (.script (.error (.fetch fault))) source →
      source.entry = r.source.entry →
      Selects evaluator r outside clock request (.returned (.error (.fetch fault)))
        { r with source, tally := r.tally.resolution.fetchFailure }
  /-- Loading breaks down, and the lookup with it: no failure is counted, and what is kept stays. -/
  | brokenDown {source : Source} :
      trimmed request.host ≠ "" → r.bypasses request.host = false →
      r.source.Answers (.load outside clock) (.script (.error .outOfCalendar)) source →
      source.entry = r.source.entry →
      Selects evaluator r outside clock request .brokenDown
        { r with source, tally := r.tally.resolution }
  /-- The script that has been loaded gives no answer, whatever the reason. -/
  | undecided {script : String} {source : Source} {fault : EvaluationFault} {elapsed : Span}
      {engine : E} :
      trimmed request.host ≠ "" → r.bypasses request.host = false →
      r.source.Answers (.load outside clock) (.script (.ok script)) source →
      evaluator.evaluate r.engine clock script request.url request.host =
        (.error (.evaluation fault), elapsed, engine) →
      Selects evaluator r outside clock request
        (.returned (.ok (.noDecision (.evaluationFailed fault.message))))
        { r with source, engine, tally := (r.tally.resolution.observe elapsed).evaluationFailure }
  /-- The script that has been loaded gives an answer. -/
  | decided {script text : String} {source : Source} {elapsed : Span} {engine : E} :
      trimmed request.host ≠ "" → r.bypasses request.host = false →
      r.source.Answers (.load outside clock) (.script (.ok script)) source →
      evaluator.evaluate r.engine clock script request.url request.host =
        (.ok text, elapsed, engine) →
      Selects evaluator r outside clock request
        (.returned (.ok (.proxies (Answer.ofText text).candidates)))
        { r with
          source, engine
          tally := (r.tally.resolution.observe elapsed).rejected (Answer.ofText text).rejected.length }

/-- A fault of another kind than those of the evaluation is one of the lookup. -/
theorem judge_of_not_isEvaluation {fault : ResolutionFault} (tally : Tally)
    (h : fault.isEvaluation = false) : judge tally (.error fault) = (.error fault, tally) := by
  simp [judge, h]

theorem load_eq_iff {s t : Source} {answer : Except LoadFault String} :
    s.load outside clock = (answer, t) ↔ s.Answers (.load outside clock) (.script answer) t := by
  rw [← Source.perform_eq_iff]
  simp [Source.perform, Prod.ext_iff]

/-- A load that fails leaves what is kept as it was. -/
theorem entry_of_answers {s t : Source} {fault : LoadFault}
    (h : s.Answers (.load outside clock) (.script (.error fault)) t) : t.entry = s.entry := by
  cases h
  rfl

/-- A request that is put to the script loads it. -/
theorem select_of_load (hblank : isBlankString request.host = false)
    (h : r.bypasses request.host = false) :
    r.select evaluator outside clock request =
      match r.source.load outside clock with
      | (.error .outOfCalendar, source) =>
        (.brokenDown, { r with source, tally := r.tally.resolution })
      | (.error (.fetch fault), source) =>
        (.returned (.error (.fetch fault)), { r with source, tally := r.tally.resolution.fetchFailure })
      | (.ok script, source) =>
        match evaluator.evaluate r.engine clock script request.url request.host with
        | (answer, elapsed, engine) =>
          match judge (r.tally.resolution.observe elapsed) answer with
          | (result, tally) => (.returned result, { r with source, engine, tally }) := by
  have h' : bypasses { r with tally := r.tally.resolution } request.host = false := h
  rw [select, if_neg (by simp [hblank])]
  exact if_neg (by simp [h'])

/-- If only evaluations can fail with its evaluator, a resolver returns for a request, and leaves behind, what
the law says, and nothing else conforms to it. -/
theorem select_eq_iff (hevaluator : evaluator.FailsInEvaluation) :
    r.select evaluator outside clock request = (conclusion, after) ↔
      r.Selects evaluator outside clock request conclusion after := by
  constructor
  · intro h
    cases hblank : isBlankString request.host with
    | true =>
        simp only [select, hblank, if_pos] at h
        cases h
        exact .refused (isBlankString_iff.mp hblank)
    | false =>
        have hhost : trimmed request.host ≠ "" := by simp [← isBlankString_iff, hblank]
        cases hbypass : r.bypasses request.host with
        | true =>
            rw [select_of_bypasses evaluator outside clock hblank hbypass] at h
            cases h
            exact .bypassed hhost hbypass
        | false =>
            rw [select_of_load hblank hbypass] at h
            split at h
            · next hload =>
              cases h
              exact .brokenDown hhost hbypass (load_eq_iff.mp hload) (entry_of_answers (load_eq_iff.mp hload))
            · next hload =>
              cases h
              exact .unloaded hhost hbypass (load_eq_iff.mp hload) (entry_of_answers (load_eq_iff.mp hload))
            · next hload =>
              split at h
              next answer elapsed engine hanswer =>
                cases answer with
                | error fault =>
                    obtain ⟨unanswered, rfl⟩ := ResolutionFault.isEvaluation_iff.mp
                      (hevaluator _ _ _ _ _ _ (congrArg Prod.fst hanswer))
                    cases h
                    exact .undecided hhost hbypass (load_eq_iff.mp hload) hanswer
                | ok text =>
                    cases h
                    exact .decided hhost hbypass (load_eq_iff.mp hload) hanswer
  · intro h
    have hblank {s : String} (h : trimmed s ≠ "") : isBlankString s = false := by
      simpa [← isBlankString_iff] using h
    cases h with
    | refused hhost => simp only [select, isBlankString_iff.mpr hhost, if_pos]
    | bypassed hhost hbypass => exact select_of_bypasses evaluator outside clock (hblank hhost) hbypass
    | unloaded hhost hbypass hload _ | brokenDown hhost hbypass hload _ =>
        rw [select_of_load (hblank hhost) hbypass, load_eq_iff.mpr hload]
    | undecided hhost hbypass hload hanswer | decided hhost hbypass hload hanswer =>
        rw [select_of_load (hblank hhost) hbypass, load_eq_iff.mpr hload]
        simp only [hanswer]
        rfl

/-- In every state that a resolver can be in, and for every request, world outside and time: the lookup
goes as the law says, because an engine fails in the evaluation or not at all. Hence a lookup that returns
fails only with the fault of a request without a host or with that of reading the script. The same is true of
callers that share an engine and run side by side: whatever they and its workers do, a call that fails has
failed in the evaluation. -/
theorem select_law (r : Resolver Script.Engine) (outside : Outside) (clock : Instant) (request : Request) :
    (∀ conclusion after,
      r.select Script.Engine.evaluator outside clock request = (conclusion, after) ↔
        r.Selects Script.Engine.evaluator outside clock request conclusion after) ∧
    (∀ fault, (r.select Script.Engine.evaluator outside clock request).1 = .returned (.error fault) →
      (fault = .validation .blankHost ∧ trimmed request.host = "") ∨
        ∃ unread, fault = .fetch unread ∧ (r.source.load outside clock).1 = .error (.fetch unread)) ∧
    ∀ (Context : Type) (i : Script.Interpreter Context) (library : Predicate.Library) (patience : Span)
      (start s : Script.Workers.State Context) (place g : Nat) (fault : ResolutionFault),
      Script.Workers.State.start i library patience = .ok start → Script.Workers.Reachable i start s →
      s.stage? place = some (.returned g (.error fault)) → fault.isEvaluation = true := by
  have hengine := Script.Engine.failsInEvaluation_evaluator
  refine ⟨fun _ _ => select_eq_iff hengine, fun fault h => ?_, ?_⟩
  · obtain ⟨after, hselects⟩ :
        ∃ after, r.Selects Script.Engine.evaluator outside clock request (.returned (.error fault)) after :=
      ⟨_, (select_eq_iff hengine).mp (Prod.ext h rfl)⟩
    cases hselects with
    | refused hhost => exact .inl ⟨rfl, hhost⟩
    | unloaded _ _ hload _ => exact .inr ⟨_, rfl, congrArg Prod.fst (load_eq_iff.mpr hload)⟩
  · intro Context i library patience start s place g fault hstart hs hreturned
    exact Script.Workers.State.isEvaluation_of_returned hstart hs hreturned

end Resolver

end AutoProxy
