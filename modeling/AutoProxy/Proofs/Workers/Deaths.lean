import AutoProxy.Proofs.Workers.Generations

/-!
What becomes of a worker that dies in an evaluation. Whoever waits for the evaluation learns of it when
the worker lets go of the job, and looks then whether the queue is closed; but the queue is closed by
another step of the worker. The dead worker is replaced exactly if that step has come first
(`lt_generation_iff_of_step`). Otherwise the call returns and the dead worker stays, until another caller
finds its queue closed or waits too long.
-/

namespace AutoProxy

/-- Whether the engine says that there is no worker, or no longer. -/
def EvaluationFault.isOfDeadWorker : EvaluationFault → Bool
  | .workerGone | .workerDied => true
  | _ => false

namespace Script.Workers.State

variable {Context : Type} {i : Interpreter Context} {start s t : State Context}
  {library : Predicate.Library} {patience : Span} {a : Action} {place g : Nat} {c : Caller}
  {answer : Answer}

/-! ### Closed queues -/

def IsClosed (s : State Context) (g : Nat) : Prop :=
  ∃ w, s.workers[g]? = some w ∧ w.isOpen = false

/-- A closed queue stays closed. -/
theorem IsClosed.step (h : s.IsClosed g) (hstep : s.Step i a t) : t.IsClosed g := by
  obtain ⟨w, hw, hclosed⟩ := h
  obtain ⟨w', hw', hchange⟩ := exists_worker_of_step hstep hw
  exact ⟨w', hw', hchange.extends.isClosed hclosed⟩

/-- A caller that has not waited too long asks for another worker only if it has found the queue
closed. -/
theorem isClosed_of_replacing (hstart : State.start i library patience = .ok start)
    (hs : Reachable i start s) (hc : s.callers[place]? = some c)
    (hstage : c.stage = .replacing g answer)
    (hanswer : ∀ patience, answer ≠ .error (.evaluation (.timedOut patience))) : s.IsClosed g := by
  refine stage_of_reachable (P := fun u stage => stage = .replacing g answer → u.IsClosed g)
    hstart hs nofun ?_ ?_ hc hstage
  · exact fun u v a stage hstep hclosed hstage => (hclosed hstage).step hstep
  · rintro u a place c stage hu hc - hmove rfl
    cases hmove with
    | timeOut => exact absurd rfl (hanswer _)
    | findClosed _ hworker hopen => exact ⟨_, hworker, hopen⟩

/-- A caller is told that there is no worker only if it has found the queue closed. -/
theorem isClosed_of_checking (hstart : State.start i library patience = .ok start)
    (hi : i.IsModest) (hs : Reachable i start s) (hc : s.callers[place]? = some c)
    (hstage : c.stage = .checking g (.error (.evaluation .workerGone))) : s.IsClosed g := by
  refine stage_of_reachable
    (P := fun u stage => stage = .checking g (.error (.evaluation .workerGone)) → u.IsClosed g)
    hstart hs nofun ?_ ?_ hc hstage
  · exact fun u v a stage hstep hclosed hstage => (hclosed hstage).step hstep
  · rintro u a place c stage hu hc - hmove rfl
    cases hmove with
    | refuse _ hworker hopen => exact ⟨_, hworker, hopen⟩
    | receive _ hreply =>
        -- no worker replies that there is no worker
        obtain ⟨first, hnew⟩ := IsSound.start hstart
        obtain ⟨_, -, _, e, -, -, -, hanswer⟩ := (hnew.of_reachable hu).replies place c _ hc hreply
        cases Evaluation.isOfEngine_answer hi hanswer

/-! ### The return of a call -/

/-- In the step with which a call returns it has looked at the queue just now and found it open, or has
asked for another worker. -/
theorem return_cases (hstep : s.Step i a t) (hbefore : s.stage? place ≠ some (.returned g answer))
    (hafter : t.stage? place = some (.returned g answer)) :
    (s.stage? place = some (.checking g answer) ∧ ¬ s.IsClosed g ∧ t.generation = s.generation) ∨
      ∃ canStart, a = .replace place canStart ∧ s.stage? place = some (.replacing g answer) := by
  obtain ⟨c, hc, hstage⟩ := stage?_eq_some_iff.mp hafter
  rcases stage_of_step hstep hc with hcalled | ⟨old, hold, hsame | hmove⟩
  · cases hcalled.symm.trans hstage
  · exact absurd (stage?_eq_some_iff.mpr ⟨old, hold, hsame.symm.trans hstage⟩) hbefore
  · rw [hstage] at hmove
    cases hmove with
    | @findOpen _ _ w hchecking hworker hopen =>
        left
        refine ⟨stage?_eq_some_iff.mpr ⟨old, hold, hchecking⟩, ?_, ?_⟩
        · rintro ⟨found, hfound, hclosed⟩
          cases hworker.symm.trans hfound
          cases hopen.symm.trans hclosed
        · rcases generation_of_step hstep with ⟨hkept, -⟩ | ⟨_, _, _, ha, -⟩
          · exact hkept
          · cases ha
    | @replace _ _ canStart hreplacing =>
        right
        exact ⟨canStart, rfl, stage?_eq_some_iff.mpr ⟨old, hold, hreplacing⟩⟩

/-- A caller that takes a queue takes that of the present worker. -/
theorem connect_eq_some_iff : s.step i (.connect place) = some t ↔
    s.stage? place = some .called ∧ s.atStage place (.sending s.generation) = t := by
  rw [step_iff]
  constructor
  · rintro ⟨⟩
    next hstage => exact ⟨hstage, rfl⟩
  · rintro ⟨hstage, rfl⟩
    exact .connect hstage

/-- A generation has been retired exactly if no caller can take its queue any more. -/
theorem lt_generation_iff (hg : g ≤ s.generation) :
    g < s.generation ↔ ∀ (t u : State Context) (caller : Nat), Reachable i s t →
      t.step i (.connect caller) = some u → u.stage? caller ≠ some (.sending g) := by
  constructor
  · intro hlt t u caller ht hstep hsending
    obtain ⟨hcalled, rfl⟩ := connect_eq_some_iff.mp hstep
    cases (stage?_atStage hcalled).symm.trans hsending
    exact absurd (generation_le_of_reachable ht) (Nat.not_le.mpr hlt)
  · intro h
    refine Nat.lt_of_le_of_ne hg ?_
    rintro rfl
    -- somebody who calls now takes the queue of the present worker
    have hcalled : stage? { s with callers := s.callers ++ [{ script := "", url := "", host := "" }] }
        s.callers.length = some .called := by simp [stage?]
    exact h _ _ s.callers.length (.step (.call "" "" "") .start rfl)
      (connect_eq_some_iff.mpr ⟨hcalled, rfl⟩) (stage?_atStage hcalled)

/-- A call that is told that its worker is gone or has died, and that could have a new worker started:
in the step with which it returns, and ever after, its worker has been replaced exactly if this was so
before or the queue is closed by now; and exactly then no call that comes later is sent to that worker. The
queue is closed whenever it is the sending that has failed. -/
theorem lt_generation_iff_of_step (hstart : State.start i library patience = .ok start)
    (hs : Reachable i start s) (hstep : s.step i a = some t) {fault : EvaluationFault}
    (hfault : fault.isOfDeadWorker = true) (ha : a ≠ .replace place false)
    (hbefore : s.stage? place ≠ some (.returned g (.error (.evaluation fault))))
    (hafter : t.stage? place = some (.returned g (.error (.evaluation fault)))) :
    (g < t.generation ↔ g < s.generation ∨ s.IsClosed g) ∧
    (g < t.generation ↔ ∀ (u v : State Context) (caller : Nat), Reachable i t u →
      u.step i (.connect caller) = some v → v.stage? caller ≠ some (.sending g)) ∧
    (i.IsModest → fault = .workerGone → g < t.generation) := by
  have hle : g ≤ t.generation := by
    obtain ⟨c, hc, hstage⟩ := stage?_eq_some_iff.mp hafter
    exact generation?_le_of_reachable hstart (.step a hs hstep) hc (by rw [hstage]; rfl)
  rw [step_iff] at hstep
  rcases return_cases hstep hbefore hafter with ⟨hchecking, hopen, hgeneration⟩ | ⟨canStart, rfl, hreplacing⟩
  · refine ⟨by simp [hgeneration, hopen], lt_generation_iff hle, ?_⟩
    rintro hi rfl
    obtain ⟨c, hc, hstage⟩ := stage?_eq_some_iff.mp hchecking
    exact absurd (isClosed_of_checking hstart hi hs hc hstage) hopen
  · have hclosed : s.IsClosed g := by
      obtain ⟨c, hc, hstage⟩ := stage?_eq_some_iff.mp hreplacing
      refine isClosed_of_replacing hstart hs hc hstage ?_
      rintro patience ⟨⟩
      cases hfault
    have hlt : g < t.generation := by
      obtain ⟨first, hnew⟩ := IsSound.start hstart
      obtain ⟨c, hc, hstage⟩ := stage?_eq_some_iff.mp hreplacing
      cases canStart with
      | false => exact absurd rfl ha
      | true =>
          exact lt_generation_of_replace (hnew.of_reachable hs).begins hstep hreplacing
            (generation?_le_of_reachable hstart hs hc (by rw [hstage]; rfl))
    exact ⟨iff_of_true hlt (.inr hclosed), lt_generation_iff hle, fun _ _ => hlt⟩

/-- A caller's job is being evaluated. -/
def evaluating : List Action :=
  [.call "first" "http://a/" "a", .connect 0, .send 0, .take 0, .begin 0 noon]

/-- The worker dies. It has closed its queue when the caller looks. -/
def closingFirst : List Action := [.fail 0, .close 0, .dropReply 0, .receive 0, .check 0]

/-- The worker dies. It has not closed its queue when the caller looks. -/
def droppingFirst : List Action := [.fail 0, .dropReply 0, .receive 0]

/-- When the queue is closed first, the dead worker is replaced. -/
theorem lt_generation_closingFirst : ∃ s t,
    plainEngine.run Session.plainInterpreter (evaluating ++ closingFirst) = some s ∧
      s.step Session.plainInterpreter (.replace 0 true) = some t ∧
      t.stage? 0 = some (.returned 0 (.error (.evaluation .workerDied))) ∧ 0 < t.generation := by
  obtain ⟨s, t, hrun, hstep, hbefore, hafter, hclosed⟩ : ∃ s t,
      plainEngine.run Session.plainInterpreter (evaluating ++ closingFirst) = some s ∧
        s.step Session.plainInterpreter (.replace 0 true) = some t ∧
        s.stage? 0 = some (.replacing 0 (.error (.evaluation .workerDied))) ∧
        t.stage? 0 = some (.returned 0 (.error (.evaluation .workerDied))) ∧ s.IsClosed 0 :=
    ⟨_, _, rfl, rfl, rfl, rfl, _, rfl, rfl⟩
  obtain ⟨hretired, -⟩ := lt_generation_iff_of_step start_plain (reachable_of_run .start hrun) hstep
    rfl nofun (by simp [hbefore]) hafter
  exact ⟨s, t, hrun, hstep, hafter, hretired.mpr (.inr hclosed)⟩

/-- When the caller looks first, it returns without the dead worker being replaced. The next call is sent
to the dead worker, and fails for this. -/
theorem not_lt_generation_droppingFirst : ∃ s t u w v,
    plainEngine.run Session.plainInterpreter (evaluating ++ droppingFirst) = some s ∧
      s.stage? 0 = some (.checking 0 (.error (.evaluation .workerDied))) ∧
      s.step Session.plainInterpreter (.check 0) = some t ∧
      t.stage? 0 = some (.returned 0 (.error (.evaluation .workerDied))) ∧ ¬ 0 < t.generation ∧
      t.run Session.plainInterpreter [.call "second" "http://b/" "b", .connect 1] = some u ∧
      u.stage? 1 = some (.sending 0) ∧ u.workers[0]? = some w ∧ w.activity = .failed ∧
      u.run Session.plainInterpreter [.close 0, .send 1, .check 1, .replace 1 true] = some v ∧
      v.stage? 1 = some (.returned 0 (.error (.evaluation .workerGone))) := by
  refine ⟨_, _, _, _, _, rfl, rfl, rfl, rfl, ?_, rfl, rfl, rfl, rfl, rfl, rfl⟩
  exact Nat.lt_irrefl 0

end Script.Workers.State

end AutoProxy
