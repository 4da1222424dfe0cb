import AutoProxy.Proofs.Workers.Evaluations

/-!
How workers are replaced, one after the other (`retired_of_run`). A caller can have the worker replaced
whose queue it has taken, and no other; whoever comes too late finds that this is done. Hence no
generation is skipped and none is retired twice, and a caller that has waited too long returns when its
worker has been replaced.
-/

namespace AutoProxy

/-- Whether the engine says so for itself, and not for an evaluation. -/
def EvaluationFault.isOfEngine : EvaluationFault → Bool
  | .timedOut _ | .workerGone | .workerDied => true
  | _ => false

namespace Script

/-- An interpreter is modest if it leaves to the engine what only the engine can say. -/
def Interpreter.IsModest {Context : Type} (i : Interpreter Context) : Prop :=
  ∀ context thread text fault, (i.run context thread text).result = .error fault →
    fault.isOfEngine = false

theorem Stop.isOfEngine_fault (bounds : Bounds) (m : Machine) (stop : Stop) :
    (stop.fault bounds m).isOfEngine = false := by
  cases stop with
  | thrown => rfl
  | halted halt => cases halt <;> rfl

/-- The interpreter of the script language is modest. -/
theorem isModest_interpreter (bounds : Bounds) (lookup : Lookup) :
    (interpreter bounds lookup).IsModest := by
  intro m thread text fault h
  simp only [interpreter, run] at h
  split at h
  · cases h
    rfl
  · split at h
    · split at h
      · cases h
      · cases h
        exact Stop.isOfEngine_fault ..
    · cases h
      rfl

namespace Workers

variable {Context : Type} {i : Interpreter Context}

/-- An evaluation never ends with what only the engine can say. -/
theorem Evaluation.isOfEngine_answer (hi : i.IsModest) {e : Evaluation Context}
    {fault : EvaluationFault} (h : e.answer i = .error (.evaluation fault)) :
    fault.isOfEngine = false := by
  have hanswer : (e.session.ask (e.call i)).1 = .error (.evaluation fault) := h
  by_cases hloaded : e.session.loaded = some (e.call i).script
  · rw [Session.ask_of_loaded hloaded] at hanswer
    exact hi _ _ _ _ (Session.result_of_evaluatedIn hanswer)
  · cases hfresh : (e.call i).interpreter.fresh with
    | ok context =>
        rw [Session.ask_of_fresh hloaded hfresh] at hanswer
        exact hi _ _ _ _ (Session.result_of_evaluatedIn hanswer)
    | error reason =>
        rw [Session.ask_of_not_fresh hloaded hfresh] at hanswer
        cases hanswer
        rfl

namespace State

variable {s t : State Context} {a : Action} {place g : Nat} {answer : Answer} {c : Caller}

/-! ### One step -/

/-- What comes of asking for another worker: there is one if the present worker is that of the caller and
a new one can be started, and otherwise all workers are as they were. -/
theorem replace_cases {canStart : Bool} (h : s.Step i (.replace place canStart) t) :
    ∃ g answer, s.stage? place = some (.replacing g answer) ∧
      t.stage? place = some (.returned g answer) ∧
      ((g = s.generation ∧ canStart = true ∧ ∃ session, Session.start i s.library = .ok session ∧
          t.generation = s.generation + 1 ∧
          t.workers = s.workers ++ [({ session } : Worker Context)]) ∨
        ((g = s.generation → canStart = true → ∃ fault, Session.start i s.library = .error fault) ∧
          t.generation = s.generation ∧ t.workers = s.workers)) := by
  cases h with
  | retire hstage hsession =>
      exact ⟨_, _, hstage, stage?_atStage hstage, .inl ⟨rfl, rfl, _, hsession, rfl, rfl⟩⟩
  | keep hstage hkeep =>
      exact ⟨_, _, hstage, stage?_atStage hstage, .inr ⟨fun hg => hkeep hg.symm, rfl, rfl⟩⟩

/-- A caller that could have a new worker started returns when its own has been replaced. -/
theorem lt_generation_of_replace {session : Session Context}
    (hbegins : Session.start i s.library = .ok session)
    (hstep : s.Step i (.replace place true) t)
    (hstage : s.stage? place = some (.replacing g answer)) (hle : g ≤ s.generation) :
    g < t.generation := by
  obtain ⟨_, _, hreplacing, -, hcases⟩ := replace_cases hstep
  cases hreplacing.symm.trans hstage
  rcases hcases with ⟨rfl, -, _, -, hgeneration, -⟩ | ⟨hfails, hgeneration, -⟩
  · exact hgeneration ▸ Nat.lt_succ_self _
  · rw [hgeneration]
    refine Nat.lt_of_le_of_ne hle fun hsame => ?_
    obtain ⟨fault, hfault⟩ := hfails hsame rfl
    cases hbegins.symm.trans hfault

/-! ### Any number of steps -/

section

variable {start : State Context} {library : Predicate.Library} {patience : Span}
  {actions : List Action}

/-- There is a worker of each generation. -/
theorem workers_length_of_reachable (hstart : State.start i library patience = .ok start)
    (hs : Reachable i start s) : s.workers.length = s.workersStarted := by
  induction hs with
  | start =>
      obtain ⟨session, -, rfl⟩ := start_eq_ok_iff.mp hstart
      rfl
  | step a _ hstep ih =>
      rw [workersStarted] at ih ⊢
      rcases generation_of_step (step_iff.mp hstep) with ⟨hsame, hlength⟩ | ⟨_, _, _, -, -, -, rfl⟩
      · rw [hlength, ih, hsame]
      · simp [atStage, ih]

/-- No caller has taken the queue of a worker that is still to come. -/
theorem generation?_le_of_reachable (hstart : State.start i library patience = .ok start)
    (hs : Reachable i start s) (hc : s.callers[place]? = some c)
    (hg : c.stage.generation? = some g) : g ≤ s.generation := by
  refine stage_of_reachable (P := fun u stage => stage.generation? = some g → g ≤ u.generation)
    hstart hs nofun ?_ ?_ hc hg
  · exact fun u v a stage hstep hle hstage => Nat.le_trans (hle hstage) (generation_le_of_step hstep)
  · intro u a place c stage hu hc hle hmove hstage
    rcases hmove.generation? with hpresent | hkept
    · cases hpresent.symm.trans hstage
      exact Nat.le_refl _
    · exact hle (hkept.symm.trans hstage)

/-- A caller that has waited too long does not look at the queue, and has returned only if its worker
has been replaced. -/
def InTime (s : State Context) (place : Nat) : Prop :=
  ∀ (c : Caller) (g : Nat) (patience : Span), s.callers[place]? = some c →
    c.stage ≠ .checking g (.error (.evaluation (.timedOut patience))) ∧
      (c.stage = .returned g (.error (.evaluation (.timedOut patience))) → g < s.generation)

theorem InTime.step {first : Session Context} (h : s.InTime place) (hi : i.IsModest)
    (hsound : s.IsSound i first)
    (hle : ∀ (c : Caller) (g : Nat), s.callers[place]? = some c → c.stage.generation? = some g →
      g ≤ s.generation)
    (hstep : s.Step i a t) (ha : a ≠ .replace place false) : t.InTime place := by
  intro c g patience hc
  rcases stage_of_step hstep hc with hcalled | ⟨old, hold, hsame | hmove⟩
  · rw [hcalled]
    exact ⟨nofun, nofun⟩
  · obtain ⟨hchecking, hreturned⟩ := h old g patience hold
    rw [hsame]
    exact ⟨hchecking, fun hstage =>
      Nat.lt_of_lt_of_le (hreturned hstage) (generation_le_of_step hstep)⟩
  · constructor
    · intro hstage
      rw [hstage] at hmove
      cases hmove with
      | receive _ hreply =>
          -- no worker replies that somebody has waited too long
          obtain ⟨_, -, _, e, -, -, -, hanswer⟩ := hsound.replies place old _ hold hreply
          cases Evaluation.isOfEngine_answer hi hanswer
    · intro hstage
      rw [hstage] at hmove
      cases hmove with
      | findOpen hchecking => exact absurd hchecking (h old g patience hold).1
      | @replace _ _ canStart hreplacing =>
          cases canStart with
          | false => exact absurd rfl ha
          | true =>
              exact lt_generation_of_replace hsound.begins hstep
                (stage?_eq_some_iff.mpr ⟨old, hold, hreplacing⟩)
                (hle old g hold (by rw [hreplacing]; rfl))

theorem inTime_of_run (hstart : State.start i library patience = .ok start) (hi : i.IsModest)
    (hs : Reachable i start s) (h : s.InTime place) (hrun : s.run i actions = some t)
    (hactions : .replace place false ∉ actions) : t.InTime place := by
  induction actions generalizing s with
  | nil =>
      cases hrun
      exact h
  | cons a rest ih =>
      obtain ⟨u, hstep, hrest⟩ := run_cons_eq_some_iff.mp hrun
      obtain ⟨first, hnew⟩ := IsSound.start hstart
      have hu : u.InTime place := h.step hi (hnew.of_reachable hs)
        (fun c g => generation?_le_of_reachable hstart hs) (step_iff.mp hstep)
        (fun ha => hactions (by simp [ha]))
      exact ih (.step a hs hstep) hu hrest fun hmem => hactions (List.mem_cons_of_mem a hmem)

/-- The generations whose workers are replaced in a row of steps, the first one first. -/
def retired (i : Interpreter Context) (s : State Context) : List Action → List Nat
  | [] => []
  | a :: rest =>
    match s.step i a with
    | none => []
    | some t =>
      if t.generation = s.generation then t.retired i rest else s.generation :: t.retired i rest

theorem range_append_retired (h : s.run i actions = some t) :
    List.range s.generation ++ s.retired i actions = List.range t.generation := by
  induction actions generalizing s with
  | nil =>
      cases h
      exact List.append_nil _
  | cons a rest ih =>
      obtain ⟨u, hstep, hrest⟩ := run_cons_eq_some_iff.mp h
      rw [← ih hrest, retired, hstep]
      rcases generation_of_step (step_iff.mp hstep) with ⟨hsame, -⟩ | ⟨_, _, _, -, -, -, hu⟩
      · simp [hsame]
      · have hnext : u.generation = s.generation + 1 := by rw [hu]; rfl
        simp [hnext, List.range_succ]

/-- Whatever callers and workers do, and however many callers have waited too long or have found the queue
closed: generations are retired one after the other, each of them once, and there is one worker more than
that. Only a caller that has taken the queue of the present worker can have that one replaced; if the new
one cannot be started all workers are as they were. A call that has waited too long returns when its
worker has been replaced, if it could have a new one started. -/
theorem retired_of_run (hstart : State.start i library patience = .ok start)
    (hrun : start.run i actions = some s) :
    start.retired i actions = List.range s.generation ∧
    s.workersStarted = 1 + (start.retired i actions).length ∧
    s.workers.length = s.workersStarted ∧
    (∀ (a : Action) (t : State Context), s.step i a = some t → t.generation ≠ s.generation →
      ∃ place answer, a = .replace place true ∧
        s.stage? place = some (.replacing s.generation answer)) ∧
    (∀ (place : Nat) (canStart : Bool) (t : State Context),
      s.step i (.replace place canStart) = some t →
      ∃ g answer, s.stage? place = some (.replacing g answer) ∧
        t.stage? place = some (.returned g answer) ∧
        if g = s.generation ∧ canStart = true then
          t.generation = s.generation + 1 ∧
            ∃ session, t.workers = s.workers ++ [({ session } : Worker Context)]
        else t.generation = s.generation ∧ t.workers = s.workers) ∧
    (i.IsModest → ∀ (place g : Nat) (after : Span), .replace place false ∉ actions →
      s.stage? place = some (.returned g (.error (.evaluation (.timedOut after)))) → g < s.generation) := by
  have hs : Reachable i start s := reachable_of_run .start hrun
  obtain ⟨first, hnew⟩ := IsSound.start hstart
  have hbegins := (hnew.of_reachable hs).begins
  have hretired : start.retired i actions = List.range s.generation := by
    obtain ⟨session, -, rfl⟩ := start_eq_ok_iff.mp hstart
    simpa using range_append_retired hrun
  refine ⟨hretired, ?_, workers_length_of_reachable hstart hs, ?_, ?_, ?_⟩
  · rw [hretired, List.length_range, workersStarted, Nat.add_comm]
  · intro a t hstep hne
    rcases generation_of_step (step_iff.mp hstep) with ⟨hsame, -⟩ | ⟨place, answer, _, ha, hstage, -, -⟩
    · exact absurd hsame hne
    · exact ⟨place, answer, ha, hstage⟩
  · intro place canStart t hstep
    obtain ⟨g, answer, hreplacing, hreturned, hcases⟩ := replace_cases (step_iff.mp hstep)
    refine ⟨g, answer, hreplacing, hreturned, ?_⟩
    rcases hcases with ⟨hg, hcan, session, -, hgeneration, hworkers⟩ | ⟨hfails, hsame⟩
    · rw [if_pos ⟨hg, hcan⟩]
      exact ⟨hgeneration, session, hworkers⟩
    · rw [if_neg]
      · exact hsame
      · rintro ⟨hg, hcan⟩
        obtain ⟨fault, hfault⟩ := hfails hg hcan
        cases hbegins.symm.trans hfault
  · intro hi place g after hactions hstage
    obtain ⟨c, hc, hstage⟩ := stage?_eq_some_iff.mp hstage
    have hfirst : start.InTime place := by
      obtain ⟨session, -, rfl⟩ := start_eq_ok_iff.mp hstart
      exact fun c g patience hc => by cases hc
    exact (inTime_of_run hstart hi .start hfirst hrun hactions c g after hc).2 hstage

end

def plainEngine : State Machine :=
  { library := {}, patience := .ofSeconds 5, workers := [{ session := Session.newSession }] }

theorem start_plain :
    start Session.plainInterpreter {} (.ofSeconds 5) = .ok plainEngine := rfl

/-- Three callers of one worker wait too long. The first finds that no other worker can be started, the
second has one started, and the third finds that this is done. -/
def threeOverdue : List Action :=
  [.call "slow" "http://a/" "a", .connect 0, .call "slow" "http://b/" "b", .connect 1,
    .call "slow" "http://c/" "c", .connect 2, .timeOut 0, .timeOut 1, .timeOut 2,
    .replace 0 false, .replace 1 true, .replace 2 true]

/-- One worker is retired, and not another for the caller that comes last. -/
theorem retired_threeOverdue : ∃ s,
    plainEngine.run Session.plainInterpreter threeOverdue = some s ∧
      plainEngine.retired Session.plainInterpreter threeOverdue = [0] ∧ s.workersStarted = 1 + 1 ∧
      s.stage? 2 = some (.returned 0 (.error (.evaluation (.timedOut (.ofSeconds 5))))) ∧
      0 < s.generation := by
  obtain ⟨s, hrun, hgeneration, hstage⟩ : ∃ s,
      plainEngine.run Session.plainInterpreter threeOverdue = some s ∧ s.generation = 1 ∧
        s.stage? 2 = some (.returned 0 (.error (.evaluation (.timedOut (.ofSeconds 5))))) :=
    ⟨_, rfl, rfl, rfl⟩
  obtain ⟨hretired, hstarted, -, -, -, htimeouts⟩ := retired_of_run start_plain hrun
  rw [hgeneration] at hretired
  rw [hretired] at hstarted
  exact ⟨s, hrun, hretired, hstarted, hstage,
    htimeouts (isModest_interpreter _ _) 2 0 _ (by simp [threeOverdue]) hstage⟩

end State

end Workers

end Script

end AutoProxy
