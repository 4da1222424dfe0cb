import AutoProxy.Proofs.Workers.Deaths
import AutoProxy.Script.Engine

/-!
An engine that is asked one thing after another. What it answers, and the session that it goes on with,
are what callers and workers come to when only one caller is there at a time
(`exists_run_of_evaluate`): the steps that a new caller, the worker and, if need be, the next worker take
lead from a state that shows the engine before to one that shows it afterwards. What holds of callers and
workers in general thus holds of engines.
-/

namespace AutoProxy.Script.Workers

variable {Context : Type} {i : Interpreter Context}

/-- The worker that has begun an evaluation after everything else that it has been sent. -/
def Worker.evaluates (w : Worker Context) (e : Evaluation Context) : Worker Context :=
  { w with
    sent := w.sent ++ [e.job], taken := w.taken + 1, begun := w.begun ++ [e], activity := .evaluating e }

/-- A worker waits for a job that is yet to be sent. -/
structure Worker.IsWaiting (w : Worker Context) : Prop where
  isOpen : w.isOpen = true
  idle : w.activity = .idle
  taken : w.taken = w.sent.length

namespace State

variable {s t u : State Context} {c : Caller} {g : Nat} {w w' : Worker Context} {a : Action}
  {rest : List Action} {script url host : String} {thread : Thread}

/-! ### One more caller -/

/-- The state with one more caller, and with another worker of a generation. -/
def joined (s : State Context) (c : Caller) (g : Nat) (w : Worker Context) : State Context :=
  { s with callers := s.callers ++ [c], workers := s.workers.set g w }

theorem joined_of_workers (h : s.workers[g]? = some w) :
    { s with callers := s.callers ++ [c] } = s.joined c g w := by
  obtain ⟨hlt, rfl⟩ := List.getElem?_eq_some_iff.mp h
  simp [joined]

theorem callers_joined : (s.joined c g w).callers[s.callers.length]? = some c := by simp [joined]

theorem stage?_joined : (s.joined c g w).stage? s.callers.length = some c.stage := by
  rw [stage?, callers_joined, Option.map_some]

theorem workers_joined (h : s.workers[g]? = some w') : (s.joined c g w).workers[g]? = some w := by
  obtain ⟨hlt, -⟩ := List.getElem?_eq_some_iff.mp h
  simp [joined, hlt]

theorem modify_concat {α : Type} (l : List α) (x : α) (f : α → α) :
    (l ++ [x]).modify l.length f = l ++ [f x] := by
  induction l with
  | nil => rfl
  | cons y rest ih => simpa using ih

theorem atStage_joined (stage : Stage) :
    (s.joined c g w).atStage s.callers.length stage = s.joined { c with stage } g w := by
  simp [atStage, joined, modify_concat]

theorem replied_joined (reply : Reply) :
    (s.joined c g w).replied s.callers.length reply = s.joined { c with reply } g w := by
  simp [replied, joined, modify_concat]

theorem withWorker_joined : (s.joined c g w).withWorker g w' = s.joined c g w' := by
  simp [withWorker, joined]

/-! ### One evaluation -/

theorem run_step (h : s.Step i a t) (hrest : t.run i rest = some u) :
    s.run i (a :: rest) = some u :=
  run_cons_eq_some_iff.mpr ⟨t, step_eq_some_of_step h, hrest⟩

/-- A new caller takes the queue of the present worker. -/
theorem run_connect (hw : s.workers[s.generation]? = some w)
    (hrest : (s.joined { script, url, host, stage := .sending s.generation } s.generation w).run i rest =
      some t) :
    s.run i (.call script url host :: .connect s.callers.length :: rest) = some t := by
  refine run_step (.call script url host) ?_
  rw [joined_of_workers hw]
  refine run_step (.connect stage?_joined) ?_
  rw [atStage_joined]
  exact hrest

/-- A worker that waits begins to evaluate the job of a new caller. -/
theorem run_begin (hw : s.workers[s.generation]? = some w) (hwaiting : w.IsWaiting)
    (hrest : (s.joined { script, url, host, stage := .awaiting s.generation } s.generation
      (w.evaluates ⟨⟨s.callers.length, script, url, host⟩, w.session, thread⟩)).run i rest = some t) :
    s.run i (.call script url host :: .connect s.callers.length :: .send s.callers.length ::
      .take s.generation :: .begin s.generation thread :: rest) = some t := by
  obtain ⟨hopen, hidle, htaken⟩ := hwaiting
  refine run_connect hw (run_step (.send callers_joined rfl (workers_joined hw) hopen ?_) ?_)
  · simp [Worker.queue, htaken, queueDepth]
  rw [atStage_joined, withWorker_joined]
  have hjob : (w.sent ++ [(⟨s.callers.length, script, url, host⟩ : Job)])[w.taken]? =
      some ⟨s.callers.length, script, url, host⟩ := by simp [htaken]
  refine run_step (.take (workers_joined hw) hidle hjob) ?_
  rw [withWorker_joined]
  refine run_step (.begin (workers_joined hw) rfl ?_) ?_
  · simp [isAwaited, stage?_joined, Stage.isAwaiting]
  rw [withWorker_joined]
  exact hrest

/-- The worker replies, and the caller returns the answer. -/
theorem run_finish {e : Evaluation Context} (hw : s.workers[g]? = some w)
    (hcaller : e.job.caller = s.callers.length) (hopen : w.isOpen = true)
    (hc : c.stage = .awaiting g) (hanswer : e.answer i ≠ .error (.evaluation .collapsed)) :
    (s.joined c g (w.evaluates e)).run i [.finish g, .receive s.callers.length, .check s.callers.length] =
      some (s.joined { c with stage := .returned g (e.answer i), reply := .sent (e.answer i) } g
        { w.evaluates e with session := (e.outcome i).2, activity := .idle }) := by
  refine run_step (.finish (workers_joined hw) rfl hanswer) ?_
  rw [hcaller, replied_joined, withWorker_joined]
  refine run_step (.receive callers_joined hc rfl) ?_
  rw [atStage_joined]
  refine run_step (.findOpen stage?_joined (workers_joined hw) hopen) ?_
  rw [atStage_joined]
  rfl

/-- The worker dies, and the caller has returned before the queue is closed. -/
theorem run_collapse {e : Evaluation Context} (hw : s.workers[g]? = some w)
    (hcaller : e.job.caller = s.callers.length) (hopen : w.isOpen = true)
    (hc : c.stage = .awaiting g) :
    (s.joined c g (w.evaluates e)).run i
        [.fail g, .dropReply g, .receive s.callers.length, .check s.callers.length, .close g] =
      some (s.joined { c with stage := .returned g (.error (.evaluation .workerDied)), reply := .dropped } g
        { w.evaluates e with isOpen := false, activity := .failed }) := by
  refine run_step (.fail (workers_joined hw) rfl) ?_
  rw [withWorker_joined]
  refine run_step (.dropReply (workers_joined hw) rfl) ?_
  rw [hcaller, replied_joined, withWorker_joined]
  refine run_step (.miss callers_joined hc rfl) ?_
  rw [atStage_joined]
  refine run_step (.findOpen stage?_joined (workers_joined hw) hopen) ?_
  rw [atStage_joined]
  refine run_step (.close (workers_joined hw) hopen (.inr rfl)) ?_
  rw [withWorker_joined]
  rfl

/-- A caller has the present worker replaced. -/
theorem exists_run_replace {session : Session Context} {answer : Answer}
    (hsession : Session.start i s.library = .ok session) (hc : c.stage = .replacing s.generation answer) :
    ∃ t, (s.joined c s.generation w).run i [.replace s.callers.length true] = some t ∧
      t.library = s.library ∧ t.patience = s.patience ∧ t.generation = s.generation + 1 ∧
      t.workers = s.workers.set s.generation w ++ [({ session } : Worker Context)] ∧
      t.stage? s.callers.length = some (.returned s.generation answer) := by
  have hstage : (s.joined c s.generation w).stage? s.callers.length =
      some (.replacing (s.joined c s.generation w).generation answer) := by
    rw [stage?_joined, hc]
    rfl
  exact ⟨_, run_step (.retire hstage hsession) rfl, rfl, rfl, rfl, rfl, stage?_atStage hstage⟩

end State

/-! ### Engines -/

variable {e : Engine} {s : State Machine}

/-- A state shows an engine whose worker waits for a job, or has died. -/
structure Shows (e : Engine) (s : State Machine) : Prop where
  library : s.library = e.library
  patience : s.patience = e.limits.timeout
  generation : s.generation = e.generation
  workers : s.workers.length = e.generation + 1
  worker : ∃ w, s.workers[e.generation]? = some w ∧ w.isOpen = e.isAlive ∧
    (e.isAlive = true → w.IsWaiting ∧ w.session = e.session)

/-- An interpreter of the script language never fails to bind the predicates. -/
theorem start_session (limits : Limits) (lookup : Lookup) (library : Predicate.Library) :
    Session.start (Engine.interpreter limits lookup) library =
      .ok { library, context := Question.all.foldl Machine.bind .blank } := rfl

/-- A new worker can always be started. -/
theorem replaceWorker_eq (e : Engine) : e.replaceWorker =
    { e with
      generation := e.generation + 1
      session := { library := e.library, context := Question.all.foldl Machine.bind .blank }
      isAlive := true } := rfl

/-- A new engine is shown by the state in which callers and workers begin. -/
theorem shows_start {library : Predicate.Library} {limits : Limits} {lookup : Lookup}
    (h : Engine.start library limits lookup = .ok e) :
    ∃ s, State.start (Engine.interpreter limits lookup) library limits.timeout = .ok s ∧ Shows e s := by
  cases h
  exact ⟨_, rfl, rfl, rfl, rfl, rfl, _, rfl, rfl, fun _ => ⟨⟨rfl, rfl, rfl⟩, rfl⟩⟩

/-- Once a caller has had the worker replaced, the state shows the engine with another worker. -/
theorem Shows.exists_run_replace (h : Shows e s) {c : Caller} {w : Worker Machine} {answer : Answer}
    (hc : c.stage = .replacing s.generation answer) :
    ∃ t, (s.joined c s.generation w).run (Engine.interpreter e.limits e.lookup)
        [.replace s.callers.length true] = some t ∧
      Shows e.replaceWorker t ∧
      t.stage? s.callers.length = some (.returned e.generation answer) := by
  obtain ⟨t, hrun, hlibrary, hpatience, hgeneration, hworkers, hstage⟩ :=
    State.exists_run_replace (start_session e.limits e.lookup s.library) hc (w := w)
  have hnew : t.workers[e.generation + 1]? =
      some { session := { library := s.library, context := Question.all.foldl Machine.bind .blank } } := by
    rw [hworkers]
    exact List.getElem?_eq_some_iff.mpr ⟨by simp [h.workers], by simp [h.workers]⟩
  refine ⟨t, hrun, ?_, by rw [hstage, h.generation]⟩
  rw [replaceWorker_eq]
  refine ⟨hlibrary.trans h.library, hpatience.trans h.patience, ?_, ?_, _, hnew, rfl, ?_⟩
  · rw [hgeneration, h.generation]
  · simp [hworkers, h.workers]
  · exact fun _ => ⟨⟨rfl, rfl, rfl⟩, by rw [h.library]⟩

/-- A caller that waits too long has the worker replaced. -/
theorem Shows.exists_run_timeOut (h : Shows e s) {c : Caller} {w : Worker Machine}
    (hc : c.stage = .awaiting s.generation) :
    ∃ t, (s.joined c s.generation w).run (Engine.interpreter e.limits e.lookup)
        [.timeOut s.callers.length, .replace s.callers.length true] = some t ∧
      Shows e.replaceWorker t ∧
      t.stage? s.callers.length =
        some (.returned e.generation (.error (.evaluation (.timedOut e.limits.timeout)))) := by
  have hawaiting : (s.joined c s.generation w).stage? s.callers.length =
      some (.awaiting s.generation) := by rw [State.stage?_joined, hc]
  obtain ⟨t, hrun, hshows, hstage⟩ := h.exists_run_replace (w := w)
    (c := { c with stage := .replacing s.generation (.error (.evaluation (.timedOut s.patience))) }) rfl
  rw [← State.atStage_joined] at hrun
  rw [h.patience] at hstage
  exact ⟨t, State.run_step (.timeOut (.inr hawaiting)) hrun, hshows, hstage⟩

/-- A caller that finds the queue closed has the worker replaced. -/
theorem Shows.exists_run_refuse (h : Shows e s) {w : Worker Machine}
    (hw : s.workers[s.generation]? = some w) (hclosed : w.isOpen = false) (script url host : String) :
    ∃ t, s.run (Engine.interpreter e.limits e.lookup)
        [.call script url host, .connect s.callers.length, .send s.callers.length,
          .check s.callers.length, .replace s.callers.length true] = some t ∧
      Shows e.replaceWorker t ∧
      t.stage? s.callers.length = some (.returned e.generation (.error (.evaluation .workerGone))) := by
  obtain ⟨t, hrun, hshows, hstage⟩ := h.exists_run_replace (w := w)
    (c := { script, url, host, stage := .replacing s.generation (.error (.evaluation .workerGone)) }) rfl
  refine ⟨t, State.run_connect hw ?_, hshows, hstage⟩
  refine State.run_step (.refuse State.stage?_joined (State.workers_joined hw) hclosed) ?_
  rw [State.atStage_joined]
  refine State.run_step (.findClosed State.stage?_joined (State.workers_joined hw) hclosed) ?_
  rw [State.atStage_joined]
  exact hrun

/-- One more caller changes nothing of what a state shows but the worker. -/
theorem Shows.joined (h : Shows e s) {c : Caller} {w w' : Worker Machine} {isAlive : Bool}
    {session : Session Machine} (hw : s.workers[s.generation]? = some w) (hopen : w'.isOpen = isAlive)
    (hwaiting : isAlive = true → w'.IsWaiting ∧ w'.session = session) :
    Shows { e with isAlive, session } (s.joined c s.generation w') where
  library := h.library
  patience := h.patience
  generation := h.generation
  workers := by simp [State.joined, h.workers]
  worker := ⟨w', h.generation ▸ State.workers_joined hw, hopen, hwaiting⟩

/-- What an engine with a worker answers, by how the evaluation ends. -/
theorem evaluate_cases (h : e.isAlive = true) (clock : Calendar.Instant) (place : Nat)
    (script url host : String) :
    ∃ evaluation : Evaluation Machine,
      evaluation = ⟨⟨place, script, url, host⟩, e.session, { clock }⟩ ∧
      ((evaluation.answer (Engine.interpreter e.limits e.lookup) = .error (.evaluation .abandoned) ∧
          e.evaluate clock script url host =
            (.error (.evaluation (.timedOut e.limits.timeout)), e.replaceWorker)) ∨
        (evaluation.answer (Engine.interpreter e.limits e.lookup) = .error (.evaluation .collapsed) ∧
          e.evaluate clock script url host =
            (.error (.evaluation .workerDied), { e with isAlive := false })) ∨
        (evaluation.answer (Engine.interpreter e.limits e.lookup) ≠ .error (.evaluation .collapsed) ∧
          e.evaluate clock script url host =
            (evaluation.answer (Engine.interpreter e.limits e.lookup), { e with
              session := (evaluation.outcome (Engine.interpreter e.limits e.lookup)).2 }))) := by
  refine ⟨_, rfl, ?_⟩
  rw [Engine.evaluate, if_pos h]
  cases houtcome :
      e.session.evaluate (Engine.interpreter e.limits e.lookup) { clock } script url host with
  | mk answer rest =>
      simp only [Evaluation.answer, Evaluation.outcome, houtcome]
      cases answer with
      | ok text => exact .inr (.inr ⟨by simp, rfl⟩)
      | error fault =>
          cases fault with
          | evaluation unanswered =>
              cases unanswered with
              | abandoned => exact .inl ⟨rfl, rfl⟩
              | collapsed => exact .inr (.inl ⟨rfl, rfl⟩)
              | _ => exact .inr (.inr ⟨by simp, rfl⟩)
          | _ => exact .inr (.inr ⟨by simp, rfl⟩)

/-- Asking an engine is one run of a caller that comes when nobody else is there. -/
theorem exists_run_of_evaluate (h : Shows e s) (clock : Calendar.Instant) (script url host : String) :
    ∃ actions t, s.run (Engine.interpreter e.limits e.lookup) actions = some t ∧
      Shows (e.evaluate clock script url host).2 t ∧
      t.stage? s.callers.length =
        some (.returned e.generation (e.evaluate clock script url host).1) := by
  obtain ⟨w, hw, hopen, hwaiting⟩ := h.worker
  rw [← h.generation] at hw
  cases halive : e.isAlive with
  | true =>
      obtain ⟨hwaits, hsession⟩ := hwaiting halive
      obtain ⟨evaluation, hevaluation, hcases⟩ :=
        evaluate_cases halive clock s.callers.length script url host
      have hbegin {rest : List Action} {t : State Machine} := @State.run_begin _
        (Engine.interpreter e.limits e.lookup) s t w rest script url host { clock } hw hwaits
      rw [hsession, ← hevaluation] at hbegin
      have hcaller : evaluation.job.caller = s.callers.length := by rw [hevaluation]
      rcases hcases with ⟨-, heq⟩ | ⟨-, heq⟩ | ⟨hanswer, heq⟩
      · obtain ⟨t, hrun, hshows, hstage⟩ := h.exists_run_timeOut (w := w.evaluates evaluation)
          (c := { script, url, host, stage := .awaiting s.generation }) rfl
        exact ⟨_, t, hbegin hrun, heq ▸ hshows, heq ▸ hstage⟩
      · refine ⟨_, _, hbegin (State.run_collapse hw hcaller hwaits.isOpen rfl), ?_, ?_⟩
        · rw [heq]
          exact h.joined hw rfl nofun
        · rw [heq, State.stage?_joined, h.generation]
      · refine ⟨_, _, hbegin (State.run_finish hw hcaller hwaits.isOpen rfl hanswer), ?_, ?_⟩
        · rw [heq]
          refine h.joined hw hopen fun _ => ⟨⟨hwaits.isOpen, rfl, ?_⟩, rfl⟩
          simp [Worker.evaluates, hwaits.taken]
        · rw [heq, State.stage?_joined, h.generation]
  | false =>
      have heq : e.evaluate clock script url host = (.error (.evaluation .workerGone), e.replaceWorker) := by
        simp [Engine.evaluate, halive]
      obtain ⟨t, hrun, hshows, hstage⟩ :=
        h.exists_run_refuse hw (hopen.trans halive) script url host
      exact ⟨_, t, hrun, heq ▸ hshows, heq ▸ hstage⟩

/-! ### One request after another -/

/-- A request to an engine, and what the clock shows then. -/
structure Asked where
  clock : Calendar.Instant
  script : String
  url : String
  host : String

/-- The engine after a row of requests. -/
def afterAll (e : Engine) : List Asked → Engine
  | [] => e
  | q :: rest => afterAll (e.evaluate q.clock q.script q.url q.host).2 rest

/-- An engine keeps its limits and its way to look up hosts. -/
theorem frame_of_evaluate (e : Engine) (clock : Calendar.Instant) (script url host : String) :
    (e.evaluate clock script url host).2.limits = e.limits ∧
      (e.evaluate clock script url host).2.lookup = e.lookup := by
  cases halive : e.isAlive with
  | true =>
      obtain ⟨_, -, ⟨-, heq⟩ | ⟨-, heq⟩ | ⟨-, heq⟩⟩ := evaluate_cases halive clock 0 script url host
      all_goals
        rw [heq]
        exact ⟨rfl, rfl⟩
  | false => simp [Engine.evaluate, halive, replaceWorker_eq]

/-- Whatever an engine has been asked since it was new, callers and workers can come to a state that
shows it. -/
theorem exists_reachable_of_afterAll {library : Predicate.Library} {limits : Limits} {lookup : Lookup}
    (h : Engine.start library limits lookup = .ok e) (asked : List Asked) :
    ∃ start s, State.start (Engine.interpreter limits lookup) library limits.timeout = .ok start ∧
      Reachable (Engine.interpreter limits lookup) start s ∧ Shows (afterAll e asked) s := by
  obtain ⟨start, hstart, hshows⟩ := shows_start h
  suffices hrest : ∀ {e : Engine} {s : State Machine}, e.limits = limits → e.lookup = lookup →
      Reachable (Engine.interpreter limits lookup) start s → Shows e s →
      ∃ t, Reachable (Engine.interpreter limits lookup) start t ∧ Shows (afterAll e asked) t by
    have hframe : e.limits = limits ∧ e.lookup = lookup := by
      cases h
      exact ⟨rfl, rfl⟩
    obtain ⟨t, ht, hafter⟩ := hrest hframe.1 hframe.2 .start hshows
    exact ⟨start, t, hstart, ht, hafter⟩
  induction asked with
  | nil => exact fun _ _ hs hshows => ⟨_, hs, hshows⟩
  | cons q rest ih =>
      intro e s hlimits hlookup hs hshows
      obtain ⟨actions, t, hrun, hshows', -⟩ :=
        exists_run_of_evaluate hshows q.clock q.script q.url q.host
      obtain ⟨hlimits', hlookup'⟩ := frame_of_evaluate e q.clock q.script q.url q.host
      rw [hlimits, hlookup] at hrun
      exact ih (hlimits'.trans hlimits) (hlookup'.trans hlookup) (State.reachable_of_run hs hrun) hshows'

end AutoProxy.Script.Workers
