import AutoProxy.Script.Workers

/-!
The steps of callers and workers, each told by when it can happen and what it leads to (`step_iff`). Two
views of a step are derived from this: what it may do to a caller (`caller_of_step`), and what it may do
to a worker (`worker_of_step`). A caller never goes back to an earlier stage, and what a worker has been
sent and has begun is never taken back.
-/

namespace AutoProxy.Script.Workers

variable {Context : Type}

/-- How an evaluation ends that goes on from here: the answer. -/
def Evaluation.answer (i : Interpreter Context) (e : Evaluation Context) : Answer := (e.outcome i).1

/-- A worker that has been started has a thread and a new session. -/
theorem Worker.spawn_eq_ok_iff {i : Interpreter Context} {library : Predicate.Library} {hasThread : Bool}
    {w : Worker Context} : spawn i library hasThread = .ok w ↔
      hasThread = true ∧ ∃ session, Session.start i library = .ok session ∧ { session } = w := by
  cases hasThread with
  | false => simp [spawn]
  | true => cases hsession : Session.start i library <;> simp [spawn, hsession]

theorem Worker.spawn_eq_error {i : Interpreter Context} {library : Predicate.Library} {hasThread : Bool}
    (h : hasThread = true → ∃ fault, Session.start i library = .error fault) :
    ∃ fault, spawn i library hasThread = .error fault := by
  cases hspawn : spawn i library hasThread with
  | error fault => exact ⟨fault, rfl⟩
  | ok w =>
      obtain ⟨hthread, session, hsession, -⟩ := spawn_eq_ok_iff.mp hspawn
      obtain ⟨fault, hfault⟩ := h hthread
      cases hsession.symm.trans hfault

namespace State

variable {i : Interpreter Context} {s t : State Context} {a : Action} {place other g : Nat}
  {stage new : Stage} {w : Worker Context} {c : Caller}

/-! ### Steps -/

inductive Step (i : Interpreter Context) (s : State Context) : Action → State Context → Prop where
  | call (script url host : String) :
      Step i s (.call script url host) { s with callers := s.callers ++ [{ script, url, host }] }
  | connect {place : Nat} :
      s.stage? place = some .called →
      Step i s (.connect place) (s.atStage place (.sending s.generation))
  | refuse {place g : Nat} {w : Worker Context} :
      s.stage? place = some (.sending g) → s.workers[g]? = some w → w.isOpen = false →
      Step i s (.send place) (s.atStage place (.checking g (.error (.evaluation .workerGone))))
  | send {place g : Nat} {c : Caller} {w : Worker Context} :
      s.callers[place]? = some c → c.stage = .sending g → s.workers[g]? = some w →
      w.isOpen = true → w.queue.length < queueDepth →
      Step i s (.send place) ((s.atStage place (.awaiting g)).withWorker g
        { w with sent := w.sent ++ [c.job place] })
  | receive {place g : Nat} {c : Caller} {answer : Answer} :
      s.callers[place]? = some c → c.stage = .awaiting g → c.reply = .sent answer →
      Step i s (.receive place) (s.atStage place (.checking g answer))
  | miss {place g : Nat} {c : Caller} :
      s.callers[place]? = some c → c.stage = .awaiting g → c.reply = .dropped →
      Step i s (.receive place) (s.atStage place (.checking g (.error (.evaluation .workerDied))))
  | timeOut {place g : Nat} :
      s.stage? place = some (.sending g) ∨ s.stage? place = some (.awaiting g) →
      Step i s (.timeOut place) (s.atStage place (.replacing g (.error (.evaluation (.timedOut s.patience)))))
  | cancel {place g : Nat} :
      s.stage? place = some (.sending g) ∨ s.stage? place = some (.awaiting g) →
      Step i s (.cancel place) (s.atStage place (.cancelled g))
  | findOpen {place g : Nat} {answer : Answer} {w : Worker Context} :
      s.stage? place = some (.checking g answer) → s.workers[g]? = some w → w.isOpen = true →
      Step i s (.check place) (s.atStage place (.returned g answer))
  | findClosed {place g : Nat} {answer : Answer} {w : Worker Context} :
      s.stage? place = some (.checking g answer) → s.workers[g]? = some w → w.isOpen = false →
      Step i s (.check place) (s.atStage place (.replacing g answer))
  | retire {place : Nat} {answer : Answer} {session : Session Context} :
      s.stage? place = some (.replacing s.generation answer) →
      Session.start i s.library = .ok session →
      Step i s (.replace place true) (atStage { s with
        generation := s.generation + 1
        workers := s.workers ++ [{ session }] } place (.returned s.generation answer))
  | keep {place g : Nat} {answer : Answer} {canStart : Bool} :
      s.stage? place = some (.replacing g answer) →
      (s.generation = g → canStart = true → ∃ fault, Session.start i s.library = .error fault) →
      Step i s (.replace place canStart) (s.atStage place (.returned g answer))
  | take {g : Nat} {w : Worker Context} {job : Job} :
      s.workers[g]? = some w → w.activity = .idle → w.sent[w.taken]? = some job →
      Step i s (.take g) (s.withWorker g { w with taken := w.taken + 1, activity := .holding job })
  | begin {g : Nat} {w : Worker Context} {job : Job} {thread : Thread} :
      s.workers[g]? = some w → w.activity = .holding job → s.isAwaited job.caller = true →
      Step i s (.begin g thread) (s.withWorker g { w with
        begun := w.begun ++ [⟨job, w.session, thread⟩]
        activity := .evaluating ⟨job, w.session, thread⟩ })
  | passOver {g : Nat} {w : Worker Context} {job : Job} {thread : Thread} :
      s.workers[g]? = some w → w.activity = .holding job → s.isAwaited job.caller = false →
      Step i s (.begin g thread) (s.withWorker g { w with activity := .idle })
  | finish {g : Nat} {w : Worker Context} {e : Evaluation Context} :
      s.workers[g]? = some w → w.activity = .evaluating e → e.answer i ≠ .error (.evaluation .collapsed) →
      Step i s (.finish g) ((s.replied e.job.caller (.sent (e.answer i))).withWorker g
        { w with session := (e.outcome i).2, activity := .idle })
  | fail {g : Nat} {w : Worker Context} {e : Evaluation Context} :
      s.workers[g]? = some w → w.activity = .evaluating e →
      Step i s (.fail g) (s.withWorker g { w with activity := .failing e.job })
  | dropReply {g : Nat} {w : Worker Context} {job : Job} :
      s.workers[g]? = some w → w.activity = .failing job →
      Step i s (.dropReply g)
        ((s.replied job.caller .dropped).withWorker g { w with activity := .failed })
  | close {g : Nat} {w : Worker Context} :
      s.workers[g]? = some w → w.isOpen = true →
      ((∃ job, w.activity = .failing job) ∨ w.activity = .failed) →
      Step i s (.close g) (s.withWorker g { w with isOpen := false })
  | discard {g : Nat} {w : Worker Context} {job : Job} :
      s.workers[g]? = some w → w.isOpen = false → w.sent[w.taken]? = some job →
      Step i s (.discard g)
        ((s.replied job.caller .dropped).withWorker g { w with taken := w.taken + 1 })
  | stop {g : Nat} {w : Worker Context} :
      s.workers[g]? = some w → w.activity = .idle → g ≠ s.generation → w.queue = [] →
      (s.callers.all fun c => c.stage.holds? ≠ some g) = true →
      Step i s (.stop g) (s.withWorker g { w with isOpen := false, activity := .stopped })

theorem stage?_eq_some_iff : s.stage? place = some stage ↔
    ∃ c, s.callers[place]? = some c ∧ c.stage = stage := by
  simp [stage?]

theorem replaceWorker_of_start {session : Session Context}
    (h : Session.start i s.library = .ok session) :
    s.replaceWorker i true =
      { s with generation := s.generation + 1, workers := s.workers ++ [{ session }] } := by
  rw [replaceWorker, Worker.spawn_eq_ok_iff.mpr ⟨rfl, session, h, rfl⟩]

theorem replaceWorker_of_not_start {canStart : Bool}
    (h : canStart = true → ∃ fault, Session.start i s.library = .error fault) :
    s.replaceWorker i canStart = s := by
  obtain ⟨fault, hfault⟩ := Worker.spawn_eq_error h
  rw [replaceWorker, hfault]

theorem step_eq_some_of_step (h : s.Step i a t) : s.step i a = some t := by
  cases h with
  | call => rfl
  | connect hstage => simp [State.step, State.connect, hstage]
  | refuse hstage hworker hopen =>
      obtain ⟨c, hc, hstage⟩ := stage?_eq_some_iff.mp hstage
      simp [State.step, State.send, hc, hstage, hworker, hopen]
  | send hc hstage hworker hopen hroom =>
      simp [State.step, State.send, hc, hstage, hworker, hopen, Nat.not_le.mpr hroom]
  | receive hc hstage hreply | miss hc hstage hreply =>
      simp [State.step, State.receive, hc, hstage, hreply]
  | timeOut hstage => rcases hstage with hstage | hstage <;> simp [State.step, State.timeOut, hstage]
  | cancel hstage => rcases hstage with hstage | hstage <;> simp [State.step, State.cancel, hstage]
  | findOpen hstage hworker hopen | findClosed hstage hworker hopen =>
      simp [State.step, State.check, hstage, hworker, hopen]
  | retire hstage hsession =>
      simp [State.step, State.replace, hstage, replaceWorker_of_start hsession]
  | @keep _ g _ canStart hstage hkeep =>
      have hsame : (if s.generation = g then s.replaceWorker i canStart else s) = s := by
        split
        · next hg => exact replaceWorker_of_not_start (hkeep hg)
        · rfl
      simp only [State.step, State.replace, hstage, hsame]
  | take hworker hidle hjob => simp [State.step, State.take, hworker, hidle, hjob]
  | begin hworker hholding hawaited | passOver hworker hholding hawaited =>
      simp [State.step, State.begin, hworker, hholding, hawaited]
  | @finish g w e hworker hevaluating hanswer =>
      cases houtcome : e.outcome i with
      | mk answer session =>
        simp only [Evaluation.answer, houtcome] at hanswer
        simp only [State.step, State.finish, hworker, hevaluating, Evaluation.answer, houtcome]
  | fail hworker hevaluating => simp [State.step, State.fail, hworker, hevaluating]
  | dropReply hworker hfailing => simp [State.step, State.dropReply, hworker, hfailing]
  | close hworker hopen hfailing =>
      rcases hfailing with ⟨job, hfailing⟩ | hfailing <;>
        simp [State.step, State.close, hworker, hopen, hfailing]
  | discard hworker hopen hjob => simp [State.step, State.discard, hworker, hopen, hjob]
  | stop hworker hidle hg hqueue hcallers =>
      simp only [State.step, State.stop, hworker, hidle]
      rw [if_pos ⟨hg, hqueue, hcallers⟩]

/-- Nothing else can happen. -/
theorem step_of_step_eq_some (h : s.step i a = some t) : s.Step i a t := by
  cases a with
  | call script url host =>
      cases h
      exact .call script url host
  | connect place =>
      simp only [State.step, State.connect] at h
      split at h <;> cases h
      next hstage => exact .connect hstage
  | send place =>
      simp only [State.step, State.send] at h
      split at h <;> try cases h
      next c hc =>
        split at h <;> try cases h
        next g hstage =>
          split at h <;> try cases h
          next w hworker =>
            split at h
            · next hopen =>
              cases h
              exact .refuse (stage?_eq_some_iff.mpr ⟨c, hc, hstage⟩) hworker (by simpa using hopen)
            · next hopen =>
              split at h <;> cases h
              next hroom =>
                exact .send hc hstage hworker (by simpa using hopen) (Nat.not_le.mp hroom)
  | receive place =>
      simp only [State.step, State.receive] at h
      split at h <;> try cases h
      next c hc =>
        split at h <;> cases h
        · next hstage hreply => exact .receive hc hstage hreply
        · next hstage hreply => exact .miss hc hstage hreply
  | timeOut place =>
      simp only [State.step, State.timeOut] at h
      split at h <;> cases h
      · next hstage => exact .timeOut (.inl hstage)
      · next hstage => exact .timeOut (.inr hstage)
  | cancel place =>
      simp only [State.step, State.cancel] at h
      split at h <;> cases h
      · next hstage => exact .cancel (.inl hstage)
      · next hstage => exact .cancel (.inr hstage)
  | check place =>
      simp only [State.step, State.check] at h
      split at h <;> try cases h
      next g answer hstage =>
        split at h <;> cases h
        next w hworker =>
          cases hopen : w.isOpen with
          | true => exact .findOpen hstage hworker hopen
          | false => exact .findClosed hstage hworker hopen
  | replace place canStart =>
      simp only [State.step, State.replace] at h
      split at h <;> cases h
      next g answer hstage =>
        by_cases hg : s.generation = g
        · subst hg
          rw [if_pos rfl]
          cases hsession : Session.start i s.library with
          | error fault =>
              rw [replaceWorker_of_not_start fun _ => ⟨fault, hsession⟩]
              exact .keep hstage fun _ _ => ⟨fault, hsession⟩
          | ok session =>
              cases canStart with
              | false =>
                  rw [replaceWorker_of_not_start fun h : false = true => nomatch h]
                  exact .keep hstage nofun
              | true =>
                  rw [replaceWorker_of_start hsession]
                  exact .retire hstage hsession
        · simpa [hg] using Step.keep hstage (by simp [hg])
  | take g =>
      simp only [State.step, State.take] at h
      split at h <;> try cases h
      next w hworker =>
        split at h <;> cases h
        next hidle hjob => exact .take hworker hidle hjob
  | begin g thread =>
      simp only [State.step, State.begin] at h
      split at h <;> try cases h
      next w hworker =>
        split at h <;> try cases h
        next job hholding =>
          split at h <;> cases h
          · next hawaited => exact .begin hworker hholding hawaited
          · next hawaited => exact .passOver hworker hholding (by simpa using hawaited)
  | finish g =>
      simp only [State.step, State.finish] at h
      split at h <;> try cases h
      next w hworker =>
        split at h <;> try cases h
        next e hevaluating =>
          split at h <;> cases h
          next answer session hother houtcome =>
            have hanswer : e.answer i = answer := congrArg Prod.fst houtcome
            have hsession : (e.outcome i).2 = session := congrArg Prod.snd houtcome
            subst hanswer hsession
            exact .finish hworker hevaluating hother
  | fail g =>
      simp only [State.step, State.fail] at h
      split at h <;> try cases h
      next w hworker =>
        split at h <;> cases h
        next e hevaluating => exact .fail hworker hevaluating
  | dropReply g =>
      simp only [State.step, State.dropReply] at h
      split at h <;> try cases h
      next w hworker =>
        split at h <;> cases h
        next job hfailing => exact .dropReply hworker hfailing
  | close g =>
      simp only [State.step, State.close] at h
      split at h <;> try cases h
      next w hworker =>
        split at h <;> cases h
        · next job hopen hfailing => exact .close hworker hopen (.inl ⟨job, hfailing⟩)
        · next hopen hfailed => exact .close hworker hopen (.inr hfailed)
  | discard g =>
      simp only [State.step, State.discard] at h
      split at h <;> try cases h
      next w hworker =>
        split at h <;> cases h
        next job hopen hjob => exact .discard hworker hopen hjob
  | stop g =>
      simp only [State.step, State.stop] at h
      split at h <;> try cases h
      next w hworker =>
        split at h <;> try cases h
        next hidle =>
          split at h <;> cases h
          next hstop => exact .stop hworker hidle hstop.1 hstop.2.1 hstop.2.2

theorem step_iff : s.step i a = some t ↔ s.Step i a t := ⟨step_of_step_eq_some, step_eq_some_of_step⟩

/-! ### Generations -/

/-- A step keeps the generation and the number of workers, unless a caller has the present worker
replaced by one that starts. -/
theorem generation_of_step (h : s.Step i a t) :
    (t.generation = s.generation ∧ t.workers.length = s.workers.length) ∨
      ∃ place answer session, a = .replace place true ∧
        s.stage? place = some (.replacing s.generation answer) ∧
        Session.start i s.library = .ok session ∧
        t = atStage { s with
          generation := s.generation + 1
          workers := s.workers ++ [{ session }] } place (.returned s.generation answer) := by
  cases h with
  | retire hstage hsession => exact .inr ⟨_, _, _, rfl, hstage, hsession, rfl⟩
  | send | take | begin | passOver | finish | fail | dropReply | close | discard | stop =>
      exact .inl ⟨rfl, List.length_set⟩
  | _ => exact .inl ⟨rfl, rfl⟩

theorem library_of_step (h : s.Step i a t) : t.library = s.library := by cases h <;> rfl

theorem generation_le_of_step (h : s.Step i a t) : s.generation ≤ t.generation := by
  rcases generation_of_step h with ⟨hsame, -⟩ | ⟨_, _, _, -, -, -, rfl⟩
  · exact Nat.le_of_eq hsame.symm
  · exact Nat.le_succ _

/-! ### Callers -/

end State

/-- The generation whose queue a caller has taken. -/
def Stage.generation? : Stage → Option Nat
  | .called => none
  | .sending g | .awaiting g | .checking g _ | .replacing g _ | .returned g _ | .cancelled g => some g

/-- The generation whose queue a caller has taken, if it no longer tries to send its job there. -/
def Stage.tried? : Stage → Option Nat
  | .called | .sending _ => none
  | .awaiting g | .checking g _ | .replacing g _ | .returned g _ | .cancelled g => some g

/-- The stages to which an action can bring the caller at a place, and when. -/
inductive Caller.Move (s : State Context) (place : Nat) (c : Caller) : Action → Stage → Prop where
  | connect : c.stage = .called → Move s place c (.connect place) (.sending s.generation)
  | refuse {g : Nat} {w : Worker Context} :
      c.stage = .sending g → s.workers[g]? = some w → w.isOpen = false →
      Move s place c (.send place) (.checking g (.error (.evaluation .workerGone)))
  | send {g : Nat} {w : Worker Context} :
      c.stage = .sending g → s.workers[g]? = some w → w.isOpen = true →
      Move s place c (.send place) (.awaiting g)
  | receive {g : Nat} {answer : Answer} :
      c.stage = .awaiting g → c.reply = .sent answer →
      Move s place c (.receive place) (.checking g answer)
  | miss {g : Nat} :
      c.stage = .awaiting g → c.reply = .dropped →
      Move s place c (.receive place) (.checking g (.error (.evaluation .workerDied)))
  | timeOut {g : Nat} :
      c.stage = .sending g ∨ c.stage = .awaiting g →
      Move s place c (.timeOut place) (.replacing g (.error (.evaluation (.timedOut s.patience))))
  | cancel {g : Nat} :
      c.stage = .sending g ∨ c.stage = .awaiting g → Move s place c (.cancel place) (.cancelled g)
  | findOpen {g : Nat} {answer : Answer} {w : Worker Context} :
      c.stage = .checking g answer → s.workers[g]? = some w → w.isOpen = true →
      Move s place c (.check place) (.returned g answer)
  | findClosed {g : Nat} {answer : Answer} {w : Worker Context} :
      c.stage = .checking g answer → s.workers[g]? = some w → w.isOpen = false →
      Move s place c (.check place) (.replacing g answer)
  | replace {g : Nat} {answer : Answer} {canStart : Bool} :
      c.stage = .replacing g answer →
      Move s place c (.replace place canStart) (.returned g answer)

/-- A caller takes the queue of the present worker, and keeps to it. -/
theorem Caller.Move.generation? {s : State Context} {place : Nat} {c : Caller} {a : Action}
    {stage : Stage} (h : c.Move s place a stage) :
    stage.generation? = some s.generation ∨ stage.generation? = c.stage.generation? := by
  cases h with
  | connect => exact .inl rfl
  | refuse hstage | send hstage | receive hstage | miss hstage | findOpen hstage
  | findClosed hstage | replace hstage =>
      rw [hstage]
      exact .inr rfl
  | timeOut hstage | cancel hstage =>
      rcases hstage with hstage | hstage <;> rw [hstage] <;> exact .inr rfl

/-- What a step may do to the caller at a place. -/
inductive Caller.Change (i : Interpreter Context) (s : State Context) (a : Action) (place : Nat)
    (c : Caller) : Caller → Prop where
  | same : Change i s a place c c
  | moved {stage : Stage} : c.Move s place a stage → Change i s a place c { c with stage }
  /-- The worker that has evaluated the job replies. -/
  | told {g : Nat} {w : Worker Context} {e : Evaluation Context} :
      s.workers[g]? = some w → w.activity = .evaluating e → e.job.caller = place →
      Change i s a place c { c with reply := .sent (e.answer i) }
  /-- The worker lets go of the job, which it has failed to evaluate or has left in its queue. -/
  | dropped {g : Nat} {w : Worker Context} {job : Job} :
      s.workers[g]? = some w → job.caller = place →
      (w.activity = .failing job ∨ w.isOpen = false ∧ w.sent[w.taken]? = some job) →
      Change i s a place c { c with reply := .dropped }

/-- No step changes what a caller asks. -/
theorem Caller.Change.job_eq {i : Interpreter Context} {s : State Context} {a : Action}
    {place : Nat} {c c' : Caller} (h : c.Change i s a place c') : c'.job place = c.job place := by
  cases h <;> rfl

/-- A caller that no longer tries to send its job never does so again. -/
theorem Caller.Change.tried? {i : Interpreter Context} {s : State Context} {a : Action}
    {place g : Nat} {c c' : Caller} (h : c.Change i s a place c') (hc : c.stage.tried? = some g) :
    c'.stage.tried? = some g := by
  cases h with
  | same | told | dropped => exact hc
  | moved hmove =>
      cases hmove with
      | connect hstage | refuse hstage _ _ | send hstage _ _ =>
          rw [hstage] at hc
          cases hc
      | receive hstage _ | miss hstage _ | findOpen hstage _ _ | findClosed hstage _ _
      | replace hstage =>
          rw [hstage] at hc
          exact hc
      | timeOut hstage | cancel hstage =>
          rcases hstage with hstage | hstage <;> rw [hstage] at hc
          · cases hc
          · exact hc

namespace State

variable {i : Interpreter Context} {s t : State Context} {a : Action} {place other g : Nat}
  {stage new : Stage} {w w' : Worker Context} {c c' : Caller}

theorem getElem?_concat_cases {α : Type} {l : List α} {last found : α} {n : Nat}
    (h : (l ++ [last])[n]? = some found) : l[n]? = some found ∨ (n = l.length ∧ found = last) := by
  rw [List.getElem?_append] at h
  split at h
  · exact .inl h
  · have hn := List.getElem?_eq_some_iff.mp h
    simp at hn
    exact .inr ⟨by omega, hn.2.symm⟩

theorem stage_eq (h : s.stage? place = some stage) (hc : s.callers[place]? = some c) :
    c.stage = stage := by
  obtain ⟨found, hfound, hstage⟩ := stage?_eq_some_iff.mp h
  cases hc.symm.trans hfound
  exact hstage

theorem callers_atStage (h : s.callers[place]? = some c) :
    (s.atStage place stage).callers[place]? = some { c with stage } := by
  simp [atStage, h]

theorem stage?_atStage {old : Stage} (h : s.stage? place = some old) :
    (s.atStage place stage).stage? place = some stage := by
  obtain ⟨c, hc, -⟩ := stage?_eq_some_iff.mp h
  exact stage?_eq_some_iff.mpr ⟨_, callers_atStage hc, rfl⟩

theorem callers_modify_cases {f : Caller → Caller}
    (h : (s.callers.modify place f)[other]? = some c') :
    ∃ c, s.callers[other]? = some c ∧ (c' = c ∨ other = place ∧ c' = f c) := by
  rw [List.getElem?_modify, Option.map_eq_map, Option.map_eq_some_iff] at h
  obtain ⟨c, hc, rfl⟩ := h
  refine ⟨c, hc, ?_⟩
  split
  · next heq => exact .inr ⟨heq.symm, rfl⟩
  · exact .inl rfl

/-- A step brings the caller at a place to a stage to which it can move. -/
theorem change_of_atStage (hmove : ∀ c, s.callers[place]? = some c → c.Move s place a stage)
    (h : (s.atStage place stage).callers[other]? = some c') :
    ∃ c, s.callers[other]? = some c ∧ c.Change i s a other c' := by
  obtain ⟨c, hc, rfl | ⟨rfl, rfl⟩⟩ := callers_modify_cases h
  · exact ⟨c', hc, .same⟩
  · exact ⟨c, hc, .moved (hmove c hc)⟩

/-- What a caller is after a step: it has just called, or the step may have done this to it. -/
theorem caller_of_step (h : s.Step i a t) (hc : t.callers[place]? = some c') :
    (∃ c, s.callers[place]? = some c ∧ c.Change i s a place c') ∨
      (place = s.callers.length ∧ ∃ script url host, a = .call script url host ∧
        c' = { script, url, host }) := by
  cases h with
  | call script url host =>
      rcases getElem?_concat_cases hc with hold | ⟨hplace, rfl⟩
      · exact .inl ⟨c', hold, .same⟩
      · exact .inr ⟨hplace, script, url, host, rfl, rfl⟩
  | connect hstage => exact .inl (change_of_atStage (fun c h => .connect (stage_eq hstage h)) hc)
  | refuse hstage hworker hopen =>
      exact .inl (change_of_atStage (fun c h => .refuse (stage_eq hstage h) hworker hopen) hc)
  | @send _ _ sender _ hsender hstage hworker hopen hroom =>
      refine .inl (change_of_atStage (fun c h => ?_) hc)
      cases hsender.symm.trans h
      exact .send hstage hworker hopen
  | receive hcaller hstage hreply =>
      refine .inl (change_of_atStage (fun c h => ?_) hc)
      cases hcaller.symm.trans h
      exact .receive hstage hreply
  | miss hcaller hstage hreply =>
      refine .inl (change_of_atStage (fun c h => ?_) hc)
      cases hcaller.symm.trans h
      exact .miss hstage hreply
  | timeOut hstage =>
      refine .inl (change_of_atStage (fun c h => .timeOut ?_) hc)
      exact hstage.imp (fun hsending => stage_eq hsending h) (fun hawaiting => stage_eq hawaiting h)
  | cancel hstage =>
      refine .inl (change_of_atStage (fun c h => .cancel ?_) hc)
      exact hstage.imp (fun hsending => stage_eq hsending h) (fun hawaiting => stage_eq hawaiting h)
  | findOpen hstage hworker hopen =>
      exact .inl (change_of_atStage (fun c h => .findOpen (stage_eq hstage h) hworker hopen) hc)
  | findClosed hstage hworker hopen =>
      exact .inl (change_of_atStage (fun c h => .findClosed (stage_eq hstage h) hworker hopen) hc)
  | retire hstage _ | keep hstage _ =>
      exact .inl (change_of_atStage (fun c h => .replace (stage_eq hstage h)) hc)
  | take | begin | passOver | fail | close | stop => exact .inl ⟨c', hc, .same⟩
  | finish hworker hevaluating _ =>
      obtain ⟨c, hcaller, rfl | ⟨rfl, rfl⟩⟩ := callers_modify_cases hc
      · exact .inl ⟨c', hcaller, .same⟩
      · exact .inl ⟨c, hcaller, .told hworker hevaluating rfl⟩
  | dropReply hworker hfailing =>
      obtain ⟨c, hcaller, rfl | ⟨rfl, rfl⟩⟩ := callers_modify_cases hc
      · exact .inl ⟨c', hcaller, .same⟩
      · exact .inl ⟨c, hcaller, .dropped hworker rfl (.inl hfailing)⟩
  | discard hworker hopen hjob =>
      obtain ⟨c, hcaller, rfl | ⟨rfl, rfl⟩⟩ := callers_modify_cases hc
      · exact .inl ⟨c', hcaller, .same⟩
      · exact .inl ⟨c, hcaller, .dropped hworker rfl (.inr ⟨hopen, hjob⟩)⟩

/-- A caller is at the stage at which it was, or has just called, or has been brought to its stage by
this step. -/
theorem stage_of_step (h : s.Step i a t) (hc : t.callers[place]? = some c') :
    c'.stage = .called ∨
      ∃ c, s.callers[place]? = some c ∧ (c'.stage = c.stage ∨ c.Move s place a c'.stage) := by
  rcases caller_of_step h hc with ⟨c, hbefore, hchange⟩ | ⟨-, _, _, _, -, rfl⟩
  · right
    refine ⟨c, hbefore, ?_⟩
    cases hchange with
    | same | told | dropped => exact .inl rfl
    | moved hmove => exact .inr hmove
  · exact .inl rfl

/-- No caller is ever taken away. -/
theorem callers_length_of_step (h : s.Step i a t) : s.callers.length ≤ t.callers.length := by
  cases h with
  | call => simp
  | take | begin | passOver | fail | close | stop => exact Nat.le_refl _
  | _ => exact Nat.le_of_eq (List.length_modify ..).symm

/-- What a step may do to a caller, seen from before it. -/
theorem exists_caller_of_step (h : s.Step i a t) (hc : s.callers[place]? = some c) :
    ∃ c', t.callers[place]? = some c' ∧ c.Change i s a place c' := by
  obtain ⟨hlt, -⟩ := List.getElem?_eq_some_iff.mp hc
  have hlt' := Nat.lt_of_lt_of_le hlt (callers_length_of_step h)
  refine ⟨_, List.getElem?_eq_getElem hlt', ?_⟩
  rcases caller_of_step h (List.getElem?_eq_getElem hlt') with ⟨found, hfound, hchange⟩ | ⟨hnew, -⟩
  · cases hc.symm.trans hfound
    exact hchange
  · exact absurd hlt (by simp [hnew])

end State

/-! ### Workers -/

/-- What a step may do to the worker of a generation. -/
inductive Worker.Change (i : Interpreter Context) (s t : State Context) (g : Nat)
    (w : Worker Context) : Worker Context → Prop where
  | same : Change i s t g w w
  | sent {place : Nat} {c : Caller} :
      s.callers[place]? = some c → c.stage = .sending g → w.isOpen = true →
      t.callers[place]? = some { c with stage := .awaiting g } →
      Change i s t g w { w with sent := w.sent ++ [c.job place] }
  | took {job : Job} :
      w.activity = .idle → w.sent[w.taken]? = some job →
      Change i s t g w { w with taken := w.taken + 1, activity := .holding job }
  | began {job : Job} {thread : Thread} :
      w.activity = .holding job → s.isAwaited job.caller = true →
      Change i s t g w { w with
        begun := w.begun ++ [⟨job, w.session, thread⟩]
        activity := .evaluating ⟨job, w.session, thread⟩ }
  | passedOver {job : Job} :
      w.activity = .holding job → s.isAwaited job.caller = false →
      Change i s t g w { w with activity := .idle }
  | finished {e : Evaluation Context} :
      w.activity = .evaluating e → e.answer i ≠ .error (.evaluation .collapsed) →
      Change i s t g w { w with session := (e.outcome i).2, activity := .idle }
  | failed {e : Evaluation Context} :
      w.activity = .evaluating e → Change i s t g w { w with activity := .failing e.job }
  | droppedReply {job : Job} :
      w.activity = .failing job → Change i s t g w { w with activity := .failed }
  | closed :
      (∃ job, w.activity = .failing job) ∨ w.activity = .failed →
      Change i s t g w { w with isOpen := false }
  | discarded {job : Job} :
      w.isOpen = false → w.sent[w.taken]? = some job →
      Change i s t g w { w with taken := w.taken + 1 }
  | stopped :
      w.activity = .idle → g ≠ s.generation → w.queue = [] →
      Change i s t g w { w with isOpen := false, activity := .stopped }

/-- What one worker is after another: it has been sent and has begun at least as much, and its queue is
no longer open if it was not. -/
structure Worker.Extends (w w' : Worker Context) : Prop where
  sent : w.sent <+: w'.sent
  begun : w.begun <+: w'.begun
  isClosed : w.isOpen = false → w'.isOpen = false

theorem Worker.Change.extends {i : Interpreter Context} {s t : State Context} {g : Nat}
    {w w' : Worker Context} (h : w.Change i s t g w') : w.Extends w' := by
  cases h with
  | sent => exact ⟨List.prefix_append .., List.prefix_rfl, id⟩
  | began => exact ⟨List.prefix_rfl, List.prefix_append .., id⟩
  | closed | stopped => exact ⟨List.prefix_rfl, List.prefix_rfl, fun _ => rfl⟩
  | _ => exact ⟨List.prefix_rfl, List.prefix_rfl, id⟩

namespace State

variable {i : Interpreter Context} {s t : State Context} {a : Action} {place g g' : Nat}
  {stage : Stage} {w w' : Worker Context} {c : Caller}

theorem worker_of_set (hw : s.workers[g]? = some w) (hchange : w.Change i s t g w')
    {found : Worker Context} (h : (s.workers.set g w')[g']? = some found) :
    ∃ w, s.workers[g']? = some w ∧ w.Change i s t g' found := by
  rw [List.getElem?_set] at h
  split at h
  · next heq =>
    subst heq
    split at h
    · cases h
      exact ⟨w, hw, hchange⟩
    · cases h
  · exact ⟨found, h, .same⟩

/-- What a worker is after a step: it has just been started, or the step may have done this to it. -/
theorem worker_of_step (h : s.Step i a t) (hw : t.workers[g]? = some w') :
    (∃ w, s.workers[g]? = some w ∧ w.Change i s t g w') ∨
      (g = s.workers.length ∧ t.generation = s.generation + 1 ∧
        ∃ session, Session.start i s.library = .ok session ∧ w' = { session }) := by
  cases h with
  | send hcaller hstage hworker hopen _ =>
      refine .inl (worker_of_set hworker (.sent hcaller hstage hopen ?_) hw)
      exact callers_atStage hcaller
  | retire hstage hsession =>
      rcases getElem?_concat_cases hw with hold | ⟨hg, rfl⟩
      · exact .inl ⟨w', hold, .same⟩
      · exact .inr ⟨hg, rfl, _, hsession, rfl⟩
  | take hworker hidle hjob => exact .inl (worker_of_set hworker (.took hidle hjob) hw)
  | begin hworker hholding hawaited =>
      exact .inl (worker_of_set hworker (.began hholding hawaited) hw)
  | passOver hworker hholding hawaited =>
      exact .inl (worker_of_set hworker (.passedOver hholding hawaited) hw)
  | finish hworker hevaluating hanswer =>
      exact .inl (worker_of_set hworker (.finished hevaluating hanswer) hw)
  | fail hworker hevaluating => exact .inl (worker_of_set hworker (.failed hevaluating) hw)
  | dropReply hworker hfailing => exact .inl (worker_of_set hworker (.droppedReply hfailing) hw)
  | close hworker _ hfailing => exact .inl (worker_of_set hworker (.closed hfailing) hw)
  | discard hworker hopen hjob => exact .inl (worker_of_set hworker (.discarded hopen hjob) hw)
  | stop hworker hidle hg hqueue _ =>
      exact .inl (worker_of_set hworker (.stopped hidle hg hqueue) hw)
  | _ => exact .inl ⟨w', hw, .same⟩

theorem workers_length_of_step (h : s.Step i a t) : s.workers.length ≤ t.workers.length := by
  rcases generation_of_step h with ⟨-, hsame⟩ | ⟨_, _, _, -, -, -, rfl⟩
  · exact Nat.le_of_eq hsame.symm
  · simp [atStage]

/-- What a step may do to a worker, seen from before it. -/
theorem exists_worker_of_step (h : s.Step i a t) (hw : s.workers[g]? = some w) :
    ∃ w', t.workers[g]? = some w' ∧ w.Change i s t g w' := by
  obtain ⟨hlt, -⟩ := List.getElem?_eq_some_iff.mp hw
  have hlt' := Nat.lt_of_lt_of_le hlt (workers_length_of_step h)
  refine ⟨_, List.getElem?_eq_getElem hlt', ?_⟩
  rcases worker_of_step h (List.getElem?_eq_getElem hlt') with ⟨found, hfound, hchange⟩ | ⟨hnew, -⟩
  · cases hw.symm.trans hfound
    exact hchange
  · exact absurd hlt (by simp [hnew])

/-! ### Runs -/

theorem run_cons_eq_some_iff {rest : List Action} :
    s.run i (a :: rest) = some t ↔ ∃ u, s.step i a = some u ∧ u.run i rest = some t := by
  rw [run, Option.bind_eq_some_iff]

/-- A row of actions leads to a state that the steps of callers and workers lead to. -/
theorem reachable_of_run {first : State Context} {actions : List Action} (hs : Reachable i first s)
    (h : s.run i actions = some t) : Reachable i first t := by
  induction actions generalizing s with
  | nil =>
      cases h
      exact hs
  | cons a rest ih =>
      obtain ⟨u, hstep, hrest⟩ := run_cons_eq_some_iff.mp h
      exact ih (.step a hs hstep) hrest

theorem generation_le_of_reachable (h : Reachable i s t) : s.generation ≤ t.generation := by
  induction h with
  | start => exact Nat.le_refl _
  | step a _ hstep ih => exact Nat.le_trans ih (generation_le_of_step (step_iff.mp hstep))

/-- An engine begins with one worker, which has a new session. -/
theorem start_eq_ok_iff {library : Predicate.Library} {patience : Span} :
    start i library patience = .ok s ↔
      ∃ session, Session.start i library = .ok session ∧
        { library, patience, workers := [{ session }] } = s := by
  cases hsession : Session.start i library <;> simp [start, Worker.spawn, hsession]

/-- What is true of a caller that has just called, stays true in every step, and comes true with every
move of a caller, is true of every caller. -/
theorem stage_of_reachable {library : Predicate.Library} {patience : Span} {first : State Context}
    {P : State Context → Stage → Prop} (hfirst : start i library patience = .ok first)
    (hs : Reachable i first s) (hcalled : ∀ u, P u .called)
    (hkept : ∀ (u v : State Context) (a : Action) (stage : Stage), u.Step i a v → P u stage →
      P v stage)
    (hmoved : ∀ (u : State Context) (a : Action) (place : Nat) (c : Caller) (stage : Stage),
      Reachable i first u → u.callers[place]? = some c → P u c.stage → c.Move u place a stage →
      P u stage)
    (hc : s.callers[place]? = some c) : P s c.stage := by
  induction hs generalizing c with
  | start =>
      obtain ⟨session, -, rfl⟩ := start_eq_ok_iff.mp hfirst
      cases hc
  | step a hbefore hstep ih =>
      rw [step_iff] at hstep
      rcases stage_of_step hstep hc with hnew | ⟨old, hold, hsame | hmove⟩
      · exact hnew ▸ hcalled _
      · exact hsame ▸ hkept _ _ a _ hstep (ih hold)
      · exact hkept _ _ a _ hstep (hmoved _ a _ _ _ hbefore hold (ih hold) hmove)

end State

end AutoProxy.Script.Workers
