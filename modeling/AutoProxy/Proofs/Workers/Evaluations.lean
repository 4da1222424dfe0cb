import AutoProxy.Proofs.Workers.Steps
import AutoProxy.Proofs.Script.History

/-!
What callers are answered, and what becomes of their jobs, when any number of callers and workers take
their steps in any order (`evaluations_of_reachable`).

A worker by itself is a session that is asked one thing after another: what it has begun is a part of
what it has been sent, in that order (`Worker.IsOrderly`). Over all callers and workers a job is known by
its caller, who has sent it once and to one worker only; from this follows that a reply comes from the
evaluation of the caller's own job, whatever has been replaced in the meantime (`State.IsSound`).
-/

namespace AutoProxy.Script.Workers

variable {Context : Type}

/-- The request that an evaluation makes of the session of its worker. -/
def Evaluation.call (i : Interpreter Context) (e : Evaluation Context) : Session.Call Context :=
  ⟨i, e.thread, e.job.script, e.job.url, e.job.host⟩

/-! ### One worker -/

namespace Worker

/-- Whether a worker has nothing in hand but, at most, a job that it has not yet looked at. -/
def isResting (w : Worker Context) : Bool :=
  match w.activity with
  | .idle | .holding _ => true
  | _ => false

/-- The job that a worker has taken and not yet looked at. -/
def held (w : Worker Context) : List Job :=
  match w.activity with
  | .holding job => [job]
  | _ => []

/-- A worker evaluates jobs in the order in which they have been sent to it, none more often than it has
been sent, and each in the session that the evaluations before have left of the one it began with. -/
structure IsOrderly (i : Interpreter Context) (first : Session Context) (w : Worker Context) :
    Prop where
  taken_le : w.taken ≤ w.sent.length
  jobs : (w.begun.map Evaluation.job ++ w.held).Sublist (w.sent.take w.taken)
  sessions : ∀ earlier e later, w.begun = earlier ++ e :: later →
    e.session = first.after (earlier.map (Evaluation.call i))
  resting : w.isResting = true → w.session = first.after (w.begun.map (Evaluation.call i))
  evaluating : ∀ e, w.activity = .evaluating e → ∃ earlier, w.begun = earlier ++ [e]

namespace IsOrderly

variable {i : Interpreter Context} {first : Session Context} {s t : State Context} {g : Nat}
  {w w' : Worker Context}

theorem new (first : Session Context) : IsOrderly i first { session := first } where
  taken_le := Nat.le_refl _
  jobs := List.nil_sublist _
  sessions := fun earlier e later h => by simp at h
  resting := fun _ => rfl
  evaluating := by simp

/-- The session of an evaluation that is begun after others. -/
theorem sessions_concat (h : w.IsOrderly i first) (hresting : w.isResting = true) {job : Job}
    {thread : Thread} {earlier later : List (Evaluation Context)} {e : Evaluation Context}
    (hbegun : w.begun ++ [⟨job, w.session, thread⟩] = earlier ++ e :: later) :
    e.session = first.after (earlier.map (Evaluation.call i)) := by
  rcases List.eq_nil_or_concat later with rfl | ⟨rest, last, rfl⟩
  · obtain ⟨rfl, hlast⟩ := List.append_inj' hbegun rfl
    cases hlast
    exact h.resting hresting
  · rw [List.concat_eq_append, ← List.cons_append, ← List.append_assoc] at hbegun
    obtain ⟨hrest, -⟩ := List.append_inj' hbegun rfl
    exact h.sessions earlier e rest hrest

/-- The evaluations that have been begun stand for jobs in the order of the queue. -/
theorem begun_sublist (h : w.IsOrderly i first) :
    (w.begun.map Evaluation.job).Sublist (w.sent.take w.taken) :=
  (List.sublist_append_left ..).trans h.jobs

/-- A worker stays orderly. -/
theorem change (h : w.IsOrderly i first) (hchange : w.Change i s t g w') : w'.IsOrderly i first := by
  cases hchange with
  | same => exact h
  | sent =>
      refine ⟨?_, ?_, h.sessions, h.resting, h.evaluating⟩
      · exact Nat.le_trans h.taken_le (by simp)
      · rw [List.take_append_of_le_length h.taken_le]
        exact h.jobs
  | @took job hidle hjob =>
      obtain ⟨hlt, -⟩ := List.getElem?_eq_some_iff.mp hjob
      refine ⟨hlt, ?_, h.sessions, fun _ => ?_, by simp⟩
      · rw [List.take_add_one, hjob]
        exact h.begun_sublist.append_right [job]
      · exact h.resting (by simp [isResting, hidle])
  | @began job thread hholding hawaited =>
      have hresting : w.isResting = true := by simp [isResting, hholding]
      refine ⟨h.taken_le, ?_, fun _ _ _ => h.sessions_concat hresting, by simp [isResting], ?_⟩
      · simpa [held, hholding] using h.jobs
      · intro e he
        cases he
        exact ⟨_, rfl⟩
  | passedOver hholding =>
      refine ⟨h.taken_le, ?_, h.sessions, fun _ => ?_, by simp⟩
      · simpa [held] using h.begun_sublist
      · exact h.resting (by simp [isResting, hholding])
  | @finished e hevaluating =>
      obtain ⟨earlier, hbegun⟩ := h.evaluating e hevaluating
      refine ⟨h.taken_le, ?_, h.sessions, fun _ => ?_, by simp⟩
      · simpa [held] using h.begun_sublist
      · have hsession := h.sessions earlier e [] hbegun
        simp only [hbegun, List.map_append, List.map_cons, List.map_nil, Session.after_append,
          ← hsession]
        rfl
  | failed | droppedReply | stopped =>
      refine ⟨h.taken_le, ?_, h.sessions, by simp [isResting], by simp⟩
      simpa [held] using h.begun_sublist
  | closed => exact ⟨h.taken_le, h.jobs, h.sessions, h.resting, h.evaluating⟩
  | discarded hopen hjob =>
      obtain ⟨hlt, -⟩ := List.getElem?_eq_some_iff.mp hjob
      refine ⟨hlt, ?_, h.sessions, h.resting, h.evaluating⟩
      exact h.jobs.trans (List.take_sublist_take_left (Nat.le_succ _))

end IsOrderly

/-- What a step adds to what a worker has been sent is the job of a caller that sends it. -/
theorem Change.mem_sent {i : Interpreter Context} {s t : State Context} {g : Nat}
    {w w' : Worker Context} {job : Job} (h : w.Change i s t g w') (hjob : job ∈ w'.sent) :
    job ∈ w.sent ∨ ∃ (place : Nat) (c : Caller), s.callers[place]? = some c ∧
      c.stage = .sending g ∧ t.callers[place]? = some { c with stage := .awaiting g } ∧
      job = c.job place := by
  cases h with
  | sent hcaller hstage _ hafter =>
      rcases List.mem_append.mp hjob with hold | hnew
      · exact .inl hold
      · exact .inr ⟨_, _, hcaller, hstage, hafter, List.mem_singleton.mp hnew⟩
  | _ => exact .inl hjob

/-- What a step adds to what a worker has begun is an evaluation for which a caller waits. -/
theorem Change.mem_begun {i : Interpreter Context} {s t : State Context} {g : Nat}
    {w w' : Worker Context} {e : Evaluation Context} (h : w.Change i s t g w') (he : e ∈ w'.begun) :
    e ∈ w.begun ∨ s.isAwaited e.job.caller = true := by
  cases h with
  | began _ hawaited =>
      rcases List.mem_append.mp he with hold | hnew
      · exact .inl hold
      · cases List.mem_singleton.mp hnew
        exact .inr hawaited
  | _ => exact .inl he

end Worker

/-! ### All callers and workers -/

/-- The answer that a caller has, and the generation whose queue it has taken. -/
def Stage.answer? : Stage → Option (Nat × Answer)
  | .checking g answer | .replacing g answer | .returned g answer => some (g, answer)
  | _ => none

namespace State

variable {i : Interpreter Context} {first : Session Context} {s t : State Context} {a : Action}
  {g : Nat} {job : Job} {answer : Answer}

/-- The worker of a generation evaluates a job with this answer. -/
def Evaluates (i : Interpreter Context) (s : State Context) (g : Nat) (job : Job) (answer : Answer) :
    Prop :=
  ∃ w e, s.workers[g]? = some w ∧ e ∈ w.begun ∧ e.job = job ∧ e.answer i = answer

theorem Evaluates.step (h : s.Evaluates i g job answer) (hstep : s.Step i a t) :
    t.Evaluates i g job answer := by
  obtain ⟨w, e, hworker, he, hjob, hanswer⟩ := h
  obtain ⟨w', hworker', hchange⟩ := exists_worker_of_step hstep hworker
  exact ⟨w', e, hworker', hchange.extends.begun.subset he, hjob, hanswer⟩

/-- Every job that has been sent is that of a caller, which has sent it once and to one worker; and what
a caller is told is how the evaluation of its own job ends. -/
structure IsSound (i : Interpreter Context) (first : Session Context) (s : State Context) : Prop where
  begins : Session.start i s.library = .ok first
  orderly : ∀ (g : Nat) (w : Worker Context), s.workers[g]? = some w → w.IsOrderly i first
  sent : ∀ (g : Nat) (w : Worker Context) (job : Job), s.workers[g]? = some w → job ∈ w.sent →
    ∃ c : Caller, s.callers[job.caller]? = some c ∧ c.job job.caller = job ∧ c.stage.tried? = some g
  once : ∀ (g : Nat) (w : Worker Context), s.workers[g]? = some w → (w.sent.map Job.caller).Nodup
  replies : ∀ (place : Nat) (c : Caller) (answer : Answer), s.callers[place]? = some c →
    c.reply = .sent answer → ∃ g, c.stage.tried? = some g ∧ s.Evaluates i g (c.job place) answer
  answers : ∀ (place : Nat) (c : Caller) (g : Nat) (text : String), s.callers[place]? = some c →
    c.stage.answer? = some (g, .ok text) → s.Evaluates i g (c.job place) (.ok text)

namespace IsSound

theorem start {library : Predicate.Library} {patience : Span}
    (h : State.start i library patience = .ok s) : ∃ first, IsSound i first s := by
  obtain ⟨first, hfirst, rfl⟩ := start_eq_ok_iff.mp h
  have hone {g : Nat} {w : Worker Context} (h : [{ session := first }][g]? = some w) :
      w = { session := first } := by simpa using List.mem_of_getElem? h
  refine ⟨first, hfirst, fun g w hw => ?_, fun g w job hw hjob => ?_, fun g w hw => ?_, by simp,
    by simp⟩
  · rw [hone hw]
    exact .new first
  · rw [hone hw] at hjob
    cases hjob
  · rw [hone hw]
    exact List.nodup_nil

theorem orderly_of_step (h : s.IsSound i first) (hstep : s.Step i a t) {w : Worker Context}
    (hw : t.workers[g]? = some w) : w.IsOrderly i first := by
  rcases worker_of_step hstep hw with ⟨old, hold, hchange⟩ | ⟨-, -, session, hsession, rfl⟩
  · exact (h.orderly g old hold).change hchange
  · cases h.begins.symm.trans hsession
    exact .new first

theorem sent_of_step (h : s.IsSound i first) (hstep : s.Step i a t) {w : Worker Context}
    (hw : t.workers[g]? = some w) (hjob : job ∈ w.sent) :
    ∃ c, t.callers[job.caller]? = some c ∧ c.job job.caller = job ∧ c.stage.tried? = some g := by
  rcases worker_of_step hstep hw with ⟨old, hold, hchange⟩ | ⟨-, -, session, hsession, rfl⟩
  · rcases hchange.mem_sent hjob with hbefore | ⟨place, c, -, -, hafter, rfl⟩
    · obtain ⟨c, hcaller, hown, htried⟩ := h.sent g old job hold hbefore
      obtain ⟨c', hcaller', hmoved⟩ := exists_caller_of_step hstep hcaller
      exact ⟨c', hcaller', hmoved.job_eq.trans hown, hmoved.tried? htried⟩
    · exact ⟨_, hafter, rfl, rfl⟩
  · cases hjob

theorem once_of_step (h : s.IsSound i first) (hstep : s.Step i a t) {w : Worker Context}
    (hw : t.workers[g]? = some w) : (w.sent.map Job.caller).Nodup := by
  rcases worker_of_step hstep hw with ⟨old, hold, hchange⟩ | ⟨-, -, session, hsession, rfl⟩
  · have hbefore := h.once g old hold
    cases hchange with
    | @sent place c hcaller hstage _ _ =>
        rw [List.map_append, List.nodup_append]
        refine ⟨hbefore, by simp, ?_⟩
        rintro caller hsent _ hnew rfl
        -- a caller that still tries to send its job has not sent it before
        obtain ⟨job, hjob, rfl⟩ := List.mem_map.mp hsent
        obtain ⟨found, hfound, -, htried⟩ := h.sent g old job hold hjob
        obtain hplace : job.caller = place := by simpa [Caller.job] using hnew
        rw [hplace, hcaller] at hfound
        cases hfound
        rw [hstage] at htried
        cases htried
    | _ => exact hbefore
  · exact List.nodup_nil

theorem replies_of_step (h : s.IsSound i first) (hstep : s.Step i a t) {place : Nat} {c : Caller}
    (hc : t.callers[place]? = some c) (hreply : c.reply = .sent answer) :
    ∃ g, c.stage.tried? = some g ∧ t.Evaluates i g (c.job place) answer := by
  rcases caller_of_step hstep hc with ⟨old, hold, hchange⟩ | ⟨-, _, _, _, -, rfl⟩
  · have hkept (hsame : old.reply = .sent answer) :
        ∃ g, c.stage.tried? = some g ∧ t.Evaluates i g (c.job place) answer := by
      obtain ⟨g, htried, hevaluates⟩ := h.replies place old answer hold hsame
      exact ⟨g, hchange.tried? htried, hchange.job_eq ▸ hevaluates.step hstep⟩
    cases hchange with
    | same | moved => exact hkept hreply
    | @told g w e hworker hevaluating hplace =>
        cases hreply
        have horderly := h.orderly g w hworker
        obtain ⟨earlier, hbegun⟩ := horderly.evaluating e hevaluating
        have he : e ∈ w.begun := by simp [hbegun]
        have hsent : e.job ∈ w.sent := List.mem_of_mem_take
          (horderly.begun_sublist.subset (List.mem_map_of_mem he))
        obtain ⟨found, hfound, hown, htried⟩ := h.sent g w e.job hworker hsent
        subst hplace
        cases hold.symm.trans hfound
        exact ⟨g, htried, Evaluates.step ⟨w, e, hworker, he, hown.symm, rfl⟩ hstep⟩
    | dropped => cases hreply
  · cases hreply

theorem answers_of_step (h : s.IsSound i first) (hstep : s.Step i a t) {place : Nat} {c : Caller}
    {text : String} (hc : t.callers[place]? = some c)
    (hanswer : c.stage.answer? = some (g, .ok text)) :
    t.Evaluates i g (c.job place) (.ok text) := by
  rcases caller_of_step hstep hc with ⟨old, hold, hchange⟩ | ⟨-, _, _, _, -, rfl⟩
  · have hkept (hsame : old.stage.answer? = some (g, .ok text)) :
        t.Evaluates i g (c.job place) (.ok text) :=
      hchange.job_eq ▸ (h.answers place old g text hold hsame).step hstep
    cases hchange with
    | same | told | dropped => exact hkept hanswer
    | moved hmove =>
        cases hmove with
        | receive hstage hreply =>
            cases hanswer
            obtain ⟨g', htried, hevaluates⟩ := h.replies place old _ hold hreply
            rw [hstage] at htried
            cases htried
            exact hevaluates.step hstep
        | findOpen hstage | findClosed hstage | replace hstage =>
            exact hkept (by rw [hstage]; exact hanswer)
        | _ => cases hanswer
  · cases hanswer

theorem step (h : s.IsSound i first) (hstep : s.Step i a t) : t.IsSound i first where
  begins := library_of_step hstep ▸ h.begins
  orderly _ _ := h.orderly_of_step hstep
  sent _ _ _ := h.sent_of_step hstep
  once _ _ := h.once_of_step hstep
  replies _ _ _ := h.replies_of_step hstep
  answers _ _ _ _ := h.answers_of_step hstep

theorem of_reachable (h : s.IsSound i first) (ht : Reachable i s t) : t.IsSound i first := by
  induction ht with
  | start => exact h
  | step a _ hstep ih => exact ih.step (step_iff.mp hstep)

end IsSound

/-! ### No job twice -/

namespace IsSound

/-- What a worker has begun to evaluate is the job of a caller that has taken its queue. -/
theorem caller_of_begun (h : s.IsSound i first) {w : Worker Context} {e : Evaluation Context}
    (hw : s.workers[g]? = some w) (he : e ∈ w.begun) :
    ∃ c, s.callers[e.job.caller]? = some c ∧ c.job e.job.caller = e.job ∧
      c.stage.tried? = some g := by
  have hjob : e.job ∈ w.sent.take w.taken :=
    (h.orderly g w hw).begun_sublist.subset (List.mem_map_of_mem he)
  exact h.sent g w e.job hw (List.mem_of_mem_take hjob)

/-- Of all evaluations that any worker has begun no two are of the same caller's job. -/
theorem begun_unique (h : s.IsSound i first) {g' k k' : Nat} {w w' : Worker Context}
    {e e' : Evaluation Context} (hw : s.workers[g]? = some w) (he : w.begun[k]? = some e)
    (hw' : s.workers[g']? = some w') (he' : w'.begun[k']? = some e')
    (hcaller : e.job.caller = e'.job.caller) : g = g' ∧ k = k' := by
  obtain ⟨c, hc, -, htried⟩ := h.caller_of_begun hw (List.mem_of_getElem? he)
  obtain ⟨c', hc', -, htried'⟩ := h.caller_of_begun hw' (List.mem_of_getElem? he')
  rw [hcaller] at hc
  cases hc.symm.trans hc'
  cases htried.symm.trans htried'
  cases hw.symm.trans hw'
  refine ⟨rfl, ?_⟩
  have hnodup : ((w.begun.map Evaluation.job).map Job.caller).Nodup :=
    (h.once g w hw).sublist
      (((h.orderly g w hw).begun_sublist.trans (List.take_sublist ..)).map Job.caller)
  have hlt : k < ((w.begun.map Evaluation.job).map Job.caller).length := by
    simpa using (List.getElem?_eq_some_iff.mp he).1
  refine (List.getElem?_inj hlt hnodup).mp ?_
  simp [he, he', hcaller]

/-- No worker has begun to evaluate a job that still waits in a queue. -/
theorem not_begun_of_queued (h : s.IsSound i first) {g' : Nat} {w w' : Worker Context}
    {e : Evaluation Context} (hw : s.workers[g]? = some w) (hjob : job ∈ w.queue)
    (hw' : s.workers[g']? = some w') (he : e ∈ w'.begun) : e.job.caller ≠ job.caller := by
  intro hcaller
  obtain ⟨c, hc, -, htried⟩ := h.sent g w job hw (List.mem_of_mem_drop hjob)
  obtain ⟨c', hc', -, htried'⟩ := h.caller_of_begun hw' he
  rw [hcaller] at hc'
  cases hc.symm.trans hc'
  cases htried.symm.trans htried'
  cases hw.symm.trans hw'
  have htaken : e.job ∈ w.sent.take w.taken :=
    (h.orderly g w hw).begun_sublist.subset (List.mem_map_of_mem he)
  have hnodup := h.once g w hw
  rw [← List.take_append_drop w.taken w.sent, List.map_append, List.nodup_append] at hnodup
  exact hnodup.2.2 _ (List.mem_map_of_mem htaken) _ (List.mem_map_of_mem hjob) hcaller

end IsSound

/-! ### Callers that have gone -/

/-- A caller has gone if it has sent its job, or has tried to, and does not wait for a reply. -/
def HasGone (s : State Context) (place : Nat) : Prop :=
  ∃ c, s.callers[place]? = some c ∧ c.stage.tried?.isSome = true ∧ c.stage.isAwaiting = false

variable {place : Nat}

theorem HasGone.isAwaited (h : s.HasGone place) : s.isAwaited place = false := by
  obtain ⟨c, hc, -, hgone⟩ := h
  simp [State.isAwaited, stage?, hc, hgone]

/-- A caller that has gone does not come back. -/
theorem HasGone.step (h : s.HasGone place) (hstep : s.Step i a t) : t.HasGone place := by
  obtain ⟨c, hc, htried, hgone⟩ := h
  obtain ⟨g, hg⟩ := Option.isSome_iff_exists.mp htried
  obtain ⟨c', hc', hchange⟩ := exists_caller_of_step hstep hc
  refine ⟨c', hc', by rw [hchange.tried? hg, Option.isSome_some], ?_⟩
  cases hchange with
  | same | told | dropped => exact hgone
  | moved hmove =>
      cases hmove with
      | connect hstage | send hstage _ _ =>
          rw [hstage] at hg
          cases hg
      | _ => rfl

/-- The job of a caller that has gone is not begun any more. -/
theorem HasGone.not_begun (h : s.HasGone place) (ht : Reachable i s t)
    (hnone : ∀ (g : Nat) (w : Worker Context), s.workers[g]? = some w →
      ∀ e ∈ w.begun, e.job.caller ≠ place) :
    t.HasGone place ∧ ∀ (g : Nat) (w : Worker Context), t.workers[g]? = some w →
      ∀ e ∈ w.begun, e.job.caller ≠ place := by
  induction ht with
  | start => exact ⟨h, hnone⟩
  | step a _ hstep ih =>
      obtain ⟨hgone, hbefore⟩ := ih
      rw [step_iff] at hstep
      refine ⟨hgone.step hstep, fun g w hw e he => ?_⟩
      rcases worker_of_step hstep hw with ⟨old, hold, hchange⟩ | ⟨-, -, session, -, rfl⟩
      · rcases hchange.mem_begun he with hbegun | hawaited
        · exact hbefore g old hold e hbegun
        · rintro rfl
          rw [hgone.isAwaited] at hawaited
          cases hawaited
      · cases he

/-! ### All runs -/

/-- Whatever callers and workers do: a caller is answered what the evaluation of its own script, address
and host gives, and is replied to for no other job; every worker evaluates jobs in the order of its queue,
each in the session that the ones before have left; no caller's job is evaluated twice; and a job whose
caller has gone while it waits is never evaluated. -/
theorem evaluations_of_reachable {library : Predicate.Library} {patience : Span}
    {start : State Context} (hstart : State.start i library patience = .ok start)
    (hs : Reachable i start s) :
    (∀ (place : Nat) (c : Caller) (g : Nat) (text : String),
      s.callers[place]? = some c → c.stage = .returned g (.ok text) →
      ∃ (w : Worker Context) (e : Evaluation Context), s.workers[g]? = some w ∧ e ∈ w.begun ∧
        e.job = c.job place ∧
        (e.session.evaluate i e.thread c.script c.url c.host).1 = .ok text) ∧
    (∀ (place : Nat) (c : Caller) (answer : Answer),
      s.callers[place]? = some c → c.reply = .sent answer →
      ∃ (g : Nat) (w : Worker Context) (e : Evaluation Context), s.workers[g]? = some w ∧
        e ∈ w.begun ∧ e.job = c.job place ∧
        (e.session.evaluate i e.thread c.script c.url c.host).1 = answer) ∧
    (∃ first : Session Context, Session.start i library = .ok first ∧
      ∀ (g : Nat) (w : Worker Context), s.workers[g]? = some w →
        (w.begun.map Evaluation.job).Sublist (w.sent.take w.taken) ∧
        ∀ earlier e later, w.begun = earlier ++ e :: later →
          e.session = first.after (earlier.map (Evaluation.call i))) ∧
    (∀ (g g' k k' : Nat) (w w' : Worker Context) (e e' : Evaluation Context),
      s.workers[g]? = some w → w.begun[k]? = some e →
      s.workers[g']? = some w' → w'.begun[k']? = some e' →
      e.job.caller = e'.job.caller → g = g' ∧ k = k') ∧
    ∀ (g : Nat) (w : Worker Context) (job : Job),
      s.workers[g]? = some w → job ∈ w.queue → s.isAwaited job.caller = false →
      ∀ (t : State Context), Reachable i s t → ∀ w' ∈ t.workers, ∀ e ∈ w'.begun,
        e.job.caller ≠ job.caller := by
  obtain ⟨first, hnew⟩ := IsSound.start hstart
  have h : s.IsSound i first := hnew.of_reachable hs
  refine ⟨?_, ?_, ⟨first, ?_, ?_⟩, ?_, ?_⟩
  · intro place c g text hc hstage
    obtain ⟨w, e, hw, he, hjob, hanswer⟩ := h.answers place c g text hc (by rw [hstage]; rfl)
    refine ⟨w, e, hw, he, hjob, ?_⟩
    rw [← hanswer, Evaluation.answer, Evaluation.outcome, hjob, Caller.job]
  · intro place c answer hc hreply
    obtain ⟨g, -, w, e, hw, he, hjob, hanswer⟩ := h.replies place c answer hc hreply
    refine ⟨g, w, e, hw, he, hjob, ?_⟩
    rw [← hanswer, Evaluation.answer, Evaluation.outcome, hjob, Caller.job]
  · have hbegins := hnew.begins
    obtain ⟨session, hsession, rfl⟩ := start_eq_ok_iff.mp hstart
    exact hbegins
  · exact fun g w hw => ⟨(h.orderly g w hw).begun_sublist, (h.orderly g w hw).sessions⟩
  · exact fun g g' k k' w w' e e' hw he hw' he' => h.begun_unique hw he hw' he'
  · intro g w job hw hjob hgone t ht w' hw' e he
    obtain ⟨g', hw'⟩ := List.mem_iff_getElem?.mp hw'
    obtain ⟨c, hc, -, htried⟩ := h.sent g w job hw (List.mem_of_mem_drop hjob)
    have hgone : s.HasGone job.caller :=
      ⟨c, hc, by rw [htried, Option.isSome_some], by simpa [State.isAwaited, stage?, hc] using hgone⟩
    have hnone (g' : Nat) (w' : Worker Context) (hw' : s.workers[g']? = some w')
        (e : Evaluation Context) (he : e ∈ w'.begun) : e.job.caller ≠ job.caller :=
      h.not_begun_of_queued hw hjob hw' he
    exact (hgone.not_begun ht hnone).2 g' w' hw' e he

def noon : Thread := { clock := ⟨.midnight ⟨2026, 10, 19⟩, 0⟩ }

def countingEngine : State Nat :=
  { library := {}, patience := .ofSeconds 5, workers := [{ session := ⟨{}, 0, none⟩ }] }

theorem start_counting :
    start Session.countingInterpreter {} (.ofSeconds 5) = .ok countingEngine := rfl

/-- One caller's job is evaluated and another's waits, and both callers wait too long. -/
def overrun : List Action :=
  [.call "slow" "http://a/" "a", .connect 0, .send 0, .take 0, .begin 0 noon,
    .call "late" "http://b/" "b", .connect 1, .send 1, .timeOut 0, .timeOut 1]

/-- The worker is replaced, the new one answers a third caller, and the old one goes on. -/
def recovery : List Action :=
  [.replace 1 true, .replace 0 true, .call "third" "http://c/" "c", .connect 2, .send 2, .take 1,
    .begin 1 noon, .finish 1, .receive 2, .check 2, .finish 0, .take 0, .begin 0 noon]

/-- The third caller is answered for its own job, and the second one's job is never evaluated. -/
theorem evaluations_overrun : ∃ s t,
    countingEngine.run Session.countingInterpreter overrun = some s ∧
      s.run Session.countingInterpreter recovery = some t ∧
      (∃ w, s.workers[0]? = some w ∧ w.queue = [⟨1, "late", "http://b/", "b"⟩]) ∧
      (∃ w ∈ t.workers, ∃ e ∈ w.begun, e.job = ⟨2, "third", "http://c/", "c"⟩ ∧
        (e.session.evaluate Session.countingInterpreter e.thread "third" "http://c/" "c").1 =
          .ok (programText "third" "http://c/" "c")) ∧
      ∀ w ∈ t.workers, ∀ e ∈ w.begun, e.job.caller ≠ 1 := by
  obtain ⟨s, t, hs, ht, hgone, ⟨w, hw, hqueue⟩, c, hc, hstage, hjob⟩ : ∃ s t,
      countingEngine.run Session.countingInterpreter overrun = some s ∧
        s.run Session.countingInterpreter recovery = some t ∧ s.isAwaited 1 = false ∧
        (∃ w, s.workers[0]? = some w ∧ w.queue = [⟨1, "late", "http://b/", "b"⟩]) ∧
        ∃ c, t.callers[2]? = some c ∧
          c.stage = .returned 1 (.ok (programText "third" "http://c/" "c")) ∧
          c = { script := "third", url := "http://c/", host := "c", stage := c.stage, reply := c.reply } :=
    ⟨_, _, rfl, rfl, rfl, ⟨_, rfl, rfl⟩, _, rfl, rfl, rfl⟩
  have hreachable : Reachable Session.countingInterpreter countingEngine s := reachable_of_run .start hs
  refine ⟨s, t, hs, ht, ⟨w, hw, hqueue⟩, ?_, ?_⟩
  · obtain ⟨hanswers, -⟩ := evaluations_of_reachable start_counting (reachable_of_run hreachable ht)
    obtain ⟨w, e, hw, he, hown, hanswer⟩ := hanswers 2 c 1 _ hc hstage
    rw [hjob] at hown hanswer
    exact ⟨w, List.mem_of_getElem? hw, e, he, hown, hanswer⟩
  · obtain ⟨-, -, -, -, hnever⟩ := evaluations_of_reachable start_counting hreachable
    exact hnever 0 w _ hw (by rw [hqueue]; exact List.mem_singleton_self _) hgone t
      (reachable_of_run .start ht)

end State

end AutoProxy.Script.Workers
