import AutoProxy.Script.Engine

/-!
Callers of one engine that run side by side, and the workers that the engine starts one after the
other. A worker takes jobs from its queue, which holds a limited number of them, and sends each answer
to the caller that waits for it. A caller that has waited too long has the worker replaced, and so has
one that finds the queue closed; a worker that has been replaced goes on with what it has in hand.

Any caller and any worker may take its next step at any time. Workers are known by their generation
and callers by their place.
-/

namespace AutoProxy.Script.Workers

def queueDepth : Nat := 64

/-- A job: whose it is, and what is asked. -/
structure Job where
  caller : Nat
  script : String
  url : String
  host : String
deriving DecidableEq, Repr

/-- The end of an evaluation, as the caller is told of it. -/
abbrev Answer : Type := Except ResolutionFault String

/-- An evaluation that a worker has begun: the job, and the session and thread that it began with. -/
structure Evaluation (Context : Type) where
  job : Job
  session : Session Context
  thread : Thread

/-- How an evaluation ends, if it does: the answer and the session afterwards. -/
def Evaluation.outcome {Context : Type} (i : Interpreter Context) (e : Evaluation Context) :
    Answer × Session Context :=
  let (answer, session, _) := e.session.evaluate i e.thread e.job.script e.job.url e.job.host
  (answer, session)

inductive Activity (Context : Type) where
  | idle
  /-- The worker has taken a job, and has not yet looked whether anybody waits for it. -/
  | holding (job : Job)
  | evaluating (evaluation : Evaluation Context)
  /-- The worker has failed in an evaluation, and still holds the means to reply to the job. -/
  | failing (job : Job)
  /-- The worker has failed, and nobody can be replied to any longer. -/
  | failed
  | stopped

/-- A worker. Its queue is what has been sent and not yet taken; it is open as long as the worker
holds the end from which jobs are taken. -/
structure Worker (Context : Type) where
  session : Session Context
  /-- The jobs in the order in which they have come into the queue. -/
  sent : List Job := []
  /-- How many of them have left it. -/
  taken : Nat := 0
  /-- The evaluations that have been begun, the first one first. -/
  begun : List (Evaluation Context) := []
  isOpen : Bool := true
  activity : Activity Context := .idle

namespace Worker

variable {Context : Type}

def queue (w : Worker Context) : List Job := w.sent.drop w.taken

/-- Starts a worker: it needs a thread, and a session of its own. -/
def spawn (i : Interpreter Context) (library : Predicate.Library) (hasThread : Bool) :
    Except ResolutionFault (Worker Context) :=
  if hasThread then
    match Session.start i library with
    | .ok session => .ok { session }
    | .error fault => .error fault
  else .error (.config .noThread)

end Worker

/-- What has become of the reply that a caller waits for. -/
inductive Reply where
  | awaited
  | sent (answer : Answer)
  | dropped

/-- How far a caller has come; the generation is the one whose queue it has taken. -/
inductive Stage where
  | called
  | sending (generation : Nat)
  | awaiting (generation : Nat)
  /-- The caller has an answer and looks whether the queue is closed. -/
  | checking (generation : Nat) (answer : Answer)
  /-- The caller has an answer and asks for another worker. -/
  | replacing (generation : Nat) (answer : Answer)
  | returned (generation : Nat) (answer : Answer)
  /-- The call was given up from outside. -/
  | cancelled (generation : Nat)

/-- The generation whose queue a caller holds. -/
def Stage.holds? : Stage → Option Nat
  | .sending g | .awaiting g | .checking g _ | .replacing g _ => some g
  | .called | .returned _ _ | .cancelled _ => none

/-- Whether a caller has sent its job, and would still take a reply. -/
def Stage.isAwaiting : Stage → Bool
  | .awaiting _ => true
  | _ => false

/-- A caller: what it asks, how far it has come, and its reply. -/
structure Caller where
  script : String
  url : String
  host : String
  stage : Stage := .called
  reply : Reply := .awaited

def Caller.job (c : Caller) (place : Nat) : Job := ⟨place, c.script, c.url, c.host⟩

/-- The state that callers and workers share. The worker of each generation is at that place. -/
structure State (Context : Type) where
  library : Predicate.Library
  /-- How long a caller waits. -/
  patience : Span
  generation : Nat := 0
  workers : List (Worker Context)
  callers : List Caller := []

/-- What happens in a step, and to which caller or worker. -/
inductive Action where
  | call (script url host : String)
  /-- A caller takes the queue of the present worker. -/
  | connect (caller : Nat)
  /-- A caller sends its job, or finds that the queue is closed. -/
  | send (caller : Nat)
  /-- A caller receives its reply, or learns that there will be none. -/
  | receive (caller : Nat)
  | timeOut (caller : Nat)
  | cancel (caller : Nat)
  /-- A caller that has its answer looks whether the queue is closed. -/
  | check (caller : Nat)
  /-- A caller has the worker replaced, unless that is done; a new worker may fail to start. -/
  | replace (caller : Nat) (canStart : Bool)
  /-- A worker takes the next job from its queue. -/
  | take (generation : Nat)
  /-- A worker begins to evaluate the job that it has taken, or passes over it if nobody waits for it. -/
  | begin (generation : Nat) (thread : Thread)
  /-- A worker ends an evaluation and replies. -/
  | finish (generation : Nat)
  /-- A worker fails in an evaluation. -/
  | fail (generation : Nat)
  /-- A failing worker lets go of the job that it was evaluating. -/
  | dropReply (generation : Nat)
  /-- A failing worker closes its queue. -/
  | close (generation : Nat)
  /-- A job that is left in a closed queue is let go of. -/
  | discard (generation : Nat)
  /-- A worker stops, to whose queue nobody can send any longer. -/
  | stop (generation : Nat)

namespace State

variable {Context : Type}

def start (i : Interpreter Context) (library : Predicate.Library) (patience : Span) :
    Except ResolutionFault (State Context) :=
  match Worker.spawn i library true with
  | .ok worker => .ok { library, patience, workers := [worker] }
  | .error fault => .error fault

def workersStarted (s : State Context) : Nat := s.generation + 1

def stage? (s : State Context) (caller : Nat) : Option Stage := (s.callers[caller]?).map Caller.stage

def atStage (s : State Context) (caller : Nat) (stage : Stage) : State Context :=
  { s with callers := s.callers.modify caller fun c => { c with stage := stage } }

/-- The state after something has become of a caller's reply. -/
def replied (s : State Context) (caller : Nat) (reply : Reply) : State Context :=
  { s with callers := s.callers.modify caller fun c => { c with reply := reply } }

def withWorker (s : State Context) (generation : Nat) (w : Worker Context) : State Context :=
  { s with workers := s.workers.set generation w }

/-! ### Steps of a caller -/

/-- A caller takes the queue of the present worker. -/
def connect (s : State Context) (caller : Nat) : Option (State Context) :=
  match s.stage? caller with
  | some .called => some (s.atStage caller (.sending s.generation))
  | _ => none

/-- A caller sends its job. It waits while the queue is full, and is told when the queue is closed. -/
def send (s : State Context) (caller : Nat) : Option (State Context) :=
  match s.callers[caller]? with
  | none => none
  | some c =>
    match c.stage with
    | .sending g =>
      match s.workers[g]? with
      | none => none
      | some w =>
        if !w.isOpen then some (s.atStage caller (.checking g (.error (.evaluation .workerGone))))
        else if queueDepth ≤ w.queue.length then none
        else
          some ((s.atStage caller (.awaiting g)).withWorker g
            { w with sent := w.sent ++ [c.job caller] })
    | _ => none

/-- A caller receives its reply, or learns that there will be none. -/
def receive (s : State Context) (caller : Nat) : Option (State Context) :=
  match s.callers[caller]? with
  | none => none
  | some c =>
    match c.stage, c.reply with
    | .awaiting g, .sent answer => some (s.atStage caller (.checking g answer))
    | .awaiting g, .dropped => some (s.atStage caller (.checking g (.error (.evaluation .workerDied))))
    | _, _ => none

/-- A caller has waited too long, to send its job or for the reply. -/
def timeOut (s : State Context) (caller : Nat) : Option (State Context) :=
  match s.stage? caller with
  | some (.sending g) | some (.awaiting g) =>
    some (s.atStage caller (.replacing g (.error (.evaluation (.timedOut s.patience)))))
  | _ => none

/-- A call is given up while it waits. -/
def cancel (s : State Context) (caller : Nat) : Option (State Context) :=
  match s.stage? caller with
  | some (.sending g) | some (.awaiting g) => some (s.atStage caller (.cancelled g))
  | _ => none

/-- A caller that has its answer returns it, unless it finds the queue closed. -/
def check (s : State Context) (caller : Nat) : Option (State Context) :=
  match s.stage? caller with
  | some (.checking g answer) =>
    match s.workers[g]? with
    | none => none
    | some w =>
      some (s.atStage caller (if w.isOpen then .returned g answer else .replacing g answer))
  | _ => none

/-- The state with a new worker in the place of the present one. If none can be started all stays as it
is, and nobody is told why. -/
def replaceWorker (i : Interpreter Context) (s : State Context) (canStart : Bool) :
    State Context :=
  match Worker.spawn i s.library canStart with
  | .ok worker => { s with generation := s.generation + 1, workers := s.workers ++ [worker] }
  | .error _ => s

/-- A caller has the worker replaced whose queue it has taken, unless that is done, and returns. -/
def replace (i : Interpreter Context) (s : State Context) (caller : Nat) (canStart : Bool) :
    Option (State Context) :=
  match s.stage? caller with
  | some (.replacing g answer) =>
    let t := if s.generation = g then s.replaceWorker i canStart else s
    some (t.atStage caller (.returned g answer))
  | _ => none

/-! ### Steps of a worker -/

/-- An idle worker takes the next job from its queue. -/
def take (s : State Context) (generation : Nat) : Option (State Context) :=
  match s.workers[generation]? with
  | some w =>
    match w.activity, w.sent[w.taken]? with
    | .idle, some job =>
      some (s.withWorker generation { w with taken := w.taken + 1, activity := .holding job })
    | _, _ => none
  | none => none

def isAwaited (s : State Context) (caller : Nat) : Bool := (s.stage? caller).any Stage.isAwaiting

/-- A worker begins to evaluate the job that it has taken, if the caller still waits. -/
def begin (s : State Context) (generation : Nat) (thread : Thread) : Option (State Context) :=
  match s.workers[generation]? with
  | some w =>
    match w.activity with
    | .holding job =>
      if s.isAwaited job.caller then
        let evaluation := ⟨job, w.session, thread⟩
        some (s.withWorker generation
          { w with begun := w.begun ++ [evaluation], activity := .evaluating evaluation })
      else some (s.withWorker generation { w with activity := .idle })
    | _ => none
  | none => none

/-- A worker ends an evaluation and replies to its caller, who may be gone. It cannot reply when the
evaluation has broken down. -/
def finish (i : Interpreter Context) (s : State Context) (generation : Nat) :
    Option (State Context) :=
  match s.workers[generation]? with
  | some w =>
    match w.activity with
    | .evaluating evaluation =>
      match evaluation.outcome i with
      | (.error (.evaluation .collapsed), _) => none
      | (answer, session) =>
        some ((s.replied evaluation.job.caller (.sent answer)).withWorker generation
          { w with session, activity := .idle })
    | _ => none
  | none => none

def fail (s : State Context) (generation : Nat) : Option (State Context) :=
  match s.workers[generation]? with
  | some w =>
    match w.activity with
    | .evaluating evaluation =>
      some (s.withWorker generation { w with activity := .failing evaluation.job })
    | _ => none
  | none => none

/-- A failing worker lets go of the job that it was evaluating. -/
def dropReply (s : State Context) (generation : Nat) : Option (State Context) :=
  match s.workers[generation]? with
  | some w =>
    match w.activity with
    | .failing job =>
      some ((s.replied job.caller .dropped).withWorker generation { w with activity := .failed })
    | _ => none
  | none => none

/-- A failing worker closes its queue. -/
def close (s : State Context) (generation : Nat) : Option (State Context) :=
  match s.workers[generation]? with
  | some w =>
    match w.isOpen, w.activity with
    | true, .failing _ | true, .failed => some (s.withWorker generation { w with isOpen := false })
    | _, _ => none
  | none => none

/-- The next job that is left in a closed queue is let go of. -/
def discard (s : State Context) (generation : Nat) : Option (State Context) :=
  match s.workers[generation]? with
  | some w =>
    match w.isOpen, w.sent[w.taken]? with
    | false, some job =>
      some ((s.replied job.caller .dropped).withWorker generation { w with taken := w.taken + 1 })
    | _, _ => none
  | none => none

/-- A worker that has been replaced stops when its queue is empty and no caller holds it. -/
def stop (s : State Context) (generation : Nat) : Option (State Context) :=
  match s.workers[generation]? with
  | some w =>
    match w.activity with
    | .idle =>
      if generation ≠ s.generation ∧ w.queue = [] ∧
          s.callers.all fun c => c.stage.holds? ≠ some generation then
        some (s.withWorker generation { w with isOpen := false, activity := .stopped })
      else none
    | _ => none
  | none => none

/-! ### All steps -/

/-- The state after a step, if the action can happen. -/
def step (i : Interpreter Context) (s : State Context) : Action → Option (State Context)
  | .call script url host => some { s with callers := s.callers ++ [{ script, url, host }] }
  | .connect caller => s.connect caller
  | .send caller => s.send caller
  | .receive caller => s.receive caller
  | .timeOut caller => s.timeOut caller
  | .cancel caller => s.cancel caller
  | .check caller => s.check caller
  | .replace caller canStart => s.replace i caller canStart
  | .take generation => s.take generation
  | .begin generation thread => s.begin generation thread
  | .finish generation => s.finish i generation
  | .fail generation => s.fail generation
  | .dropReply generation => s.dropReply generation
  | .close generation => s.close generation
  | .discard generation => s.discard generation
  | .stop generation => s.stop generation

/-- The state after a row of actions, if all of them can happen. -/
def run (i : Interpreter Context) (s : State Context) : List Action → Option (State Context)
  | [] => some s
  | a :: rest => (s.step i a).bind fun t => t.run i rest

end State

/-- The states to which the steps of callers and workers can lead. -/
inductive Reachable {Context : Type} (i : Interpreter Context) (start : State Context) :
    State Context → Prop where
  | start : Reachable i start start
  | step {s t : State Context} (a : Action) :
    Reachable i start s → s.step i a = some t → Reachable i start t

end AutoProxy.Script.Workers
