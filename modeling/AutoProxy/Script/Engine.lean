import AutoProxy.Fault
import AutoProxy.Script.Program
import AutoProxy.Settings.Basic
import AutoProxy.Text.Json

/-!
A session evaluates scripts for requests, one after the other. It keeps the context of the
interpreter as long as the text of the script stays the same, so that what a script has defined is
still there for the next request; another text begins with a fresh context.

The interpreter is a parameter. What is said of sessions in general holds for every interpreter;
`interpreter` is the one for the script language. An evaluation takes place on a thread, which has
a clock and knows which predicate library is active. While a script runs, that is the library of the
session, with its clock pinned.

An engine gives each evaluation a limited time. It has one worker, which owns a session; when an
evaluation overruns its time the worker is left to itself and a new one, with a new session, takes
its place. Time is measured by the work that the evaluation does.

An evaluation that breaks down takes the worker with it. Whoever has asked for it learns of that first;
that there is no worker any longer shows only when the next evaluation is asked for, and then a new one
is started.
-/

namespace AutoProxy.Script

/-! ## Sessions -/

/-- Where evaluations take place: the active predicate library, if there is one, and the clock. -/
structure Thread where
  active : Option Predicate.Library := none
  clock : Calendar.Instant

/-- The thread with another library active. -/
def Thread.enter (t : Thread) (library : Predicate.Library) : Thread :=
  { t with active := some library }

/-- The thread with the library active again that was so at an earlier time. -/
def Thread.leave (t earlier : Thread) : Thread := { t with active := earlier.active }

/-- How a run of an interpreter ends. -/
structure Outcome (Context : Type) where
  result : Except EvaluationFault String
  context : Context
  thread : Thread

/-- An interpreter: the context that it begins with, how a predicate is bound to its name in one, which
may fail, and how a program runs in one. -/
structure Interpreter (Context : Type) where
  blank : Context
  bind : Context → Question → Except String Context
  run : Context → Thread → String → Outcome Context

/-- A fresh context, in which all predicates are bound to their names. -/
def Interpreter.fresh {Context : Type} (i : Interpreter Context) : Except String Context :=
  Question.all.foldlM i.bind i.blank

/-- A session: its predicate library, the context, and the script that the context is for. -/
structure Session (Context : Type) where
  library : Predicate.Library
  context : Context
  loaded : Option String := none

/-- The function that a script defines to answer. -/
def entryPoint : String := "FindProxyForURL"

/-- The program for a request: the script, and after it the call that asks it. -/
def programText (script url host : String) : String :=
  script ++ "\n;" ++ entryPoint ++ "(" ++ Text.Quoted.quoted url ++ ", " ++ Text.Quoted.quoted host ++
    ");\n"

namespace Session

variable {Context : Type}

def start (i : Interpreter Context) (library : Predicate.Library) :
    Except ResolutionFault (Session Context) :=
  match i.fresh with
  | .ok context => .ok { library, context }
  | .error reason => .error (.evaluation (.unbound reason))

/-- The session made ready for a script; its context is a fresh one if the script is another. -/
def prepare (i : Interpreter Context) (s : Session Context) (script : String) :
    Except ResolutionFault (Session Context) :=
  if s.loaded = some script then .ok s
  else
    match i.fresh with
    | .ok context => .ok { s with context, loaded := some script }
    | .error reason => .error (.evaluation (.notRebuilt reason))

/-- Asks a script for a request: the answer, the session and the thread afterwards. -/
def evaluate (i : Interpreter Context) (s : Session Context) (thread : Thread)
    (script url host : String) : Except ResolutionFault String × Session Context × Thread :=
  match s.prepare i script with
  | .error fault => (.error fault, s, thread)
  | .ok s =>
    let library := s.library.pin thread.clock
    let outcome := i.run s.context (thread.enter library) (programText script url host)
    (outcome.result.mapError .evaluation,
      { s with context := outcome.context, library := library.release }, outcome.thread.leave thread)

end Session

/-- The interpreter of the script language, within the given bounds. -/
def interpreter (bounds : Bounds) (lookup : Lookup) : Interpreter Machine where
  blank := .blank
  bind := fun m q => .ok (m.bind q)
  run := fun m thread text =>
    let (result, m) := Script.run ⟨bounds, ⟨thread.active, thread.clock, lookup⟩⟩ m text
    ⟨result, m, thread⟩

/-! ## Engines -/

/-- The time of one unit of work, in nanoseconds. -/
def nanosPerUnit : Nat := 200

/-- The bounds that limits set to an evaluation that nobody stops. -/
def Bounds.unmetered (limits : Limits) : Bounds :=
  { turns := limits.loopIterations.toNat, calls := limits.recursion.toNat }

/-- The bounds that limits set to an evaluation that is stopped when its time is over. -/
def Bounds.metered (limits : Limits) : Bounds :=
  { unmetered limits with work := some (limits.timeout.nanos / nanosPerUnit) }

/-- An engine: the library that each worker begins with, the limits, how many workers have been
replaced, the session of the present one, and whether that is still there. -/
structure Engine where
  library : Predicate.Library
  limits : Limits
  lookup : Lookup
  generation : Nat := 0
  session : Session Machine
  isAlive : Bool := true

namespace Engine

def interpreter (limits : Limits) (lookup : Lookup) : Interpreter Machine :=
  Script.interpreter (.metered limits) lookup

def start (library : Predicate.Library) (limits : Limits) (lookup : Lookup) :
    Except ResolutionFault Engine :=
  match Session.start (interpreter limits lookup) library with
  | .ok session => .ok { library, limits, lookup, session }
  | .error fault => .error fault

def workersStarted (e : Engine) : Nat := e.generation + 1

/-- The engine with a new worker in place of the present one; unchanged if none can be started. -/
def replaceWorker (e : Engine) : Engine :=
  match Session.start (interpreter e.limits e.lookup) e.library with
  | .ok session => { e with generation := e.generation + 1, session, isAlive := true }
  | .error _ => e

/-- Asks a script for a request at the time that a clock shows. -/
def evaluate (e : Engine) (clock : Calendar.Instant) (script url host : String) :
    Except ResolutionFault String × Engine :=
  if e.isAlive then
    match e.session.evaluate (interpreter e.limits e.lookup) { clock } script url host with
    | (.error (.evaluation .abandoned), _, _) =>
      (.error (.evaluation (.timedOut e.limits.timeout)), e.replaceWorker)
    | (.error (.evaluation .collapsed), _, _) =>
      (.error (.evaluation .workerDied), { e with isAlive := false })
    | (result, session, _) => (result, { e with session })
  else (.error (.evaluation .workerGone), e.replaceWorker)

end Engine

end AutoProxy.Script
