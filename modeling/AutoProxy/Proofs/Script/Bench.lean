import AutoProxy.Proofs.Script.Course
import AutoProxy.Proofs.Script.History

/-!
Several sessions side by side on one thread. Each has its own library and a clock that anybody may move at
any time, and they are asked in any order to evaluate scripts of any kind. An evaluation that comes to an
end, with a result or with a fault, leaves no trace but in the context of its session: all its questions
have gone to the library of that session, at the instant at which it began; after it that library sees the
running clock again, and what was active before is active (`scoped_of_run`).

An evaluation that a predicate breaks down does not come to an end in this sense.
-/

namespace AutoProxy.Script

open Calendar

/-- How an interpreter takes scripts: its first context, how predicates are bound, the lookup of host
names, and the course of a program in a context. -/
structure Behaviour (Context : Type) where
  blank : Context
  bind : Context → Question → Except String Context
  lookup : Lookup
  course : Context → String → Course Context

/-- The interpreter that behaves so, watched. -/
def Behaviour.interpreter {Context : Type} (b : Behaviour Context) : Interpreter (Watched Context) where
  blank := { context := b.blank }
  bind := fun w q => (b.bind w.context q).map ({ context := · })
  run := fun w thread text => (b.course w.context text).run b.lookup w.context thread

/-- The sessions on a thread, what their clocks show, and the library that is active. -/
structure Bench (Index Context : Type) where
  sessions : Index → Session (Watched Context)
  clocks : Index → Instant
  active : Option Predicate.Library

structure Visit (Index Context : Type) where
  index : Index
  behaviour : Behaviour Context
  script : String
  url : String
  host : String

/-- An evaluation that has ended: when it began, its answer and its questions, and what was left behind as
the library of the session and as the active one. -/
structure Visited (Index Context : Type) where
  visit : Visit Index Context
  began : Instant
  answer : Except ResolutionFault String
  seen : List Sighting
  library : Predicate.Library
  active : Option Predicate.Library

namespace Bench

variable {Index Context : Type} {start bench : Bench Index Context}

def call (bench : Bench Index Context) (v : Visit Index Context) :
    Session.Call (Watched Context) where
  interpreter := v.behaviour.interpreter
  thread := ⟨bench.active, bench.clocks v.index⟩
  script := v.script
  url := v.url
  host := v.host

def session (bench : Bench Index Context) (v : Visit Index Context) : Session (Watched Context) :=
  { bench.sessions v.index with
    context := { (bench.sessions v.index).context with seen := [] } }

variable [DecidableEq Index]

def visit (bench : Bench Index Context) (v : Visit Index Context) :
    Visited Index Context × Bench Index Context :=
  match (bench.session v).ask (bench.call v) with
  | (answer, session, thread) =>
    (⟨v, bench.clocks v.index, answer, session.context.seen, session.library, thread.active⟩,
      { sessions := Function.update bench.sessions v.index session
        clocks := Function.update bench.clocks v.index thread.clock
        active := thread.active })

/-- Requests that have come to an end, one after the other; in between all clocks may be moved. -/
inductive Run (start : Bench Index Context) :
    List (Visited Index Context) → Bench Index Context → Prop where
  | start : Run start [] start
  | visit {visited : List (Visited Index Context)} {bench : Bench Index Context}
      (v : Visit Index Context) :
      Run start visited bench → (bench.visit v).1.answer ≠ .error (.evaluation .collapsed) →
      Run start (visited ++ [(bench.visit v).1]) (bench.visit v).2
  | clocks {visited : List (Visited Index Context)} {bench : Bench Index Context}
      (clocks : Index → Instant) :
      Run start visited bench → Run start visited { bench with clocks }

end Bench

/-- An evaluation has kept to a library: all its questions were put to it at the instant at which it began,
and it is there again afterwards with its clock running, as is what was active. -/
structure Visited.IsScoped {Index Context : Type} (library : Predicate.Library)
    (active : Option Predicate.Library) (e : Visited Index Context) : Prop where
  seen : ∀ s ∈ e.seen, s.IsOf e.visit.behaviour.lookup library e.began
  library : e.library = library
  live : ∀ clock, e.library.now clock = clock
  active : e.active = active

namespace Bench

variable {Index Context : Type} {start bench : Bench Index Context}

/-- Whatever the course of a program is, evaluating it in a context keeps to the library and to what was
active on the thread. -/
theorem evaluatedIn_scoped (bench : Bench Index Context) (v : Visit Index Context)
    (library : Predicate.Library) (context : Watched Context) :
    (∀ s ∈ ((bench.call v).evaluatedIn library context).2.1.context.seen,
        s.IsOf v.behaviour.lookup library (bench.clocks v.index)) ∧
      ((bench.call v).evaluatedIn library context).2.1.library = library.release ∧
      ((bench.call v).evaluatedIn library context).2.2.active = bench.active := by
  refine ⟨?_, rfl, rfl⟩
  exact (Course.run_pinned context.context (v.behaviour.course context.context _) rfl).2

/-- So does a request, also if there is no context to evaluate it in. -/
theorem ask_scoped (bench : Bench Index Context) (v : Visit Index Context)
    (hlive : (bench.sessions v.index).library.pinned = none) :
    (∀ s ∈ ((bench.session v).ask (bench.call v)).2.1.context.seen,
        s.IsOf v.behaviour.lookup (bench.sessions v.index).library (bench.clocks v.index)) ∧
      ((bench.session v).ask (bench.call v)).2.1.library = (bench.sessions v.index).library ∧
      ((bench.session v).ask (bench.call v)).2.2.active = bench.active := by
  have hrelease : (bench.sessions v.index).library.release = (bench.sessions v.index).library := by
    rw [Predicate.Library.release, ← hlive]
  have hevaluated (context : Watched Context) :=
    evaluatedIn_scoped bench v (bench.sessions v.index).library context
  rw [hrelease] at hevaluated
  by_cases hloaded : (bench.session v).loaded = some (bench.call v).script
  · rw [Session.ask_of_loaded hloaded]
    exact hevaluated _
  · cases hfresh : (bench.call v).interpreter.fresh with
    | ok context =>
        rw [Session.ask_of_fresh hloaded hfresh]
        exact hevaluated context
    | error reason =>
        rw [Session.ask_of_not_fresh hloaded hfresh]
        refine ⟨?_, rfl, rfl⟩
        intro s hs
        cases hs

variable [DecidableEq Index]

/-- A request changes no library, and not what is active. -/
theorem visit_scoped (v : Visit Index Context) (hlive : ∀ k, (bench.sessions k).library.pinned = none) :
    (bench.visit v).1.IsScoped (bench.sessions v.index).library bench.active ∧
      (bench.visit v).2.active = bench.active ∧
      ∀ k, ((bench.visit v).2.sessions k).library = (bench.sessions k).library := by
  obtain ⟨hseen, hlibrary, hactive⟩ := ask_scoped bench v (hlive v.index)
  refine ⟨?_, hactive, ?_⟩
  · constructor
    · exact hseen
    · exact hlibrary
    · intro clock
      show (((bench.session v).ask (bench.call v)).2.1.library).now clock = clock
      rw [hlibrary, Predicate.Library.now, hlive v.index]
      rfl
    · exact hactive
  · intro k
    show ((Function.update bench.sessions v.index _) k).library = _
    by_cases hk : k = v.index
    · subst hk
      rw [Function.update_self]
      exact hlibrary
    · rw [Function.update_of_ne hk]

/-- Whatever sessions there are, what they are asked and how their scripts run their course, and however
the clocks are moved: every evaluation that has come to an end has kept to the library of its session, at
the instant at which it began; and then as now all libraries and what is active are as they were at the
beginning. -/
theorem scoped_of_run {visited : List (Visited Index Context)} (h : Run start visited bench)
    (hlive : ∀ k, (start.sessions k).library.pinned = none) :
    (∀ e ∈ visited, e.IsScoped (start.sessions e.visit.index).library start.active) ∧
      bench.active = start.active ∧
      ∀ k, (bench.sessions k).library = (start.sessions k).library := by
  induction h with
  | start =>
      refine ⟨?_, rfl, fun k => rfl⟩
      intro e he
      cases he
  | @visit visited bench v _ _ ih =>
      obtain ⟨hvisited, hactive, hlibrary⟩ := ih
      have hlive' : ∀ k, (bench.sessions k).library.pinned = none := by
        intro k
        rw [hlibrary k]
        exact hlive k
      obtain ⟨hscoped, hactive', hlibrary'⟩ := visit_scoped v hlive'
      rw [hlibrary, hactive] at hscoped
      refine ⟨?_, hactive'.trans hactive, fun k => (hlibrary' k).trans (hlibrary k)⟩
      intro e he
      rcases List.mem_append.mp he with he | he
      · exact hvisited e he
      · rw [List.mem_singleton.mp he]
        exact hscoped
  | clocks clocks _ ih => exact ih

/-- A behaviour for which every program is the same course: it asks for the machine's own address and,
when the clock has been moved on to another day, for the weekday. The answer is the address, or a fault if
the other day is seen. -/
def telling (later : Instant) : Behaviour Unit where
  blank := ()
  bind := fun _ _ => .ok ()
  lookup := .withoutServer
  course := fun _ _ =>
    .asks (.texts .myIpAddress []) fun first =>
      .waits later <| .asks (.texts .weekdayRange [some "FRI"]) fun second =>
        match first, second with
        | .ok (.text units), .ok (.boolean false) => .ends (.ok (Text.Utf16.toString units)) ()
        | _, _ => .ends (.error (.thrown "already Friday")) ()

/-- Two sessions with addresses of their own, on a thread where another library is active. -/
def twoSessions : Bench Bool Unit where
  sessions := fun first =>
    { library := { ownAddress := some (.v4 (.ofOctets 10 0 0 (if first then 1 else 2))) }
      context := { context := () } }
  clocks := fun _ => ⟨.midnight ⟨2026, 1, 1⟩, 0⟩
  active := some {}

/-- Each of them answers with its own address. The first sees another day only when it is asked again, and
ends with a fault then; the second does not notice. -/
theorem scoped_of_run_twoSessions :
    ∃ visited bench, Run twoSessions visited bench ∧
      visited.map Visited.answer =
        [.ok "10.0.0.1", .error (.evaluation (.thrown "already Friday")), .ok "10.0.0.2"] ∧
      (∀ e ∈ visited, e.IsScoped (twoSessions.sessions e.visit.index).library (some {})) ∧
      bench.active = some {} ∧
      ∀ k, (bench.sessions k).library = (twoSessions.sessions k).library := by
  let friday : Instant := ⟨.midnight ⟨2026, 1, 2⟩, 0⟩
  let ask (index : Bool) : Visit Bool Unit := ⟨index, telling friday, "", "http://a/", "a"⟩
  have begun : Run twoSessions [] twoSessions := .start
  have first := begun.visit (ask true) (by decide +kernel)
  have again := first.visit (ask true) (by decide +kernel)
  have other := again.visit (ask false) (by decide +kernel)
  exact ⟨_, _, other, by decide +kernel, scoped_of_run other (fun _ => rfl)⟩

end Bench

end AutoProxy.Script
