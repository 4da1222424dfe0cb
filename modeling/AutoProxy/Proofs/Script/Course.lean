import AutoProxy.Script.Engine

/-!
Scripts as courses: a script asks predicates, one after the other and each after what it has been told
before, and in the end there is a result. In between others may move the clock.

What a predicate answers is a matter of the library that is active and of the instant that this library
takes for the present (`Thread.dispatch`); the script language asks in just this way
(`callNative_question`). A course changes nothing of that. Hence if it begins with a pinned library, each of
its questions is answered by that library, as it would be with a clock that stands still
(`Course.run_pinned`).
-/

namespace AutoProxy.Script

open Calendar

/-! ### Questions -/

/-- A question to a predicate: with texts for arguments, or with values as they are. -/
inductive Asking where
  | texts (question : Question) (arguments : List (Option String))
  | values (question : Question) (arguments : List Value)

/-- What a library answers; nothing if the question breaks the evaluation down. -/
def Asking.answer? (library : Predicate.Library) (clock : Instant) (lookup : Lookup) :
    Asking → Option (Except String Value)
  | .texts q arguments =>
    let s : Surroundings := ⟨some library, clock, lookup⟩
    if q.hasAnswerToTexts library s arguments then some (.ok (q.ofTexts library s arguments)) else none
  | .values q arguments =>
    let s : Surroundings := ⟨some library, clock, lookup⟩
    if q.hasAnswerToValues library s arguments then some (q.ofValues library s arguments) else none

/-- What a question is answered on a thread. -/
def Thread.dispatch (thread : Thread) (lookup : Lookup) (a : Asking) : Option (Except String Value) :=
  match thread.active with
  | none => some (.error "PAC functions called outside an evaluation")
  | some library => a.answer? library thread.clock lookup

/-- A library with its clock pinned answers as it does when its clock is running and shows that instant,
whatever the clock shows by then. -/
theorem Asking.answer?_pin (library : Predicate.Library) (began clock : Instant) (lookup : Lookup)
    (a : Asking) :
    a.answer? (library.pin began) clock lookup = a.answer? library.release began lookup := by
  cases a with
  | texts q arguments => cases q <;> rfl
  | values q arguments => cases q <;> rfl

/-- What comes of an answer in the script language. -/
def tell : Option (Except String Value) → Run Value
  | none => throw (.halted .collapsed)
  | some (.ok v) => pure v
  | some (.error message) => Run.fail .type message

/-- The thread on which an evaluation of the script language takes place. -/
def Surroundings.thread (s : Surroundings) : Thread := ⟨s.library, s.clock⟩

/-- The script language puts a question to the library that is active on its thread; arguments are turned
into texts before, if there is a library. -/
theorem callNative_question (w : Conditions) (fuel : Nat) (q : Question) (this : Value)
    (arguments : List Value) :
    callNative w (fuel + 1) (.question q) this arguments =
      if q.takesValues ∨ w.surroundings.library = none then
        tell (w.surroundings.thread.dispatch w.surroundings.lookup (.values q arguments))
      else
        toArguments w fuel q.parameterCount arguments >>= fun texts =>
          tell (w.surroundings.thread.dispatch w.surroundings.lookup (.texts q texts)) := by
  obtain ⟨bounds, library, clock, lookup⟩ := w
  cases library with
  | none => simp [callNative, Surroundings.thread, Thread.dispatch, tell]
  | some library =>
      by_cases hvalues : q.takesValues = true
      · rw [if_pos (.inl hvalues)]
        simp only [callNative, Surroundings.thread, Thread.dispatch, Asking.answer?, hvalues, if_true]
        by_cases hanswer : q.hasAnswerToValues library ⟨some library, clock, lookup⟩ arguments = true
        · simp only [hanswer, if_true]
          cases q.ofValues library ⟨some library, clock, lookup⟩ arguments <;> rfl
        · simp only [hanswer]
          rfl
      · rw [if_neg (by simp [hvalues])]
        simp only [callNative, Surroundings.thread, Thread.dispatch, Asking.answer?, hvalues]
        apply bind_congr
        intro texts
        by_cases hanswer : q.hasAnswerToTexts library ⟨some library, clock, lookup⟩ texts = true
        · simp only [hanswer, if_true]
          rfl
        · simp only [hanswer]
          rfl

/-! ### Courses -/

/-- What a script does: it asks, and goes on as the answer says, until there is a result. Meanwhile the
clock may be moved. -/
inductive Course (Context : Type) where
  | ends (result : Except EvaluationFault String) (context : Context)
  | asks (asking : Asking) (next : Except String Value → Course Context)
  | waits (clock : Instant) (next : Course Context)

/-- A question that has been asked: the library that was active, what the clock showed, and the answer. -/
structure Sighting where
  asking : Asking
  library : Option Predicate.Library
  clock : Instant
  answer : Option (Except String Value)

/-- A context, with the questions that have been asked in the last evaluation. -/
structure Watched (Context : Type) where
  context : Context
  seen : List Sighting := []

/-- An outcome after one more question. -/
def Outcome.after {Context : Type} (s : Sighting) (o : Outcome (Watched Context)) :
    Outcome (Watched Context) :=
  { o with context := { o.context with seen := s :: o.context.seen } }

namespace Course

variable {Context : Type}

/-- Follows a course on a thread. If a question breaks it down the context is as it was at the start. -/
def run (lookup : Lookup) (start : Context) (thread : Thread) :
    Course Context → Outcome (Watched Context)
  | .ends result context => ⟨result, { context }, thread⟩
  | .waits clock next => next.run lookup start { thread with clock }
  | .asks asking next =>
    let answer := thread.dispatch lookup asking
    let sighting : Sighting := ⟨asking, thread.active, thread.clock, answer⟩
    match answer with
    | none => Outcome.after sighting ⟨.error .collapsed, { context := start }, thread⟩
    | some told => Outcome.after sighting ((next told).run lookup start thread)

end Course

/-- A question has been put to the library with its clock pinned at the instant; that instant was the
present to it, whatever the clock showed, and the answer is what the library gives at that instant. -/
structure Sighting.IsOf (lookup : Lookup) (library : Predicate.Library) (began : Instant)
    (s : Sighting) : Prop where
  active : s.library = some (library.pin began)
  present : (library.pin began).now s.clock = began
  answer : s.answer = s.asking.answer? library.release began lookup

/-- A course on a thread whose library is pinned keeps that library active, and asks nothing else. -/
theorem Course.run_pinned {Context : Type} {lookup : Lookup} {library : Predicate.Library}
    {began : Instant} (start : Context) (course : Course Context) {thread : Thread}
    (hactive : thread.active = some (library.pin began)) :
    (course.run lookup start thread).thread.active = some (library.pin began) ∧
      ∀ s ∈ (course.run lookup start thread).context.seen, s.IsOf lookup library began := by
  induction course generalizing thread with
  | ends result context =>
      constructor
      · exact hactive
      · intro s hs
        cases hs
  | waits clock next ih => exact ih hactive
  | asks asking next ih =>
      have hanswer : thread.dispatch lookup asking = asking.answer? library.release began lookup := by
        simp only [Thread.dispatch, hactive, Asking.answer?_pin]
      have hsighting : Sighting.IsOf lookup library began
          ⟨asking, thread.active, thread.clock, thread.dispatch lookup asking⟩ := by
        constructor
        · exact hactive
        · rfl
        · exact hanswer
      rw [Course.run]
      cases htold : thread.dispatch lookup asking with
      | none =>
          rw [htold] at hsighting
          constructor
          · exact hactive
          · intro s hs
            rw [List.mem_singleton.mp hs]
            exact hsighting
      | some told =>
          rw [htold] at hsighting
          obtain ⟨hkept, hseen⟩ := ih told hactive
          constructor
          · exact hkept
          · intro s hs
            rcases List.mem_cons.mp hs with rfl | hs
            · exact hsighting
            · exact hseen s hs

end AutoProxy.Script
