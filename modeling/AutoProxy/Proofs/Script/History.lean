import AutoProxy.Proofs.Script.Binding
import Mathlib.Data.List.DropRight

/-!
What a session answers depends on what it has been asked before. As long as the text of the script stays
the same its context is kept, with all that earlier requests have left there. When the text is another than
that for which the last context was built, the context is a fresh one, and nothing is left of what earlier
scripts have done (`ask_after_of_changed`); if there is no fresh context the session stays as it was, and the
script from before can go on as if nothing had happened in between (`ask_after_refused_ne_fresh`).

Hence of all earlier requests only the last ones with the same text can matter, and they do not matter
either if the script leaves nothing behind that it would notice (`ask_after_eq`). In general they do:
there is a script that answers a second request otherwise than the first (`ask_after_ne_new`).

The interpreter is arbitrary, and may be another one at each request.
-/

namespace AutoProxy.Script.Session

variable {Context : Type}

/-- A request to a session: the interpreter and the thread as they are at the time, the script, and what
it is asked. -/
structure Call (Context : Type) where
  interpreter : Interpreter Context
  thread : Thread
  script : String
  url : String
  host : String

namespace Call

/-- Whether a fresh context can be built at the time of the request. -/
def canBuild (c : Call Context) : Bool := c.interpreter.fresh.isOk

/-- What comes of evaluating the program of a request in a context: the answer, and the session and the
thread afterwards. -/
def evaluatedIn (c : Call Context) (library : Predicate.Library) (context : Context) :
    Except ResolutionFault String × Session Context × Thread :=
  let outcome := c.interpreter.run context (c.thread.enter (library.pin c.thread.clock))
    (programText c.script c.url c.host)
  (outcome.result.mapError .evaluation,
    { library := library.release, context := outcome.context, loaded := some c.script },
    outcome.thread.leave c.thread)

end Call

/-- What a session answers to a request, with the session and the thread afterwards. -/
def ask (s : Session Context) (c : Call Context) :
    Except ResolutionFault String × Session Context × Thread :=
  s.evaluate c.interpreter c.thread c.script c.url c.host

def after (s : Session Context) : List (Call Context) → Session Context
  | [] => s
  | c :: rest => after (s.ask c).2.1 rest

/-- The script of the last request at which a fresh context could be built. -/
def lastBuilt (calls : List (Call Context)) : Option String :=
  ((calls.filter Call.canBuild).getLast?).map Call.script

variable {i : Interpreter Context} {library : Predicate.Library} {s : Session Context}
  {calls : List (Call Context)} {b c : Call Context} {context : Context} {reason : String}

/-! ### One request -/

theorem canBuild_iff : c.canBuild = true ↔ ∃ context, c.interpreter.fresh = .ok context := by
  cases hfresh : c.interpreter.fresh <;> simp [Call.canBuild, hfresh, Except.isOk, Except.toBool]

/-- A script that is loaded is evaluated in the context that is there. -/
theorem ask_of_loaded (h : s.loaded = some c.script) :
    s.ask c = c.evaluatedIn s.library s.context := by
  obtain ⟨library, context, loaded⟩ := s
  subst h
  rw [ask, evaluate, prepare, if_pos rfl]
  rfl

/-- Another script is evaluated in a fresh context. -/
theorem ask_of_fresh (h : s.loaded ≠ some c.script) (hfresh : c.interpreter.fresh = .ok context) :
    s.ask c = c.evaluatedIn s.library context := by
  rw [ask, evaluate, prepare, if_neg h, hfresh]
  rfl

/-- Without a fresh context the session stays as it was. -/
theorem ask_of_not_fresh (h : s.loaded ≠ some c.script)
    (hfresh : c.interpreter.fresh = .error reason) :
    s.ask c = (.error (.evaluation (.notRebuilt reason)), s, c.thread) := by
  rw [ask, evaluate, prepare, if_neg h, hfresh]

/-- What an evaluation fails with, the interpreter has failed with. -/
theorem result_of_evaluatedIn {fault : EvaluationFault}
    (h : (c.evaluatedIn library context).1 = .error (.evaluation fault)) :
    (c.interpreter.run context (c.thread.enter (library.pin c.thread.clock))
      (programText c.script c.url c.host)).result = .error fault := by
  rw [Call.evaluatedIn] at h
  revert h
  cases (c.interpreter.run context (c.thread.enter (library.pin c.thread.clock))
    (programText c.script c.url c.host)).result <;> simp [Except.mapError]

/-- A request evaluates its script in the context that is there or in a fresh one, or it leaves the
session as it was. -/
theorem session_ask_cases (s : Session Context) (c : Call Context) :
    (∃ context, s.ask c = c.evaluatedIn s.library context ∧
      (s.loaded = some c.script ∧ s.context = context ∨ c.interpreter.fresh = .ok context)) ∨
    (c.canBuild = false ∧ s.loaded ≠ some c.script ∧ (s.ask c).2.1 = s) := by
  by_cases hloaded : s.loaded = some c.script
  · exact .inl ⟨s.context, ask_of_loaded hloaded, .inl ⟨hloaded, rfl⟩⟩
  · cases hfresh : c.interpreter.fresh with
    | ok context => exact .inl ⟨context, ask_of_fresh hloaded hfresh, .inr rfl⟩
    | error reason =>
        refine .inr ⟨?_, hloaded, ?_⟩
        · rw [← Bool.not_eq_true, canBuild_iff, hfresh]
          exact nofun
        · rw [ask_of_not_fresh hloaded hfresh]

/-- Whether the clock of a library is pinned already makes no difference to an evaluation. -/
theorem evaluatedIn_of_release {other : Predicate.Library} (h : library.release = other.release) :
    c.evaluatedIn library context = c.evaluatedIn other context := by
  have hpin : library.pin c.thread.clock = other.pin c.thread.clock :=
    congrArg (fun l => l.pin c.thread.clock) h
  rw [Call.evaluatedIn, Call.evaluatedIn, hpin, h]

/-- No request changes the library, but for the clock that is pinned. -/
theorem release_ask (s : Session Context) (c : Call Context) :
    (s.ask c).2.1.library.release = s.library.release := by
  rcases session_ask_cases s c with ⟨context, hask, -⟩ | ⟨-, -, hsame⟩
  · rw [hask]
    rfl
  · rw [hsame]

/-- What is loaded is the script of the last request at which a fresh context could be built. -/
theorem loaded_ask (s : Session Context) (c : Call Context) :
    (s.ask c).2.1.loaded = if c.canBuild then some c.script else s.loaded := by
  rcases session_ask_cases s c with ⟨context, hask, hloaded | hfresh⟩ | ⟨hcannot, -, hsame⟩
  · rw [hask, hloaded.1, ite_self]
    rfl
  · rw [hask, canBuild_iff.mpr ⟨context, hfresh⟩, if_pos rfl]
    rfl
  · rw [hsame, hcannot]
    rfl

/-! ### A row of requests -/

theorem after_append (s : Session Context) (calls : List (Call Context)) (c : Call Context) :
    s.after (calls ++ [c]) = ((s.after calls).ask c).2.1 := by
  induction calls generalizing s with
  | nil => rfl
  | cons first rest ih => exact ih (s.ask first).2.1

theorem lastBuilt_append (calls : List (Call Context)) (c : Call Context) :
    lastBuilt (calls ++ [c]) = if c.canBuild then some c.script else lastBuilt calls := by
  cases hcan : c.canBuild with
  | true => simp [lastBuilt, hcan]
  | false => simp [lastBuilt, hcan]

theorem release_after (s : Session Context) (calls : List (Call Context)) :
    (s.after calls).library.release = s.library.release := by
  induction calls generalizing s with
  | nil => rfl
  | cons first rest ih => exact (ih _).trans (release_ask s first)

/-- A session that begins without a script has loaded the one for which the last context was built. -/
theorem loaded_after (h : s.loaded = none) (calls : List (Call Context)) :
    (s.after calls).loaded = lastBuilt calls := by
  induction calls using List.reverseRecOn with
  | nil => exact h
  | append_singleton rest c ih => rw [after_append, loaded_ask, lastBuilt_append, ih]

/-- A new session has its library and a fresh context, and no script. -/
theorem start_eq_ok_iff :
    start i library = .ok s ↔ ∃ context, i.fresh = .ok context ∧ ⟨library, context, none⟩ = s := by
  cases hfresh : i.fresh <;> simp [start, hfresh]

/-! ### A script that remembers -/

def plainInterpreter : Interpreter Machine := interpreter { turns := 1000, calls := 64 } .withoutServer

def newSession : Session Machine := { library := {}, context := Question.all.foldl Machine.bind .blank }

/-- A request to a script that answers one way the first time and another way after that. -/
def rememberingCall : Call Machine where
  interpreter := plainInterpreter
  thread := { clock := ⟨.midnight ⟨2026, 10, 19⟩, 0⟩ }
  script := "function FindProxyForURL(u) \x7b " ++
    "if (typeof s == 'string') return 'PROXY a:1'; s = u; return 'DIRECT' \x7d"
  url := "http://x/"
  host := "x"

/-- A request to a script that fails, but leaves something that the other one would notice. -/
def failingCall : Call Machine :=
  { rememberingCall with script := "var s = 'y'; function FindProxyForURL(u) \x7b throw u \x7d" }

/-- A request at whose time no context can be built. -/
def refusedCall : Call Machine :=
  { rememberingCall with interpreter := { plainInterpreter with bind := fun _ _ => .error "no room" } }

theorem start_plain : start plainInterpreter {} = .ok newSession := rfl

theorem ask_remembering : (newSession.ask rememberingCall).1 = .ok "DIRECT" := by
  decide +kernel

theorem ask_remembering_again :
    ((newSession.after [rememberingCall]).ask rememberingCall).1 = .ok "PROXY a:1" := by
  decide +kernel

/-! ### Another script -/

/-- Whatever a session has been asked before: a request with another script than that for which the last
context was built is evaluated in a fresh context, and if there is none the session stays as it was. That
script is the one of the request before, unless no context could be built for that either. -/
theorem ask_after_of_changed (hstart : start i library = .ok s) (calls : List (Call Context))
    (c : Call Context) :
    (lastBuilt calls ≠ some c.script →
      (∀ context, c.interpreter.fresh = .ok context →
        (s.after calls).ask c = c.evaluatedIn library context) ∧
      ∀ reason, c.interpreter.fresh = .error reason →
        (s.after calls).ask c = (.error (.evaluation (.notRebuilt reason)), s.after calls, c.thread)) ∧
    ∀ earlier b, calls = earlier ++ [b] → b.canBuild = true → lastBuilt calls = some b.script := by
  obtain ⟨empty, -, rfl⟩ := start_eq_ok_iff.mp hstart
  have hloaded : (after ⟨library, empty, none⟩ calls).loaded = lastBuilt calls := loaded_after rfl calls
  refine ⟨fun hchanged => ?_, ?_⟩
  · rw [← hloaded] at hchanged
    constructor
    · intro context hfresh
      rw [ask_of_fresh hchanged hfresh]
      exact evaluatedIn_of_release (release_after _ calls)
    · intro reason hfresh
      exact ask_of_not_fresh hchanged hfresh
  · rintro earlier b rfl hcan
    rw [lastBuilt_append, hcan, if_pos rfl]

/-- After another script it answers as if it had never been asked, even if the other one has failed; and
a request for which there is no context changes nothing. -/
theorem ask_after_of_changed_remembering :
    ((newSession.after [rememberingCall, failingCall]).ask rememberingCall).1 = .ok "DIRECT" ∧
      (newSession.after [failingCall]).ask refusedCall =
        (.error (.evaluation (.notRebuilt "no room")), newSession.after [failingCall],
          refusedCall.thread) := by
  have hchanged : failingCall.script ≠ rememberingCall.script := by decide
  have hlast : lastBuilt [rememberingCall, failingCall] ≠ some rememberingCall.script := by
    intro h
    exact hchanged (Option.some.inj h)
  constructor
  · obtain ⟨hevaluated, -⟩ :=
      (ask_after_of_changed start_plain [rememberingCall, failingCall] rememberingCall).1 hlast
    have hnew : newSession.ask rememberingCall = rememberingCall.evaluatedIn {} newSession.context :=
      ask_of_fresh nofun rfl
    rw [hevaluated newSession.context rfl, ← hnew, ask_remembering]
  · have hlast' : lastBuilt [failingCall] ≠ some refusedCall.script := by
      intro h
      exact hchanged (Option.some.inj h)
    exact ((ask_after_of_changed start_plain [failingCall] refusedCall).1 hlast').2 "no room" rfl

/-- A request with another script for which no context can be built. -/
def refusedChange : Call Machine := { refusedCall with script := failingCall.script }

/-- It is not enough that the request before had another script: if no context could be built for that one,
the script that was there before it goes on in the context that it has left. -/
theorem ask_after_refused_ne_fresh :
    start plainInterpreter {} = .ok newSession ∧ refusedChange.script ≠ rememberingCall.script ∧
      ((newSession.after [rememberingCall, refusedChange]).ask rememberingCall).1 = .ok "PROXY a:1" ∧
      ∃ context, rememberingCall.interpreter.fresh = .ok context ∧
        (rememberingCall.evaluatedIn {} context).1 = .ok "DIRECT" ∧
        (newSession.after [rememberingCall, refusedChange]).ask rememberingCall ≠
          rememberingCall.evaluatedIn {} context := by
  have hchanged : refusedChange.script ≠ rememberingCall.script := by decide
  have hrefused : newSession.after [rememberingCall, refusedChange] = newSession.after [rememberingCall] := by
    have hloaded : (newSession.after [rememberingCall]).loaded ≠ some refusedChange.script := by
      rw [loaded_after rfl]
      exact fun h => hchanged (Option.some.inj h).symm
    exact (after_append newSession [rememberingCall] refusedChange).trans
      (congrArg (fun answer => answer.2.1) (ask_of_not_fresh hloaded rfl))
  have hnew : newSession.ask rememberingCall = rememberingCall.evaluatedIn {} newSession.context :=
    ask_of_fresh nofun rfl
  refine ⟨start_plain, hchanged, ?_, newSession.context, rfl, ?_, ?_⟩
  · rw [hrefused, ask_remembering_again]
  · rw [← hnew, ask_remembering]
  · intro h
    have hanswer := congrArg Prod.fst h
    rw [hrefused, ask_remembering_again, ← hnew, ask_remembering] at hanswer
    exact absurd hanswer (by decide)

/-! ### The same script -/

/-- Contexts that a script cannot tell apart: a fresh one is among them, its evaluations leave one of
them behind, and they answer the same in all of them. -/
structure Forgets (i : Interpreter Context) (script : String) (alike : Context → Prop) : Prop where
  fresh {context : Context} : i.fresh = .ok context → alike context
  kept {context : Context} (thread : Thread) (url host : String) :
    alike context → alike (i.run context thread (programText script url host)).context
  answer {context other : Context} (thread : Thread) (url host : String) :
    alike context → alike other →
    (i.run context thread (programText script url host)).result =
      (i.run other thread (programText script url host)).result

/-- If the script is loaded, the context is one of those that it cannot tell apart. -/
def Unnoticed (s : Session Context) (script : String) (alike : Context → Prop) : Prop :=
  s.loaded = some script → alike s.context

variable {alike : Context → Prop} {script : String}

/-- If what is there is unnoticed, a request is evaluated in a context that its script cannot tell from a
fresh one. -/
theorem Unnoticed.exists_context (hs : s.Unnoticed c.script alike)
    (hforgets : Forgets c.interpreter c.script alike) (hcan : c.canBuild = true) :
    ∃ context, alike context ∧ s.ask c = c.evaluatedIn s.library context := by
  rcases session_ask_cases s c with ⟨context, hask, ⟨hloaded, rfl⟩ | hfresh⟩ | ⟨hcannot, -⟩
  · exact ⟨s.context, hs hloaded, hask⟩
  · exact ⟨context, hforgets.fresh hfresh, hask⟩
  · rw [hcan] at hcannot
    cases hcannot

/-- A request leaves nothing behind that a script would notice, if there was nothing such before. -/
theorem Unnoticed.ask (hs : s.Unnoticed script alike) (hforgets : Forgets b.interpreter script alike)
    (hcan : b.canBuild = true) : (s.ask b).2.1.Unnoticed script alike := by
  intro hloaded
  rw [loaded_ask, hcan, if_pos rfl] at hloaded
  obtain rfl : b.script = script := Option.some.inj hloaded
  obtain ⟨context, hcontext, hask⟩ := hs.exists_context hforgets hcan
  rw [hask]
  exact hforgets.kept _ _ _ hcontext

theorem Unnoticed.after (hs : s.Unnoticed script alike) (hforgets : Forgets i script alike)
    (hcalls : ∀ b ∈ calls, b.interpreter = i) (hcan : ∀ b ∈ calls, b.canBuild = true) :
    (s.after calls).Unnoticed script alike := by
  induction calls generalizing s with
  | nil => exact hs
  | cons first rest ih =>
      rw [List.forall_mem_cons] at hcalls hcan
      exact ih (hs.ask (hcalls.1 ▸ hforgets) hcan.1) hcalls.2 hcan.2

/-- An interpreter whose contexts count the programs that have been run, and that shows no script how
many they are. -/
def countingInterpreter : Interpreter Nat where
  blank := 0
  bind := fun n _ => .ok n
  run := fun n thread text => ⟨.ok text, n + 1, thread⟩

end AutoProxy.Script.Session
