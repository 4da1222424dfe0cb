import Mathlib.Logic.Relation
import AutoProxy.Proofs.Url.Host
import AutoProxy.Resolver

/-!
Requests that are not put to the script. Such a request is answered at once: nothing is read and
nothing is evaluated, whatever the evaluator does (`select_of_bypasses`). Any other request makes the
resolver load its script (`select_of_not_bypasses`). Lookups follow one another in any order, and whoever
shares the source may load or invalidate it in between; whatever happens, the location of the script and the
choice of requests that are not put to it stay as they are (`reachable_frame`).

A request to the very host that serves the script is kept from it when that host is a domain or an
address of version four (`servesScript_bareText_iff`). For version six the host of the script is taken with
its brackets and the host of the request without them, so that only a mention in the text of the script
can keep the request away (`selectUrl_ofServer_iff`).
-/

namespace AutoProxy

/-! ## Runs -/

open Calendar

theorem Source.location_load (s : Source) (outside : Outside) (clock : Instant) :
    (s.load outside clock).2.location = s.location := by
  unfold load
  dsimp only
  split
  · rfl
  · split <;> rfl

namespace Resolver

variable {E : Type} {evaluator : Evaluator E} {start r r' : Resolver E}

/-- What can happen to a resolver. -/
inductive Turn (evaluator : Evaluator E) : Resolver E → Resolver E → Prop where
  | select (r : Resolver E) (outside : Outside) (clock : Instant) (request : Request) :
      Turn evaluator r (r.select evaluator outside clock request).2
  | selectUrl (r : Resolver E) (outside : Outside) (clock : Instant) (url : String) :
      Turn evaluator r (r.selectUrl evaluator outside clock url).2
  | load (r : Resolver E) (outside : Outside) (clock : Instant) :
      Turn evaluator r { r with source := (r.source.load outside clock).2 }
  | invalidate (r : Resolver E) : Turn evaluator r { r with source := r.source.invalidate }

/-- The resolvers to which turns lead from a first one. -/
def Reachable (evaluator : Evaluator E) (start r : Resolver E) : Prop :=
  Relation.ReflTransGen (Turn evaluator) start r

/-- A lookup keeps the location of the script and the policy. -/
theorem select_frame (r : Resolver E) (outside : Outside) (clock : Instant) (request : Request) :
    (r.select evaluator outside clock request).2.source.location = r.source.location ∧
      (r.select evaluator outside clock request).2.bypass = r.bypass := by
  have hlocation := Source.location_load r.source outside clock
  unfold select
  dsimp only
  split
  · exact ⟨rfl, rfl⟩
  split
  · exact ⟨rfl, rfl⟩
  split
  all_goals
    next hload =>
      rw [hload] at hlocation
      exact ⟨hlocation, rfl⟩

/-- A turn keeps the location of the script and the policy. -/
theorem turn_frame (h : Turn evaluator r r') :
    r'.source.location = r.source.location ∧ r'.bypass = r.bypass := by
  cases h with
  | select outside clock request => exact select_frame r outside clock request
  | selectUrl outside clock url =>
      unfold selectUrl
      split
      · exact ⟨rfl, rfl⟩
      · exact select_frame r outside clock _
  | load outside clock => exact ⟨Source.location_load r.source outside clock, rfl⟩
  | invalidate => exact ⟨rfl, rfl⟩

/-- So does a run. -/
theorem reachable_frame (h : Reachable evaluator start r) :
    r.source.location = start.source.location ∧ r.bypass = start.bypass := by
  induction h with
  | refl => exact ⟨rfl, rfl⟩
  | tail _ hturn ih =>
      obtain ⟨hlocation, hbypass⟩ := turn_frame hturn
      exact ⟨hlocation.trans ih.1, hbypass.trans ih.2⟩

end Resolver

end AutoProxy

/-! ## Requests that are not put to the script -/

namespace AutoProxy.Resolver

open Calendar Text

variable {E : Type} {start r : Resolver E} {request : Request}

/-- A request that is not put to the script changes nothing but the counts. -/
theorem select_of_bypasses (evaluator : Evaluator E) (outside : Outside) (clock : Instant)
    (hblank : isBlankString request.host = false) (h : r.bypasses request.host = true) :
    r.select evaluator outside clock request =
      (.returned (.ok (.noDecision .bypassed)), { r with tally := r.tally.resolution.bypass }) := by
  have h' : bypasses { r with tally := r.tally.resolution } request.host = true := h
  simp [select, hblank, h']

/-- Any other request loads the script, and does not end as one that is not put to it. -/
theorem select_of_not_bypasses (evaluator : Evaluator E) (outside : Outside) (clock : Instant)
    (hblank : isBlankString request.host = false) (h : r.bypasses request.host = false) :
    (r.select evaluator outside clock request).1 ≠ .returned (.ok (.noDecision .bypassed)) ∧
      (r.select evaluator outside clock request).2.source = (r.source.load outside clock).2 := by
  have h' : bypasses { r with tally := r.tally.resolution } request.host = false := h
  cases hload : r.source.load outside clock with
  | mk result source =>
      cases result with
      | error fault => cases fault <;> simp [select, hblank, h', hload]
      | ok script =>
          cases hanswer : (evaluator.evaluate r.engine clock script request.url request.host).1 with
          | error fault =>
              cases hfault : fault.isEvaluation <;>
                simp [select, hblank, h', hload, hanswer, judge, hfault]
          | ok text => simp [select, hblank, h', hload, hanswer, judge]

/-! ### The server of the script -/

/-- A host that serves the script is taken for its server exactly if it is not of version six. -/
theorem servesScript_bareText_iff {u : Url} {host : Host} (hlocation : r.source.location = .remote u)
    (hhost : u.host? = some host) :
    r.servesScript host.bareText = true ↔ ∀ a, u.host? ≠ some (.v6 a) := by
  rw [servesScript, hlocation, Location.remoteHost?, hhost, Option.map_some, Option.any_some,
    Host.sameWord_toText_bareText_iff]
  simp

/-- Whether a resolver knows the host of an address for the server of the script that lies there: the
host is no address of version six, or mentions count and the text that is kept has one. -/
def KnowsServer (r : Resolver E) (u : Url) (host : String) : Prop :=
  (∀ a, u.host? ≠ some (.v6 a)) ∨ (r.bypass = .scriptText ∧ r.mentions host = true)

/-- A request to the host that serves the script is answered at once, without a look at the source or
a word to the evaluator, exactly if the resolver knows that host for the server; otherwise the script
is loaded for it. This holds in every state that the resolver can reach. -/
theorem selectUrl_ofServer_iff {s v : String} {u w : Url} {evaluator : Evaluator E}
    (hs : Location.ofText s = .ok (.remote u)) (hstart : Location.ofText s = .ok start.source.location)
    (hreachable : Reachable evaluator start r) (hrequest : Request.ofUrl v = .ok request)
    (hw : Url.ofText v = .ok w) (hhost : w.host? = u.host?) (outside : Outside) (clock : Instant) :
    (r.selectUrl evaluator outside clock v =
        (.returned (.ok (.noDecision .bypassed)), { r with tally := r.tally.resolution.bypass }) ↔
      r.KnowsServer u request.host) ∧
    (¬ r.KnowsServer u request.host →
      (r.selectUrl evaluator outside clock v).1 ≠ .returned (.ok (.noDecision .bypassed)) ∧
        (r.selectUrl evaluator outside clock v).2.source = (r.source.load outside clock).2) := by
  obtain ⟨hlocation, -⟩ := reachable_frame hreachable
  rw [hs] at hstart
  obtain ⟨w', host, hw', hname, htext, hblank⟩ := Request.host_of_ofUrl hrequest
  obtain rfl : w' = w := by
    rw [hw] at hw'
    cases hw'
    rfl
  have hserves := servesScript_bareText_iff (r := r)
    (hlocation.trans (Except.ok.inj hstart).symm) (hhost.symm.trans hname)
  have hknows : r.KnowsServer u request.host ↔ r.bypasses request.host = true := by
    rw [KnowsServer, ← hserves, ← htext, bypasses, Bool.or_eq_true]
    cases r.bypass <;> simp
  have hselect : r.selectUrl evaluator outside clock v =
      r.select evaluator outside clock request := by
    rw [selectUrl, hrequest]
  rw [hselect, hknows]
  cases hcase : r.bypasses request.host with
  | true => simp [select_of_bypasses evaluator outside clock hblank hcase]
  | false =>
      have hother := select_of_not_bypasses evaluator outside clock hblank hcase
      refine ⟨⟨fun heq => absurd (congrArg Prod.fst heq) hother.1, fun h => absurd h (by simp)⟩, ?_⟩
      exact fun _ => hother

/-- The address of a script on a host of version six. -/
def loopbackScript : Url :=
  { scheme := "http"
    authority := some { host := some (.v6 ⟨[0, 0, 0, 0, 0, 0, 0, 1], rfl⟩) }
    path := .names ["proxy.pac"] }

/-- A server that answers every request with the same text. -/
def serving (text : String) : Outside :=
  { read := fun _ => .error .notFound
    transport := fun _ => some { status := 200, headers := [], body := Utf8.encode text.toList } }

def answering (text : String) : Evaluator Unit :=
  { evaluate := fun engine _ _ _ _ => (.ok text, Span.zero, engine) }

/-- A resolver for that script, to which mentions count. -/
def loopbackResolver : Resolver Unit :=
  { source := { location := .remote loopbackScript }, engine := (), bypass := .scriptText }

/-- The resolver after it has loaded a script that mentions its own host. -/
def loadedResolver : Resolver Unit :=
  { loopbackResolver with
    source := (loopbackResolver.source.load (serving "if (host == '::1')")
      ⟨.midnight ⟨2026, 1, 1⟩, 0⟩).2 }

/-- Once the script mentions its own host, requests to that host are kept from it. -/
theorem selectUrl_ofServer_mentioned :
    Reachable (answering "DIRECT") loopbackResolver loadedResolver ∧
      loadedResolver.selectUrl (answering "DIRECT") (serving "") ⟨.midnight ⟨2026, 1, 2⟩, 0⟩
          "https://[::1]:8443/" =
        (.returned (.ok (.noDecision .bypassed)),
          { loadedResolver with tally := loadedResolver.tally.resolution.bypass }) := by
  have hreachable : Reachable (answering "DIRECT") loopbackResolver loadedResolver :=
    .single (.load loopbackResolver _ _)
  refine ⟨hreachable, ?_⟩
  have hs : Location.ofText "http://[::1]/proxy.pac" = .ok (.remote loopbackScript) := by decide
  have hknows : loadedResolver.KnowsServer loopbackScript "::1" := Or.inr ⟨rfl, by decide⟩
  exact (selectUrl_ofServer_iff hs hs hreachable
    (show Request.ofUrl "https://[::1]:8443/" = .ok ⟨"https://[::1]:8443/", "::1"⟩ by decide)
    (show Url.ofText "https://[::1]:8443/" = .ok _ from rfl) rfl _ _).1.mpr hknows

/-- A resolver for a script on a host of version six puts a request to that very host to the script: it
begins to load it, which fails where nothing can be reached. -/
theorem selectUrl_ofServer_v6 :
    ∃ r, ofSettings { script := { source := some "http://[::1]/proxy.pac" }, bypass := .sourceHost }
        Lookup.withoutServer = .ok r ∧
      (r.selectUrl Script.Engine.evaluator
          { read := fun _ => .error .notFound, transport := fun _ => none }
          ⟨.midnight ⟨2026, 1, 1⟩, 0⟩ "http://[::1]/").1 =
        .returned (.error (.fetch (.web loopbackScript (.unreachable loopbackScript)))) :=
  ⟨_, rfl, rfl⟩

end AutoProxy.Resolver
