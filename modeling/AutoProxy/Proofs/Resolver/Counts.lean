import Mathlib.Algebra.Ring.Nat
import AutoProxy.Proofs.Resolver.Law
import AutoProxy.Tally

/-!
What a resolver has counted after a run of lookups. Each way in which a lookup can go counts what it is
(`Counted.lookup`), hence a run has counted every lookup once for what it was (`counted_of_run`). As long
as no counter has been rounded, the counts balance: each lookup that was counted is answered, undecided or
not loaded (`balanced_of_run`). This is so for engines, and for every other evaluator that fails in the
evaluation or not at all.

Counts are kept in words and in doubles. A double holds every number up to a limit; a sum beyond it is
rounded, but never back below the limit. Hence a counter that shows less than the limit has not been
rounded at all, and shows what has been counted (`Tracks.lt_of_counter_lt`, `Tracks.eq_of_lt`).

Only lookups that come to an end are counted here. One that asks for an instant outside the calendar does
not.
-/

namespace AutoProxy.Tally

/-! ## Words and doubles -/

/-- Below this number every number is a double: 53 binary digits. -/
def exactLimit : Nat := 9007199254740992

theorem nearestDouble_of_lt {n : Nat} (h : n < exactLimit) : nearestDouble n = n := by
  have hlog : n.log2 + 1 - 53 = 0 := by
    by_cases hn : n = 0
    · subst hn
      decide
    · have : n.log2 < 53 := (Nat.log2_lt hn).mpr h
      omega
  simp [nearestDouble, hlog, Nat.mod_one]

/-- What is rounded stays beyond the limit. -/
theorem exactLimit_le_nearestDouble {n : Nat} (h : exactLimit ≤ n) : exactLimit ≤ nearestDouble n := by
  have hn : n ≠ 0 := by
    rintro rfl
    exact absurd h (by decide)
  have hlog : 53 ≤ n.log2 := (Nat.le_log2 hn).mpr h
  obtain ⟨k, hk⟩ : ∃ k, n.log2 + 1 - 53 = k := ⟨_, rfl⟩
  have hunit : 0 < Nat.pow 2 k := Nat.two_pow_pos k
  have hsplit : Nat.pow 2 n.log2 = Nat.pow 2 52 * Nat.pow 2 k := by
    have hsum : n.log2 = 52 + k := by omega
    rw [hsum]
    exact Nat.pow_add 2 52 k
  -- 53 digits of the number are kept, and rounding does not lower them
  have hkept : exactLimit ≤ n / Nat.pow 2 k * Nat.pow 2 k := by
    have hquotient : Nat.pow 2 52 ≤ n / Nat.pow 2 k := by
      apply (Nat.le_div_iff_mul_le hunit).mpr
      rw [← hsplit]
      exact Nat.log2_self_le hn
    calc exactLimit ≤ Nat.pow 2 n.log2 := Nat.pow_le_pow_right Nat.two_pos hlog
      _ = Nat.pow 2 52 * Nat.pow 2 k := hsplit
      _ ≤ n / Nat.pow 2 k * Nat.pow 2 k := Nat.mul_le_mul_right _ hquotient
  simp only [nearestDouble, hk]
  split
  · rw [Nat.add_mul]
    omega
  · exact hkept

/-- Rounding does not change what a number is as far as the limit. -/
theorem min_nearestDouble (n : Nat) : min (nearestDouble n) exactLimit = min n exactLimit := by
  by_cases h : n < exactLimit
  · rw [nearestDouble_of_lt h]
  · have := exactLimit_le_nearestDouble (Nat.le_of_not_lt h)
    omega

/-- A word and a counter that have counted up to a number. The word is exact but for whole turns, the
counter is exact as far as the limit. -/
structure Tracks (n : Nat) (word : UInt64) (counter : Nat) : Prop where
  word_eq : word = UInt64.ofNat n
  counter_eq : min counter exactLimit = min n exactLimit

variable {n : Nat} {word : UInt64} {counter : Nat}

theorem tracks_zero : Tracks 0 0 0 := ⟨rfl, rfl⟩

theorem Tracks.add (h : Tracks n word counter) (k : Nat) :
    Tracks (n + k) (word + UInt64.ofNat k) (plus counter k) := by
  refine ⟨?_, ?_⟩
  · rw [h.word_eq, UInt64.ofNat_add]
  · have hsum := min_nearestDouble (counter + nearestDouble k)
    have hk := min_nearestDouble k
    have hcounter := h.counter_eq
    rw [plus]
    omega

/-- Below the limit the word and the counter both show what has been counted. -/
theorem Tracks.eq_of_lt (h : Tracks n word counter) (hn : n < exactLimit) :
    word.toNat = n ∧ counter = n := by
  constructor
  · rw [h.word_eq]
    exact UInt64.toNat_ofNat_of_lt' (Nat.lt_trans hn (by decide))
  · have hcounter := h.counter_eq
    omega

/-- A counter shows less than the limit only if there is no more to count. -/
theorem Tracks.lt_of_counter_lt (h : Tracks n word counter) (hcounter : counter < exactLimit) :
    n < exactLimit := by
  have := h.counter_eq
  omega

end AutoProxy.Tally

/-! ## Lookups -/

namespace AutoProxy

open Calendar Text Tally

namespace Resolver

variable {E : Type} {evaluator : Evaluator E} {start r after : Resolver E} {outside : Outside}
  {clock : Instant} {request : Request} {result : Except ResolutionFault Selection}

/-! ### Runs -/

/-- A question to a resolver, with the world outside and the clock that it meets. -/
inductive Inquiry where
  | select (outside : Outside) (clock : Instant) (request : Request)
  | selectUrl (outside : Outside) (clock : Instant) (url : String)

/-- How the lookup for an inquiry ends, and the resolver afterwards. -/
def inquire (evaluator : Evaluator E) (r : Resolver E) : Inquiry → Conclusion × Resolver E
  | .select outside clock request => r.select evaluator outside clock request
  | .selectUrl outside clock url => r.selectUrl evaluator outside clock url

/-- The answer of the script to a request, if it is put to it and there is one. -/
def scriptAnswer? (evaluator : Evaluator E) (r : Resolver E) (outside : Outside) (clock : Instant)
    (request : Request) : Option String :=
  if isBlankString request.host || r.bypasses request.host then none
  else
    match (r.source.load outside clock).1 with
    | .ok script => (evaluator.evaluate r.engine clock script request.url request.host).1.toOption
    | .error _ => none

def answerOf? (evaluator : Evaluator E) (r : Resolver E) : Inquiry → Option String
  | .select outside clock request => r.scriptAnswer? evaluator outside clock request
  | .selectUrl outside clock url =>
    (Request.ofUrl url).toOption.bind (r.scriptAnswer? evaluator outside clock)

/-- A lookup that has ended: what it returned, and the answer of the script if it got one. -/
structure Ended where
  result : Except ResolutionFault Selection
  answer : Option String

/-- A run of lookups that all come to an end. In between, others with whom the resolver shares its source
may have done anything to it. -/
inductive Run (evaluator : Evaluator E) (start : Resolver E) : List Ended → Resolver E → Prop where
  | start : Run evaluator start [] start
  | inquiry {ended : List Ended} {r : Resolver E} {result : Except ResolutionFault Selection}
      (q : Inquiry) :
      Run evaluator start ended r → (r.inquire evaluator q).1 = .returned result →
      Run evaluator start (ended ++ [⟨result, r.answerOf? evaluator q⟩]) (r.inquire evaluator q).2
  | source {ended : List Ended} {r : Resolver E} (source : Source) :
      Run evaluator start ended r → Run evaluator start ended { r with source }

namespace Ended

/-- A lookup that was begun: there was a request with a host. -/
def isBegun (e : Ended) : Bool :=
  match e.result with
  | .error (.validation _) => false
  | _ => true

def isBypassed (e : Ended) : Bool :=
  match e.result with
  | .ok (.noDecision .bypassed) => true
  | _ => false

def isFailed (e : Ended) : Bool :=
  match e.result with
  | .ok (.noDecision (.evaluationFailed _)) => true
  | _ => false

/-- The lookup was begun and has failed; this is so when the script could not be loaded. -/
def isUnloaded (e : Ended) : Bool :=
  match e.result with
  | .ok _ | .error (.validation _) => false
  | .error _ => true

def isUndecided (e : Ended) : Bool := e.isBypassed || e.isFailed

def isAnswered (e : Ended) : Bool :=
  match e.result with
  | .ok (.proxies _) => true
  | _ => false

/-- The number of segments of the answer that were set aside. -/
def rejections (e : Ended) : Nat :=
  (e.answer.map fun text => (Answer.ofText text).rejected.length).getD 0

end Ended

/-! ### Totals -/

/-- What there is to count after a run. -/
def totals (ended : List Ended) : Counters where
  resolutions := ended.countP Ended.isBegun
  bypassed := ended.countP Ended.isBypassed
  noDecisions := ended.countP Ended.isUndecided
  fetchFailures := ended.countP Ended.isUnloaded
  evaluationFailures := ended.countP Ended.isFailed
  rejected := (ended.map Ended.rejections).sum

theorem totals_concat (ended : List Ended) (e : Ended) :
    totals (ended ++ [e]) =
      { resolutions := (totals ended).resolutions + if e.isBegun then 1 else 0
        bypassed := (totals ended).bypassed + if e.isBypassed then 1 else 0
        noDecisions := (totals ended).noDecisions + if e.isUndecided then 1 else 0
        fetchFailures := (totals ended).fetchFailures + if e.isUnloaded then 1 else 0
        evaluationFailures := (totals ended).evaluationFailures + if e.isFailed then 1 else 0
        rejected := (totals ended).rejected + e.rejections } := by
  simp [totals, List.countP_append, List.countP_singleton]

/-- A lookup without a decision was not put to the script, or the script has failed. And every lookup
that was begun is answered, or is without a decision, or could not load the script. -/
theorem totals_balance (ended : List Ended) :
    (totals ended).noDecisions = (totals ended).bypassed + (totals ended).evaluationFailures ∧
      (totals ended).resolutions =
        ended.countP Ended.isAnswered + (totals ended).noDecisions + (totals ended).fetchFailures := by
  induction ended with
  | nil => exact ⟨rfl, rfl⟩
  | cons e rest ih =>
      obtain ⟨result, answer⟩ := e
      simp only [totals, List.countP_cons] at ih ⊢
      rcases result with (_ | _ | _ | _ | _) | (_ | (_ | _)) <;>
        simp only [Ended.isBegun, Ended.isBypassed, Ended.isFailed, Ended.isUndecided,
          Ended.isUnloaded, Ended.isAnswered, Bool.or_false, Bool.or_true,
          if_true, if_false, Bool.false_eq_true] <;> omega

end Resolver

/-! ### Events -/

namespace Tally

/-- A tally that has counted so much. -/
structure Counted (n : Counters) (t : Tally) : Prop where
  resolutions : Tracks n.resolutions t.counts.resolutions t.counters.resolutions
  bypassed : Tracks n.bypassed t.counts.bypassed t.counters.bypassed
  noDecisions : Tracks n.noDecisions t.counts.noDecisions t.counters.noDecisions
  fetchFailures : Tracks n.fetchFailures t.counts.fetchFailures t.counters.fetchFailures
  evaluationFailures :
    Tracks n.evaluationFailures t.counts.evaluationFailures t.counters.evaluationFailures
  rejected : Tracks n.rejected t.counts.rejected t.counters.rejected

namespace Counted

variable {n : Counters} {t : Tally}

theorem resolution (h : Counted n t) :
    Counted { n with resolutions := n.resolutions + 1 } t.resolution := by
  constructor <;> dsimp only [Tally.resolution]
  exacts [h.resolutions.add 1, h.bypassed, h.noDecisions, h.fetchFailures, h.evaluationFailures,
    h.rejected]

theorem bypass (h : Counted n t) :
    Counted { n with bypassed := n.bypassed + 1, noDecisions := n.noDecisions + 1 } t.bypass := by
  constructor <;> dsimp only [Tally.bypass, Tally.noDecision]
  exacts [h.resolutions, h.bypassed.add 1, h.noDecisions.add 1, h.fetchFailures,
    h.evaluationFailures, h.rejected]

theorem fetchFailure (h : Counted n t) :
    Counted { n with fetchFailures := n.fetchFailures + 1 } t.fetchFailure := by
  constructor <;> dsimp only [Tally.fetchFailure]
  exacts [h.resolutions, h.bypassed, h.noDecisions, h.fetchFailures.add 1, h.evaluationFailures,
    h.rejected]

theorem evaluationFailure (h : Counted n t) :
    Counted { n with
      evaluationFailures := n.evaluationFailures + 1, noDecisions := n.noDecisions + 1 }
      t.evaluationFailure := by
  constructor <;> dsimp only [Tally.evaluationFailure, Tally.noDecision]
  exacts [h.resolutions, h.bypassed, h.noDecisions.add 1, h.fetchFailures,
    h.evaluationFailures.add 1, h.rejected]

theorem setAside (h : Counted n t) (count : Nat) :
    Counted { n with rejected := n.rejected + count } (t.rejected count) := by
  unfold Tally.rejected
  split
  · next hnone =>
    subst hnone
    exact h
  · constructor <;> dsimp only
    exacts [h.resolutions, h.bypassed, h.noDecisions, h.fetchFailures, h.evaluationFailures,
      h.rejected.add count]

theorem observe (h : Counted n t) (s : Span) : Counted n (t.observe s) := { h with }

end Counted

end Tally

namespace Resolver

variable {E : Type} {evaluator : Evaluator E} {start r after : Resolver E} {outside : Outside}
  {clock : Instant} {request : Request} {result : Except ResolutionFault Selection}

/-! ### Lookups -/

theorem scriptAnswer?_of_not_put (h : trimmed request.host = "" ∨ r.bypasses request.host = true) :
    r.scriptAnswer? evaluator outside clock request = none := by
  rw [← isBlankString_iff, ← Bool.or_eq_true] at h
  rw [scriptAnswer?, if_pos h]

theorem scriptAnswer?_of_unloaded {fault : LoadFault} {source : Source}
    (hload : r.source.Answers (.load outside clock) (.script (.error fault)) source) :
    r.scriptAnswer? evaluator outside clock request = none := by
  rw [scriptAnswer?, load_eq_iff.mpr hload]
  exact ite_self none

theorem scriptAnswer?_of_evaluated {script : String} {source : Source}
    {answer : Except ResolutionFault String} {elapsed : Span} {engine : E}
    (hhost : trimmed request.host ≠ "") (hbypass : r.bypasses request.host = false)
    (hload : r.source.Answers (.load outside clock) (.script (.ok script)) source)
    (hanswer : evaluator.evaluate r.engine clock script request.url request.host =
      (answer, elapsed, engine)) :
    r.scriptAnswer? evaluator outside clock request = answer.toOption := by
  have hput : ¬ (isBlankString request.host || r.bypasses request.host) = true := by
    rw [hbypass, Bool.or_false, isBlankString_iff]
    exact hhost
  rw [scriptAnswer?, if_neg hput, load_eq_iff.mpr hload]
  simp only [hanswer]

/-- A lookup counts what it is. -/
theorem counted_of_selects {ended : List Ended} (h : Counted (totals ended) r.tally)
    (hselects : r.Selects evaluator outside clock request (.returned result) after) :
    Counted (totals (ended ++ [⟨result, r.scriptAnswer? evaluator outside clock request⟩]))
      after.tally := by
  rw [totals_concat]
  cases hselects with
  | refused hhost =>
      rw [scriptAnswer?_of_not_put (.inl hhost)]
      exact h
  | bypassed _ hbypass =>
      rw [scriptAnswer?_of_not_put (.inr hbypass)]
      exact h.resolution.bypass
  | unloaded _ _ hload _ =>
      rw [scriptAnswer?_of_unloaded hload]
      exact h.resolution.fetchFailure
  | undecided hhost hbypass hload hanswer =>
      rw [scriptAnswer?_of_evaluated hhost hbypass hload hanswer]
      exact (h.resolution.observe _).evaluationFailure
  | decided hhost hbypass hload hanswer =>
      rw [scriptAnswer?_of_evaluated hhost hbypass hload hanswer]
      exact (h.resolution.observe _).setAside _

/-- A lookup has candidates exactly if the script has answered, and then they are those of the answer. -/
theorem proxies_iff_of_selects
    (hselects : r.Selects evaluator outside clock request (.returned result) after)
    (candidates : List Candidate) :
    result = .ok (.proxies candidates) ↔
      ∃ text, r.scriptAnswer? evaluator outside clock request = some text ∧
        (Answer.ofText text).candidates = candidates := by
  cases hselects with
  | refused hhost => simp [scriptAnswer?_of_not_put (.inl hhost)]
  | bypassed _ hbypass => simp [scriptAnswer?_of_not_put (.inr hbypass)]
  | unloaded _ _ hload _ => simp [scriptAnswer?_of_unloaded hload]
  | undecided hhost hbypass hload hanswer =>
      simp [scriptAnswer?_of_evaluated hhost hbypass hload hanswer, Except.toOption]
  | decided hhost hbypass hload hanswer =>
      simp [scriptAnswer?_of_evaluated hhost hbypass hload hanswer, Except.toOption]

/-! ### Runs -/

/-- What a lookup returned fits the answer of the script. -/
def Ended.IsOfAnswer (e : Ended) : Prop :=
  ∀ candidates, e.result = .ok (.proxies candidates) ↔
    ∃ text, e.answer = some text ∧ (Answer.ofText text).candidates = candidates

theorem counted_of_inquiry (hevaluator : evaluator.FailsInEvaluation) {ended : List Ended}
    (h : Counted (totals ended) r.tally) (q : Inquiry)
    (hreturned : (r.inquire evaluator q).1 = .returned result) :
    Counted (totals (ended ++ [⟨result, r.answerOf? evaluator q⟩])) (r.inquire evaluator q).2.tally ∧
      Ended.IsOfAnswer ⟨result, r.answerOf? evaluator q⟩ := by
  have hlawful {outside : Outside} {clock : Instant} {request : Request}
      (hreturned : (r.select evaluator outside clock request).1 = .returned result) :
      r.Selects evaluator outside clock request (.returned result)
        (r.select evaluator outside clock request).2 :=
    (select_eq_iff hevaluator).mp (Prod.ext hreturned rfl)
  cases q with
  | select outside clock request =>
      have hselects := hlawful hreturned
      exact ⟨counted_of_selects h hselects, proxies_iff_of_selects hselects⟩
  | selectUrl outside clock url =>
      cases hrequest : Request.ofUrl url with
      | error fault =>
          -- the address is refused before anything is counted
          rw [totals_concat]
          simp only [inquire, selectUrl, hrequest, Conclusion.returned.injEq] at hreturned
          subst hreturned
          simp only [inquire, selectUrl, answerOf?, hrequest]
          exact ⟨h, fun candidates => by simp [Except.toOption]⟩
      | ok request =>
          simp only [inquire, selectUrl, hrequest] at hreturned
          have hselects := hlawful hreturned
          simp only [inquire, selectUrl, answerOf?, hrequest]
          exact ⟨counted_of_selects h hselects, proxies_iff_of_selects hselects⟩

/-- A run counts every lookup for what it is. -/
theorem counted_of_run (hevaluator : evaluator.FailsInEvaluation) {ended : List Ended}
    (h : Run evaluator start ended r)
    (hstart : Counted (totals []) start.tally) :
    Counted (totals ended) r.tally ∧ ∀ e ∈ ended, e.IsOfAnswer := by
  induction h with
  | start => exact ⟨hstart, List.forall_mem_nil _⟩
  | inquiry q _ hreturned ih =>
      obtain ⟨hnow, hlast⟩ := counted_of_inquiry hevaluator ih.1 q hreturned
      refine ⟨hnow, ?_⟩
      rw [List.forall_mem_append]
      exact ⟨ih.2, List.forall_mem_singleton.mpr hlast⟩
  | source _ _ ih => exact ih

/-- The counts as they are exported. -/
def exported (c : Counts) : Counters where
  resolutions := c.resolutions.toNat
  bypassed := c.bypassed.toNat
  noDecisions := c.noDecisions.toNat
  fetchFailures := c.fetchFailures.toNat
  evaluationFailures := c.evaluationFailures.toNat
  rejected := c.rejected.toNat

/-- The counts balance, and they are those of the lookups that have ended. -/
structure Balanced (t : Tally) (ended : List Ended) : Prop where
  noDecisions :
    t.counts.noDecisions.toNat = t.counts.bypassed.toNat + t.counts.evaluationFailures.toNat
  /-- Neither of the differences that make up the number of answers is cut off at zero. -/
  uncut : t.counts.noDecisions.toNat + t.counts.fetchFailures.toNat ≤ t.counts.resolutions.toNat
  resolutions :
    t.counts.resolutions.toNat =
      t.counts.answered + t.counts.noDecisions.toNat + t.counts.fetchFailures.toNat
  answered : t.counts.answered = ended.countP Ended.isAnswered
  rejected : t.counts.rejected.toNat = (ended.map Ended.rejections).sum
  exported : t.counters = exported t.counts

/-- A tally that has counted a run balances as long as the counters of the lookups and of the segments
set aside have not come to the limit; no other counter is ahead of them. -/
theorem balanced_of_counted {ended : List Ended} {t : Tally} (h : Counted (totals ended) t)
    (hresolutions : t.counters.resolutions < exactLimit)
    (hrejected : t.counters.rejected < exactLimit) : Balanced t ended := by
  obtain ⟨hundecided, hbalance⟩ := totals_balance ended
  have hlimit := h.resolutions.lt_of_counter_lt hresolutions
  obtain ⟨wresolutions, cresolutions⟩ := h.resolutions.eq_of_lt hlimit
  obtain ⟨wbypassed, cbypassed⟩ := h.bypassed.eq_of_lt (by omega)
  obtain ⟨wnoDecisions, cnoDecisions⟩ := h.noDecisions.eq_of_lt (by omega)
  obtain ⟨wfetchFailures, cfetchFailures⟩ := h.fetchFailures.eq_of_lt (by omega)
  obtain ⟨wevaluationFailures, cevaluationFailures⟩ := h.evaluationFailures.eq_of_lt (by omega)
  obtain ⟨wrejected, crejected⟩ :=
    h.rejected.eq_of_lt (h.rejected.lt_of_counter_lt hrejected)
  have hanswered : t.counts.answered = ended.countP Ended.isAnswered := by
    rw [Counts.answered]
    omega
  refine ⟨by omega, by omega, by omega, hanswered, wrejected, ?_⟩
  rw [exported, wresolutions, wbypassed, wnoDecisions, wfetchFailures, wevaluationFailures, wrejected,
    ← cresolutions, ← cbypassed, ← cnoDecisions, ← cfetchFailures, ← cevaluationFailures,
    ← crejected]

/-- After a run of lookups on a new resolver that have all come to their end, whatever they were and
however they ended, and as long as the counters have not been rounded: the counts balance and are those
of the run, and the exported counters show the same. The lookups with candidates are those for which the
script has answered, and the candidates are those of the answer. The evaluator may be any that fails in the
evaluation or not at all, as engines do. -/
theorem balanced_of_run (hevaluator : evaluator.FailsInEvaluation) {source : Source} {engine : E}
    {bypass : Bypass} {ended : List Ended} (h : Run evaluator { source, engine, bypass } ended r)
    (hresolutions : r.tally.counters.resolutions < exactLimit)
    (hrejected : r.tally.counters.rejected < exactLimit) :
    Balanced r.tally ended ∧ ∀ e ∈ ended, e.IsOfAnswer := by
  have hnew : Counted (totals []) ({ source, engine, bypass } : Resolver E).tally :=
    ⟨tracks_zero, tracks_zero, tracks_zero, tracks_zero, tracks_zero, tracks_zero⟩
  obtain ⟨hcounted, hanswers⟩ := counted_of_run hevaluator h hnew
  exact ⟨balanced_of_counted hcounted hresolutions hrejected, hanswers⟩

/-- An evaluator that has an answer for one host and fails for every other. -/
def answeringHost (host text : String) : Evaluator Unit :=
  { evaluate := fun engine _ _ _ asked =>
      (if asked = host then .ok text else .error (.evaluation (.thrown "no answer")), Span.zero,
        engine) }

/-- A lookup of every kind: one that cannot load the script, one that is answered, one for which the script
fails when somebody has set it aside and it is loaded again, one without a host, one that is not put to the
script, and one for what is no address. -/
theorem balanced_of_run_mixed :
    ∃ ended r, Run (answeringHost "::2" "PROXY a:1; PROXY b:x") loopbackResolver ended r ∧
      (r.tally.counts.resolutions = 4 ∧ r.tally.counts.answered = 1 ∧ r.tally.counts.rejected = 1) ∧
      Balanced r.tally ended ∧ ∀ e ∈ ended, e.IsOfAnswer := by
  let clock : Instant := ⟨.midnight ⟨2026, 1, 1⟩, 0⟩
  let unreachable : Outside := { read := fun _ => .error .notFound, transport := fun _ => none }
  have begun : Run (answeringHost "::2" "PROXY a:1; PROXY b:x") loopbackResolver [] _ := .start
  have hevaluator : (answeringHost "::2" "PROXY a:1; PROXY b:x").FailsInEvaluation := by
    intro _ _ _ _ asked fault h
    rw [answeringHost] at h
    dsimp only at h
    split at h <;> cases h
    rfl
  have unloaded := begun.inquiry (.selectUrl unreachable clock "http://[::2]/") rfl
  have answered := unloaded.inquiry (.selectUrl (serving "b.example") clock "http://[::2]/") rfl
  have forgotten := answered.source loopbackResolver.source
  have failed := forgotten.inquiry (.selectUrl (serving "b.example") clock "http://[::3]/") rfl
  have refused := failed.inquiry (.select unreachable clock ⟨"http://[::2]/", " "⟩) rfl
  have bypassed := refused.inquiry (.select unreachable clock ⟨"http://b.example/", "b.example"⟩)
    (congrArg Prod.fst (select_of_bypasses _ unreachable clock rfl (by decide +kernel)))
  have invalid := bypassed.inquiry (.selectUrl unreachable clock "::2") rfl
  exact ⟨_, _, invalid, by decide +kernel,
    balanced_of_run hevaluator invalid (by decide +kernel) (by decide +kernel)⟩

end Resolver

end AutoProxy
