import AutoProxy.Proofs.CommandLine.Attempts

/-!
How a command ends. It ends as a failure exactly if a lookup has failed (`endOf_eq_ok_iff`), and then it tells
how many have failed and out of how many. The first of these numbers is counted by the command. The second is
not: it is what the resolver has counted, which does not count what it refuses, and at least the first number
(`toldTotal`). So it is the number of lookups if nothing was refused, or if nothing but failures came of them
(`toldTotal_eq_length_iff`), and too small otherwise (`total_told_ne_lookups`).
-/

namespace AutoProxy.CommandLine

open Resolver (Ended)

/-! ### Counting -/

/-- The number of lookups that a command tells in the end when these have been made: those that were not
refused, as far as a word of 64 bits can count them, but no less than those that have failed. -/
def toldTotal (attempts : List Attempt) : Nat :=
  max (attempts.countP (fun a => !a.isRefused) % 2 ^ 64) (attempts.countP Attempt.isFailed)

/-- All lookups are told if none of them was refused, or if none of them succeeded; and only then. -/
theorem toldTotal_eq_length_iff {attempts : List Attempt} (h : attempts.length < 2 ^ 64) :
    toldTotal attempts = attempts.length ↔
      (∀ a ∈ attempts, a.isRefused = false) ∨ ∀ a ∈ attempts, a.isFailed = true := by
  have hbegun : attempts.countP (fun a => !a.isRefused) ≤ attempts.length := List.countP_le_length
  have hfailed : attempts.countP Attempt.isFailed ≤ attempts.length := List.countP_le_length
  have hword : attempts.countP (fun a => !a.isRefused) % 2 ^ 64 = attempts.countP fun a => !a.isRefused :=
    Nat.mod_eq_of_lt (Nat.lt_of_le_of_lt hbegun h)
  have hmax : toldTotal attempts = attempts.length ↔
      attempts.countP (fun a => !a.isRefused) = attempts.length ∨
        attempts.countP Attempt.isFailed = attempts.length := by
    rw [toldTotal, hword]
    omega
  rw [hmax, List.countP_eq_length, List.countP_eq_length]
  simp

def endOf (attempts : List Attempt) : Except Abort Unit :=
  if 0 < attempts.countP Attempt.isFailed then
    .error (.fault (.lookups (attempts.countP Attempt.isFailed) (toldTotal attempts)))
  else .ok ()

theorem endOf_eq_ok_iff {attempts : List Attempt} :
    endOf attempts = .ok () ↔ ∀ a ∈ attempts, a.isFailed = false := by
  rw [endOf]
  split
  · next hfailed =>
    obtain ⟨a, ha, hfails⟩ := List.countP_pos_iff.mp hfailed
    exact iff_of_false (fun h => nomatch h) fun h => by simp [h a ha] at hfails
  · next hfailed =>
    have hnone : attempts.countP Attempt.isFailed = 0 := Nat.eq_zero_of_not_pos hfailed
    exact iff_of_true rfl fun a ha => Bool.eq_false_of_not_eq_true (List.countP_eq_zero.mp hnone a ha)

namespace Lookups

variable {E : Type} {evaluator : Evaluator E} {l after : Lookups E} {attempts : List Attempt}
  {ended : List Ended}

theorem countP_isBegun (h : List.Forall₂ Attempt.Tells attempts ended) :
    ended.countP Ended.isBegun = attempts.countP fun a => !a.isRefused := by
  induction h with
  | nil => rfl
  | cons htells _ ih => rw [List.countP_cons, List.countP_cons, ih, htells.isBegun_eq]

/-- After some lookups the resolver has counted those that were not refused. -/
theorem resolutions_of_leads (hevaluator : evaluator.FailsInEvaluation) (hnew : l.IsNew)
    (h : Leads evaluator l attempts after) :
    after.resolver.tally.counts.resolutions =
      UInt64.ofNat (attempts.countP fun a => !a.isRefused) := by
  obtain ⟨ended, hrun, htells⟩ := h.run .start
  have hstart : Tally.Counted (Resolver.totals []) l.resolver.tally := by
    rw [hnew.tally]
    constructor <;> exact Tally.tracks_zero
  obtain ⟨hcounted, -⟩ := Resolver.counted_of_run hevaluator hrun hstart
  rw [hcounted.resolutions.word_eq, ← countP_isBegun htells]
  rfl

/-- A command ends as a failure if a lookup has failed, and else not. -/
theorem verdict_of_leads (hevaluator : evaluator.FailsInEvaluation) (hnew : l.IsNew)
    (h : Leads evaluator l attempts after) :
    after.verdict = endOf attempts := by
  have hfailures : after.failures = attempts.countP Attempt.isFailed := by
    rw [h.failures, hnew.failures, Nat.zero_add]
  have hattempted : after.attempted = toldTotal attempts := by
    rw [attempted, resolutions_of_leads hevaluator hnew h, hfailures, toldTotal]
    rfl
  rw [verdict, hfailures, hattempted, endOf]

end Lookups

/-! ### Runs -/

section Runs

variable {E : Type} {evaluator : Evaluator E} {l : Lookups E} {site : Nat → Site} {o : Options}
  {input : List UInt8} {outcome : Outcome} {lines : List String}

/-- A command that begins its lookups, and that no instant outside the calendar stops, looks up every address
that it is given, wherever it is by then and whatever comes of each. It ends as a failure exactly if some
lookup has failed, and then it tells how many have failed. The total that it tells leaves out what was refused,
unless there is nothing but failures: it is the number of lookups only if none was refused or all have
failed. -/
theorem failures_told_of_runWith {first : Site} (hbegins : Begins first o)
    (hlines : o.readsInput = true → IsInput lines input)
    (hrun : runWith first site o input = outcome)
    (hcalendar : outcome.result ≠ .error .outOfCalendar) :
    outcome.attempts.map Attempt.url = given o lines ∧
      (outcome.result = .ok () ↔ ∀ a ∈ outcome.attempts, a.isFailed = false) ∧
      ((∃ a ∈ outcome.attempts, a.isFailed = true) → ∃ fault total,
        outcome.result = .error (.fault fault) ∧
          fault.report = "Error: " ++ (toString (outcome.attempts.countP Attempt.isFailed) ++ " of " ++
            toString total ++ " lookups failed") ∧
          total = toldTotal outcome.attempts ∧
          (outcome.attempts.length < 2 ^ 64 →
            (total = outcome.attempts.length ↔
              (∀ a ∈ outcome.attempts, a.isRefused = false) ∨
                ∀ a ∈ outcome.attempts, a.isFailed = true))) := by
  obtain ⟨before, l, hstart⟩ := hbegins
  have hnew := (isNew_of_start hstart).1
  rw [runWith_of_start hstart] at hrun
  subst hrun
  obtain ⟨-, hcases⟩ := lookUpGiven_cases Script.Engine.evaluator site l hlines
  obtain ⟨hurls, after, hleads, hresult⟩ := hcases.resolve_left hcalendar
  rw [Lookups.verdict_of_leads Script.Engine.failsInEvaluation_evaluator hnew hleads] at hresult
  refine ⟨hurls, ?_, fun hsome => ?_⟩
  · rw [hresult]
    exact endOf_eq_ok_iff
  · rw [endOf, if_pos (List.countP_pos_iff.mpr hsome)] at hresult
    exact ⟨_, _, hresult, rfl, rfl, toldTotal_eq_length_iff⟩

end Runs

/-- The script is there from the second lookup on. -/
def lateScript (n : Nat) : Site :=
  siteWith (if n = 0 then none else some "function FindProxyForURL(u, h) \x7b return 'DIRECT'; \x7d")

/-- A first lookup that finds no script, then an input with an empty line, a remark and an address. -/
theorem failures_told_of_runWith_late :
    ∃ outcome fault,
      runWith (lateScript 0) lateScript
          { script := some "p.pac", urls := ["http://[::1]/"], readsInput := true }
          (Text.Utf8.encode "\n# a remark\n http://[::2]/ \n".toList) = outcome ∧
        outcome.attempts.map Attempt.url = ["http://[::1]/", "http://[::2]/"] ∧
        outcome.result = .error (.fault fault) ∧ fault.report = "Error: 1 of 2 lookups failed" := by
  let o : Options := { script := some "p.pac", urls := ["http://[::1]/"], readsInput := true }
  let input := Text.Utf8.encode "\n# a remark\n http://[::2]/ \n".toList
  let lines := ["", "# a remark", " http://[::2]/ "]
  let outcome := runWith (lateScript 0) lateScript o input
  have hgiven : Begins (lateScript 0) o ∧ IsInput lines input ∧
      given o lines = ["http://[::1]/", "http://[::2]/"] := by decide +kernel
  have hrun : outcome.result ≠ .error .outOfCalendar ∧ outcome.attempts.countP Attempt.isFailed = 1 ∧
      outcome.attempts.length = 2 ∧ (∃ a ∈ outcome.attempts, a.isFailed = true) ∧
      ∀ a ∈ outcome.attempts, a.isRefused = false := by decide +kernel
  obtain ⟨hbegins, hlines, hurls⟩ := hgiven
  obtain ⟨hresult, hfailed, hlength, hsome, hnone⟩ := hrun
  obtain ⟨hlookups, -, htold⟩ := failures_told_of_runWith hbegins (fun _ => hlines) rfl hresult
  obtain ⟨fault, total, hfault, hreport, -, htotal⟩ := htold hsome
  have hword : outcome.attempts.length < 2 ^ 64 := by
    rw [hlength]
    decide
  have htwo : total = 2 := ((htotal hword).mpr (.inl hnone)).trans hlength
  refine ⟨_, fault, rfl, hlookups.trans hurls, hfault, ?_⟩
  rw [hreport, hfailed, htwo]
  decide

/-- One of two lookups is refused: it is told as the only one. -/
theorem total_told_ne_lookups :
    let site := siteWith (some "function FindProxyForURL(u, h) \x7b return 'DIRECT'; \x7d")
    let outcome :=
      runWith site (fun _ => site) { script := some "p.pac", urls := ["nonsense", "http://[::1]/"] } []
    outcome.attempts.map Attempt.isFailed = [true, false] ∧
      outcome.result = .error (.fault (.lookups 1 1)) := by
  decide +kernel

end AutoProxy.CommandLine
