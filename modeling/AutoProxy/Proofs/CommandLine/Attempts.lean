import AutoProxy.Proofs.CommandLine.Given
import AutoProxy.Proofs.Resolver.Counts

/-!
The lookups of a command. Items are looked up in their order, each that has an address once; only a line
that is no text, or an instant outside the calendar, keeps a command from looking up all of them
(`urls_of_lookUpAll`, `cause_of_lookUpAll`). Whatever the lookups come to, the failures among them are
counted, and the resolver has gone through a run of its own in which each lookup had the result that is
told of it (`leads_lookUpAll`). So a command that gets as far as its lookups makes all of them
(`urls_of_runWith`).
-/

namespace AutoProxy.CommandLine

namespace Attempt

/-- The lookup was refused before the resolver had begun it. -/
def isRefused (a : Attempt) : Bool :=
  match a.result with
  | .error (.validation _) => true
  | _ => false

/-- An attempt tells the result of a lookup of the resolver. -/
def Tells (a : Attempt) (e : Resolver.Ended) : Prop := e.result = a.result

/-- The resolver has begun the lookups that are not refused. -/
theorem Tells.isBegun_eq {a : Attempt} {e : Resolver.Ended} (h : a.Tells e) :
    e.isBegun = !a.isRefused := by
  rw [Resolver.Ended.isBegun, h, isRefused]
  rcases a.result with (_ | _) | _ <;> rfl

end Attempt

namespace Lookups

variable {E : Type} {evaluator : Evaluator E} {l after : Lookups E} {attempts : List Attempt}
  {site : Site} {item : Item} {url : String} {abort : Abort}

/-! ### One lookup -/

def selected (evaluator : Evaluator E) (site : Site) (l : Lookups E) (url : String) :
    Resolver.Conclusion × Resolver E :=
  l.resolver.selectUrl evaluator site.outside (l.fixedTime.getD site.clock) url

theorem lookUp_eq_ok_iff {a : Attempt} :
    l.lookUp evaluator site url = .ok (a, after) ↔
      a.url = url ∧ (l.selected evaluator site url).1 = .returned a.result ∧
        after = { l with
          resolver := (l.selected evaluator site url).2
          failures := l.failures + if a.isFailed then 1 else 0 } := by
  obtain ⟨given, told⟩ := a
  simp only [lookUp, selected]
  cases hconclusion : (l.resolver.selectUrl evaluator site.outside
      (l.fixedTime.getD site.clock) url).1 with
  | brokenDown => simp
  | returned result =>
      simp only [Except.ok.injEq, Prod.mk.injEq, Attempt.mk.injEq, Resolver.Conclusion.returned.injEq]
      constructor
      · rintro ⟨⟨rfl, rfl⟩, rfl⟩
        exact ⟨rfl, rfl, rfl⟩
      · rintro ⟨rfl, rfl, rfl⟩
        exact ⟨⟨rfl, rfl⟩, rfl⟩

theorem lookUp_eq_error (h : l.lookUp evaluator site url = .error abort) : abort = .outOfCalendar := by
  simp only [lookUp] at h
  split at h
  · cases h
    rfl
  · cases h

/-! ### One item -/

/-- An item without an address leaves everything as it is; one with an address is looked up. -/
theorem lookUpItem_eq_ok_iff :
    l.lookUpItem evaluator site item = .ok (attempts, after) ↔
      (item.read = .ok none ∧ attempts = [] ∧ after = l) ∨
        ∃ url a, item.read = .ok (some url) ∧
          (l.meeting site.outside item).lookUp evaluator site url = .ok (a, after) ∧ attempts = [a] := by
  cases hread : item.read with
  | error fault => simp [lookUpItem, hread]
  | ok found =>
      cases found with
      | none => simp [lookUpItem, hread, eq_comm]
      | some url =>
          cases hlookUp : (l.meeting site.outside item).lookUp evaluator site url with
          | error abort => simp [lookUpItem, hread, hlookUp]
          | ok pair => simp [lookUpItem, hread, hlookUp, Prod.ext_iff, eq_comm, and_comm]

theorem lookUpItem_eq_error (h : l.lookUpItem evaluator site item = .error abort) :
    abort = .outOfCalendar ∨ (abort = .fault .badInput ∧ ¬ item.IsText) := by
  cases hread : item.read with
  | error fault =>
      have hfault : fault = .badInput := by
        cases item with
        | argument url => cases hread
        | line bytes =>
            rw [Item.read] at hread
            split at hread <;> cases hread
            rfl
      subst hfault
      simp only [lookUpItem, hread, Except.error.injEq] at h
      exact .inr ⟨h.symm, fun htext => htext hread⟩
  | ok found =>
      cases found with
      | none => simp [lookUpItem, hread] at h
      | some url =>
          cases hlookUp : (l.meeting site.outside item).lookUp evaluator site url with
          | error abort' =>
              simp only [lookUpItem, hread, hlookUp, Except.error.injEq] at h
              exact .inl (h ▸ lookUp_eq_error hlookUp)
          | ok pair => simp [lookUpItem, hread, hlookUp] at h

/-! ### What lookups lead to -/

/-- What is so after some lookups, whatever they came to: their failures have been counted, and the resolver
has gone through a run in which it had begun and ended each of them. -/
structure Leads (evaluator : Evaluator E) (l : Lookups E) (attempts : List Attempt)
    (after : Lookups E) : Prop where
  failures : after.failures = l.failures + attempts.countP Attempt.isFailed
  run : ∀ {start : Resolver E} {ended : List Resolver.Ended},
    Resolver.Run evaluator start ended l.resolver →
      ∃ more, Resolver.Run evaluator start (ended ++ more) after.resolver ∧
        List.Forall₂ Attempt.Tells attempts more

namespace Leads

variable {next : Lookups E} {more : List Attempt}

theorem refl (l : Lookups E) : Leads evaluator l [] l where
  failures := rfl
  run h := ⟨[], by rwa [List.append_nil], .nil⟩

theorem trans (h : Leads evaluator l attempts next) (h' : Leads evaluator next more after) :
    Leads evaluator l (attempts ++ more) after where
  failures := by rw [h'.failures, h.failures, List.countP_append, Nat.add_assoc]
  run hrun := by
    obtain ⟨first, hfirst, htells⟩ := h.run hrun
    obtain ⟨second, hsecond, htells'⟩ := h'.run hfirst
    exact ⟨first ++ second, by rwa [← List.append_assoc], List.rel_append htells htells'⟩

end Leads

/-- A look at the file of the script leaves the counts as they are. -/
theorem leads_meeting (site : Site) (l : Lookups E) (item : Item) :
    Leads evaluator l [] (l.meeting site.outside item) := by
  cases item with
  | argument url => exact .refl l
  | line bytes =>
      rw [meeting, noticeChange]
      split
      · exact ⟨rfl, fun h => ⟨[], by rw [List.append_nil]; exact .source _ h, .nil⟩⟩
      · exact .refl l

theorem leads_lookUp {a : Attempt} (h : l.lookUp evaluator site url = .ok (a, after)) :
    Leads evaluator l [a] after := by
  obtain ⟨-, hresult, rfl⟩ := lookUp_eq_ok_iff.mp h
  refine ⟨by cases hfailed : a.isFailed <;> simp [hfailed], fun {start ended} hrun => ?_⟩
  have hnext := hrun.inquiry (.selectUrl site.outside (l.fixedTime.getD site.clock) url) hresult
  exact ⟨_, hnext, .cons rfl .nil⟩

theorem leads_lookUpItem (h : l.lookUpItem evaluator site item = .ok (attempts, after)) :
    Leads evaluator l attempts after := by
  rcases lookUpItem_eq_ok_iff.mp h with ⟨-, rfl, rfl⟩ | ⟨url, a, -, hlookUp, rfl⟩
  · exact .refl _
  · exact (leads_meeting site l item).trans (leads_lookUp hlookUp)

/-! ### All items -/

variable {items : List (Site × Item)} {result : Except Abort (Lookups E)}

/-- The lookups of items are those of the first one and, if these come to their end, those of the others. -/
theorem lookUpAll_cons_cases (h : l.lookUpAll evaluator ((site, item) :: items) = (attempts, result)) :
    (∃ abort, l.lookUpItem evaluator site item = .error abort ∧ attempts = [] ∧ result = .error abort) ∨
      ∃ first next rest, l.lookUpItem evaluator site item = .ok (first, next) ∧
        next.lookUpAll evaluator items = (rest, result) ∧ attempts = first ++ rest := by
  rw [lookUpAll] at h
  split at h
  · next abort hitem =>
    cases h
    exact .inl ⟨abort, hitem, rfl, rfl⟩
  · next first next hitem =>
    cases h
    exact .inr ⟨first, next, _, hitem, rfl, rfl⟩

theorem leads_lookUpAll (h : l.lookUpAll evaluator items = (attempts, .ok after)) :
    Leads evaluator l attempts after := by
  induction items generalizing l attempts with
  | nil =>
      cases h
      exact .refl after
  | cons entry rest ih =>
      rcases lookUpAll_cons_cases h with ⟨_, _, _, hresult⟩ | ⟨first, next, more, hitem, hrest, rfl⟩
      · cases hresult
      · exact (leads_lookUpItem hitem).trans (ih hrest)

theorem urls_of_lookUpItem (h : l.lookUpItem evaluator site item = .ok (attempts, after)) :
    attempts.map Attempt.url = item.url?.toList := by
  rcases lookUpItem_eq_ok_iff.mp h with ⟨hread, rfl, rfl⟩ | ⟨url, a, hread, hlookUp, rfl⟩
  · simp [Item.url?, hread, Except.toOption]
  · simp [Item.url?, hread, Except.toOption, (lookUp_eq_ok_iff.mp hlookUp).1]

/-- The lookups are those of the addresses in their order, from the first one on; and they are all of them
unless something keeps the command from it. -/
theorem urls_of_lookUpAll (h : l.lookUpAll evaluator items = (attempts, result)) :
    attempts.map Attempt.url <+: urlsOf (items.map Prod.snd) ∧
      ∀ after, result = .ok after → attempts.map Attempt.url = urlsOf (items.map Prod.snd) := by
  induction items generalizing l attempts with
  | nil =>
      cases h
      exact ⟨List.nil_prefix, fun _ _ => rfl⟩
  | cons entry rest ih =>
      have hurls : urlsOf ((entry :: rest).map Prod.snd) =
          entry.2.url?.toList ++ urlsOf (rest.map Prod.snd) := by
        rw [urlsOf, List.map_cons, List.filterMap_cons]
        cases entry.2.url? <;> rfl
      rcases lookUpAll_cons_cases h with ⟨_, _, rfl, rfl⟩ | ⟨first, next, more, hitem, hrest, rfl⟩
      · refine ⟨List.nil_prefix, ?_⟩
        intro after hresult
        cases hresult
      · obtain ⟨hsome, hall⟩ := ih hrest
        rw [List.map_append, urls_of_lookUpItem hitem, hurls]
        exact ⟨(List.prefix_append_right_inj _).mpr hsome, fun after hafter => by rw [hall after hafter]⟩

/-- What can keep a command from looking up all addresses. -/
theorem cause_of_lookUpAll (h : l.lookUpAll evaluator items = (attempts, .error abort)) :
    abort = .outOfCalendar ∨ (abort = .fault .badInput ∧ ∃ entry ∈ items, ¬ entry.2.IsText) := by
  induction items generalizing l attempts with
  | nil => cases h
  | cons entry rest ih =>
      rcases lookUpAll_cons_cases h with ⟨_, hitem, _, hresult⟩ | ⟨first, next, more, hitem, hrest, rfl⟩
      · cases hresult
        exact (lookUpItem_eq_error hitem).imp_right fun ⟨hbad, htext⟩ =>
          ⟨hbad, entry, List.mem_cons_self, htext⟩
      · exact (ih hrest).imp_right fun ⟨hbad, other, hother, htext⟩ =>
          ⟨hbad, other, List.mem_cons_of_mem entry hother, htext⟩

end Lookups

/-! ### Runs -/

section Runs

variable {E : Type} {site : Nat → Site} {o : Options} {input : List UInt8} {lines : List String}

/-- A run that begins its lookups makes all of them unless an instant outside the calendar stops it, and then
it tells how many have failed. -/
theorem lookUpGiven_cases (evaluator : Evaluator E) (site : Nat → Site) (l : Lookups E)
    (hlines : o.readsInput = true → IsInput lines input) :
    let outcome := lookUpGiven evaluator site o l input
    outcome.attempts.map Attempt.url <+: given o lines ∧
      (outcome.result = .error .outOfCalendar ∨
        outcome.attempts.map Attempt.url = given o lines ∧
          ∃ after, l.Leads evaluator outcome.attempts after ∧ outcome.result = after.verdict) := by
  obtain ⟨hgiven, htext⟩ := urlsOf_itemsOf hlines
  have hitems := map_snd_placed site 0 (itemsOf o input)
  rw [← hgiven, ← hitems, lookUpGiven]
  cases hall : l.lookUpAll evaluator (placed site 0 (itemsOf o input)) with
  | mk attempts result =>
      obtain ⟨hsome, hurls⟩ := Lookups.urls_of_lookUpAll hall
      cases result with
      | ok after =>
          exact ⟨hsome, .inr ⟨hurls after rfl, after, Lookups.leads_lookUpAll hall, rfl⟩⟩
      | error abort =>
          refine ⟨hsome, .inl ?_⟩
          rcases Lookups.cause_of_lookUpAll hall with rfl | ⟨-, entry, hentry, hbad⟩
          · rfl
          · have hitem : entry.2 ∈ itemsOf o input := hitems ▸ List.mem_map_of_mem hentry
            exact absurd (htext _ hitem) hbad

/-- What a run that begins its lookups comes to is what its lookups come to. -/
theorem runWith_of_start {first : Site} {before : List Event} {l : Lookups Script.Engine}
    (h : start first o = (before, .ok (.ready l))) :
    runWith first site o input =
      { lookUpGiven Script.Engine.evaluator site o l input with
        events := before ++ (lookUpGiven Script.Engine.evaluator site o l input).events } := by
  rw [runWith, h]

/-- The lookups of a run are those of the addresses that it is given, from the first one on, and all of them if
it begins them and no instant outside the calendar stops it. -/
theorem urls_of_runWith {first : Site} {outcome : Outcome}
    (hlines : o.readsInput = true → IsInput lines input) (hrun : runWith first site o input = outcome) :
    outcome.attempts.map Attempt.url <+: given o lines ∧
      (Begins first o → outcome.result ≠ .error .outOfCalendar →
        outcome.attempts.map Attempt.url = given o lines) := by
  subst hrun
  by_cases hbegins : Begins first o
  · obtain ⟨before, l, hstart⟩ := hbegins
    rw [runWith_of_start hstart]
    obtain ⟨hsome, hcases⟩ := lookUpGiven_cases Script.Engine.evaluator site l hlines
    exact ⟨hsome, fun _ hcalendar => (hcases.resolve_left hcalendar).1⟩
  · have hnone : (runWith first site o input).attempts = [] := by
      rw [runWith]
      rcases hstart : start first o with ⟨before, _ | _ | l⟩
      · rfl
      · rfl
      · exact absurd ⟨before, l, hstart⟩ hbegins
    rw [hnone]
    exact ⟨List.nil_prefix, fun h => absurd h hbegins⟩

end Runs

end AutoProxy.CommandLine
