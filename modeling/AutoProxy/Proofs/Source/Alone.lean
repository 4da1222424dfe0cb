import AutoProxy.Proofs.Source.Calls
import AutoProxy.Proofs.Source.Steps

/-!
A load that no other task disturbs. It looks twice whether there is something fresh, and while its clock
stands still it finds the same both times: when it is done, it has answered what `Source.load` answers
and left behind what that leaves behind (`load_of_run`). If no task has the lock it does get done
(`exists_run`).
-/

namespace AutoProxy.Source.Concurrent

open Calendar

/-- The actions of the load at a place while a clock stands still. -/
inductive Action.IsOf (place : Nat) (clock : Instant) : Action → Prop where
  | look : IsOf place clock (.look place clock)
  | lock : IsOf place clock (.lock place)
  | lookAgain : IsOf place clock (.lookAgain place clock clock)
  | read : IsOf place clock (.read place)
  | store : IsOf place clock (.store place)

namespace State

variable {s t t' : State} {place : Nat} {clock : Instant} {stage : LoadStage} {a : Action}

/-- How far a load has come that has found a source and a world outside, and that nothing disturbs. -/
inductive Progress (found : Source) (outside : Outside) (clock : Instant) (left : Source) :
    LoadStage → Prop where
  | begun : left = found → Progress found outside clock left .begun
  | waiting :
      left = found → found.freshContent clock.toUtc = none →
      Progress found outside clock left .waiting
  | holding :
      left = found → found.freshContent clock.toUtc = none →
      Progress found outside clock left .holding
  | acquiring :
      left = { found with fetches := found.fetches + 1 } →
      found.freshContent clock.toUtc = none →
      Progress found outside clock left (.acquiring clock.toUtc)
  | storing {copy : Copy} :
      left = { found with fetches := found.fetches + 1 } →
      found.freshContent clock.toUtc = none →
      found.acquire outside clock.toUtc = .ok copy.entry →
      Progress found outside clock left (.storing copy)
  | done {answer : Except LoadFault (String × Nat)} :
      found.load outside clock = (answer.map Prod.fst, left) →
      Progress found outside clock left (.done answer)

/-- A text that is fresh is what the source gives to a load. -/
theorem load_of_fresh? {found : Source} {outside : Outside} {text : String × Nat}
    (hsource : t.source = found) (h : t.fresh? clock = some text) :
    found.load outside clock = (.ok text.1, t.source) := by
  have hcontent : found.freshContent clock.toUtc = some text.1 := by
    rw [← hsource, ← map_fresh?, h, Option.map_some]
  rw [load_of_fresh _ hcontent, hsource]

/-- An action of the load brings it further. -/
theorem progress_effect {found : Source} (ha : a.IsOf place clock) (hstage : t.stage? place = some stage)
    (h : Progress found t.outside clock t.source stage) (heffect : t.effect a = some t') :
    t'.outside = t.outside ∧ ∃ stage', t'.stage? place = some stage' ∧
      Progress found t.outside clock t'.source stage' := by
  cases ha with
  | look =>
      obtain ⟨hbegun, heffect⟩ := look_eq_some_iff.mp heffect
      obtain rfl : stage = .begun := by simpa [hstage] using hbegun
      cases h with
      | begun hsource =>
          rcases heffect with ⟨text, hfresh, rfl⟩ | ⟨hfresh, rfl⟩
          · exact ⟨rfl, _, stage?_atStage hstage, .done (load_of_fresh? hsource hfresh)⟩
          · rw [fresh?_eq_none_iff, hsource] at hfresh
            exact ⟨rfl, _, stage?_atStage hstage, .waiting hsource hfresh⟩
  | lock =>
      obtain ⟨hwaiting, -, rfl⟩ := lock_eq_some_iff.mp heffect
      obtain rfl : stage = .waiting := by simpa [hstage] using hwaiting
      cases h with
      | waiting hsource hstale =>
          exact ⟨rfl, _, stage?_atStage hstage, .holding hsource hstale⟩
  | lookAgain =>
      obtain ⟨hholding, heffect⟩ := lookAgain_eq_some_iff.mp heffect
      obtain rfl : stage = .holding := by simpa [hstage] using hholding
      cases h with
      | holding hsource hstale =>
          rcases heffect with ⟨text, hfresh, rfl⟩ | ⟨-, rfl⟩
          · -- what was stale at the first look cannot have become fresh
            rw [← hsource, ← fresh?_eq_none_iff, hfresh] at hstale
            cases hstale
          · refine ⟨rfl, _, stage?_atStage hstage, .acquiring ?_ hstale⟩
            rw [← hsource]
            rfl
  | read =>
      obtain ⟨now, hacquiring, heffect⟩ := read_eq_some_iff.mp heffect
      obtain rfl : stage = .acquiring now := by simpa [hstage] using hacquiring
      cases h with
      | acquiring hsource hstale =>
          have hacquire : t.source.acquire t.outside clock.toUtc =
              found.acquire t.outside clock.toUtc := by
            rw [hsource]
            rfl
          rw [hacquire] at heffect
          rcases heffect with ⟨entry, hentry, rfl⟩ | ⟨fault, hfault, rfl⟩
          · exact ⟨rfl, _, stage?_atStage hstage, .storing hsource hstale hentry⟩
          · refine ⟨rfl, _, stage?_atStage hstage, .done ?_⟩
            rw [load_of_not_fresh _ hstale, hfault, source_answered, hsource]
            rfl
  | store =>
      obtain ⟨copy, hstoring, rfl⟩ := store_eq_some_iff.mp heffect
      obtain rfl : stage = .storing copy := by simpa [hstage] using hstoring
      cases h with
      | storing hsource hstale hentry =>
          refine ⟨rfl, _, stage?_atStage hstage, .done ?_⟩
          have hleft : source { t.answered place (.ok (copy.entry.content, copy.readAt)) with
              copy := some copy } = { t.source with entry := some copy.entry } := rfl
          rw [load_of_not_fresh _ hstale, hentry, hleft, hsource]
          rfl

/-- A row of actions of the load brings it further, each of them a little. -/
theorem progress_run {found : Source} {actions : List Action}
    (hactions : ∀ a ∈ actions, a.IsOf place clock) (hstage : t.stage? place = some stage)
    (h : Progress found t.outside clock t.source stage) (hrun : t.run actions = some t') :
    ∃ stage', t'.stage? place = some stage' ∧
      Progress found t.outside clock t'.source stage' := by
  induction actions generalizing t stage with
  | nil =>
      cases hrun
      exact ⟨stage, hstage, h⟩
  | cons a rest ih =>
      obtain ⟨u, hstep, hrest⟩ := Option.bind_eq_some_iff.mp hrun
      obtain ⟨v, heffect, rfl⟩ := step_eq_some_iff.mp hstep
      obtain ⟨houtside, stage', hstage', h'⟩ :=
        progress_effect (hactions a List.mem_cons_self) hstage h heffect
      rw [← houtside] at h' ⊢
      exact ih (t := { v with time := t.time + 1 })
        (fun b hb => hactions b (List.mem_cons_of_mem _ hb)) hstage' h' hrest

/-- The state in which one more load has been called. -/
theorem step_call : s.step .call = some { s with
    loads := s.loads ++ [{ begunAt := s.time }], time := s.time + 1 } := rfl

/-- When a load is done that nothing has disturbed, it has answered what the source answers to a load
and has left behind what that leaves behind. -/
theorem load_of_run {actions : List Action} {answer : Except LoadFault (String × Nat)}
    (hactions : ∀ a ∈ actions, a.IsOf s.loads.length clock) (hrun : s.run (.call :: actions) = some t)
    (hdone : t.stage? s.loads.length = some (.done answer)) :
    s.source.load s.outside clock = (answer.map Prod.fst, t.source) := by
  rw [run, step_call, Option.bind_some] at hrun
  obtain ⟨stage, hstage, h⟩ := progress_run hactions (by simp [stage?]) (.begun rfl) hrun
  obtain rfl : stage = .done answer := by simpa [hdone] using hstage.symm
  cases h with
  | done hload => exact hload

/-! ### Getting done -/

/-- How many actions of a load may still follow a stage. -/
def remaining : LoadStage → Nat
  | .begun => 5
  | .waiting => 4
  | .holding => 3
  | .acquiring _ => 2
  | .storing _ => 1
  | .done _ => 0

/-- A load that is not done can go on, if the lock is free where it needs it. -/
theorem exists_effect (hstage : t.stage? place = some stage) (hopen : 0 < remaining stage)
    (hfree : 3 < remaining stage → t.holder = none) (clock : Instant) :
    ∃ a t' stage', a.IsOf place clock ∧ t.effect a = some t' ∧ t'.stage? place = some stage' ∧
      remaining stage' < remaining stage ∧ (3 < remaining stage' → t'.holder = none) := by
  cases stage with
  | begun =>
      have hholder := hfree (by decide)
      cases hfresh : t.fresh? clock with
      | some text =>
          exact ⟨_, _, _, .look, look_eq_some_iff.mpr ⟨hstage, .inl ⟨text, hfresh, rfl⟩⟩,
            stage?_atStage hstage, by simp [remaining], fun _ => hholder⟩
      | none =>
          exact ⟨_, _, _, .look, look_eq_some_iff.mpr ⟨hstage, .inr ⟨hfresh, rfl⟩⟩,
            stage?_atStage hstage, by decide, fun _ => hholder⟩
  | waiting =>
      exact ⟨_, _, _, .lock, lock_eq_some_iff.mpr ⟨hstage, hfree (by decide), rfl⟩,
        stage?_atStage hstage, by decide, fun h => absurd h (by decide)⟩
  | holding =>
      cases hfresh : t.fresh? clock with
      | some text =>
          exact ⟨_, _, _, .lookAgain,
            lookAgain_eq_some_iff.mpr ⟨hstage, .inl ⟨text, hfresh, rfl⟩⟩,
            stage?_atStage hstage, by simp [remaining], fun _ => rfl⟩
      | none =>
          exact ⟨_, _, _, .lookAgain, lookAgain_eq_some_iff.mpr ⟨hstage, .inr ⟨hfresh, rfl⟩⟩,
            stage?_atStage hstage, by simp [remaining], by simp [remaining]⟩
  | acquiring now =>
      cases hacquire : t.source.acquire t.outside now with
      | ok entry =>
          exact ⟨_, _, _, .read, read_eq_some_iff.mpr ⟨now, hstage, .inl ⟨entry, hacquire, rfl⟩⟩,
            stage?_atStage hstage, by simp [remaining], by simp [remaining]⟩
      | error fault =>
          exact ⟨_, _, _, .read, read_eq_some_iff.mpr ⟨now, hstage, .inr ⟨fault, hacquire, rfl⟩⟩,
            stage?_atStage hstage, by simp [remaining], fun _ => rfl⟩
  | storing copy =>
      exact ⟨_, _, _, .store, store_eq_some_iff.mpr ⟨copy, hstage, rfl⟩,
        stage?_atStage hstage, by simp [remaining], fun _ => rfl⟩
  | done answer => exact absurd hopen (by simp [remaining])

/-- A load goes on until it is done. -/
theorem exists_run_of_stage (hstage : t.stage? place = some stage)
    (hfree : 3 < remaining stage → t.holder = none) (clock : Instant) :
    ∃ actions t' answer, (∀ a ∈ actions, a.IsOf place clock) ∧ t.run actions = some t' ∧
      t'.stage? place = some (.done answer) := by
  induction hn : remaining stage using Nat.strong_induction_on generalizing t stage with
  | _ n ih =>
      subst hn
      rcases Nat.eq_zero_or_pos (remaining stage) with hzero | hopen
      · cases stage with
        | done answer => exact ⟨[], t, answer, by simp, rfl, hstage⟩
        | _ => simp [remaining] at hzero
      · obtain ⟨a, u, stage', ha, heffect, hstage', hless, hfree'⟩ :=
          exists_effect hstage hopen hfree clock
        obtain ⟨rest, t', answer, hrest, hrun, hdone⟩ :=
          ih _ hless (t := { u with time := t.time + 1 }) hstage' hfree' rfl
        refine ⟨a :: rest, t', answer, ?_, ?_, hdone⟩
        · simpa [ha] using hrest
        · rw [run, step_eq_some_iff.mpr ⟨u, heffect, rfl⟩, Option.bind_some, hrun]

/-- A load that is called while no task has the lock gets done, if it is not disturbed. -/
theorem exists_run (hfree : s.holder = none) (clock : Instant) :
    ∃ actions t answer, (∀ a ∈ actions, a.IsOf s.loads.length clock) ∧
      s.run (.call :: actions) = some t ∧ t.stage? s.loads.length = some (.done answer) := by
  have hstage : stage? { s with
      loads := s.loads ++ [{ begunAt := s.time }], time := s.time + 1 } s.loads.length =
        some .begun := by
    simp [stage?]
  obtain ⟨actions, t, answer, hactions, hrun, hdone⟩ :=
    exists_run_of_stage hstage (fun _ => hfree) clock
  exact ⟨actions, t, answer, hactions, by rw [run, step_call, Option.bind_some, hrun], hdone⟩

end State

end AutoProxy.Source.Concurrent
