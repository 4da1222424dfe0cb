import AutoProxy.Proofs.Source.Steps

/-!
The lock of a source. A load has it from taking it to answering, an invalidation until it has set aside
what is kept; nobody else has it then (`exclusive_of_reachable`). Hence only one load at a time
acquires (`Exclusive.eq_of_hasLock`), and while an invalidation has the lock no load is about to put a
copy in the place of what is kept (`not_atHand_of_drop`).
-/

namespace AutoProxy.Source.Concurrent

open Calendar

def LoadStage.hasLock : LoadStage → Bool
  | .holding | .acquiring _ | .storing _ => true
  | .begun | .waiting | .done _ => false

/-- Whether an invalidation that has come this far has the lock. -/
def Invalidation.hasLock : Invalidation → Bool
  | .holding _ => true
  | .waiting | .done _ _ => false

namespace State

variable {s t : State} {place other : Nat} {stage old new : LoadStage} {a : Action} {c : Copy}

/-- The load at a place has the lock. -/
def LoadLocks (s : State) (place : Nat) : Prop :=
  ∃ stage, s.stage? place = some stage ∧ stage.hasLock = true

/-- The invalidation at a place has the lock. -/
def InvalidationLocks (s : State) (place : Nat) : Prop :=
  ∃ i, s.invalidations[place]? = some i ∧ i.hasLock = true

/-- The task that is noted as the holder of the lock has it, and no other task. -/
structure Exclusive (s : State) : Prop where
  load (place : Nat) : s.LoadLocks place ↔ s.holder = some (.load place)
  invalidation (place : Nat) : s.InvalidationLocks place ↔ s.holder = some (.invalidation place)

theorem loadLocks_iff (h : s.stage? place = some stage) :
    s.LoadLocks place ↔ stage.hasLock = true := by
  simp [LoadLocks, h]

/-- Bringing one load to another stage takes the lock from no other. -/
theorem loadLocks_atStage_iff (h : s.stage? place = some old) :
    (s.atStage place new).LoadLocks other ↔
      (other = place ∧ new.hasLock = true) ∨ (other ≠ place ∧ s.LoadLocks other) := by
  by_cases hplace : other = place
  · subst hplace
    have hnew : (s.atStage other new).stage? other = some new := stage?_atStage h
    simp [loadLocks_iff hnew]
  · simp [LoadLocks, stage?_atStage_of_ne hplace, hplace]

theorem loadLocks_call_iff {load : Load} (hbegun : load.stage = .begun) :
    LoadLocks { s with loads := s.loads ++ [load] } other ↔ s.LoadLocks other := by
  constructor
  · rintro ⟨stage, hstage, hlock⟩
    rcases stage?_call_cases hbegun hstage with hold | rfl
    · exact ⟨stage, hold, hlock⟩
    · cases hlock
  · rintro ⟨stage, hstage, hlock⟩
    refine ⟨stage, ?_, hlock⟩
    obtain ⟨found, hfound, rfl⟩ := Option.map_eq_some_iff.mp hstage
    rw [stage?, List.getElem?_append_left (List.getElem?_eq_some_iff.mp hfound).1, hfound,
      Option.map_some]

theorem invalidationLocks_set_iff {holder : Option Task} {copy : Option Copy}
    {i j : Invalidation} (h : s.invalidations[place]? = some i) :
    InvalidationLocks { s with
        copy, holder, invalidations := s.invalidations.set place j } other ↔
      (other = place ∧ j.hasLock = true) ∨ (other ≠ place ∧ s.InvalidationLocks other) := by
  have hlength := (List.getElem?_eq_some_iff.mp h).1
  by_cases hplace : other = place
  · subst hplace
    simp [InvalidationLocks, hlength]
  · simp [InvalidationLocks, Ne.symm hplace, hplace]

theorem invalidationLocks_append_iff {events : List Watch.Event} :
    InvalidationLocks { s with
        events, invalidations := s.invalidations ++ [.waiting] } other ↔ s.InvalidationLocks other := by
  constructor
  · rintro ⟨i, hi, hlock⟩
    rw [List.getElem?_append] at hi
    split at hi
    · exact ⟨i, hi, hlock⟩
    · obtain rfl : i = .waiting := by simpa using List.mem_of_getElem? hi
      cases hlock
  · rintro ⟨i, hi, hlock⟩
    refine ⟨i, ?_, hlock⟩
    rw [← hi]
    exact List.getElem?_append_left (List.getElem?_eq_some_iff.mp hi).1

/-! ### Passing the lock on -/

theorem Exclusive.eq_of_hasLock (hs : s.Exclusive) (h : s.LoadLocks place)
    (h' : s.LoadLocks other) : place = other := by
  have hholder := (hs.load place).mp h
  rw [(hs.load other).mp h'] at hholder
  cases hholder
  rfl

theorem Exclusive.not_invalidationLocks (hs : s.Exclusive) (h : s.LoadLocks place) :
    ¬ s.InvalidationLocks other := by
  intro h'
  have hholder := (hs.load place).mp h
  rw [(hs.invalidation other).mp h'] at hholder
  cases hholder

/-- A load that goes on without taking the lock or letting go of it. -/
theorem Exclusive.atStage (hs : s.Exclusive) (h : s.stage? place = some old)
    (hlock : new.hasLock = old.hasLock) : (s.atStage place new).Exclusive where
  load other := by
    refine Iff.trans ?_ (hs.load other)
    rw [loadLocks_atStage_iff h, hlock, ← loadLocks_iff h]
    by_cases hplace : other = place
    · simp [hplace]
    · simp [hplace]
  invalidation := hs.invalidation

/-- A load that takes the free lock. -/
theorem Exclusive.take (hs : s.Exclusive) (h : s.stage? place = some old) (hfree : s.holder = none)
    (hlock : new.hasLock = true) :
    Exclusive { s.atStage place new with holder := some (.load place) } where
  load other := by
    have hnone : ¬ s.LoadLocks other := by simp [hs.load, hfree]
    refine (loadLocks_atStage_iff h).trans ?_
    simp [hlock, hnone, eq_comm]
  invalidation other := by
    have hnone : ¬ s.InvalidationLocks other := by simp [hs.invalidation, hfree]
    exact iff_of_false hnone (by simp)

/-- A load that answers and lets go of the lock. -/
theorem Exclusive.answered (hs : s.Exclusive) (h : s.stage? place = some old)
    (hlock : old.hasLock = true) (answer : Except LoadFault (String × Nat)) :
    (s.answered place answer).Exclusive where
  load other := by
    have hmine : s.LoadLocks place := (loadLocks_iff h).mpr hlock
    refine iff_of_false (fun hother => ?_) (by simp [State.answered])
    rcases (loadLocks_atStage_iff h).mp hother with ⟨-, hdone⟩ | ⟨hplace, hother⟩
    · cases hdone
    · exact hplace (hs.eq_of_hasLock hother hmine)
  invalidation other :=
    iff_of_false (hs.not_invalidationLocks ((loadLocks_iff h).mpr hlock)) (by simp [State.answered])

/-- Of all that is not a step of a load only an invalidation takes the lock or lets go of it. -/
theorem Exclusive.otherStep (hs : s.Exclusive) (h : s.OtherStep a t) : t.Exclusive := by
  cases h with
  | call => exact ⟨fun _ => (loadLocks_call_iff rfl).trans (hs.load _), hs.invalidation⟩
  | invalidate | told _ _ =>
      exact ⟨hs.load, fun _ => invalidationLocks_append_iff.trans (hs.invalidation _)⟩
  | lockInvalidation hwaiting hfree =>
      refine ⟨fun other => ?_, fun other => ?_⟩
      · have hnone : ¬ s.LoadLocks other := by simp [hs.load, hfree]
        exact iff_of_false hnone (by simp)
      · have hnone : ¬ s.InvalidationLocks other := by simp [hs.invalidation, hfree]
        refine (invalidationLocks_set_iff hwaiting).trans ?_
        simp [Invalidation.hasLock, hnone, eq_comm]
  | drop hholding =>
      have hmine : s.InvalidationLocks _ := ⟨_, hholding, rfl⟩
      have hholder := (hs.invalidation _).mp hmine
      refine ⟨fun other => ?_, fun other => ?_⟩
      · exact iff_of_false (fun hother => hs.not_invalidationLocks hother hmine) (by simp)
      · refine (invalidationLocks_set_iff hholding).trans (iff_of_false ?_ (by simp))
        rintro (⟨-, hdone⟩ | ⟨hplace, hother⟩)
        · cases hdone
        · rw [hs.invalidation, hholder] at hother
          cases hother
          exact hplace rfl
  | write _ _ | change | ignored _ _ => exact ⟨hs.load, hs.invalidation⟩

/-- No step gives the lock to a second task. -/
theorem Exclusive.effect (hs : s.Exclusive) (h : s.effect a = some t) : t.Exclusive := by
  cases a with
  | look =>
      obtain ⟨hbegun, ⟨_, -, rfl⟩ | ⟨-, rfl⟩⟩ := look_eq_some_iff.mp h
      · exact hs.atStage hbegun rfl
      · exact hs.atStage hbegun rfl
  | lock =>
      obtain ⟨hwaiting, hfree, rfl⟩ := lock_eq_some_iff.mp h
      exact hs.take hwaiting hfree rfl
  | lookAgain place clock later =>
      obtain ⟨hholding, ⟨_, -, rfl⟩ | ⟨-, rfl⟩⟩ := lookAgain_eq_some_iff.mp h
      · exact hs.answered hholding rfl _
      · have hnext : (s.atStage place (.acquiring later.toUtc)).Exclusive := hs.atStage hholding rfl
        exact ⟨hnext.load, hnext.invalidation⟩
  | read =>
      obtain ⟨_, hacquiring, ⟨_, -, rfl⟩ | ⟨_, -, rfl⟩⟩ := read_eq_some_iff.mp h
      · exact hs.atStage hacquiring rfl
      · exact hs.answered hacquiring rfl _
  | store =>
      obtain ⟨copy, hstoring, rfl⟩ := store_eq_some_iff.mp h
      have hnext := hs.answered hstoring rfl (.ok (copy.entry.content, copy.readAt))
      exact ⟨hnext.load, hnext.invalidation⟩
  | _ => exact hs.otherStep (otherStep_of_effect rfl h)

theorem Exclusive.step (hs : s.Exclusive) (h : s.step a = some t) : t.Exclusive := by
  obtain ⟨u, heffect, rfl⟩ := step_eq_some_iff.mp h
  have hnext := hs.effect heffect
  exact ⟨hnext.load, hnext.invalidation⟩

theorem exclusive_idle (source : Source) (outside : Outside) : (idle source outside).Exclusive where
  load _ := by simp [LoadLocks, stage?, idle]
  invalidation _ := by simp [InvalidationLocks, idle]

/-- At most one task has the lock in every state that the steps of tasks lead to. -/
theorem exclusive_of_reachable {source : Source} {outside : Outside}
    (h : Reachable (idle source outside) s) : s.Exclusive := by
  induction h with
  | start => exact exclusive_idle source outside
  | step _ _ hstep ih => exact ih.step hstep

/-- When an invalidation sets aside what is kept, no load is about to store a copy. -/
theorem not_atHand_of_drop (hs : s.Exclusive) (h : s.drop place = some t) : ¬ t.AtHand c := by
  obtain ⟨_, hholding, rfl⟩ := drop_eq_some_iff.mp h
  rintro (hkept | ⟨storer, hstoring⟩)
  · cases hkept
  · have hlocks : s.LoadLocks storer := ⟨_, hstoring, rfl⟩
    exact hs.not_invalidationLocks hlocks ⟨_, hholding, rfl⟩

end State

end AutoProxy.Source.Concurrent
