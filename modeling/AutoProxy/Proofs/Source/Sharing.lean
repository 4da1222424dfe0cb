import AutoProxy.Proofs.Source.Alone
import AutoProxy.Proofs.Source.Lock

/-!
Loads that run side by side. Only one of them acquires at a time, and the source counts the acquisitions
that are started (`fetches_run`). A load takes at most five steps (`countP_load_le`), and as long as one is
not done, some load can take a step, unless an invalidation has the lock (`exists_step_of_open`).

Loads that find nothing at first share an acquisition: once it has succeeded, every load answers with
what it gave, as long as no clock shows that this has expired and nobody sets it aside
(`shared_of_run`).
-/

namespace AutoProxy.Source.Concurrent

open Calendar

/-- The clock by which a load looks whether there is something fresh. -/
def Action.clock? : Action → Option Instant
  | .look _ clock | .lookAgain _ clock _ => some clock
  | _ => none

theorem Action.IsOf.load? {place : Nat} {clock : Instant} {a : Action} (h : a.IsOf place clock) :
    a.load? = some place := by
  cases h <;> rfl

namespace State

variable {s t : State} {place other n : Nat} {stage : LoadStage} {a : Action} {c : Copy}
  {actions : List Action}

/-! ### Acquisitions -/

/-- Whether the load at a place is acquiring. -/
def isAcquiring (s : State) (place : Nat) : Bool := (s.stage? place).any LoadStage.isAcquiring

/-- How many loads begin to acquire between two states. -/
def starting (s t : State) : Nat :=
  (List.range t.loads.length).countP fun place => t.isAcquiring place && !s.isAcquiring place

/-- How many acquisitions are started in a row of actions. -/
def started (s : State) : List Action → Nat
  | [] => 0
  | a :: rest =>
    match s.step a with
    | none => 0
    | some t => s.starting t + t.started rest

/-- How an acquisition ends with an action, if one does. -/
def outcome? (s : State) : Action → Option (Except LoadFault CacheEntry)
  | .read place =>
    match s.stage? place with
    | some (.acquiring now) => some (s.source.acquire s.outside now)
    | _ => none
  | _ => none

/-- How the acquisitions end that end in a row of actions, the first one first. -/
def outcomes (s : State) : List Action → List (Except LoadFault CacheEntry)
  | [] => []
  | a :: rest =>
    match s.step a with
    | none => []
    | some t => (s.outcome? a).toList ++ t.outcomes rest

theorem isAcquiring_of_stage? (h : s.stage? place = some stage) :
    s.isAcquiring place = stage.isAcquiring := by
  rw [isAcquiring, h, Option.any_some]

theorem isAcquiring_of_loadStep {moving : Nat} {old new : LoadStage}
    (h : s.LoadStep moving a t old new) :
    t.isAcquiring place = if place = moving then new.isAcquiring else s.isAcquiring place := by
  have hloads : t.stage? place = (s.atStage moving new).stage? place := by
    rw [stage?, stage?, h.loads]
  by_cases hplace : place = moving
  · subst hplace
    rw [if_pos rfl, isAcquiring_of_stage? (hloads.trans (stage?_atStage h.stage))]
  · rw [if_neg hplace, isAcquiring, isAcquiring, hloads, stage?_atStage_of_ne hplace]

/-- A load is acquiring that was so before, or that begins to in this step. -/
theorem isAcquiring_effect (h : s.effect a = some t) (ht : t.isAcquiring place = true) :
    s.isAcquiring place = true ∨ ∃ clock later, a = .lookAgain place clock later ∧
      s.stage? place = some .holding ∧ s.fresh? clock = none := by
  obtain ⟨new, hnew, hacquiring⟩ := (Option.any_eq_true _ _).mp ht
  rcases stage?_effect h hnew with hold | rfl | ⟨old, hstep⟩
  · exact .inl ((isAcquiring_of_stage? hold).trans hacquiring)
  · cases hacquiring
  · have hstage := hstep.stage
    cases hstep.moves with
    | acquire hstale => exact .inr ⟨_, _, rfl, hstage, hstale⟩
    | _ => cases hacquiring

/-- The source counts the loads that begin to acquire. -/
theorem fetches_effect (h : s.effect a = some t) : t.fetches = s.fetches + s.starting t := by
  cases ha : a.load? with
  | none =>
      have hnone : s.starting t = 0 := by
        refine List.countP_eq_zero.mpr fun place _ hstarts => ?_
        obtain ⟨hafter, hbefore⟩ := Bool.and_eq_true_iff.mp hstarts
        rcases isAcquiring_effect h hafter with hsame | ⟨_, _, rfl, -, -⟩
        · simp [hsame] at hbefore
        · cases ha
      rw [hnone, (loads_of_effect ha h).2.2.1, Nat.add_zero]
  | some moving =>
      obtain ⟨old, new, hstep⟩ := loadStep_of_effect ha h
      have hmoving : moving < t.loads.length := by
        rw [hstep.loads]
        simpa [atStage] using lt_length_of_stage? hstep.stage
      cases hnew : new.isAcquiring with
      | false =>
          have hnone : s.starting t = 0 := by
            refine List.countP_eq_zero.mpr fun place _ => ?_
            rw [isAcquiring_of_loadStep hstep, hnew]
            split <;> simp
          rw [hnone, hstep.fetches, hnew, Nat.add_zero]
          rfl
      | true =>
          have hold : old.isAcquiring = false := by
            cases hstep.moves <;> first | rfl | cases hnew
          have hone : s.starting t = (List.range t.loads.length).count moving := by
            refine List.countP_congr fun place _ => ?_
            rw [isAcquiring_of_loadStep hstep, hnew]
            by_cases hplace : place = moving
            · simp [hplace, isAcquiring_of_stage? hstep.stage, hold]
            · simp [hplace]
          rw [hone, List.count_range, if_pos hmoving, hstep.fetches, hnew, if_pos rfl]

/-- After a row of actions the source has counted the acquisitions that have been started. -/
theorem fetches_run (h : s.run actions = some t) : t.fetches = s.fetches + s.started actions := by
  induction actions generalizing s with
  | nil =>
      cases h
      rfl
  | cons a rest ih =>
      obtain ⟨u, hstep, hrest⟩ := run_cons_eq_some_iff.mp h
      obtain ⟨v, heffect, rfl⟩ := step_eq_some_iff.mp hstep
      have hcount : v.fetches = s.fetches + s.starting v := fetches_effect heffect
      rw [ih hrest, started, hstep, ← Nat.add_assoc]
      exact congrArg (· + _) hcount

/-- A load that acquires has the lock. -/
theorem loadLocks_of_isAcquiring (h : s.isAcquiring place = true) : s.LoadLocks place := by
  obtain ⟨stage, hstage, hacquiring⟩ := (Option.any_eq_true _ _).mp h
  refine ⟨stage, hstage, ?_⟩
  cases stage with
  | acquiring now => rfl
  | _ => cases hacquiring

/-- Only one load at a time acquires. -/
theorem Exclusive.eq_of_isAcquiring (hs : s.Exclusive) (h : s.isAcquiring place = true)
    (h' : s.isAcquiring other = true) : place = other :=
  hs.eq_of_hasLock (loadLocks_of_isAcquiring h) (loadLocks_of_isAcquiring h')

/-- While a load has the lock that does not acquire, no load acquires. -/
theorem Exclusive.isAcquiring_eq_false (hs : s.Exclusive) (hstage : s.stage? place = some stage)
    (hlock : stage.hasLock = true) (hidle : stage.isAcquiring = false) :
    s.isAcquiring other = false := by
  cases hother : s.isAcquiring other with
  | false => rfl
  | true =>
      have hplace : other = place := hs.eq_of_hasLock (loadLocks_of_isAcquiring hother)
        ((loadLocks_iff hstage).mpr hlock)
      rw [← hother, hplace, isAcquiring_of_stage? hstage, hidle]

/-! ### Getting done -/

/-- How many steps of the load at a place may follow. -/
def remainingAt (s : State) (place : Nat) : Nat := ((s.stage? place).map remaining).getD 5

theorem remainingAt_of_stage? (h : s.stage? place = some stage) :
    s.remainingAt place = remaining stage := by
  rw [remainingAt, h, Option.map_some, Option.getD_some]

theorem remainingAt_le : s.remainingAt place ≤ 5 := by
  cases hstage : s.stage? place with
  | none => rw [remainingAt, hstage]; rfl
  | some stage =>
      rw [remainingAt_of_stage? hstage]
      cases stage <;> simp [remaining]

/-- A step of a load brings it further. -/
theorem remaining_lt_of_moves {old new : LoadStage} (h : s.Moves place a old new) :
    remaining new < remaining old := by
  cases h <;> simp [remaining]

/-- A step of a load uses up one of its steps, and no step gives it more of them. -/
theorem remainingAt_effect (h : s.effect a = some t) :
    t.remainingAt place + (if a.load? = some place then 1 else 0) ≤ s.remainingAt place := by
  cases hstage : s.stage? place with
  | none =>
      -- the load has not been called before this step
      have hfive : s.remainingAt place = 5 := by rw [remainingAt, hstage]; rfl
      have hother : a.load? ≠ some place := by
        intro ha
        obtain ⟨_, _, hstep⟩ := loadStep_of_effect ha h
        have hcalled := hstep.stage
        rw [hstage] at hcalled
        cases hcalled
      rw [if_neg hother, hfive]
      exact remainingAt_le
  | some old =>
      rw [remainingAt_of_stage? hstage]
      rcases stage?_of_effect h hstage with ⟨hother, hsame⟩ | ⟨new, hmine, hstep, hnew⟩
      · rw [if_neg hother, remainingAt_of_stage? hsame]
        exact Nat.le_refl _
      · rw [if_pos hmine, remainingAt_of_stage? hnew]
        exact remaining_lt_of_moves hstep.moves

/-- A load takes at most five steps. -/
theorem countP_load_le (h : s.run actions = some t) :
    t.remainingAt place + actions.countP (fun a => a.load? = some place) ≤ s.remainingAt place := by
  induction actions generalizing s with
  | nil =>
      cases h
      exact Nat.le_refl _
  | cons a rest ih =>
      obtain ⟨u, hstep, hrest⟩ := run_cons_eq_some_iff.mp h
      obtain ⟨v, heffect, rfl⟩ := step_eq_some_iff.mp hstep
      have hfirst : v.remainingAt place + (if a.load? = some place then 1 else 0) ≤
          s.remainingAt place := remainingAt_effect heffect
      have hlater := ih hrest
      change t.remainingAt place + rest.countP (fun a => a.load? = some place) ≤
        v.remainingAt place at hlater
      rw [List.countP_cons]
      simp only [decide_eq_true_eq]
      omega

/-- No load can take a step. -/
def IsAtRest (s : State) : Prop := ∀ a place, a.load? = some place → s.step a = none

/-- A load that has the lock can take a step, and so can one that waits for a lock that is free. -/
theorem exists_step_of_lock (hstage : s.stage? place = some stage) (hopen : 0 < remaining stage)
    (hlock : stage.hasLock = true ∨ s.holder = none) :
    ∃ a, a.load? = some place ∧ s.step a ≠ none := by
  have hfree : 3 < remaining stage → s.holder = none := by
    intro hearly
    rcases hlock with hlock | hfree
    · cases stage <;> simp [remaining, LoadStage.hasLock] at hearly hlock
    · exact hfree
  obtain ⟨a, u, _, ha, heffect, -⟩ := exists_effect hstage hopen hfree ⟨.midnight ⟨1970, 1, 1⟩, 0⟩
  have hstep := step_eq_some_iff.mpr ⟨u, heffect, rfl⟩
  exact ⟨a, ha.load?, by simp [hstep]⟩

/-- As long as a load is not done, some load can take a step, if no invalidation has the lock. -/
theorem exists_step_of_open (hs : s.Exclusive) (hnone : s.invalidations = [])
    (hstage : s.stage? place = some stage) (hopen : 0 < remaining stage) :
    ∃ a other, a.load? = some other ∧ s.step a ≠ none := by
  cases hholder : s.holder with
  | none =>
      obtain ⟨a, ha, hstep⟩ := exists_step_of_lock hstage hopen (.inr hholder)
      exact ⟨a, place, ha, hstep⟩
  | some task =>
      cases task with
      | load other =>
          -- it is the holder of the lock that can go on
          obtain ⟨held, hheld, hlock⟩ := (hs.load other).mpr hholder
          have hopen' : 0 < remaining held := by
            cases held <;> simp [remaining, LoadStage.hasLock] at hlock ⊢
          obtain ⟨a, ha, hstep⟩ := exists_step_of_lock hheld hopen' (.inl hlock)
          exact ⟨a, other, ha, hstep⟩
      | invalidation other =>
          obtain ⟨_, hfound, -⟩ := (hs.invalidation other).mpr hholder
          rw [hnone] at hfound
          cases hfound

/-- When no load can take a step, all loads are done, if there are no invalidations. -/
theorem done_of_isAtRest (hs : s.Exclusive) (hnone : s.invalidations = []) (hrest : s.IsAtRest)
    (hstage : s.stage? place = some stage) : ∃ answer, stage = .done answer := by
  rcases Nat.eq_zero_or_pos (remaining stage) with hzero | hopen
  · cases stage with
    | done answer => exact ⟨answer, rfl⟩
    | _ => simp [remaining] at hzero
  · obtain ⟨a, other, ha, hstep⟩ := exists_step_of_open hs hnone hstage hopen
    exact absurd (hrest a other ha) hstep

/-! ### Sharing -/

/-- Invalidations do not go away. -/
theorem length_invalidations_le (h : s.step a = some t) :
    s.invalidations.length ≤ t.invalidations.length := by
  obtain ⟨u, heffect, rfl⟩ := step_eq_some_iff.mp h
  cases ha : a.load? with
  | some moving =>
      obtain ⟨_, _, hstep⟩ := loadStep_of_effect ha heffect
      exact hstep.invalidations ▸ Nat.le_refl _
  | none =>
      cases otherStep_of_effect ha heffect with
      | invalidate | told _ _ | lockInvalidation _ _ | drop _ => simp
      | _ => exact Nat.le_refl _

/-- If there is no invalidation in the end, there has been none before. -/
theorem invalidations_eq_nil_of_step (h : s.step a = some t) (ht : t.invalidations = []) :
    s.invalidations = [] := by
  have hlength := length_invalidations_le h
  rw [ht] at hlength
  exact List.length_eq_zero_iff.mp (Nat.le_zero.mp hlength)

theorem invalidations_eq_nil_of_run (h : s.run actions = some t) (ht : t.invalidations = []) :
    s.invalidations = [] := by
  induction actions generalizing s with
  | nil =>
      cases h
      exact ht
  | cons a rest ih =>
      obtain ⟨u, hstep, hrest⟩ := run_cons_eq_some_iff.mp h
      exact invalidations_eq_nil_of_step hstep (ih hrest)

theorem outcome?_eq_some_iff {outcome : Except LoadFault CacheEntry} :
    s.outcome? a = some outcome ↔ ∃ place now, a = .read place ∧
      s.stage? place = some (.acquiring now) ∧ s.source.acquire s.outside now = outcome := by
  cases a with
  | read place =>
      cases hstage : s.stage? place with
      | none => simp [outcome?, hstage]
      | some stage => cases stage <;> simp [outcome?, hstage]
  | _ => simp [outcome?]

/-- A load that acquires goes on doing so until its acquisition ends. -/
theorem isAcquiring_of_outcome?_eq_none (h : s.effect a = some t) (hnone : s.outcome? a = none)
    (hs : s.isAcquiring place = true) : t.isAcquiring place = true := by
  obtain ⟨stage, hstage, hacquiring⟩ := (Option.any_eq_true _ _).mp hs
  rcases stage?_of_effect h hstage with ⟨-, hsame⟩ | ⟨new, -, hstep, -⟩
  · rw [isAcquiring_of_stage? hsame, hacquiring]
  · -- the only step that it can take is the end of its acquisition
    cases hstep.moves with
    | read _ => simp [outcome?, hstage] at hnone
    | fail _ => simp [outcome?, hstage] at hnone
    | _ => cases hacquiring

/-- Unless a load begins to acquire that did not before, the count of acquisitions stays as it is. -/
theorem fetches_of_not_starting (h : s.effect a = some t)
    (hsame : ∀ place, t.isAcquiring place = true → s.isAcquiring place = true) :
    t.fetches = s.fetches := by
  have hnone : s.starting t = 0 := by
    refine List.countP_eq_zero.mpr fun place _ hstarts => ?_
    obtain ⟨hafter, hbefore⟩ := Bool.and_eq_true_iff.mp hstarts
    simp [hsame place hafter] at hbefore
  rw [fetches_effect h, hnone, Nat.add_zero]

/-- A copy stays at hand until another one at hand takes its place, or it is set aside. -/
theorem atHand_of_effect (h : s.effect a = some t) (hc : s.AtHand c) :
    t.AtHand c ∨ (∃ place, a = .drop place) ∨ ∃ other, s.AtHand other ∧ t.copy = some other := by
  rcases hc with hkept | ⟨storer, hstoring⟩
  · cases ha : a.load? with
    | none =>
        rcases (loads_of_effect ha h).2.1 with hsame | ⟨place, rfl, -⟩
        · exact .inl (.inl (hsame.trans hkept))
        · exact .inr (.inl ⟨place, rfl⟩)
    | some moving =>
        obtain ⟨old, new, hstep⟩ := loadStep_of_effect ha h
        rcases hstep.copy with hsame | ⟨other, rfl, hstored⟩
        · exact .inl (.inl (hsame.trans hkept))
        · exact .inr (.inr ⟨other, .inr ⟨moving, hstep.stage⟩, hstored⟩)
  · rcases stage?_of_effect h hstoring with ⟨-, hsame⟩ | ⟨new, -, hstep, -⟩
    · exact .inl (.inr ⟨storer, hsame⟩)
    · cases hstep.moves
      obtain ⟨stored, hstored, rfl⟩ := store_eq_some_iff.mp h
      rw [hstoring] at hstored
      cases hstored
      exact .inl (.inl rfl)

/-- Nothing has been acquired yet: there is no copy and no answer, and no acquisition has been started
but for one that is going on. -/
structure Unacquired (s : State) (n : Nat) : Prop where
  not_atHand {c : Copy} : ¬ s.AtHand c
  not_done {place : Nat} {answer : Except LoadFault (String × Nat)} :
    s.stage? place ≠ some (.done answer)
  going {place : Nat} : s.isAcquiring place = true → s.fetches = n + 1
  idle : (∀ place, s.isAcquiring place = false) → s.fetches = n

/-- One acquisition has been started and has given a copy, which is the only one at hand; nobody
acquires, and all answers come from that copy. -/
structure Shares (s : State) (n : Nat) (c : Copy) : Prop where
  atHand : s.AtHand c
  eq_of_atHand {other : Copy} : s.AtHand other → other = c
  not_acquiring {place : Nat} : s.isAcquiring place = false
  answered {place : Nat} {answer : Except LoadFault (String × Nat)} :
    s.stage? place = some (.done answer) → answer = .ok (c.entry.content, c.readAt)
  fetches : s.fetches = n + 1

theorem unacquired_idle {source : Source} {outside : Outside} (hempty : source.entry = none) :
    (idle source outside).Unacquired source.fetches where
  not_atHand h := by simp [AtHand, stage?, State.idle, hempty] at h
  not_done h := by cases h
  going h := by cases h
  idle _ := rfl

/-- As long as no acquisition has ended, nothing has been acquired. -/
theorem Unacquired.step (hlock : s.Exclusive) (hs : s.Unacquired n) (h : s.step a = some t)
    (hnone : s.outcome? a = none) : t.Unacquired n := by
  obtain ⟨u, heffect, rfl⟩ := step_eq_some_iff.mp h
  constructor
  · intro c hc
    rcases atHand_effect heffect hc with hold | ⟨place, old, hstep⟩
    · exact hs.not_atHand hold
    · have hstage := hstep.stage
      cases hstep.moves
      simp [outcome?, hstage] at hnone
  · intro place answer hdone
    rcases done_effect heffect hdone with hold | ⟨c, hc, -⟩ | ⟨now, fault, hacquiring, rfl⟩
    · exact hs.not_done hold
    · exact hs.not_atHand hc
    · -- the load would have answered with a fault by the end of its acquisition
      have hgoing : u.isAcquiring place = true :=
        isAcquiring_of_outcome?_eq_none heffect hnone (isAcquiring_of_stage? hacquiring)
      have hended : u.isAcquiring place = false := isAcquiring_of_stage? hdone
      rw [hgoing] at hended
      cases hended
  · intro place hgoing
    rcases isAcquiring_effect heffect hgoing with hbefore | ⟨clock, later, rfl, hholding, hstale⟩
    · have hu : u.Exclusive := hlock.effect heffect
      have hsame : u.fetches = s.fetches := by
        refine fetches_of_not_starting heffect fun other hother => ?_
        rwa [hu.eq_of_isAcquiring hother hgoing]
      exact hsame.trans (hs.going hbefore)
    · obtain ⟨-, ⟨found, hfound, -⟩ | ⟨-, rfl⟩⟩ := lookAgain_eq_some_iff.mp heffect
      · rw [hstale] at hfound
        cases hfound
      · refine congrArg (· + 1) (hs.idle fun other => ?_)
        exact hlock.isAcquiring_eq_false hholding rfl rfl
  · intro hidle
    have hsame : u.fetches = s.fetches := by
      refine fetches_of_not_starting heffect fun place hplace => ?_
      rw [show u.isAcquiring place = false from hidle place] at hplace
      cases hplace
    refine hsame.trans (hs.idle fun place => ?_)
    cases hplace : s.isAcquiring place with
    | false => rfl
    | true =>
        exact (isAcquiring_of_outcome?_eq_none heffect hnone hplace).symm.trans (hidle place)

/-- When the first acquisition gives something, that is what all loads will share. -/
theorem Unacquired.share {e : CacheEntry} (hlock : s.Exclusive) (hs : s.Unacquired n)
    (h : s.step a = some t) (hsuccess : s.outcome? a = some (.ok e)) : t.Shares n ⟨e, s.time⟩ := by
  obtain ⟨place, now, rfl, hacquiring, hentry⟩ := outcome?_eq_some_iff.mp hsuccess
  obtain ⟨u, heffect, rfl⟩ := step_eq_some_iff.mp h
  have hstoring : s.atStage place (.storing ⟨e, s.time⟩) = u := by
    simpa [State.effect, read, hacquiring, hentry] using heffect
  subst hstoring
  have hu : (s.atStage place (.storing ⟨e, s.time⟩)).Exclusive := hlock.effect heffect
  have hended {other : Nat} :
      (s.atStage place (.storing ⟨e, s.time⟩)).isAcquiring other = false :=
    hu.isAcquiring_eq_false (stage?_atStage hacquiring) rfl rfl
  refine ⟨.inr ⟨place, stage?_atStage hacquiring⟩, fun hother => ?_, hended, fun hdone => ?_, ?_⟩
  · rcases hother with hkept | ⟨storer, hstorer⟩
    · exact absurd (.inl hkept) hs.not_atHand
    · rcases stage?_atStage_cases hstorer with ⟨-, hnew⟩ | ⟨-, hold⟩
      · cases hnew
        rfl
      · exact absurd (.inr ⟨storer, hold⟩) hs.not_atHand
  · rcases stage?_atStage_cases hdone with ⟨-, hnew⟩ | ⟨-, hold⟩
    · cases hnew
    · exact absurd hold hs.not_done
  · exact hs.going (isAcquiring_of_stage? hacquiring)

/-- As long as the copy is fresh and nobody sets it aside, it is shared. -/
theorem Shares.step (hlock : s.Exclusive) (hs : s.Shares n c) (h : s.step a = some t)
    (hnone : t.invalidations = []) (hfresh : ∀ clock, a.clock? = some clock → ¬ c.entry.IsStale clock) :
    t.Shares n c := by
  obtain ⟨u, heffect, rfl⟩ := step_eq_some_iff.mp h
  have hidle {place : Nat} : u.isAcquiring place = false := by
    cases hplace : u.isAcquiring place with
    | false => rfl
    | true =>
        rcases isAcquiring_effect heffect hplace with hbefore | ⟨clock, _, rfl, hholding, hstale⟩
        · rw [← hs.not_acquiring, hbefore]
        · -- the load has the lock, so the copy is not about to be stored but kept, and it is fresh
          rcases hs.atHand with hkept | ⟨storer, hstoring⟩
          · have hfound : s.fresh? clock = some (c.entry.content, c.readAt) :=
              fresh?_eq_some_iff.mpr
                ⟨c, hkept, CacheEntry.isFresh_iff.mpr (hfresh clock rfl), rfl⟩
            rw [hstale] at hfound
            cases hfound
          · obtain rfl : storer = place := hlock.eq_of_hasLock ⟨_, hstoring, rfl⟩ ⟨_, hholding, rfl⟩
            rw [hholding] at hstoring
            cases hstoring
  refine ⟨?_, fun hother => ?_, hidle, fun hdone => ?_, ?_⟩
  · rcases atHand_of_effect heffect hs.atHand with hstill | ⟨place, rfl⟩ | ⟨other, hother, hstored⟩
    · exact hstill
    · obtain ⟨_, hholding, -⟩ := drop_eq_some_iff.mp heffect
      rw [invalidations_eq_nil_of_step h hnone] at hholding
      cases hholding
    · exact .inl (hs.eq_of_atHand hother ▸ hstored)
  · rcases atHand_effect heffect hother with hold | ⟨place, old, hstep⟩
    · exact hs.eq_of_atHand hold
    · have hstage := hstep.stage
      cases hstep.moves
      have hacquiring : s.isAcquiring place = true := isAcquiring_of_stage? hstage
      rw [hs.not_acquiring] at hacquiring
      cases hacquiring
  · rcases done_effect heffect hdone with hold | ⟨other, hother, rfl⟩ | ⟨_, _, hstage, -⟩
    · exact hs.answered hold
    · rw [hs.eq_of_atHand hother]
    · have hacquiring : s.isAcquiring _ = true := isAcquiring_of_stage? hstage
      rw [hs.not_acquiring] at hacquiring
      cases hacquiring
  · have hsame : u.fetches = s.fetches := by
      refine fetches_of_not_starting heffect fun place hplace => ?_
      rw [hidle] at hplace
      cases hplace
    exact hsame.trans hs.fetches

theorem Shares.run (hlock : s.Exclusive) (hs : s.Shares n c) (h : s.run actions = some t)
    (hnone : t.invalidations = [])
    (hfresh : ∀ a ∈ actions, ∀ clock, a.clock? = some clock → ¬ c.entry.IsStale clock) :
    t.Shares n c := by
  induction actions generalizing s with
  | nil =>
      cases h
      exact hs
  | cons a rest ih =>
      obtain ⟨u, hstep, hrest⟩ := run_cons_eq_some_iff.mp h
      have hshares : u.Shares n c := hs.step hlock hstep (invalidations_eq_nil_of_run hrest hnone)
        (hfresh a List.mem_cons_self)
      exact ih (hlock.step hstep) hshares hrest fun b hb => hfresh b (List.mem_cons_of_mem a hb)

/-- Once the first acquisition has given something, all loads share it. -/
theorem Unacquired.run {e : CacheEntry} (hlock : s.Exclusive) (hs : s.Unacquired n)
    (h : s.run actions = some t) (hnone : t.invalidations = [])
    (hfirst : (s.outcomes actions).head? = some (.ok e))
    (hfresh : ∀ a ∈ actions, ∀ clock, a.clock? = some clock → ¬ e.IsStale clock) :
    ∃ readAt, t.Shares n ⟨e, readAt⟩ := by
  induction actions generalizing s with
  | nil => cases hfirst
  | cons a rest ih =>
      obtain ⟨u, hstep, hrest⟩ := run_cons_eq_some_iff.mp h
      have hlater : ∀ b ∈ rest, ∀ clock, b.clock? = some clock → ¬ e.IsStale clock :=
        fun b hb => hfresh b (List.mem_cons_of_mem a hb)
      simp only [outcomes, hstep] at hfirst
      cases houtcome : s.outcome? a with
      | none =>
          rw [houtcome] at hfirst
          exact ih (hlock.step hstep) (hs.step hlock hstep houtcome) hrest hfirst hlater
      | some outcome =>
          rw [houtcome] at hfirst
          cases hfirst
          exact ⟨s.time, (hs.share hlock hstep houtcome).run (hlock.step hstep) hrest hnone hlater⟩

/-- For loads that run side by side, whatever else happens:

* only one of them acquires at a time;
* the source counts the acquisitions that are started;
* if nothing was kept at first and nobody sets anything aside, and no clock shows that what the first
  acquisition has given has expired, then no second one is started, and every load that is done answers
  with it; when no load can take a step, all are done;
* no load takes more than five steps. -/
theorem shared_of_run {source : Source} {outside : Outside}
    (h : (idle source outside).run actions = some t) :
    (∀ place other, t.isAcquiring place = true → t.isAcquiring other = true → place = other) ∧
    t.fetches = source.fetches + (idle source outside).started actions ∧
    (∀ e, source.entry = none → t.invalidations = [] →
      ((idle source outside).outcomes actions).head? = some (.ok e) →
      (∀ a ∈ actions, ∀ clock, a.clock? = some clock → ¬ e.IsStale clock) →
      (idle source outside).started actions = 1 ∧
        (∀ l ∈ t.loads, ∀ answer, l.stage = .done answer → answer.map Prod.fst = .ok e.content) ∧
        (t.IsAtRest → ∀ l ∈ t.loads, ∃ answer, l.stage = .done answer)) ∧
    ∀ place, actions.countP (fun a => a.load? = some place) ≤ 5 := by
  have hlock : t.Exclusive := exclusive_of_reachable (reachable_of_run .start h)
  have hcount : t.fetches = source.fetches + (idle source outside).started actions := fetches_run h
  refine ⟨fun _ _ => hlock.eq_of_isAcquiring, hcount, fun e hempty hnone hfirst hfresh => ?_,
    fun place => ?_⟩
  · obtain ⟨readAt, hshares⟩ :=
      (unacquired_idle hempty).run (exclusive_idle source outside) h hnone hfirst hfresh
    have hstage {l : Load} (hl : l ∈ t.loads) : ∃ place, t.stage? place = some l.stage := by
      obtain ⟨place, hplace⟩ := List.getElem?_of_mem hl
      exact ⟨place, by rw [stage?, hplace, Option.map_some]⟩
    refine ⟨?_, fun l hl answer hdone => ?_, fun hrest l hl => ?_⟩
    · have hone := hshares.fetches
      omega
    · obtain ⟨place, hplace⟩ := hstage hl
      rw [hdone] at hplace
      rw [hshares.answered hplace]
      rfl
    · obtain ⟨place, hplace⟩ := hstage hl
      exact done_of_isAtRest hlock hnone hrest hplace
  · have hmost : (idle source outside).remainingAt place = 5 := rfl
    have hsteps : t.remainingAt place + actions.countP (fun a => a.load? = some place) ≤
        (idle source outside).remainingAt place := countP_load_le h
    omega

/-! ### Three loads -/

/-- A source that keeps what it has read for an hour. -/
def hourlySource : Source := { location := .inline "a", fallbackTtl := some ⟨3600000000000, by decide⟩ }

def emptyWorld : Outside := { read := fun _ => .error .notFound, transport := fun _ => none }

def afterNoon (seconds : Nat) : Instant := ⟨⟨⟨2026, 1, 1⟩, 43200 + seconds, 0⟩, 0⟩

/-- Two loads find nothing, and one of them acquires. The other has to wait and then finds what the
first has acquired; so does a third one at once, which is called in between. -/
def threeLoads : List Action :=
  [.call, .call, .look 0 (afterNoon 0), .look 1 (afterNoon 1), .lock 0,
    .lookAgain 0 (afterNoon 2) (afterNoon 3), .call, .read 0, .store 0, .lock 1,
    .look 2 (afterNoon 5), .lookAgain 1 (afterNoon 6) (afterNoon 7)]

def sharedEntry : CacheEntry := ⟨"a", afterNoon 3, some (afterNoon 3603)⟩

def threeLoadsEnd : State :=
  { location := .inline "a"
    fallbackTtl := some ⟨3600000000000, by decide⟩
    outside := emptyWorld
    copy := some ⟨sharedEntry, 7⟩
    fetches := 1
    loads := [⟨0, .done (.ok ("a", 7))⟩, ⟨1, .done (.ok ("a", 7))⟩, ⟨6, .done (.ok ("a", 7))⟩]
    time := 12 }

/-- One acquisition serves all three of them. -/
theorem shared_threeLoads :
    (idle hourlySource emptyWorld).run threeLoads = some threeLoadsEnd ∧
      threeLoadsEnd.loads.length = 3 ∧ (idle hourlySource emptyWorld).started threeLoads = 1 ∧
      threeLoadsEnd.fetches = 1 ∧
      ∀ l ∈ threeLoadsEnd.loads, ∀ answer, l.stage = .done answer →
        answer.map Prod.fst = .ok "a" := by
  have hrun : (idle hourlySource emptyWorld).run threeLoads = some threeLoadsEnd := rfl
  have hclocks : ∀ a ∈ threeLoads, a.clock?.all (fun clock => sharedEntry.isFresh clock.toUtc) = true := by
    decide
  have hfresh : ∀ a ∈ threeLoads, ∀ clock, a.clock? = some clock → ¬ sharedEntry.IsStale clock := by
    intro a ha clock hclock
    have hall := hclocks a ha
    rw [hclock] at hall
    exact CacheEntry.isFresh_iff.mp hall
  obtain ⟨-, hcount, hshared, -⟩ := shared_of_run hrun
  obtain ⟨hone, hanswers, -⟩ := hshared sharedEntry rfl rfl rfl hfresh
  exact ⟨hrun, rfl, hone, hcount.trans (congrArg (0 + ·) hone), hanswers⟩

end State

end AutoProxy.Source.Concurrent
