import AutoProxy.Source.Concurrent

/-!
The steps of the tasks at a source, each told by when it can happen and what it leads to. What a state
means for a task, its stage and what it would find fresh, is told once here for each way in which
a step changes a state.

A copy is at hand if it is kept or about to be. Copies come to hand only by being read
(`atHand_effect`), and what a load answers is always a copy at hand (`done_effect`).
-/

namespace AutoProxy.Source.Concurrent

open Calendar

/-- The load that takes a step by an action, if it is the step of a load. -/
def Action.load? : Action → Option Nat
  | .look place _ | .lock place | .lookAgain place _ _ | .read place | .store place => some place
  | _ => none

/-- Whether a load at the stage is acquiring. -/
def LoadStage.isAcquiring : LoadStage → Bool
  | .acquiring _ => true
  | _ => false

namespace State

variable {s t : State} {place other : Nat} {clock later : Instant} {stage new : LoadStage} {a : Action}
  {c : Copy}

/-! ### Stages -/

theorem lt_length_of_stage? (h : s.stage? place = some stage) : place < s.loads.length := by
  obtain ⟨load, hload, -⟩ := Option.map_eq_some_iff.mp h
  exact (List.getElem?_eq_some_iff.mp hload).1

theorem stage?_atStage {old : LoadStage} (h : s.stage? place = some old) :
    (s.atStage place stage).stage? place = some stage := by
  obtain ⟨load, hload, -⟩ := Option.map_eq_some_iff.mp h
  simp [stage?, atStage, hload]

theorem stage?_atStage_of_ne (h : other ≠ place) :
    (s.atStage place stage).stage? other = s.stage? other := by
  simp [stage?, atStage, Ne.symm h]

/-- A load is at the stage to which it has been brought, or where it was. -/
theorem stage?_atStage_cases (h : (s.atStage place stage).stage? other = some new) :
    (other = place ∧ new = stage) ∨ (other ≠ place ∧ s.stage? other = some new) := by
  by_cases hplace : other = place
  · subst hplace
    obtain ⟨load, hload, rfl⟩ := Option.map_eq_some_iff.mp h
    simp only [atStage, List.getElem?_modify_eq, Option.map_eq_map, Option.map_eq_some_iff] at hload
    obtain ⟨old, -, rfl⟩ := hload
    exact .inl ⟨rfl, rfl⟩
  · rw [stage?_atStage_of_ne hplace] at h
    exact .inr ⟨hplace, h⟩

/-- A load that has just been called has begun; the others are where they were. -/
theorem stage?_call_cases {load : Load} (hbegun : load.stage = .begun)
    (h : stage? { s with loads := s.loads ++ [load] } other = some new) :
    s.stage? other = some new ∨ new = .begun := by
  obtain ⟨found, hfound, rfl⟩ := Option.map_eq_some_iff.mp h
  rw [List.getElem?_append] at hfound
  split at hfound
  · exact .inl (by rw [stage?, hfound, Option.map_some])
  · obtain rfl : found = load := by simpa using List.mem_of_getElem? hfound
    exact .inr hbegun

/-! ### Steps of a load -/

@[simp]
theorem source_answered {answer : Except LoadFault (String × Nat)} :
    (s.answered place answer).source = s.source := rfl

/-- What a load finds fresh is the text that the source has fresh. -/
theorem map_fresh? : (s.fresh? clock).map Prod.fst = s.source.freshContent clock.toUtc := by
  cases hcopy : s.copy with
  | none => simp [fresh?, source, Source.freshContent, hcopy]
  | some copy =>
      cases hfresh : copy.entry.isFresh clock.toUtc with
      | true => simp [fresh?, source, Source.freshContent, hcopy, Option.filter, hfresh]
      | false => simp [fresh?, source, Source.freshContent, hcopy, Option.filter, hfresh]

theorem fresh?_eq_none_iff : s.fresh? clock = none ↔ s.source.freshContent clock.toUtc = none := by
  rw [← map_fresh?, Option.map_eq_none_iff]

/-- What a load finds fresh is the copy that is kept. -/
theorem fresh?_eq_some_iff {text : String × Nat} :
    s.fresh? clock = some text ↔
      ∃ c, s.copy = some c ∧ c.entry.isFresh clock.toUtc = true ∧ (c.entry.content, c.readAt) = text := by
  simp [fresh?, and_assoc]

theorem look_eq_some_iff :
    s.look place clock = some t ↔ s.stage? place = some .begun ∧
      ((∃ found, s.fresh? clock = some found ∧ s.atStage place (.done (.ok found)) = t) ∨
        (s.fresh? clock = none ∧ s.atStage place .waiting = t)) := by
  cases hstage : s.stage? place with
  | none => simp [look, hstage]
  | some stage => cases stage <;> cases hfresh : s.fresh? clock <;> simp [look, hstage, hfresh]

theorem lock_eq_some_iff :
    s.lock place = some t ↔ s.stage? place = some .waiting ∧ s.holder = none ∧
      { s.atStage place .holding with holder := some (.load place) } = t := by
  cases hstage : s.stage? place with
  | none => simp [lock, hstage]
  | some stage => cases stage <;> cases hholder : s.holder <;> simp [lock, hstage, hholder]

theorem lookAgain_eq_some_iff :
    s.lookAgain place clock later = some t ↔ s.stage? place = some .holding ∧
      ((∃ found, s.fresh? clock = some found ∧ s.answered place (.ok found) = t) ∨
        (s.fresh? clock = none ∧
          { s.atStage place (.acquiring later.toUtc) with fetches := s.fetches + 1 } = t)) := by
  cases hstage : s.stage? place with
  | none => simp [lookAgain, hstage]
  | some stage =>
      cases stage <;> cases hfresh : s.fresh? clock <;> simp [lookAgain, hstage, hfresh]

theorem read_eq_some_iff :
    s.read place = some t ↔ ∃ now, s.stage? place = some (.acquiring now) ∧
      ((∃ entry, s.source.acquire s.outside now = .ok entry ∧
          s.atStage place (.storing ⟨entry, s.time⟩) = t) ∨
        (∃ fault, s.source.acquire s.outside now = .error fault ∧
          s.answered place (.error fault) = t)) := by
  cases hstage : s.stage? place with
  | none => simp [read, hstage]
  | some stage =>
      cases stage with
      | acquiring now =>
          cases hacquire : s.source.acquire s.outside now <;> simp [read, hstage, hacquire]
      | _ => simp [read, hstage]

theorem store_eq_some_iff :
    s.store place = some t ↔ ∃ copy, s.stage? place = some (.storing copy) ∧
      { s.answered place (.ok (copy.entry.content, copy.readAt)) with copy := some copy } = t := by
  cases hstage : s.stage? place with
  | none => simp [store, hstage]
  | some stage => cases stage <;> simp [store, hstage]

/-! ### Steps of an invalidation -/

theorem lockInvalidation_eq_some_iff :
    s.lockInvalidation place = some t ↔ s.invalidations[place]? = some .waiting ∧ s.holder = none ∧
      { s with
        invalidations := s.invalidations.set place (.holding s.time)
        holder := some (.invalidation place) } = t := by
  cases hfound : s.invalidations[place]? with
  | none => simp [lockInvalidation, hfound]
  | some i => cases i <;> cases hholder : s.holder <;> simp [lockInvalidation, hfound, hholder]

theorem drop_eq_some_iff :
    s.drop place = some t ↔ ∃ since, s.invalidations[place]? = some (.holding since) ∧
      { s with
        copy := none
        invalidations := s.invalidations.set place (.done since s.time)
        holder := none } = t := by
  cases hfound : s.invalidations[place]? with
  | none => simp [drop, hfound]
  | some i => cases i <;> simp [drop, hfound]

/-! ### Writes and events -/

theorem write_eq_some_iff {outside : Outside} {events : List Watch.Event} :
    s.write outside events = some t ↔ (∃ e ∈ events, s.isAffected e = true) ∧
      { s with outside, events := s.events ++ events, lastWrite := s.time } = t := by
  simp only [write, Option.ite_none_right_eq_some, List.any_eq_true, Option.some.injEq]

theorem notice_eq_some_iff :
    s.notice = some t ↔ ∃ e rest, s.events = e :: rest ∧
      ((s.isAffected e = true ∧
          { s with events := rest, invalidations := s.invalidations ++ [.waiting] } = t) ∨
        (s.isAffected e = false ∧ { s with events := rest } = t)) := by
  cases hevents : s.events with
  | nil => simp [notice, hevents]
  | cons e rest =>
      cases haffected : s.isAffected e <;> simp [notice, hevents, haffected, and_assoc]

/-! ### All steps -/

theorem step_eq_some_iff : s.step a = some t ↔ ∃ u, s.effect a = some u ∧
    { u with time := s.time + 1 } = t := by
  rw [step, Option.map_eq_some_iff]

theorem run_cons_eq_some_iff {rest : List Action} :
    s.run (a :: rest) = some t ↔ ∃ u, s.step a = some u ∧ u.run rest = some t := by
  rw [run, Option.bind_eq_some_iff]

/-- A row of actions leads to a state that the steps of tasks lead to. -/
theorem reachable_of_run {start : State} {actions : List Action} (hs : Reachable start s)
    (h : s.run actions = some t) : Reachable start t := by
  induction actions generalizing s with
  | nil =>
      cases h
      exact hs
  | cons a rest ih =>
      obtain ⟨u, hstep, hrest⟩ := run_cons_eq_some_iff.mp h
      exact ih (.step a hs hstep) hrest

/-- What an action of the load at a place makes of its stage, and when. -/
inductive Moves (s : State) (place : Nat) : Action → LoadStage → LoadStage → Prop where
  | found {clock : Instant} {c : Copy} :
      s.copy = some c → c.entry.isFresh clock.toUtc = true →
      Moves s place (.look place clock) .begun (.done (.ok (c.entry.content, c.readAt)))
  | wait {clock : Instant} :
      s.fresh? clock = none → Moves s place (.look place clock) .begun .waiting
  | lock : s.holder = none → Moves s place (.lock place) .waiting .holding
  | foundAgain {clock later : Instant} {c : Copy} :
      s.copy = some c → c.entry.isFresh clock.toUtc = true →
      Moves s place (.lookAgain place clock later) .holding (.done (.ok (c.entry.content, c.readAt)))
  | acquire {clock later : Instant} :
      s.fresh? clock = none →
      Moves s place (.lookAgain place clock later) .holding (.acquiring later.toUtc)
  | read {now : Instant} {entry : CacheEntry} :
      s.source.acquire s.outside now = .ok entry →
      Moves s place (.read place) (.acquiring now) (.storing ⟨entry, s.time⟩)
  | fail {now : Instant} {fault : LoadFault} :
      s.source.acquire s.outside now = .error fault →
      Moves s place (.read place) (.acquiring now) (.done (.error fault))
  | store {c : Copy} :
      Moves s place (.store place) (.storing c) (.done (.ok (c.entry.content, c.readAt)))

/-- A step of the load at a place. Of what the tasks share it can change no more than the lock, the count
of acquisitions and the copy, which it replaces by the one that it stores. -/
structure LoadStep (s : State) (place : Nat) (a : Action) (t : State) (old new : LoadStage) :
    Prop where
  stage : s.stage? place = some old
  moves : s.Moves place a old new
  loads : t.loads = (s.atStage place new).loads
  copy : t.copy = s.copy ∨ ∃ c, old = .storing c ∧ t.copy = some c
  fetches : t.fetches = if new.isAcquiring then s.fetches + 1 else s.fetches
  location : t.location = s.location
  outside : t.outside = s.outside
  events : t.events = s.events
  lastWrite : t.lastWrite = s.lastWrite
  invalidations : t.invalidations = s.invalidations

/-- An action of a load does what it should with the load. -/
theorem loadStep_of_effect (ha : a.load? = some place) (h : s.effect a = some t) :
    ∃ old new, s.LoadStep place a t old new := by
  cases a with
  | look =>
      cases ha
      obtain ⟨hbegun, ⟨text, hfresh, rfl⟩ | ⟨hstale, rfl⟩⟩ := look_eq_some_iff.mp h
      · obtain ⟨c, hcopy, hc, rfl⟩ := fresh?_eq_some_iff.mp hfresh
        exact ⟨_, _, hbegun, .found hcopy hc, rfl, .inl rfl, rfl, rfl, rfl, rfl, rfl, rfl⟩
      · exact ⟨_, _, hbegun, .wait hstale, rfl, .inl rfl, rfl, rfl, rfl, rfl, rfl, rfl⟩
  | lock =>
      cases ha
      obtain ⟨hwaiting, hfree, rfl⟩ := lock_eq_some_iff.mp h
      exact ⟨_, _, hwaiting, .lock hfree, rfl, .inl rfl, rfl, rfl, rfl, rfl, rfl, rfl⟩
  | lookAgain =>
      cases ha
      obtain ⟨hholding, ⟨text, hfresh, rfl⟩ | ⟨hstale, rfl⟩⟩ := lookAgain_eq_some_iff.mp h
      · obtain ⟨c, hcopy, hc, rfl⟩ := fresh?_eq_some_iff.mp hfresh
        exact ⟨_, _, hholding, .foundAgain hcopy hc, rfl, .inl rfl, rfl, rfl, rfl, rfl, rfl, rfl⟩
      · exact ⟨_, _, hholding, .acquire hstale, rfl, .inl rfl, rfl, rfl, rfl, rfl, rfl, rfl⟩
  | read =>
      cases ha
      obtain ⟨now, hacquiring, ⟨entry, hentry, rfl⟩ | ⟨fault, hfault, rfl⟩⟩ := read_eq_some_iff.mp h
      · exact ⟨_, _, hacquiring, .read hentry, rfl, .inl rfl, rfl, rfl, rfl, rfl, rfl, rfl⟩
      · exact ⟨_, _, hacquiring, .fail hfault, rfl, .inl rfl, rfl, rfl, rfl, rfl, rfl, rfl⟩
  | store =>
      cases ha
      obtain ⟨c, hstoring, rfl⟩ := store_eq_some_iff.mp h
      exact ⟨_, _, hstoring, .store, rfl, .inr ⟨c, rfl, rfl⟩, rfl, rfl, rfl, rfl, rfl, rfl⟩
  | _ => cases ha

/-- What an action that is not one of a load makes of a state, and when. -/
inductive OtherStep (s : State) : Action → State → Prop where
  | call : OtherStep s .call { s with loads := s.loads ++ [{ begunAt := s.time }] }
  | invalidate : OtherStep s .invalidate { s with invalidations := s.invalidations ++ [.waiting] }
  | lockInvalidation {place : Nat} :
      s.invalidations[place]? = some .waiting → s.holder = none →
      OtherStep s (.lockInvalidation place) { s with
        invalidations := s.invalidations.set place (.holding s.time)
        holder := some (.invalidation place) }
  | drop {place since : Nat} :
      s.invalidations[place]? = some (.holding since) →
      OtherStep s (.drop place) { s with
        copy := none
        invalidations := s.invalidations.set place (.done since s.time)
        holder := none }
  | write {outside : Outside} {events : List Watch.Event} {e : Watch.Event} :
      e ∈ events → s.isAffected e = true →
      OtherStep s (.write outside events) { s with
        outside, events := s.events ++ events, lastWrite := s.time }
  | change {outside : Outside} {events : List Watch.Event} :
      OtherStep s (.change outside events) { s with
        outside := elsewhere s.location s.outside outside, events := s.events ++ events }
  | told {e : Watch.Event} {rest : List Watch.Event} :
      s.events = e :: rest → s.isAffected e = true →
      OtherStep s .notice { s with events := rest, invalidations := s.invalidations ++ [.waiting] }
  | ignored {e : Watch.Event} {rest : List Watch.Event} :
      s.events = e :: rest → s.isAffected e = false →
      OtherStep s .notice { s with events := rest }

theorem otherStep_of_effect (ha : a.load? = none) (h : s.effect a = some t) : s.OtherStep a t := by
  cases a with
  | call =>
      cases h
      exact .call
  | invalidate =>
      cases h
      exact .invalidate
  | lockInvalidation =>
      obtain ⟨hwaiting, hfree, rfl⟩ := lockInvalidation_eq_some_iff.mp h
      exact .lockInvalidation hwaiting hfree
  | drop =>
      obtain ⟨_, hholding, rfl⟩ := drop_eq_some_iff.mp h
      exact .drop hholding
  | write =>
      obtain ⟨⟨_, he, haffected⟩, rfl⟩ := write_eq_some_iff.mp h
      exact .write he haffected
  | change =>
      cases h
      exact .change
  | notice =>
      obtain ⟨_, _, hevents, ⟨haffected, rfl⟩ | ⟨hother, rfl⟩⟩ := notice_eq_some_iff.mp h
      · exact .told hevents haffected
      · exact .ignored hevents hother
  | _ => cases ha

/-- Such an action brings no load to another stage. It may call one, and an invalidation may set aside
what is kept. -/
theorem loads_of_effect (ha : a.load? = none) (h : s.effect a = some t) :
    (t.loads = s.loads ∨ t.loads = s.loads ++ [{ begunAt := s.time }]) ∧
      (t.copy = s.copy ∨ ∃ place, a = .drop place ∧ t.copy = none) ∧ t.fetches = s.fetches ∧
      t.location = s.location := by
  cases otherStep_of_effect ha h with
  | call => exact ⟨.inr rfl, .inl rfl, rfl, rfl⟩
  | drop _ => exact ⟨.inl rfl, .inr ⟨_, rfl, rfl⟩, rfl, rfl⟩
  | _ => exact ⟨.inl rfl, .inl rfl, rfl, rfl⟩

/-- No step moves a source to another place. -/
theorem location_effect (h : s.effect a = some t) : t.location = s.location := by
  cases ha : a.load? with
  | none => exact (loads_of_effect ha h).2.2.2
  | some place =>
      obtain ⟨_, _, hstep⟩ := loadStep_of_effect ha h
      exact hstep.location

/-- A load is where it was, or has just been called, or has been brought to its stage by this step. -/
theorem stage?_effect (h : s.effect a = some t) (hstage : t.stage? place = some new) :
    s.stage? place = some new ∨ new = .begun ∨ ∃ old, s.LoadStep place a t old new := by
  cases ha : a.load? with
  | none =>
      rcases (loads_of_effect ha h).1 with hloads | hloads
      · rw [stage?, hloads] at hstage
        exact .inl hstage
      · rw [stage?, hloads] at hstage
        exact (stage?_call_cases rfl hstage).imp_right .inl
  | some moving =>
      obtain ⟨old, brought, hstep⟩ := loadStep_of_effect ha h
      rw [stage?, hstep.loads] at hstage
      rcases stage?_atStage_cases hstage with ⟨rfl, rfl⟩ | ⟨-, hold⟩
      · exact .inr (.inr ⟨old, hstep⟩)
      · exact .inl hold

/-- A load stays where it is unless the action is one of its own, which brings it to another stage. -/
theorem stage?_of_effect {old : LoadStage} (h : s.effect a = some t)
    (hstage : s.stage? place = some old) :
    (a.load? ≠ some place ∧ t.stage? place = some old) ∨
      ∃ new, a.load? = some place ∧ s.LoadStep place a t old new ∧ t.stage? place = some new := by
  cases ha : a.load? with
  | none =>
      refine .inl ⟨nofun, ?_⟩
      rcases (loads_of_effect ha h).1 with hloads | hloads
      · rwa [stage?, hloads]
      · rwa [stage?, hloads, List.getElem?_append_left (lt_length_of_stage? hstage)]
  | some moving =>
      obtain ⟨found, new, hstep⟩ := loadStep_of_effect ha h
      by_cases hplace : place = moving
      · subst hplace
        obtain rfl : found = old := by simpa [hstage] using hstep.stage.symm
        refine .inr ⟨new, rfl, hstep, ?_⟩
        rw [stage?, hstep.loads]
        exact stage?_atStage hstage
      · refine .inl ⟨fun hmoving => hplace (Option.some.inj hmoving).symm, ?_⟩
        rw [stage?, hstep.loads]
        exact (stage?_atStage_of_ne hplace).trans hstage

/-! ### Copies and answers -/

/-- A copy is at hand if it is kept, or a load is about to store it. -/
def AtHand (s : State) (c : Copy) : Prop :=
  s.copy = some c ∨ ∃ place, s.stage? place = some (.storing c)

/-- Only what a load reads in this step comes to hand. -/
theorem atHand_effect (h : s.effect a = some t) (hc : t.AtHand c) :
    s.AtHand c ∨ ∃ place old, s.LoadStep place a t old (.storing c) := by
  rcases hc with hcopy | ⟨place, hstoring⟩
  · left
    cases ha : a.load? with
    | none =>
        rcases (loads_of_effect ha h).2.1 with hsame | ⟨_, -, hnone⟩
        · exact .inl (hsame ▸ hcopy)
        · rw [hnone] at hcopy
          cases hcopy
    | some moving =>
        obtain ⟨old, new, hstep⟩ := loadStep_of_effect ha h
        rcases hstep.copy with hsame | ⟨stored, rfl, hstored⟩
        · exact .inl (hsame ▸ hcopy)
        · rw [hstored] at hcopy
          cases hcopy
          exact .inr ⟨moving, hstep.stage⟩
  · rcases stage?_effect h hstoring with hold | hbegun | ⟨old, hstep⟩
    · exact .inl (.inr ⟨place, hold⟩)
    · cases hbegun
    · exact .inr ⟨place, old, hstep⟩

/-- A load answers with a copy at hand, or with the fault of its own acquisition. -/
theorem done_effect {answer : Except LoadFault (String × Nat)} (h : s.effect a = some t)
    (hdone : t.stage? place = some (.done answer)) :
    s.stage? place = some (.done answer) ∨
      (∃ c, s.AtHand c ∧ answer = .ok (c.entry.content, c.readAt)) ∨
      ∃ now fault, s.stage? place = some (.acquiring now) ∧ answer = .error fault := by
  rcases stage?_effect h hdone with hold | hbegun | ⟨old, hstep⟩
  · exact .inl hold
  · cases hbegun
  · right
    have hstage := hstep.stage
    cases hstep.moves with
    | found hcopy _ => exact .inl ⟨_, .inl hcopy, rfl⟩
    | foundAgain hcopy _ => exact .inl ⟨_, .inl hcopy, rfl⟩
    | fail _ => exact .inr ⟨_, _, hstage, rfl⟩
    | store => exact .inl ⟨_, .inr ⟨_, hstage⟩, rfl⟩

end State

end AutoProxy.Source.Concurrent
