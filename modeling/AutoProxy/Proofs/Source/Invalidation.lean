import AutoProxy.Proofs.Source.Calls
import AutoProxy.Proofs.Source.Lock

/-!
Nothing outlives its invalidation. A load may have read the file before it was written anew, and may
store what it has read only afterwards; but it has the lock from before the reading until after the
storing, and an invalidation needs the lock as well. So whatever is kept or about to be has been read
after every invalidation that is done (`Heeded`), and a write that has led to no invalidation yet still
has its event or a task that is to set the old text aside (`Noticed`).

Once all events are told and all invalidations done, what is kept is what the file holds; and loads that
are called after an invalidation answer with what has been read after it (`heeded_of_reachable`).
-/

namespace AutoProxy.Source

open Calendar

/-- An acquisition from a file gives the text of the file. -/
theorem content_of_acquire {s : Source} {path : Path} {outside : Outside} {now : Instant}
    {e : CacheEntry} (hfile : s.location = .file path) (h : s.acquire outside now = .ok e) :
    ∃ bytes, outside.read path = .ok bytes ∧ e.content = fileText bytes := by
  cases acquire_eq_iff.mp h with
  | read hfetch _ =>
      rw [hfile] at hfetch
      cases hread : outside.read path with
      | error fault => simp [fetch, hread] at hfetch
      | ok bytes =>
          simp only [fetch, hread, Except.ok.injEq, Web.Download.mk.injEq] at hfetch
          exact ⟨bytes, rfl, hfetch.1.symm⟩

namespace Concurrent

def Invalidation.isDone : Invalidation → Bool
  | .done _ _ => true
  | .waiting | .holding _ => false

namespace State

variable {s t : State} {place n since finished : Nat} {a : Action} {c : Copy} {path : Path}

/-! ### What a step does to the tasks -/

/-- When the load at a place began. -/
def begunAt? (s : State) (place : Nat) : Option Nat := (s.loads[place]?).map Load.begunAt

theorem begunAt?_atStage {moving : Nat} {stage : LoadStage} :
    (s.atStage moving stage).begunAt? place = s.begunAt? place := by
  by_cases hplace : moving = place
  · subst hplace
    cases hload : s.loads[moving]? <;> simp [begunAt?, atStage, hload]
  · simp [begunAt?, atStage, hplace]

/-- A load has begun when it did before the step, or it is called in the step. -/
theorem begunAt?_effect (h : s.effect a = some t) (hbegun : t.begunAt? place = some n) :
    s.begunAt? place = some n ∨ (n = s.time ∧ s.stage? place = none) := by
  cases ha : a.load? with
  | none =>
      rcases (loads_of_effect ha h).1 with hloads | hloads
      · rw [begunAt?, hloads] at hbegun
        exact .inl hbegun
      · obtain ⟨load, hload, rfl⟩ := Option.map_eq_some_iff.mp hbegun
        rw [hloads, List.getElem?_append] at hload
        split at hload
        · exact .inl (by rw [begunAt?, hload, Option.map_some])
        · next hplace =>
          obtain rfl : load = { begunAt := s.time } := by simpa using List.mem_of_getElem? hload
          exact .inr ⟨rfl, by simpa [stage?] using hplace⟩
  | some moving =>
      obtain ⟨_, _, hstep⟩ := loadStep_of_effect ha h
      rw [begunAt?, hstep.loads] at hbegun
      exact .inl (begunAt?_atStage.symm.trans hbegun)

/-- What an invalidation can come to in a step. -/
theorem invalidation_effect {i : Invalidation} (h : s.effect a = some t)
    (hi : i ∈ t.invalidations) :
    i ∈ s.invalidations ∨ i = .waiting ∨ i = .holding s.time ∨
      ∃ place since, a = .drop place ∧ .holding since ∈ s.invalidations ∧
        i = .done since s.time := by
  cases ha : a.load? with
  | some moving =>
      obtain ⟨_, _, hstep⟩ := loadStep_of_effect ha h
      exact .inl (hstep.invalidations ▸ hi)
  | none =>
      cases otherStep_of_effect ha h with
      | invalidate | told _ _ =>
          exact (List.mem_append.mp hi).imp_right fun hnew => .inl (List.mem_singleton.mp hnew)
      | lockInvalidation _ _ =>
          rcases List.mem_or_eq_of_mem_set hi with hold | hnew
          · exact .inl hold
          · exact .inr (.inr (.inl hnew))
      | drop hholding =>
          rcases List.mem_or_eq_of_mem_set hi with hold | hnew
          · exact .inl hold
          · exact .inr (.inr (.inr ⟨_, _, rfl, List.mem_of_getElem? hholding, hnew⟩))
      | _ => exact .inl hi

theorem isAffected_of_file (hfile : s.location = .file path) (e : Watch.Event) :
    s.isAffected e = e.affects path := by
  rw [isAffected, hfile, Location.path?, Option.any_some]

/-- A step writes the file, which leaves an event that affects the script, or it leaves the file alone. -/
theorem world_effect (hfile : s.location = .file path) (h : s.effect a = some t) :
    (t.lastWrite = s.lastWrite ∧ t.outside.read path = s.outside.read path) ∨
      (t.lastWrite = s.time ∧ ∃ e ∈ t.events, e.affects path = true) := by
  cases ha : a.load? with
  | some moving =>
      obtain ⟨_, _, hstep⟩ := loadStep_of_effect ha h
      exact .inl ⟨hstep.lastWrite, by rw [hstep.outside]⟩
  | none =>
      cases otherStep_of_effect ha h with
      | write he haffected =>
          rw [isAffected_of_file hfile] at haffected
          exact .inr ⟨rfl, _, List.mem_append_right _ he, haffected⟩
      | change => exact .inl ⟨rfl, by simp [elsewhere, hfile, Location.path?]⟩
      | _ => exact .inl ⟨rfl, rfl⟩

/-- What is kept is still to be set aside: there is an event that affects the script, or an
invalidation that is not done. -/
def Pending (s : State) (path : Path) : Prop :=
  (∃ e ∈ s.events, e.affects path = true) ∨ ∃ i ∈ s.invalidations, i.isDone = false

/-- What is to be set aside stays so until an invalidation does that. -/
theorem pending_effect (hfile : s.location = .file path) (h : s.effect a = some t)
    (hpending : s.Pending path) : t.Pending path ∨ ∃ place, a = .drop place := by
  cases ha : a.load? with
  | some moving =>
      obtain ⟨_, _, hstep⟩ := loadStep_of_effect ha h
      rw [Pending, hstep.events, hstep.invalidations]
      exact .inl hpending
  | none =>
      cases otherStep_of_effect ha h with
      | call => exact .inl hpending
      | invalidate | told _ _ => exact .inl (.inr ⟨.waiting, by simp, rfl⟩)
      | lockInvalidation hwaiting _ =>
          have hplace := (List.getElem?_eq_some_iff.mp hwaiting).1
          exact .inl (.inr ⟨.holding s.time, List.mem_set hplace _, rfl⟩)
      | drop _ => exact .inr ⟨_, rfl⟩
      | write _ _ | change =>
          exact .inl (hpending.imp_left fun ⟨e, he, haffects⟩ =>
            ⟨e, List.mem_append_left _ he, haffects⟩)
      | ignored hevents hignored =>
          left
          rw [isAffected_of_file hfile] at hignored
          rcases hpending with ⟨e, he, haffects⟩ | hopen
          · -- the event that has been told is not the one that affects the script
            rcases List.mem_cons.mp (hevents ▸ he) with rfl | hrest
            · rw [hignored] at haffects
              cases haffects
            · exact .inl ⟨e, hrest, haffects⟩
          · exact .inr hopen

/-! ### The order of the steps -/

/-- Everything that is noted with the step in which it was done lies in the past. -/
structure Timely (s : State) : Prop where
  written : s.lastWrite ≤ s.time
  begun {place n : Nat} : s.begunAt? place = some n → n < s.time
  holding {since : Nat} : .holding since ∈ s.invalidations → since < s.time
  done {since finished : Nat} :
    .done since finished ∈ s.invalidations → since < finished ∧ finished < s.time
  read {c : Copy} : s.AtHand c → c.readAt < s.time

theorem Timely.step (hfile : s.location = .file path) (hs : s.Timely) (h : s.step a = some t) :
    t.Timely := by
  obtain ⟨u, heffect, rfl⟩ := step_eq_some_iff.mp h
  refine ⟨?_, fun hbegun => ?_, fun hholding => ?_, fun hdone => ?_, fun hc => ?_⟩
  · have hwritten := hs.written
    rcases world_effect hfile heffect with ⟨hsame, -⟩ | ⟨hnew, -⟩
    · exact hsame ▸ Nat.le_succ_of_le hwritten
    · exact hnew ▸ Nat.le_succ _
  · rcases begunAt?_effect heffect hbegun with hold | ⟨rfl, -⟩
    · exact Nat.lt_succ_of_lt (hs.begun hold)
    · exact Nat.lt_succ_self _
  · rcases invalidation_effect heffect hholding with hold | hnew | hnew | ⟨_, _, -, -, hnew⟩
    · exact Nat.lt_succ_of_lt (hs.holding hold)
    · cases hnew
    · cases hnew
      exact Nat.lt_succ_self _
    · cases hnew
  · rcases invalidation_effect heffect hdone with hold | hnew | hnew | ⟨_, _, -, hsince, hnew⟩
    · exact (hs.done hold).imp_right Nat.lt_succ_of_lt
    · cases hnew
    · cases hnew
    · cases hnew
      exact ⟨hs.holding hsince, Nat.lt_succ_self _⟩
  · rcases atHand_effect heffect hc with hold | ⟨place, old, hstep⟩
    · exact Nat.lt_succ_of_lt (hs.read hold)
    · cases hstep.moves
      exact Nat.lt_succ_self _

theorem timely_idle {source : Source} {outside : Outside} (hempty : source.entry = none) :
    (idle source outside).Timely where
  written := Nat.le_refl 0
  begun h := by cases h
  holding h := by cases h
  done h := by cases h
  read h := by simp [AtHand, stage?, idle, hempty] at h

/-! ### Invalidations are heeded -/

/-- Whatever is kept or about to be has been read after every invalidation that is done, and so has
every text with which a load answers that began after it. -/
structure Heeded (s : State) : Prop where
  atHand {since finished : Nat} {c : Copy} :
    .done since finished ∈ s.invalidations → s.AtHand c → finished < c.readAt
  answered {since finished place n : Nat} {text : String × Nat} :
    .done since finished ∈ s.invalidations → s.stage? place = some (.done (.ok text)) →
    s.begunAt? place = some n → finished < n → finished < text.2

theorem Heeded.step (hlock : s.Exclusive) (htime : s.Timely) (hs : s.Heeded)
    (h : s.step a = some t) : t.Heeded := by
  obtain ⟨u, heffect, rfl⟩ := step_eq_some_iff.mp h
  constructor
  · intro since finished c hdone hc
    rcases invalidation_effect heffect hdone with hold | hnew | hnew | ⟨place, _, rfl, -, -⟩
    · rcases atHand_effect heffect hc with hkept | ⟨place, old, hstep⟩
      · exact hs.atHand hold hkept
      · cases hstep.moves
        exact (htime.done hold).2
    · cases hnew
    · cases hnew
    · have hnone : ¬ u.AtHand c := not_atHand_of_drop hlock heffect
      exact absurd hc hnone
  · intro since finished place n text hdone hanswer hbegun hlater
    rcases invalidation_effect heffect hdone with hold | hnew | hnew | ⟨_, _, -, -, hnew⟩
    · rcases done_effect heffect hanswer with hanswered | ⟨c, hc, htext⟩ | ⟨_, _, -, htext⟩
      · rcases begunAt?_effect heffect hbegun with hbefore | ⟨-, hnone⟩
        · exact hs.answered hold hanswered hbefore hlater
        · rw [hnone] at hanswered
          cases hanswered
      · cases htext
        exact hs.atHand hold hc
      · cases htext
    · cases hnew
    · cases hnew
    · -- no load can have begun after this step
      cases hnew
      rcases begunAt?_effect heffect hbegun with hbefore | ⟨rfl, -⟩
      · exact absurd (htime.begun hbefore) (by omega)
      · exact absurd hlater (Nat.lt_irrefl _)

theorem heeded_idle {source : Source} {outside : Outside} : (idle source outside).Heeded where
  atHand h := by cases h
  answered h := by cases h

/-! ### Writes are noticed -/

/-- What is kept or about to be has been read since the last write, or it is still to be set aside; and
what has been read since then is what the file holds. -/
structure Noticed (s : State) (path : Path) : Prop where
  pending : s.Pending path ∨ ∀ c, s.AtHand c → s.lastWrite ≤ c.readAt
  present {c : Copy} : s.AtHand c → s.lastWrite ≤ c.readAt →
    ∃ bytes, s.outside.read path = .ok bytes ∧ c.entry.content = fileText bytes

theorem Noticed.step (hfile : s.location = .file path) (hlock : s.Exclusive) (htime : s.Timely)
    (hs : s.Noticed path) (h : s.step a = some t) : t.Noticed path := by
  obtain ⟨u, heffect, rfl⟩ := step_eq_some_iff.mp h
  have hwritten := htime.written
  constructor
  · rcases world_effect hfile heffect with ⟨hsame, -⟩ | ⟨-, hevent⟩
    · rcases hs.pending with hpending | hread
      · rcases pending_effect hfile heffect hpending with hstill | ⟨place, rfl⟩
        · exact .inl hstill
        · have hnone (c : Copy) : ¬ u.AtHand c := not_atHand_of_drop hlock heffect
          exact .inr fun c hc => absurd hc (hnone c)
      · refine .inr fun c hc => ?_
        rcases atHand_effect heffect hc with hold | ⟨place, old, hstep⟩
        · exact hsame ▸ hread c hold
        · cases hstep.moves
          exact hsame ▸ hwritten
    · exact .inl (.inl hevent)
  · intro c hc hlater
    rcases atHand_effect heffect hc with hold | ⟨place, old, hstep⟩
    · rcases world_effect hfile heffect with ⟨hsame, hread⟩ | ⟨hnew, -⟩
      · obtain ⟨bytes, hbytes, hcontent⟩ := hs.present hold (hsame ▸ hlater)
        exact ⟨bytes, hread.trans hbytes, hcontent⟩
      · -- it was read before the file was written in this step
        have hpast := htime.read hold
        have hnow : s.time ≤ c.readAt := hnew ▸ hlater
        omega
    · have houtside := hstep.outside
      cases hstep.moves with
      | read hacquire =>
          obtain ⟨bytes, hbytes, hcontent⟩ := content_of_acquire (s := s.source) hfile hacquire
          exact ⟨bytes, (congrArg (fun o => o.read path) houtside).trans hbytes, hcontent⟩

theorem noticed_idle {source : Source} {outside : Outside} (hempty : source.entry = none) :
    (idle source outside).Noticed path where
  pending := .inr fun _ _ => Nat.zero_le _
  present h := by simp [AtHand, stage?, idle, hempty] at h

/-! ### All together -/

/-- In every state that the steps of tasks lead to:

* when all events that affect the script are told and all invalidations done, a copy that is kept was read
  at or after the last write of the file, and is what the file holds;
* a load that was called after an invalidation was done answers with a text that was read after it, and
  so after that invalidation took the lock;
* no copy that was read before an invalidation was done is kept, or is about to be. -/
theorem heeded_of_reachable {source : Source} {outside : Outside} (hempty : source.entry = none)
    (hfile : source.location = .file path) (h : Reachable (idle source outside) s) :
    ((∀ e ∈ s.events, e.affects path = false) → (∀ i ∈ s.invalidations, i.isDone = true) →
      ∀ c, s.copy = some c → s.lastWrite ≤ c.readAt ∧
        ∃ bytes, s.outside.read path = .ok bytes ∧ c.entry.content = fileText bytes) ∧
    (∀ l ∈ s.loads, ∀ text readAt, l.stage = .done (.ok (text, readAt)) →
      ∀ since finished, .done since finished ∈ s.invalidations → finished < l.begunAt →
        since < finished ∧ finished < readAt) ∧
    (∀ since finished, .done since finished ∈ s.invalidations →
      ∀ c, s.AtHand c → finished < c.readAt) := by
  have hinvariant : s.location = .file path ∧ s.Timely ∧ s.Heeded ∧ s.Noticed path := by
    induction h with
    | start => exact ⟨hfile, timely_idle hempty, heeded_idle, noticed_idle hempty⟩
    | step a hreachable hstep ih =>
        obtain ⟨hlocation, htime, hheeded, hnoticed⟩ := ih
        have hlock := exclusive_of_reachable hreachable
        obtain ⟨u, heffect, rfl⟩ := step_eq_some_iff.mp hstep
        exact ⟨(location_effect heffect).trans hlocation, htime.step hlocation hstep,
          hheeded.step hlock htime hstep, hnoticed.step hlocation hlock htime hstep⟩
  obtain ⟨-, htime, hheeded, hnoticed⟩ := hinvariant
  refine ⟨fun hevents hdone c hcopy => ?_, fun l hl text readAt hstage since finished hdone hlater => ?_,
    fun since finished hdone c hc => hheeded.atHand hdone hc⟩
  · have hread : s.lastWrite ≤ c.readAt := by
      rcases hnoticed.pending with (⟨e, he, haffects⟩ | ⟨i, hi, hopen⟩) | hread
      · rw [hevents e he] at haffects
        cases haffects
      · rw [hdone i hi] at hopen
        cases hopen
      · exact hread c (.inl hcopy)
    exact ⟨hread, hnoticed.present (.inl hcopy) hread⟩
  · obtain ⟨place, hplace⟩ := List.getElem?_of_mem hl
    have hstage? : s.stage? place = some (.done (.ok (text, readAt))) := by
      rw [stage?, hplace, Option.map_some, hstage]
    have hbegun : s.begunAt? place = some l.begunAt := by rw [begunAt?, hplace, Option.map_some]
    exact ⟨(htime.done hdone).1, hheeded.answered hdone hstage? hbegun hlater⟩

/-! ### A race -/

def watchedSource : Source := { location := .file ⟨[112]⟩ }

/-- A world in which every file holds the same bytes. -/
def filesHolding (bytes : List UInt8) : Outside :=
  { read := fun _ => .ok bytes, transport := fun _ => none }

/-- A load reads the file before it is written and stores what it has read afterwards; then the
invalidation gets the lock, and a second load follows. -/
def raceOfLoad : List Action :=
  let clock : Instant := ⟨.midnight ⟨2026, 1, 1⟩, 0⟩
  [.call, .look 0 clock, .lock 0, .lookAgain 0 clock clock, .read 0,
    .write (filesHolding [98]) [⟨.modified, [⟨[112]⟩]⟩], .notice, .store 0,
    .lockInvalidation 0, .drop 0,
    .call, .look 1 clock, .lock 1, .lookAgain 1 clock clock, .read 1, .store 1]

/-- The copy of the second load. -/
def raceCopy : Copy := ⟨⟨"b\n", ⟨.midnight ⟨2026, 1, 1⟩, 0⟩, none⟩, 14⟩

/-- Where the race ends: the first load has answered with the old text, the second with the new one. -/
def raceEnd : State :=
  { location := .file ⟨[112]⟩
    outside := filesHolding [98]
    copy := some raceCopy
    fetches := 2
    loads := [⟨0, .done (.ok ("a\n", 4))⟩, ⟨10, .done (.ok ("b\n", 14))⟩]
    invalidations := [.done 8 9]
    lastWrite := 5
    time := 16 }

/-- The old text is stored after the write, and yet it does not outlive the invalidation. -/
theorem heeded_raceEnd :
    Reachable (idle watchedSource (filesHolding [97])) raceEnd ∧ raceEnd.copy = some raceCopy ∧
      raceEnd.lastWrite ≤ raceCopy.readAt ∧
      (∃ bytes, raceEnd.outside.read ⟨[112]⟩ = .ok bytes ∧ raceCopy.entry.content = fileText bytes) ∧
      ∃ l ∈ raceEnd.loads, l.stage = .done (.ok ("b\n", 14)) ∧ .done 8 9 ∈ raceEnd.invalidations ∧
        9 < l.begunAt ∧ 8 < 9 ∧ 9 < 14 := by
  have hrun : (idle watchedSource (filesHolding [97])).run raceOfLoad = some raceEnd := rfl
  have hreachable := reachable_of_run .start hrun
  obtain ⟨hkept, hanswered, -⟩ := heeded_of_reachable rfl rfl hreachable
  obtain ⟨hread, hpresent⟩ := hkept nofun (by decide) raceCopy rfl
  have hlast : (⟨10, .done (.ok ("b\n", 14))⟩ : Load) ∈ raceEnd.loads := by simp [raceEnd]
  have hlater := hanswered _ hlast "b\n" 14 rfl 8 9 (by decide) (by decide)
  exact ⟨hreachable, rfl, hread, hpresent, _, hlast, rfl, by decide, by decide, hlater⟩

end State

end Concurrent

end AutoProxy.Source
