import AutoProxy.Source.Basic
import AutoProxy.Source.Watch

/-!
Loads and invalidations of one source that run side by side. Each of them is a task that goes through
stages, and any task may take its next step at any time; only one task at a time holds the lock that
acquisitions need. A load that finds nothing fresh waits for the lock and looks again when it has it,
so that tasks which have waited together use what the first of them has acquired.

Writes of the script's file are steps as well, and so are other changes of the world outside and the
events that a watcher is told of. Whoever writes the file causes an event that affects the script;
events may come for other reasons too. Steps are numbered: the state remembers the step of the last
write, and with each text the step in which it was read.
-/

namespace AutoProxy.Source.Concurrent

open Calendar

/-- A text with its expiry, and the step in which it was read. -/
structure Copy where
  entry : CacheEntry
  readAt : Nat
deriving DecidableEq, Repr

/-- How far a load has come, which began at a step. -/
inductive LoadStage where
  | begun
  | waiting
  | holding
  | acquiring (now : Instant)
  | storing (copy : Copy)
  /-- The answer, and for a text the step in which it was read. -/
  | done (answer : Except LoadFault (String × Nat))

/-- A load: the step in which it began, and how far it has come. -/
structure Load where
  begunAt : Nat
  stage : LoadStage := .begun

/-- How far an invalidation has come; with the lock, since which step it has had it. -/
inductive Invalidation where
  | waiting
  | holding (since : Nat)
  | done (since finished : Nat)
deriving DecidableEq, Repr

/-- A task, by its place among those of its kind. -/
inductive Task where
  | load (place : Nat)
  | invalidation (place : Nat)
deriving DecidableEq, Repr

structure State where
  location : Location
  fallbackTtl : Option Span := none
  outside : Outside
  copy : Option Copy := none
  fetches : Nat := 0
  loads : List Load := []
  invalidations : List Invalidation := []
  holder : Option Task := none
  /-- The events that the watcher has not yet been told of, the oldest first. -/
  events : List Watch.Event := []
  lastWrite : Nat := 0
  time : Nat := 0

/-- What happens in a step. Clocks are read anew wherever the time matters. -/
inductive Action where
  /-- A load is called. -/
  | call
  /-- A load looks whether there is something fresh. -/
  | look (place : Nat) (clock : Instant)
  /-- A load takes the lock. -/
  | lock (place : Nat)
  /-- A load that has the lock looks again; if there is nothing fresh it begins to acquire. -/
  | lookAgain (place : Nat) (clock later : Instant)
  /-- A load reads what is at the location. -/
  | read (place : Nat)
  /-- A load puts what it has read in the place of what is kept. -/
  | store (place : Nat)
  /-- An invalidation is called. -/
  | invalidate
  | lockInvalidation (place : Nat)
  /-- An invalidation sets aside what is kept. -/
  | drop (place : Nat)
  /-- The file of the script is written; at least one of the events that follow affects the script. -/
  | write (outside : Outside) (events : List Watch.Event)
  /-- Anything but the file of the script changes, and there may be events. -/
  | change (outside : Outside) (events : List Watch.Event)
  /-- The watcher is told of an event, and calls an invalidation if the event affects the script. -/
  | notice

/-- The world outside after a change that leaves the file of the script alone. -/
def elsewhere (location : Location) (old new : Outside) : Outside :=
  { new with read := fun path => if location.path? = some path then old.read path else new.read path }

namespace State

/-- A source before any task has been called. -/
def idle (source : Source) (outside : Outside) : State :=
  { location := source.location, fallbackTtl := source.fallbackTtl, outside,
    copy := source.entry.map fun entry => ⟨entry, 0⟩, fetches := source.fetches }

/-- The source as a single task sees it. -/
def source (s : State) : Source :=
  { location := s.location, fallbackTtl := s.fallbackTtl, entry := s.copy.map Copy.entry,
    fetches := s.fetches }

/-- The text that is kept, if it may still be used, with the step in which it was read. -/
def fresh? (s : State) (clock : Instant) : Option (String × Nat) :=
  (s.copy.filter fun c => c.entry.isFresh clock.toUtc).map fun c => (c.entry.content, c.readAt)

def atStage (s : State) (place : Nat) (stage : LoadStage) : State :=
  { s with loads := s.loads.modify place fun l => { l with stage := stage } }

/-- The state after a load has answered and let go of the lock. -/
def answered (s : State) (place : Nat) (answer : Except LoadFault (String × Nat)) : State :=
  { s.atStage place (.done answer) with holder := none }

def stage? (s : State) (place : Nat) : Option LoadStage := (s.loads[place]?).map Load.stage

/-! ### Steps of a load -/

/-- A load looks whether there is something fresh. -/
def look (s : State) (place : Nat) (clock : Instant) : Option State :=
  match s.stage? place with
  | some .begun =>
    match s.fresh? clock with
    | some found => some (s.atStage place (.done (.ok found)))
    | none => some (s.atStage place .waiting)
  | _ => none

/-- A load takes the lock, if no task has it. -/
def lock (s : State) (place : Nat) : Option State :=
  match s.stage? place, s.holder with
  | some .waiting, none => some { s.atStage place .holding with holder := some (.load place) }
  | _, _ => none

/-- A load that has the lock looks again, and begins to acquire if there is nothing fresh. -/
def lookAgain (s : State) (place : Nat) (clock later : Instant) : Option State :=
  match s.stage? place with
  | some .holding =>
    match s.fresh? clock with
    | some found => some (s.answered place (.ok found))
    | none => some { s.atStage place (.acquiring later.toUtc) with fetches := s.fetches + 1 }
  | _ => none

/-- A load reads what is at the location; if that fails it answers with the fault. -/
def read (s : State) (place : Nat) : Option State :=
  match s.stage? place with
  | some (.acquiring now) =>
    match s.source.acquire s.outside now with
    | .ok entry => some (s.atStage place (.storing ⟨entry, s.time⟩))
    | .error fault => some (s.answered place (.error fault))
  | _ => none

/-- A load puts what it has read in the place of what is kept, and answers with it. -/
def store (s : State) (place : Nat) : Option State :=
  match s.stage? place with
  | some (.storing copy) =>
    some { s.answered place (.ok (copy.entry.content, copy.readAt)) with copy := some copy }
  | _ => none

/-! ### Steps of an invalidation -/

/-- An invalidation takes the lock, if no task has it. -/
def lockInvalidation (s : State) (place : Nat) : Option State :=
  match s.invalidations[place]?, s.holder with
  | some .waiting, none =>
    some { s with
      invalidations := s.invalidations.set place (.holding s.time)
      holder := some (.invalidation place) }
  | _, _ => none

/-- An invalidation sets aside what is kept, and lets go of the lock. -/
def drop (s : State) (place : Nat) : Option State :=
  match s.invalidations[place]? with
  | some (.holding since) =>
    some { s with
      copy := none
      invalidations := s.invalidations.set place (.done since s.time)
      holder := none }
  | _ => none

/-! ### Writes and events -/

/-- Whether an event is about the file of the script. -/
def isAffected (s : State) (e : Watch.Event) : Bool := s.location.path?.any e.affects

/-- The file of the script is written, if it is kept in one. -/
def write (s : State) (outside : Outside) (events : List Watch.Event) : Option State :=
  if events.any s.isAffected then
    some { s with outside, events := s.events ++ events, lastWrite := s.time }
  else none

/-- The watcher is told of the oldest event. -/
def notice (s : State) : Option State :=
  match s.events with
  | [] => none
  | e :: rest =>
    if s.isAffected e then
      some { s with events := rest, invalidations := s.invalidations ++ [.waiting] }
    else some { s with events := rest }

/-! ### All steps -/

/-- What an action makes of a state, if it can happen there. -/
def effect (s : State) : Action → Option State
  | .call => some { s with loads := s.loads ++ [{ begunAt := s.time }] }
  | .look place clock => s.look place clock
  | .lock place => s.lock place
  | .lookAgain place clock later => s.lookAgain place clock later
  | .read place => s.read place
  | .store place => s.store place
  | .invalidate => some { s with invalidations := s.invalidations ++ [.waiting] }
  | .lockInvalidation place => s.lockInvalidation place
  | .drop place => s.drop place
  | .write outside events => s.write outside events
  | .change outside events =>
    some { s with outside := elsewhere s.location s.outside outside, events := s.events ++ events }
  | .notice => s.notice

/-- The state after a step, if the action can happen. -/
def step (s : State) (a : Action) : Option State :=
  (s.effect a).map fun t => { t with time := s.time + 1 }

/-- The state after a row of actions, if all of them can happen. -/
def run (s : State) : List Action → Option State
  | [] => some s
  | a :: rest => (s.step a).bind fun t => t.run rest

end State

/-- The states to which the steps of tasks can lead. -/
inductive Reachable (start : State) : State → Prop where
  | start : Reachable start start
  | step {s t : State} (a : Action) : Reachable start s → s.step a = some t → Reachable start t

end AutoProxy.Source.Concurrent
