import Mathlib.Data.Finset.Card
import Mathlib.Data.List.Sort
import Xblob.Computation.Program
import Xblob.Model.Common

/-!
# The deterministic scheduler

`libs/core` keeps the virtual clock of the machine and the events that are to happen at
given cycles.  An event carries a callback, and a callback may call the scheduler
again: it may schedule and cancel events, move the clock, even run the scheduler from
inside the run that called it.

A callback is a C++ closure.  Here an event carries the name of its callback, of an
arbitrary type `κ`, and `behave` says what the callback of a name does when it is called
with a cycle: it is a program that makes calls to the scheduler and may look at and change
whatever else it has access to, an arbitrary state `σ` outside the scheduler.

`RunUntil` need not return, since callbacks may schedule events without end.  The loop is
given a number of turns; a run that uses them up is `Unfinished`, in the state it had
then.  What is proved for every number of turns holds at every point of a run, finished
or not.

The priority queue is a list in the order of its comparison: its top is the head.  Where
two events compare equal, which the sequence numbers exclude until they wrap around, the
order of the source's queue is left open by the library.
-/

set_option autoImplicit false

namespace Xblob.Core

open Xblob.Computation

/-- `EventId`. -/
abbrev EventId := U64

/-- `SchedulerStatus`. SOURCE: libs/core/include/xblob/core/scheduler.hpp:18 -/
inductive SchedulerStatus where
  | idle | targetReached | eventLimitReached
  deriving DecidableEq, Repr

/-- `DeterministicScheduler::Event`; an event scheduled with an empty callback has none.
SOURCE: libs/core/include/xblob/core/scheduler.hpp:53-57 -/
structure Event (κ : Type) where
  id : EventId := 0
  targetCycle : Cycle := 0
  sequence : U64 := 0
  callback : Option κ
  deriving DecidableEq, Repr

/-- `Event::operator>`. SOURCE: libs/core/include/xblob/core/scheduler.hpp:59-64 -/
def Event.gt {κ : Type} (ev other : Event κ) : Bool :=
  if ev.targetCycle ≠ other.targetCycle then
    ev.targetCycle > other.targetCycle
  else
    ev.sequence > other.sequence

/-- `DeterministicScheduler`. SOURCE: libs/core/include/xblob/core/scheduler.hpp:67-73 -/
structure Scheduler (κ : Type) where
  currentCycle : Cycle := 0
  nextEventId : EventId := 1
  nextSequence : U64 := 0
  eventQueue : List (Event κ) := []
  pendingIds : Finset EventId := ∅
  canceledIds : Finset EventId := ∅

namespace Scheduler

variable {κ : Type}

/-- The clock moved forward. SOURCE: libs/core/src/scheduler.cpp:10-18 -/
def advanceCycles (s : Scheduler κ) (delta : Cycle) : Result (Scheduler κ) :=
  match checkedAdd s.currentCycle delta with
  | none => .error { code := .integerOverflow
                     message := "Avanço de ciclos causaria overflow do relógio monotônico"
                     offset := s.currentCycle }
  | some newCycle => .ok { s with currentCycle := newCycle }

/-- The event `ScheduleEvent` makes. -/
def newEvent (s : Scheduler κ) (targetCycle : Cycle) (callback : Option κ) : Event κ :=
  { id := s.nextEventId, targetCycle := targetCycle, sequence := s.nextSequence
    callback := callback }

/-- An event put in its place in the queue. -/
def push (ev : Event κ) (queue : List (Event κ)) : List (Event κ) :=
  queue.orderedInsert (fun a b => ¬ a.gt b) ev

/-- `ScheduleEvent`, where it succeeds. SOURCE: libs/core/src/scheduler.cpp:25-38 -/
def withEvent (s : Scheduler κ) (ev : Event κ) : Scheduler κ :=
  { s with
    nextEventId := s.nextEventId + 1
    nextSequence := s.nextSequence + 1
    pendingIds := insert ev.id s.pendingIds
    eventQueue := push ev s.eventQueue }

/-- `PastCycle`, the error for a target before the clock. -/
def pastCycle (targetCycle : Cycle) : Error :=
  { code := .pastCycle, message := "Ciclo alvo no passado", offset := targetCycle }

/-- The event to be canceled is no longer scheduled.
SOURCE: libs/core/src/scheduler.cpp:51-55 -/
def eventNotFound (id : EventId) : Error :=
  { code := .eventNotFound, message := "Evento não encontrado ou já executado/cancelado"
    offset := id }

/-- `CancelEvent`, where it succeeds: the entry stays in the queue.
SOURCE: libs/core/src/scheduler.cpp:57-58 -/
def withoutEvent (s : Scheduler κ) (id : EventId) : Scheduler κ :=
  { s with pendingIds := s.pendingIds.erase id, canceledIds := insert id s.canceledIds }

/-- The top of the queue taken away, as a canceled entry.
SOURCE: libs/core/src/scheduler.cpp:75-76 -/
def dropCanceled (s : Scheduler κ) (id : EventId) (rest : List (Event κ)) : Scheduler κ :=
  { s with canceledIds := s.canceledIds.erase id, eventQueue := rest }

/-- The top of the queue taken away, to be fired.
SOURCE: libs/core/src/scheduler.cpp:85-89 -/
def takeEvent (s : Scheduler κ) (ev : Event κ) (rest : List (Event κ)) : Scheduler κ :=
  { s with
    eventQueue := rest
    pendingIds := s.pendingIds.erase ev.id
    currentCycle := ev.targetCycle }

/-- The canceled entries at the top of the queue taken away.
SOURCE: libs/core/src/scheduler.cpp:99-103 -/
def purge : List (Event κ) → Finset EventId → List (Event κ) × Finset EventId
  | [], canceled => ([], canceled)
  | top :: rest, canceled =>
    if top.id ∈ canceled then purge rest (canceled.erase top.id) else (top :: rest, canceled)

/-- `purge`, on the scheduler. -/
def purgeCanceled (s : Scheduler κ) : Scheduler κ :=
  let r := purge s.eventQueue s.canceledIds
  { s with eventQueue := r.1, canceledIds := r.2 }

/-- Whether the top of the queue is due, with the limit used up.
SOURCE: libs/core/src/scheduler.cpp:105-106 -/
def overLimit (s : Scheduler κ) (targetCycle : Cycle) (maxEvents eventsFired : U64) : Bool :=
  match s.eventQueue with
  | [] => false
  | top :: _ => top.targetCycle ≤ targetCycle && eventsFired ≥ maxEvents

end Scheduler

/-! ## Calls -/

/-- The calls a host or a callback makes to the scheduler, and its dealings with everything
else. -/
inductive SchedulerCall (κ σ : Type) where
  | advanceCycles (delta : Cycle)
  | scheduleEvent (targetCycle : Cycle) (callback : Option κ)
  | scheduleRelative (deltaCycles : Cycle) (callback : Option κ)
  | cancelEvent (id : EventId)
  | runUntil (targetCycle : Cycle) (maxEvents : U64)
  | stepCycles (delta : Cycle) (maxEvents : U64)
  | currentCycle
  | pendingEventCount
  | outside (change : σ → σ)

/-- What a call returns; a call to the outside returns what it finds there. -/
def SchedulerCall.Answer {κ σ : Type} : SchedulerCall κ σ → Type
  | .advanceCycles _ => Result Unit
  | .scheduleEvent _ _ => Result EventId
  | .scheduleRelative _ _ => Result EventId
  | .cancelEvent _ => Result Unit
  | .runUntil _ _ => Result SchedulerStatus
  | .stepCycles _ _ => Result SchedulerStatus
  | .currentCycle => Cycle
  | .pendingEventCount => ℕ
  | .outside _ => σ

/-- A run that has used up its turns. -/
structure Unfinished where
  deriving DecidableEq, Repr

/-- What callbacks are made of. -/
abbrev Callback (κ σ : Type) :=
  Program ⟨SchedulerCall κ σ, SchedulerCall.Answer⟩ Unfinished Unit

/-- What is done to a scheduler, for the record. -/
inductive Deed (κ : Type) where
  | advanced
  | scheduled (ev : Event κ)
  | canceled (id : EventId)
  | dropped (id : EventId)
  | fired (ev : Event κ)
  | reached (targetCycle : Cycle)

/-- A scheduler, what is around it, and the record of everything done to it: each deed with
the scheduler it was done to, the newest first.  The source keeps no such record, and
nothing here reads it. -/
structure Host (κ σ : Type) where
  scheduler : Scheduler κ
  world : σ
  history : List (Deed κ × Scheduler κ) := []

namespace Host

variable {κ σ : Type}

/-- A deed done to the scheduler, recorded. -/
def record (h : Host κ σ) (deed : Deed κ) (s : Scheduler κ) : Host κ σ :=
  { h with scheduler := s, history := (deed, h.scheduler) :: h.history }

/-- `AdvanceCycles`. SOURCE: libs/core/src/scheduler.cpp:10-18 -/
def advanceCycles (delta : Cycle) : EStateM Unfinished (Host κ σ) (Result Unit) := do
  let h ← get
  match h.scheduler.advanceCycles delta with
  | .error e => pure (.error e)
  | .ok s => do
    set (h.record .advanced s)
    pure (.ok ())

/-- `ScheduleEvent`. SOURCE: libs/core/src/scheduler.cpp:20-39 -/
def scheduleEvent (targetCycle : Cycle) (callback : Option κ) :
    EStateM Unfinished (Host κ σ) (Result EventId) := do
  let h ← get
  if targetCycle < h.scheduler.currentCycle then
    pure (.error (Scheduler.pastCycle targetCycle))
  else do
    let ev := h.scheduler.newEvent targetCycle callback
    set (h.record (.scheduled ev) (h.scheduler.withEvent ev))
    pure (.ok ev.id)

/-- `ScheduleRelative`. SOURCE: libs/core/src/scheduler.cpp:41-49 -/
def scheduleRelative (deltaCycles : Cycle) (callback : Option κ) :
    EStateM Unfinished (Host κ σ) (Result EventId) := do
  let h ← get
  match checkedAdd h.scheduler.currentCycle deltaCycles with
  | none =>
    pure (.error { code := .integerOverflow
                   message := "Agendamento relativo causaria overflow de ciclo"
                   offset := h.scheduler.currentCycle })
  | some targetCycle => scheduleEvent targetCycle callback

/-- `CancelEvent`. SOURCE: libs/core/src/scheduler.cpp:51-60 -/
def cancelEvent (id : EventId) : EStateM Unfinished (Host κ σ) (Result Unit) := do
  let h ← get
  if id ∉ h.scheduler.pendingIds then
    pure (.error (Scheduler.eventNotFound id))
  else do
    set (h.record (.canceled id) (h.scheduler.withoutEvent id))
    pure (.ok ())

/-- The test `RunUntil` begins with, then its loop.
SOURCE: libs/core/src/scheduler.cpp:62-66 -/
def checkedRun (loop : Cycle → U64 → EStateM Unfinished (Host κ σ) SchedulerStatus)
    (targetCycle : Cycle) (maxEvents : U64) :
    EStateM Unfinished (Host κ σ) (Result SchedulerStatus) := do
  let h ← get
  if targetCycle < h.scheduler.currentCycle then
    pure (.error (Scheduler.pastCycle targetCycle))
  else do
    let status ← loop targetCycle maxEvents
    pure (.ok status)

/-- The addition `StepCycles` begins with, then `RunUntil`.
SOURCE: libs/core/src/scheduler.cpp:114-121 -/
def checkedStep (loop : Cycle → U64 → EStateM Unfinished (Host κ σ) SchedulerStatus)
    (delta : Cycle) (maxEvents : U64) :
    EStateM Unfinished (Host κ σ) (Result SchedulerStatus) := do
  let h ← get
  match checkedAdd h.scheduler.currentCycle delta with
  | none =>
    pure (.error { code := .integerOverflow
                   message := "Avanço de ciclos causaria overflow do relógio"
                   offset := h.scheduler.currentCycle })
  | some targetCycle => checkedRun loop targetCycle maxEvents

/-- A call, with the loop that runs in it. -/
def answer (loop : Cycle → U64 → EStateM Unfinished (Host κ σ) SchedulerStatus) :
    (c : SchedulerCall κ σ) → EStateM Unfinished (Host κ σ) c.Answer
  | .advanceCycles delta => advanceCycles delta
  | .scheduleEvent targetCycle callback => scheduleEvent targetCycle callback
  | .scheduleRelative deltaCycles callback => scheduleRelative deltaCycles callback
  | .cancelEvent id => cancelEvent id
  | .runUntil targetCycle maxEvents => checkedRun loop targetCycle maxEvents
  | .stepCycles delta maxEvents => checkedStep loop delta maxEvents
  | .currentCycle => do
    let h ← get
    pure h.scheduler.currentCycle
  | .pendingEventCount => do
    let h ← get
    pure h.scheduler.pendingIds.card
  | .outside change => do
    let h ← get
    set { h with world := change h.world }
    pure h.world

/-- The end of `RunUntil`. SOURCE: libs/core/src/scheduler.cpp:98-111 -/
def finishRun (targetCycle : Cycle) (maxEvents eventsFired : U64) :
    EStateM Unfinished (Host κ σ) SchedulerStatus := do
  let h ← get
  let s := h.scheduler.purgeCanceled
  if s.overLimit targetCycle maxEvents eventsFired then do
    set { h with scheduler := s }
    pure .eventLimitReached
  else do
    set ({ h with scheduler := s }.record (.reached targetCycle)
      { s with currentCycle := targetCycle })
    pure .targetReached

/-- The callback of a fired event. SOURCE: libs/core/src/scheduler.cpp:91-93 -/
def callBack (behave : κ → Cycle → Callback κ σ)
    (loop : Cycle → U64 → EStateM Unfinished (Host κ σ) SchedulerStatus) (ev : Event κ) :
    EStateM Unfinished (Host κ σ) Unit :=
  match ev.callback with
  | none => pure ()
  | some name => (behave name ev.targetCycle).run (answer loop)

/-- The loop of `RunUntil`, for a number of turns.  The runs a callback starts have the
turns that are left. SOURCE: libs/core/src/scheduler.cpp:68-96 -/
def runLoop (behave : κ → Cycle → Callback κ σ) :
    ℕ → U64 → Cycle → U64 → EStateM Unfinished (Host κ σ) SchedulerStatus
  | 0, _, _, _ => throw {}
  | turns + 1, eventsFired, targetCycle, maxEvents => do
    let h ← get
    match h.scheduler.eventQueue with
    | [] => finishRun targetCycle maxEvents eventsFired
    | top :: rest =>
      if top.id ∈ h.scheduler.canceledIds then do
        set (h.record (.dropped top.id) (h.scheduler.dropCanceled top.id rest))
        runLoop behave turns eventsFired targetCycle maxEvents
      else if top.targetCycle > targetCycle then
        finishRun targetCycle maxEvents eventsFired
      else if eventsFired ≥ maxEvents then
        pure .eventLimitReached
      else do
        set (h.record (.fired top) (h.scheduler.takeEvent top rest))
        callBack behave (runLoop behave turns 0) top
        runLoop behave turns (eventsFired + 1) targetCycle maxEvents

/-- `RunUntil`. SOURCE: libs/core/src/scheduler.cpp:62-112 -/
def runUntil (behave : κ → Cycle → Callback κ σ) (turns : ℕ) (targetCycle : Cycle)
    (maxEvents : U64) : EStateM Unfinished (Host κ σ) (Result SchedulerStatus) :=
  checkedRun (runLoop behave turns 0) targetCycle maxEvents

/-- A call made by the host. -/
def call (behave : κ → Cycle → Callback κ σ) (turns : ℕ) (c : SchedulerCall κ σ) :
    EStateM Unfinished (Host κ σ) c.Answer :=
  answer (runLoop behave turns 0) c

end Host

end Xblob.Core
