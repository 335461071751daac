import Xblob.Computation.Fallible
import Xblob.Model.Core.Scheduler

/-!
# Runs of the scheduler

A host makes calls to a fresh scheduler one after the other, and callbacks make calls of
their own.  The record of a run says which events were scheduled, canceled and fired, and
on which schedulers.  Three things are said about runs here.

* The *firing law*: events fire once, in the order of their target cycles and sequence
  numbers, unless they are canceled, and the two sets of ids account for the queue.
* The *clock*: the cycles of all schedulers a run goes through, and the cycles its
  callbacks are called with, never go down, if each call is made in time.
* *Splitting*: a run with a limit on its events, repeated, does what one without does.
-/

set_option autoImplicit false

namespace Xblob.Interface

open Xblob.Computation Xblob.Core

variable {κ σ : Type}

/-- A fresh scheduler. SOURCE: libs/core/src/scheduler.cpp:7-8 -/
def freshHost (initialCycle : Cycle) (world : σ) : Host κ σ :=
  { scheduler := { currentCycle := initialCycle }, world := world }

/-- Calls made one after the other. -/
def makeCalls (behave : κ → Cycle → Callback κ σ) (turns : ℕ) :
    List (SchedulerCall κ σ) → EStateM Unfinished (Host κ σ) Unit
  | [] => pure ()
  | c :: cs => do
    let _ ← Host.call behave turns c
    makeCalls behave turns cs

/-- What calls make of a fresh scheduler. -/
def hostAfter (behave : κ → Cycle → Callback κ σ) (turns : ℕ) (initialCycle : Cycle) (world : σ)
    (calls : List (SchedulerCall κ σ)) : Host κ σ :=
  stateAfter ((makeCalls behave turns calls).run (freshHost initialCycle world))

/-! ## The record -/

/-- The events scheduled, the newest first. -/
def scheduledEvents (h : Host κ σ) : List (Event κ) :=
  h.history.filterMap fun m =>
    match m.1 with
    | .scheduled ev => some ev
    | _ => none

/-- The events fired, the newest first. -/
def firedEvents (h : Host κ σ) : List (Event κ) :=
  h.history.filterMap fun m =>
    match m.1 with
    | .fired ev => some ev
    | _ => none

/-- The events canceled, the newest first. -/
def canceledEvents (h : Host κ σ) : List EventId :=
  h.history.filterMap fun m =>
    match m.1 with
    | .canceled id => some id
    | _ => none

/-! ## The firing law -/

/-- As many events as there are ids and sequence numbers. -/
def eventNumbers : ℕ := 0x10000000000000000

/-- The order of `(target cycle, sequence)`. -/
def Before (a b : Event κ) : Prop :=
  a.targetCycle < b.targetCycle ∨ a.targetCycle = b.targetCycle ∧ a.sequence < b.sequence

/-- An event that is scheduled, not fired and not canceled. -/
def Live (s : Scheduler κ) (ev : Event κ) : Prop := ev ∈ s.eventQueue ∧ ev.id ∈ s.pendingIds

/-- The firing law, at some point of a run. -/
structure FiringLaw (h : Host κ σ) : Prop where
  scheduled : ∀ ev ∈ firedEvents h, ev ∈ scheduledEvents h
  once : ((firedEvents h).map Event.id).Nodup
  canceled : ∀ ev ∈ firedEvents h, ev.id ∉ canceledEvents h
  ordered : (firedEvents h).Pairwise fun later earlier => Before earlier later
  disjoint : Disjoint h.scheduler.pendingIds h.scheduler.canceledIds
  queued : h.scheduler.pendingIds ∪ h.scheduler.canceledIds =
    (h.scheduler.eventQueue.map Event.id).toFinset

/-- What `RunUntil` reports is so: at the target, no live event is due and the clock is the
target; at the limit, as many events were fired as the limit says and a live event is due. -/
def RunReports (targetCycle : Cycle) (maxEvents : U64) (h h' : Host κ σ) :
    SchedulerStatus → Prop
  | .idle => False
  | .targetReached => h'.scheduler.currentCycle = targetCycle ∧
      ∀ ev, Live h'.scheduler ev → h'.scheduler.currentCycle < ev.targetCycle
  | .eventLimitReached =>
      (firedEvents h').length = (firedEvents h).length + maxEvents.toNat ∧
      ∃ ev, Live h'.scheduler ev ∧ ev.targetCycle ≤ targetCycle

/-- Calls that leave the clock alone. -/
def LeavesClock : SchedulerCall κ σ → Prop
  | .advanceCycles _ => False
  | .runUntil _ _ => False
  | .stepCycles _ _ => False
  | _ => True

/-- Calls that move the clock by running events only. -/
def RunsEvents : SchedulerCall κ σ → Prop
  | .advanceCycles _ => False
  | _ => True

/-! ## The clock -/

/-- The cycle a callback is called with. -/
def observedCycle : Deed κ → List Cycle
  | .fired ev => [ev.targetCycle]
  | _ => []

/-- The cycles a run goes through, the newest first: the clock of every scheduler and the
cycle of every event fired. -/
def cyclesSeen (h : Host κ σ) : List Cycle :=
  h.scheduler.currentCycle ::
    h.history.flatMap fun m => observedCycle m.1 ++ [m.2.currentCycle]

/-- A call made in a run: the targets of the runs it is made inside of, the call, and the
scheduler before it. -/
structure MadeCall (κ σ : Type) where
  runs : List Cycle
  call : SchedulerCall κ σ
  before : Scheduler κ

/-- The run a call starts: its target and its limit. -/
def startedRun (s : Scheduler κ) : SchedulerCall κ σ → Option (Cycle × U64)
  | .runUntil targetCycle maxEvents =>
    if targetCycle < s.currentCycle then none else some (targetCycle, maxEvents)
  | .stepCycles delta maxEvents =>
    (checkedAdd s.currentCycle delta).map fun targetCycle => (targetCycle, maxEvents)
  | _ => none

/-- A call with the calls made inside of the run it starts. -/
def callsOf (inRun : List Cycle → Cycle → U64 → Host κ σ → List (MadeCall κ σ)) (runs : List Cycle)
    (c : SchedulerCall κ σ) (h : Host κ σ) : List (MadeCall κ σ) :=
  { runs := runs, call := c, before := h.scheduler } ::
    match startedRun h.scheduler c with
    | none => []
    | some (targetCycle, maxEvents) => inRun (targetCycle :: runs) targetCycle maxEvents h

/-- The calls the callback of a fired event makes, each with those inside of the run it starts. -/
def callsInCallback (behave : κ → Cycle → Callback κ σ)
    (loop : Cycle → U64 → EStateM Unfinished (Host κ σ) SchedulerStatus)
    (calls : SchedulerCall κ σ → Host κ σ → List (MadeCall κ σ)) (ev : Event κ) (h : Host κ σ) :
    List (MadeCall κ σ) :=
  match ev.callback with
  | none => []
  | some name => (behave name ev.targetCycle).notes (Host.answer loop) calls h

/-- The calls the callbacks of a run make, turn by turn as `Host.runLoop` has them; `runs` has
the target of the run itself too. -/
def callsInRun (behave : κ → Cycle → Callback κ σ) :
    ℕ → List Cycle → U64 → Cycle → U64 → Host κ σ → List (MadeCall κ σ)
  | 0, _, _, _, _, _ => []
  | turns + 1, runs, eventsFired, targetCycle, maxEvents, h =>
    match h.scheduler.eventQueue with
    | [] => []
    | top :: rest =>
      if top.id ∈ h.scheduler.canceledIds then
        callsInRun behave turns runs eventsFired targetCycle maxEvents
          (h.record (.dropped top.id) (h.scheduler.dropCanceled top.id rest))
      else if top.targetCycle > targetCycle then []
      else if eventsFired ≥ maxEvents then []
      else
        let h₁ := h.record (.fired top) (h.scheduler.takeEvent top rest)
        callsInCallback behave (Host.runLoop behave turns 0)
            (callsOf (fun runs => callsInRun behave turns runs 0) runs) top h₁ ++
          match (Host.callBack behave (Host.runLoop behave turns 0) top).run h₁ with
          | .ok _ h₂ => callsInRun behave turns runs (eventsFired + 1) targetCycle maxEvents h₂
          | .error _ _ => []

/-- All calls made when a host makes calls, by itself and inside of callbacks. -/
def callsMade (behave : κ → Cycle → Callback κ σ) (turns : ℕ) :
    List (SchedulerCall κ σ) → Host κ σ → List (MadeCall κ σ)
  | [], _ => []
  | c :: cs, h =>
    callsOf (fun runs => callsInRun behave turns runs 0) [] c h ++
      match (Host.call behave turns c).run h with
      | .ok _ h' => callsMade behave turns cs h'
      | .error _ _ => []

/-- The events of a queue that are still to happen.  The other entries are dropped when they
come to the top, each with its mark. -/
def aliveEvents : List (Event κ) → Finset EventId → List (Event κ)
  | [], _ => []
  | ev :: rest, canceled =>
    if ev.id ∈ canceled then aliveEvents rest (canceled.erase ev.id)
    else ev :: aliveEvents rest canceled

/-- The cycle is past the target of no run in progress. -/
def WithinRuns (runs : List Cycle) (cycle : Cycle) : Prop := ∀ targetCycle ∈ runs, cycle ≤ targetCycle

/-- Keeping within the runs is decidable. -/
instance (runs : List Cycle) (cycle : Cycle) : Decidable (WithinRuns runs cycle) :=
  List.decidableBAll _ _

/-- A call made in time: the clock is advanced past no event still to happen and past the
target of no run in progress, and no run is started to a target beyond that of a run in
progress. -/
def InTime (m : MadeCall κ σ) : Prop :=
  match m.call with
  | .advanceCycles delta => ∀ cycle ∈ checkedAdd m.before.currentCycle delta,
      (∀ ev ∈ aliveEvents m.before.eventQueue m.before.canceledIds, cycle ≤ ev.targetCycle) ∧
      WithinRuns m.runs cycle
  | c => ∀ run ∈ startedRun m.before c, WithinRuns m.runs run.1

-- The quantifiers are over what an option has: the search would decide them over all cycles.
/-- Being in time is decidable. -/
instance (m : MadeCall κ σ) : Decidable (InTime m) :=
  match m with
  | ⟨_, .advanceCycles _, _⟩ | ⟨_, .runUntil _ _, _⟩ | ⟨_, .stepCycles _ _, _⟩ =>
    Option.decidableForallMem _
  | ⟨_, .scheduleEvent _ _, _⟩ | ⟨_, .scheduleRelative _ _, _⟩ | ⟨_, .cancelEvent _, _⟩
  | ⟨_, .currentCycle, _⟩ | ⟨_, .pendingEventCount, _⟩ | ⟨_, .outside _, _⟩ =>
    isTrue fun _ h => nomatch h

/-! ## Splitting -/

/-- The default limit, `std::numeric_limits<std::size_t>::max()`. -/
def kUnlimitedEvents : U64 := 0xFFFFFFFFFFFFFFFF

/-- `RunUntil` returns. -/
def Returns (behave : κ → Cycle → Callback κ σ) (targetCycle : Cycle) (maxEvents : U64)
    (h : Host κ σ) (result : Result SchedulerStatus) (h' : Host κ σ) : Prop :=
  ∃ turns, (Host.runUntil behave turns targetCycle maxEvents).run h = .ok result h'

/-- `RunUntil` with a limit, repeated as long as it reports the limit, reaches the target. -/
inductive Repeated (behave : κ → Cycle → Callback κ σ) (targetCycle : Cycle) (maxEvents : U64) :
    Host κ σ → Host κ σ → Prop
  | last {h h' : Host κ σ}
      (hlast : Returns behave targetCycle maxEvents h (.ok .targetReached) h') :
      Repeated behave targetCycle maxEvents h h'
  | again {h h₁ h' : Host κ σ}
      (hfirst : Returns behave targetCycle maxEvents h (.ok .eventLimitReached) h₁)
      (hrest : Repeated behave targetCycle maxEvents h₁ h') :
      Repeated behave targetCycle maxEvents h h'

/-- The next entry of the queue is a live event that is due. -/
def NextDue (targetCycle : Cycle) (h : Host κ σ) : Prop :=
  ∃ top rest, h.scheduler.eventQueue = top :: rest ∧ top.id ∉ h.scheduler.canceledIds ∧
    top.targetCycle ≤ targetCycle

/-- The points a run to a target goes through, with the number of events it has fired. -/
inductive Passes (behave : κ → Cycle → Callback κ σ) (targetCycle : Cycle) :
    ℕ → Host κ σ → Host κ σ → Prop
  | here (h : Host κ σ) : Passes behave targetCycle 0 h h
  | dropped {n : ℕ} {h h' : Host κ σ} {top : Event κ} {rest : List (Event κ)}
      (hq : h.scheduler.eventQueue = top :: rest) (hcanceled : top.id ∈ h.scheduler.canceledIds)
      (hnext : Passes behave targetCycle n
        (h.record (.dropped top.id) (h.scheduler.dropCanceled top.id rest)) h') :
      Passes behave targetCycle n h h'
  | fired {n turns : ℕ} {h h₁ h' : Host κ σ} {top : Event κ} {rest : List (Event κ)}
      (hq : h.scheduler.eventQueue = top :: rest) (hlive : top.id ∉ h.scheduler.canceledIds)
      (hdue : top.targetCycle ≤ targetCycle)
      (hcall : (Host.callBack behave (Host.runLoop behave turns 0) top).run
        (h.record (.fired top) (h.scheduler.takeEvent top rest)) = .ok () h₁)
      (hnext : Passes behave targetCycle n h₁ h') :
      Passes behave targetCycle (n + 1) h h'

/-- Wherever a run with a limit is interrupted, that is after every `maxEvents` events when
another one is due, the clock is not beyond the target. -/
def InterruptedInTime (behave : κ → Cycle → Callback κ σ) (targetCycle : Cycle) (maxEvents : U64)
    (h : Host κ σ) : Prop :=
  ∀ j p, Passes behave targetCycle (j * maxEvents.toNat) h p → NextDue targetCycle p →
    p.scheduler.currentCycle ≤ targetCycle

end Xblob.Interface
