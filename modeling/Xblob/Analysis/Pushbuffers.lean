import Xblob.Analysis.SchedulerClock
import Xblob.Interface.Pushbuffers

/-!
# Pushbuffers that come due in the worker are never executed

A callback is run by whoever moves the clock.  When the host does, the callback of a pushbuffer
finds the lock free and executes it.  When the worker does, it has the lock, and the callback
waits for it for ever.
-/

set_option autoImplicit false

namespace Xblob.Analysis

open Xblob.Computation Xblob.Core Xblob.Core.Host Xblob.Interface Xblob.Machine
open Xblob.Machine.SessionProgram

/-- What `RunUntil` runs for a callback that calls it, which those of a session do not. -/
abbrev SessionLoop (ω : Type) :=
  Cycle → U64 → EStateM Unfinished (PushbufferHost ω) SchedulerStatus

variable {ω : Type} {g : GpuParts ω} {h : PushbufferHost ω} {loop : SessionLoop ω}

/-! ## Programs -/

/-- A change of the world, run. -/
@[simp] theorem run_change (f : PushbufferWorld ω → PushbufferWorld ω) (h : PushbufferHost ω) :
    ((change f).run (answer loop)).run h = .ok h.world { h with world := f h.world } := rfl

/-- Reading the clock, run. -/
@[simp] theorem run_currentCycle (h : PushbufferHost ω) :
    ((currentCycle : SessionProgram ω Cycle).run (answer loop)).run h =
      .ok h.scheduler.currentCycle h := rfl

/-- Scheduling an event, run. -/
theorem run_scheduleEvent (targetCycle : Cycle) (callback : SessionCallback) (h : PushbufferHost ω) :
    ((scheduleEvent targetCycle callback).run (answer loop)).run h =
      (Host.scheduleEvent targetCycle (some callback)).run h :=
  congrArg (fun x => EStateM.run x h) (Program.run_request _)

/-- Stepping the scheduler, run. -/
theorem run_stepCycles (delta : Cycle) (maxEvents : U64) (h : PushbufferHost ω) :
    ((stepCycles delta maxEvents).run (answer loop)).run h =
      (checkedStep loop delta maxEvents).run h :=
  congrArg (fun x => EStateM.run x h) (Program.run_request _)

/-- The lock, when it is free. -/
theorem run_lock_free (hfree : h.world.locked = false) :
    ((lock : SessionProgram ω Unit).run (answer loop)).run h =
      .ok () { h with world := { h.world with locked := true } } := by
  simp [lock, hfree]

/-- The lock, when the thread has it. -/
theorem run_lock_held (hheld : h.world.locked = true) :
    ((lock : SessionProgram ω Unit).run (answer loop)).run h =
      .error {} { h with world := { h.world with relocked := true } } := by
  simp [lock, hheld]

/-- Unlocking the machine, run. -/
@[simp] theorem run_unlock (h : PushbufferHost ω) :
    ((unlock : SessionProgram ω Unit).run (answer loop)).run h =
      .ok () { h with world := { h.world with locked := false } } := rfl

/-- The session after a pushbuffer. -/
def afterPushbuffer (g : GpuParts ω) (addr : GuestAddr) (wordCount : U32) (callback : Bool)
    (h : PushbufferHost ω) : PushbufferHost ω :=
  { h with world := { h.world with
      rest := (g.executeFromMemory addr wordCount h.world.rest).2
      executed := if callback then (addr, wordCount) :: h.world.executed else h.world.executed } }

/-- Executing a pushbuffer on a machine that is not locked, run. -/
theorem run_executePushbuffer (loop : SessionLoop ω) (g : GpuParts ω) (addr : GuestAddr)
    (wordCount : U32) (callback : Bool) (hfree : h.world.locked = false) :
    ((executePushbuffer g addr wordCount callback).run (answer loop)).run h =
      .ok (g.executeFromMemory addr wordCount h.world.rest).1
        (afterPushbuffer g addr wordCount callback h) := by
  simp [executePushbuffer, run_lock_free hfree, afterPushbuffer, ← hfree]

/-! ## What firing leaves -/

/-- The turns that a queue takes. -/
def queueWeight (queue : List (Event SessionCallback)) : ℕ :=
  queue.length + queue.countP fun ev => (pushbufferOf ev).isSome

/-- The weight of a queue with one event more. -/
theorem queueWeight_cons (top : Event SessionCallback) (rest : List (Event SessionCallback)) :
    queueWeight (top :: rest) =
      queueWeight rest + 1 + if (pushbufferOf top).isSome then 1 else 0 := by
  simp only [queueWeight, List.length_cons, List.countP_cons]
  omega

/-- The weight of a queue does not depend on where an event is put in. -/
theorem queueWeight_push (ev : Event SessionCallback) (queue : List (Event SessionCallback)) :
    queueWeight (Scheduler.push ev queue) = queueWeight (ev :: queue) := by
  have hperm : (Scheduler.push ev queue).Perm (ev :: queue) := List.perm_orderedInsert _ ev queue
  rw [queueWeight, queueWeight, hperm.length_eq, hperm.countP_eq]

/-- The session goes on from one state to another, with the pushbuffers executed in between. -/
structure GoesOn (pushbuffers : List (GuestAddr × U32)) (h h' : PushbufferHost ω) : Prop where
  locked : h'.world.locked = h.world.locked
  relocked : h'.world.relocked = h.world.relocked
  executed : h'.world.executed = pushbuffers ++ h.world.executed
  fired : firedEvents h' = firedEvents h

/-- An event put in the queue, unless it is past. -/
theorem scheduleEvent_goesOn (targetCycle : Cycle) (callback : SessionCallback)
    (h : PushbufferHost ω) :
    ∃ r h', (Host.scheduleEvent targetCycle (some callback)).run h = .ok r h' ∧ GoesOn [] h h' ∧
      queueWeight h'.scheduler.eventQueue ≤ queueWeight h.scheduler.eventQueue + 1 +
        if callback = .flip then 0 else 1 := by
  unfold Host.scheduleEvent
  rw [EStateM.run_bind, EStateM.run_get]
  dsimp only
  split
  · exact ⟨_, h, rfl, ⟨rfl, rfl, rfl, rfl⟩, by omega⟩
  · refine ⟨_, _, rfl, ⟨rfl, rfl, rfl, rfl⟩, ?_⟩
    show queueWeight (Scheduler.push _ h.scheduler.eventQueue) ≤ _
    rw [queueWeight_push, queueWeight_cons]
    cases callback with
    | pushbuffer addr wordCount => simp [Scheduler.newEvent, pushbufferOf]
    | flip => simp [Scheduler.newEvent, pushbufferOf]

/-- A callback that finds the lock free executes its pushbuffer. -/
theorem callBack_free (loop : SessionLoop ω) (g : GpuParts ω) (ev : Event SessionCallback)
    (hfree : h.world.locked = false) :
    ∃ h', (callBack (behaveSession g) loop ev).run h = .ok () h' ∧
      GoesOn (pushbufferOf ev).toList h h' ∧
      queueWeight h'.scheduler.eventQueue ≤ queueWeight h.scheduler.eventQueue +
        if (pushbufferOf ev).isSome then 1 else 0 := by
  cases hcallback : ev.callback with
  | none =>
    refine ⟨h, ?_, ?_, by omega⟩
    · rw [callBack, hcallback]
      rfl
    · rw [pushbufferOf, hcallback]
      exact ⟨rfl, rfl, rfl, rfl⟩
  | some callback =>
    cases callback with
    | flip =>
      have hnone : pushbufferOf ev = none := by rw [pushbufferOf, hcallback]
      refine ⟨{ h with world := { h.world with rest := g.flip h.world.rest } }, ?_, ?_, ?_⟩
      · rw [callBack, hcallback]
        rfl
      · rw [hnone]
        exact ⟨rfl, rfl, rfl, rfl⟩
      · exact Nat.le_add_right _ _
    | pushbuffer addr wordCount =>
      have hsome : pushbufferOf ev = some (addr, wordCount) := by rw [pushbufferOf, hcallback]
      have hexecute := run_executePushbuffer loop g addr wordCount true hfree
      have hcall : (callBack (behaveSession g) loop ev).run h =
          ((behaveSession g (.pushbuffer addr wordCount) ev.targetCycle).run (answer loop)).run h := by
        rw [callBack, hcallback]
      cases hstats : (g.executeFromMemory addr wordCount h.world.rest).1 with
      | false =>
        refine ⟨afterPushbuffer g addr wordCount true h, ?_, ?_, Nat.le_add_right _ _⟩
        · rw [hcall]
          simp [behaveSession, hexecute, hstats]
        · rw [hsome]
          exact ⟨rfl, rfl, rfl, rfl⟩
      | true =>
        obtain ⟨r, h', hrun, hgoes, hweight⟩ := scheduleEvent_goesOn
          (h.scheduler.currentCycle + 200) .flip (afterPushbuffer g addr wordCount true h)
        refine ⟨h', ?_, ?_, ?_⟩
        · rw [hcall]
          simp only [behaveSession, Program.run_bind, EStateM.run_bind, hexecute, hstats, if_true,
            run_currentCycle, run_scheduleEvent]
          rw [show (afterPushbuffer g addr wordCount true h).scheduler = h.scheduler from rfl, hrun]
          rfl
        · rw [hsome]
          exact ⟨hgoes.locked, hgoes.relocked, hgoes.executed, hgoes.fired⟩
        · simpa [hsome, afterPushbuffer] using hweight

/-- The callback of a pushbuffer that finds the lock with its own thread. -/
theorem callBack_held (loop : SessionLoop ω) (g : GpuParts ω) {ev : Event SessionCallback}
    (hsome : (pushbufferOf ev).isSome = true) (hheld : h.world.locked = true) :
    (callBack (behaveSession g) loop ev).run h =
      .error {} { h with world := { h.world with relocked := true } } := by
  unfold pushbufferOf at hsome
  split at hsome
  next addr wordCount hcallback =>
    rw [callBack, hcallback]
    simp [behaveSession, executePushbuffer, run_lock_held hheld]
  next => cases hsome

/-- Any other callback, whoever has the lock. -/
theorem callBack_other (loop : SessionLoop ω) (g : GpuParts ω) {ev : Event SessionCallback}
    (hnone : pushbufferOf ev = none) :
    ∃ rest, (callBack (behaveSession g) loop ev).run h =
      .ok () { h with world := { h.world with rest := rest } } := by
  cases hcallback : ev.callback with
  | none =>
    refine ⟨h.world.rest, ?_⟩
    rw [callBack, hcallback]
    rfl
  | some callback =>
    cases callback with
    | flip =>
      refine ⟨g.flip h.world.rest, ?_⟩
      rw [callBack, hcallback]
      rfl
    | pushbuffer addr wordCount => simp [pushbufferOf, hcallback] at hnone

/-! ## Runs of the scheduler -/

/-- Where pushbuffers have run, they have when the host goes on. -/
theorem pushbuffersRun_goesOn {h' : PushbufferHost ω} (hrun : PushbuffersRun h)
    (hgoes : GoesOn [] h h') : PushbuffersRun h' := by
  refine ⟨?_, hgoes.relocked.trans hrun.relocked⟩
  rw [hgoes.executed, pushbuffersFired, hgoes.fired]
  exact hrun.executed

/-- An event that has fired and whose callback has been run. -/
theorem pushbuffersRun_fire {h' : PushbufferHost ω} {top : Event SessionCallback}
    {s : Scheduler SessionCallback} (hrun : PushbuffersRun h)
    (hgoes : GoesOn (pushbufferOf top).toList (h.record (.fired top) s) h') : PushbuffersRun h' := by
  refine ⟨?_, hgoes.relocked.trans hrun.relocked⟩
  rw [hgoes.executed, pushbuffersFired, hgoes.fired]
  show (pushbufferOf top).toList ++ h.world.executed = (top :: firedEvents h).filterMap pushbufferOf
  rw [hrun.executed, List.filterMap_cons]
  cases pushbufferOf top with
  | none => rfl
  | some pushbuffer => rfl

/-- The end of a run goes on without firing. -/
theorem finishRun_goesOn (targetCycle : Cycle) (maxEvents eventsFired : U64) (h : PushbufferHost ω) :
    ∃ status h', (finishRun targetCycle maxEvents eventsFired).run h = .ok status h' ∧
      GoesOn [] h h' := by
  unfold finishRun
  rw [EStateM.run_bind, EStateM.run_get]
  dsimp only
  split
  · exact ⟨_, _, rfl, ⟨rfl, rfl, rfl, rfl⟩⟩
  · exact ⟨_, _, rfl, ⟨rfl, rfl, rfl, rfl⟩⟩

/-- A run of the scheduler by somebody without the lock, or one that fires no pushbuffer, ends,
and has executed the pushbuffers it fired. -/
theorem runLoop_pushbuffers (g : GpuParts ω) (turns : ℕ) (eventsFired : U64) (targetCycle : Cycle)
    (maxEvents : U64) (h : PushbufferHost ω) (hrun : PushbuffersRun h)
    (hturns : queueWeight h.scheduler.eventQueue < turns)
    (hcalm : h.world.locked = false ∨ firesPushbuffer targetCycle maxEvents eventsFired
      h.scheduler.eventQueue h.scheduler.canceledIds = false) :
    ∃ status h', (runLoop (behaveSession g) turns eventsFired targetCycle maxEvents).run h =
      .ok status h' ∧ PushbuffersRun h' ∧ h'.world.locked = h.world.locked := by
  induction turns generalizing eventsFired h with
  | zero => exact absurd hturns (Nat.not_lt_zero _)
  | succ turns ih =>
    cases hqueue : h.scheduler.eventQueue with
    | nil =>
      obtain ⟨status, h', heq, hgoes⟩ := finishRun_goesOn targetCycle maxEvents eventsFired h
      exact ⟨status, h', (runLoop_empty hqueue).trans heq, pushbuffersRun_goesOn hrun hgoes, hgoes.locked⟩
    | cons top rest =>
      rw [hqueue] at hturns hcalm
      rw [queueWeight_cons] at hturns
      by_cases hcanceled : top.id ∈ h.scheduler.canceledIds
      · rw [runLoop_drop hqueue hcanceled]
        apply ih
        · exact pushbuffersRun_goesOn hrun ⟨rfl, rfl, rfl, rfl⟩
        · show queueWeight rest < turns
          omega
        · rw [firesPushbuffer, if_pos hcanceled] at hcalm
          exact hcalm
      · rw [firesPushbuffer, if_neg hcanceled] at hcalm
        by_cases hlate : top.targetCycle > targetCycle
        · obtain ⟨status, h', heq, hgoes⟩ := finishRun_goesOn targetCycle maxEvents eventsFired h
          exact ⟨status, h', (runLoop_late hqueue hcanceled hlate).trans heq, pushbuffersRun_goesOn hrun hgoes,
            hgoes.locked⟩
        · by_cases hlimit : eventsFired ≥ maxEvents
          · exact ⟨_, h, runLoop_limit hqueue hcanceled hlate hlimit, hrun, rfl⟩
          · rw [if_neg (by simp [hlate, hlimit]), Bool.or_eq_false_iff] at hcalm
            rw [runLoop_fire hqueue hcanceled hlate hlimit, EStateM.run_bind]
            obtain hfree | ⟨hother, hrest⟩ := hcalm
            · obtain ⟨h', heq, hgoes, hweight⟩ := callBack_free (runLoop (behaveSession g) turns 0) g
                top (h := h.record (.fired top) (h.scheduler.takeEvent top rest)) hfree
              rw [heq]
              have hweight' : queueWeight h'.scheduler.eventQueue ≤ queueWeight rest +
                  if (pushbufferOf top).isSome then 1 else 0 := hweight
              obtain ⟨status, h'', heq', hrun', hlocked⟩ := ih (eventsFired + 1) h'
                (pushbuffersRun_fire hrun hgoes) (by omega) (.inl (hgoes.locked.trans hfree))
              exact ⟨status, h'', heq', hrun', hlocked.trans hgoes.locked⟩
            · have hnone : pushbufferOf top = none := by simpa using hother
              obtain ⟨others, heq⟩ := callBack_other (runLoop (behaveSession g) turns 0) g
                (h := h.record (.fired top) (h.scheduler.takeEvent top rest)) hnone
              rw [heq]
              apply ih
              · apply pushbuffersRun_fire hrun
                rw [hnone]
                exact ⟨rfl, rfl, rfl, rfl⟩
              · show queueWeight rest < turns
                omega
              · exact .inr hrest

/-- A run of the scheduler by somebody with the lock that fires a pushbuffer does not end. -/
theorem runLoop_relocks (g : GpuParts ω) (turns : ℕ) (eventsFired : U64) (targetCycle : Cycle)
    (maxEvents : U64) (h : PushbufferHost ω) (hheld : h.world.locked = true)
    (hturns : queueWeight h.scheduler.eventQueue < turns)
    (hfires : firesPushbuffer targetCycle maxEvents eventsFired h.scheduler.eventQueue
      h.scheduler.canceledIds = true) :
    ∃ h', (runLoop (behaveSession g) turns eventsFired targetCycle maxEvents).run h =
      .error {} h' ∧ h'.world.relocked = true := by
  induction turns generalizing eventsFired h with
  | zero => exact absurd hturns (Nat.not_lt_zero _)
  | succ turns ih =>
    cases hqueue : h.scheduler.eventQueue with
    | nil =>
      rw [hqueue] at hfires
      cases hfires
    | cons top rest =>
      rw [hqueue] at hturns hfires
      rw [queueWeight_cons] at hturns
      by_cases hcanceled : top.id ∈ h.scheduler.canceledIds
      · rw [runLoop_drop hqueue hcanceled]
        rw [firesPushbuffer, if_pos hcanceled] at hfires
        apply ih
        · exact hheld
        · show queueWeight rest < turns
          omega
        · exact hfires
      · rw [firesPushbuffer, if_neg hcanceled] at hfires
        by_cases hstop : (decide (top.targetCycle > targetCycle) ||
            decide (eventsFired ≥ maxEvents)) = true
        · rw [if_pos hstop] at hfires
          cases hfires
        · rw [if_neg hstop, Bool.or_eq_true] at hfires
          obtain ⟨hlate, hlimit⟩ : ¬ top.targetCycle > targetCycle ∧ ¬ eventsFired ≥ maxEvents := by
            simpa using hstop
          rw [runLoop_fire hqueue hcanceled hlate hlimit, EStateM.run_bind]
          cases hpushbuffer : pushbufferOf top with
          | some pushbuffer =>
            have hsome : (pushbufferOf top).isSome = true := by simp [hpushbuffer]
            rw [callBack_held _ g hsome (h := h.record (.fired top)
              (h.scheduler.takeEvent top rest)) hheld]
            exact ⟨_, rfl, rfl⟩
          | none =>
            obtain ⟨others, heq⟩ := callBack_other (runLoop (behaveSession g) turns 0) g
              (h := h.record (.fired top) (h.scheduler.takeEvent top rest)) hpushbuffer
            rw [heq]
            apply ih
            · exact hheld
            · show queueWeight rest < turns
              omega
            · exact hfires.resolve_left (by simp [hpushbuffer])

/-- `StepCycles`, up to the run it makes. -/
theorem run_checkedStep (loop : SessionLoop ω) (delta : Cycle) (maxEvents : U64)
    (h : PushbufferHost ω) :
    (∃ e, (checkedStep loop delta maxEvents).run h = .ok (.error e) h ∧
        checkedAdd h.scheduler.currentCycle delta = none) ∨
      ∃ targetCycle, checkedAdd h.scheduler.currentCycle delta = some targetCycle ∧
        (checkedStep loop delta maxEvents).run h =
          ((loop targetCycle maxEvents) >>= fun status => pure (.ok status)).run h := by
  unfold checkedStep
  rw [EStateM.run_bind, EStateM.run_get]
  dsimp only
  cases hsum : checkedAdd h.scheduler.currentCycle delta with
  | none => exact .inl ⟨_, rfl, rfl⟩
  | some targetCycle =>
    refine .inr ⟨targetCycle, rfl, ?_⟩
    have hforward : ¬ targetCycle < h.scheduler.currentCycle :=
      BitVec.not_lt.2 (le_of_checkedAdd hsum)
    dsimp only
    rw [checkedRun, EStateM.run_bind, EStateM.run_get]
    dsimp only
    rw [if_neg hforward]

/-- A move of the clock by somebody without the lock, or one that fires no pushbuffer. -/
theorem stepCycles_pushbuffers (g : GpuParts ω) (delta : Cycle) (h : PushbufferHost ω)
    (hrun : PushbuffersRun h)
    (hcalm : h.world.locked = false ∨ ∀ targetCycle,
      checkedAdd h.scheduler.currentCycle delta = some targetCycle →
        firesPushbuffer targetCycle kAllEvents 0 h.scheduler.eventQueue
          h.scheduler.canceledIds = false) :
    ∃ r h', (checkedStep (runLoop (behaveSession g) (enoughTurns h.scheduler.eventQueue) 0) delta
      kAllEvents).run h = .ok r h' ∧ PushbuffersRun h' ∧
        h'.world.locked = h.world.locked := by
  obtain ⟨e, heq, -⟩ | ⟨targetCycle, hsum, heq⟩ := run_checkedStep
    (runLoop (behaveSession g) (enoughTurns h.scheduler.eventQueue) 0) delta kAllEvents h
  · exact ⟨_, h, heq, hrun, rfl⟩
  · obtain ⟨status, h', hloop, hrun', hlocked⟩ := runLoop_pushbuffers g
      (enoughTurns h.scheduler.eventQueue) 0 targetCycle kAllEvents h hrun (Nat.lt_succ_self _)
      (hcalm.imp_right fun hnone => hnone targetCycle hsum)
    refine ⟨.ok status, h', ?_, hrun', hlocked⟩
    rw [heq, EStateM.run_bind, hloop]
    rfl

/-! ## Events -/

/-- The lock is free and the pushbuffers have run. -/
structure AtRestRun (h : PushbufferHost ω) : Prop where
  run : PushbuffersRun h
  free : h.world.locked = false

/-- A run at rest stays so when the host goes on. -/
theorem AtRestRun.goesOn {h' : PushbufferHost ω} (hrest : AtRestRun h) (hgoes : GoesOn [] h h') :
    AtRestRun h' :=
  ⟨pushbuffersRun_goesOn hrest.run hgoes, hgoes.locked.trans hrest.free⟩

/-- Scheduling a pushbuffer on a machine that is not locked returns. -/
theorem run_schedulePushbuffer (loop : SessionLoop ω) (g : GpuParts ω) (addr : GuestAddr)
    (wordCount : U32) (delay : Cycle) (hfree : h.world.locked = false) :
    ∃ r h', ((Machine.schedulePushbuffer g addr wordCount delay).run (answer loop)).run h =
      .ok r h' ∧ GoesOn [] h h' := by
  let taken : PushbufferHost ω := { h with world := { h.world with locked := true } }
  obtain ⟨r, h', hrun, hgoes, -⟩ := scheduleEvent_goesOn (h.scheduler.currentCycle + delay)
    (.pushbuffer addr wordCount) taken
  have hschedule : ((scheduleEvent (h.scheduler.currentCycle + delay)
      (.pushbuffer addr wordCount)).run (answer loop)).run taken = .ok r h' := by
    rw [run_scheduleEvent, hrun]
  cases r with
  | error e =>
    refine ⟨.error e, { h' with world := { h'.world with locked := false } }, ?_, ?_⟩
    · simp only [schedulePushbuffer, Program.run_bind, EStateM.run_bind, run_lock_free hfree,
        run_currentCycle]
      rw [hschedule]
      rfl
    · exact ⟨hfree.symm, hgoes.relocked, hgoes.executed, hgoes.fired⟩
  | ok id =>
    refine ⟨.ok id, { h' with world := { h'.world with
      rest := g.registerPendingEvent id h'.world.rest, locked := false } }, ?_, ?_⟩
    · simp only [schedulePushbuffer, Program.run_bind, EStateM.run_bind, run_lock_free hfree,
        run_currentCycle]
      rw [hschedule]
      rfl
    · exact ⟨hfree.symm, hgoes.relocked, hgoes.executed, hgoes.fired⟩

/-- The clock is not moved when the sum does not fit, or fires no pushbuffer. -/
theorem calm_of_notDue {work : ω → ω} {cycles : Cycle}
    (hdue : pushbufferDue h (.instruction work cycles) = false) (hcycles : cycles > 0)
    (targetCycle : Cycle) (hsum : checkedAdd h.scheduler.currentCycle cycles = some targetCycle) :
    firesPushbuffer targetCycle kAllEvents 0 h.scheduler.eventQueue h.scheduler.canceledIds =
      false := by
  have hcalm : 0 < cycles → firesPushbuffer targetCycle kAllEvents 0 h.scheduler.eventQueue
      h.scheduler.canceledIds = false := by
    simpa [pushbufferDue, hsum] using hdue
  exact hcalm hcycles

/-- The session with the lock in the hands of the worker, after the work of an instruction. -/
def working (work : ω → ω) (h : PushbufferHost ω) : PushbufferHost ω :=
  { h with world := { h.world with locked := true, rest := work h.world.rest } }

/-- An instruction, up to its move of the clock. -/
theorem run_instruction (loop : SessionLoop ω) (work : ω → ω) {cycles : Cycle}
    (hcycles : cycles > 0) (hfree : h.world.locked = false) :
    ((Machine.instruction work cycles).run (answer loop)).run h =
      (checkedStep loop cycles kAllEvents >>= fun _ =>
        (unlock : SessionProgram ω Unit).run (answer loop)).run (working work h) := by
  simp only [instruction, Program.run_bind, EStateM.run_bind, run_lock_free hfree, run_change]
  rw [if_pos hcycles, Program.run_bind, EStateM.run_bind, run_stepCycles]
  rfl

/-- Every event that brings no pushbuffer to the worker leaves the session at rest. -/
theorem atRestRun_next (g : GpuParts ω) (h : PushbufferHost ω) (e : PushbufferEvent ω)
    (hrest : AtRestRun h) (hguard : NoPushbufferDue h e) : AtRestRun (e.next g h) := by
  cases e with
  | schedulePushbuffer addr wordCount delay =>
    obtain ⟨r, h', heq, hgoes⟩ := run_schedulePushbuffer
      (runLoop (behaveSession g) (enoughTurns h.scheduler.eventQueue) 0) g addr wordCount delay
      hrest.free
    have hnext : (PushbufferEvent.schedulePushbuffer addr wordCount delay).next g h = h' := by
      simp only [PushbufferEvent.next, PushbufferEvent.program, Program.run_bind, EStateM.run_bind]
      rw [heq]
      rfl
    rw [hnext]
    exact hrest.goesOn hgoes
  | executePushbuffer addr wordCount =>
    have heq := run_executePushbuffer
      (runLoop (behaveSession g) (enoughTurns h.scheduler.eventQueue) 0) g addr wordCount false
      hrest.free
    have hnext : (PushbufferEvent.executePushbuffer addr wordCount).next g h =
        afterPushbuffer g addr wordCount false h := by
      simp only [PushbufferEvent.next, PushbufferEvent.program, Program.run_bind, EStateM.run_bind]
      rw [heq]
      rfl
    rw [hnext]
    exact hrest.goesOn ⟨rfl, rfl, rfl, rfl⟩
  | hostCycles delta =>
    obtain ⟨r, h', heq, hrun, hlocked⟩ :=
      stepCycles_pushbuffers g delta h hrest.run (.inl hrest.free)
    have hnext : (PushbufferEvent.hostCycles delta).next g h = h' := by
      simp only [PushbufferEvent.next, PushbufferEvent.program, hostCycles, Program.run_bind,
        EStateM.run_bind, run_stepCycles]
      rw [heq]
      rfl
    rw [hnext]
    exact ⟨hrun, hlocked.trans hrest.free⟩
  | instruction work cycles =>
    by_cases hcycles : cycles > 0
    · have hcalm := calm_of_notDue hguard hcycles
      obtain ⟨r, h', heq, hrun, -⟩ := stepCycles_pushbuffers g cycles (working work h)
        ⟨hrest.run.executed, hrest.run.relocked⟩ (.inr hcalm)
      have hstep : (checkedStep (runLoop (behaveSession g) (enoughTurns h.scheduler.eventQueue) 0)
          cycles kAllEvents).run (working work h) = .ok r h' := heq
      have hnext : (PushbufferEvent.instruction work cycles).next g h =
          { h' with world := { h'.world with locked := false } } := by
        simp only [PushbufferEvent.next, PushbufferEvent.program]
        rw [run_instruction _ work hcycles hrest.free, EStateM.run_bind, hstep]
        rfl
      rw [hnext]
      exact ⟨⟨hrun.executed, hrun.relocked⟩, rfl⟩
    · have hnext : (PushbufferEvent.instruction work cycles).next g h =
          { h with world := { h.world with locked := false, rest := work h.world.rest } } := by
        simp only [PushbufferEvent.next, PushbufferEvent.program, instruction, Program.run_bind,
          EStateM.run_bind, run_lock_free hrest.free, run_change]
        rw [if_neg hcycles]
        rfl
      rw [hnext]
      exact ⟨⟨hrest.run.executed, hrest.run.relocked⟩, rfl⟩

/-- An instruction that brings a pushbuffer to the worker asks for the lock again. -/
theorem next_relocks (g : GpuParts ω) (h : PushbufferHost ω) (e : PushbufferEvent ω)
    (hrest : AtRestRun h) (hdue : pushbufferDue h e = true) :
    (e.next g h).world.relocked = true := by
  cases e with
  | instruction work cycles =>
    obtain ⟨hcycles, hfires⟩ := Bool.and_eq_true_iff.1 hdue
    have hcycles' : cycles > 0 := of_decide_eq_true hcycles
    obtain ⟨e, -, hnone⟩ | ⟨targetCycle, hsum, heq⟩ := run_checkedStep
      (runLoop (behaveSession g) (enoughTurns h.scheduler.eventQueue) 0) cycles kAllEvents
      (working work h)
    · rw [show checkedAdd h.scheduler.currentCycle cycles = none from hnone] at hfires
      cases hfires
    · rw [show checkedAdd h.scheduler.currentCycle cycles = some targetCycle from hsum] at hfires
      obtain ⟨h', hloop, hrelocked⟩ := runLoop_relocks g (enoughTurns h.scheduler.eventQueue) 0
        targetCycle kAllEvents (working work h) rfl (Nat.lt_succ_self _) hfires
      have hnext : (PushbufferEvent.instruction work cycles).next g h = h' := by
        simp only [PushbufferEvent.next, PushbufferEvent.program]
        rw [run_instruction _ work hcycles' hrest.free, EStateM.run_bind, heq, EStateM.run_bind,
          hloop]
        rfl
      rw [hnext, hrelocked]
  | schedulePushbuffer addr wordCount delay => cases hdue
  | executePushbuffer addr wordCount => cases hdue
  | hostCycles delta => cases hdue

/-- In every run in which no instruction of the worker brings a pushbuffer due, every pushbuffer
whose event fired has been executed once, and nobody asks for a lock he has; an instruction
that does bring one due asks for it. -/
theorem pushbuffers_run (g : GpuParts ω) (initialCycle : Cycle) (rest : ω)
    {events : List (PushbufferEvent ω)} {h : PushbufferHost ω}
    (hruns : Runs (PushbufferEvent.next g) NoPushbufferDue events
      (freshHost initialCycle { rest := rest }) h) (e : PushbufferEvent ω) :
    PushbuffersRun h ∧ (PushbuffersRun (e.next g h) ↔ pushbufferDue h e = false) := by
  have hfresh : AtRestRun (freshHost initialCycle { rest := rest } : PushbufferHost ω) :=
    ⟨⟨rfl, rfl⟩, rfl⟩
  have hrest := hruns.invariant (atRestRun_next g) hfresh
  refine ⟨hrest.run, ?_, ?_⟩
  · intro hrun
    apply Bool.eq_false_iff.2
    intro hdue
    have hrelocked := next_relocks g h e hrest hdue
    rw [hrun.relocked] at hrelocked
    cases hrelocked
  · intro hnone
    exact (atRestRun_next g h e hrest hnone).run

/-- A GPU whose pushbuffers always give statistics, and which counts its flips. -/
def countingGpu : GpuParts ℕ where
  executeFromMemory _ _ n := (true, n)
  flip n := n + 1
  registerPendingEvent _ n := n

/-- A pushbuffer that comes due while the host moves the clock: it is executed and flipped. -/
theorem host_runs_pushbuffer :
    ∃ h, Runs (PushbufferEvent.next countingGpu) NoPushbufferDue
        [.schedulePushbuffer 0x10000 12 50, .instruction id 1, .hostCycles 300]
        (freshHost 0 { rest := 0 }) h ∧
      PushbuffersRun h ∧ h.world.executed = [(0x10000, 12)] ∧ h.world.rest = 1 := by
  have hruns : Runs (PushbufferEvent.next countingGpu) NoPushbufferDue
      [.schedulePushbuffer 0x10000 12 50, .instruction id 1, .hostCycles 300]
      (freshHost 0 { rest := 0 }) _ :=
    .cons rfl (.cons (show pushbufferDue _ _ = false by decide) (.cons rfl (.nil _)))
  exact ⟨_, hruns, (pushbuffers_run countingGpu 0 0 hruns (.hostCycles 0)).1, by decide, by decide⟩

/-- A pushbuffer that comes due while the worker executes an instruction is not executed: the
worker asks for the lock it has. -/
theorem worker_blocks_on_pushbuffer :
    ¬ PushbuffersRun ([.schedulePushbuffer 0x10000 12 1, .instruction id 1].foldl
        (PushbufferEvent.next countingGpu) (freshHost 0 { rest := 0 })) ∧
      ([.schedulePushbuffer 0x10000 12 1, .instruction id 1].foldl
        (PushbufferEvent.next countingGpu) (freshHost 0 { rest := 0 })).world.executed = [] ∧
      pushbuffersFired ([.schedulePushbuffer 0x10000 12 1, .instruction id 1].foldl
        (PushbufferEvent.next countingGpu) (freshHost 0 { rest := 0 })) = [(0x10000, 12)] := by
  refine ⟨?_, by decide, by decide⟩
  intro hrun
  have hrelocked := hrun.relocked
  revert hrelocked
  decide

end Xblob.Analysis
