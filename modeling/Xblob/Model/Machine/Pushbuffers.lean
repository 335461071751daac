import Xblob.Model.Core.Scheduler

/-!
# Pushbuffers of a session

`SchedulePushbuffer` registers an event whose callback calls `ExecutePushbuffer`, a host call
that takes the lock of the session.  The worker holds that lock while it executes
instructions and moves the clock.

The lock is one flag.  A thread that asks for it while another one has it waits and comes
later; a thread that asks for it while it has it itself waits for ever, which is a run that
does not finish.
-/

set_option autoImplicit false

namespace Xblob.Machine

open Xblob.Computation Xblob.Core

/-- What the session calls of the GPU, the pushbuffer processor and guest memory. -/
structure GpuParts (ω : Type) where
  /-- `ExecuteFromMemory`, and whether it returned statistics -/
  executeFromMemory : GuestAddr → U32 → ω → Bool × ω
  /-- `gpu_device_->Flip()` -/
  flip : ω → ω
  /-- `gpu_device_->RegisterPendingEvent` -/
  registerPendingEvent : EventId → ω → ω

/-- What is around the scheduler: `mutex_`, and everything it guards.  The source keeps
neither of the last two, and nothing here reads them: the pushbuffers executed by callbacks, the
newest first, and whether a thread has asked for the lock while it had it. -/
structure PushbufferWorld (ω : Type) where
  locked : Bool := false
  rest : ω
  executed : List (GuestAddr × U32) := []
  relocked : Bool := false

/-- The callbacks the session registers. -/
inductive SessionCallback where
  | pushbuffer (addr : GuestAddr) (wordCount : U32)
  | flip
  deriving DecidableEq, Repr

/-- The calls the session makes to its scheduler. -/
abbrev sessionCalls (ω : Type) : Signature :=
  ⟨SchedulerCall SessionCallback (PushbufferWorld ω), SchedulerCall.Answer⟩

/-- What the calls of a session and its callbacks are made of. -/
abbrev SessionProgram (ω : Type) := Program (sessionCalls ω) Unfinished

namespace SessionProgram

variable {ω : Type}

/-- A change of what is around the scheduler, and what was there before it. -/
def change (f : PushbufferWorld ω → PushbufferWorld ω) : SessionProgram ω (PushbufferWorld ω) :=
  Program.request (S := sessionCalls ω) (.outside f)

/-- The clock of the scheduler, read. -/
def currentCycle : SessionProgram ω Cycle := Program.request (S := sessionCalls ω) .currentCycle

/-- An event scheduled. -/
def scheduleEvent (targetCycle : Cycle) (callback : SessionCallback) :
    SessionProgram ω (Result EventId) :=
  Program.request (S := sessionCalls ω) (.scheduleEvent targetCycle (some callback))

/-- The scheduler stepped. -/
def stepCycles (delta : Cycle) (maxEvents : U64) : SessionProgram ω (Result SchedulerStatus) :=
  Program.request (S := sessionCalls ω) (.stepCycles delta maxEvents)

end SessionProgram

open SessionProgram

section

variable {ω : Type} (g : GpuParts ω)

/-- `std::lock_guard<std::mutex> lock(mutex_)` -/
def lock : SessionProgram ω Unit := do
  let w ← change fun w => if w.locked then { w with relocked := true } else { w with locked := true }
  if w.locked then .fail {} else pure ()

/-- The end of the scope of the guard. -/
def unlock : SessionProgram ω Unit := do
  let _ ← change fun w => { w with locked := false }
  pure ()

/-- `ExecutePushbuffer`, for a callback or for the host, and whether it returned statistics.
SOURCE: libs/machine/src/machine_session.cpp:904-909 -/
def executePushbuffer (addr : GuestAddr) (wordCount : U32) (callback : Bool) :
    SessionProgram ω Bool := do
  lock
  let w ← change fun w =>
    { w with
      rest := (g.executeFromMemory addr wordCount w.rest).2
      executed := if callback then (addr, wordCount) :: w.executed else w.executed }
  unlock
  pure (g.executeFromMemory addr wordCount w.rest).1

/-- The two callbacks. SOURCE: libs/machine/src/machine_session.cpp:914-920 -/
def behaveSession : SessionCallback → Cycle → SessionProgram ω Unit
  | .pushbuffer addr wordCount, _ => do
    let stats ← executePushbuffer g addr wordCount true
    if stats then do
      let cycle ← currentCycle
      let _ ← scheduleEvent (cycle + 200) .flip
      pure ()
    else pure ()
  | .flip, _ => do
    let _ ← change fun w => { w with rest := g.flip w.rest }
    pure ()

/-- `SchedulePushbuffer`. SOURCE: libs/machine/src/machine_session.cpp:911-925 -/
def schedulePushbuffer (addr : GuestAddr) (wordCount : U32) (delay : Cycle) :
    SessionProgram ω (Result EventId) := do
  lock
  let cycle ← currentCycle
  let r ← scheduleEvent (cycle + delay) (.pushbuffer addr wordCount)
  match r with
  | .ok id => do
    let _ ← change fun w => { w with rest := g.registerPendingEvent id w.rest }
    unlock
    pure (.ok id)
  | .error e => do
    unlock
    pure (.error e)

/-- `std::numeric_limits<std::size_t>::max()` -/
def kAllEvents : U64 := 0xFFFFFFFFFFFFFFFF

/-- The clock moved by the host, through `scheduler()`. -/
def hostCycles (delta : Cycle) : SessionProgram ω Unit := do
  let _ ← stepCycles delta kAllEvents
  pure ()

/-- An instruction of the worker, which has the lock: what it does to the rest, and then the
clock.  Nothing else happens between two instructions of one command or slice, so the lock
may as well be given back between them.
SOURCE: libs/machine/src/machine_session.cpp:513-524, 580-592, 739-747 -/
def instruction (work : ω → ω) (cycles : Cycle) : SessionProgram ω Unit := do
  lock
  let _ ← change fun w => { w with rest := work w.rest }
  if cycles > 0 then do
    let _ ← stepCycles cycles kAllEvents
    unlock
  else unlock

end

end Xblob.Machine
