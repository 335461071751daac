import Xblob.Computation.Runs
import Xblob.Model.Kernel.ThreadScheduler

/-!
# Runs of the thread scheduler

The kernel drives the scheduler by calls, with the live context it has at the time.  Two
properties of its states are stated here.  Suspension: a suspended thread that is not
current is not queued, no call switches to a suspended thread, and only `ResumeThread` ends
a suspension.  The queue: it lists the ready threads, each once, and only the current thread
runs.

Neither holds of all runs; `HonoursSuspension` and `KeepsQueue` say of a call, from the
state before it, that it is not one of those that break them.
-/

set_option autoImplicit false

namespace Xblob.Interface

open Xblob.Kernel Xblob.Processor

/-- The operations of the scheduler, with the live context where they take one. -/
inductive ThreadCall where
  | createThread (entryPoint stackTop : GuestAddr) (parameter : U32) (stackBase : GuestAddr)
      (stackSize : ℕ) (kernelAllocatedStack : Bool)
  | yield (ctx : CpuContext)
  | blockCurrent (handle : GuestHandle) (ctx : CpuContext)
  | blockCurrentWithTimeout (handles : List GuestHandle) (waitAll hasTimeout : Bool)
      (timeoutCycle : Cycle) (ctx : CpuContext)
  | wake (tid : ThreadId) (waitStatus : U32)
  | exitCurrent (exitCode : U32) (ctx : CpuContext)
  | terminateThread (tid : ThreadId) (exitCode : U32)
  | suspendThread (tid : ThreadId)
  | resumeThread (tid : ThreadId)
  | checkTimeouts (currentCycle : Cycle) (handles : HandleTable)

namespace ThreadCall

/-- The scheduler after a call; a refused call leaves it as it is. -/
def apply (s : ThreadScheduler) : ThreadCall → ThreadScheduler
  | .createThread entryPoint stackTop parameter stackBase stackSize kernelAllocatedStack =>
    (s.createThread entryPoint stackTop parameter stackBase stackSize kernelAllocatedStack).2
  | .yield ctx => (s.yield ctx).2
  | .blockCurrent handle ctx => ((s.blockCurrent handle ctx).map Prod.snd).toOption.getD s
  | .blockCurrentWithTimeout handles waitAll hasTimeout timeoutCycle ctx =>
    ((s.blockCurrentWithTimeout handles waitAll hasTimeout timeoutCycle ctx).map
      Prod.snd).toOption.getD s
  | .wake tid waitStatus => (s.wake tid waitStatus).toOption.getD s
  | .exitCurrent exitCode ctx => ((s.exitCurrent exitCode ctx).map Prod.snd).toOption.getD s
  | .terminateThread tid exitCode => (s.terminateThread tid exitCode).toOption.getD s
  | .suspendThread tid => ((s.suspendThread tid).map Prod.snd).toOption.getD s
  | .resumeThread tid => ((s.resumeThread tid).map Prod.snd).toOption.getD s
  | .checkTimeouts currentCycle handles => (s.checkTimeouts currentCycle handles).2.2

/-- The scheduler and the live context with which a call comes to `ScheduleNext`. -/
def scheduling (s : ThreadScheduler) : ThreadCall → Option (ThreadScheduler × CpuContext)
  | .yield ctx => some (s.giveUp ctx, ctx)
  | .blockCurrent handle ctx =>
    s.currentThread.map fun _ =>
      (s.block (ThreadScheduler.handleVector handle) false false 0 ctx, ctx)
  | .blockCurrentWithTimeout handles waitAll hasTimeout timeoutCycle ctx =>
    s.currentThread.map fun _ => (s.block handles waitAll hasTimeout timeoutCycle ctx, ctx)
  | .exitCurrent exitCode ctx => s.currentThread.map fun _ => (s.exit exitCode, ctx)
  | _ => none

/-- The thread a call switches to, if `ScheduleNext` finds one. -/
def switchesTo (s : ThreadScheduler) (c : ThreadCall) : Option ThreadId :=
  match c.scheduling s with
  | none => none
  | some (s, ctx) =>
    let (found, _, s') := s.scheduleNext ctx
    if found then some s'.currentTid else none

end ThreadCall

/-! ## Suspension -/

/-- No suspended thread is queued, the current one aside. -/
def SuspendedAside (s : ThreadScheduler) : Prop :=
  ∀ tid t, s.getThread tid = some t → t.suspendCount ≠ 0 → tid ≠ s.currentTid →
    tid ∉ s.readyQueue

/-- A call switches to no suspended thread, and ends no suspension but by `ResumeThread`. -/
structure RespectsSuspended (s : ThreadScheduler) (c : ThreadCall) : Prop where
  switch : ∀ tid t, c.switchesTo s = some tid → (c.apply s).getThread tid = some t →
    t.suspendCount = 0
  resumed : ∀ tid t t', s.getThread tid = some t → t.suspendCount ≠ 0 →
    (c.apply s).getThread tid = some t' → t'.suspendCount = 0 → c = .resumeThread tid

/-- A call that wakes no suspended thread, gives up the processor of none, suspends no thread
that is queued without being ready nor one whose count is at its end, and creates no thread
over another. -/
def HonoursSuspension (s : ThreadScheduler) : ThreadCall → Prop
  | .createThread _ _ _ _ _ _ => s.getThread s.nextTid = none
  | .yield _ => ∀ t, s.currentThread = some t → t.state = .running → t.suspendCount = 0
  | .wake tid _ => ∀ t, s.getThread tid = some t → t.state = .blocked → t.suspendCount = 0
  | .suspendThread tid => ∀ t, s.getThread tid = some t →
      t.suspendCount ≠ 0xFFFFFFFF ∧ (t.state ≠ .ready → tid ∉ s.readyQueue)
  | .checkTimeouts currentCycle _ => ∀ tid t, s.getThread tid = some t →
      ThreadScheduler.timedOut currentCycle t → t.suspendCount = 0
  | _ => True

/-! ## The queue -/

/-- The queue lists the ready threads, each once, and only the current thread runs. -/
structure QueueLawful (s : ThreadScheduler) : Prop where
  nodup : s.readyQueue.Nodup
  ready : ∀ tid, tid ∈ s.readyQueue ↔ ∃ t, s.getThread tid = some t ∧ t.state = .ready
  running : ∀ tid t, s.getThread tid = some t → t.state = .running → tid = s.currentTid

/-- A call that does not block or end the current thread while others are queued before it,
and gives no thread the invalid id. -/
def KeepsQueue (s : ThreadScheduler) : ThreadCall → Prop
  | .createThread _ _ _ _ _ _ => s.nextTid ≠ kInvalidThreadId
  | .blockCurrent _ _ | .blockCurrentWithTimeout _ _ _ _ _ | .exitCurrent _ _ =>
    s.currentTid ∉ s.readyQueue.tail
  | _ => True

end Xblob.Interface
