import Xblob.Model.Kernel.GuestHeap
import Xblob.Model.Kernel.KernelTime
import Xblob.Model.Kernel.ThreadScheduler

/-!
# The kernel's threads, synchronisation objects and time

The part of `KernelHle` that the thread, synchronisation and time exports work on, and what
each of these exports does once its arguments are read.  An export that may switch threads
takes the live context and returns the context after it.

A signal wakes threads through the list of the object: the head of the list is taken,
whatever the scheduler says about that thread.
-/

set_option autoImplicit false

namespace Xblob.Kernel

open Xblob.Processor

/-- `KernelHle`, less what only the memory, file and debug exports use.
SOURCE: libs/kernel/include/xblob/kernel/kernel_hle.hpp:61-70 -/
structure KernelHle where
  heap : GuestHeap := .new 0x10000000 (16 * 1024 * 1024) 8
  handles : HandleTable := {}
  threads : ThreadScheduler := {}
  time : KernelTime := {}

namespace KernelHle

/-- An event, changed in its place. -/
def modifyEvent (k : KernelHle) (i : ℕ) (f : EventObject → EventObject) : KernelHle :=
  { k with handles := { k.handles with events := k.handles.events.modify i f } }

/-- A mutex, changed in its place. -/
def modifyMutex (k : KernelHle) (i : ℕ) (f : MutexObject → MutexObject) : KernelHle :=
  { k with handles := { k.handles with mutexes := k.handles.mutexes.modify i f } }

/-- A semaphore, changed in its place. -/
def modifySemaphore (k : KernelHle) (i : ℕ) (f : SemaphoreObject → SemaphoreObject) : KernelHle :=
  { k with handles := { k.handles with semaphores := k.handles.semaphores.modify i f } }

/-- A timer, changed in its place. -/
def modifyTimer (k : KernelHle) (i : ℕ) (f : TimerObject → TimerObject) : KernelHle :=
  { k with handles := { k.handles with timers := k.handles.timers.modify i f } }

/-- `(void)threads().Wake(tid, kStatusWait0)`. -/
def wake (k : KernelHle) (tid : ThreadId) : KernelHle :=
  match k.threads.wake tid kStatusWait0 with
  | .error _ => k
  | .ok threads => { k with threads := threads }

/-! ## Events -/

/-- `CreateEvent`. SOURCE: libs/kernel/src/handlers_sync.cpp:7-16 -/
def createEvent (k : KernelHle) (manualReset initialState : Bool) : U32 × KernelHle :=
  let (handle, handles) := k.handles.allocateEvent manualReset initialState
  (handle, { k with handles := handles })

/-- A waiting thread taken from an event and woken. -/
def wakeEventWaiter (i : ℕ) (k : KernelHle) (tid : ThreadId) : KernelHle :=
  (k.modifyEvent i fun e =>
    { e with waitingThreads := removeWaitingThread e.waitingThreads tid }).wake tid

/-- The signal of `SetEvent`: a manual-reset event wakes all threads that wait, an auto-reset
event the first one, and is reset by it.
SOURCE: libs/kernel/src/handlers_sync.cpp:26-46 -/
def signalEvent (k : KernelHle) (i : ℕ) : KernelHle :=
  let k := k.modifyEvent i fun e => { e with signaled := true }
  match k.handles.events[i]? with
  | none => k
  | some e =>
    if e.manualReset then
      e.waitingThreads.foldl (wakeEventWaiter i) k
    else
      match e.waitingThreads with
      | [] => k
      | first :: _ =>
        (k.modifyEvent i fun e =>
          { e with
            waitingThreads := removeWaitingThread e.waitingThreads first
            signaled := false }).wake first

/-- `SetEvent`. SOURCE: libs/kernel/src/handlers_sync.cpp:18-47 -/
def setEvent (k : KernelHle) (handle : GuestHandle) : U32 × KernelHle :=
  match k.handles.getObject handle .event with
  | .error _ => (0, k)
  | .ok i => (1, k.signalEvent i)

/-- `ResetEvent`. SOURCE: libs/kernel/src/handlers_sync.cpp:49-59 -/
def resetEvent (k : KernelHle) (handle : GuestHandle) : U32 × KernelHle :=
  match k.handles.getObject handle .event with
  | .error _ => (0, k)
  | .ok i => (1, k.modifyEvent i fun e => { e with signaled := false })

/-- The threads a pulse wakes. SOURCE: libs/kernel/src/handlers_sync.cpp:70-83 -/
def wakePulsed (k : KernelHle) (i : ℕ) : KernelHle :=
  match k.handles.events[i]? with
  | none => k
  | some e =>
    if e.manualReset then
      e.waitingThreads.foldl (wakeEventWaiter i) k
    else
      match e.waitingThreads with
      | [] => k
      | first :: _ => wakeEventWaiter i k first

/-- `PulseEvent`. SOURCE: libs/kernel/src/handlers_sync.cpp:61-86 -/
def pulseEvent (k : KernelHle) (handle : GuestHandle) : U32 × KernelHle :=
  match k.handles.getObject handle .event with
  | .error _ => (0, k)
  | .ok i => (1, (k.wakePulsed i).modifyEvent i fun e => { e with signaled := false })

/-! ## Mutexes -/

/-- `CreateMutex`. SOURCE: libs/kernel/src/handlers_sync.cpp:88-97 -/
def createMutex (k : KernelHle) (initialOwner : Bool) : U32 × KernelHle :=
  let ownerTid := if initialOwner then k.threads.currentTid else kInvalidThreadId
  let (handle, handles) := k.handles.allocateMutex initialOwner ownerTid
  (handle, { k with handles := handles })

/-- A mutex released by the current thread goes to the first thread that waits for it.
SOURCE: libs/kernel/src/handlers_sync.cpp:107-118 -/
def handOverMutex (k : KernelHle) (i : ℕ) : KernelHle :=
  match k.handles.mutexes[i]? with
  | none => k
  | some m =>
    if m.recursionCount ≠ 0 then k
    else
      match m.waitingThreads with
      | [] => k
      | first :: _ =>
        (k.modifyMutex i fun m =>
          ({ m with waitingThreads := removeWaitingThread m.waitingThreads first }.acquire
            first).2).wake first

/-- `ReleaseMutex`. SOURCE: libs/kernel/src/handlers_sync.cpp:99-119 -/
def releaseMutex (k : KernelHle) (handle : GuestHandle) : U32 × KernelHle :=
  match k.handles.getObject handle .mutex with
  | .error _ => (0, k)
  | .ok i =>
    match k.handles.mutexes[i]? with
    | none => (0, k)
    | some m =>
      match m.release k.threads.currentTid with
      | .error _ => (0, k)
      | .ok m => (1, (k.modifyMutex i fun _ => m).handOverMutex i)

/-! ## Semaphores -/

/-- `CreateSemaphore`. SOURCE: libs/kernel/src/handlers_sync.cpp:121-134 -/
def createSemaphore (k : KernelHle) (initialCount maxCount : I32) : U32 × KernelHle :=
  match k.handles.allocateSemaphore initialCount maxCount with
  | .error _ => (kInvalidHandle, k)
  | .ok (handle, handles) => (handle, { k with handles := handles })

/-- The loop of `ReleaseSemaphore`: waiting threads are woken in order, up to the budget.
SOURCE: libs/kernel/src/handlers_sync.cpp:160-167 -/
def wakeSemaphoreWaiters (i : ℕ) : ℕ → KernelHle → KernelHle
  | 0, k => k
  | wakeBudget + 1, k =>
    match (k.handles.semaphores[i]?).bind fun s => s.waitingThreads.head? with
    | none => k
    | some tid =>
      wakeSemaphoreWaiters i wakeBudget
        ((k.modifySemaphore i fun s =>
          { s with waitingThreads := removeWaitingThread s.waitingThreads tid }.acquire.2).wake tid)

/-- `ReleaseSemaphore`: the count before, if it was released.
SOURCE: libs/kernel/src/handlers_sync.cpp:136-170 -/
def releaseSemaphore (k : KernelHle) (handle : GuestHandle) (releaseCount : U32) :
    Option I32 × KernelHle :=
  match k.handles.getObject handle .semaphore with
  | .error _ => (none, k)
  | .ok i =>
    match k.handles.semaphores[i]? with
    | none => (none, k)
    | some s =>
      match s.release releaseCount with
      | .error _ => (none, k)
      | .ok (prev, s) =>
        (some prev, wakeSemaphoreWaiters i releaseCount.toNat (k.modifySemaphore i fun _ => s))

/-! ## Waits -/

/-- Whether a wait has a timeout, and the cycle it ends at.
SOURCE: libs/kernel/src/handlers_sync.cpp:196-200 -/
def deadline (k : KernelHle) (timeoutMs : U32) : Bool × Cycle :=
  if timeoutMs ≠ 0xFFFFFFFF then
    (true, k.time.currentCycle + KernelTime.millisToCycle (timeoutMs.setWidth 64))
  else
    (false, 0)

/-- The blocking end of a wait: the current thread is entered at the objects and blocked, if
there is one. SOURCE: libs/kernel/src/handlers_sync.cpp:202-205, 274-279 -/
def blockOn (k : KernelHle) (cpu : CpuContext) (handles : List GuestHandle) (waitAll : Bool)
    (timeoutMs : U32) : CpuContext × KernelHle :=
  let (hasTimeout, timeoutCycle) := k.deadline timeoutMs
  let entered := handles.foldl (fun t h => t.addWaitingThread h k.threads.currentTid) k.handles
  let k := { k with handles := entered }
  match k.threads.blockCurrentWithTimeout handles waitAll hasTimeout timeoutCycle cpu with
  | .error _ => (cpu, k)
  | .ok (cpu, threads) => (cpu, { k with threads := threads })

/-- `WaitForSingleObject`. SOURCE: libs/kernel/src/handlers_sync.cpp:173-206 -/
def waitForSingleObject (k : KernelHle) (cpu : CpuContext) (handle : GuestHandle)
    (timeoutMs : U32) : U32 × CpuContext × KernelHle :=
  if !k.handles.isValidHandle handle then
    (kStatusInvalidHandle, cpu, k)
  else
    let (satisfied, handles) := k.handles.satisfyWait handle k.threads.currentTid
    let k := { k with handles := handles }
    if satisfied then
      (kStatusWait0, cpu, k)
    else if timeoutMs = 0 then
      (kStatusWaitTimeout, cpu, k)
    else
      (kStatusWait0, k.blockOn cpu [handle] false timeoutMs)

/-- The loop of a wait for any object: the place of the first that is signaled, and the table
after the attempts. SOURCE: libs/kernel/src/handlers_sync.cpp:243-249 -/
def satisfyAny (tid : ThreadId) : List GuestHandle → HandleTable → Option ℕ × HandleTable
  | [], t => (none, t)
  | h :: hs, t =>
    let (satisfied, t) := t.satisfyWait h tid
    if satisfied then (some 0, t)
    else
      let (found, t) := satisfyAny tid hs t
      (found.map (· + 1), t)

/-- The wait for all objects: whether all are signaled, and the table after it.
SOURCE: libs/kernel/src/handlers_sync.cpp:250-264 -/
def satisfyAll (tid : ThreadId) (handles : List GuestHandle) (t : HandleTable) :
    Bool × HandleTable :=
  if handles.all fun h => t.isObjectSignaled h tid then
    (true, handles.foldl (fun t h => (t.satisfyWait h tid).2) t)
  else
    (false, t)

/-- The attempt of `WaitForMultipleObjects` before it blocks: the status, if the wait is
satisfied. SOURCE: libs/kernel/src/handlers_sync.cpp:240-264 -/
def satisfyMultiple (tid : ThreadId) (handles : List GuestHandle) (waitAll : Bool)
    (t : HandleTable) : Option U32 × HandleTable :=
  if waitAll then
    let (all, t) := satisfyAll tid handles t
    (if all then some kStatusWait0 else none, t)
  else
    let (found, t) := satisfyAny tid handles t
    (found.map fun i => kStatusWait0 + BitVec.ofNat 32 i, t)

/-- `WaitForMultipleObjects`, its handles read and validated.
SOURCE: libs/kernel/src/handlers_sync.cpp:237-280 -/
def waitForMultipleObjects (k : KernelHle) (cpu : CpuContext) (handles : List GuestHandle)
    (waitAll : Bool) (timeoutMs : U32) : U32 × CpuContext × KernelHle :=
  let (status, table) := satisfyMultiple k.threads.currentTid handles waitAll k.handles
  let k := { k with handles := table }
  match status with
  | some status => (status, cpu, k)
  | none =>
    if timeoutMs = 0 then
      (kStatusWaitTimeout, cpu, k)
    else
      (kStatusWait0, k.blockOn cpu handles waitAll timeoutMs)

/-! ## Timers and delays -/

/-- `KeSetTimer`, its due time read. SOURCE: libs/kernel/src/handlers_time.cpp:59-81 -/
def keSetTimer (k : KernelHle) (handle : GuestHandle) (dueTime : U64) (periodMs : U32)
    (dpc : GuestAddr) : U32 × KernelHle :=
  match k.handles.getObject handle .timer with
  | .error _ => (0, k)
  | .ok i =>
    let dueCycle := k.time.currentCycle + KernelTime.relative100NsToCycles dueTime
    (if (k.handles.timers[i]?).elim false TimerObject.isActive then 1 else 0,
      k.modifyTimer i fun t => t.set dueCycle periodMs dpc 0)

/-- `KeCancelTimer`. SOURCE: libs/kernel/src/handlers_time.cpp:84-94 -/
def keCancelTimer (k : KernelHle) (handle : GuestHandle) : U32 × KernelHle :=
  match k.handles.getObject handle .timer with
  | .error _ => (0, k)
  | .ok i =>
    (if (k.handles.timers[i]?).elim false TimerObject.isActive then 1 else 0,
      k.modifyTimer i fun t => t.cancel.2)

/-- `NtDelayExecution`, its interval read. SOURCE: libs/kernel/src/handlers_time.cpp:110-118 -/
def ntDelayExecution (k : KernelHle) (cpu : CpuContext) (interval : U64) :
    U32 × CpuContext × KernelHle :=
  let deadline := k.time.currentCycle + KernelTime.relative100NsToCycles interval
  match k.threads.blockCurrentWithTimeout [] false true deadline cpu with
  | .error _ => (kStatusSuccess, cpu, k)
  | .ok (cpu, threads) => (kStatusSuccess, cpu, { k with threads := threads })

/-! ## Threads -/

/-- The size of the stack of a new thread. SOURCE: libs/kernel/src/handlers_thread.cpp:39-40 -/
def stackSize (requested : Option U32) : U32 :=
  match requested with
  | some size => if size ≥ 16384 then size else 64 * 1024
  | none => 64 * 1024

/-- `CreateThread` up to the thread itself: its id, if there was memory for its stack.
SOURCE: libs/kernel/src/handlers_thread.cpp:42-50 -/
def createThread (k : KernelHle) (requested : Option U32) (startRoutine arg : U32) :
    Option ThreadId × KernelHle :=
  let size := stackSize requested
  match k.heap.allocate (size.setWidth 64) with
  | .error _ => (none, k)
  | .ok (base, heap) =>
    let (tid, threads) :=
      k.threads.createThread startRoutine (base + size) arg base size.toNat true
    (some tid, { k with heap := heap, threads := threads })

/-- The handle `CreateThread` returns. SOURCE: libs/kernel/src/handlers_thread.cpp:57-60 -/
def openThread (k : KernelHle) (tid : ThreadId) : U32 × KernelHle :=
  let (handle, handles) := k.handles.allocateThreadHandle tid
  (handle, { k with handles := handles })

/-- `ExitThread`. SOURCE: libs/kernel/src/handlers_thread.cpp:63-70 -/
def exitThread (k : KernelHle) (cpu : CpuContext) (exitCode : U32) : U32 × CpuContext × KernelHle :=
  match k.threads.exitCurrent exitCode cpu with
  | .error _ => (kStatusUnsuccessful, cpu, k)
  | .ok (cpu, threads) => (kStatusSuccess, cpu, { k with threads := threads })

/-- A thread by its handle, or by its id. SOURCE: libs/kernel/src/handlers_thread.cpp:77-78 -/
def threadOf (k : KernelHle) (handle : GuestHandle) : ThreadId :=
  match k.handles.getThreadId handle with
  | .error _ => handle
  | .ok tid => tid

/-- `KeSuspendThread`. SOURCE: libs/kernel/src/handlers_thread.cpp:72-81 -/
def keSuspendThread (k : KernelHle) (handle : GuestHandle) : U32 × KernelHle :=
  match k.threads.suspendThread (k.threadOf handle) with
  | .error _ => (0, k)
  | .ok (prev, threads) => (prev, { k with threads := threads })

/-- `KeResumeThread`. SOURCE: libs/kernel/src/handlers_thread.cpp:83-92 -/
def keResumeThread (k : KernelHle) (handle : GuestHandle) : U32 × KernelHle :=
  match k.threads.resumeThread (k.threadOf handle) with
  | .error _ => (0, k)
  | .ok (prev, threads) => (prev, { k with threads := threads })

/-- `KeYieldExecution`. SOURCE: libs/kernel/src/handlers_thread.cpp:99-103 -/
def keYieldExecution (k : KernelHle) (cpu : CpuContext) : U32 × CpuContext × KernelHle :=
  let (cpu, threads) := k.threads.yield cpu
  (1, cpu, { k with threads := threads })

/-- `NtTerminateThread`: no handle, 0 and 0xFFFFFFFF stand for the current thread.
SOURCE: libs/kernel/src/handlers_thread.cpp:106-124 -/
def ntTerminateThread (k : KernelHle) (cpu : CpuContext) (handle : Option GuestHandle)
    (exitCode : U32) : U32 × CpuContext × KernelHle :=
  match handle with
  | none => k.exitThread cpu exitCode
  | some handle =>
    if handle = 0 ∨ handle = 0xFFFFFFFF then
      k.exitThread cpu exitCode
    else
      match k.threads.terminateThread (k.threadOf handle) exitCode with
      | .error _ => (kStatusUnsuccessful, cpu, k)
      | .ok threads => (kStatusSuccess, cpu, { k with threads := threads })

/-! ## What the host does -/

/-- `threads().CheckTimeouts(cycle, handles())`. -/
def checkTimeouts (k : KernelHle) (currentCycle : Cycle) : KernelHle :=
  let (_, handles, threads) := k.threads.checkTimeouts currentCycle k.handles
  { k with handles := handles, threads := threads }

/-- `handles().AllocateTimer(type)`. -/
def allocateTimer (k : KernelHle) (type : TimerType) : U32 × KernelHle :=
  let (handle, handles) := k.handles.allocateTimer type
  (handle, { k with handles := handles })

/-- `handles().GetTimer(handle)->AdvanceToCycle(cycle)`. -/
def advanceTimer (k : KernelHle) (handle : GuestHandle) (currentCycle : Cycle) : KernelHle :=
  match k.handles.getObject handle .timer with
  | .error _ => k
  | .ok i => k.modifyTimer i fun t => (t.advanceToCycle currentCycle).2

/-- `handles().CloseHandle(handle)`. -/
def closeHandle (k : KernelHle) (handle : GuestHandle) : KernelHle :=
  match k.handles.closeHandle handle with
  | .error _ => k
  | .ok handles => { k with handles := handles }

end KernelHle

end Xblob.Kernel
