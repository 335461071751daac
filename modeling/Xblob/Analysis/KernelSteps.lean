import Xblob.Analysis.KernelTraps
import Xblob.Analysis.MemoryExports
import Xblob.Analysis.ThreadSteps
import Xblob.Interface.KernelRuns

/-!
# What requests do with the scheduler

Every operation of the kernel drives the scheduler by calls that do not schedule, or creates
a thread, or makes one call that schedules, with the live context.  So does every export and
what the host does; a request moves the default heap by at most one call of the heap.
-/

set_option autoImplicit false

namespace Xblob.Analysis

open Xblob.Computation Xblob.Interface Xblob.Kernel Xblob.Kernel.ThreadScheduler Xblob.Machine
open Xblob.Memory Xblob.Processor

/-- A call that wakes, suspends, resumes or ends threads. -/
def Tends : ThreadCall → Prop
  | .wake _ _ | .terminateThread _ _ | .suspendThread _ | .resumeThread _ | .checkTimeouts _ _ =>
    True
  | _ => False

/-- What an operation does with the scheduler and the live context; `New` says that it may
create a thread. -/
inductive Drives (New : Prop) (s : ThreadScheduler) (cpu : CpuContext) :
    ThreadScheduler → CpuContext → Prop
  | tends (cs : List ThreadCall) (htends : ∀ c ∈ cs, Tends c) :
    Drives New s cpu (cs.foldl (fun s c => c.apply s) s) cpu
  | creates (hnew : New) (entryPoint stackTop parameter stackBase : U32) (stackSize : ℕ)
      (allocated : Bool) :
    Drives New s cpu (ThreadCall.apply s
      (.createThread entryPoint stackTop parameter stackBase stackSize allocated)) cpu
  | schedules {c : ThreadCall} {s₁ : ThreadScheduler}
      (hscheduling : c.scheduling s = some (s₁, cpu)) :
    Drives New s cpu (s₁.scheduleNext cpu).2.2 (s₁.scheduleNext cpu).2.1

variable {New : Prop} {s : ThreadScheduler} {cpu : CpuContext}

/-- No call drives the threads nowhere. -/
theorem Drives.nothing : Drives New s cpu s cpu := by
  apply Drives.tends []
  intro c hmem
  cases hmem

/-- One call that tends to the threads drives them. -/
theorem Drives.one {c : ThreadCall} (hc : Tends c) : Drives New s cpu (c.apply s) cpu := by
  apply Drives.tends [c]
  intro c' hmem
  rw [List.mem_singleton.mp hmem]
  exact hc

/-- Waking a thread is one call of the threads. -/
theorem wake_threads (k : KernelHle) (tid : ThreadId) :
    (k.wake tid).threads = ThreadCall.apply k.threads (.wake tid kStatusWait0) := by
  unfold KernelHle.wake ThreadCall.apply
  dsimp only
  cases k.threads.wake tid kStatusWait0 with
  | error e => rfl
  | ok threads => rfl

/-- Waking threads one after the other, with other changes to the kernel. -/
theorem foldl_wake_threads {f : KernelHle → ThreadId → KernelHle}
    (hf : ∀ k tid, (f k tid).threads = ThreadCall.apply k.threads (.wake tid kStatusWait0))
    (l : List ThreadId) (k : KernelHle) : (l.foldl f k).threads =
      (l.map fun tid => ThreadCall.wake tid kStatusWait0).foldl (fun s c => c.apply s) k.threads := by
  induction l generalizing k with
  | nil => rfl
  | cons tid l ih =>
    rw [List.foldl_cons, ih, hf]
    rfl

/-- Wakes tend to the threads. -/
theorem tends_wakes (l : List ThreadId) :
    ∀ c ∈ l.map fun tid => ThreadCall.wake tid kStatusWait0, Tends c := by
  intro c hmem
  obtain ⟨tid, -, rfl⟩ := List.mem_map.mp hmem
  trivial

/-- Waking the waiter of an event is one call of the threads. -/
theorem wakeEventWaiter_threads (i : ℕ) (k : KernelHle) (tid : ThreadId) :
    (KernelHle.wakeEventWaiter i k tid).threads =
      ThreadCall.apply k.threads (.wake tid kStatusWait0) :=
  wake_threads _ tid

/-- Signalling an event wakes threads. -/
theorem signalEvent_drives (k : KernelHle) (i : ℕ) :
    Drives New k.threads cpu (k.signalEvent i).threads cpu := by
  unfold KernelHle.signalEvent
  dsimp only
  split
  · exact Drives.nothing
  · split_ifs
    · rw [foldl_wake_threads (wakeEventWaiter_threads i)]
      exact Drives.tends _ (tends_wakes _)
    · split
      · exact Drives.nothing
      · rw [wake_threads]
        exact Drives.one trivial

/-- A pulse wakes threads. -/
theorem wakePulsed_drives (k : KernelHle) (i : ℕ) :
    Drives New k.threads cpu (k.wakePulsed i).threads cpu := by
  unfold KernelHle.wakePulsed
  split
  · exact Drives.nothing
  · split_ifs
    · rw [foldl_wake_threads (wakeEventWaiter_threads i)]
      exact Drives.tends _ (tends_wakes _)
    · split
      · exact Drives.nothing
      · rw [wakeEventWaiter_threads]
        exact Drives.one trivial

/-- Handing a mutex over wakes a thread at most. -/
theorem handOverMutex_drives (k : KernelHle) (i : ℕ) :
    Drives New k.threads cpu (k.handOverMutex i).threads cpu := by
  unfold KernelHle.handOverMutex
  split
  · exact Drives.nothing
  · split_ifs
    · exact Drives.nothing
    · split
      · exact Drives.nothing
      · rw [wake_threads]
        exact Drives.one trivial

/-- The semaphore's loop wakes threads one after the other. -/
theorem wakeSemaphoreWaiters_threads (i n : ℕ) (k : KernelHle) :
    ∃ l : List ThreadId, (KernelHle.wakeSemaphoreWaiters i n k).threads =
      (l.map fun tid => ThreadCall.wake tid kStatusWait0).foldl (fun s c => c.apply s) k.threads := by
  induction n generalizing k with
  | zero => exact ⟨[], rfl⟩
  | succ n ih =>
    unfold KernelHle.wakeSemaphoreWaiters
    split
    · exact ⟨[], rfl⟩
    · rename_i tid _
      obtain ⟨l, hl⟩ := ih ((k.modifySemaphore i fun s =>
        { s with waitingThreads := removeWaitingThread s.waitingThreads tid }.acquire.2).wake tid)
      refine ⟨tid :: l, ?_⟩
      rw [hl, wake_threads]
      rfl

/-- A call that schedules, as an operation makes it. -/
theorem block_drives (s : ThreadScheduler) (handles : List GuestHandle) (waitAll hasTimeout : Bool)
    (timeoutCycle : Cycle) (cpu : CpuContext) {r : CpuContext × ThreadScheduler}
    (h : s.blockCurrentWithTimeout handles waitAll hasTimeout timeoutCycle cpu = .ok r) :
    Drives New s cpu r.2 r.1 := by
  unfold blockCurrentWithTimeout at h
  cases hcurr : s.currentThread with
  | none =>
    rw [hcurr] at h
    cases h
  | some t =>
    rw [hcurr] at h
    cases h
    apply Drives.schedules
      (c := .blockCurrentWithTimeout handles waitAll hasTimeout timeoutCycle cpu)
    unfold ThreadCall.scheduling
    dsimp only
    rw [hcurr]
    rfl

/-- Blocking on handles blocks the running thread. -/
theorem blockOn_drives (k : KernelHle) (cpu : CpuContext) (handles : List GuestHandle)
    (waitAll : Bool) (timeoutMs : U32) :
    Drives New k.threads cpu (k.blockOn cpu handles waitAll timeoutMs).2.threads
      (k.blockOn cpu handles waitAll timeoutMs).1 := by
  unfold KernelHle.blockOn
  dsimp only
  split
  · exact Drives.nothing
  · rename_i r hr
    exact block_drives _ _ _ _ _ _ hr

/-- A thread that exits is taken off, and what waits for it is woken. -/
theorem exitThread_drives (k : KernelHle) (cpu : CpuContext) (exitCode : U32) :
    Drives New k.threads cpu (k.exitThread cpu exitCode).2.2.threads
      (k.exitThread cpu exitCode).2.1 := by
  unfold KernelHle.exitThread exitCurrent
  cases hcurr : k.threads.currentThread with
  | none => exact Drives.nothing
  | some t =>
    apply Drives.schedules (c := .exitCurrent exitCode cpu)
    unfold ThreadCall.scheduling
    dsimp only
    rw [hcurr]
    rfl

section Operations

variable (k : KernelHle)

/-- Creating an event leaves the threads. -/
theorem createEvent_drives (manualReset initialState : Bool) :
    Drives New k.threads cpu (k.createEvent manualReset initialState).2.threads cpu :=
  Drives.nothing

/-- Creating a mutex leaves the threads. -/
theorem createMutex_drives (initialOwner : Bool) :
    Drives New k.threads cpu (k.createMutex initialOwner).2.threads cpu :=
  Drives.nothing

/-- Setting an event wakes threads. -/
theorem setEvent_drives (handle : GuestHandle) :
    Drives New k.threads cpu (k.setEvent handle).2.threads cpu := by
  unfold KernelHle.setEvent
  split
  · exact Drives.nothing
  · exact signalEvent_drives k _

/-- Resetting an event leaves the threads. -/
theorem resetEvent_drives (handle : GuestHandle) :
    Drives New k.threads cpu (k.resetEvent handle).2.threads cpu := by
  unfold KernelHle.resetEvent
  split
  · exact Drives.nothing
  · exact Drives.nothing

/-- Pulsing an event wakes threads. -/
theorem pulseEvent_drives (handle : GuestHandle) :
    Drives New k.threads cpu (k.pulseEvent handle).2.threads cpu := by
  unfold KernelHle.pulseEvent
  split
  · exact Drives.nothing
  · exact wakePulsed_drives k _

/-- Releasing a mutex wakes a thread at most. -/
theorem releaseMutex_drives (handle : GuestHandle) :
    Drives New k.threads cpu (k.releaseMutex handle).2.threads cpu := by
  unfold KernelHle.releaseMutex
  split
  · exact Drives.nothing
  · split
    · exact Drives.nothing
    · split
      · exact Drives.nothing
      · exact handOverMutex_drives (k.modifyMutex _ _) _

/-- Creating a semaphore leaves the threads. -/
theorem createSemaphore_drives (initialCount maxCount : I32) :
    Drives New k.threads cpu (k.createSemaphore initialCount maxCount).2.threads cpu := by
  unfold KernelHle.createSemaphore
  split
  · exact Drives.nothing
  · exact Drives.nothing

/-- Releasing a semaphore wakes threads. -/
theorem releaseSemaphore_drives (handle : GuestHandle) (releaseCount : U32) :
    Drives New k.threads cpu (k.releaseSemaphore handle releaseCount).2.threads cpu := by
  unfold KernelHle.releaseSemaphore
  split
  · exact Drives.nothing
  · split
    · exact Drives.nothing
    · split
      · exact Drives.nothing
      · obtain ⟨l, hl⟩ := wakeSemaphoreWaiters_threads _ _ _
        rw [hl]
        exact Drives.tends _ (tends_wakes l)

/-- A wait for one object returns at once or blocks the running thread. -/
theorem waitForSingleObject_drives (handle : GuestHandle) (timeoutMs : U32) :
    Drives New k.threads cpu (k.waitForSingleObject cpu handle timeoutMs).2.2.threads
      (k.waitForSingleObject cpu handle timeoutMs).2.1 := by
  unfold KernelHle.waitForSingleObject
  dsimp only
  split_ifs
  · exact Drives.nothing
  · exact Drives.nothing
  · exact Drives.nothing
  · exact blockOn_drives { k with
      handles := (k.handles.satisfyWait handle k.threads.currentTid).2 } cpu _ _ _

/-- A wait for several objects returns at once or blocks the running thread. -/
theorem waitForMultipleObjects_drives (handles : List GuestHandle) (waitAll : Bool)
    (timeoutMs : U32) :
    Drives New k.threads cpu (k.waitForMultipleObjects cpu handles waitAll timeoutMs).2.2.threads
      (k.waitForMultipleObjects cpu handles waitAll timeoutMs).2.1 := by
  unfold KernelHle.waitForMultipleObjects
  dsimp only
  split
  · exact Drives.nothing
  · split_ifs
    · exact Drives.nothing
    · exact blockOn_drives { k with
        handles := (KernelHle.satisfyMultiple k.threads.currentTid handles waitAll k.handles).2 }
        cpu _ _ _

/-- Setting a timer leaves the threads. -/
theorem keSetTimer_drives (handle : GuestHandle) (dueTime : U64) (periodMs : U32)
    (dpc : GuestAddr) :
    Drives New k.threads cpu (k.keSetTimer handle dueTime periodMs dpc).2.threads cpu := by
  unfold KernelHle.keSetTimer
  split
  · exact Drives.nothing
  · exact Drives.nothing

/-- Cancelling a timer leaves the threads. -/
theorem keCancelTimer_drives (handle : GuestHandle) :
    Drives New k.threads cpu (k.keCancelTimer handle).2.threads cpu := by
  unfold KernelHle.keCancelTimer
  split
  · exact Drives.nothing
  · exact Drives.nothing

/-- A delay blocks the running thread or yields. -/
theorem ntDelayExecution_drives (interval : U64) :
    Drives New k.threads cpu (k.ntDelayExecution cpu interval).2.2.threads
      (k.ntDelayExecution cpu interval).2.1 := by
  unfold KernelHle.ntDelayExecution
  dsimp only
  split
  · exact Drives.nothing
  next r hr => exact block_drives _ _ _ _ _ _ hr

/-- Creating a thread starts one, where new threads are let in. -/
theorem createThread_drives (hnew : New) (requested : Option U32) (startRoutine arg : U32) :
    Drives New k.threads cpu (k.createThread requested startRoutine arg).2.threads cpu := by
  unfold KernelHle.createThread
  dsimp only
  cases k.heap.allocate ((KernelHle.stackSize requested).setWidth 64) with
  | error e => exact Drives.nothing
  | ok r => exact Drives.creates hnew _ _ _ _ _ _

/-- Suspending a thread is one call of the threads. -/
theorem keSuspendThread_drives (handle : GuestHandle) :
    Drives New k.threads cpu (k.keSuspendThread handle).2.threads cpu := by
  unfold KernelHle.keSuspendThread
  cases hsuspend : k.threads.suspendThread (k.threadOf handle) with
  | error e => exact Drives.nothing
  | ok r =>
    have hcall : r.2 = ThreadCall.apply k.threads (.suspendThread (k.threadOf handle)) := by
      unfold ThreadCall.apply
      dsimp only
      rw [hsuspend]
      rfl
    dsimp only
    rw [hcall]
    exact Drives.one trivial

/-- Resuming a thread is one call of the threads. -/
theorem keResumeThread_drives (handle : GuestHandle) :
    Drives New k.threads cpu (k.keResumeThread handle).2.threads cpu := by
  unfold KernelHle.keResumeThread
  cases hresume : k.threads.resumeThread (k.threadOf handle) with
  | error e => exact Drives.nothing
  | ok r =>
    have hcall : r.2 = ThreadCall.apply k.threads (.resumeThread (k.threadOf handle)) := by
      unfold ThreadCall.apply
      dsimp only
      rw [hresume]
      rfl
    dsimp only
    rw [hcall]
    exact Drives.one trivial

/-- Terminating a thread is exiting it. -/
theorem ntTerminateThread_drives (handle : Option GuestHandle) (exitCode : U32) :
    Drives New k.threads cpu (k.ntTerminateThread cpu handle exitCode).2.2.threads
      (k.ntTerminateThread cpu handle exitCode).2.1 := by
  unfold KernelHle.ntTerminateThread
  cases handle with
  | none => exact exitThread_drives k cpu exitCode
  | some handle =>
    dsimp only
    split_ifs
    · exact exitThread_drives k cpu exitCode
    · cases hterminate : k.threads.terminateThread (k.threadOf handle) exitCode with
      | error e => exact Drives.nothing
      | ok threads =>
        have hcall : threads =
            ThreadCall.apply k.threads (.terminateThread (k.threadOf handle) exitCode) := by
          unfold ThreadCall.apply
          dsimp only
          rw [hterminate]
          rfl
        dsimp only
        rw [hcall]
        exact Drives.one trivial

/-- Yielding is one call of the threads. -/
theorem keYieldExecution_drives : Drives New k.threads cpu (k.keYieldExecution cpu).2.2.threads
    (k.keYieldExecution cpu).2.1 :=
  Drives.schedules (c := .yield cpu) rfl

end Operations

/-! ## Exports -/

/-- What a handler returns leaves the threads alone, or drives the scheduler. -/
def DrivesThreads (New : Prop) (cpu : CpuContext) (k : KernelState) (ctx : CpuContext)
    (k' : KernelState) : Prop :=
  k'.hle.threads = k.hle.threads ∨ Drives New k.hle.threads cpu k'.hle.threads ctx

/-- Whatever it is answered, the handler leads to a context and a kernel of `P`. -/
def Leads (P : CpuContext → KernelState → Prop) (x : Guest Returned) : Prop :=
  x.Within (fun _ => True) fun r => ∀ v ctx kernel, r = some (v, ctx, kernel) → P ctx kernel

section Rules

variable {α : Type} {P : CpuContext → KernelState → Prop} {k : KernelState}

/-- What a handler leads to is what its last part leads to. -/
theorem leads_then {x : Guest α} {f : α → Guest Returned} (hf : ∀ a, Leads P (f a)) :
    Leads P (x >>= f) :=
  Program.within_then hf

/-- A handler that fails leads nowhere. -/
theorem leads_fail (e : Error) : Leads P (Program.fail e) := trivial

/-- A handler without its services leads nowhere. -/
theorem leads_missing (name : String) : Leads P (Handlers.missing name) := trivial

/-- A handler that returns nothing leads nowhere. -/
theorem leads_none : Leads P (pure none) := by
  intro v ctx kernel h
  cases h

/-- A handler that leaves the threads drives them nowhere. -/
theorem leads_same {ctx : CpuContext} {r : U32 × KernelState}
    (h : r.2.hle.threads = k.hle.threads) : Leads (DrivesThreads New cpu k) (returned ctx r) := by
  intro v ctx' kernel hr
  cases hr
  exact .inl h

/-- A handler that leaves the kernel drives the threads nowhere. -/
theorem leads_kept {ctx : CpuContext} {r : U32 × KernelState} (h : r.2.hle = k.hle) :
    Leads (DrivesThreads New cpu k) (returned ctx r) :=
  leads_same (congrArg KernelHle.threads h)

/-- A handler drives the threads as its operation does. -/
theorem leads_by {r : U32 × KernelHle} (h : Drives New k.hle.threads cpu r.2.threads cpu) :
    Leads (DrivesThreads New cpu k) (returnedBy cpu k r) := by
  intro v ctx kernel hr
  cases hr
  exact .inr h

/-- A handler that changes the context drives the threads as its operation does. -/
theorem leads_hle {r : U32 × CpuContext × KernelHle}
    (h : Drives New k.hle.threads cpu r.2.2.threads r.2.1) :
    Leads (DrivesThreads New cpu k) (returnedHle k r) := by
  intro v ctx kernel hr
  cases hr
  exact .inr h

end Rules

section Threads

variable (k : KernelState)

/-- Allocating from a heap leaves the threads. -/
theorem rtlAllocateHeap_threads (handle size : U32) :
    (k.rtlAllocateHeap handle size).2.hle.threads = k.hle.threads := by
  unfold KernelState.rtlAllocateHeap
  split
  · rfl
  · split <;> rfl

/-- Freeing to a heap leaves the threads. -/
theorem rtlFreeHeap_threads (handle ptr : U32) :
    (k.rtlFreeHeap handle ptr).2.hle.threads = k.hle.threads := by
  unfold KernelState.rtlFreeHeap
  split
  · rfl
  · split <;> rfl

/-- Reallocating in a heap leaves the threads. -/
theorem reAllocated_threads (handle ptr newSize : U32) :
    (SessionCall.reAllocated k handle ptr newSize).hle.threads = k.hle.threads := by
  unfold SessionCall.reAllocated
  split
  · rfl
  · split <;> rfl

/-- Destroying a heap leaves the threads. -/
theorem rtlDestroyHeap_threads (handle : U32) :
    (k.rtlDestroyHeap handle).2.hle.threads = k.hle.threads := by
  unfold KernelState.rtlDestroyHeap
  split <;> rfl

/-- Allocating contiguous memory leaves the kernel. -/
theorem mmAllocateContiguousMemory_hle {numBytes : U32} {r : U32 × KernelState}
    (hr : k.mmAllocateContiguousMemory numBytes = some r) : r.2.hle = k.hle := by
  unfold KernelState.mmAllocateContiguousMemory at hr
  split at hr
  · cases hr
    rfl
  · obtain ⟨res, -, rfl⟩ := Option.map_eq_some_iff.mp hr
    cases res <;> rfl

/-- Freeing contiguous memory leaves the kernel. -/
theorem mmFreeContiguousMemory_hle (base : U32) :
    (k.mmFreeContiguousMemory base).2.hle = k.hle := by
  unfold KernelState.mmFreeContiguousMemory
  split
  · rfl
  · split <;> rfl

/-- Allocating virtual memory leaves the kernel. -/
theorem ntAllocateVirtualMemory_hle {base size allocType protect : U32}
    {r : Option GuestAddr × KernelState}
    (hr : k.ntAllocateVirtualMemory base size allocType protect = some r) : r.2.hle = k.hle := by
  unfold KernelState.ntAllocateVirtualMemory at hr
  obtain ⟨res, -, rfl⟩ := Option.map_eq_some_iff.mp hr
  cases res <;> rfl

/-- Freeing virtual memory leaves the kernel. -/
theorem ntFreeVirtualMemory_hle (base size freeType : U32) :
    (k.ntFreeVirtualMemory base size freeType).2.hle = k.hle := by
  unfold KernelState.ntFreeVirtualMemory
  split <;> rfl

/-- Protecting virtual memory leaves the kernel. -/
theorem ntProtectVirtualMemory_hle {base size newProtect : U32} {r : Option U32 × KernelState}
    (hr : k.ntProtectVirtualMemory base size newProtect = r) : r.2.hle = k.hle := by
  rw [← hr]
  unfold KernelState.ntProtectVirtualMemory
  split <;> rfl

/-- Creating a heap leaves the threads. -/
theorem rtlCreateHeap_threads (base reserve : Option U32) :
    (k.rtlCreateHeap base reserve).2.hle.threads = k.hle.threads := rfl

/-- A message printed leaves the threads. -/
theorem printed_threads (message : Vfs.ByteString) :
    (Handlers.printed k message).hle.threads = k.hle.threads := rfl

/-- Closing a handle leaves the threads. -/
theorem ntClose_threads (handle : U32) : (k.ntClose handle).2.hle.threads = k.hle.threads := by
  unfold KernelState.ntClose
  split
  · split <;> rfl
  · rfl

end Threads

/-- The handlers that do more than read arguments before they drive the scheduler. -/
theorem rtlReAllocateHeap_leads (k : KernelState) :
    Leads (DrivesThreads New cpu k) (Handlers.rtlReAllocateHeap cpu k) := by
  refine leads_then fun heapHandle => leads_then fun ptr => leads_then fun newSize => ?_
  split
  next heapHandle' ptr' newSize' =>
    apply (rtlReAllocateHeap_within k heapHandle' ptr' newSize').bind
    intro r hr
    exact leads_same (hr ▸ reAllocated_threads k heapHandle' ptr' newSize')
  · exact leads_same rfl

/-- An export of one handle. -/
theorem onHandle_leads {f : KernelHle → GuestHandle → U32 × KernelHle} {k : KernelState}
    (hf : ∀ handle, Drives New k.hle.threads cpu (f k.hle handle).2.threads cpu) :
    Leads (DrivesThreads New cpu k) (Handlers.onHandle f cpu k) := by
  refine leads_then fun handle => ?_
  split
  next handle' => exact leads_by (hf handle')
  · exact leads_same rfl

/-- The export that creates a thread drives the threads. -/
theorem createThread_leads (hnew : New) (k : KernelState) :
    Leads (DrivesThreads New cpu k) (Handlers.createThread cpu k) := by
  refine leads_then fun stackSize => leads_then fun startRoutine => leads_then fun arg =>
    leads_then fun outId => ?_
  split
  next startRoutine' arg' =>
    have hdrives : Drives New k.hle.threads cpu
        (k.hle.createThread (optional stackSize) startRoutine' arg').2.threads cpu :=
      createThread_drives k.hle hnew (optional stackSize) startRoutine' arg'
    split
    next hle hr =>
      rw [hr] at hdrives
      exact leads_by hdrives
    next tid hle hr =>
      rw [hr] at hdrives
      split
      · exact leads_then fun _ => leads_by hdrives
      · exact leads_by hdrives
  · exact leads_fail _

/-- The export that releases a semaphore drives the threads. -/
theorem releaseSemaphore_leads (k : KernelState) :
    Leads (DrivesThreads New cpu k) (Handlers.releaseSemaphore cpu k) := by
  refine leads_then fun handle => leads_then fun relCount => leads_then fun prevPtr => ?_
  split
  next handle' relCount' =>
    have hdrives : Drives New k.hle.threads cpu
        (k.hle.releaseSemaphore handle' relCount').2.threads cpu :=
      releaseSemaphore_drives k.hle handle' relCount'
    split
    next hle hr =>
      rw [hr] at hdrives
      exact leads_by hdrives
    next prev hle hr =>
      rw [hr] at hdrives
      split
      · exact leads_then fun _ => leads_by hdrives
      · exact leads_by hdrives
  · exact leads_same rfl

/-- Every export leaves the threads alone or drives the scheduler, and only `CreateThread` makes a
thread. -/
theorem registered_drives {e : ExportEntry} (he : e ∈ registeredExports) (cpu : CpuContext)
    (k : KernelState) : Leads (DrivesThreads (e.ordinal = 10) cpu k) (e.handler cpu k) := by
  have hall : ∀ e ∈ registeredExports,
      Leads (DrivesThreads (e.ordinal = 10) cpu k) (e.handler cpu k) := by
    simp only [registeredExports, List.forall_mem_cons, List.not_mem_nil, false_implies,
      implies_true, and_true]
    refine ⟨?_, ?_, rtlReAllocateHeap_leads k, ?_, ?_, ?_, ?_, ?_, ?_, ?_, ?_, ?_, ?_,
      leads_same rfl, leads_same rfl, ?_, leads_same rfl, leads_same rfl, ?_,
      onHandle_leads (keCancelTimer_drives k.hle), ?_, ?_, onHandle_leads (setEvent_drives k.hle),
      onHandle_leads (resetEvent_drives k.hle), onHandle_leads (pulseEvent_drives k.hle), ?_,
      onHandle_leads (releaseMutex_drives k.hle), ?_, releaseSemaphore_leads k, ?_, ?_, ?_, ?_,
      createThread_leads trivial k, ?_, onHandle_leads (keSuspendThread_drives k.hle),
      onHandle_leads (keResumeThread_drives k.hle), leads_same rfl,
      leads_hle (keYieldExecution_drives k.hle), ?_, ?_, ?_, ?_, ?_, ?_, ?_, ?_, ?_⟩
    all_goals
      repeat' first
        | refine leads_then fun _ => ?_
        | with_reducible exact leads_same rfl
        | with_reducible exact leads_same (rtlAllocateHeap_threads k _ _)
        | with_reducible exact leads_same (rtlFreeHeap_threads k _ _)
        | with_reducible exact leads_same (rtlCreateHeap_threads k _ _)
        | with_reducible exact leads_same (rtlDestroyHeap_threads k _)
        | with_reducible exact leads_kept (mmAllocateContiguousMemory_hle k ‹_›)
        | with_reducible exact leads_kept (mmFreeContiguousMemory_hle k _)
        | with_reducible exact leads_kept (ntAllocateVirtualMemory_hle k ‹_›)
        | with_reducible exact leads_kept (ntFreeVirtualMemory_hle k _ _ _)
        | with_reducible exact leads_kept (ntProtectVirtualMemory_hle k ‹_›)
        | with_reducible exact leads_same (ntClose_threads k _)
        | with_reducible exact leads_same (printed_threads k _)
        | with_reducible exact leads_by (createEvent_drives _ _ _)
        | with_reducible exact leads_by (createMutex_drives _ _)
        | with_reducible exact leads_by (createSemaphore_drives _ _ _)
        | with_reducible exact leads_by (keSetTimer_drives _ _ _ _ _)
        | with_reducible exact leads_hle (ntDelayExecution_drives _ _)
        | with_reducible exact leads_hle (waitForSingleObject_drives _ _ _)
        | with_reducible exact leads_hle (waitForMultipleObjects_drives _ _ _ _)
        | with_reducible exact leads_hle (exitThread_drives _ _ _)
        | with_reducible exact leads_hle (ntTerminateThread_drives _ _ _)
        | with_reducible exact leads_missing _
        | with_reducible exact leads_fail _
        | with_reducible exact leads_none
        | split
  exact hall e he

/-! ## The default heap -/

/-- A heap is as it was, or as one call leaves it. -/
def HeapStep (h h' : GuestHeap) : Prop := h' = h ∨ ∃ c : HeapCall Unit, c.Small ∧ h' = c.next h

/-- A heap in the place of the default one, divided by its blocks. -/
structure InPlace (h : GuestHeap) : Prop where
  tiled : Tiled 3 h
  place : SamePlace ({} : KernelHle).heap h

/-- A heap in its place stays there through a step. -/
theorem InPlace.step {h h' : GuestHeap} (hin : InPlace h) (hstep : HeapStep h h') :
    InPlace h' := by
  obtain rfl | ⟨c, hsmall, rfl⟩ := hstep
  · exact hin
  · exact ⟨hin.tiled.next hsmall, hin.place.trans (samePlace_next c)⟩

section Heap

variable {k : KernelState} {handle : U32} {heap heap' : GuestHeap}

/-- A heap that is unchanged has taken a step. -/
theorem heapStep_of_eq {h h' : GuestHeap} (heq : h' = h) : HeapStep h h' := .inl heq

/-- A call that succeeds is a step of the heap. -/
theorem heapStep_of_ok {h h' : GuestHeap} {c : HeapCall Unit} (hsmall : c.Small)
    (hok : c.apply h = .ok h') : HeapStep h h' := by
  refine .inr ⟨c, hsmall, ?_⟩
  unfold HeapCall.next
  rw [hok]

/-- A dword at 64 bits is below the address space. -/
theorem setWidth_lt (size : U32) : (size.setWidth 64 : U64).toNat < 0x100000000 := by
  have hlt := size.isLt
  rw [BitVec.toNat_setWidth]
  omega

/-- A call of the heap of a handle is one of the default heap, or leaves that alone. -/
theorem setHeap_step (hok : k.heapManager.getHeap handle = .ok heap) {c : HeapCall Unit}
    (hsmall : c.Small) (happly : c.apply heap = .ok heap') :
    HeapStep k.hle.heap (k.setHeap handle heap').hle.heap := by
  by_cases hname : named k.heapManager handle = some .default
  · obtain rfl := getHeap_default hok hname
    have hset : (k.setHeap handle heap').hle.heap = heap' ∨
        (k.setHeap handle heap').hle.heap = k.hle.heap := by
      unfold KernelState.setHeap GuestHeapManager.setHeap
      split
      · exact .inl rfl
      · exact .inr rfl
    obtain hset | hset := hset
    · rw [hset]
      exact heapStep_of_ok hsmall happly
    · exact heapStep_of_eq hset
  · obtain ⟨-, -, hset⟩ := getHeap_secondary hok hname
    rw [hset]
    exact heapStep_of_eq rfl

/-- What a session call does to the default heap. -/
theorem kernelNext_heapStep (call : SessionCall) (k : KernelState) :
    HeapStep k.hle.heap (call.kernelNext k).hle.heap := by
  cases call with
  | rtlAllocateHeap heapHandle size =>
    unfold SessionCall.kernelNext KernelState.rtlAllocateHeap
    dsimp only
    split
    · exact heapStep_of_eq rfl
    next heap hok =>
      split
      · exact heapStep_of_eq rfl
      next addr heap' halloc =>
        apply setHeap_step hok (c := .allocate (size.setWidth 64)) (setWidth_lt size)
        simp [HeapCall.apply, halloc, Except.map]
  | rtlFreeHeap heapHandle ptr =>
    unfold SessionCall.kernelNext KernelState.rtlFreeHeap
    dsimp only
    split
    · exact heapStep_of_eq rfl
    next heap hok =>
      split
      · exact heapStep_of_eq rfl
      next heap' hfree => exact setHeap_step hok (c := .free ptr) trivial hfree
  | rtlReAllocateHeap heapHandle ptr newSize =>
    unfold SessionCall.kernelNext SessionCall.reAllocated
    dsimp only
    split
    · exact heapStep_of_eq rfl
    next heap hok =>
      split
      · exact heapStep_of_eq rfl
      next newPtr heap' mem hre =>
        apply setHeap_step hok (c := .reAllocate ptr (newSize.setWidth 64) none)
          (setWidth_lt newSize)
        simp [HeapCall.apply, hre, Except.map]
  | rtlCreateHeap base reserve =>
    exact heapStep_of_eq (createHeap_defaultHeap (m := k.heapManager))
  | rtlDestroyHeap heapHandle =>
    unfold SessionCall.kernelNext KernelState.rtlDestroyHeap
    dsimp only
    split
    · exact heapStep_of_eq rfl
    next m hok =>
      unfold GuestHeapManager.destroyHeap at hok
      split at hok
      · cases hok
      · split at hok
        · cases hok
          exact heapStep_of_eq rfl
        · cases hok
  | mmAllocateContiguousMemory numBytes =>
    unfold SessionCall.kernelNext SessionCall.orSame
    dsimp only
    split
    next r k' hr => exact heapStep_of_eq (congrArg KernelHle.heap (mmAllocateContiguousMemory_hle k hr))
    · exact heapStep_of_eq rfl
  | mmFreeContiguousMemory base =>
    exact heapStep_of_eq (congrArg KernelHle.heap (mmFreeContiguousMemory_hle k base))
  | ntAllocateVirtualMemory base size allocType protect =>
    unfold SessionCall.kernelNext SessionCall.orSame
    dsimp only
    split
    next r k' hr => exact heapStep_of_eq (congrArg KernelHle.heap (ntAllocateVirtualMemory_hle k hr))
    · exact heapStep_of_eq rfl
  | ntFreeVirtualMemory base size freeType =>
    exact heapStep_of_eq (congrArg KernelHle.heap (ntFreeVirtualMemory_hle k base size freeType))
  | ntProtectVirtualMemory base size newProtect =>
    exact heapStep_of_eq (congrArg KernelHle.heap (ntProtectVirtualMemory_hle k rfl))
  | createThread stackSize startRoutine arg =>
    unfold SessionCall.kernelNext SessionCall.threadCreated KernelHle.createThread
    dsimp only
    cases halloc : k.hle.heap.allocate ((KernelHle.stackSize stackSize).setWidth 64) with
    | error e => exact heapStep_of_eq rfl
    | ok r =>
      apply heapStep_of_ok (c := .allocate ((KernelHle.stackSize stackSize).setWidth 64))
        (setWidth_lt _)
      simp [HeapCall.apply, halloc, Except.map, KernelHle.openThread]
  | other call hother =>
    exact heapStep_of_eq (congrArg GuestHeapManager.defaultHeap (sameMemory_next hother k).1)

/-- What the heap gives out is no larger than it is. -/
theorem InPlace.allocated_le (hin : InPlace heap) {addr : GuestAddr} {size : U32}
    (hok : heap.allocate (size.setWidth 64) = .ok (addr, heap')) : size.toNat ≤ 0x1000000 := by
  obtain ⟨alignedSize, given, blocks, hround, -, -, hfit, -⟩ :=
    allocate_found hin.tiled.alignment (setWidth_lt size) hok
  obtain ⟨b, hblock, -, hroom, -, -⟩ := firstFit_lowest hin.tiled.tiling.gaps hfit
  have hinside := hin.tiled.tiling.free_inside (List.mem_map_of_mem (f := blockSpan) hblock)
  have htotal : heap.totalSize = 0x1000000 := hin.place.2
  have hle : (size.setWidth 64 : U64).toNat ≤ alignedSize.toNat :=
    hround ▸ le_roundUp (Nat.two_pow_pos 3)
  have hwide : (size.setWidth 64 : U64).toNat = size.toNat := by
    have hlt := size.isLt
    rw [BitVec.toNat_setWidth]
    omega
  have hfits : b.size.toNat ≤ heap.totalSize.toNat := by
    have hends := hinside
    unfold Span.Inside Span.stop heapSpan blockSpan at hends
    dsimp only at hends
    omega
  rw [htotal] at hfits
  change b.size.toNat ≤ 0x1000000 at hfits
  omega

end Heap

/-! ## Requests -/

section Requests

variable {δ : Type}

/-- The handler of the export that a request calls returns. -/
structure HandlerReturns (s : KernelStep δ) (k : KernelState) (entry : ExportEntry) (v : U32)
    (ctx : CpuContext) (kernel : KernelState) : Prop where
  request : s.request = .thunk entry.ordinal
  found : findByOrdinal entry.ordinal = some entry
  run : ((entry.handler s.cpu k).run answer).run s.space = .ok (some (v, ctx, kernel)) (s.left k)

variable {s : KernelStep δ} {k : KernelState} {entry : ExportEntry} {v : U32} {ctx : CpuContext}
  {kernel : KernelState}

/-- A handler that returns is registered. -/
theorem HandlerReturns.registered (h : HandlerReturns s k entry v ctx kernel) :
    entry ∈ registeredExports :=
  List.mem_of_find?_eq_some h.found

/-- After the handler the dispatcher stores the result, and pops the return address and the
arguments if it can. -/
theorem HandlerReturns.after (h : HandlerReturns s k entry v ctx kernel) :
    s.after k = match (AddressSpace.read32 (ctx.gpr .esp)).run (s.left k) with
      | .error _ space => ⟨ctx.setGpr .eax v, ⟨space, kernel⟩⟩
      | .ok retAddr space =>
        ⟨{ (ctx.setGpr .eax v).setGpr .esp
            (ctx.gpr .esp + 4 + BitVec.ofNat 32 (entry.paramCount * 4)) with eip := retAddr },
          ⟨space, kernel⟩⟩ := by
  unfold KernelStep.after
  rw [h.request]
  dsimp only
  rw [dispatch_registered s.cpu ⟨s.space, k⟩ h.found]
  dsimp only
  rw [h.run]
  dsimp only
  cases (AddressSpace.read32 (ctx.gpr .esp)).run (s.left k) <;> rfl

/-- The kernel after a step is the one its handler returned. -/
theorem HandlerReturns.next (h : HandlerReturns s k entry v ctx kernel) : s.next k = kernel := by
  unfold KernelStep.next
  rw [h.after]
  cases (AddressSpace.read32 (ctx.gpr .esp)).run (s.left k) <;> rfl

/-- A handler that runs to its end returns. -/
theorem handlerReturns_of_run (entry : ExportEntry) {cpu : CpuContext}
    {space space' : AddressSpace δ}
    (hfind : findByOrdinal entry.ordinal = some entry)
    (hrun : ((entry.handler cpu k).run answer).run space = .ok (some (v, ctx, kernel)) space') :
    HandlerReturns ⟨.thunk entry.ordinal, cpu, space⟩ k entry v ctx kernel := by
  refine ⟨rfl, hfind, hrun.trans ?_⟩
  unfold KernelStep.left
  dsimp only
  rw [hfind]
  dsimp only
  rw [hrun]
  rfl

/-- A request leaves the kernel alone, is one of the host's, or is a call whose handler returns. -/
theorem next_cases (s : KernelStep δ) (k : KernelState) :
    s.next k = k ∨ s.next k = { k with hle := s.request.hosted k.hle } ∨
      ∃ entry v ctx, HandlerReturns s k entry v ctx (s.next k) := by
  obtain ⟨request, cpu, space⟩ := s
  cases request with
  | thunk ordinal =>
    cases hfind : findByOrdinal ordinal with
    | none =>
      obtain ⟨e, space', hrun⟩ := dispatch_unregistered cpu ⟨space, k⟩ hfind
      left
      unfold KernelStep.next KernelStep.after
      dsimp only
      rw [hrun]
      rfl
    | some entry =>
      have hordinal : entry.ordinal = ordinal := by simpa using List.find?_some hfind
      subst hordinal
      cases hhandler : ((entry.handler cpu k).run answer).run space with
      | error e space' =>
        left
        unfold KernelStep.next KernelStep.after
        dsimp only
        rw [dispatch_registered cpu ⟨space, k⟩ hfind]
        dsimp only
        rw [hhandler]
        rfl
      | ok returned space' =>
        rcases returned with _ | ⟨v, ctx, kernel⟩
        · left
          unfold KernelStep.next KernelStep.after
          dsimp only
          rw [dispatch_registered cpu ⟨space, k⟩ hfind]
          dsimp only
          rw [hhandler]
          rfl
        · have hreturns := handlerReturns_of_run entry hfind hhandler
          right; right
          refine ⟨entry, v, ctx, ?_⟩
          rw [hreturns.next]
          exact hreturns
  | checkTimeouts currentCycle => exact .inr (.inl rfl)
  | allocateTimer type => exact .inr (.inl rfl)
  | advanceTimer handle currentCycle => exact .inr (.inl rfl)
  | setCurrentCycle cycle => exact .inr (.inl rfl)

/-- What a call does with the threads. -/
theorem HandlerReturns.drives (h : HandlerReturns s k entry v ctx kernel) :
    DrivesThreads (entry.ordinal = 10) s.cpu k ctx kernel :=
  Program.Within.returns (registered_drives h.registered s.cpu k) h.run v ctx kernel rfl

/-- What a call does to the default heap. -/
theorem HandlerReturns.heapStep (h : HandlerReturns s k entry v ctx kernel) :
    HeapStep k.hle.heap kernel.hle.heap := by
  cases hmemory : memoryOrdinals.contains entry.ordinal with
  | false =>
    have hleaves := leavesMemory_of_registered h.registered hmemory s.cpu k
    have hsame := Program.Within.returns hleaves h.run v ctx kernel rfl
    exact heapStep_of_eq (congrArg GuestHeapManager.defaultHeap hsame.1)
  | true =>
    have hleaves := steps_of_registered h.registered hmemory s.cpu k
    obtain rfl | ⟨call, rfl⟩ := Program.Within.returns hleaves h.run v ctx kernel rfl
    · exact heapStep_of_eq rfl
    · exact kernelNext_heapStep call k

/-- A request of the host leaves the heap. -/
theorem hosted_heap (k : KernelHle) (request : KernelRequest) :
    (request.hosted k).heap = k.heap := by
  cases request with
  | thunk ordinal => rfl
  | checkTimeouts currentCycle => rfl
  | allocateTimer type => rfl
  | advanceTimer handle currentCycle =>
    unfold KernelRequest.hosted KernelHle.advanceTimer
    dsimp only
    split <;> rfl
  | setCurrentCycle cycle => rfl

/-- A step of the kernel leaves the heap in its place. -/
theorem InPlace.next (hin : InPlace k.hle.heap) (s : KernelStep δ) :
    InPlace (s.next k).hle.heap := by
  obtain hkept | hhosted | ⟨entry, v, ctx, hreturns⟩ := next_cases s k
  · rw [hkept]
    exact hin
  · rw [hhosted]
    exact hin.step (heapStep_of_eq (hosted_heap k.hle s.request))
  · exact hin.step hreturns.heapStep

/-- The default heap of every kernel that requests lead to. -/
theorem inPlace_foldl (steps : List (KernelStep δ)) (hin : InPlace k.hle.heap) :
    InPlace (steps.foldl KernelStep.next k).hle.heap := by
  induction steps generalizing k with
  | nil => exact hin
  | cons s steps ih => exact ih (hin.next s)

/-- In front of every creation the heap is in its place. -/
theorem CreateCall.inPlace (c : CreateCall δ) : InPlace c.kernel.hle.heap := by
  apply inPlace_foldl
  exact ⟨tiled_new rfl (by decide) (by decide) (by decide), rfl, rfl⟩

end Requests

end Xblob.Analysis
