import Xblob.Analysis.SessionMemory

/-!
# What the exports do to heaps and virtual memory

Most exports leave both alone.  The others do what their name says with the arguments they have
read, or nothing.
-/

set_option autoImplicit false

namespace Xblob.Analysis

open Xblob.Computation Xblob.Interface Xblob.Kernel Xblob.Memory Xblob.Processor Guest

/-! ## Objects and threads -/

section Objects

variable (k : KernelHle) (cpu : CpuContext)

/-- Modifying an event leaves the heap. -/
@[simp] theorem modifyEvent_heap (i : ℕ) (f : EventObject → EventObject) :
    (k.modifyEvent i f).heap = k.heap := rfl

/-- Modifying a mutex leaves the heap. -/
@[simp] theorem modifyMutex_heap (i : ℕ) (f : MutexObject → MutexObject) :
    (k.modifyMutex i f).heap = k.heap := rfl

/-- Modifying a semaphore leaves the heap. -/
@[simp] theorem modifySemaphore_heap (i : ℕ) (f : SemaphoreObject → SemaphoreObject) :
    (k.modifySemaphore i f).heap = k.heap := rfl

/-- Modifying a timer leaves the heap. -/
@[simp] theorem modifyTimer_heap (i : ℕ) (f : TimerObject → TimerObject) :
    (k.modifyTimer i f).heap = k.heap := rfl

/-- Waking a thread leaves the heap. -/
@[simp] theorem wake_heap (tid : ThreadId) : (k.wake tid).heap = k.heap := by
  unfold KernelHle.wake
  split
  · rfl
  · rfl

/-- Waking the waiter of an event leaves the heap. -/
@[simp] theorem wakeEventWaiter_heap (i : ℕ) (tid : ThreadId) :
    (KernelHle.wakeEventWaiter i k tid).heap = k.heap := by
  simp [KernelHle.wakeEventWaiter]

/-- Waking the waiters of an event leaves the heap. -/
@[simp] theorem wakeEventWaiters_heap (i : ℕ) (tids : List ThreadId) :
    (tids.foldl (KernelHle.wakeEventWaiter i) k).heap = k.heap := by
  induction tids generalizing k with
  | nil => rfl
  | cons tid tids ih => simp [ih]

/-- Signalling an event leaves the heap. -/
@[simp] theorem signalEvent_heap (i : ℕ) : (k.signalEvent i).heap = k.heap := by
  unfold KernelHle.signalEvent
  dsimp only
  split
  · simp
  · split
    · simp
    · split
      · simp
      · simp

/-- Setting an event leaves the heap. -/
@[simp] theorem setEvent_heap (handle : GuestHandle) : (k.setEvent handle).2.heap = k.heap := by
  unfold KernelHle.setEvent
  split
  · rfl
  · simp

/-- Resetting an event leaves the heap. -/
@[simp] theorem resetEvent_heap (handle : GuestHandle) :
    (k.resetEvent handle).2.heap = k.heap := by
  unfold KernelHle.resetEvent
  split
  · rfl
  · simp

/-- A pulse leaves the heap. -/
@[simp] theorem wakePulsed_heap (i : ℕ) : (k.wakePulsed i).heap = k.heap := by
  unfold KernelHle.wakePulsed
  split
  · rfl
  · split
    · simp
    · split
      · rfl
      · simp

/-- Pulsing an event leaves the heap. -/
@[simp] theorem pulseEvent_heap (handle : GuestHandle) :
    (k.pulseEvent handle).2.heap = k.heap := by
  unfold KernelHle.pulseEvent
  split
  · rfl
  · simp

/-- Handing a mutex over leaves the heap. -/
@[simp] theorem handOverMutex_heap (i : ℕ) : (k.handOverMutex i).heap = k.heap := by
  unfold KernelHle.handOverMutex
  split
  · rfl
  · split
    · rfl
    · split
      · rfl
      · simp

/-- Releasing a mutex leaves the heap. -/
@[simp] theorem releaseMutex_heap (handle : GuestHandle) :
    (k.releaseMutex handle).2.heap = k.heap := by
  unfold KernelHle.releaseMutex
  split
  · rfl
  · split
    · rfl
    · split
      · rfl
      · simp

/-- Creating a semaphore leaves the heap. -/
@[simp] theorem createSemaphore_heap (initialCount maxCount : I32) :
    (k.createSemaphore initialCount maxCount).2.heap = k.heap := by
  unfold KernelHle.createSemaphore
  split
  · rfl
  · rfl

/-- Waking the waiters of a semaphore leaves the heap. -/
@[simp] theorem wakeSemaphoreWaiters_heap (i wakeBudget : ℕ) :
    (KernelHle.wakeSemaphoreWaiters i wakeBudget k).heap = k.heap := by
  induction wakeBudget generalizing k with
  | zero => rfl
  | succ wakeBudget ih =>
    unfold KernelHle.wakeSemaphoreWaiters
    split
    · rfl
    · simp [ih]

/-- Releasing a semaphore leaves the heap. -/
@[simp] theorem releaseSemaphore_heap (handle : GuestHandle) (releaseCount : U32) :
    (k.releaseSemaphore handle releaseCount).2.heap = k.heap := by
  unfold KernelHle.releaseSemaphore
  split
  · rfl
  · split
    · rfl
    · split
      · rfl
      · simp

/-- Blocking on handles leaves the heap. -/
@[simp] theorem blockOn_heap (handles : List GuestHandle) (waitAll : Bool) (timeoutMs : U32) :
    (k.blockOn cpu handles waitAll timeoutMs).2.heap = k.heap := by
  unfold KernelHle.blockOn
  dsimp only
  split
  · rfl
  · rfl

/-- A wait for one object leaves the heap. -/
@[simp] theorem waitForSingleObject_heap (handle : GuestHandle) (timeoutMs : U32) :
    (k.waitForSingleObject cpu handle timeoutMs).2.2.heap = k.heap := by
  unfold KernelHle.waitForSingleObject
  dsimp only
  split
  · rfl
  · split
    · rfl
    · split
      · rfl
      · simp

/-- A wait for several objects leaves the heap. -/
@[simp] theorem waitForMultipleObjects_heap (handles : List GuestHandle) (waitAll : Bool)
    (timeoutMs : U32) :
    (k.waitForMultipleObjects cpu handles waitAll timeoutMs).2.2.heap = k.heap := by
  unfold KernelHle.waitForMultipleObjects
  dsimp only
  split
  · rfl
  · split
    · rfl
    · simp

/-- Setting a timer leaves the heap. -/
@[simp] theorem keSetTimer_heap (handle : GuestHandle) (dueTime : U64) (periodMs : U32)
    (dpc : GuestAddr) : (k.keSetTimer handle dueTime periodMs dpc).2.heap = k.heap := by
  unfold KernelHle.keSetTimer
  split
  · rfl
  · simp

/-- Cancelling a timer leaves the heap. -/
@[simp] theorem keCancelTimer_heap (handle : GuestHandle) :
    (k.keCancelTimer handle).2.heap = k.heap := by
  unfold KernelHle.keCancelTimer
  split
  · rfl
  · simp

/-- A delay leaves the heap. -/
@[simp] theorem ntDelayExecution_heap (interval : U64) :
    (k.ntDelayExecution cpu interval).2.2.heap = k.heap := by
  unfold KernelHle.ntDelayExecution
  dsimp only
  split
  · rfl
  · rfl

/-- A thread that exits leaves the heap. -/
@[simp] theorem exitThread_heap (exitCode : U32) :
    (k.exitThread cpu exitCode).2.2.heap = k.heap := by
  unfold KernelHle.exitThread
  split
  · rfl
  · rfl

/-- Suspending a thread leaves the heap. -/
@[simp] theorem keSuspendThread_heap (handle : GuestHandle) :
    (k.keSuspendThread handle).2.heap = k.heap := by
  unfold KernelHle.keSuspendThread
  split
  · rfl
  · rfl

/-- Resuming a thread leaves the heap. -/
@[simp] theorem keResumeThread_heap (handle : GuestHandle) :
    (k.keResumeThread handle).2.heap = k.heap := by
  unfold KernelHle.keResumeThread
  split
  · rfl
  · rfl

/-- Terminating a thread leaves the heap. -/
@[simp] theorem ntTerminateThread_heap (handle : Option GuestHandle) (exitCode : U32) :
    (k.ntTerminateThread cpu handle exitCode).2.2.heap = k.heap := by
  unfold KernelHle.ntTerminateThread
  split
  · simp
  · split
    · simp
    · split
      · rfl
      · rfl

end Objects

/-! ## Handlers -/

/-- Whatever it is answered, the handler leaves a kernel of `P` when it returns. -/
def Leaves (P : KernelState → Prop) (x : Guest Returned) : Prop :=
  x.Within (fun _ => True) fun r => ∀ v cpu k', r = some (v, cpu, k') → P k'

section Rules

variable {α : Type} {P : KernelState → Prop} {cpu : CpuContext} {k : KernelState}

/-- What a handler leaves is what its last part leaves. -/
theorem leaves_then {x : Guest α} {f : α → Guest Returned} (hf : ∀ a, Leaves P (f a)) :
    Leaves P (x >>= f) :=
  Program.within_then hf

/-- A handler that fails leaves nothing to be checked. -/
theorem leaves_fail (e : Error) : Leaves P (Program.fail e) := trivial

/-- A handler that returns nothing leaves nothing to be checked. -/
theorem leaves_none : Leaves P (pure none) := by
  intro v cpu k' h
  cases h

/-- A handler that returns a kernel of `P` leaves one. -/
theorem leaves_returned {r : U32 × KernelState} (h : P r.2) : Leaves P (returned cpu r) := by
  intro v cpu k' hr
  cases hr
  exact h

/-- A handler that leaves the heap leaves the memory. -/
theorem leaves_returnedHle {r : U32 × CpuContext × KernelHle} (h : r.2.2.heap = k.hle.heap) :
    Leaves (SameMemory k) (returnedHle k r) := by
  intro v cpu k' hr
  cases hr
  exact ⟨by simp only [KernelState.heapManager, h], rfl⟩

/-- A handler whose operation returns a kernel of `P` leaves one. -/
theorem leaves_kernel {r : U32 × KernelHle} (h : P { k with hle := r.2 }) :
    Leaves P (returnedBy cpu k r) :=
  leaves_returned (r := (r.1, { k with hle := r.2 })) h

/-- A handler whose operation leaves the heap leaves the memory. -/
theorem leaves_returnedBy {r : U32 × KernelHle} (h : r.2.heap = k.hle.heap) :
    Leaves (SameMemory k) (returnedBy cpu k r) :=
  leaves_kernel ⟨by simp only [KernelState.heapManager, h], rfl⟩

/-- A file service leaves the memory. -/
theorem leaves_served {service : KernelFileServices.Served} :
    Leaves (SameMemory k) (Handlers.served cpu k service) :=
  leaves_then fun _ => leaves_returned ⟨rfl, rfl⟩

/-- A kernel has the memory it has. -/
theorem sameMemory_refl (k : KernelState) : SameMemory k k := ⟨rfl, rfl⟩

end Rules

/-- The handler leaves heaps and virtual memory as they are. -/
def LeavesMemory (handler : Handler) : Prop := ∀ cpu k, Leaves (SameMemory k) (handler cpu k)

/-- Asking for the size of a block leaves the memory. -/
theorem rtlSizeHeap_leaves : LeavesMemory Handlers.rtlSizeHeap := by
  intro cpu k
  refine leaves_then fun heapHandle => leaves_then fun ptr => ?_
  split
  · exact leaves_returned (sameMemory_refl k)
  · exact leaves_returned (sameMemory_refl k)

/-- Asking for the protection of an address leaves the memory. -/
theorem mmQueryAddressProtect_leaves : LeavesMemory Handlers.mmQueryAddressProtect := by
  intro cpu k
  refine leaves_then fun base => ?_
  split
  · exact leaves_returned (sameMemory_refl k)
  · exact leaves_returned (sameMemory_refl k)

/-- Asking about virtual memory leaves the memory. -/
theorem ntQueryVirtualMemory_leaves : LeavesMemory Handlers.ntQueryVirtualMemory := by
  intro cpu k
  refine leaves_then fun base => leaves_then fun infoPtr => leaves_then fun len =>
    leaves_then fun retLenPtr => ?_
  split
  · split
    · exact leaves_returned (sameMemory_refl k)
    · refine leaves_then fun _ => ?_
      split
      · exact leaves_then fun _ => leaves_returned (sameMemory_refl k)
      · exact leaves_returned (sameMemory_refl k)
  · exact leaves_returned (sameMemory_refl k)

/-- Returning a counter leaves the memory. -/
theorem counterReturned_leaves (count : KernelState → U64) :
    LeavesMemory fun cpu k => Handlers.counterReturned cpu k (count k) :=
  fun _ k => leaves_returned (sameMemory_refl k)

/-- Asking for the time leaves the memory. -/
theorem keQuerySystemTime_leaves : LeavesMemory Handlers.keQuerySystemTime := by
  intro cpu k
  refine leaves_then fun timePtr => ?_
  split
  · split
    · exact leaves_returned (sameMemory_refl k)
    · refine leaves_then fun low => leaves_then fun high => ?_
      split
      · exact leaves_returned (sameMemory_refl k)
      · exact leaves_returned (sameMemory_refl k)
  · exact leaves_returned (sameMemory_refl k)

/-- Setting a timer leaves the memory. -/
theorem keSetTimer_leaves : LeavesMemory Handlers.keSetTimer := by
  intro cpu k
  refine leaves_then fun handle => leaves_then fun dueTimePtr => leaves_then fun periodMs =>
    leaves_then fun dpc => ?_
  split
  · split
    · exact leaves_returned (sameMemory_refl k)
    · refine leaves_then fun low => leaves_then fun high => ?_
      split
      · exact leaves_returnedBy (by simp)
      · exact leaves_returned (sameMemory_refl k)
  · exact leaves_returned (sameMemory_refl k)

/-- An operation on a handle that leaves the heap leaves the memory. -/
theorem onHandle_leaves {f : KernelHle → GuestHandle → U32 × KernelHle}
    (hf : ∀ k handle, (f k handle).2.heap = k.heap) : LeavesMemory (Handlers.onHandle f) := by
  intro cpu k
  refine leaves_then fun handle => ?_
  split
  · exact leaves_returnedBy (hf _ _)
  · exact leaves_returned (sameMemory_refl k)

/-- Cancelling a timer leaves the memory. -/
theorem keCancelTimer_leaves : LeavesMemory Handlers.keCancelTimer := by
  intro cpu k
  refine leaves_then fun handle => ?_
  split
  · exact leaves_returnedBy (by simp)
  · exact leaves_returned (sameMemory_refl k)

/-- A delay leaves the memory. -/
theorem ntDelayExecution_leaves : LeavesMemory Handlers.ntDelayExecution := by
  intro cpu k
  refine leaves_then fun intervalPtr => ?_
  split
  · split
    · exact leaves_returned (sameMemory_refl k)
    · refine leaves_then fun low => leaves_then fun high => ?_
      split
      · exact leaves_returnedHle (by simp)
      · exact leaves_returned (sameMemory_refl k)
  · exact leaves_returned (sameMemory_refl k)

/-- Creating an event leaves the memory. -/
theorem createEvent_leaves : LeavesMemory Handlers.createEvent :=
  fun _ _ => leaves_then fun _ => leaves_then fun _ => leaves_returnedBy rfl

/-- Creating a mutex leaves the memory. -/
theorem createMutex_leaves : LeavesMemory Handlers.createMutex :=
  fun _ _ => leaves_then fun _ => leaves_returnedBy rfl

/-- Creating a semaphore leaves the memory. -/
theorem createSemaphore_leaves : LeavesMemory Handlers.createSemaphore := by
  intro cpu k
  refine leaves_then fun initCount => leaves_then fun maxCount => ?_
  split
  · exact leaves_returnedBy (by simp)
  · exact leaves_returned (sameMemory_refl k)

/-- Releasing a semaphore leaves the memory. -/
theorem releaseSemaphore_leaves : LeavesMemory Handlers.releaseSemaphore := by
  intro cpu k
  refine leaves_then fun handle => leaves_then fun relCount => leaves_then fun prevPtr => ?_
  split
  next handle' relCount' =>
    have hheap := releaseSemaphore_heap k.hle handle' relCount'
    split
    next hle heq =>
      rw [heq] at hheap
      exact leaves_returnedBy hheap
    next prev hle heq =>
      rw [heq] at hheap
      split
      · exact leaves_then fun _ => leaves_returnedBy hheap
      · exact leaves_returnedBy hheap
  · exact leaves_returned (sameMemory_refl k)

/-- A wait for one object leaves the memory. -/
theorem waitForSingleObject_leaves : LeavesMemory Handlers.waitForSingleObject := by
  intro cpu k
  refine leaves_then fun handle => leaves_then fun timeout => ?_
  split
  · exact leaves_returnedHle (by simp)
  · exact leaves_returned (sameMemory_refl k)

/-- A wait for several objects leaves the memory. -/
theorem waitForMultipleObjects_leaves : LeavesMemory Handlers.waitForMultipleObjects := by
  intro cpu k
  refine leaves_then fun count => leaves_then fun handlesPtr => leaves_then fun waitAll =>
    leaves_then fun timeout => ?_
  split
  · split
    · exact leaves_returned (sameMemory_refl k)
    · refine leaves_then fun handles => ?_
      split
      · exact leaves_returned (sameMemory_refl k)
      · exact leaves_returnedHle (by simp)
  · exact leaves_returned (sameMemory_refl k)

/-- Printing leaves the memory. -/
theorem dbgPrint_leaves : LeavesMemory Handlers.dbgPrint := by
  intro cpu k
  refine leaves_then fun strAddr => ?_
  split
  · exact leaves_fail _
  · refine leaves_then fun message => ?_
    split
    · exact leaves_fail _
    · exact leaves_returned ⟨rfl, rfl⟩

/-- Prompting leaves the memory. -/
theorem dbgPrompt_leaves : LeavesMemory Handlers.dbgPrompt := by
  intro cpu k
  refine leaves_then fun promptPtr => ?_
  split
  · refine leaves_then fun message => ?_
    split
    · exact leaves_returned (sameMemory_refl k)
    · exact leaves_returned ⟨rfl, rfl⟩
  · exact leaves_returned (sameMemory_refl k)

/-- A thread that exits leaves the memory. -/
theorem exitThread_leaves : LeavesMemory Handlers.exitThread :=
  fun _ _ => leaves_then fun _ => leaves_returnedHle (by simp)

/-- Terminating a thread leaves the memory. -/
theorem ntTerminateThread_leaves : LeavesMemory Handlers.ntTerminateThread :=
  fun _ _ => leaves_then fun _ => leaves_then fun _ => leaves_returnedHle (by simp)

/-- Closing a handle leaves the memory of the kernel. -/
theorem ntClose_sameMemory (k : KernelState) (handle : U32) :
    SameMemory k (k.ntClose handle).2 := by
  unfold KernelState.ntClose
  split
  · split
    · exact sameMemory_refl k
    · exact ⟨rfl, rfl⟩
  · exact ⟨rfl, rfl⟩

/-- The export that closes a handle leaves the memory. -/
theorem ntClose_leaves : LeavesMemory Handlers.ntClose := by
  intro cpu k
  refine leaves_then fun handle => ?_
  split
  · exact leaves_fail _
  · exact leaves_returned (ntClose_sameMemory k _)

/-- A file export that reads its arguments and calls a file service leaves memory alone. -/
theorem ntCreateFile_leaves : LeavesMemory Handlers.ntCreateFile := by
  intro cpu k
  refine leaves_then fun _ => leaves_then fun _ => leaves_then fun _ => leaves_then fun _ => ?_
  split
  · exact leaves_served
  · exact leaves_fail _

/-- Reading a file leaves the memory. -/
theorem ntReadFile_leaves : LeavesMemory Handlers.ntReadFile := by
  intro cpu k
  refine leaves_then fun _ => leaves_then fun _ => leaves_then fun _ => leaves_then fun _ =>
    leaves_then fun _ => ?_
  split
  · exact leaves_served
  · exact leaves_fail _

/-- Writing a file leaves the memory. -/
theorem ntWriteFile_leaves : LeavesMemory Handlers.ntWriteFile := by
  intro cpu k
  refine leaves_then fun _ => leaves_then fun _ => leaves_then fun _ => leaves_then fun _ =>
    leaves_then fun _ => ?_
  split
  · exact leaves_served
  · exact leaves_fail _

/-- Moving a file pointer leaves the memory. -/
theorem setFilePointer_leaves : LeavesMemory Handlers.setFilePointer := by
  intro cpu k
  refine leaves_then fun _ => leaves_then fun _ => leaves_then fun _ => leaves_then fun _ => ?_
  split
  · exact leaves_served
  · exact leaves_fail _

/-- A device control leaves the memory. -/
theorem ntDeviceIoControlFile_leaves : LeavesMemory Handlers.ntDeviceIoControlFile := by
  intro cpu k
  refine leaves_then fun _ => leaves_then fun _ => leaves_then fun _ => leaves_then fun _ =>
    leaves_then fun _ => leaves_then fun _ => leaves_then fun _ => leaves_then fun _ => ?_
  split
  · exact leaves_served
  · exact leaves_fail _

/-- Asking about a file leaves the memory. -/
theorem ntQueryInformationFile_leaves : LeavesMemory Handlers.ntQueryInformationFile := by
  intro cpu k
  refine leaves_then fun _ => leaves_then fun _ => leaves_then fun _ => leaves_then fun _ => ?_
  split
  · exact leaves_served
  · exact leaves_fail _

/-- Asking about a directory leaves the memory. -/
theorem ntQueryDirectoryFile_leaves : LeavesMemory Handlers.ntQueryDirectoryFile := by
  intro cpu k
  refine leaves_then fun _ => leaves_then fun _ => leaves_then fun _ => ?_
  split
  · exact leaves_served
  · exact leaves_fail _

/-- The exports that hand out no memory and take none back leave it alone. -/
theorem leavesMemory_of_registered {e : ExportEntry} (he : e ∈ registeredExports)
    (hother : memoryOrdinals.contains e.ordinal = false) : LeavesMemory e.handler := by
  have hall : ∀ e ∈ registeredExports, memoryOrdinals.contains e.ordinal = false →
      LeavesMemory e.handler := by
    simp only [registeredExports, List.forall_mem_cons, List.not_mem_nil, false_implies,
      implies_true, and_true]
    refine ⟨?_, ?_, ?_, fun _ => rtlSizeHeap_leaves, ?_, ?_, ?_, ?_,
      fun _ => mmQueryAddressProtect_leaves, ?_, ?_, fun _ => ntQueryVirtualMemory_leaves, ?_,
      fun _ => counterReturned_leaves _, fun _ _ k => leaves_returned (sameMemory_refl k),
      fun _ => keQuerySystemTime_leaves, fun _ => counterReturned_leaves _,
      fun _ _ k => leaves_returned (sameMemory_refl k), fun _ => keSetTimer_leaves,
      fun _ => keCancelTimer_leaves, fun _ => ntDelayExecution_leaves,
      fun _ => createEvent_leaves, fun _ => onHandle_leaves setEvent_heap,
      fun _ => onHandle_leaves resetEvent_heap, fun _ => onHandle_leaves pulseEvent_heap,
      fun _ => createMutex_leaves, fun _ => onHandle_leaves releaseMutex_heap,
      fun _ => createSemaphore_leaves, fun _ => releaseSemaphore_leaves,
      fun _ => waitForSingleObject_leaves, fun _ => waitForMultipleObjects_leaves,
      fun _ => dbgPrint_leaves, fun _ => dbgPrompt_leaves, ?_, fun _ => exitThread_leaves,
      fun _ => onHandle_leaves keSuspendThread_heap, fun _ => onHandle_leaves keResumeThread_heap,
      fun _ _ k => leaves_returned (sameMemory_refl k), fun _ _ _ => leaves_returnedHle rfl,
      fun _ => ntTerminateThread_leaves, fun _ => ntClose_leaves, fun _ => ntCreateFile_leaves,
      fun _ => ntReadFile_leaves, fun _ => ntWriteFile_leaves, fun _ => setFilePointer_leaves,
      fun _ => ntDeviceIoControlFile_leaves, fun _ => ntQueryInformationFile_leaves,
      fun _ => ntQueryDirectoryFile_leaves⟩
    all_goals
      intro hother
      cases hother
  exact hall e he hother

/-- What a handler leaves, a call of it leaves, unless it leaves the kernel as it was. -/
theorem ExportCall.next_of_leaves {P : KernelState → Prop} {c : ExportCall} {k : KernelState}
    (h : Leaves P (c.entry.handler c.cpu k)) : c.next k = k ∨ P (c.next k) := by
  unfold ExportCall.next
  split
  next v cpu k' mem hr => exact .inr (h.returns hr v cpu k' rfl)
  next => exact .inl rfl
  next => exact .inl rfl

/-- A call of an export that hands out no memory and takes none back. -/
theorem sameMemory_next {c : ExportCall} (hother : memoryOrdinals.contains c.entry.ordinal = false)
    (k : KernelState) : SameMemory k (c.next k) := by
  have hleaves := leavesMemory_of_registered c.registered hother c.cpu k
  obtain heq | hsame := ExportCall.next_of_leaves hleaves
  · rw [heq]
    exact sameMemory_refl k
  · exact hsame

/-! ## Export calls as session calls -/

/-- The kernel is left as it was, or as a session call leaves it. -/
def Steps (k k' : KernelState) : Prop :=
  k' = k ∨ ∃ call : SessionCall, k' = call.kernelNext k

section Steps

variable (cpu : CpuContext) (k : KernelState)

/-- Allocating from a heap is one step. -/
theorem rtlAllocateHeap_steps : Leaves (Steps k) (Handlers.rtlAllocateHeap cpu k) := by
  refine leaves_then fun heapHandle => leaves_then fun size => ?_
  split
  next heapHandle' size' => exact leaves_returned (.inr ⟨.rtlAllocateHeap heapHandle' size', rfl⟩)
  · exact leaves_returned (.inl rfl)

/-- Freeing to a heap is one step. -/
theorem rtlFreeHeap_steps : Leaves (Steps k) (Handlers.rtlFreeHeap cpu k) := by
  refine leaves_then fun heapHandle => leaves_then fun ptr => ?_
  split
  next heapHandle' ptr' => exact leaves_returned (.inr ⟨.rtlFreeHeap heapHandle' ptr', rfl⟩)
  · exact leaves_returned (.inl rfl)

/-- Copying the bytes changes memory, not the kernel. -/
theorem rtlReAllocateHeap_within (heapHandle ptr newSize : U32) :
    (k.rtlReAllocateHeap heapHandle ptr newSize).Within (fun _ => True)
      fun r => r.2 = SessionCall.reAllocated k heapHandle ptr newSize := by
  unfold KernelState.rtlReAllocateHeap
  split
  next e hheap => simp [Program.Within, pure, SessionCall.reAllocated, hheap]
  next heap hheap =>
    split
    next e hre => simp [Program.Within, pure, SessionCall.reAllocated, hheap, hre]
    next newPtr heap' mem hre =>
      apply Program.within_then
      intro _
      simp [Program.Within, pure, SessionCall.reAllocated, hheap, hre]

/-- Reallocating in a heap is one step. -/
theorem rtlReAllocateHeap_steps : Leaves (Steps k) (Handlers.rtlReAllocateHeap cpu k) := by
  refine leaves_then fun heapHandle => leaves_then fun ptr => leaves_then fun newSize => ?_
  split
  next heapHandle' ptr' newSize' =>
    apply (rtlReAllocateHeap_within k heapHandle' ptr' newSize').bind
    intro r hr
    exact leaves_returned (.inr ⟨.rtlReAllocateHeap heapHandle' ptr' newSize', hr⟩)
  · exact leaves_returned (.inl rfl)

/-- Creating a heap is one step. -/
theorem rtlCreateHeap_steps : Leaves (Steps k) (Handlers.rtlCreateHeap cpu k) :=
  leaves_then fun base => leaves_then fun reserve =>
    leaves_returned (.inr ⟨.rtlCreateHeap (optional base) (optional reserve), rfl⟩)

/-- Destroying a heap is one step. -/
theorem rtlDestroyHeap_steps : Leaves (Steps k) (Handlers.rtlDestroyHeap cpu k) := by
  refine leaves_then fun heapHandle => ?_
  split
  next heapHandle' => exact leaves_returned (.inr ⟨.rtlDestroyHeap heapHandle', rfl⟩)
  · exact leaves_returned (.inl rfl)

/-- Allocating contiguous memory is one step. -/
theorem mmAllocateContiguousMemory_steps :
    Leaves (Steps k) (Handlers.mmAllocateContiguousMemory cpu k) := by
  refine leaves_then fun numBytes => ?_
  split
  next numBytes' =>
    split
    · exact leaves_none
    next r hr =>
      refine leaves_returned (.inr ⟨.mmAllocateContiguousMemory numBytes', ?_⟩)
      simp [SessionCall.kernelNext, SessionCall.orSame, hr]
  · exact leaves_returned (.inl rfl)

/-- Freeing contiguous memory is one step. -/
theorem mmFreeContiguousMemory_steps : Leaves (Steps k) (Handlers.mmFreeContiguousMemory cpu k) := by
  refine leaves_then fun base => ?_
  split
  next base' => exact leaves_returned (.inr ⟨.mmFreeContiguousMemory base', rfl⟩)
  · exact leaves_returned (.inl rfl)

/-- Allocating virtual memory is one step. -/
theorem ntAllocateVirtualMemory_steps :
    Leaves (Steps k) (Handlers.ntAllocateVirtualMemory cpu k) := by
  refine leaves_then fun basePtr => leaves_then fun sizePtr => leaves_then fun allocType =>
    leaves_then fun protect => ?_
  split
  next basePtr' sizePtr' allocType' protect' =>
    refine leaves_then fun base => leaves_then fun size => ?_
    split
    next base' size' =>
      have hstep : ∀ {r k'}, k.ntAllocateVirtualMemory base' size' allocType' protect' = some (r, k') →
          Steps k k' := by
        intro r k' hr
        refine .inr ⟨.ntAllocateVirtualMemory base' size' allocType' protect', ?_⟩
        simp [SessionCall.kernelNext, SessionCall.orSame, hr]
      split
      · exact leaves_none
      next k' hr => exact leaves_returned (hstep hr)
      next addr k' hr => exact leaves_then fun _ => leaves_returned (hstep hr)
    · exact leaves_returned (.inl rfl)
  · exact leaves_returned (.inl rfl)

/-- Freeing virtual memory is one step. -/
theorem ntFreeVirtualMemory_steps : Leaves (Steps k) (Handlers.ntFreeVirtualMemory cpu k) := by
  refine leaves_then fun basePtr => leaves_then fun sizePtr => leaves_then fun freeType => ?_
  split
  next basePtr' sizePtr' freeType' =>
    refine leaves_then fun base => leaves_then fun size => ?_
    split
    next base' size' =>
      exact leaves_returned (.inr ⟨.ntFreeVirtualMemory base' size' freeType', rfl⟩)
    · exact leaves_returned (.inl rfl)
  · exact leaves_returned (.inl rfl)

/-- Protecting virtual memory is one step. -/
theorem ntProtectVirtualMemory_steps :
    Leaves (Steps k) (Handlers.ntProtectVirtualMemory cpu k) := by
  refine leaves_then fun basePtr => leaves_then fun sizePtr => leaves_then fun newProt =>
    leaves_then fun oldProtPtr => ?_
  split
  next basePtr' sizePtr' newProt' oldProtPtr' =>
    refine leaves_then fun base => leaves_then fun size => ?_
    split
    next base' size' =>
      have hstep : Steps k (k.ntProtectVirtualMemory base' size' newProt').2 :=
        .inr ⟨.ntProtectVirtualMemory base' size' newProt', rfl⟩
      split
      next k' hr =>
        rw [hr] at hstep
        exact leaves_returned hstep
      next old k' hr =>
        rw [hr] at hstep
        exact leaves_then fun _ => leaves_returned hstep
    · exact leaves_returned (.inl rfl)
  · exact leaves_returned (.inl rfl)

/-- Creating a thread, which allocates its stack, is one step. -/
theorem createThread_steps : Leaves (Steps k) (Handlers.createThread cpu k) := by
  refine leaves_then fun stackSize => leaves_then fun startRoutine => leaves_then fun arg =>
    leaves_then fun outId => ?_
  split
  next startRoutine' arg' =>
    have hstep : Steps k (SessionCall.threadCreated k (optional stackSize) startRoutine' arg') :=
      .inr ⟨.createThread (optional stackSize) startRoutine' arg', rfl⟩
    unfold SessionCall.threadCreated at hstep
    split
    next hle hr =>
      rw [hr] at hstep
      exact leaves_kernel hstep
    next tid hle hr =>
      rw [hr] at hstep
      split
      · exact leaves_then fun _ => leaves_kernel hstep
      · exact leaves_kernel hstep
  · exact leaves_fail _

end Steps

/-- The handlers of the exports that hand out memory or take it back. -/
theorem steps_of_registered {e : ExportEntry} (he : e ∈ registeredExports)
    (hmemory : memoryOrdinals.contains e.ordinal = true) (cpu : CpuContext) (k : KernelState) :
    Leaves (Steps k) (e.handler cpu k) := by
  have hall : ∀ e ∈ registeredExports, memoryOrdinals.contains e.ordinal = true →
      Leaves (Steps k) (e.handler cpu k) := by
    simp only [registeredExports, List.forall_mem_cons, List.not_mem_nil, false_implies,
      implies_true, and_true]
    refine ⟨fun _ => rtlAllocateHeap_steps cpu k, fun _ => rtlFreeHeap_steps cpu k,
      fun _ => rtlReAllocateHeap_steps cpu k, ?_, fun _ => rtlCreateHeap_steps cpu k,
      fun _ => rtlDestroyHeap_steps cpu k, fun _ => mmAllocateContiguousMemory_steps cpu k,
      fun _ => mmFreeContiguousMemory_steps cpu k, ?_,
      fun _ => ntAllocateVirtualMemory_steps cpu k, fun _ => ntFreeVirtualMemory_steps cpu k, ?_,
      fun _ => ntProtectVirtualMemory_steps cpu k, ?_, ?_, ?_, ?_, ?_, ?_, ?_, ?_, ?_, ?_, ?_,
      ?_, ?_, ?_, ?_, ?_, ?_, ?_, ?_, ?_, fun _ => createThread_steps cpu k, ?_, ?_, ?_, ?_, ?_,
      ?_, ?_, ?_, ?_, ?_, ?_, ?_, ?_, ?_⟩
    all_goals
      intro hmemory
      cases hmemory
  exact hall e he hmemory

/-- Every export call does to the kernel what a session call does, or nothing. -/
theorem exportCall_steps (c : ExportCall) (k : KernelState) : Steps k (c.next k) := by
  cases hmemory : memoryOrdinals.contains c.entry.ordinal with
  | false => exact .inr ⟨.other c hmemory, rfl⟩
  | true =>
    obtain heq | hstep :=
      ExportCall.next_of_leaves (steps_of_registered c.registered hmemory c.cpu k)
    · exact .inl heq
    · exact hstep

end Xblob.Analysis
