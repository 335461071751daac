import Xblob.Interface.ExportRuns
import Xblob.Interface.GuestHeaps
import Xblob.Interface.MappedSpace
import Xblob.Interface.PhysicalMemory
import Xblob.Interface.VirtualRegions
import Xblob.Model.Machine.Session

/-!
# The memory a session hands out

Heaps, the virtual memory manager and the stacks of threads all give address ranges to the
guest.  A range has a name here: the heap and the address of an allocation, the number of a
stack, or the base of a committed region.  The ranges are to be private: mapped RAM, apart
from each other, from the image and from the first stack.
-/

set_option autoImplicit false

namespace Xblob.Interface

open Xblob.Computation Xblob.Kernel Xblob.Machine Xblob.Memory Xblob.Processor

variable {δ : Type}

/-- The addresses lie in one region of mapped RAM. -/
def InMappedRam (space : AddressSpace δ) (s : Span) : Prop :=
  ∃ r ∈ space.regions, r.isRam ∧ s.Inside r.span

/-- The addresses of the image. -/
def imageSpan (session : MachineSession δ) : Span :=
  ⟨session.loadPlan.baseAddress.toNat, session.loadPlan.imageSize.toNat⟩

/-- The addresses of the stack the session starts with. -/
def initialStackSpan : Span :=
  ⟨kInitialStackTop.toNat - kInitialStackSize.toNat, kInitialStackSize.toNat⟩

/-- Memory that may be handed out: RAM with neither the image nor the first stack in it. -/
structure ClearRam (session : MachineSession δ) (s : Span) : Prop where
  inRam : InMappedRam session.space s
  image : s.Apart (imageSpan session)
  stack : s.Apart initialStackSpan

/-! ## Runs -/

/-- The kernel, and the stacks that `CreateThread` has given to threads. -/
structure SessionRun where
  kernel : KernelState
  given : List (GuestAddr × U32) := []

/-- The exports that hand out memory or take it back. -/
def memoryOrdinals : List U32 := [184, 185, 186, 181, 182, 323, 324, 188, 199, 218, 10]

/-- A call of an export: one of these with its arguments read, or any other. -/
inductive SessionCall where
  | rtlAllocateHeap (heapHandle size : U32)
  | rtlFreeHeap (heapHandle ptr : U32)
  | rtlReAllocateHeap (heapHandle ptr newSize : U32)
  | rtlCreateHeap (base reserve : Option U32)
  | rtlDestroyHeap (heapHandle : U32)
  | mmAllocateContiguousMemory (numBytes : U32)
  | mmFreeContiguousMemory (base : U32)
  | ntAllocateVirtualMemory (base size allocType protect : U32)
  | ntFreeVirtualMemory (base size freeType : U32)
  | ntProtectVirtualMemory (base size newProtect : U32)
  | createThread (stackSize : Option U32) (startRoutine arg : U32)
  | other (call : ExportCall) (hother : memoryOrdinals.contains call.entry.ordinal = false)

namespace SessionCall

/-- What is left of the kernel by a call that may not return. -/
def orSame {α : Type} (k : KernelState) (result : Option (α × KernelState)) : KernelState :=
  match result with
  | some (_, k') => k'
  | none => k

/-- The kernel after `RtlReAllocateHeap`, whatever has been copied. -/
def reAllocated (k : KernelState) (heapHandle ptr newSize : U32) : KernelState :=
  match k.heapManager.getHeap heapHandle with
  | .error _ => k
  | .ok heap =>
    match heap.reAllocate ptr (newSize.setWidth 64) (none : Option (AddressSpace Unit)) with
    | .error _ => k
    | .ok (_, heap', _) => k.setHeap heapHandle heap'

/-- The kernel after a thread is created and has its handle. -/
def threadCreated (k : KernelState) (stackSize : Option U32) (startRoutine arg : U32) :
    KernelState :=
  match k.hle.createThread stackSize startRoutine arg with
  | (none, hle) => { k with hle := hle }
  | (some tid, hle) => { k with hle := (hle.openThread tid).2 }

/-- The kernel after a call. -/
def kernelNext (k : KernelState) : SessionCall → KernelState
  | .rtlAllocateHeap heapHandle size => (k.rtlAllocateHeap heapHandle size).2
  | .rtlFreeHeap heapHandle ptr => (k.rtlFreeHeap heapHandle ptr).2
  | .rtlReAllocateHeap heapHandle ptr newSize => reAllocated k heapHandle ptr newSize
  | .rtlCreateHeap base reserve => (k.rtlCreateHeap base reserve).2
  | .rtlDestroyHeap heapHandle => (k.rtlDestroyHeap heapHandle).2
  | .mmAllocateContiguousMemory numBytes => orSame k (k.mmAllocateContiguousMemory numBytes)
  | .mmFreeContiguousMemory base => (k.mmFreeContiguousMemory base).2
  | .ntAllocateVirtualMemory base size allocType protect =>
    orSame k (k.ntAllocateVirtualMemory base size allocType protect)
  | .ntFreeVirtualMemory base size freeType => (k.ntFreeVirtualMemory base size freeType).2
  | .ntProtectVirtualMemory base size newProtect =>
    (k.ntProtectVirtualMemory base size newProtect).2
  | .createThread stackSize startRoutine arg => threadCreated k stackSize startRoutine arg
  | .other call _ => call.next k

/-- The stack a call gives to a thread. -/
def stackGiven (k : KernelState) : SessionCall → List (GuestAddr × U32)
  | .createThread stackSize _ _ =>
    match k.hle.heap.allocate ((KernelHle.stackSize stackSize).setWidth 64) with
    | .ok (base, _) => [(base, KernelHle.stackSize stackSize)]
    | .error _ => []
  | _ => []

/-- The run after a call. -/
def next (r : SessionRun) (c : SessionCall) : SessionRun where
  kernel := c.kernelNext r.kernel
  given := r.given ++ c.stackGiven r.kernel

end SessionCall

/-- The kernel of a prepared session, with a file system. -/
def preparedRun (vfs : Vfs.Vfs) : SessionRun :=
  { kernel := { fileServices := { vfs := some vfs } } }

/-! ## Ranges -/

/-- The name of a range. -/
inductive RangeName where
  | allocation (heap : HeapName) (addr : GuestAddr)
  | stack (number : ℕ)
  | region (base : GuestAddr)

/-- The allocation is the stack of a thread. -/
def isStack (r : SessionRun) (heap : HeapName) (addr : GuestAddr) : Bool :=
  heap == .default && r.given.any fun s => s.1 == addr

/-- The addresses of a committed region. -/
def committedSpan (vm : VirtualMemoryManager) (base : GuestAddr) : Option Span :=
  match vm.regions[base]? with
  | some region => if region.state = kMemCommit then some (regionSpan base region) else none
  | none => none

/-- The range of a name, when it is handed out. -/
def rangeOf (r : SessionRun) : RangeName → Option Span
  | .allocation heap addr =>
    if isStack r heap addr then none
    else (heapOf r.kernel.heapManager heap).bind fun h =>
      (h.activeAllocations[addr]?).map fun size => allocationSpan (addr, size)
  | .stack number => (r.given[number]?).map fun s => ⟨s.1.toNat, s.2.toNat⟩
  | .region base => committedSpan r.kernel.vm base

/-- All that is handed out is private. -/
structure PrivateMemory (session : MachineSession δ) (r : SessionRun) : Prop where
  clear : ∀ {name s}, rangeOf r name = some s → ClearRam session s
  apart : ∀ {name name' s s'}, rangeOf r name = some s → rangeOf r name' = some s' →
    name ≠ name' → s.Apart s'

/-! ## Where memory comes from -/

/-- A range that may be handed out under a name: clear RAM, apart from all that is handed out
under another. -/
structure MayBeGiven (session : MachineSession δ) (r : SessionRun) (name : RangeName) (s : Span) :
    Prop where
  clear : ClearRam session s
  apart : ∀ {name' t}, rangeOf r name' = some t → name' ≠ name → s.Apart t

/-- What a free block gives for a size: all of it when less than 8 bytes would be left. -/
def partOf (b : FreeBlock) (size : ℕ) : Span :=
  ⟨b.addr.toNat, if b.size.toNat < roundUp 8 size + 8 then b.size.toNat else roundUp 8 size⟩

/-- The places of a heap for a size: its free blocks with room for it. -/
inductive FreePlace (h : GuestHeap) (size : ℕ) : GuestAddr → Span → Prop
  | block {b : FreeBlock} (hblock : b ∈ h.freeBlocks) (hroom : roundUp 8 size ≤ b.size.toNat) :
    FreePlace h size b.addr (partOf b size)

/-- The places where virtual memory can be committed: the gaps from the hint on when no base is
given, the region that was reserved at the base, or a range at the base that is in no region. -/
inductive CommitPlace (vm : VirtualMemoryManager) (base : GuestAddr) (size : ℕ)
    (allocType : U32) : GuestAddr → Span → Prop
  | automatic {addr : GuestAddr} (hbase : base = 0)
      (habove : roundUp 65536 vm.nextAutoAddr.toNat ≤ addr.toNat) (hgap : Gap vm size addr.toNat) :
    CommitPlace vm base size allocType addr ⟨addr.toNat, size⟩
  | reserved {region : VirtualRegion} (hbase : base ≠ 0) (htype : allocType &&& kMemReserve = 0)
      (hregion : vm.regions[base]? = some region) (hsize : size ≤ region.size.toNat) :
    CommitPlace vm base size allocType base (regionSpan base region)
  | requested (hbase : base ≠ 0) (haligned : 4096 ∣ base.toNat)
      (hinside : vm.userBase.toNat ≤ base.toNat ∧ base.toNat + size ≤ vm.userLimit.toNat)
      (hapart : ∀ {base' : GuestAddr} {region}, vm.regions[base']? = some region →
        (regionSpan base' region).Apart ⟨base.toNat, size⟩) :
    CommitPlace vm base size allocType base ⟨base.toNat, size⟩

/-- The places from which a call can hand out memory, and the names the ranges would have. -/
inductive Place (r : SessionRun) : SessionCall → RangeName → Span → Prop
  | allocation {heapHandle size : U32} {n : HeapName} {h : GuestHeap} {addr : GuestAddr} {s : Span}
      (hsize : size ≠ 0) (hname : named r.kernel.heapManager heapHandle = some n)
      (hheap : heapOf r.kernel.heapManager n = some h) (hfree : FreePlace h size.toNat addr s) :
    Place r (.rtlAllocateHeap heapHandle size) (.allocation n addr) s
  | reallocation {heapHandle ptr newSize : U32} {n : HeapName} {h : GuestHeap} {addr : GuestAddr}
      {s : Span} (hsize : newSize ≠ 0) (hname : named r.kernel.heapManager heapHandle = some n)
      (hheap : heapOf r.kernel.heapManager n = some h) (hlive : ptr ∈ h.activeAllocations)
      (hfree : FreePlace h newSize.toNat addr s) :
    Place r (.rtlReAllocateHeap heapHandle ptr newSize) (.allocation n addr) s
  | stack {stackSize : Option U32} {startRoutine arg : U32} {addr : GuestAddr} {s : Span}
      (hfree : FreePlace r.kernel.hle.heap (KernelHle.stackSize stackSize).toNat addr s) :
    Place r (.createThread stackSize startRoutine arg) (.stack r.given.length) s
  | contiguous {numBytes : U32} {addr : GuestAddr} {s : Span} (hsize : numBytes ≠ 0)
      (hplace : CommitPlace r.kernel.vm 0 (roundUp 4096 numBytes.toNat)
        (kMemCommit ||| kMemReserve) addr s) :
    Place r (.mmAllocateContiguousMemory numBytes) (.region addr) s
  | committed {base size allocType protect : U32} {addr : GuestAddr} {s : Span} (hsize : size ≠ 0)
      (hcommit : allocType &&& kMemCommit ≠ 0)
      (hplace : CommitPlace r.kernel.vm base (roundUp 4096 size.toNat) allocType addr s) :
    Place r (.ntAllocateVirtualMemory base size allocType protect) (.region addr) s

/-- No heap that has something given out is replaced by a new one. -/
def KeepsHeaps (k : KernelState) : SessionCall → Prop
  | .rtlCreateHeap base _ =>
    ∀ heap, k.secondaryHeaps[placeOf k.heapManager (base.getD 0)]? = some heap →
      heap.activeAllocations.isEmpty = true
  | _ => True

/-- Below every place that may not be handed out there is one that may; and no heap in use is
replaced. -/
structure Placed (session : MachineSession δ) (r : SessionRun) (c : SessionCall) : Prop where
  lowest : ∀ {name s}, Place r c name s → ¬ MayBeGiven session r name s →
    ∃ name' t, Place r c name' t ∧ t.start < s.start ∧ MayBeGiven session r name' t
  keeps : KeepsHeaps r.kernel c

end Xblob.Interface
