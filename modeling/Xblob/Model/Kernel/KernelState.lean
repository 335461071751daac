import Xblob.Model.Kernel.DebugSink
import Xblob.Model.Kernel.FileServices
import Xblob.Model.Kernel.KernelHle
import Xblob.Model.Kernel.VirtualMemoryManager

/-!
# The kernel

All that the exports work on, and what the memory exports and `NtClose` do once their
arguments are read.  A call that asks the virtual memory manager for an automatic place may
not return.
-/

set_option autoImplicit false

namespace Xblob.Kernel

open Xblob.Computation Xblob.Memory Xblob.Processor

def kStatusConflict : U32 := 0xC0000018
def kStatusBufferTooSmall : U32 := 0xC0000023

/-- `KernelHle` with the heaps, the virtual memory, the debug sink and the file services.  The
default heap is the one of the part that threads use.
SOURCE: libs/kernel/include/xblob/kernel/kernel_hle.hpp:60-70 -/
structure KernelState where
  hle : KernelHle := {}
  secondaryHeaps : Std.TreeMap U32 GuestHeap := ∅
  nextSecondaryBase : U32 := 0x20000000
  vm : VirtualMemoryManager :=
    .new VirtualMemoryManager.kDefaultUserBase VirtualMemoryManager.kDefaultUserLimit
  debugSink : BufferedDebugSink := {}
  fileServices : KernelFileServices := {}

namespace KernelState

/-- `heap_manager()`. -/
def heapManager (k : KernelState) : GuestHeapManager where
  defaultHeap := k.hle.heap
  secondaryHeaps := k.secondaryHeaps
  nextSecondaryBase := k.nextSecondaryBase

/-- The kernel with another state of the heap manager. -/
def withHeapManager (k : KernelState) (m : GuestHeapManager) : KernelState :=
  { k with
    hle := { k.hle with heap := m.defaultHeap }
    secondaryHeaps := m.secondaryHeaps
    nextSecondaryBase := m.nextSecondaryBase }

/-- The kernel after a heap that `GetHeap` gave has changed. -/
def setHeap (k : KernelState) (heapHandle : U32) (heap : GuestHeap) : KernelState :=
  k.withHeapManager (k.heapManager.setHeap heapHandle heap)

/-! ## Heaps -/

/-- `RtlAllocateHeap`. SOURCE: libs/kernel/src/handlers_memory.cpp:13-22 -/
def rtlAllocateHeap (k : KernelState) (heapHandle size : U32) : U32 × KernelState :=
  match k.heapManager.getHeap heapHandle with
  | .error _ => (0, k)
  | .ok heap =>
    match heap.allocate (size.setWidth 64) with
    | .error _ => (0, k)
    | .ok (addr, heap) => (addr, k.setHeap heapHandle heap)

/-- `RtlFreeHeap`. SOURCE: libs/kernel/src/handlers_memory.cpp:32-38 -/
def rtlFreeHeap (k : KernelState) (heapHandle ptr : U32) : U32 × KernelState :=
  match k.heapManager.getHeap heapHandle with
  | .error _ => (0, k)
  | .ok heap =>
    match heap.free ptr with
    | .error _ => (0, k)
    | .ok heap => (1, k.setHeap heapHandle heap)

/-- The copy in `ReAllocate`: none when the block is freed or stays where it is.
SOURCE: libs/kernel/src/guest_heap.cpp:144-151 -/
def copyBlock (heap : GuestHeap) (ptr newPtr newSize : U32) : Guest Unit :=
  if newSize = 0 ∨ newPtr = ptr then
    pure ()
  else do
    let oldSize := (heap.activeAllocations[ptr]?).getD 0
    match ← Guest.readBytes ptr (min oldSize.toNat newSize.toNat) with
    | .error _ => pure ()
    | .ok buffer =>
      let _ ← Guest.writeBytes newPtr buffer
      pure ()

/-- `RtlReAllocateHeap`: the bytes are copied in guest memory.
SOURCE: libs/kernel/src/handlers_memory.cpp:49-58 -/
def rtlReAllocateHeap (k : KernelState) (heapHandle ptr newSize : U32) : Guest (U32 × KernelState) :=
  match k.heapManager.getHeap heapHandle with
  | .error _ => pure (0, k)
  | .ok heap =>
    match heap.reAllocate ptr (newSize.setWidth 64) (none : Option (AddressSpace Unit)) with
    | .error _ => pure (0, k)
    | .ok (newPtr, heap', _) => do
      copyBlock heap ptr newPtr newSize
      pure (newPtr, k.setHeap heapHandle heap')

/-- `RtlSizeHeap`. SOURCE: libs/kernel/src/handlers_memory.cpp:68-77 -/
def rtlSizeHeap (k : KernelState) (heapHandle ptr : U32) : U32 :=
  match k.heapManager.getHeap heapHandle with
  | .error _ => 0xFFFFFFFF
  | .ok heap =>
    match heap.getBlockSize ptr with
    | .error _ => 0xFFFFFFFF
    | .ok size => size.setWidth 32

/-- The size `RtlCreateHeap` asks for. SOURCE: libs/kernel/src/handlers_memory.cpp:85-87 -/
def heapSize (reserve : Option U32) : U64 :=
  match reserve with
  | none => 1024 * 1024
  | some reserve => if reserve = 0 then 1024 * 1024 else reserve.setWidth 64

/-- `RtlCreateHeap`. SOURCE: libs/kernel/src/handlers_memory.cpp:84-93 -/
def rtlCreateHeap (k : KernelState) (base reserve : Option U32) : U32 × KernelState :=
  let (handle, m) := k.heapManager.createHeap (base.getD 0) (heapSize reserve) 8
  (handle, k.withHeapManager m)

/-- `RtlDestroyHeap`. SOURCE: libs/kernel/src/handlers_memory.cpp:102-103 -/
def rtlDestroyHeap (k : KernelState) (heapHandle : U32) : U32 × KernelState :=
  match k.heapManager.destroyHeap heapHandle with
  | .error _ => (0, k)
  | .ok m => (1, k.withHeapManager m)

/-! ## Virtual memory -/

/-- `MmAllocateContiguousMemory`. SOURCE: libs/kernel/src/handlers_memory.cpp:109-118 -/
def mmAllocateContiguousMemory (k : KernelState) (numBytes : U32) : Option (U32 × KernelState) :=
  if numBytes = 0 then
    some (0, k)
  else
    (k.vm.allocate 0 (numBytes.setWidth 64) (kMemCommit ||| kMemReserve) kPageReadWrite).map
      fun r =>
        match r with
        | .error _ => (0, k)
        | .ok (addr, vm) => (addr, { k with vm := vm })

/-- `MmFreeContiguousMemory`. SOURCE: libs/kernel/src/handlers_memory.cpp:124-129 -/
def mmFreeContiguousMemory (k : KernelState) (base : U32) : U32 × KernelState :=
  if base = 0 then
    (0, k)
  else
    match k.vm.free base 0 kMemRelease with
    | .error _ => (0, k)
    | .ok vm => (1, { k with vm := vm })

/-- `NtAllocateVirtualMemory`, its base and size read: the base, if it was given.
SOURCE: libs/kernel/src/handlers_memory.cpp:164-168 -/
def ntAllocateVirtualMemory (k : KernelState) (base size allocType protect : U32) :
    Option (Option GuestAddr × KernelState) :=
  (k.vm.allocate base (size.setWidth 64) allocType protect).map fun r =>
    match r with
    | .error _ => (none, k)
    | .ok (addr, vm) => (some addr, { k with vm := vm })

/-- `NtFreeVirtualMemory`, its base and size read.
SOURCE: libs/kernel/src/handlers_memory.cpp:195-199 -/
def ntFreeVirtualMemory (k : KernelState) (base size freeType : U32) : U32 × KernelState :=
  match k.vm.free base (size.setWidth 64) freeType with
  | .error _ => (kStatusUnsuccessful, k)
  | .ok vm => (kStatusSuccess, { k with vm := vm })

/-- `NtProtectVirtualMemory`, its base and size read: the old protection.
SOURCE: libs/kernel/src/handlers_memory.cpp:254-257 -/
def ntProtectVirtualMemory (k : KernelState) (base size newProtect : U32) : Option U32 × KernelState :=
  match k.vm.protect base (size.setWidth 64) newProtect with
  | .error _ => (none, k)
  | .ok (old, vm) => (some old, { k with vm := vm })

/-! ## Handles -/

/-- `NtClose`: a handle of the kernel's table is closed there, any other by the file services.
SOURCE: libs/kernel/src/handlers_io.cpp:12-19 -/
def ntClose (k : KernelState) (handle : U32) : U32 × KernelState :=
  if k.hle.handles.isValidHandle handle then
    match k.hle.handles.closeHandle handle with
    | .error _ => (kNtStatusInvalidHandle, k)
    | .ok handles => (kStatusSuccess, { k with hle := { k.hle with handles := handles } })
  else
    let (status, fileServices) := k.fileServices.closeHandle handle
    (status, { k with fileServices := fileServices })

end KernelState

end Xblob.Kernel
