import Xblob.Computation.Runs
import Xblob.Computation.Tilings
import Xblob.Interface.XbeLoads
import Xblob.Model.Kernel.GuestHeap

/-!
# Guest heaps

What a heap, a manager of heaps and the export that reallocates a block are to keep.
-/

set_option autoImplicit false

namespace Xblob.Interface

open Xblob.Computation Xblob.Kernel Xblob.Memory

/-!
## Runs of a guest heap

Calls of one heap, one after the other, successful or not; what is to hold of the free and the
given out blocks after any of them; and what is left when everything is freed.
-/

section GuestHeaps

/-- The addresses of a free block. -/
def blockSpan (b : FreeBlock) : Span := ⟨b.addr.toNat, b.size.toNat⟩

/-- The addresses of an allocation. -/
def allocationSpan (entry : GuestAddr × U64) : Span := ⟨entry.1.toNat, entry.2.toNat⟩

/-- The addresses of a heap. -/
def heapSpan (h : GuestHeap) : Span := ⟨h.baseAddr.toNat, h.totalSize.toNat⟩

/-- What is free in a heap. -/
def freeSpans (h : GuestHeap) : List Span := h.freeBlocks.map blockSpan

/-- What a heap has given out. -/
def liveSpans (h : GuestHeap) : List Span := h.activeAllocations.toList.map allocationSpan

/-- A call of a heap; `ReAllocate` may have a memory to copy in. -/
inductive HeapCall (δ : Type) where
  | allocate (sizeBytes : U64)
  | allocateAligned (sizeBytes alignment : U64)
  | free (addr : GuestAddr)
  | reAllocate (addr : GuestAddr) (newSize : U64) (mem : Option (AddressSpace δ))

namespace HeapCall

variable {δ : Type}

/-- Sizes and alignments as the exports pass them, below 2^32. -/
def Small : HeapCall δ → Prop
  | .allocate sizeBytes => sizeBytes.toNat < 0x100000000
  | .allocateAligned sizeBytes alignment => sizeBytes.toNat < 0x100000000 ∧ alignment.toNat < 0x100000000
  | .free _ => True
  | .reAllocate _ newSize _ => newSize.toNat < 0x100000000

/-- The call, with the heap after it. -/
def apply (h : GuestHeap) : HeapCall δ → Result GuestHeap
  | .allocate sizeBytes => (h.allocate sizeBytes).map fun r => r.2
  | .allocateAligned sizeBytes alignment => (h.allocateAligned sizeBytes alignment).map fun r => r.2
  | .free addr => h.free addr
  | .reAllocate addr newSize mem => (h.reAllocate addr newSize mem).map fun r => r.2.1

/-- The heap after a call; one that fails leaves it. -/
def next (h : GuestHeap) (c : HeapCall δ) : GuestHeap :=
  match c.apply h with
  | .ok h' => h'
  | .error _ => h

end HeapCall

/-- A heap after calls. -/
def heapAfter {δ : Type} (baseAddr : GuestAddr) (sizeBytes alignment : U64)
    (calls : List (HeapCall δ)) : GuestHeap :=
  calls.foldl HeapCall.next (GuestHeap.new baseAddr sizeBytes alignment)

/-- What holds of the blocks of a heap. -/
structure HeapLawful (h : GuestHeap) : Prop where
  sorted : h.freeBlocks.Pairwise fun b c => b.addr < c.addr
  freeApart : h.freeBlocks.Pairwise fun b c => (blockSpan b).Apart (blockSpan c)
  coalesced : ∀ b ∈ h.freeBlocks, ∀ c ∈ h.freeBlocks, (blockSpan b).stop ≠ (blockSpan c).start
  freeInside : ∀ s ∈ freeSpans h, s.Inside (heapSpan h)
  liveInside : ∀ s ∈ liveSpans h, s.Inside (heapSpan h)
  liveApart : (liveSpans h).Pairwise Span.Apart
  liveApartFree : ∀ s ∈ liveSpans h, ∀ t ∈ freeSpans h, s.Apart t
  once : ∀ x, (heapSpan h).Holds x → cover (freeSpans h) x + cover (liveSpans h) x = 1
  counted : h.allocatedBytes.toNat = total (liveSpans h)

/-- Freeing everything a heap has given out, in whatever order, leaves these free blocks. -/
def FreesTo (h : GuestHeap) (blocks : List FreeBlock) : Prop :=
  ∀ order : List GuestAddr, order.Perm h.activeAllocations.keys →
    ∃ h', order.foldlM GuestHeap.free h = .ok h' ∧ h'.freeBlocks = blocks ∧
      h'.allocatedBytes = 0 ∧ h'.activeAllocations.toList = []

end GuestHeaps

/-!
## Runs of the heap manager

Heaps are made, used and destroyed.  A heap has a name of its own here, beside the handle the
guest knows it by, so that two heaps under one handle are still two.
-/

section HeapManagers

/-- A heap of the manager: the one of the start, or one of the map. -/
inductive HeapName where
  | default
  | secondary (handle : U32)
  deriving DecidableEq, Repr

/-- The heap of a name, when it is live. -/
def heapOf (m : GuestHeapManager) : HeapName → Option GuestHeap
  | .default => some m.defaultHeap
  | .secondary handle => m.secondaryHeaps[handle]?

/-- The handle of a heap. -/
def handleOf (m : GuestHeapManager) : HeapName → U32
  | .default => m.defaultHeap.baseAddr
  | .secondary handle => handle

/-- The heap that `GetHeap` reaches by a handle. -/
def named (m : GuestHeapManager) (handle : U32) : Option HeapName :=
  if handle = 0 ∨ handle = m.defaultHeap.baseAddr then some .default
  else if m.secondaryHeaps.contains handle then some (.secondary handle)
  else none

/-- A call of the manager, or of a heap through its handle. -/
inductive ManagerCall (δ : Type) where
  | createHeap (base : GuestAddr) (size alignment : U64)
  | destroyHeap (heapHandle : U32)
  | onHeap (heapHandle : U32) (call : HeapCall δ)

namespace ManagerCall

variable {δ : Type}

/-- The manager after a call; one that fails leaves it. -/
def next (m : GuestHeapManager) : ManagerCall δ → GuestHeapManager
  | .createHeap base size alignment => (m.createHeap base size alignment).2
  | .destroyHeap heapHandle =>
    match m.destroyHeap heapHandle with
    | .ok m' => m'
    | .error _ => m
  | .onHeap heapHandle call =>
    match m.getHeap heapHandle with
    | .ok heap => m.setHeap heapHandle (call.next heap)
    | .error _ => m

end ManagerCall

/-- The live heaps have addresses of their own below 2^32 and handles of their own. -/
structure HeapsApart (m : GuestHeapManager) : Prop where
  inside : ∀ {n heap}, heapOf m n = some heap → (heapSpan heap).stop ≤ 0x100000000
  apart : ∀ {n n' heap heap'}, heapOf m n = some heap → heapOf m n' = some heap' → n ≠ n' →
    ∀ x, (heapSpan heap).Holds x → ¬ (heapSpan heap').Holds x
  own : ∀ {n heap}, heapOf m n = some heap → named m (handleOf m n) = some n

/-- `CreateHeap` leaves every live heap, with what it has given out, and gives a handle that no
live heap has. -/
def Preserves {δ : Type} (m : GuestHeapManager) : ManagerCall δ → Prop
  | .createHeap base size alignment =>
    (∀ n heap, heapOf m n = some heap →
      heapOf (m.createHeap base size alignment).2 n = some heap) ∧
      heapOf m (.secondary (m.createHeap base size alignment).1) = none
  | _ => True

/-- What a call is to leave. -/
def CallLawful {δ : Type} (m : GuestHeapManager) (c : ManagerCall δ) : Prop :=
  Preserves m c ∧ HeapsApart (c.next m)

/-- Where a heap is made: at the base the guest gives, or at the next automatic one. -/
def placeOf (m : GuestHeapManager) (base : GuestAddr) : GuestAddr :=
  if base = 0 then m.nextSecondaryBase else base

/-- The place of a new heap is clear: it ends by 2^32 and touches no live heap, and its first
address is neither 0 nor the handle of a live heap. -/
structure PlaceClear (m : GuestHeapManager) (place : GuestAddr) (size : U64) : Prop where
  fits : place.toNat + size.toNat ≤ 0x100000000
  apart : ∀ {n heap}, heapOf m n = some heap →
    ∀ x, (heapSpan heap).Holds x → ¬ Span.Holds ⟨place.toNat, size.toNat⟩ x
  fresh : place ≠ 0 ∧ place ≠ m.defaultHeap.baseAddr ∧ m.secondaryHeaps[place]? = none

/-- Heaps are made in clear places only. -/
def MakesClear {δ : Type} (m : GuestHeapManager) : ManagerCall δ → Prop
  | .createHeap base size _ => PlaceClear m (placeOf m base) size
  | _ => True

end HeapManagers

/-!
## Blocks that change their size

What `ReAllocate` of a live block has to do to the heap and to guest memory.
-/

section Reallocations

variable {δ : Type}

/-- The bytes from an address may be accessed, if there are any. -/
def Accessible (space : AddressSpace δ) (addr : GuestAddr) (n : ℕ) (perm : MemoryPermission) : Prop :=
  n = 0 ∨ addr.toNat + n ≤ 0x100000000 ∧ ∃ c, blockAt space addr n perm = some c

/-- `ReAllocate` of a live block to a size that is not zero. -/
structure Reallocation (δ : Type) where
  heap : GuestHeap
  addr : GuestAddr
  oldSize : U64
  live : heap.activeAllocations[addr]? = some oldSize
  newSize : U64
  positive : newSize ≠ 0
  memory : AddressSpace δ

namespace Reallocation

variable (r : Reallocation δ)

/-- What the call returns. -/
def result : Result (GuestAddr × GuestHeap × Option (AddressSpace δ)) :=
  r.heap.reAllocate r.addr r.newSize (some r.memory)

/-- The heap after the call. -/
def heapAfter : GuestHeap :=
  match r.result with
  | .error _ => r.heap
  | .ok (_, heap, _) => heap

/-- Memory after the call. -/
def memoryAfter : AddressSpace δ :=
  match r.result with
  | .error _ => r.memory
  | .ok (_, _, memory) => memory.getD r.memory

/-- How many bytes are to be kept. -/
def copySize : ℕ := min r.oldSize.toNat r.newSize.toNat

/-- The block has moved to an address with its bytes, and is given back where it was. -/
structure Moved (newAddr : GuestAddr) : Prop where
  readable : Accessible r.memory r.addr r.copySize .read
  writable : Accessible r.memory newAddr r.copySize .write
  bytes : ∀ c d, blockAt r.memory r.addr r.copySize .read = some c →
    blockAt r.memory newAddr r.copySize .write = some d →
      bytesAt r.memoryAfter d r.copySize = bytesAt r.memory c r.copySize
  freed : r.heapAfter.activeAllocations[r.addr]? = none

/-- Nothing is given out or taken back, and memory is as it was. -/
structure Kept : Prop where
  blocks : ∀ addr : GuestAddr, r.heapAfter.activeAllocations[addr]? = r.heap.activeAllocations[addr]?
  memory : r.memoryAfter = r.memory

/-- The data of the block are kept. -/
def KeepsData : Prop :=
  match r.result with
  | .error _ => r.Kept
  | .ok (newAddr, _, _) => r.Moved newAddr

/-- The block lies between the bounds of the heap. -/
def InBounds : Prop :=
  r.heap.baseAddr ≤ r.addr ∧
    r.addr.setWidth 64 < r.heap.baseAddr.setWidth 64 + r.heap.totalSize

/-- Where the data are kept: no new block is found; or the old one may be given back, may be read,
and the new one may be written. -/
def Agrees : Prop :=
  match r.heap.allocate r.newSize with
  | .error _ => True
  | .ok (newAddr, _) => r.InBounds ∧ Accessible r.memory r.addr r.copySize .read ∧
      Accessible r.memory newAddr r.copySize .write

end Reallocation

end Reallocations

end Xblob.Interface
