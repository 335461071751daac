import Xblob.Model.Memory.AddressSpace

/-!
# The guest heap

The kernel gives the guest memory from a range of addresses of its own: a list of free
blocks in the order of their addresses, and the blocks given out.  The stacks of threads
come from it.  A manager holds the heap the kernel starts with and those the guest makes.
-/

set_option autoImplicit false

namespace Xblob.Kernel

open Xblob.Memory

/-- `GuestHeap::FreeBlock`. SOURCE: libs/kernel/include/xblob/kernel/guest_heap.hpp:40-43 -/
structure FreeBlock where
  addr : GuestAddr := 0
  size : U64 := 0
  deriving DecidableEq, Repr

/-- `GuestHeap`. SOURCE: libs/kernel/include/xblob/kernel/guest_heap.hpp:45-54 -/
structure GuestHeap where
  baseAddr : GuestAddr
  totalSize : U64
  alignment : U64
  allocatedBytes : U64
  freeBlocks : List FreeBlock
  activeAllocations : Std.TreeMap GuestAddr U64

namespace GuestHeap

/-- The constructor, with `Reset`. SOURCE: libs/kernel/src/guest_heap.cpp:7-19 -/
def new (baseAddr : GuestAddr) (sizeBytes : U64) (alignment : U64) : GuestHeap where
  baseAddr := baseAddr
  totalSize := sizeBytes
  alignment := if alignment ≠ 0 then alignment else 8
  allocatedBytes := 0
  freeBlocks := if 0 < sizeBytes then [{ addr := baseAddr, size := sizeBytes }] else []
  activeAllocations := ∅

/-- The first block that is large enough, taken from the list: its address, how much of it is
given out, and the blocks left. SOURCE: libs/kernel/src/guest_heap.cpp:30-41 -/
def firstFit (alignment alignedSize : U64) :
    List FreeBlock → Option (GuestAddr × U64 × List FreeBlock)
  | [] => none
  | block :: blocks =>
    if block.size ≥ alignedSize then
      let remaining := block.size - alignedSize
      if remaining ≥ alignment then
        some (block.addr, alignedSize,
          { addr := block.addr + alignedSize.setWidth 32, size := remaining } :: blocks)
      else
        some (block.addr, block.size, blocks)
    else
      (firstFit alignment alignedSize blocks).map fun r => (r.1, r.2.1, block :: r.2.2)

/-- `Allocate`. SOURCE: libs/kernel/src/guest_heap.cpp:21-50 -/
def allocate (h : GuestHeap) (sizeBytes : U64) : Result (GuestAddr × GuestHeap) :=
  if sizeBytes = 0 then
    .error { code := .invalidArgument, message := "Tamanho de alocação não pode ser zero" }
  else
    let alignedSize := (sizeBytes + (h.alignment - 1)) &&& ~~~(h.alignment - 1)
    match firstFit h.alignment alignedSize h.freeBlocks with
    | none => .error { code := .limitReached, message := "Memória do heap esgotada" }
    | some (addr, size, blocks) =>
      .ok (addr, { h with
        freeBlocks := blocks
        activeAllocations := h.activeAllocations.insert addr size
        allocatedBytes := h.allocatedBytes + size })

/-- A block put before the first one whose address is not below its own, as `std::lower_bound`
finds it in a sorted list. SOURCE: libs/kernel/src/guest_heap.cpp:68-72 -/
def insertFree (fb : FreeBlock) : List FreeBlock → List FreeBlock
  | [] => [fb]
  | block :: blocks =>
    if block.addr < fb.addr then block :: insertFree fb blocks else fb :: block :: blocks

/-- The loop of `Coalesce`: `last` is the back of the merged list.
SOURCE: libs/kernel/src/guest_heap.cpp:173-181 -/
def coalesceFrom (last : FreeBlock) : List FreeBlock → List FreeBlock
  | [] => [last]
  | curr :: blocks =>
    if last.addr.setWidth 64 + last.size = curr.addr.setWidth 64 then
      coalesceFrom { last with size := last.size + curr.size } blocks
    else
      last :: coalesceFrom curr blocks

/-- `Coalesce`. SOURCE: libs/kernel/src/guest_heap.cpp:165-184 -/
def coalesce : List FreeBlock → List FreeBlock
  | [] => []
  | block :: blocks => coalesceFrom block blocks

/-- `Free`. SOURCE: libs/kernel/src/guest_heap.cpp:52-76 -/
def free (h : GuestHeap) (addr : GuestAddr) : Result GuestHeap :=
  if addr < h.baseAddr ∨ addr.setWidth 64 ≥ h.baseAddr.setWidth 64 + h.totalSize then
    .error { code := .outOfBounds, message := "Endereço fora dos limites do heap"
             offset := addr.setWidth 64 }
  else
    match h.activeAllocations[addr]? with
    | none =>
      .error { code := .invalidArgument
               message := "Endereço não alocado ou já liberado (double-free)"
               offset := addr.setWidth 64 }
    | some size =>
      .ok { h with
        activeAllocations := h.activeAllocations.erase addr
        allocatedBytes := h.allocatedBytes - size
        freeBlocks := coalesce (insertFree { addr := addr, size := size } h.freeBlocks) }

/-- The first address of a block that is a multiple of the alignment, cut to 32 bits.
SOURCE: libs/kernel/src/guest_heap.cpp:90-91 -/
def candidate (effectiveAlign : U64) (addr : GuestAddr) : GuestAddr :=
  ((addr.setWidth 64 + (effectiveAlign - 1)) &&& ~~~(effectiveAlign - 1)).setWidth 32

/-- The first block with room behind the padding, taken from the list: the address given out,
how much of the block, and the blocks left. SOURCE: libs/kernel/src/guest_heap.cpp:89-118 -/
def firstAligned (effectiveAlign alignment alignedSize : U64) :
    List FreeBlock → Option (GuestAddr × U64 × List FreeBlock)
  | [] => none
  | block :: blocks =>
    let start := candidate effectiveAlign block.addr
    let padding : U64 := (start - block.addr).setWidth 64
    if block.size ≥ padding + alignedSize then
      let remaining := block.size - (padding + alignedSize)
      if padding > 0 then
        -- the prefix before the candidate stays free
        if remaining ≥ alignment then
          some (start, alignedSize, { block with size := padding } ::
            { addr := start + alignedSize.setWidth 32, size := remaining } :: blocks)
        else
          some (start, alignedSize, { block with size := padding } :: blocks)
      else if remaining ≥ alignment then
        some (start, alignedSize,
          { addr := block.addr + alignedSize.setWidth 32, size := remaining } :: blocks)
      else
        some (start, block.size, blocks)
    else
      (firstAligned effectiveAlign alignment alignedSize blocks).map
        fun r => (r.1, r.2.1, block :: r.2.2)

/-- `AllocateAligned`. SOURCE: libs/kernel/src/guest_heap.cpp:78-121 -/
def allocateAligned (h : GuestHeap) (sizeBytes alignment : U64) :
    Result (GuestAddr × GuestHeap) :=
  if sizeBytes = 0 then
    .error { code := .invalidArgument, message := "Tamanho de alocação não pode ser zero" }
  else if alignment < 4 ∨ alignment &&& (alignment - 1) ≠ 0 then
    .error { code := .invalidArgument, message := "Alinhamento deve ser potência de 2 e >= 4" }
  else
    let effectiveAlign := if h.alignment < alignment then alignment else h.alignment
    let alignedSize := (sizeBytes + (effectiveAlign - 1)) &&& ~~~(effectiveAlign - 1)
    match firstAligned effectiveAlign h.alignment alignedSize h.freeBlocks with
    | none =>
      .error { code := .limitReached, message := "Memória do heap esgotada para alinhamento" }
    | some (addr, size, blocks) =>
      .ok (addr, { h with
        freeBlocks := blocks
        activeAllocations := h.activeAllocations.insert addr size
        allocatedBytes := h.allocatedBytes + size })

/-- What `ReAllocate` does to memory; a failed read or write is ignored.
SOURCE: libs/kernel/src/guest_heap.cpp:144-151 -/
def copyBlock {δ : Type} (mem : AddressSpace δ) (addr newAddr : GuestAddr) (copySize : ℕ) :
    AddressSpace δ :=
  match (AddressSpace.readBytes addr copySize).run mem with
  | .error _ mem' => mem'
  | .ok buffer mem' =>
    match (AddressSpace.writeBytes newAddr buffer).run mem' with
    | .error _ mem'' | .ok _ mem'' => mem''

/-- `ReAllocate`, with the memory the bytes are copied in when there is one.
SOURCE: libs/kernel/src/guest_heap.cpp:123-155 -/
def reAllocate {δ : Type} (h : GuestHeap) (addr : GuestAddr) (newSize : U64)
    (mem : Option (AddressSpace δ)) :
    Result (GuestAddr × GuestHeap × Option (AddressSpace δ)) :=
  match h.activeAllocations[addr]? with
  | none =>
    .error { code := .invalidArgument, message := "Endereço não alocado para realocação" }
  | some oldSize =>
    if newSize = 0 then
      match h.free addr with
      | .error e => .error e
      | .ok h' => .ok (0, h', mem)
    else
      match h.allocate newSize with
      | .error e => .error e
      | .ok (newAddr, h') =>
        let mem' :=
          if newAddr ≠ addr then
            mem.map fun m => copyBlock m addr newAddr (min oldSize.toNat newSize.toNat)
          else mem
        match h'.free addr with
        | .error _ => .ok (newAddr, h', mem')
        | .ok h'' => .ok (newAddr, h'', mem')

/-- `GetBlockSize`. SOURCE: libs/kernel/src/guest_heap.cpp:157-163 -/
def getBlockSize (h : GuestHeap) (addr : GuestAddr) : Result U64 :=
  match h.activeAllocations[addr]? with
  | none => .error { code := .invalidArgument, message := "Endereço não alocado" }
  | some size => .ok size

end GuestHeap

/-- `GuestHeapManager`. SOURCE: libs/kernel/include/xblob/kernel/guest_heap.hpp:59-77 -/
structure GuestHeapManager where
  defaultHeap : GuestHeap
  secondaryHeaps : Std.TreeMap U32 GuestHeap
  nextSecondaryBase : U32

namespace GuestHeapManager

/-- The constructor, with the members' initial values.
SOURCE: libs/kernel/src/guest_heap.cpp:186-187 -/
def new (defaultBase : GuestAddr) (defaultSize : U64) : GuestHeapManager where
  defaultHeap := GuestHeap.new defaultBase defaultSize 8
  secondaryHeaps := ∅
  nextSecondaryBase := 0x20000000

/-- `CreateHeap`: the handle is the base.  It has no failure.
SOURCE: libs/kernel/src/guest_heap.cpp:195-205 -/
def createHeap (m : GuestHeapManager) (base : GuestAddr) (size alignment : U64) :
    U32 × GuestHeapManager :=
  if base = 0 then
    (m.nextSecondaryBase, { m with
      nextSecondaryBase := m.nextSecondaryBase + ((size + 0xFFFF) &&& ~~~0xFFFF).setWidth 32
      secondaryHeaps :=
        m.secondaryHeaps.insert m.nextSecondaryBase
          (GuestHeap.new m.nextSecondaryBase size alignment) })
  else
    (base, { m with
      secondaryHeaps := m.secondaryHeaps.insert base (GuestHeap.new base size alignment) })

/-- `DestroyHeap`. SOURCE: libs/kernel/src/guest_heap.cpp:207-217 -/
def destroyHeap (m : GuestHeapManager) (heapHandle : U32) : Result GuestHeapManager :=
  if heapHandle = m.defaultHeap.baseAddr then
    .error { code := .invalidArgument, message := "Não é permitido destruir o heap padrão" }
  else if m.secondaryHeaps.contains heapHandle then
    .ok { m with secondaryHeaps := m.secondaryHeaps.erase heapHandle }
  else
    .error { code := .invalidArgument, message := "Handle de heap inexistente" }

/-- `GetHeap`: the heap a handle names. SOURCE: libs/kernel/src/guest_heap.cpp:219-228 -/
def getHeap (m : GuestHeapManager) (heapHandle : U32) : Result GuestHeap :=
  if heapHandle = 0 ∨ heapHandle = m.defaultHeap.baseAddr then
    .ok m.defaultHeap
  else
    match m.secondaryHeaps[heapHandle]? with
    | some heap => .ok heap
    | none => .error { code := .invalidArgument, message := "Handle de heap inválido" }

/-- The manager after the heap a handle names has changed: `GetHeap` gives a pointer, through
which the exports change the heap. SOURCE: libs/kernel/src/guest_heap.cpp:219-228 -/
def setHeap (m : GuestHeapManager) (heapHandle : U32) (heap : GuestHeap) : GuestHeapManager :=
  if heapHandle = 0 ∨ heapHandle = m.defaultHeap.baseAddr then
    { m with defaultHeap := heap }
  else
    { m with secondaryHeaps := m.secondaryHeaps.insert heapHandle heap }

end GuestHeapManager

end Xblob.Kernel
