import Xblob.Analysis.BlockAccess
import Xblob.Analysis.GuestHeaps
import Xblob.Interface.GuestHeaps

/-!
# Where a block keeps its data

`ReAllocate` ignores a read that fails and a write that fails, and gives the old block back.
-/

set_option autoImplicit false

namespace Xblob.Analysis

open Xblob.Computation Xblob.Interface Xblob.Kernel Xblob.Memory Xblob.Memory.AddressSpace

section Calls

variable {δ : Type} {space : AddressSpace δ} {addr newAddr : GuestAddr} {n : ℕ} {c d : Cell}

/-! ## The copy -/

/-- Bytes that were stored are found there. -/
theorem bytesAt_storedAt (space : AddressSpace δ) (c : Cell) (bytes : List U8) :
    bytesAt (storedAt space c bytes) c bytes.length = bytes := by
  apply List.ext_getElem
  · rw [length_bytesAt]
  · intro i hi hi'
    rw [length_bytesAt] at hi
    have hholds : (Span.mk c.2 bytes.length).Holds (c.2 + i) := by
      unfold Span.Holds Span.stop
      dsimp only
      omega
    simp only [bytesAt, List.getElem_map, List.getElem_range]
    rw [storedAt_data, if_pos ⟨rfl, hholds⟩, Nat.add_sub_cancel_left,
      List.getD_eq_getElem _ _ hi']

/-- A copy between blocks that may be accessed. -/
theorem copyBlock_eq (hread : blockAt space addr n .read = some c)
    (hwrite : blockAt space newAddr n .write = some d) (hn : n ≠ 0) :
    GuestHeap.copyBlock space addr newAddr n = storedAt space d (bytesAt space c n) := by
  have hlength := length_bytesAt space c n
  have hsome : bytesAt space c n ≠ [] := by
    intro h
    rw [h] at hlength
    exact hn hlength.symm
  unfold GuestHeap.copyBlock
  rcases readBytes_run space addr hn with ⟨c', hc', hrun⟩ | ⟨hnone, -⟩
  · rw [hread] at hc'
    cases hc'
    rw [hrun]
    dsimp only
    rcases writeBytes_run space newAddr hsome with ⟨d', hd', hrun'⟩ | ⟨hnone, -⟩
    · rw [hlength, hwrite] at hd'
      cases hd'
      rw [hrun']
    · rw [hlength, hwrite] at hnone
      cases hnone
  · rw [hread] at hnone
    cases hnone

/-! ## The heap -/

/-- An allocation that succeeds adds itself and leaves the place of the heap. -/
theorem heapAllocate_ok {h h' : GuestHeap} {sizeBytes : U64}
    (hok : h.allocate sizeBytes = .ok (newAddr, h')) :
    h'.baseAddr = h.baseAddr ∧ h'.totalSize = h.totalSize ∧
      ∃ size, h'.activeAllocations = h.activeAllocations.insert newAddr size := by
  unfold GuestHeap.allocate at hok
  split at hok
  · cases hok
  · dsimp only at hok
    split at hok
    · cases hok
    · cases hok
      exact ⟨rfl, rfl, _, rfl⟩

variable (r : Reallocation δ)

/-- The old block is live in the heap that has given out the new one. -/
theorem live_after {h : GuestHeap} (halloc : r.heap.allocate r.newSize = .ok (newAddr, h)) :
    ∃ size, h.activeAllocations[r.addr]? = some size := by
  obtain ⟨-, -, size, hactive⟩ := heapAllocate_ok halloc
  rw [hactive, Std.TreeMap.getElem?_insert]
  split
  · exact ⟨size, rfl⟩
  · exact ⟨r.oldSize, r.live⟩

/-- The old block is given back exactly where it lies in bounds. -/
theorem free_after {h : GuestHeap} (halloc : r.heap.allocate r.newSize = .ok (newAddr, h)) :
    (r.InBounds → ∃ h', h.free r.addr = .ok h' ∧ h'.activeAllocations[r.addr]? = none) ∧
      (¬ r.InBounds → ∃ e, h.free r.addr = .error e) := by
  obtain ⟨hbase, htotal, -⟩ := heapAllocate_ok halloc
  obtain ⟨size, hlive⟩ := live_after r halloc
  have hbounds : r.InBounds ↔ ¬ (r.addr < h.baseAddr ∨
      r.addr.setWidth 64 ≥ h.baseAddr.setWidth 64 + h.totalSize) := by
    rw [hbase, htotal, not_or, BitVec.not_lt, ge_iff_le, BitVec.not_le]
    rfl
  constructor
  · intro hin
    unfold GuestHeap.free
    rw [if_neg (hbounds.1 hin), hlive]
    refine ⟨_, rfl, ?_⟩
    simp
  · intro hout
    unfold GuestHeap.free
    rw [if_pos (not_not.1 (mt hbounds.2 hout))]
    exact ⟨_, rfl⟩

/-- What the call returns. -/
theorem result_eq : r.result =
    match r.heap.allocate r.newSize with
    | .error e => .error e
    | .ok (newAddr, h) =>
      let memory := if newAddr ≠ r.addr then
        some (GuestHeap.copyBlock r.memory r.addr newAddr r.copySize) else some r.memory
      match h.free r.addr with
      | .error _ => .ok (newAddr, h, memory)
      | .ok h' => .ok (newAddr, h', memory) := by
  unfold Reallocation.result GuestHeap.reAllocate
  rw [r.live]
  dsimp only
  rw [if_neg r.positive]
  rfl

/-- Where a block that is made larger or smaller keeps its data. -/
theorem reallocation_keeps_data_iff : r.KeepsData ↔ r.Agrees := by
  have hresult := result_eq r
  unfold Reallocation.KeepsData Reallocation.Agrees
  cases halloc : r.heap.allocate r.newSize with
  | error e =>
    rw [halloc] at hresult
    dsimp only at hresult
    rw [hresult]
    refine ⟨fun _ => trivial, fun _ => ⟨fun addr => ?_, ?_⟩⟩
    · rw [Reallocation.heapAfter, hresult]
    · rw [Reallocation.memoryAfter, hresult]
  | ok found =>
    obtain ⟨newAddr, h⟩ := found
    rw [halloc] at hresult
    dsimp only at hresult ⊢
    obtain ⟨hin, hout⟩ := free_after r halloc
    by_cases hbounds : r.InBounds
    · obtain ⟨h', hfree, hfreed⟩ := hin hbounds
      rw [hfree] at hresult
      dsimp only at hresult
      rw [hresult]
      dsimp only
      constructor
      · intro hmoved
        exact ⟨hbounds, hmoved.readable, hmoved.writable⟩
      · rintro ⟨-, hread, hwrite⟩
        refine ⟨hread, hwrite, fun c d hc hd => ?_, ?_⟩
        · rw [Reallocation.memoryAfter, hresult]
          by_cases hsame : newAddr = r.addr
          · rw [if_neg (not_not_intro hsame)]
            rw [hsame] at hd
            rw [blockAt_unique hc hd]
            rfl
          · rw [if_pos hsame]
            by_cases hzero : r.copySize = 0
            · rw [hzero]
              rfl
            · dsimp only
              rw [Option.getD_some, copyBlock_eq hc hd hzero]
              have hbytes := bytesAt_storedAt r.memory d (bytesAt r.memory c r.copySize)
              rw [length_bytesAt] at hbytes
              exact hbytes
        · rw [Reallocation.heapAfter, hresult]
          exact hfreed
    · obtain ⟨e, hfree⟩ := hout hbounds
      rw [hfree] at hresult
      dsimp only at hresult
      rw [hresult]
      refine ⟨fun hmoved => ?_, fun h => absurd h.1 hbounds⟩
      have hfreed := hmoved.freed
      obtain ⟨size, hlive⟩ := live_after r halloc
      rw [Reallocation.heapAfter, hresult] at hfreed
      rw [hlive] at hfreed
      cases hfreed

end Calls

/-! ## A heap without memory -/

/-- The kernel's default heap with a block of eight bytes. -/
def oneBlock : GuestHeap where
  baseAddr := 0x10000000
  totalSize := 0x1000000
  alignment := 8
  allocatedBytes := 8
  freeBlocks := [{ addr := 0x10000008, size := 0xFFFFF8 }]
  activeAllocations := (∅ : Std.TreeMap GuestAddr U64).insert 0x10000000 8

example : (GuestHeap.new 0x10000000 0x1000000 8).allocate 8 = .ok (0x10000000, oneBlock) := rfl

/-- The block made larger, with no memory mapped at the heap. -/
def unmappedBlock : Reallocation Unit where
  heap := oneBlock
  addr := 0x10000000
  oldSize := 8
  live := by simp [oneBlock]
  newSize := 16
  positive := by decide
  memory := { regions := [], rams := fun _ => ⟨kRamSizeRetail, fun _ => (0 : U8)⟩, devices := () }

/-- A block that cannot be read moves all the same. -/
theorem unreadable_block_moves : (unmappedBlock.result.map Prod.fst).toOption = some 0x10000008 ∧
    ¬ unmappedBlock.KeepsData := by
  have hresult : ∃ heap memory, unmappedBlock.result = .ok (0x10000008, heap, memory) := by
    rw [result_eq]
    have halloc : ∃ h, unmappedBlock.heap.allocate unmappedBlock.newSize = .ok (0x10000008, h) :=
      ⟨_, rfl⟩
    obtain ⟨h, halloc⟩ := halloc
    rw [halloc]
    dsimp only
    cases h.free unmappedBlock.addr with
    | error e => exact ⟨_, _, rfl⟩
    | ok h' => exact ⟨_, _, rfl⟩
  obtain ⟨heap, memory, hresult⟩ := hresult
  constructor
  · rw [hresult]
    rfl
  · unfold Reallocation.KeepsData
    rw [hresult]
    intro h
    rcases h.readable with hzero | ⟨-, c, hc⟩
    · revert hzero
      decide
    · cases hc

end Xblob.Analysis
