import Xblob.Analysis.HeapBlocks
import Xblob.Computation.KeyedLists

/-!
# Guest heaps

What each operation of a heap does to the division of its range into free and given out blocks,
and what calls one after the other leave of it.
-/

set_option autoImplicit false

namespace Xblob.Analysis

open Xblob.Computation Xblob.Kernel Xblob.Interface Xblob.Memory

/-! ## The operations -/

/-- The blocks of a heap divide it, at multiples of a number. -/
structure TiledBy (a : ℕ) (h : GuestHeap) : Prop where
  fits : (heapSpan h).stop ≤ 2 ^ 32
  tiling : Tiling a (heapSpan h) (freeSpans h) (liveSpans h)

/-- The blocks of a heap divide it, at multiples of its alignment. -/
structure Tiled (k : ℕ) (h : GuestHeap) : Prop where
  alignment : h.alignment.toNat = 2 ^ k
  fits : (heapSpan h).stop ≤ 2 ^ 32
  tiling : Tiling (2 ^ k) (heapSpan h) (freeSpans h) (liveSpans h)
  counted : h.allocatedBytes.toNat = total (liveSpans h)

section Operations

variable {a k : ℕ} {h h' : GuestHeap} {addr : GuestAddr} {size : U64}

/-- A live allocation has its span among the live ones. -/
theorem liveSpan_mem (hlive : h.activeAllocations[addr]? = some size) :
    allocationSpan (addr, size) ∈ liveSpans h :=
  List.mem_map_of_mem (Std.TreeMap.mem_toList_iff_getElem?_eq_some.mpr hlive)

/-- What is carved out of the free blocks is not given out yet. -/
theorem absent_of_carve (ht : Tiling a (heapSpan h) (freeSpans h) (liveSpans h))
    {free' : List Span} (hcarve : Carve a (freeSpans h) free' (allocationSpan (addr, size))) :
    h.activeAllocations[addr]? = none := by
  cases hlive : h.activeAllocations[addr]? with
  | none => rfl
  | some old =>
    exfalso
    have hmem := liveSpan_mem hlive
    have hfirst : ∀ {n : U64}, 0 < n.toNat → (allocationSpan (addr, n)).Holds addr.toNat :=
      fun hn => ⟨le_rfl, Nat.lt_add_of_pos_right hn⟩
    have htaken := cover_pos hmem (hfirst (ht.takenPos _ hmem))
    have hfree := hcarve.cover addr.toNat
    rw [Span.mark_of_holds (hfirst hcarve.pos)] at hfree
    have honce := ht.once addr.toNat
    unfold Span.mark at honce
    split at honce <;> omega

/-- The heap after a block is carved out of the free ones. -/
theorem tiling_take (ht : Tiling a (heapSpan h) (freeSpans h) (liveSpans h))
    {blocks : List FreeBlock}
    (hcarve : Carve a (freeSpans h) (blocks.map blockSpan) (allocationSpan (addr, size))) :
    Tiling a (heapSpan h) (blocks.map blockSpan)
      ((h.activeAllocations.insert addr size).toList.map allocationSpan) := by
  have hperm := (toList_insert_perm (v := size) (absent_of_carve ht hcarve)).map allocationSpan
  exact (ht.take hcarve).perm hperm.symm

/-- The heap after a block is given back. -/
theorem tiling_give (ht : Tiling a (heapSpan h) (freeSpans h) (liveSpans h))
    (hsmall : h.totalSize.toNat ≤ 2 ^ 32) (hlive : h.activeAllocations[addr]? = some size) :
    Tiling a (heapSpan h)
      ((GuestHeap.coalesce
        (GuestHeap.insertFree { addr := addr, size := size } h.freeBlocks)).map blockSpan)
      ((h.activeAllocations.erase addr).toList.map allocationSpan) := by
  have hperm := (toList_perm_erase hlive).map allocationSpan
  have hsum := total_perm hperm
  rw [List.map_cons, total_cons] at hsum
  have htotal : total (freeSpans h) + total (liveSpans h) = h.totalSize.toNat := ht.total
  have hroom : size.toNat + total (freeSpans h) ≤ 2 ^ 32 := by
    have hlive' : total (liveSpans h) = size.toNat + _ := hsum
    omega
  have hmap : (GuestHeap.coalesce
      (GuestHeap.insertFree { addr := addr, size := size } h.freeBlocks)).map blockSpan =
        giveBack (allocationSpan (addr, size)) (freeSpans h) :=
    map_coalesce_insertFree hroom
  rw [hmap]
  exact (ht.perm hperm).give

/-- The heap at the start. -/
theorem tiling_new {baseAddr : GuestAddr} {sizeBytes alignment : U64}
    (hbase : a ∣ baseAddr.toNat) (hsize : a ∣ sizeBytes.toNat) :
    Tiling a (heapSpan (GuestHeap.new baseAddr sizeBytes alignment))
      (freeSpans (GuestHeap.new baseAddr sizeBytes alignment))
      (liveSpans (GuestHeap.new baseAddr sizeBytes alignment)) := by
  have hfree : freeSpans (GuestHeap.new baseAddr sizeBytes alignment) =
      piece baseAddr.toNat sizeBytes.toNat := by
    unfold freeSpans GuestHeap.new
    dsimp only
    by_cases hpos : 0 < sizeBytes
    · rw [if_pos hpos, piece_of_pos hpos]
      rfl
    · have hzero : sizeBytes.toNat = 0 := Nat.eq_zero_of_not_pos hpos
      rw [if_neg hpos, hzero]
      rfl
  have hlive : liveSpans (GuestHeap.new baseAddr sizeBytes alignment) = [] := rfl
  rw [hfree, hlive]
  refine ⟨freeSpans_piece hbase hsize, by simp, by simp, ?_, ?_⟩
  · intro x
    rw [cover_piece, cover_nil]
    rfl
  · rw [total_piece, total_nil]
    rfl

namespace TiledBy

/-- The free blocks of a tiled heap end within the address space. -/
theorem blocks_fit (ht : TiledBy a h) : ∀ b ∈ h.freeBlocks, (blockSpan b).stop ≤ 2 ^ 32 := by
  intro b hb
  have hin := ht.tiling.free_inside (List.mem_map_of_mem hb)
  exact Nat.le_trans hin.2 ht.fits

/-- A tiled heap is no larger than the address space. -/
theorem small (ht : TiledBy a h) : h.totalSize.toNat ≤ 2 ^ 32 :=
  Nat.le_trans (Nat.le_add_left _ _) ht.fits

/-- Free and live spans together fit in the address space. -/
theorem total_le (ht : TiledBy a h) : total (freeSpans h) + total (liveSpans h) ≤ 2 ^ 32 := by
  rw [ht.tiling.total]
  exact ht.small

/-- The heap after a block is carved out of the free ones. -/
theorem take (ht : TiledBy a h) {blocks : List FreeBlock}
    (hcarve : Carve a (freeSpans h) (blocks.map blockSpan) (allocationSpan (addr, size))) :
    TiledBy a { h with
      freeBlocks := blocks
      activeAllocations := h.activeAllocations.insert addr size
      allocatedBytes := h.allocatedBytes + size } :=
  ⟨ht.fits, tiling_take ht.tiling hcarve⟩

/-- The heap after a block is given back. -/
theorem give (ht : TiledBy a h) (hlive : h.activeAllocations[addr]? = some size) :
    TiledBy a { h with
      activeAllocations := h.activeAllocations.erase addr
      allocatedBytes := h.allocatedBytes - size
      freeBlocks := GuestHeap.coalesce
        (GuestHeap.insertFree { addr := addr, size := size } h.freeBlocks) } :=
  ⟨ht.fits, tiling_give ht.tiling ht.small hlive⟩

end TiledBy

namespace Tiled

/-- A tiled heap is tiled by its alignment. -/
theorem tiledBy (ht : Tiled k h) : TiledBy (2 ^ k) h := ⟨ht.fits, ht.tiling⟩

/-- The heap after a block is carved out of the free ones. -/
theorem take (ht : Tiled k h) {blocks : List FreeBlock}
    (hcarve : Carve (2 ^ k) (freeSpans h) (blocks.map blockSpan) (allocationSpan (addr, size))) :
    Tiled k { h with
      freeBlocks := blocks
      activeAllocations := h.activeAllocations.insert addr size
      allocatedBytes := h.allocatedBytes + size } := by
  have hperm := (toList_insert_perm (v := size) (absent_of_carve ht.tiling hcarve)).map allocationSpan
  refine ⟨ht.alignment, ht.fits, (ht.tiledBy.take hcarve).tiling, ?_⟩
  have htotal : total (liveSpans h) + size.toNat ≤ 2 ^ 32 := by
    have hle := ht.tiledBy.total_le
    have hcarved := hcarve.total
    have hsize : (allocationSpan (addr, size)).size = size.toNat := rfl
    omega
  have hsum := total_perm hperm
  rw [List.map_cons, total_cons] at hsum
  rw [BitVec.toNat_add, ht.counted, Nat.mod_eq_of_lt (by omega)]
  exact (Nat.add_comm _ _).trans hsum.symm

/-- The heap after a block is given back. -/
theorem give (ht : Tiled k h) (hlive : h.activeAllocations[addr]? = some size) :
    Tiled k { h with
      activeAllocations := h.activeAllocations.erase addr
      allocatedBytes := h.allocatedBytes - size
      freeBlocks := GuestHeap.coalesce
        (GuestHeap.insertFree { addr := addr, size := size } h.freeBlocks) } := by
  have hperm := (toList_perm_erase hlive).map allocationSpan
  have hsum := total_perm hperm
  rw [List.map_cons, total_cons] at hsum
  refine ⟨ht.alignment, ht.fits, (ht.tiledBy.give hlive).tiling, ?_⟩
  have hle := ht.tiledBy.total_le
  have hcounted := ht.counted
  have hlive' : total (liveSpans h) = size.toNat + _ := hsum
  have hsizeLe : size ≤ h.allocatedBytes := by
    rw [BitVec.le_def]
    omega
  rw [BitVec.toNat_sub_of_le hsizeLe, hcounted, hlive', Nat.add_sub_cancel_left]
  rfl

end Tiled

/-- A new heap with aligned bounds is tiled. -/
theorem tiledBy_new {baseAddr : GuestAddr} {sizeBytes alignment : U64}
    (hbase : a ∣ baseAddr.toNat) (hsize : a ∣ sizeBytes.toNat)
    (hfits : baseAddr.toNat + sizeBytes.toNat ≤ 2 ^ 32) :
    TiledBy a (GuestHeap.new baseAddr sizeBytes alignment) := ⟨hfits, tiling_new hbase hsize⟩

/-- A new heap is tiled by the alignment it has taken. -/
theorem tiled_new {baseAddr : GuestAddr} {sizeBytes alignment : U64}
    (halign : (GuestHeap.new baseAddr sizeBytes alignment).alignment.toNat = 2 ^ k)
    (hbase : 2 ^ k ∣ baseAddr.toNat) (hsize : 2 ^ k ∣ sizeBytes.toNat)
    (hfits : baseAddr.toNat + sizeBytes.toNat ≤ 2 ^ 32) :
    Tiled k (GuestHeap.new baseAddr sizeBytes alignment) := by
  have htiled : TiledBy (2 ^ k) (GuestHeap.new baseAddr sizeBytes alignment) :=
    tiledBy_new hbase hsize hfits
  exact ⟨halign, hfits, htiled.tiling, rfl⟩

/-- Rounding a size to a power of two, at 64 bits. -/
theorem toNat_alignedSize {sizeBytes a : U64} {e : ℕ} (ha : a.toNat = 2 ^ e)
    (hsize : sizeBytes.toNat < 2 ^ 32) :
    ((sizeBytes + (a - 1)) &&& ~~~(a - 1)).toNat = roundUp (2 ^ e) sizeBytes.toNat := by
  have he : 2 ^ e ≤ 2 ^ 63 :=
    Nat.pow_le_pow_right (by omega) (Nat.le_of_lt_succ (lt_width_of_toNat_eq ha))
  exact toNat_roundUp _ _ ha (by omega)

/-- What `Allocate` has found when it succeeds. -/
theorem allocate_found {sizeBytes : U64} (halign : h.alignment.toNat = 2 ^ k)
    (hsmall : sizeBytes.toNat < 2 ^ 32) (hok : h.allocate sizeBytes = .ok (addr, h')) :
    ∃ alignedSize size blocks, alignedSize.toNat = roundUp (2 ^ k) sizeBytes.toNat ∧
      sizeBytes ≠ 0 ∧ 0 < alignedSize.toNat ∧
      GuestHeap.firstFit h.alignment alignedSize h.freeBlocks = some (addr, size, blocks) ∧
      h' = { h with
        freeBlocks := blocks
        activeAllocations := h.activeAllocations.insert addr size
        allocatedBytes := h.allocatedBytes + size } := by
  unfold GuestHeap.allocate at hok
  by_cases hzero : sizeBytes = 0
  · rw [if_pos hzero] at hok
    cases hok
  rw [if_neg hzero] at hok
  dsimp only at hok
  have hround := toNat_alignedSize halign hsmall
  generalize (sizeBytes + (h.alignment - 1)) &&& ~~~(h.alignment - 1) = alignedSize at hok hround
  have hpos : 0 < alignedSize.toNat := by
    have hle : sizeBytes.toNat ≤ roundUp (2 ^ k) sizeBytes.toNat := le_roundUp (Nat.two_pow_pos k)
    have hne : sizeBytes.toNat ≠ 0 := fun h0 => hzero (BitVec.eq_of_toNat_eq h0)
    omega
  cases hfit : GuestHeap.firstFit h.alignment alignedSize h.freeBlocks with
  | none =>
    rw [hfit] at hok
    cases hok
  | some found =>
    obtain ⟨addr', size, blocks⟩ := found
    rw [hfit] at hok
    obtain ⟨rfl, rfl⟩ : addr' = addr ∧ _ = h' := by simpa using hok
    exact ⟨alignedSize, size, blocks, hround, hzero, hpos, hfit, rfl⟩

/-- `Allocate` takes a block out of the free ones. -/
theorem allocate_carve (ht : TiledBy a h) (halign : h.alignment.toNat = 2 ^ k) (ha : a ∣ 2 ^ k)
    {sizeBytes : U64} (hsmall : sizeBytes.toNat < 2 ^ 32)
    (hok : h.allocate sizeBytes = .ok (addr, h')) :
    ∃ size blocks, h' = { h with
        freeBlocks := blocks
        activeAllocations := h.activeAllocations.insert addr size
        allocatedBytes := h.allocatedBytes + size } ∧
      Carve a (freeSpans h) (blocks.map blockSpan) (allocationSpan (addr, size)) := by
  obtain ⟨alignedSize, size, blocks, hround, -, hpos, hfit, rfl⟩ :=
    allocate_found halign hsmall hok
  refine ⟨size, blocks, rfl, ?_⟩
  have hdvd : 2 ^ k ∣ alignedSize.toNat := hround ▸ dvd_roundUp
  have hpow : 0 < h.alignment.toNat := halign ▸ Nat.two_pow_pos k
  exact firstFit_carve hpow hpos (ha.trans hdvd) ht.tiling.gaps ht.blocks_fit hfit

/-- `AllocateAligned` does too. -/
theorem allocateAligned_carve (ht : Tiled k h) {sizeBytes alignment : U64}
    (hsmall : sizeBytes.toNat < 2 ^ 32) (halign : alignment.toNat < 2 ^ 32)
    (hok : h.allocateAligned sizeBytes alignment = .ok (addr, h')) :
    ∃ size blocks, h' = { h with
        freeBlocks := blocks
        activeAllocations := h.activeAllocations.insert addr size
        allocatedBytes := h.allocatedBytes + size } ∧
      Carve (2 ^ k) (freeSpans h) (blocks.map blockSpan) (allocationSpan (addr, size)) := by
  unfold GuestHeap.allocateAligned at hok
  by_cases hzero : sizeBytes = 0
  · rw [if_pos hzero] at hok
    cases hok
  by_cases hpower : alignment < 4 ∨ alignment &&& (alignment - 1) ≠ 0
  · rw [if_neg hzero, if_pos hpower] at hok
    cases hok
  rw [if_neg hzero, if_neg hpower] at hok
  obtain ⟨hge, hmask⟩ : 4 ≤ alignment ∧ alignment &&& (alignment - 1) = 0 := by
    simpa [not_or] using hpower
  obtain ⟨j, hj⟩ := exists_eq_two_pow (a := alignment) (by bv_omega) hmask
  have hj32 : j ≤ 32 := by
    rw [hj] at halign
    exact Nat.le_of_lt ((Nat.pow_lt_pow_iff_right (by omega)).mp halign)
  -- the larger of the two alignments is a power of two as well
  obtain ⟨e, heff, hke, he⟩ : ∃ e,
      (if h.alignment < alignment then alignment else h.alignment).toNat = 2 ^ e ∧
        k ≤ e ∧ (e ≤ k ∨ e ≤ 32) := by
    by_cases hlt : h.alignment < alignment
    · have hpow : 2 ^ k < 2 ^ j := by
        rw [← ht.alignment, ← hj]
        exact hlt
      refine ⟨j, by rw [if_pos hlt, hj], ?_, Or.inr hj32⟩
      exact Nat.le_of_lt ((Nat.pow_lt_pow_iff_right (by omega)).mp hpow)
    · exact ⟨k, by rw [if_neg hlt, ht.alignment], le_rfl, Or.inl le_rfl⟩
  dsimp only at hok
  generalize (if h.alignment < alignment then alignment else h.alignment) = effectiveAlign
    at hok heff
  have hround := toNat_alignedSize heff hsmall
  generalize (sizeBytes + (effectiveAlign - 1)) &&& ~~~(effectiveAlign - 1) = alignedSize
    at hok hround
  have hle : sizeBytes.toNat ≤ roundUp (2 ^ e) sizeBytes.toNat := le_roundUp (Nat.two_pow_pos e)
  have hlt : roundUp (2 ^ e) sizeBytes.toNat < sizeBytes.toNat + 2 ^ e :=
    roundUp_lt (Nat.two_pow_pos e)
  have hne : sizeBytes.toNat ≠ 0 := fun h0 => hzero (BitVec.eq_of_toNat_eq h0)
  have hdvd : 2 ^ k ∣ alignedSize.toNat := by
    rw [hround]
    exact Nat.dvd_trans (Nat.pow_dvd_pow 2 hke) dvd_roundUp
  cases hfit : GuestHeap.firstAligned effectiveAlign h.alignment alignedSize h.freeBlocks with
  | none =>
    rw [hfit] at hok
    cases hok
  | some found =>
    obtain ⟨addr', size, blocks⟩ := found
    rw [hfit] at hok
    obtain ⟨rfl, rfl⟩ : addr' = addr ∧ _ = h' := by simpa using hok
    refine ⟨size, blocks, rfl, ?_⟩
    exact firstAligned_carve heff hke he ht.alignment (by omega) (by omega) hdvd ht.tiling.gaps
      ht.tiledBy.blocks_fit hfit

/-- What `Free` does when it succeeds. -/
theorem heapFree_ok (hok : h.free addr = .ok h') :
    ∃ size, h.activeAllocations[addr]? = some size ∧ h' = { h with
      activeAllocations := h.activeAllocations.erase addr
      allocatedBytes := h.allocatedBytes - size
      freeBlocks := GuestHeap.coalesce
        (GuestHeap.insertFree { addr := addr, size := size } h.freeBlocks) } := by
  unfold GuestHeap.free at hok
  split at hok
  · cases hok
  · cases hlive : h.activeAllocations[addr]? with
    | none =>
      rw [hlive] at hok
      cases hok
    | some size =>
      rw [hlive] at hok
      exact ⟨size, rfl, (Except.ok.inj hok).symm⟩

/-- `Free` succeeds on what is given out. -/
theorem free_of_live (ht : Tiled k h) (hlive : h.activeAllocations[addr]? = some size) :
    ∃ h', h.free addr = .ok h' := by
  have hin := ht.tiling.taken_inside (liveSpan_mem hlive)
  have hpos := ht.tiling.takenPos _ (liveSpan_mem hlive)
  have hfits := ht.fits
  have hbounds : ¬ (addr < h.baseAddr ∨
      addr.setWidth 64 ≥ h.baseAddr.setWidth 64 + h.totalSize) := by
    have haddr := addr.isLt
    have hbase := h.baseAddr.isLt
    unfold Span.Inside heapSpan allocationSpan Span.stop at *
    dsimp only at hin hpos hfits
    rw [not_or, BitVec.not_lt, ge_iff_le, BitVec.not_le, BitVec.le_def, BitVec.lt_def,
      BitVec.toNat_add, BitVec.toNat_setWidth, BitVec.toNat_setWidth]
    omega
  unfold GuestHeap.free
  rw [if_neg hbounds, hlive]
  exact ⟨_, rfl⟩

/-- Freeing keeps the heap tiled. -/
theorem Tiled.free (ht : Tiled k h) (hok : h.free addr = .ok h') : Tiled k h' := by
  obtain ⟨size, hlive, rfl⟩ := heapFree_ok hok
  exact ht.give hlive

/-- Allocating keeps the heap tiled. -/
theorem Tiled.allocate (ht : Tiled k h) {sizeBytes : U64} (hsmall : sizeBytes.toNat < 2 ^ 32)
    (hok : h.allocate sizeBytes = .ok (addr, h')) : Tiled k h' := by
  obtain ⟨size, blocks, rfl, hcarve⟩ := allocate_carve ht.tiledBy ht.alignment dvd_rfl hsmall hok
  exact ht.take hcarve

/-- `ReAllocate` is a `Free`, or an `Allocate` and a `Free`. -/
theorem reAllocate_ok {δ : Type} {newSize : U64} {mem : Option (AddressSpace δ)}
    {r : GuestAddr × GuestHeap × Option (AddressSpace δ)}
    (hok : h.reAllocate addr newSize mem = .ok r) :
    h.free addr = .ok r.2.1 ∨
      ∃ newAddr h', h.allocate newSize = .ok (newAddr, h') ∧
        (r.2.1 = h' ∨ h'.free addr = .ok r.2.1) := by
  unfold GuestHeap.reAllocate at hok
  cases hlive : h.activeAllocations[addr]? with
  | none =>
    rw [hlive] at hok
    cases hok
  | some oldSize =>
    rw [hlive] at hok
    dsimp only at hok
    by_cases hzero : newSize = 0
    · rw [if_pos hzero] at hok
      cases hfree : h.free addr with
      | error e =>
        rw [hfree] at hok
        cases hok
      | ok h' =>
        rw [hfree] at hok
        rw [← Except.ok.inj hok]
        exact Or.inl rfl
    · rw [if_neg hzero] at hok
      cases halloc : h.allocate newSize with
      | error e =>
        rw [halloc] at hok
        cases hok
      | ok found =>
        obtain ⟨newAddr, h'⟩ := found
        rw [halloc] at hok
        dsimp only at hok
        refine Or.inr ⟨newAddr, h', rfl, ?_⟩
        cases hfree : h'.free addr with
        | error e =>
          rw [hfree] at hok
          rw [← Except.ok.inj hok]
          exact Or.inl rfl
        | ok h'' =>
          rw [hfree] at hok
          rw [← Except.ok.inj hok]
          exact Or.inr rfl

/-- Reallocating keeps the heap tiled. -/
theorem Tiled.reAllocate {δ : Type} (ht : Tiled k h) {newSize : U64}
    (hsmall : newSize.toNat < 2 ^ 32) {mem : Option (AddressSpace δ)}
    {r : GuestAddr × GuestHeap × Option (AddressSpace δ)}
    (hok : h.reAllocate addr newSize mem = .ok r) : Tiled k r.2.1 := by
  obtain hfree | ⟨newAddr, h', halloc, rfl | hfree⟩ := reAllocate_ok hok
  · exact ht.free hfree
  · exact ht.allocate hsmall halloc
  · exact (ht.allocate hsmall halloc).free hfree

/-- Every call keeps the heap tiled. -/
theorem Tiled.next {δ : Type} (ht : Tiled k h) {c : HeapCall δ} (hsmall : c.Small) :
    Tiled k (c.next h) := by
  unfold HeapCall.next
  cases happly : c.apply h with
  | error e => exact ht
  | ok h' =>
    cases c with
    | allocate sizeBytes =>
      obtain ⟨⟨addr, h''⟩, hok, rfl⟩ := exists_of_map_ok happly
      exact ht.allocate hsmall hok
    | allocateAligned sizeBytes alignment =>
      obtain ⟨⟨addr, h''⟩, hok, rfl⟩ := exists_of_map_ok happly
      obtain ⟨size, blocks, rfl, hcarve⟩ := allocateAligned_carve ht hsmall.1 hsmall.2 hok
      exact ht.take hcarve
    | free addr => exact ht.free happly
    | reAllocate addr newSize mem =>
      obtain ⟨r, hok, rfl⟩ := exists_of_map_ok happly
      exact ht.reAllocate hsmall hok

end Operations

/-! ## Runs -/

section Runs

variable {k : ℕ} {h : GuestHeap}

/-- A tiled heap is lawful. -/
theorem Tiled.lawful (ht : Tiled k h) : HeapLawful h := by
  have hgaps : h.freeBlocks.Pairwise fun b c => (blockSpan b).stop < (blockSpan c).start :=
    List.pairwise_map.mp ht.tiling.gaps.gaps
  refine ⟨?_, ?_, ?_, fun s hs => ht.tiling.free_inside hs, fun s hs => ht.tiling.taken_inside hs,
    ht.tiling.taken_apart, fun s hs t ht' => ht.tiling.taken_apart_free hs ht', ?_, ht.counted⟩
  · apply hgaps.imp
    intro b c hbc
    exact Nat.lt_of_le_of_lt (Nat.le_add_right _ _) hbc
  · exact hgaps.imp fun hbc => Or.inl (Nat.le_of_lt hbc)
  · -- the same in both directions, so that the order of the two does not matter
    have hsymm : Std.Symm fun b c : FreeBlock =>
        (blockSpan b).stop ≠ (blockSpan c).start ∧ (blockSpan c).stop ≠ (blockSpan b).start :=
      ⟨fun _ _ hbc => hbc.symm⟩
    have hpos : ∀ b ∈ h.freeBlocks, 0 < (blockSpan b).size :=
      fun b hb => ht.tiling.gaps.pos _ (List.mem_map_of_mem hb)
    have hboth : h.freeBlocks.Pairwise fun b c =>
        (blockSpan b).stop ≠ (blockSpan c).start ∧ (blockSpan c).stop ≠ (blockSpan b).start := by
      apply hgaps.imp_of_mem
      intro b c hb hc hbc
      have hposB := hpos b hb
      have hposC := hpos c hc
      unfold Span.stop at *
      omega
    have hself : ∀ b ∈ h.freeBlocks, (blockSpan b).stop ≠ (blockSpan b).start ∧
        (blockSpan b).stop ≠ (blockSpan b).start := by
      intro b hb
      have hposB := hpos b hb
      unfold Span.stop
      omega
    intro b hb c hc
    exact (hboth.forall_of_forall hself hb hc).1
  · intro x hx
    rw [ht.tiling.once x, Span.mark_of_holds hx]

/-- A heap keeps its place. -/
def SamePlace (h h' : GuestHeap) : Prop := h'.baseAddr = h.baseAddr ∧ h'.totalSize = h.totalSize

/-- Staying in place composes. -/
theorem SamePlace.trans {h₁ h₂ h₃ : GuestHeap} (h₁₂ : SamePlace h₁ h₂) (h₂₃ : SamePlace h₂ h₃) :
    SamePlace h₁ h₃ :=
  ⟨h₂₃.1.trans h₁₂.1, h₂₃.2.trans h₁₂.2⟩

/-- Freeing leaves the heap in its place. -/
theorem samePlace_free {h' : GuestHeap} {addr : GuestAddr} (hok : h.free addr = .ok h') :
    SamePlace h h' := by
  obtain ⟨size, -, rfl⟩ := heapFree_ok hok
  exact ⟨rfl, rfl⟩

/-- Allocating leaves the heap in its place. -/
theorem samePlace_allocate {h' : GuestHeap} {addr : GuestAddr} {sizeBytes : U64}
    (hok : h.allocate sizeBytes = .ok (addr, h')) : SamePlace h h' := by
  unfold GuestHeap.allocate at hok
  split at hok
  · cases hok
  · dsimp only at hok
    split at hok
    · cases hok
    · cases hok
      exact ⟨rfl, rfl⟩

/-- Aligned allocating leaves the heap in its place. -/
theorem samePlace_allocateAligned {h' : GuestHeap} {addr : GuestAddr} {sizeBytes alignment : U64}
    (hok : h.allocateAligned sizeBytes alignment = .ok (addr, h')) : SamePlace h h' := by
  unfold GuestHeap.allocateAligned at hok
  split at hok
  · cases hok
  · split at hok
    · cases hok
    · dsimp only at hok
      split at hok
      · cases hok
      · cases hok
        exact ⟨rfl, rfl⟩

/-- Reallocating leaves the heap in its place. -/
theorem samePlace_reAllocate {δ : Type} {addr : GuestAddr} {newSize : U64}
    {mem : Option (AddressSpace δ)} {r : GuestAddr × GuestHeap × Option (AddressSpace δ)}
    (hok : h.reAllocate addr newSize mem = .ok r) : SamePlace h r.2.1 := by
  obtain hfree | ⟨newAddr, h', halloc, rfl | hfree⟩ := reAllocate_ok hok
  · exact samePlace_free hfree
  · exact samePlace_allocate halloc
  · exact (samePlace_allocate halloc).trans (samePlace_free hfree)

/-- Every call leaves the heap in its place. -/
theorem samePlace_next {δ : Type} (c : HeapCall δ) : SamePlace h (c.next h) := by
  unfold HeapCall.next
  cases happly : c.apply h with
  | error e => exact ⟨rfl, rfl⟩
  | ok h' =>
    cases c with
    | allocate sizeBytes =>
      obtain ⟨r, hok, rfl⟩ := exists_of_map_ok happly
      exact samePlace_allocate hok
    | allocateAligned sizeBytes alignment =>
      obtain ⟨r, hok, rfl⟩ := exists_of_map_ok happly
      exact samePlace_allocateAligned hok
    | free addr => exact samePlace_free happly
    | reAllocate addr newSize mem =>
      obtain ⟨r, hok, rfl⟩ := exists_of_map_ok happly
      exact samePlace_reAllocate hok

/-- What calls leave of a heap. -/
theorem tiled_calls {δ : Type} {calls : List (HeapCall δ)} (ht : Tiled k h)
    (hsmall : ∀ c ∈ calls, c.Small) :
    Tiled k (calls.foldl HeapCall.next h) ∧ SamePlace h (calls.foldl HeapCall.next h) := by
  induction calls generalizing h with
  | nil => exact ⟨ht, rfl, rfl⟩
  | cons c calls ih =>
    obtain ⟨hc, hcalls⟩ := List.forall_mem_cons.mp hsmall
    obtain ⟨htiled, hplace⟩ := ih (ht.next hc) hcalls
    exact ⟨htiled, (samePlace_next c).trans hplace⟩

/-- Everything given out is freed, one allocation after the other. -/
theorem freeAll {order : List GuestAddr} (ht : Tiled k h)
    (hperm : order.Perm h.activeAllocations.keys) :
    ∃ h', order.foldlM GuestHeap.free h = .ok h' ∧ Tiled k h' ∧ SamePlace h h' ∧
      h'.activeAllocations.toList = [] := by
  induction order generalizing h with
  | nil =>
    refine ⟨h, rfl, ht, ⟨rfl, rfl⟩, ?_⟩
    rw [← Std.TreeMap.map_fst_toList_eq_keys] at hperm
    exact List.map_eq_nil_iff.mp hperm.symm.eq_nil
  | cons addr order ih =>
    have hmem : addr ∈ h.activeAllocations.keys := hperm.mem_iff.mp List.mem_cons_self
    obtain ⟨size, hlive⟩ : ∃ size, h.activeAllocations[addr]? = some size := by
      rw [Std.TreeMap.mem_keys] at hmem
      exact ⟨_, Std.TreeMap.getElem?_eq_some_getElem hmem⟩
    obtain ⟨h₁, hfree⟩ := free_of_live ht hlive
    have hrest : order.Perm h₁.activeAllocations.keys := by
      obtain ⟨_, -, rfl⟩ := heapFree_ok hfree
      have hkeys := (toList_perm_erase hlive).map Prod.fst
      rw [List.map_cons, Std.TreeMap.map_fst_toList_eq_keys,
        Std.TreeMap.map_fst_toList_eq_keys] at hkeys
      exact (hperm.trans hkeys).cons_inv
    obtain ⟨h', hfold, htiled, hplace, hempty⟩ := ih (ht.free hfree) hrest
    refine ⟨h', ?_, htiled, (samePlace_free hfree).trans hplace, hempty⟩
    rw [List.foldlM_cons, hfree]
    exact hfold

/-- A block is told by its span. -/
theorem blockSpan_injective : Function.Injective blockSpan := by
  rintro ⟨addr, size⟩ ⟨addr', size'⟩ h
  obtain ⟨haddr, hsize⟩ := Span.mk.inj h
  obtain rfl : addr = addr' := BitVec.eq_of_toNat_eq haddr
  obtain rfl : size = size' := BitVec.eq_of_toNat_eq hsize
  rfl

/-- Of two heaps in one place with nothing given out, the free blocks are the same. -/
theorem Tiled.freeBlocks_eq {h' : GuestHeap} (ht : Tiled k h) (ht' : Tiled k h')
    (hplace : SamePlace h h') (hempty : h.activeAllocations.toList = [])
    (hempty' : h'.activeAllocations.toList = []) : h'.freeBlocks = h.freeBlocks := by
  have hlive : liveSpans h = [] := by rw [liveSpans, hempty, List.map_nil]
  have hlive' : liveSpans h' = [] := by rw [liveSpans, hempty', List.map_nil]
  have hspan : heapSpan h' = heapSpan h := by rw [heapSpan, heapSpan, hplace.1, hplace.2]
  have hfree := (hlive ▸ ht.tiling).free_eq
  have hfree' := (hlive' ▸ ht'.tiling).free_eq
  rw [hspan, ← hfree] at hfree'
  exact List.map_injective_iff.mpr blockSpan_injective hfree'

/-- After calls with sizes and alignments below 2^32 of a heap at multiples of its power of two,
below 2^32, the blocks divide the heap, the free ones in order and merged; and freeing
everything in whatever order leaves the free block of the start. -/
theorem guest_heap_lawful {δ : Type} {baseAddr : GuestAddr} {sizeBytes alignment : U64}
    (halign : (GuestHeap.new baseAddr sizeBytes alignment).alignment.toNat = 2 ^ k)
    (hbase : 2 ^ k ∣ baseAddr.toNat) (hsize : 2 ^ k ∣ sizeBytes.toNat)
    (hfits : baseAddr.toNat + sizeBytes.toNat ≤ 2 ^ 32) {calls : List (HeapCall δ)}
    (hsmall : ∀ c ∈ calls, c.Small) :
    HeapLawful (heapAfter baseAddr sizeBytes alignment calls) ∧
      FreesTo (heapAfter baseAddr sizeBytes alignment calls)
        (GuestHeap.new baseAddr sizeBytes alignment).freeBlocks := by
  have hnew := tiled_new halign hbase hsize hfits
  obtain ⟨htiled, hplace⟩ := tiled_calls hnew hsmall
  refine ⟨htiled.lawful, ?_⟩
  intro order hperm
  obtain ⟨h', hfold, htiled', hplace', hempty⟩ := freeAll htiled hperm
  refine ⟨h', hfold, hnew.freeBlocks_eq htiled' (hplace.trans hplace') rfl hempty, ?_, hempty⟩
  apply BitVec.eq_of_toNat_eq
  rw [htiled'.counted, liveSpans, hempty]
  rfl

/-- The kernel's default heap, after an aligned allocation behind a smaller one was given back. -/
theorem guest_heap_lawful_default :
    HeapLawful (heapAfter 0x10000000 0x1000000 8 ([.allocate 24, .allocateAligned 100 64,
        .free 0x10000000, .reAllocate 0x10000040 8 none] : List (HeapCall Unit))) ∧
      FreesTo (heapAfter 0x10000000 0x1000000 8 ([.allocate 24, .allocateAligned 100 64,
        .free 0x10000000, .reAllocate 0x10000040 8 none] : List (HeapCall Unit)))
        (GuestHeap.new 0x10000000 0x1000000 8).freeBlocks := by
  apply guest_heap_lawful (k := 3)
  · rfl
  · decide
  · decide
  · decide
  · simp [HeapCall.Small]

end Runs

end Xblob.Analysis
