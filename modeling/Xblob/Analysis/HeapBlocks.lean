import Xblob.Computation.Alignment
import Xblob.Interface.GuestHeaps

/-!
# The blocks of a heap

The free ranges of a heap, and the blocks that are carved out of them.
-/

set_option autoImplicit false

namespace Xblob.Analysis

open Xblob.Computation Xblob.Interface Xblob.Kernel

/-!
## The blocks of a guest heap

The list functions of the heap do to blocks what carving, inserting and merging do to spans, as
long as nothing reaches past 2^32.  A heap at multiples of its power of two keeps its blocks at
multiples too, so that no remainder is ever lost.
-/

section HeapBlocks

/-! ### Taking -/

section Carving

variable {k : ℕ} {alignment alignedSize : U64} {b : FreeBlock} {blocks : List FreeBlock}

/-- A part of a block is given out. -/
theorem carve_block {a p n : ℕ} (hb : FreeSpans a (blockSpan b :: blocks.map blockSpan))
    (hroom : p + n ≤ b.size.toNat) (hn : 0 < n) (hp : a ∣ p) (hna : a ∣ n) :
    Carve a (blockSpan b :: blocks.map blockSpan)
      (piece b.addr.toNat p ++
        (piece (b.addr.toNat + p + n) (b.size.toNat - (p + n)) ++ blocks.map blockSpan))
      ⟨b.addr.toNat + p, n⟩ := by
  obtain ⟨hstart, hsize⟩ := hb.aligned _ List.mem_cons_self
  have hrest : a ∣ b.size.toNat - (p + n) := Nat.dvd_sub hsize (Nat.dvd_add hp hna)
  have hparts : p + n + (b.size.toNat - (p + n)) = (blockSpan b).size :=
    Nat.add_sub_cancel' hroom
  have hcarve := (carve_middle hparts hn hstart hp hna hrest).head hb
  rw [List.append_assoc] at hcarve
  exact hcarve

/-- The first block that is large enough gives its front, or all of it. -/
theorem firstFit_carve_of_end {a : ℕ} (hpos : 0 < alignedSize.toNat)
    (halign : 0 < alignment.toNat) (hdvd : a ∣ alignedSize.toNat)
    (hfree : FreeSpans a (blocks.map blockSpan)) {addr : GuestAddr} {size : U64}
    {blocks' : List FreeBlock}
    (hend : ∀ b ∈ blocks, b.addr = addr → alignedSize.toNat + alignment.toNat ≤ b.size.toNat →
      addr.toNat + alignedSize.toNat < 2 ^ 32)
    (h : GuestHeap.firstFit alignment alignedSize blocks = some (addr, size, blocks')) :
    Carve a (blocks.map blockSpan) (blocks'.map blockSpan) (allocationSpan (addr, size)) := by
  induction blocks generalizing blocks' with
  | nil => simp [GuestHeap.firstFit] at h
  | cons b blocks ih =>
    by_cases hroom : b.size ≥ alignedSize
    · have hle : alignedSize.toNat ≤ b.size.toNat := hroom
      have hrem : (b.size - alignedSize).toNat = b.size.toNat - alignedSize.toNat :=
        BitVec.toNat_sub_of_le hroom
      rw [GuestHeap.firstFit, if_pos hroom] at h
      by_cases hkeep : b.size - alignedSize ≥ alignment
      · rw [if_pos hkeep] at h
        obtain ⟨rfl, rfl, rfl⟩ : b.addr = addr ∧ alignedSize = size ∧ _ = blocks' := by
          simpa using h
        have hcarve := carve_block hfree (p := 0) (by simpa using hle) hpos (Nat.dvd_zero _) hdvd
        rw [piece_zero, List.nil_append, Nat.add_zero, Nat.zero_add] at hcarve
        have hq : alignment.toNat ≤ b.size.toNat - alignedSize.toNat := by
          rw [← hrem]
          exact hkeep
        have hb := hend b List.mem_cons_self rfl (by omega)
        have hstart : (b.addr + alignedSize.setWidth 32).toNat =
            b.addr.toNat + alignedSize.toNat := by
          rw [BitVec.toNat_add, BitVec.toNat_setWidth]
          omega
        rw [piece_of_pos (by omega), ← hrem, ← hstart] at hcarve
        exact hcarve
      · -- what would be left is too small to keep, and the whole block is given out
        rw [if_neg hkeep] at h
        obtain ⟨rfl, rfl, rfl⟩ : b.addr = addr ∧ b.size = size ∧ blocks = blocks' := by
          simpa using h
        have hcarve := carve_block hfree (p := 0) (n := b.size.toNat) (by omega) (by omega)
          (Nat.dvd_zero _) (hfree.aligned _ List.mem_cons_self).2
        rw [piece_zero, List.nil_append, Nat.add_zero, Nat.zero_add, Nat.sub_self, piece_zero,
          List.nil_append] at hcarve
        exact hcarve
    · rw [GuestHeap.firstFit, if_neg hroom] at h
      obtain ⟨⟨addr', size', rest⟩, hrest, heq⟩ := Option.map_eq_some_iff.mp h
      obtain ⟨rfl, rfl, rfl⟩ : addr' = addr ∧ size' = size ∧ b :: rest = blocks' := by
        simpa using heq
      exact (ih hfree.tail (fun c hc => hend c (List.mem_cons_of_mem _ hc)) hrest).cons hfree

/-- Where no block reaches past 2^32, neither does what is left of one. -/
theorem firstFit_carve {a : ℕ} (halign : 0 < alignment.toNat) (hpos : 0 < alignedSize.toNat)
    (hdvd : a ∣ alignedSize.toNat) (hfree : FreeSpans a (blocks.map blockSpan))
    (hfit : ∀ b ∈ blocks, (blockSpan b).stop ≤ 2 ^ 32) {addr : GuestAddr} {size : U64}
    {blocks' : List FreeBlock}
    (h : GuestHeap.firstFit alignment alignedSize blocks = some (addr, size, blocks')) :
    Carve a (blocks.map blockSpan) (blocks'.map blockSpan) (allocationSpan (addr, size)) := by
  refine firstFit_carve_of_end hpos halign hdvd hfree ?_ h
  rintro b hb rfl hkept
  have hstop : b.addr.toNat + b.size.toNat ≤ 2 ^ 32 := hfit b hb
  omega

/-- The block found is the lowest one that is large enough. -/
theorem firstFit_lowest {a : ℕ} (hfree : FreeSpans a (blocks.map blockSpan)) {addr : GuestAddr}
    {size : U64} {blocks' : List FreeBlock}
    (h : GuestHeap.firstFit alignment alignedSize blocks = some (addr, size, blocks')) :
    ∃ b ∈ blocks, b.addr = addr ∧ alignedSize.toNat ≤ b.size.toNat ∧
      size.toNat = (if b.size.toNat < alignedSize.toNat + alignment.toNat then b.size.toNat
        else alignedSize.toNat) ∧
      ∀ c ∈ blocks, alignedSize.toNat ≤ c.size.toNat → addr.toNat ≤ c.addr.toNat := by
  induction blocks generalizing blocks' with
  | nil => simp [GuestHeap.firstFit] at h
  | cons b blocks ih =>
    by_cases hroom : b.size ≥ alignedSize
    · have hle : alignedSize.toNat ≤ b.size.toNat := hroom
      have hrem : (b.size - alignedSize).toNat = b.size.toNat - alignedSize.toNat :=
        BitVec.toNat_sub_of_le hroom
      have hlow : ∀ c ∈ b :: blocks, b.addr.toNat ≤ c.addr.toNat := by
        intro c hc
        obtain rfl | hc := List.mem_cons.mp hc
        · exact le_rfl
        · have hgap := hfree.head_stop_lt _ (List.mem_map_of_mem hc)
          simp only [blockSpan, Span.stop] at hgap
          omega
      rw [GuestHeap.firstFit, if_pos hroom] at h
      refine ⟨b, List.mem_cons_self, ?_⟩
      by_cases hkeep : b.size - alignedSize ≥ alignment
      · rw [if_pos hkeep] at h
        obtain ⟨rfl, rfl, -⟩ : b.addr = addr ∧ alignedSize = size ∧ _ = blocks' := by
          simpa using h
        have hq : alignment.toNat ≤ b.size.toNat - alignedSize.toNat := by
          rw [← hrem]
          exact hkeep
        rw [if_neg (by omega)]
        exact ⟨rfl, hle, rfl, fun c hc _ => hlow c hc⟩
      · rw [if_neg hkeep] at h
        obtain ⟨rfl, rfl, -⟩ : b.addr = addr ∧ b.size = size ∧ blocks = blocks' := by
          simpa using h
        have hq : b.size.toNat - alignedSize.toNat < alignment.toNat := by
          rw [← hrem]
          exact BitVec.not_le.mp hkeep
        rw [if_pos (by omega)]
        exact ⟨rfl, hle, rfl, fun c hc _ => hlow c hc⟩
    · rw [GuestHeap.firstFit, if_neg hroom] at h
      obtain ⟨⟨addr', size', rest⟩, hrest, heq⟩ := Option.map_eq_some_iff.mp h
      obtain ⟨rfl, rfl, -⟩ : addr' = addr ∧ size' = size ∧ b :: rest = blocks' := by
        simpa using heq
      obtain ⟨c, hc, haddr, hle, hsize, hlow⟩ := ih hfree.tail hrest
      refine ⟨c, List.mem_cons_of_mem _ hc, haddr, hle, hsize, ?_⟩
      intro d hd hlarge
      obtain rfl | hd := List.mem_cons.mp hd
      · exact absurd hlarge hroom
      · exact hlow d hd hlarge

/-- The first multiple in a block, as long as it is below 2^32. -/
theorem toNat_candidate {effectiveAlign : U64} {e : ℕ} (heff : effectiveAlign.toNat = 2 ^ e)
    (he : e ≤ 32) (addr : GuestAddr) :
    (GuestHeap.candidate effectiveAlign addr).toNat = roundUp (2 ^ e) addr.toNat % 2 ^ 32 := by
  have hlt := addr.isLt
  have hpow : 2 ^ e ≤ 2 ^ 32 := Nat.pow_le_pow_right (by omega) he
  have hwide : (addr.setWidth 64).toNat = addr.toNat := by
    rw [BitVec.toNat_setWidth]
    omega
  rw [GuestHeap.candidate, BitVec.toNat_setWidth, toNat_roundUp _ _ heff (by omega), hwide]

/-- The padding in front of it, which no truncation touches. -/
theorem toNat_padding {effectiveAlign : U64} {e : ℕ} (heff : effectiveAlign.toNat = 2 ^ e)
    (he : e ≤ 32) (addr : GuestAddr) :
    ((GuestHeap.candidate effectiveAlign addr - addr).setWidth 64).toNat =
      roundUp (2 ^ e) addr.toNat - addr.toNat := by
  have hlt := addr.isLt
  have hpow : 2 ^ e ≤ 2 ^ 32 := Nat.pow_le_pow_right (by omega) he
  have hpos := Nat.two_pow_pos e
  have hle : addr.toNat ≤ roundUp (2 ^ e) addr.toNat := le_roundUp hpos
  have hup : roundUp (2 ^ e) addr.toNat < addr.toNat + 2 ^ e := roundUp_lt hpos
  rw [BitVec.toNat_setWidth, BitVec.toNat_sub, toNat_candidate heff he]
  omega

/-- A block at multiples of a power of two that ends by 2^32 bounds the power. -/
theorem exponent_le (hfree : FreeSpans (2 ^ k) (blockSpan b :: blocks.map blockSpan))
    (hb : b.addr.toNat + b.size.toNat ≤ 2 ^ 32) : k ≤ 32 := by
  have hpos : 0 < b.size.toNat := hfree.pos _ List.mem_cons_self
  have hdvd : 2 ^ k ∣ b.size.toNat := (hfree.aligned _ List.mem_cons_self).2
  have hle := Nat.le_of_dvd hpos hdvd
  exact (Nat.pow_le_pow_iff_right (by omega)).mp (show 2 ^ k ≤ 2 ^ 32 by omega)

/-- The first block that fits an aligned allocation is carved up. -/
theorem firstAligned_carve {effectiveAlign : U64} {e : ℕ} (heff : effectiveAlign.toNat = 2 ^ e)
    (hke : k ≤ e) (he : e ≤ k ∨ e ≤ 32) (halign : alignment.toNat = 2 ^ k)
    (hpos : 0 < alignedSize.toNat) (hbound : alignedSize.toNat < 2 ^ 32 + 2 ^ e)
    (hdvd : 2 ^ k ∣ alignedSize.toNat) (hfree : FreeSpans (2 ^ k) (blocks.map blockSpan))
    (hfit : ∀ b ∈ blocks, (blockSpan b).stop ≤ 2 ^ 32) {addr : GuestAddr} {size : U64}
    {blocks' : List FreeBlock}
    (h : GuestHeap.firstAligned effectiveAlign alignment alignedSize blocks =
      some (addr, size, blocks')) :
    Carve (2 ^ k) (blocks.map blockSpan) (blocks'.map blockSpan) (allocationSpan (addr, size)) := by
  induction blocks generalizing blocks' with
  | nil => simp [GuestHeap.firstAligned] at h
  | cons b blocks ih =>
    have hb : b.addr.toNat + b.size.toNat ≤ 2 ^ 32 := hfit b List.mem_cons_self
    have hk := exponent_le hfree hb
    have he32 : e ≤ 32 := by omega
    have hpad := toNat_padding heff he32 b.addr
    have hcand := toNat_candidate heff he32 b.addr
    have hle : b.addr.toNat ≤ roundUp (2 ^ e) b.addr.toNat := le_roundUp (Nat.two_pow_pos e)
    have hup : roundUp (2 ^ e) b.addr.toNat < b.addr.toNat + 2 ^ e := roundUp_lt (Nat.two_pow_pos e)
    have hpow : 2 ^ e ≤ 2 ^ 32 := Nat.pow_le_pow_right (by omega) he32
    simp only [GuestHeap.firstAligned] at h
    generalize hstart : GuestHeap.candidate effectiveAlign b.addr = start at h hpad hcand
    generalize hp : (start - b.addr).setWidth 64 = padding at h hpad
    have hsum : (padding + alignedSize).toNat = padding.toNat + alignedSize.toNat := by
      rw [BitVec.toNat_add]
      omega
    by_cases hroom : b.size ≥ padding + alignedSize
    · rw [if_pos hroom] at h
      have hroomNat : padding.toNat + alignedSize.toNat ≤ b.size.toNat := by
        rw [← hsum]
        exact hroom
      have hrem : (b.size - (padding + alignedSize)).toNat =
          b.size.toNat - (padding.toNat + alignedSize.toNat) := by
        rw [BitVec.toNat_sub_of_le hroom, hsum]
      have hstartNat : start.toNat = b.addr.toNat + padding.toNat := by omega
      obtain ⟨haddr, hsize⟩ : 2 ^ k ∣ b.addr.toNat ∧ 2 ^ k ∣ b.size.toNat :=
        hfree.aligned _ List.mem_cons_self
      have hpdvd : 2 ^ k ∣ padding.toNat := by
        rw [hpad]
        exact Nat.dvd_sub (Nat.dvd_trans (Nat.pow_dvd_pow 2 hke) dvd_roundUp) haddr
      have hcarve := carve_block hfree hroomNat hpos hpdvd hdvd
      have hkpos := Nat.two_pow_pos k
      by_cases hkeep : b.size - (padding + alignedSize) ≥ alignment
      · -- what lies behind stays free
        have hq : 2 ^ k ≤ b.size.toNat - (padding.toNat + alignedSize.toNat) := by
          rw [← halign, ← hrem]
          exact hkeep
        have hbehind : (start + alignedSize.setWidth 32).toNat =
            b.addr.toNat + padding.toNat + alignedSize.toNat := by
          rw [BitVec.toNat_add, BitVec.toNat_setWidth]
          omega
        rw [← hstartNat, piece_of_pos (Nat.lt_of_lt_of_le hkpos hq), hstartNat, ← hrem, ← hbehind,
          ← hstartNat] at hcarve
        by_cases hfront : padding > 0
        · rw [if_pos hfront, if_pos hkeep] at h
          obtain ⟨rfl, rfl, rfl⟩ : start = addr ∧ alignedSize = size ∧ _ = blocks' := by
            simpa using h
          rw [piece_of_pos hfront] at hcarve
          exact hcarve
        · rw [if_neg hfront, if_pos hkeep] at h
          obtain ⟨rfl, rfl, rfl⟩ : start = addr ∧ alignedSize = size ∧ _ = blocks' := by
            simpa using h
          have hzero : padding.toNat = 0 := Nat.eq_zero_of_not_pos hfront
          have hsame : start = b.addr := BitVec.eq_of_toNat_eq (by omega)
          rw [hzero, piece_zero, List.nil_append, hsame] at hcarve
          rw [hsame]
          exact hcarve
      · have hq : b.size.toNat - (padding.toNat + alignedSize.toNat) < 2 ^ k := by
          rw [← halign, ← hrem]
          exact BitVec.not_le.mp hkeep
        have hzero := Nat.eq_zero_of_dvd_of_lt
          (Nat.dvd_sub hsize (Nat.dvd_add hpdvd hdvd)) hq
        rw [hzero, piece_zero, List.nil_append, ← hstartNat] at hcarve
        by_cases hfront : padding > 0
        · rw [if_pos hfront, if_neg hkeep] at h
          obtain ⟨rfl, rfl, rfl⟩ : start = addr ∧ alignedSize = size ∧ _ = blocks' := by
            simpa using h
          rw [piece_of_pos hfront] at hcarve
          exact hcarve
        · rw [if_neg hfront, if_neg hkeep] at h
          obtain ⟨rfl, rfl, rfl⟩ : start = addr ∧ b.size = size ∧ blocks = blocks' := by
            simpa using h
          have hnone : padding.toNat = 0 := Nat.eq_zero_of_not_pos hfront
          have hall : alignedSize.toNat = b.size.toNat := by omega
          rw [hnone, piece_zero, List.nil_append, hall] at hcarve
          exact hcarve
    · rw [if_neg hroom] at h
      obtain ⟨⟨addr', size', rest⟩, hrest, heq⟩ := Option.map_eq_some_iff.mp h
      obtain ⟨rfl, rfl, rfl⟩ : addr' = addr ∧ size' = size ∧ b :: rest = blocks' := by
        simpa using heq
      exact (ih hfree.tail (fun c hc => hfit c (List.mem_cons_of_mem _ hc)) hrest).cons hfree

end Carving

/-! ### Giving back -/

section GivingBack

variable {fb last : FreeBlock} {blocks : List FreeBlock}

/-- A block inserted is its span inserted in order. -/
theorem map_insertFree :
    (GuestHeap.insertFree fb blocks).map blockSpan =
      (blocks.map blockSpan).orderedInsert Starts (blockSpan fb) := by
  induction blocks with
  | nil => rfl
  | cons b blocks ih =>
    rw [GuestHeap.insertFree, List.map_cons, List.orderedInsert_cons]
    by_cases hlt : b.addr < fb.addr
    · have hnot : ¬ Starts (blockSpan fb) (blockSpan b) := Nat.not_le.mpr hlt
      rw [if_pos hlt, if_neg hnot, List.map_cons, ih]
    · have hle : Starts (blockSpan fb) (blockSpan b) := Nat.le_of_not_lt hlt
      rw [if_neg hlt, if_pos hle, List.map_cons, List.map_cons]

/-- The comparison that `Coalesce` makes at 64 bits. -/
theorem touches_iff {curr : FreeBlock} (hsize : last.size.toNat ≤ 2 ^ 32) :
    last.addr.setWidth 64 + last.size = curr.addr.setWidth 64 ↔
      (blockSpan last).stop = (blockSpan curr).start := by
  have hlast := last.addr.isLt
  have hcurr := curr.addr.isLt
  rw [← BitVec.toNat_inj, BitVec.toNat_add, BitVec.toNat_setWidth, BitVec.toNat_setWidth]
  unfold blockSpan Span.stop
  dsimp only
  omega

/-- Coalescing blocks is merging their spans. -/
theorem map_coalesceFrom (htotal : total ((last :: blocks).map blockSpan) ≤ 2 ^ 32) :
    (GuestHeap.coalesceFrom last blocks).map blockSpan =
      mergeFrom (blockSpan last) (blocks.map blockSpan) := by
  induction blocks generalizing last with
  | nil => rfl
  | cons curr blocks ih =>
    rw [List.map_cons, List.map_cons, total_cons, total_cons] at htotal
    have hlast : last.size.toNat ≤ 2 ^ 32 := Nat.le_trans (Nat.le_add_right _ _) htotal
    have hsum : last.size.toNat + curr.size.toNat + total (blocks.map blockSpan) ≤ 2 ^ 32 := by
      rw [Nat.add_assoc]
      exact htotal
    rw [GuestHeap.coalesceFrom, List.map_cons, mergeFrom]
    by_cases htouch : last.addr.setWidth 64 + last.size = curr.addr.setWidth 64
    · have hgrown : blockSpan { last with size := last.size + curr.size } =
          ⟨(blockSpan last).start, (blockSpan last).size + (blockSpan curr).size⟩ := by
        unfold blockSpan
        rw [BitVec.toNat_add]
        dsimp only
        rw [Nat.mod_eq_of_lt (by omega)]
      rw [if_pos htouch, if_pos ((touches_iff hlast).mp htouch), ih, hgrown]
      rw [List.map_cons, total_cons, hgrown]
      exact hsum
    · rw [if_neg htouch, if_neg (fun h => htouch ((touches_iff hlast).mpr h)), List.map_cons, ih]
      rw [List.map_cons, total_cons]
      exact Nat.le_trans (Nat.le_add_left _ _) htotal

/-- `Free` gives a block back. -/
theorem map_coalesce_insertFree
    (htotal : (blockSpan fb).size + total (blocks.map blockSpan) ≤ 2 ^ 32) :
    (GuestHeap.coalesce (GuestHeap.insertFree fb blocks)).map blockSpan =
      giveBack (blockSpan fb) (blocks.map blockSpan) := by
  have hinsert : total ((GuestHeap.insertFree fb blocks).map blockSpan) ≤ 2 ^ 32 := by
    rw [map_insertFree, total_perm (List.perm_orderedInsert Starts _ _), total_cons]
    exact htotal
  rw [giveBack, ← map_insertFree]
  cases hins : GuestHeap.insertFree fb blocks with
  | nil => rfl
  | cons b rest =>
    rw [hins] at hinsert
    exact map_coalesceFrom hinsert

end GivingBack

end HeapBlocks

end Xblob.Analysis
