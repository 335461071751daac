import Mathlib.Tactic.IntervalCases
import Xblob.Analysis.WideWrites

/-!
# Virtual memory is a byte memory

Over private data pages the virtual memory behaves as one array of bytes.  A
successful write is read back by the matching read, whether or not it crosses a page
or comes around at 2^32; every other address reads as before; and wide reads are made
of byte reads.  The regions behind the pages must grant reading: a region mapped for
writing only takes a byte and refuses to give it back.
-/

set_option autoImplicit false

namespace Xblob.Analysis

open Xblob.Memory Xblob.Memory.VirtualMemory Xblob.Memory.AddressSpace Xblob.Interface
open Xblob.Computation

variable {δ : Type}

/-! ## Reading back -/

/-- A word is put together from its bytes. -/
theorem word16_byteOf (x : U16) : word16 (byteOf x 0) (byteOf x 1) = x := by
  apply BitVec.eq_of_getLsbD_eq
  intro i hi
  simp only [word16, byteOf, BitVec.getLsbD_or, BitVec.getLsbD_setWidth,
    BitVec.getLsbD_shiftLeft, BitVec.getLsbD_and, BitVec.getLsbD_ushiftRight]
  interval_cases i <;> simp

/-- A dword is put together from its bytes. -/
theorem word32_byteOf (x : U32) :
    word32 (byteOf x 0) (byteOf x 1) (byteOf x 2) (byteOf x 3) = x := by
  apply BitVec.eq_of_getLsbD_eq
  intro i hi
  simp only [word32, byteOf, BitVec.getLsbD_or, BitVec.getLsbD_setWidth,
    BitVec.getLsbD_shiftLeft, BitVec.getLsbD_and, BitVec.getLsbD_ushiftRight]
  interval_cases i <;> simp

/-- The index of the last byte a span of `len` bytes sends to the address `k` places
after its first. -/
def lastIndex (len k : ℕ) : ℕ := k + 0x100000000 * ((len - 1 - k) / 0x100000000)

/-- **What a span leaves at each address**, by the distance from its first address. -/
theorem written_eq (bytes : List U8) (v w : GuestAddr) :
    written v bytes w =
      if (w - v).toNat < bytes.length then bytes[lastIndex bytes.length (w - v).toNat]? else none := by
  induction bytes generalizing v with
  | nil => simp [written]
  | cons b bs ih =>
    have hdist : (w - (v + 1)).toNat =
        if (w - v).toNat = 0 then 0xFFFFFFFF else (w - v).toNat - 1 := by
      have hone : (1 : U32).toNat = 1 := rfl
      have hv := v.isLt
      have hw := w.isLt
      rw [BitVec.toNat_sub, BitVec.toNat_sub, BitVec.toNat_add, hone]
      split <;> omega
    have hk := (w - v).isLt
    have hself : w = v ↔ (w - v).toNat = 0 := by
      rw [← BitVec.toNat_inj, BitVec.toNat_sub]
      have hv := v.isLt
      have hw := w.isLt
      omega
    rw [written, ih, List.length_cons]
    by_cases hzero : (w - v).toNat = 0
    · rw [if_pos hzero] at hdist
      rw [hdist, if_pos (hself.mpr hzero), hzero, if_pos (Nat.succ_pos bs.length)]
      by_cases hlong : 0xFFFFFFFF < bs.length
      · -- the span comes around: the later byte is found further on in the list
        have hidx : lastIndex (bs.length + 1) 0 = lastIndex bs.length 0xFFFFFFFF + 1 := by
          unfold lastIndex
          omega
        have hin : lastIndex bs.length 0xFFFFFFFF < bs.length := by
          unfold lastIndex
          omega
        rw [if_pos hlong, hidx, List.getElem?_cons_succ, List.getElem?_eq_getElem hin]
        rfl
      · have hidx : lastIndex (bs.length + 1) 0 = 0 := by
          unfold lastIndex
          omega
        rw [if_neg hlong, hidx]
        rfl
    · rw [if_neg hzero] at hdist
      rw [hdist, if_neg (fun h => hzero (hself.mp h)), Option.or_none]
      by_cases hin : (w - v).toNat - 1 < bs.length
      · have hidx : lastIndex (bs.length + 1) (w - v).toNat =
            lastIndex bs.length ((w - v).toNat - 1) + 1 := by
          unfold lastIndex
          omega
        rw [if_pos hin, if_pos (by omega), hidx, List.getElem?_cons_succ]
      · rw [if_neg hin, if_neg (by omega)]

/-- A byte written is that of the last write to its place. -/
theorem written_inside {bytes : List U8} {v : GuestAddr} {i : ℕ} (hi : i < bytes.length) :
    written v bytes (v + BitVec.ofNat 32 i) =
      some ((bytes[lastIndex bytes.length i]?).getD 0) := by
  have hdist : (v + BitVec.ofNat 32 i - v).toNat = i % 0x100000000 := by
    have hv := v.isLt
    rw [BitVec.toNat_sub, BitVec.toNat_add, BitVec.toNat_ofNat]
    omega
  have hidx : lastIndex bytes.length (i % 0x100000000) = lastIndex bytes.length i := by
    unfold lastIndex
    omega
  have hin : lastIndex bytes.length i < bytes.length := by
    unfold lastIndex
    omega
  rw [written_eq, hdist, if_pos (by omega), hidx, List.getElem?_eq_getElem hin]
  rfl

/-- Outside of the range nothing is written. -/
theorem written_outside {bytes : List U8} {v w : GuestAddr} (h : ¬ InRange v bytes.length w) :
    written v bytes w = none := by
  rw [written_eq, if_neg]
  intro hlt
  refine h ⟨(w - v).toNat, hlt, ?_⟩
  rw [BitVec.ofNat_toNat, BitVec.setWidth_eq]
  bv_omega

/-- One more, then `i` more. -/
theorem add_one_ofNat (v : GuestAddr) (i : ℕ) :
    v + 1 + BitVec.ofNat 32 i = v + BitVec.ofNat 32 (i + 1) := by
  rw [BitVec.ofNat_add]
  bv_omega

/-- Byte reads that all succeed. -/
theorem peeks_ok {vm : VirtualMemory δ} {f : ℕ → U8} {n : ℕ} {v : GuestAddr}
    (h : ∀ i < n, peek vm (v + BitVec.ofNat 32 i) = .ok (f i)) :
    peeks vm v n = .ok ((List.range n).map f) := by
  induction n generalizing v f with
  | zero => rfl
  | succ n ih =>
    have hfirst : peek vm v = .ok (f 0) := by
      have h0 := h 0 (by omega)
      simpa using h0
    have hrest : peeks vm (v + 1) n = .ok ((List.range n).map fun i => f (i + 1)) := by
      refine ih fun i hi => ?_
      rw [add_one_ofNat]
      exact h (i + 1) (by omega)
    rw [peeks, hfirst, hrest, List.range_succ_eq_map, List.map_cons, List.map_map]
    rfl

/-- Byte reads at addresses where two states agree. -/
theorem peeks_congr {vm vm' : VirtualMemory δ} {n : ℕ} {v : GuestAddr}
    (h : ∀ i < n, peek vm' (v + BitVec.ofNat 32 i) = peek vm (v + BitVec.ofNat 32 i)) :
    peeks vm' v n = peeks vm v n := by
  induction n generalizing v with
  | zero => rfl
  | succ n ih =>
    have hfirst : peek vm' v = peek vm v := by
      have h0 := h 0 (by omega)
      simpa using h0
    have hrest : peeks vm' (v + 1) n = peeks vm (v + 1) n := by
      refine ih fun i hi => ?_
      rw [add_one_ofNat]
      exact h (i + 1) (by omega)
    rw [peeks, peeks, hfirst, hrest]

/-- Reads away from the addresses where two states may differ. -/
theorem readsKept_of_peek {vm vm' : VirtualMemory δ} (hf : Flat vm) (hf' : Flat vm')
    {v : GuestAddr} {n : ℕ} (h : ∀ w, ¬ InRange v n w → peek vm' w = peek vm w) :
    ReadsKept vm vm' v n := by
  have hpeek : ∀ {w : GuestAddr} {m : ℕ}, RangesApart v n w m → ∀ i < m,
      peek vm' (w + BitVec.ofNat 32 i) = peek vm (w + BitVec.ofNat 32 i) :=
    fun hapart i hi => h _ fun hin => hapart _ hin ⟨i, hi, rfl⟩
  constructor
  · intro w hapart
    have h0 := hpeek hapart 0 (by decide)
    simp only [BitVec.add_zero] at h0
    rw [(reads_read8 hf'.pages w).outcome_eq, (reads_read8 hf.pages w).outcome_eq, h0]
  · intro w hapart
    have h0 := hpeek hapart 0 (by decide)
    have h1 := hpeek hapart 1 (by decide)
    simp only [BitVec.add_zero] at h0 h1
    rw [(reads_read16 hf'.pages hf'.mapped w).outcome_eq,
      (reads_read16 hf.pages hf.mapped w).outcome_eq]
    simp only [BitVec.ofNat_eq_ofNat, h0, h1]
  · intro w hapart
    have h0 := hpeek hapart 0 (by decide)
    have h1 := hpeek hapart 1 (by decide)
    have h2 := hpeek hapart 2 (by decide)
    have h3 := hpeek hapart 3 (by decide)
    simp only [BitVec.add_zero] at h0 h1 h2 h3
    rw [(reads_read32 hf'.pages hf'.mapped w).outcome_eq,
      (reads_read32 hf.pages hf.mapped w).outcome_eq]
    simp only [BitVec.ofNat_eq_ofNat, h0, h1, h2, h3]
  · intro w m hapart
    rw [(reads_readBytes hf'.pages w m).outcome_eq, (reads_readBytes hf.pages w m).outcome_eq,
      peeks_congr (hpeek hapart)]

/-- **After the byte writes of a span**, its addresses hold its bytes and everything
else reads as before. -/
theorem writeEach_readBack {vm vm₁ vm' : VirtualMemory δ} (hf : Flat vm) (hstill : Still vm vm₁)
    {v : GuestAddr} {bytes : List U8} (h : (writeEach v bytes).run vm₁ = .ok () vm') :
    Flat vm' ∧ ReadsKept vm vm' v bytes.length ∧ ∀ i < bytes.length,
      peek vm' (v + BitVec.ofNat 32 i) = .ok ((bytes[lastIndex bytes.length i]?).getD 0) := by
  obtain ⟨hf', hpeek⟩ := writeEach_spec (hf.still hstill) h
  refine ⟨hf', readsKept_of_peek hf hf' fun w hout => ?_, fun i hi => ?_⟩
  · rw [hpeek w, written_outside hout, hstill.peek]
    rfl
  · rw [hpeek, written_inside hi]
    rfl

/-- **Round trip of virtual memory.**  Over private, readable data pages, a successful
write is read back by the matching read, all reads of other addresses are unchanged,
and 16- and 32-bit reads are the little-endian combination of the byte reads. -/
theorem virtual_roundTrip (vm : VirtualMemory δ) (hpages : DataPages vm)
    (hreadable : Readable vm) (hmapped : WellMapped vm.physicalSpace) (v : GuestAddr) :
    (∀ b vm', (VirtualMemory.write8 v b).run vm = .ok () vm' →
      outcome ((VirtualMemory.read8 v).run vm') = .ok b ∧ ReadsKept vm vm' v 1) ∧
    (∀ x vm', (VirtualMemory.write16 v x).run vm = .ok () vm' →
      outcome ((VirtualMemory.read16 v).run vm') = .ok x ∧ ReadsKept vm vm' v 2) ∧
    (∀ x vm', (VirtualMemory.write32 v x).run vm = .ok () vm' →
      outcome ((VirtualMemory.read32 v).run vm') = .ok x ∧ ReadsKept vm vm' v 4) ∧
    (∀ src vm', (VirtualMemory.writeBytes v src).run vm = .ok () vm' →
      outcome ((VirtualMemory.readBytes v src.length).run vm') = .ok (surviving src) ∧
        ReadsKept vm vm' v src.length) ∧
    (outcome ((VirtualMemory.read16 v).run vm) = do
      let b0 ← outcome ((VirtualMemory.read8 v).run vm)
      let b1 ← outcome ((VirtualMemory.read8 (v + 1)).run vm)
      .ok (word16 b0 b1)) ∧
    (outcome ((VirtualMemory.read32 v).run vm) = do
      let b0 ← outcome ((VirtualMemory.read8 v).run vm)
      let b1 ← outcome ((VirtualMemory.read8 (v + 1)).run vm)
      let b2 ← outcome ((VirtualMemory.read8 (v + 2)).run vm)
      let b3 ← outcome ((VirtualMemory.read8 (v + 3)).run vm)
      .ok (word32 b0 b1 b2 b3)) := by
  have hf : Flat vm := ⟨hpages, hreadable, hmapped⟩
  refine ⟨fun b vm' h => ?_, fun x vm' h => ?_, fun x vm' h => ?_, fun src vm' h => ?_, ?_, ?_⟩
  · have hbytes : (writeEach v [b]).run vm = .ok () vm' := by
      simp only [writeEach, EStateM.run_bind, h]
      rfl
    obtain ⟨hf', hkept, hpeek⟩ := writeEach_readBack hf (.refl vm) hbytes
    have h0 := hpeek 0 (by simp)
    simp [lastIndex] at h0
    rw [(reads_read8 hf'.pages v).outcome_eq]
    exact ⟨h0, hkept⟩
  · obtain ⟨vm₁, hstill, hbytes⟩ := write16_eq_writeEach hpages hmapped h
    obtain ⟨hf', hkept, hpeek⟩ := writeEach_readBack hf hstill hbytes
    have h0 := hpeek 0 (by simp)
    have h1 := hpeek 1 (by simp)
    simp [lastIndex] at h0 h1
    rw [(reads_read16 hf'.pages hf'.mapped v).outcome_eq]
    simp only [BitVec.ofNat_eq_ofNat, h0, h1]
    exact ⟨congrArg Except.ok (word16_byteOf x), hkept⟩
  · obtain ⟨vm₁, hstill, hbytes⟩ := write32_eq_writeEach hpages hmapped h
    obtain ⟨hf', hkept, hpeek⟩ := writeEach_readBack hf hstill hbytes
    have h0 := hpeek 0 (by simp)
    have h1 := hpeek 1 (by simp)
    have h2 := hpeek 2 (by simp)
    have h3 := hpeek 3 (by simp)
    simp [lastIndex] at h0 h1 h2 h3
    rw [(reads_read32 hf'.pages hf'.mapped v).outcome_eq]
    simp only [BitVec.ofNat_eq_ofNat, h0, h1, h2, h3]
    exact ⟨congrArg Except.ok (word32_byteOf x), hkept⟩
  · rw [writeBytes_eq_splitWrite] at h
    obtain ⟨vm₁, hstill, hbytes⟩ := splitWrite_eq_writeEach hpages h
    obtain ⟨hf', hkept, hpeek⟩ := writeEach_readBack hf hstill hbytes
    rw [(reads_readBytes hf'.pages v src.length).outcome_eq, peeks_ok hpeek]
    exact ⟨rfl, hkept⟩
  · simp only [(reads_read16 hpages hmapped v).outcome_eq,
      fun a => (reads_read8 hpages a).outcome_eq]
  · simp only [(reads_read32 hpages hmapped v).outcome_eq,
      fun a => (reads_read8 hpages a).outcome_eq]

/-! ## Two configurations -/

/-- A retail bank at address zero, seen without paging. -/
def unpagedMemory (perms : MemoryPermission) : VirtualMemory Unit where
  physicalSpace :=
    { regions := [⟨0, 0x4000000, perms, .ram 0 0⟩]
      rams := fun _ => ⟨kRamSizeRetail, fun _ => 0⟩
      devices := () }

/-- The region of an address in the example space. -/
theorem regionAt_bank (space : AddressSpace Unit) (perms : MemoryPermission)
    (hs : space.regions = [⟨0, 0x4000000, perms, .ram 0 0⟩]) (addr : GuestAddr) :
    regionAt space addr =
      if addr.toNat < 0x4000000 then some ⟨0, 0x4000000, perms, .ram 0 0⟩ else none := by
  have hbase : (0 : U32).toNat = 0 := rfl
  have hsize : (0x4000000 : U32).toNat = 0x4000000 := rfl
  unfold regionAt
  rw [hs, List.find?_singleton]
  simp only [Region.end, hbase, hsize]
  by_cases h : addr.toNat < 0x4000000
  · simp [h]
  · simp [h]

/-- Every page of the example space lies in one region or none. -/
theorem pageInRegion_bank (space : AddressSpace Unit) (perms : MemoryPermission)
    (hs : space.regions = [⟨0, 0x4000000, perms, .ram 0 0⟩]) (addr : GuestAddr) :
    PageInRegion space addr := by
  by_cases h : addr.toNat < 0x4000000
  · refine .inl ⟨⟨0, 0x4000000, perms, .ram 0 0⟩, rfl, fun q hq => ?_⟩
    rw [page_eq_iff] at hq
    rw [regionAt_bank space perms hs, if_pos (by omega)]
  · refine .inr fun q hq => ?_
    rw [page_eq_iff] at hq
    rw [regionAt_bank space perms hs, if_neg (by omega)]

/-- The cell of an address in the example space. -/
theorem cellAt_bank (space : AddressSpace Unit) (perms : MemoryPermission)
    (hs : space.regions = [⟨0, 0x4000000, perms, .ram 0 0⟩]) {addr : GuestAddr} {c : Cell}
    (h : cellAt space addr = some c) : c = (0, addr.toNat) := by
  unfold cellAt at h
  rw [regionAt_bank space perms hs] at h
  by_cases hlt : addr.toNat < 0x4000000
  · rw [if_pos hlt] at h
    simp only [Option.some.injEq] at h
    rw [← h]
    simp [ramPos]
  · rw [if_neg hlt] at h
    cases h

/-- Without paging the pages of the example are data pages. -/
theorem dataPages_unpaged (perms : MemoryPermission) : DataPages (unpagedMemory perms) := by
  have hoff : testBits 0 kCr0Paging = false := by decide
  constructor
  · intro v addr haddr
    exact pageInRegion_bank _ _ rfl addr
  · intro v w c hv hw
    have hcell : ∀ a : GuestAddr, dataCell (unpagedMemory perms) a = some c →
        c = (0, a.toNat) := by
      intro a ha
      unfold dataCell dataAddr at ha
      simp only [show (unpagedMemory perms).cr0 = 0 from rfl, hoff, Bool.false_eq_true, if_false,
        Option.bind_some] at ha
      exact cellAt_bank _ perms rfl ha
    have hcv := hcell v hv
    have hcw := hcell w hw
    have hnat : v.toNat = w.toNat := congrArg Prod.snd (hcv.symm.trans hcw)
    rw [BitVec.eq_of_toNat_eq hnat]
  · intro hpg
    exact absurd (hoff.symm.trans hpg) (by decide)
  · intro hpg
    exact absurd (hoff.symm.trans hpg) (by decide)

/-- The example space is well mapped. -/
theorem wellMapped_bank (space : AddressSpace Unit) (perms : MemoryPermission)
    (hs : space.regions = [⟨0, 0x4000000, perms, .ram 0 0⟩])
    (hb : (space.rams 0).size = kRamSizeRetail) : WellMapped space := by
  intro reg hreg ram off htype
  rw [hs, List.mem_singleton] at hreg
  subst hreg
  cases htype
  rw [hb]
  show 0 + (0x4000000 : U32).toNat ≤ kRamSizeRetail
  decide

/-- Over a RAM region that grants writing only, a byte is written and cannot be read. -/
theorem write_only_region_not_read_back :
    ¬ ∀ (vm : VirtualMemory Unit), DataPages vm → WellMapped vm.physicalSpace →
      ∀ v b vm', (VirtualMemory.write8 v b).run vm = .ok () vm' →
        outcome ((VirtualMemory.read8 v).run vm') = .ok b := by
  intro hall
  have hw : outcome ((VirtualMemory.write8 0x100 0x5A).run (unpagedMemory .write)) =
      .ok () := by rfl
  have hr := hall (unpagedMemory .write) (dataPages_unpaged .write)
    (wellMapped_bank _ _ rfl rfl) 0x100 0x5A _ (eq_ok_of_outcome hw)
  have hrefused : outcome ((VirtualMemory.read8 0x100).run
      (stateAfter ((VirtualMemory.write8 0x100 0x5A).run (unpagedMemory .write)))) =
      .error { code := .accessViolation, message := "Violação de permissão de acesso à memória"
               offset := 0x100 } := by rfl
  rw [hrefused] at hr
  cases hr

/-- The bank of `pagedSpace` with paging on, through the tables there. -/
def pagedMemory : VirtualMemory Unit where
  physicalSpace := pagedSpace
  cr0 := 0x80000000
  cr3 := 0x1000

/-- A dword of the bank. -/
theorem read32_pagedSpace {addr : GuestAddr} (h : addr.toNat + 4 ≤ 0x4000000) :
    (AddressSpace.read32 addr).run pagedSpace =
      let data := (pagedSpace.rams 0).data
      .ok (word32 (data addr.toNat) (data (addr.toNat + 1)) (data (addr.toNat + 2))
        (data (addr.toNat + 3))) pagedSpace := by
  have hres : pagedSpace.resolveRegion addr 4 .read = .ok ⟨0, 0x4000000, .all, .ram 0 0⟩ := by
    have hfour : (4 : U32).toNat = 4 := rfl
    have hbase : (0 : U32).toNat = 0 := rfl
    have hsize : (0x4000000 : U32).toNat = 0x4000000 := rfl
    unfold resolveRegion
    rw [if_neg (by decide), if_neg (by rw [hfour]; omega), resolveIn_eq,
      show (pagedSpace.regions.find? _) = _ from regionAt_bank pagedSpace .all rfl addr,
      if_pos (by omega)]
    have hrange : (⟨0, 0x4000000, .all, .ram 0 0⟩ : Region Unit).containsRange addr 4 = true := by
      simp only [Region.containsRange, Region.end, hfour, hbase, hsize, Bool.and_eq_true,
        decide_eq_true_eq]
      omega
    simp only [hrange]
    rfl
  unfold AddressSpace.read32
  simp only [EStateM.run_bind, EStateM.run_get, run_ofExcept, hres]
  simp [ramPos]

/-- The address of a directory entry, as a number. -/
theorem toNat_pdeAddr (v : GuestAddr) :
    (pdeAddr 0x1000 v).toNat = 0x1000 + 4 * (v.toNat / 0x400000) := by
  have hv := v.isLt
  have hindex : ((v >>> 22) &&& 0x3FF).toNat = v.toNat / 0x400000 := by
    rw [BitVec.toNat_and, show (0x3FF : U32).toNat = 2 ^ 10 - 1 from rfl,
      Nat.and_two_pow_sub_one_eq_mod, BitVec.toNat_ushiftRight, Nat.shiftRight_eq_div_pow]
    omega
  have hbase : ((0x1000 : U32) &&& kPageBaseMask).toNat = 0x1000 := by decide
  have hfour : (4 : U32).toNat = 4 := rfl
  rw [pdeAddr, BitVec.toNat_add, BitVec.toNat_mul, hindex, hbase, hfour]
  omega

/-- The address of a table entry, as a number. -/
theorem toNat_pteAddr (v : GuestAddr) :
    (pteAddr 0x2003 v).toNat = 0x2000 + 4 * (v.toNat / 4096 % 1024) := by
  have hindex : ((v >>> 12) &&& 0x3FF).toNat = v.toNat / 4096 % 1024 := by
    rw [BitVec.toNat_and, show (0x3FF : U32).toNat = 2 ^ 10 - 1 from rfl,
      Nat.and_two_pow_sub_one_eq_mod, toNat_page]
  have hbase : ((0x2003 : U32) &&& kPageBaseMask).toNat = 0x2000 := by decide
  have hfour : (4 : U32).toNat = 4 := rfl
  rw [pteAddr, BitVec.toNat_add, BitVec.toNat_mul, hindex, hbase, hfour]
  omega

/-- The bytes of `pagedSpace` other than the two table entries are zero. -/
theorem data_pagedSpace {offset : ℕ} (h1 : offset ≠ 0x1000) (h2 : offset ≠ 0x1001)
    (h3 : offset ≠ 0x200C) (h4 : offset ≠ 0x200D) : (pagedSpace.rams 0).data offset = 0 := by
  simp [pagedSpace, h1, h2, h3, h4]

/-- The directory entries of the example. -/
theorem pde_pagedSpace (v : GuestAddr) :
    (AddressSpace.read32 (pdeAddr 0x1000 v)).run pagedSpace =
      .ok (if v.toNat / 0x400000 = 0 then 0x2003 else 0) pagedSpace := by
  have hv := v.isLt
  have haddr := toNat_pdeAddr v
  rw [read32_pagedSpace (by omega), haddr]
  dsimp only
  by_cases hk : v.toNat / 0x400000 = 0
  · rw [hk]
    rfl
  · rw [if_neg hk, data_pagedSpace (by omega) (by omega) (by omega) (by omega),
      data_pagedSpace (by omega) (by omega) (by omega) (by omega),
      data_pagedSpace (by omega) (by omega) (by omega) (by omega),
      data_pagedSpace (by omega) (by omega) (by omega) (by omega)]
    rfl

/-- The table entries of the example. -/
theorem pte_pagedSpace (v : GuestAddr) :
    (AddressSpace.read32 (pteAddr 0x2003 v)).run pagedSpace =
      .ok (if v.toNat / 4096 % 1024 = 3 then 0x5001 else 0) pagedSpace := by
  have haddr := toNat_pteAddr v
  rw [read32_pagedSpace (by omega), haddr]
  dsimp only
  by_cases hk : v.toNat / 4096 % 1024 = 3
  · rw [hk]
    rfl
  · rw [if_neg hk, data_pagedSpace (by omega) (by omega) (by omega) (by omega),
      data_pagedSpace (by omega) (by omega) (by omega) (by omega),
      data_pagedSpace (by omega) (by omega) (by omega) (by omega),
      data_pagedSpace (by omega) (by omega) (by omega) (by omega)]
    rfl

/-- Page 3 is the only mapped page; its frame is page 5. -/
theorem dataAddr_pagedMemory {v addr : GuestAddr} (h : dataAddr pagedMemory v = some addr) :
    v.toNat / 4096 = 3 ∧ addr.toNat = 0x5000 + v.toNat % 4096 := by
  have hv := v.isLt
  have hon : testBits pagedMemory.cr0 kCr0Paging = true := by decide
  unfold dataAddr at h
  rw [if_pos hon] at h
  cases he : pageEntry pagedMemory (v >>> 12) with
  | none => rw [he] at h; cases h
  | some entry =>
    rw [he] at h
    cases h
    rw [← currentEntry_ok_iff pagedMemory v .read] at he
    have hlook : lookupTables pagedSpace (regsOf pagedMemory) v .read = .ok entry := he
    unfold lookupTables readTables at hlook
    rw [show (regsOf pagedMemory).cr3 = 0x1000 from rfl, pde_pagedSpace] at hlook
    by_cases hk : v.toNat / 0x400000 = 0
    · rw [if_pos hk] at hlook
      dsimp only at hlook
      rw [if_neg (by decide), pte_pagedSpace] at hlook
      by_cases hp : v.toNat / 4096 % 1024 = 3
      · rw [if_pos hp] at hlook
        dsimp only at hlook
        rw [if_neg (by decide)] at hlook
        cases hlook
        refine ⟨by omega, ?_⟩
        rw [toNat_frameAddr]
        rfl
      · rw [if_neg hp] at hlook
        dsimp only at hlook
        rw [if_pos (by decide)] at hlook
        cases hlook
    · rw [if_neg hk] at hlook
      dsimp only at hlook
      rw [if_pos (by decide)] at hlook
      cases hlook

/-- With paging the pages of the example are data pages. -/
theorem dataPages_paged : DataPages pagedMemory := by
  have hcell : ∀ (a : GuestAddr) c, dataCell pagedMemory a = some c →
      a.toNat / 4096 = 3 ∧ c = (0, 0x5000 + a.toNat % 4096) := by
    intro a c hc
    obtain ⟨addr, haddr, hcell⟩ := Option.bind_eq_some_iff.mp hc
    obtain ⟨hpage, hnat⟩ := dataAddr_pagedMemory haddr
    refine ⟨hpage, ?_⟩
    rw [cellAt_bank pagedSpace .all rfl hcell, hnat]
  have hram : pagedSpace.RamOnly := by
    intro r hr
    simp only [pagedSpace, List.mem_singleton] at hr
    rw [hr]
    rfl
  constructor
  · intro v addr _
    exact pageInRegion_bank _ _ rfl addr
  · intro v w c hv hw
    obtain ⟨hv3, -⟩ := hcell v c hv
    obtain ⟨hw3, -⟩ := hcell w c hw
    rw [page_eq_iff, hv3, hw3]
  · intro _ addr _
    exact hram.noDevice addr 4 .read
  · intro _ addr haddr c hc v hv
    obtain ⟨-, hcv⟩ := hcell v c hv
    have hrange : addr.toNat + 3 < 0x5000 := by
      obtain ⟨w⟩ | ⟨w, pde, hpde, hp⟩ := haddr
      · have hw := w.isLt
        have hnat := toNat_pdeAddr w
        rw [show pagedMemory.cr3 = 0x1000 from rfl]
        omega
      · rw [show pagedMemory.cr3 = 0x1000 from rfl,
          show pagedMemory.physicalSpace = pagedSpace from rfl, pde_pagedSpace] at hpde
        by_cases hk : w.toNat / 0x400000 = 0
        · rw [if_pos hk] at hpde
          cases hpde
          have hnat := toNat_pteAddr w
          omega
        · rw [if_neg hk] at hpde
          cases hpde
          exact absurd hp (by decide)
    obtain ⟨reg, ram, off, hres, htype, i, hi, rfl⟩ := hc
    have hreg := (resolveRegion_ok hres).1
    have hone : reg = ⟨0, 0x4000000, .all, .ram 0 0⟩ := List.mem_singleton.mp hreg
    subst hone
    cases htype
    have hpos := congrArg Prod.snd hcv
    simp only [ramPos] at hpos
    have hbase : (0 : U32).toNat = 0 := rfl
    omega

/-- The round trip through the tables: a dword written to page 3 is read back. -/
theorem virtual_roundTrip_paged :
    ∃ vm', (VirtualMemory.write32 0x3ABC 0xCAFEBABE).run pagedMemory = .ok () vm' ∧
      outcome ((VirtualMemory.read32 0x3ABC).run vm') = .ok 0xCAFEBABE ∧
      ReadsKept pagedMemory vm' 0x3ABC 4 := by
  have hw : outcome ((VirtualMemory.write32 0x3ABC 0xCAFEBABE).run pagedMemory) =
      .ok () := by rfl
  have hreadable : Readable pagedMemory := by
    intro v addr reg _ hreg
    have hmem : reg ∈ pagedSpace.regions := List.mem_of_find?_eq_some hreg
    rw [List.mem_singleton.mp hmem]
    rfl
  refine ⟨_, eq_ok_of_outcome hw, ?_⟩
  exact (virtual_roundTrip pagedMemory dataPages_paged hreadable (wellMapped_bank _ _ rfl rfl)
    0x3ABC).2.2.1 _ _ (eq_ok_of_outcome hw)

end Xblob.Analysis
