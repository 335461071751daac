import Mathlib.Data.Nat.Bitwise
import Xblob.Interface.DataPages
import Xblob.Analysis.PhysicalAccess

/-!
# Physical accesses inside one page

An access that stays inside a page whose addresses all belong to one RAM region
resolves to that region for any width; in a page without a region it fails as
unmapped for any width.  Either way the outcome of a wide access is decided by its
first byte, which is what makes wide accesses and byte accesses agree.
-/

set_option autoImplicit false

namespace Xblob.Analysis

open Xblob.Memory Xblob.Memory.AddressSpace Xblob.Interface Xblob.Computation

variable {δ : Type}

/-! ## Page arithmetic -/

/-- The offset in a page, as a number. -/
theorem toNat_pageOffset (v : GuestAddr) : (v &&& 0xFFF).toNat = v.toNat % 4096 := by
  rw [BitVec.toNat_and]
  exact Nat.and_two_pow_sub_one_eq_mod v.toNat 12

/-- The page of an address, as a number. -/
theorem toNat_page (v : GuestAddr) : (v >>> 12).toNat = v.toNat / 4096 := by
  rw [BitVec.toNat_ushiftRight, Nat.shiftRight_eq_div_pow]

/-- Two addresses share a page, in numbers. -/
theorem page_eq_iff (v w : GuestAddr) : v >>> 12 = w >>> 12 ↔ v.toNat / 4096 = w.toNat / 4096 := by
  rw [← BitVec.toNat_inj, toNat_page, toNat_page]

/-- A frame starts at a multiple of the page size. -/
theorem toNat_frame (entry : TlbEntry) : (entry.physicalPage <<< 12).toNat % 4096 = 0 := by
  rw [BitVec.toNat_shiftLeft, Nat.shiftLeft_eq]
  omega

/-- The frame of an entry and the page offset of an address add up. -/
theorem toNat_frameAddr (entry : TlbEntry) (v : GuestAddr) :
    (frameAddr entry v).toNat = (entry.physicalPage <<< 12).toNat + v.toNat % 4096 := by
  have hframe := toNat_frame entry
  have hlow : v.toNat % 4096 < 2 ^ 12 := Nat.mod_lt _ (by decide)
  have hsplit : (entry.physicalPage <<< 12).toNat =
      ((entry.physicalPage <<< 12).toNat / 4096) <<< 12 := by
    rw [Nat.shiftLeft_eq]
    omega
  rw [frameAddr, BitVec.toNat_or, toNat_pageOffset, hsplit,
    Nat.shiftLeft_add_eq_or_of_lt hlow]

/-- Moving inside a page does not wrap. -/
theorem toNat_add_of_inPage {v : GuestAddr} {i : ℕ} (h : v.toNat % 4096 + i < 4096) :
    (v + BitVec.ofNat 32 i).toNat = v.toNat + i := by
  have hv := v.isLt
  rw [BitVec.toNat_add, BitVec.toNat_ofNat]
  omega

/-- Inside a page the frame address moves with the virtual address. -/
theorem frameAddr_add (entry : TlbEntry) {v : GuestAddr} {i : ℕ}
    (h : v.toNat % 4096 + i < 4096) :
    frameAddr entry (v + BitVec.ofNat 32 i) = frameAddr entry v + BitVec.ofNat 32 i := by
  have hframe := toNat_frame entry
  have hoff : (frameAddr entry v).toNat % 4096 + i < 4096 := by
    rw [toNat_frameAddr]
    omega
  apply BitVec.eq_of_toNat_eq
  rw [toNat_add_of_inPage hoff, toNat_frameAddr, toNat_frameAddr, toNat_add_of_inPage h]
  omega

/-- Moving inside a page stays on it. -/
theorem page_add {v : GuestAddr} {i : ℕ} (h : v.toNat % 4096 + i < 4096) :
    (v + BitVec.ofNat 32 i) >>> 12 = v >>> 12 := by
  rw [page_eq_iff, toNat_add_of_inPage h]
  omega

/-- Addresses of one page have frame addresses in one page. -/
theorem frameAddr_page (entry : TlbEntry) {v w : GuestAddr} :
    frameAddr entry v >>> 12 = frameAddr entry w >>> 12 := by
  have hframe := toNat_frame entry
  rw [page_eq_iff, toNat_frameAddr, toNat_frameAddr]
  omega

/-- Two addresses of one page with the same frame address are the same. -/
theorem frameAddr_inj (entry : TlbEntry) {v w : GuestAddr} (hpage : v >>> 12 = w >>> 12)
    (h : frameAddr entry v = frameAddr entry w) : v = w := by
  have hnat := congrArg BitVec.toNat h
  rw [toNat_frameAddr, toNat_frameAddr] at hnat
  rw [page_eq_iff] at hpage
  apply BitVec.eq_of_toNat_eq
  omega

/-! ## Resolution by page -/

/-- Resolution looks at the first region that holds the address. -/
theorem resolveIn_eq (addr : GuestAddr) (len : GuestSize) (perm : MemoryPermission)
    (regions : List (Region δ)) :
    resolveIn addr len perm regions =
      match regions.find? fun r => r.base.toNat ≤ addr.toNat ∧ addr.toNat < r.end with
      | none => .error { code := .unmappedAddress, message := "Endereço não mapeado"
                         offset := addr.setWidth 64 }
      | some r =>
        if !r.containsRange addr len then
          .error { code := .outOfBounds, message := "Acesso cruza o limite da região de memória"
                   offset := addr.setWidth 64 }
        else if !hasPermission r.permissions perm then
          .error { code := .accessViolation
                   message := "Violação de permissão de acesso à memória"
                   offset := addr.setWidth 64 }
        else
          .ok r := by
  induction regions with
  | nil => rfl
  | cons r rs ih =>
    unfold resolveIn
    by_cases h : r.base.toNat ≤ addr.toNat ∧ addr.toNat < r.end
    · rw [if_pos h, List.find?_cons_of_pos (by simpa using h)]
    · rw [if_neg h, List.find?_cons_of_neg (by simpa using h), ih]

/-- The error of an access to a page without a region. -/
def unmapped (addr : GuestAddr) : Error :=
  { code := .unmappedAddress, message := "Endereço não mapeado", offset := addr.setWidth 64 }

/-- The error of an access a region does not grant. -/
def notGranted (addr : GuestAddr) : Error :=
  { code := .accessViolation, message := "Violação de permissão de acesso à memória"
    offset := addr.setWidth 64 }

/-- In a page inside one region, an access that stays in the page resolves to that
region or is not granted. -/
theorem resolveRegion_inPage {space : AddressSpace δ} {addr : GuestAddr} {reg : Region δ}
    (hpage : ∀ q : GuestAddr, q >>> 12 = addr >>> 12 → regionAt space q = some reg) {n : ℕ} (hn : 0 < n)
    (hin : addr.toNat % 4096 + n ≤ 4096) (perm : MemoryPermission) :
    space.resolveRegion addr (BitVec.ofNat 32 n) perm =
      if hasPermission reg.permissions perm then .ok reg else .error (notGranted addr) := by
  have haddr := addr.isLt
  have hlen : (BitVec.ofNat 32 n).toNat = n := by
    rw [BitVec.toNat_ofNat]
    omega
  have hzero : ¬ BitVec.ofNat 32 n = 0 := by
    intro h
    have := congrArg BitVec.toNat h
    rw [hlen] at this
    exact absurd this (by simp; omega)
  have hhere := hpage addr rfl
  have hlast := hpage (addr + BitVec.ofNat 32 (n - 1)) (page_add (by omega))
  unfold regionAt at hhere hlast
  have hbase := List.find?_some hhere
  have hend := List.find?_some hlast
  simp only [decide_eq_true_eq] at hbase hend
  rw [toNat_add_of_inPage (by omega)] at hend
  have hrange : reg.containsRange addr (BitVec.ofNat 32 n) = true := by
    simp only [Region.containsRange, hlen, Bool.and_eq_true, decide_eq_true_eq]
    omega
  unfold resolveRegion
  rw [if_neg hzero, if_neg (by rw [hlen]; omega), resolveIn_eq, hhere]
  by_cases hperm : hasPermission reg.permissions perm
  · simp [hrange, hperm]
  · simp [hrange, hperm, notGranted]

/-- In a page without a region, an access is to an unmapped address. -/
theorem resolveRegion_unmapped {space : AddressSpace δ} {addr : GuestAddr}
    (hpage : ∀ q : GuestAddr, q >>> 12 = addr >>> 12 → regionAt space q = none) {n : ℕ} (hn : 0 < n)
    (hin : addr.toNat % 4096 + n ≤ 4096) (perm : MemoryPermission) :
    space.resolveRegion addr (BitVec.ofNat 32 n) perm = .error (unmapped addr) := by
  have haddr := addr.isLt
  have hlen : (BitVec.ofNat 32 n).toNat = n := by
    rw [BitVec.toNat_ofNat]
    omega
  have hzero : ¬ BitVec.ofNat 32 n = 0 := by
    intro h
    have := congrArg BitVec.toNat h
    rw [hlen] at this
    exact absurd this (by simp; omega)
  have hhere := hpage addr rfl
  unfold regionAt at hhere
  unfold resolveRegion
  rw [if_neg hzero, if_neg (by rw [hlen]; omega), resolveIn_eq, hhere]
  rfl

/-! ## Mapping -/

/-- A region inserted joins the others. -/
theorem mem_insertSorted {reg r : Region δ} {regions : List (Region δ)}
    (h : r ∈ insertSorted reg regions) : r = reg ∨ r ∈ regions := by
  induction regions with
  | nil => exact .inl (List.mem_singleton.mp h)
  | cons r' rs ih =>
    unfold insertSorted at h
    split at h
    · exact List.mem_cons.mp h
    · obtain rfl | hmem := List.mem_cons.mp h
      · exact .inr List.mem_cons_self
      · exact (ih hmem).imp_right (List.mem_cons_of_mem _)

/-! ## Physical accesses in one page -/

/-- A RAM region that holds the whole page of an address, as a bank and an offset. -/
structure RamPage (space : AddressSpace δ) (addr : GuestAddr) (reg : Region δ)
    (ram ramOffset : ℕ) : Prop where
  type : reg.type = .ram ram ramOffset
  page : ∀ q : GuestAddr, q >>> 12 = addr >>> 12 → regionAt space q = some reg
  bank : ramOffset + reg.size.toNat ≤ (space.rams ram).size

/-- The page of a data address is a RAM page or is in no region. -/
theorem ramPage_or_unmapped {space : AddressSpace δ} {addr : GuestAddr}
    (hmap : WellMapped space) (h : PageInRegion space addr) :
    (∃ reg ram off, RamPage space addr reg ram off) ∨
      ∀ q : GuestAddr, q >>> 12 = addr >>> 12 → regionAt space q = none := by
  obtain ⟨reg, hram, hpage⟩ | hnone := h
  · left
    cases ht : reg.type with
    | ram ram off =>
      have hmem : reg ∈ space.regions := List.mem_of_find?_eq_some (hpage addr rfl)
      exact ⟨reg, ram, off, ht, hpage, hmap reg hmem ram off ht⟩
    | mmio handler => simp [Region.isRam, ht] at hram
  · exact .inr hnone

section RamPage

variable {space : AddressSpace δ} {addr : GuestAddr} {reg : Region δ} {ram off : ℕ}

/-- The address lies in the region of its page. -/
theorem RamPage.bounds (h : RamPage space addr reg ram off) :
    reg.base.toNat ≤ addr.toNat ∧ addr.toNat < reg.base.toNat + reg.size.toNat := by
  have hfound := List.find?_some (h.page addr rfl)
  exact of_decide_eq_true hfound

/-- The place of the address lies in the bank. -/
theorem RamPage.pos_lt (h : RamPage space addr reg ram off) :
    ramPos reg off addr < (space.rams ram).size := by
  have hb := h.bounds
  have hbank := h.bank
  unfold ramPos
  omega

/-- The page is the same for an address further on it. -/
theorem RamPage.move (h : RamPage space addr reg ram off) {i : ℕ}
    (hi : addr.toNat % 4096 + i < 4096) :
    RamPage space (addr + BitVec.ofNat 32 i) reg ram off :=
  ⟨h.type, fun q hq => h.page q (hq.trans (page_add hi)), h.bank⟩

/-- Moving inside a page moves the place in the bank. -/
theorem RamPage.pos_add (h : RamPage space addr reg ram off) {i : ℕ}
    (hi : addr.toNat % 4096 + i < 4096) :
    ramPos reg off (addr + BitVec.ofNat 32 i) = ramPos reg off addr + i := by
  have hb := h.bounds
  unfold ramPos
  rw [toNat_add_of_inPage hi]
  omega

/-- A byte read on a RAM page. -/
theorem RamPage.read8 (h : RamPage space addr reg ram off) :
    (AddressSpace.read8 addr).run space =
      if hasPermission reg.permissions .read then
        .ok ((space.rams ram).data (ramPos reg off addr)) space
      else .error (notGranted addr) space := by
  have hres := resolveRegion_inPage h.page (n := 1) (by omega) (by omega) .read
  have hlt := h.pos_lt
  unfold AddressSpace.read8
  simp only [EStateM.run_bind, EStateM.run_get, run_ofExcept]
  rw [show (1 : GuestSize) = BitVec.ofNat 32 1 from rfl, hres]
  by_cases hp : hasPermission reg.permissions .read
  · simp [hp, h.type, Ram.read8, Nat.not_le.mpr hlt]
  · simp [hp]

/-- A word read inside a RAM page. -/
theorem RamPage.read16 (h : RamPage space addr reg ram off) (hin : addr.toNat % 4096 + 2 ≤ 4096) :
    (AddressSpace.read16 addr).run space =
      if hasPermission reg.permissions .read then
        .ok (word16 ((space.rams ram).data (ramPos reg off addr))
          ((space.rams ram).data (ramPos reg off addr + 1))) space
      else .error (notGranted addr) space := by
  have hres := resolveRegion_inPage h.page (n := 2) (by omega) hin .read
  unfold AddressSpace.read16
  simp only [EStateM.run_bind, EStateM.run_get, run_ofExcept]
  rw [show (2 : GuestSize) = BitVec.ofNat 32 2 from rfl, hres]
  by_cases hp : hasPermission reg.permissions .read
  · simp [hp, h.type]
  · simp [hp]

/-- A dword read inside a RAM page. -/
theorem RamPage.read32 (h : RamPage space addr reg ram off) (hin : addr.toNat % 4096 + 4 ≤ 4096) :
    (AddressSpace.read32 addr).run space =
      if hasPermission reg.permissions .read then
        .ok (word32 ((space.rams ram).data (ramPos reg off addr))
          ((space.rams ram).data (ramPos reg off addr + 1))
          ((space.rams ram).data (ramPos reg off addr + 2))
          ((space.rams ram).data (ramPos reg off addr + 3))) space
      else .error (notGranted addr) space := by
  have hres := resolveRegion_inPage h.page (n := 4) (by omega) hin .read
  unfold AddressSpace.read32
  simp only [EStateM.run_bind, EStateM.run_get, run_ofExcept]
  rw [show (4 : GuestSize) = BitVec.ofNat 32 4 from rfl, hres]
  by_cases hp : hasPermission reg.permissions .read
  · simp [hp, h.type]
  · simp [hp]

/-- A byte write on a RAM page. -/
theorem RamPage.write8 (h : RamPage space addr reg ram off) (b : U8) :
    (AddressSpace.write8 addr b).run space =
      if hasPermission reg.permissions .write then
        .ok () (space.setRam ram ((space.rams ram).poke (ramPos reg off addr) b))
      else .error (notGranted addr) space := by
  have hres := resolveRegion_inPage h.page (n := 1) (by omega) (by omega) .write
  have hlt := h.pos_lt
  unfold AddressSpace.write8
  simp only [EStateM.run_bind, EStateM.run_get, run_ofExcept]
  rw [show (1 : GuestSize) = BitVec.ofNat 32 1 from rfl, hres]
  by_cases hp : hasPermission reg.permissions .write
  · simp [hp, h.type, Nat.not_le.mpr hlt]
  · simp [hp]

/-- A word write inside a RAM page. -/
theorem RamPage.write16 (h : RamPage space addr reg ram off) (v : U16)
    (hin : addr.toNat % 4096 + 2 ≤ 4096) :
    (AddressSpace.write16 addr v).run space =
      if hasPermission reg.permissions .write then
        .ok () (space.setRam ram ((space.rams ram).pokeBytes (ramPos reg off addr)
          [byteOf v 0, byteOf v 1]))
      else .error (notGranted addr) space := by
  have hres := resolveRegion_inPage h.page (n := 2) (by omega) hin .write
  unfold AddressSpace.write16
  simp only [EStateM.run_bind, EStateM.run_get, run_ofExcept]
  rw [show (2 : GuestSize) = BitVec.ofNat 32 2 from rfl, hres]
  by_cases hp : hasPermission reg.permissions .write
  · simp [hp, h.type]
  · simp [hp]

/-- A dword write inside a RAM page. -/
theorem RamPage.write32 (h : RamPage space addr reg ram off) (v : U32)
    (hin : addr.toNat % 4096 + 4 ≤ 4096) :
    (AddressSpace.write32 addr v).run space =
      if hasPermission reg.permissions .write then
        .ok () (space.setRam ram ((space.rams ram).pokeBytes (ramPos reg off addr)
          [byteOf v 0, byteOf v 1, byteOf v 2, byteOf v 3]))
      else .error (notGranted addr) space := by
  have hres := resolveRegion_inPage h.page (n := 4) (by omega) hin .write
  unfold AddressSpace.write32
  simp only [EStateM.run_bind, EStateM.run_get, run_ofExcept]
  rw [show (4 : GuestSize) = BitVec.ofNat 32 4 from rfl, hres]
  by_cases hp : hasPermission reg.permissions .write
  · simp [hp, h.type]
  · simp [hp]

end RamPage

section Unmapped

variable {space : AddressSpace δ} {addr : GuestAddr}
  (h : ∀ q : GuestAddr, q >>> 12 = addr >>> 12 → regionAt space q = none)

include h

/-- A byte read where nothing is mapped is refused. -/
theorem read8_unmapped : (AddressSpace.read8 addr).run space = .error (unmapped addr) space := by
  have hres := resolveRegion_unmapped h (n := 1) (by omega) (by omega) .read
  unfold AddressSpace.read8
  simp only [EStateM.run_bind, EStateM.run_get, run_ofExcept]
  rw [show (1 : GuestSize) = BitVec.ofNat 32 1 from rfl, hres]

/-- A word read where nothing is mapped is refused. -/
theorem read16_unmapped (hin : addr.toNat % 4096 + 2 ≤ 4096) :
    (AddressSpace.read16 addr).run space = .error (unmapped addr) space := by
  have hres := resolveRegion_unmapped h (n := 2) (by omega) hin .read
  unfold AddressSpace.read16
  simp only [EStateM.run_bind, EStateM.run_get, run_ofExcept]
  rw [show (2 : GuestSize) = BitVec.ofNat 32 2 from rfl, hres]

/-- A dword read where nothing is mapped is refused. -/
theorem read32_unmapped (hin : addr.toNat % 4096 + 4 ≤ 4096) :
    (AddressSpace.read32 addr).run space = .error (unmapped addr) space := by
  have hres := resolveRegion_unmapped h (n := 4) (by omega) hin .read
  unfold AddressSpace.read32
  simp only [EStateM.run_bind, EStateM.run_get, run_ofExcept]
  rw [show (4 : GuestSize) = BitVec.ofNat 32 4 from rfl, hres]

/-- A byte write where nothing is mapped is refused. -/
theorem write8_unmapped (b : U8) :
    (AddressSpace.write8 addr b).run space = .error (unmapped addr) space := by
  have hres := resolveRegion_unmapped h (n := 1) (by omega) (by omega) .write
  unfold AddressSpace.write8
  simp only [EStateM.run_bind, EStateM.run_get, run_ofExcept]
  rw [show (1 : GuestSize) = BitVec.ofNat 32 1 from rfl, hres]

/-- A word write where nothing is mapped is refused. -/
theorem write16_unmapped (v : U16) (hin : addr.toNat % 4096 + 2 ≤ 4096) :
    (AddressSpace.write16 addr v).run space = .error (unmapped addr) space := by
  have hres := resolveRegion_unmapped h (n := 2) (by omega) hin .write
  unfold AddressSpace.write16
  simp only [EStateM.run_bind, EStateM.run_get, run_ofExcept]
  rw [show (2 : GuestSize) = BitVec.ofNat 32 2 from rfl, hres]

/-- A dword write where nothing is mapped is refused. -/
theorem write32_unmapped (v : U32) (hin : addr.toNat % 4096 + 4 ≤ 4096) :
    (AddressSpace.write32 addr v).run space = .error (unmapped addr) space := by
  have hres := resolveRegion_unmapped h (n := 4) (by omega) hin .write
  unfold AddressSpace.write32
  simp only [EStateM.run_bind, EStateM.run_get, run_ofExcept]
  rw [show (4 : GuestSize) = BitVec.ofNat 32 4 from rfl, hres]

end Unmapped

end Xblob.Analysis
