import Xblob.Analysis.DataStores

/-!
# Wide writes are byte writes

A 16- or 32-bit write inside a page is one physical access; across a page boundary it
is translated byte by byte and then stored byte by byte; a span is always split.  Over
private data pages each of them, when it succeeds, is the loop of byte writes at its
successive addresses, from a state no access can tell from the first one.
-/

set_option autoImplicit false

namespace Xblob.Analysis

open Xblob.Memory Xblob.Memory.VirtualMemory Xblob.Memory.AddressSpace Xblob.Interface
open Xblob.Computation

variable {δ : Type}

/-! ## Wide writes are byte writes -/

/-- Translating addresses moves nothing. -/
theorem still_translateBytes {n : ℕ} {vm vm' : VirtualMemory δ} (hd : DataPages vm)
    {v : GuestAddr} {phys : List GuestAddr}
    (h : (translateBytes v n).run vm = .ok phys vm') : Still vm vm' := by
  induction n generalizing vm v phys with
  | zero =>
    cases h
    exact .refl _
  | succ n ih =>
    simp only [translateBytes, EStateM.run_bind] at h
    cases ht : (VirtualMemory.translate v .write).run vm with
    | error e s => rw [ht] at h; cases h
    | ok t vm₁ =>
      rw [ht] at h
      dsimp only at h
      obtain ⟨hstill, -⟩ := translate_ok_still hd ht
      cases hrest : (translateBytes (v + 1) n).run vm₁ with
      | error e s => rw [hrest] at h; cases h
      | ok rest vm₂ =>
        rw [hrest] at h
        cases h
        exact hstill.trans (ih (dataPages_still hd hstill) hrest)

/-- A split write that succeeds is the byte writes, from a state no access can tell
from the first one. -/
theorem splitWrite_eq_writeEach {vm vm' : VirtualMemory δ} (hd : DataPages vm) {v : GuestAddr}
    {bytes : List U8} (h : (splitWrite v bytes).run vm = .ok () vm') :
    ∃ vm₁, Still vm vm₁ ∧ (writeEach v bytes).run vm₁ = .ok () vm' := by
  simp only [splitWrite, EStateM.run_bind] at h
  cases ht : (translateBytes v bytes.length).run vm with
  | error e s => rw [ht] at h; cases h
  | ok phys vm₁ =>
    rw [ht] at h
    obtain ⟨hlen, hhits, -⟩ := hits_of_translateBytes ht
    refine ⟨vm₁, still_translateBytes hd ht, ?_⟩
    rw [writeEach_eq_storeBytes hlen hhits]
    exact h

/-- The `n` physical addresses from `addr` on. -/
def successive (addr : GuestAddr) : ℕ → List GuestAddr
  | 0 => []
  | n + 1 => addr :: successive (addr + 1) n

/-- A number of successive addresses. -/
theorem length_successive (addr : GuestAddr) (n : ℕ) : (successive addr n).length = n := by
  induction n generalizing addr with
  | zero => rfl
  | succ n ih => simp [successive, ih]

/-- The next address inside a page does not wrap. -/
theorem toNat_succ_inPage {v : GuestAddr} (h : v.toNat % 4096 + 1 < 4096) :
    (v + 1).toNat = v.toNat + 1 :=
  toNat_add_of_inPage (i := 1) h

/-- Inside a page, a hit at the first address is a hit at the following ones. -/
theorem hits_successive {vm : VirtualMemory δ} {n : ℕ} {v addr : GuestAddr} (h : Hit vm v addr)
    (hin : v.toNat % 4096 + n ≤ 4096) : Hits vm v (successive addr n) := by
  induction n generalizing v addr with
  | zero => trivial
  | succ n ih =>
    refine ⟨h, ?_⟩
    cases n with
    | zero => trivial
    | succ n =>
      have hlt : v.toNat % 4096 + 1 < 4096 := by omega
      have hnat := toNat_succ_inPage hlt
      refine ih ?_ (by omega)
      obtain ⟨hpg, rfl⟩ | ⟨hpg, entry, hc, hperm, rfl⟩ := h
      · exact .inl ⟨hpg, rfl⟩
      · refine .inr ⟨hpg, entry, ?_, permit_ok_congr hperm, (frameAddr_add entry (i := 1) hlt).symm⟩
        rw [show (v + 1) >>> 12 = v >>> 12 from page_add (i := 1) hlt]
        exact hc

/-- Byte stores into a RAM page that grants writing. -/
theorem storeBytes_ramPage {bytes : List U8} {vm : VirtualMemory δ} {addr : GuestAddr}
    {reg : Region δ} {ram off : ℕ} (hram : RamPage vm.physicalSpace addr reg ram off)
    (hp : hasPermission reg.permissions .write)
    (hin : addr.toNat % 4096 + bytes.length ≤ 4096) :
    (storeBytes ((successive addr bytes.length).zip bytes)).run vm =
      .ok () { vm with
        physicalSpace := vm.physicalSpace.setRam ram
          ((vm.physicalSpace.rams ram).pokeBytes (ramPos reg off addr) bytes) } := by
  induction bytes generalizing vm addr with
  | nil => simp [successive, storeBytes, Ram.pokeBytes, setRam]
  | cons b bs ih =>
    simp only [List.length_cons] at hin ⊢
    simp only [successive, List.zip_cons_cons, storeBytes, EStateM.run_bind, onPhysical, run_zoom,
      hram.write8, if_pos hp]
    cases bs with
    | nil => simp [successive, storeBytes, Ram.pokeBytes]
    | cons b' bs =>
      simp only [List.length_cons] at hin
      have hlt : addr.toNat % 4096 + 1 < 4096 := by omega
      have hnat := toNat_succ_inPage hlt
      have hram' : RamPage (vm.physicalSpace.setRam ram
          ((vm.physicalSpace.rams ram).poke (ramPos reg off addr) b)) (addr + 1) reg ram off :=
        ⟨hram.type, fun q hq => hram.page q (hq.trans (page_add (i := 1) hlt)), by
          simpa [setRam, Ram.poke] using hram.bank⟩
      let vm₁ : VirtualMemory δ := { vm with
        physicalSpace := vm.physicalSpace.setRam ram
          ((vm.physicalSpace.rams ram).poke (ramPos reg off addr) b) }
      have hrest := @ih vm₁ (addr + 1) hram' (by simp only [List.length_cons]; omega)
      have hpos : ramPos reg off (addr + 1) = ramPos reg off addr + 1 := hram.pos_add (i := 1) hlt
      rw [hpos] at hrest
      refine hrest.trans ?_
      simp [vm₁, setRam, Ram.pokeBytes]

/-- A write in one physical access that succeeds is the byte writes.  The access is
given by what it does in a RAM page and in a page without a region. -/
theorem inPageWrite_eq_writeEach {vm vm' : VirtualMemory δ} (hd : DataPages vm)
    (hmap : WellMapped vm.physicalSpace) {v : GuestAddr} {bytes : List U8}
    (hin : v.toNat % 4096 + bytes.length ≤ 4096)
    {store : GuestAddr → EStateM Error (AddressSpace δ) Unit}
    (hstore : ∀ (space : AddressSpace δ) (addr : GuestAddr) (reg : Region δ) (ram off : ℕ),
      RamPage space addr reg ram off → addr.toNat % 4096 + bytes.length ≤ 4096 →
      (store addr).run space =
        if hasPermission reg.permissions .write then
          .ok () (space.setRam ram ((space.rams ram).pokeBytes (ramPos reg off addr) bytes))
        else .error (notGranted addr) space)
    (hnowhere : ∀ (space : AddressSpace δ) (addr : GuestAddr),
      (∀ q : GuestAddr, q >>> 12 = addr >>> 12 → regionAt space q = none) →
      addr.toNat % 4096 + bytes.length ≤ 4096 →
      (store addr).run space = .error (unmapped addr) space)
    (h : (do
      let trans ← VirtualMemory.translate v .write
      onPhysical (store trans.physicalAddress) : EStateM Error (VirtualMemory δ) Unit).run vm =
        .ok () vm') :
    ∃ vm₁, Still vm vm₁ ∧ (writeEach v bytes).run vm₁ = .ok () vm' := by
  simp only [EStateM.run_bind] at h
  cases ht : (VirtualMemory.translate v .write).run vm with
  | error e vm₁ => rw [ht] at h; cases h
  | ok t vm₁ =>
    obtain ⟨hstill, hu⟩ := translate_ok_still hd ht
    have hd₁ := dataPages_still hd hstill
    have hmap₁ : WellMapped vm₁.physicalSpace := by rw [hstill.space]; exact hmap
    have hoff := useEntry_offset hu
    have hin' : t.physicalAddress.toNat % 4096 + bytes.length ≤ 4096 := by
      rw [hoff]
      exact hin
    rw [ht] at h
    simp only [onPhysical, run_zoom] at h
    refine ⟨vm₁, hstill, ?_⟩
    rw [writeEach_eq_storeBytes (length_successive _ _) (hits_successive (hit_of_translate ht) hin)]
    obtain ⟨reg, ram, off, hram⟩ | hnone :=
      ramPage_or_unmapped hmap₁ (hd₁.inRegion v _ (dataAddr_of_useEntry hu))
    · rw [hstore _ _ reg ram off hram hin'] at h
      by_cases hp : hasPermission reg.permissions .write
      · rw [storeBytes_ramPage hram hp hin']
        rw [if_pos hp] at h
        exact h
      · rw [if_neg hp] at h
        cases h
    · rw [hnowhere _ _ hnone hin'] at h
      cases h

/-- A word write is its byte writes. -/
theorem write16_eq_writeEach {vm vm' : VirtualMemory δ} (hd : DataPages vm)
    (hmap : WellMapped vm.physicalSpace) {v : GuestAddr} {x : U16}
    (h : (VirtualMemory.write16 v x).run vm = .ok () vm') :
    ∃ vm₁, Still vm vm₁ ∧ (writeEach v [byteOf x 0, byteOf x 1]).run vm₁ = .ok () vm' := by
  unfold VirtualMemory.write16 at h
  by_cases hcross : CrossesPage v 2
  · rw [if_neg ((crossesPage_two v).mp hcross)] at h
    exact splitWrite_eq_writeEach hd h
  · have hin : v.toNat % 4096 + [byteOf x 0, byteOf x 1].length ≤ 4096 := by
      unfold CrossesPage at hcross
      rw [toNat_pageOffset] at hcross
      simp only [List.length_cons, List.length_nil]
      omega
    rw [if_pos (not_not.mp (mt (crossesPage_two v).mpr hcross))] at h
    exact inPageWrite_eq_writeEach hd hmap hin
      (fun _ _ _ _ _ hram hin => hram.write16 x hin) (fun _ _ hnone hin => write16_unmapped hnone x hin) h

/-- A dword write is its byte writes. -/
theorem write32_eq_writeEach {vm vm' : VirtualMemory δ} (hd : DataPages vm)
    (hmap : WellMapped vm.physicalSpace) {v : GuestAddr} {x : U32}
    (h : (VirtualMemory.write32 v x).run vm = .ok () vm') :
    ∃ vm₁, Still vm vm₁ ∧
      (writeEach v [byteOf x 0, byteOf x 1, byteOf x 2, byteOf x 3]).run vm₁ = .ok () vm' := by
  unfold VirtualMemory.write32 at h
  by_cases hcross : CrossesPage v 4
  · rw [if_neg ((crossesPage_four v).mp hcross)] at h
    exact splitWrite_eq_writeEach hd h
  · have hin : v.toNat % 4096 + [byteOf x 0, byteOf x 1, byteOf x 2, byteOf x 3].length ≤ 4096 := by
      unfold CrossesPage at hcross
      rw [toNat_pageOffset] at hcross
      simp only [List.length_cons, List.length_nil]
      omega
    rw [if_pos (not_not.mp (mt (crossesPage_four v).mpr hcross))] at h
    exact inPageWrite_eq_writeEach hd hmap hin
      (fun _ _ _ _ _ hram hin => hram.write32 x hin) (fun _ _ hnone hin => write32_unmapped hnone x hin) h

end Xblob.Analysis
