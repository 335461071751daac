import Xblob.Analysis.PhysicalAccess
import Xblob.Interface.ExportArguments

/-!
# Exports and their arguments

The memory answers a request alike from two memories when what the request reads is the same
in both, and what is written is written to both.  So an export keeps to its arguments when
every argument it asks for is one of them, whatever it is answered; this is read off the text
of each handler.  One export asks for a seventh argument and is registered with six.
-/

set_option autoImplicit false

namespace Xblob.Analysis

open Xblob.Computation Xblob.Interface Xblob.Kernel Xblob.Memory Xblob.Memory.AddressSpace
open Xblob.Processor

variable {δ α : Type} {S : GuestAddr → Prop} {s₀ t₀ s t : AddressSpace δ}

/-! ## Two memories -/

/-- Nothing done has the same effects. -/
theorem sameEffects_refl (h : AgreeOutside S s₀ t₀) : SameEffects s₀ t₀ s₀ t₀ where
  regions := ⟨rfl, rfl⟩
  devices := h.devices
  sizes := fun _ => ⟨rfl, rfl⟩
  cells := fun _ _ => .inl ⟨rfl, rfl⟩

/-- The regions of both memories stay the same ones. -/
theorem regions_eq (h : AgreeOutside S s₀ t₀) (hst : SameEffects s₀ t₀ s t) :
    t.regions = s.regions := by
  rw [hst.regions.1, hst.regions.2, h.regions]

/-- The banks of both memories stay as large. -/
theorem sizes_eq (h : AgreeOutside S s₀ t₀) (hst : SameEffects s₀ t₀ s t) (ram : ℕ) :
    (t.rams ram).size = (s.rams ram).size := by
  rw [(hst.sizes ram).1, (hst.sizes ram).2, h.sizes]

/-- An access resolves alike where the regions are the same. -/
theorem resolveRegion_congr (h : t.regions = s.regions) (addr : GuestAddr) (len : GuestSize)
    (perm : MemoryPermission) :
    t.resolveRegion addr len perm = s.resolveRegion addr len perm := by
  unfold resolveRegion
  rw [h]

/-- An access that resolves ends inside the address space. -/
theorem resolveRegion_below {addr : GuestAddr} {len : GuestSize} {perm : MemoryPermission}
    {reg : Region δ} (h : s.resolveRegion addr len perm = .ok reg) :
    addr.toNat + len.toNat ≤ 0x100000000 := by
  unfold resolveRegion at h
  split at h
  · cases h
  · split at h
    · cases h
    · omega

/-- What is read outside of `S` is the same, before and after the same effects. -/
theorem window_eq (h : AgreeOutside S s₀ t₀) (hst : SameEffects s₀ t₀ s t) {addr : GuestAddr}
    {len : GuestSize} {perm : MemoryPermission} {reg : Region δ} {ram ramOffset : ℕ}
    (hreg : s.resolveRegion addr len perm = .ok reg) (htype : reg.type = .ram ram ramOffset)
    (hS : ∀ a : GuestAddr, (Span.mk addr.toNat len.toNat).Holds a.toNat → ¬ S a) {j : ℕ}
    (hj : j < len.toNat) :
    (t.rams ram).data (ramPos reg ramOffset addr + j) =
      (s.rams ram).data (ramPos reg ramOffset addr + j) := by
  obtain ⟨hmem, hcontains, -⟩ := resolveRegion_ok hreg
  have hbelow := resolveRegion_below hreg
  simp only [Region.containsRange, ge_iff_le, Bool.and_eq_true, decide_eq_true_eq] at hcontains
  rcases hst.cells ram (ramPos reg ramOffset addr + j) with ⟨hs, ht⟩ | heq
  · -- the byte is as it was, and the first memories agree at its address
    have hnat : (addr + BitVec.ofNat 32 j).toNat = addr.toNat + j := by
      rw [BitVec.toNat_add, BitVec.toNat_ofNat]
      omega
    have hpos : ramPos reg ramOffset (addr + BitVec.ofNat 32 j) =
        ramPos reg ramOffset addr + j := by
      unfold ramPos
      omega
    have hcell := h.cells reg (hst.regions.1 ▸ hmem) ram ramOffset htype (addr + BitVec.ofNat 32 j)
      (by omega) (by omega) (hS _ ⟨by simp only [hnat]; omega, by simp only [hnat, Span.stop]; omega⟩)
    rw [hs, ht, ← hpos, hcell]
  · exact heq

/-- Computations that resolve a range and go on with the region agree when they go on alike. -/
theorem agree_resolved {addr : GuestAddr} {len : GuestSize} {perm : MemoryPermission}
    {Q : α → AddressSpace δ → AddressSpace δ → Prop} {E : AddressSpace δ → AddressSpace δ → Prop}
    {f : AddressSpace δ → Region δ → EStateM Error (AddressSpace δ) α}
    (hregions : t.regions = s.regions) (hE : E s t)
    (hf : ∀ reg, s.resolveRegion addr len perm = .ok reg →
      Agree Q E ((f s reg).run s) ((f t reg).run t)) :
    Lockstep (do
      let space ← get
      let reg ← ofExcept (space.resolveRegion addr len perm)
      f space reg) Q E s t := by
  unfold Lockstep
  simp only [EStateM.run_bind, EStateM.run_get, run_ofExcept,
    resolveRegion_congr hregions addr len perm]
  cases hreg : s.resolveRegion addr len perm with
  | error e => exact ⟨rfl, hE⟩
  | ok reg => exact hf reg hreg

/-! ## Devices -/

/-- A device access has the same effects. -/
theorem sameEffects_onDevices (hst : SameEffects s₀ t₀ s t) (f : EStateM Error δ α) :
    Lockstep (onDevices f) (fun _ => SameEffects s₀ t₀) (SameEffects s₀ t₀) s t := by
  have hsame : ∀ u v, u = v → SameEffects s₀ t₀ { s with devices := u } { t with devices := v } := by
    rintro u v rfl
    exact ⟨hst.regions, rfl, hst.sizes, hst.cells⟩
  have hf : Lockstep f (fun _ u v => u = v) Eq s.devices t.devices := by
    rw [hst.devices]
    exact lockstep_refl f s.devices
  exact hf.zoom (fun _ => hsame) hsame

/-- A device read has the same effects. -/
theorem sameEffects_readMmio (hst : SameEffects s₀ t₀ s t) (handler : MmioHandler δ)
    (reg : Region δ) (addr : GuestAddr) (width : AccessWidth) :
    Lockstep (readMmio handler reg addr width) (fun _ => SameEffects s₀ t₀) (SameEffects s₀ t₀)
      s t := by
  unfold readMmio
  cases handler.read with
  | none => exact lockstep_throw hst
  | some read => exact sameEffects_onDevices hst _

/-- A device write has the same effects. -/
theorem sameEffects_writeMmio (hst : SameEffects s₀ t₀ s t) (handler : MmioHandler δ)
    (reg : Region δ) (addr : GuestAddr) (width : AccessWidth) (value : U32) :
    Lockstep (writeMmio handler reg addr width value) (fun _ => SameEffects s₀ t₀)
      (SameEffects s₀ t₀) s t := by
  unfold writeMmio
  cases handler.write with
  | none => exact lockstep_throw hst
  | some write => exact sameEffects_onDevices hst _

/-! ## Banks -/

/-- Storing the same bytes makes them equal. -/
theorem pokeBytes_inside {bytes : List U8} {r r' : Ram} {offset k : ℕ}
    (h : offset ≤ k) (h' : k < offset + bytes.length) :
    (r.pokeBytes offset bytes).data k = (r'.pokeBytes offset bytes).data k := by
  induction bytes generalizing r r' offset with
  | nil =>
    simp only [List.length_nil] at h'
    omega
  | cons b bs ih =>
    simp only [Ram.pokeBytes]
    by_cases hk : k = offset
    · subst hk
      rw [pokeBytes_data fun j _ => by omega, pokeBytes_data fun j _ => by omega]
      simp [Ram.poke]
    · exact ih (by omega) (by simp only [List.length_cons] at h'; omega)

/-- Bytes stored at the same place of both memories. -/
theorem sameEffects_pokeBytes (hst : SameEffects s₀ t₀ s t) (ram offset : ℕ)
    (bytes : List U8) :
    SameEffects s₀ t₀ (s.setRam ram ((s.rams ram).pokeBytes offset bytes))
      (t.setRam ram ((t.rams ram).pokeBytes offset bytes)) where
  regions := hst.regions
  devices := hst.devices
  sizes := by
    intro i
    by_cases hi : i = ram
    · subst hi
      simpa only [setRam, Function.update_self, pokeBytes_size] using hst.sizes i
    · simpa only [setRam, Function.update_of_ne hi] using hst.sizes i
  cells := by
    intro i pos
    by_cases hi : i = ram
    · subst hi
      simp only [setRam, Function.update_self]
      by_cases hpos : offset ≤ pos ∧ pos < offset + bytes.length
      · exact .inr (pokeBytes_inside hpos.1 hpos.2)
      · have hout : ∀ j < bytes.length, pos ≠ offset + j := by
          intro j hj
          omega
        rw [pokeBytes_data hout, pokeBytes_data hout]
        exact hst.cells i pos
    · simpa only [setRam, Function.update_of_ne hi] using hst.cells i pos

/-! ## Requests -/

/-- The failure of a call is an answer that agrees when the call does. -/
theorem lockstep_attempt {R : AddressSpace δ → AddressSpace δ → Prop}
    {f : EStateM Error (AddressSpace δ) α} (h : Lockstep f (fun _ => R) R s t) :
    Lockstep (attempt f) (fun _ => R) R s t := by
  unfold Lockstep
  change Agree _ _ (attempt f s) (attempt f t)
  unfold attempt
  obtain ⟨a, s', t', hs, ht, hst⟩ | ⟨e, s', t', hs, ht, hst⟩ := Agree.cases h
  · rw [hs, ht]
    exact ⟨rfl, hst⟩
  · rw [hs, ht]
    exact ⟨rfl, hst⟩

section Requests

variable (h : AgreeOutside S s₀ t₀) (hst : SameEffects s₀ t₀ s t)
include h hst

/-- A byte read outside of `S` has the same effects. -/
theorem sameEffects_read8 {addr : GuestAddr}
    (hS : ∀ a : GuestAddr, (Span.mk addr.toNat 1).Holds a.toNat → ¬ S a) :
    Lockstep (AddressSpace.read8 addr) (fun _ => SameEffects s₀ t₀) (SameEffects s₀ t₀) s t := by
  refine agree_resolved (regions_eq h hst) hst fun reg hreg => ?_
  cases htype : reg.type with
  | ram ram ramOffset =>
    have hbyte := window_eq h hst hreg htype hS (j := 0) (by decide)
    rw [Nat.add_zero] at hbyte
    simp only [Ram.read8, hbyte, sizes_eq h hst ram]
    split
    · exact ⟨rfl, hst⟩
    · exact ⟨rfl, hst⟩
  | mmio handler =>
    have hread := sameEffects_readMmio hst handler reg addr .byte
    exact hread.bind fun _ _ _ hst' => lockstep_pure hst'

/-- A dword read outside of `S` has the same effects. -/
theorem sameEffects_read32 {addr : GuestAddr}
    (hS : ∀ a : GuestAddr, (Span.mk addr.toNat 4).Holds a.toNat → ¬ S a) :
    Lockstep (AddressSpace.read32 addr) (fun _ => SameEffects s₀ t₀) (SameEffects s₀ t₀) s t := by
  refine agree_resolved (regions_eq h hst) hst fun reg hreg => ?_
  cases htype : reg.type with
  | ram ram ramOffset =>
    have hbyte := fun j (hj : j < 4) => window_eq h hst hreg htype hS (j := j) hj
    simp only [hbyte 0 (by omega), hbyte 1 (by omega), hbyte 2 (by omega), hbyte 3 (by omega)]
    exact ⟨rfl, hst⟩
  | mmio handler => exact sameEffects_readMmio hst handler reg addr .dword

/-- A block read outside of `S` has the same effects. -/
theorem sameEffects_readBytes {addr : GuestAddr} {n : ℕ} (hn : n < 0x100000000)
    (hS : ∀ a : GuestAddr, (Span.mk addr.toNat n).Holds a.toNat → ¬ S a) :
    Lockstep (AddressSpace.readBytes addr n) (fun _ => SameEffects s₀ t₀) (SameEffects s₀ t₀)
      s t := by
  have hlen : (BitVec.ofNat 32 n).toNat = n := by
    rw [BitVec.toNat_ofNat]
    omega
  unfold AddressSpace.readBytes
  split
  · exact lockstep_pure hst
  · refine agree_resolved (regions_eq h hst) hst fun reg hreg => ?_
    cases htype : reg.type with
    | ram ram ramOffset =>
      have hbytes : (List.range n).map (fun i =>
            (t.rams ram).data (ramPos reg ramOffset addr + i)) =
          (List.range n).map fun i => (s.rams ram).data (ramPos reg ramOffset addr + i) := by
        refine List.map_congr_left fun j hj => ?_
        refine window_eq h hst hreg htype ?_ ?_
        · rw [hlen]
          exact hS
        · rw [hlen]
          exact List.mem_range.1 hj
      simp only [hbytes]
      exact ⟨rfl, hst⟩
    | mmio handler => exact ⟨rfl, hst⟩

/-- A byte write has the same effects. -/
theorem sameEffects_write8 (addr : GuestAddr) (val : U8) :
    Lockstep (AddressSpace.write8 addr val) (fun _ => SameEffects s₀ t₀) (SameEffects s₀ t₀)
      s t := by
  refine agree_resolved (regions_eq h hst) hst fun reg hreg => ?_
  cases htype : reg.type with
  | ram ram ramOffset =>
    simp only [sizes_eq h hst ram]
    split
    · exact ⟨rfl, hst⟩
    · exact ⟨rfl, sameEffects_pokeBytes hst ram _ [val]⟩
  | mmio handler => exact sameEffects_writeMmio hst handler reg addr .byte _

/-- A dword write has the same effects. -/
theorem sameEffects_write32 (addr : GuestAddr) (val : U32) :
    Lockstep (AddressSpace.write32 addr val) (fun _ => SameEffects s₀ t₀) (SameEffects s₀ t₀)
      s t := by
  refine agree_resolved (regions_eq h hst) hst fun reg hreg => ?_
  cases htype : reg.type with
  | ram ram ramOffset => exact ⟨rfl, sameEffects_pokeBytes hst ram _ _⟩
  | mmio handler => exact sameEffects_writeMmio hst handler reg addr .dword val

/-- A block write has the same effects. -/
theorem sameEffects_writeBytes (addr : GuestAddr) (src : List U8) :
    Lockstep (AddressSpace.writeBytes addr src) (fun _ => SameEffects s₀ t₀) (SameEffects s₀ t₀)
      s t := by
  unfold AddressSpace.writeBytes
  split
  · exact lockstep_pure hst
  · refine agree_resolved (regions_eq h hst) hst fun reg hreg => ?_
    cases htype : reg.type with
    | ram ram ramOffset => exact ⟨rfl, sameEffects_pokeBytes hst ram _ src⟩
    | mmio handler => exact ⟨rfl, hst⟩

/-- A range is valid in both memories or in none. -/
theorem validateRange_congr (addr : GuestAddr) (len : GuestSize) (perm : MemoryPermission) :
    t.validateRange addr len perm = s.validateRange addr len perm := by
  unfold AddressSpace.validateRange
  rw [resolveRegion_congr (regions_eq h hst)]

end Requests

/-! ## Arguments -/

/-- An argument below `n` lies before the words beyond `n` arguments. -/
theorem not_beyond_of_arg {esp : U32} {index n : ℕ} (hi : index < n) {a : GuestAddr}
    (ha : (Span.mk (argAddr esp index).toNat 4).Holds a.toNat) : ¬ BeyondArguments esp n a := by
  rintro ⟨i, hni, hbeyond⟩
  have hle : (argAddr esp index).toNat ≤ esp.toNat + (index + 1) * 4 := by
    unfold argAddr
    rw [BitVec.toNat_add, BitVec.toNat_ofNat]
    refine Nat.le_trans (Nat.mod_le _ _) ?_
    exact Nat.add_le_add_left (Nat.mod_le _ _) _
  unfold Span.Holds Span.stop at ha hbeyond
  dsimp only at ha hbeyond
  omega

/-- A request for one of the first `n` arguments, or one that is no argument and asks for
fewer bytes than there are addresses. -/
def Disciplined (esp : U32) (n : ℕ) : GuestRequest → Prop
  | .arg esp' index => esp' = esp ∧ index < n
  | .readBytes _ m => m < 0x100000000
  | _ => True

/-- A disciplined request that reads nothing of `S` is answered alike. -/
theorem lockstep_answer (h : AgreeOutside S s₀ t₀) {esp : U32} {n : ℕ}
    (hS : ∀ a, S a → BeyondArguments esp n a) {r : GuestRequest} (hr : Disciplined esp n r)
    (hreads : ∀ a, r.Reads a → ¬ S a) (hst : SameEffects s₀ t₀ s t) :
    Lockstep (answer r) (fun _ => SameEffects s₀ t₀) (SameEffects s₀ t₀) s t := by
  cases r with
  | arg esp' index =>
    obtain ⟨rfl, hi⟩ := hr
    exact lockstep_attempt (sameEffects_read32 h hst fun a ha hSa => not_beyond_of_arg hi ha (hS a hSa))
  | read8 addr => exact lockstep_attempt (sameEffects_read8 h hst hreads)
  | read32 addr => exact lockstep_attempt (sameEffects_read32 h hst hreads)
  | write8 addr val => exact lockstep_attempt (sameEffects_write8 h hst addr val)
  | write32 addr val => exact lockstep_attempt (sameEffects_write32 h hst addr val)
  | readBytes addr n => exact lockstep_attempt (sameEffects_readBytes h hst hr hreads)
  | writeBytes addr src => exact lockstep_attempt (sameEffects_writeBytes h hst addr src)
  | validateRange addr len perm =>
    unfold Lockstep
    change Agree _ _ (.ok (s.validateRange addr len perm) s) (.ok (t.validateRange addr len perm) t)
    rw [validateRange_congr h hst addr len perm]
    exact ⟨rfl, hst⟩

/-- **An export whose requests are disciplined, whatever the answers, keeps to its
arguments.** -/
theorem keepsToArguments_of_within {e : ExportEntry}
    (h : ∀ cpu k, (e.handler cpu k).Within (Disciplined (cpu.gpr .esp) e.paramCount)
      fun _ => True) : KeepsToArguments e := by
  intro δ cpu k S s t hS hst hreads
  exact (h cpu k).lockstep_along hreads
    (fun r hr hP s' t' hst' => lockstep_answer hst hS hr hP hst') (sameEffects_refl hst)

end Xblob.Analysis
