import Xblob.Interface.PhysicalMemory

/-!
# What the physical accessors do

One lemma for each accessor of the address space, so that later proofs need not
open it again.  A read from RAM changes nothing, a read from a device changes only
the device; a byte write either changes one RAM cell, or only a device, or fails
with every bank as it was; the wider writes are all-or-nothing because the region
is resolved for the whole width before anything is stored.
-/

set_option autoImplicit false

namespace Xblob.Memory

variable {δ : Type}

namespace AddressSpace

open Xblob.Computation

/-! ## Resolution -/

/-- A resolved region is one of the regions, holds the whole range and grants the access. -/
theorem resolveIn_ok {addr : GuestAddr} {len : GuestSize} {perm : MemoryPermission}
    {regions : List (Region δ)} {reg : Region δ} (h : resolveIn addr len perm regions = .ok reg) :
    reg ∈ regions ∧ reg.containsRange addr len ∧ hasPermission reg.permissions perm := by
  induction regions with
  | nil => cases h
  | cons r rs ih =>
    unfold resolveIn at h
    split at h
    · split at h
      · cases h
      · split at h
        · cases h
        · cases h
          simp_all
    · obtain ⟨hmem, hrest⟩ := ih h
      exact ⟨List.mem_cons_of_mem _ hmem, hrest⟩

/-- `resolveIn_ok`, for the whole address space. -/
theorem resolveRegion_ok {space : AddressSpace δ} {addr : GuestAddr} {len : GuestSize}
    {perm : MemoryPermission} {reg : Region δ} (h : space.resolveRegion addr len perm = .ok reg) :
    reg ∈ space.regions ∧ reg.containsRange addr len ∧ hasPermission reg.permissions perm := by
  unfold resolveRegion at h
  split at h
  · cases h
  · split at h
    · cases h
    · exact resolveIn_ok h

/-- In a RAM-only space every resolved region is RAM. -/
theorem RamOnly.resolved {space : AddressSpace δ} (h : space.RamOnly) {addr : GuestAddr}
    {len : GuestSize} {perm : MemoryPermission} {reg : Region δ}
    (hr : space.resolveRegion addr len perm = .ok reg) : reg.isRam :=
  h reg (resolveRegion_ok hr).1

/-! ## Device accesses -/

/-- A device access leaves the storage. -/
theorem keeps_onDevices {α : Type} (f : EStateM Error δ α) (space : AddressSpace δ) :
    Keeps storage (onDevices f) space := by
  unfold Keeps onDevices
  rw [run_zoom]
  cases f.run space.devices <;> rfl

/-- A device read leaves the storage. -/
theorem keeps_readMmio (h : MmioHandler δ) (reg : Region δ) (addr : GuestAddr)
    (width : AccessWidth) (space : AddressSpace δ) :
    Keeps storage (readMmio h reg addr width) space := by
  unfold readMmio
  split
  · exact keeps_onDevices _ space
  · exact (quiet_throw _ space).keeps _

/-- A device write leaves the storage. -/
theorem keeps_writeMmio (h : MmioHandler δ) (reg : Region δ) (addr : GuestAddr)
    (width : AccessWidth) (value : U32) (space : AddressSpace δ) :
    Keeps storage (writeMmio h reg addr width value) space := by
  unfold writeMmio
  split
  · exact keeps_onDevices _ space
  · exact (quiet_throw _ space).keeps _

/-! ## Reads -/

/-- Without devices no access reaches one. -/
theorem RamOnly.noDevice {space : AddressSpace δ} (h : space.RamOnly) (addr : GuestAddr)
    (len : GuestSize) (perm : MemoryPermission) : space.NoDevice addr len perm :=
  fun _ hr => h.resolved hr

/-- The common shape of the accessors: resolve a region, then act on it.  The whole is
quiet when the action on a RAM region is. -/
theorem quiet_resolved {α : Type} {space : AddressSpace δ} {addr : GuestAddr} {len : GuestSize}
    {perm : MemoryPermission} {f : AddressSpace δ → Region δ → EStateM Error (AddressSpace δ) α}
    (h : space.NoDevice addr len perm)
    (hf : ∀ reg ram off, reg.type = .ram ram off → Quiet (f space reg) space) :
    Quiet (do
      let space ← get
      let reg ← ofExcept (space.resolveRegion addr len perm)
      f space reg) space := by
  refine (quiet_get space).bind fun _ hget => ?_
  cases hget
  refine (quiet_ofExcept _ space).bind fun reg hreg => ?_
  cases hr : space.resolveRegion addr len perm with
  | error e => simp [hr] at hreg
  | ok reg' =>
    simp only [hr, run_ofExcept, EStateM.Result.ok.injEq, and_true] at hreg
    have hram := h reg' hr
    rw [hreg] at hram
    cases ht : reg.type with
    | ram ram off => exact hf reg ram off ht
    | mmio handler => simp [Region.isRam, ht] at hram

/-- A byte read from RAM changes nothing. -/
theorem quiet_read8 {space : AddressSpace δ} {addr : GuestAddr}
    (h : space.NoDevice addr 1 .read) : Quiet (read8 addr) space := by
  refine quiet_resolved h fun reg ram off ht => ?_
  rw [ht]
  exact quiet_ofExcept _ space

/-- A 16-bit read from RAM changes nothing. -/
theorem quiet_read16 {space : AddressSpace δ} {addr : GuestAddr}
    (h : space.NoDevice addr 2 .read) : Quiet (read16 addr) space := by
  refine quiet_resolved h fun reg ram off ht => ?_
  rw [ht]
  exact quiet_pure _ space

/-- A 32-bit read from RAM changes nothing. -/
theorem quiet_read32 {space : AddressSpace δ} {addr : GuestAddr}
    (h : space.NoDevice addr 4 .read) : Quiet (read32 addr) space := by
  refine quiet_resolved h fun reg ram off ht => ?_
  rw [ht]
  exact quiet_pure _ space

/-- A fetch changes nothing: it never reaches a device. -/
theorem quiet_fetch8 (space : AddressSpace δ) (addr : GuestAddr) :
    Quiet (fetch8 addr) space := by
  refine (quiet_get space).bind fun _ hget => ?_
  cases hget
  refine (quiet_ofExcept _ space).bind fun reg hreg => ?_
  cases ht : reg.type with
  | ram ram off => exact quiet_ofExcept _ space
  | mmio handler => exact quiet_throw _ space

/-- The common shape of the reads: whatever region they resolve to, no bank changes. -/
theorem keeps_resolved {α : Type} {space : AddressSpace δ} {addr : GuestAddr} {len : GuestSize}
    {perm : MemoryPermission} {f : AddressSpace δ → Region δ → EStateM Error (AddressSpace δ) α}
    (hf : ∀ reg, Keeps storage (f space reg) space) :
    Keeps storage (do
      let space ← get
      let reg ← ofExcept (space.resolveRegion addr len perm)
      f space reg) space := by
  refine ((quiet_get space).keeps _).bind fun _ s hget => ?_
  cases hget
  refine ((quiet_ofExcept _ space).keeps _).bind fun reg s hreg => ?_
  cases (quiet_ofExcept _ space).ok hreg
  exact hf reg

/-- A byte read changes no bank, wherever it goes. -/
theorem keeps_read8 (addr : GuestAddr) (space : AddressSpace δ) :
    Keeps storage (read8 addr) space := by
  refine keeps_resolved fun reg => ?_
  cases ht : reg.type with
  | ram ram off => exact (quiet_ofExcept _ space).keeps _
  | mmio handler =>
    refine (keeps_readMmio handler reg addr .byte space).bind fun v s _ => ?_
    exact (quiet_pure _ s).keeps _

/-- A 16-bit read changes no bank, wherever it goes. -/
theorem keeps_read16 (addr : GuestAddr) (space : AddressSpace δ) :
    Keeps storage (read16 addr) space := by
  refine keeps_resolved fun reg => ?_
  cases ht : reg.type with
  | ram ram off => exact (quiet_pure _ space).keeps _
  | mmio handler =>
    refine (keeps_readMmio handler reg addr .word space).bind fun v s _ => ?_
    exact (quiet_pure _ s).keeps _

/-- A 32-bit read changes no bank, wherever it goes. -/
theorem keeps_read32 (addr : GuestAddr) (space : AddressSpace δ) :
    Keeps storage (read32 addr) space := by
  refine keeps_resolved fun reg => ?_
  cases ht : reg.type with
  | ram ram off => exact (quiet_pure _ space).keeps _
  | mmio handler => exact keeps_readMmio handler reg addr .dword space

/-! ## Writes -/

/-- Bytes poked leave the size of the bank. -/
theorem pokeBytes_size (bytes : List U8) (r : Ram) (offset : ℕ) :
    (r.pokeBytes offset bytes).size = r.size := by
  induction bytes generalizing r offset with
  | nil => rfl
  | cons b bs ih => exact ih _ _

/-- Bytes poked leave every other byte. -/
theorem pokeBytes_data {bytes : List U8} {r : Ram} {offset k : ℕ}
    (h : ∀ j < bytes.length, k ≠ offset + j) : (r.pokeBytes offset bytes).data k = r.data k := by
  induction bytes generalizing r offset with
  | nil => rfl
  | cons b bs ih =>
    have hrest : ∀ j < bs.length, k ≠ offset + 1 + j := by
      intro j hj
      have := h (j + 1) (by simp only [List.length_cons]; omega)
      omega
    have hhead : k ≠ offset := by
      have := h 0 (by simp)
      omega
    rw [Ram.pokeBytes, ih hrest]
    exact Function.update_of_ne hhead _ _

/-- **A byte write**, by the target of its address. -/
theorem write8_run (space : AddressSpace δ) (addr : GuestAddr) (value : U8) :
    (write8 addr value).run space = match space.byteTarget addr with
      | .refused e => .error e space
      | .cell ram offset => .ok () (space.setRam ram ((space.rams ram).poke offset value))
      | .device h reg => (writeMmio h reg addr .byte (value.setWidth 32)).run space := by
  unfold write8 byteTarget
  simp only [EStateM.run_bind, EStateM.run_get, run_ofExcept]
  cases space.resolveRegion addr 1 .write with
  | error e => rfl
  | ok reg =>
    cases ht : reg.type with
    | ram ram off =>
      by_cases hb : ramPos reg off addr ≥ (space.rams ram).size
      · simp [ht, hb]
      · simp [ht, hb]
    | mmio handler => simp [ht]

/-- A 16-bit write that fails has changed no bank. -/
theorem atomicOn_write16 (space : AddressSpace δ) (addr : GuestAddr) (value : U16) :
    AtomicOn storage (write16 addr value) space := by
  refine (quiet_get space).bind_atomicOn fun _ hget => ?_
  cases hget
  refine (quiet_ofExcept _ space).bind_atomicOn fun reg hreg => ?_
  cases ht : reg.type with
  | ram ram off => exact (sure_set _ space).atomicOn _
  | mmio handler => exact (keeps_writeMmio handler reg addr .word _ space).atomicOn

/-- A 32-bit write that fails has changed no bank. -/
theorem atomicOn_write32 (space : AddressSpace δ) (addr : GuestAddr) (value : U32) :
    AtomicOn storage (write32 addr value) space := by
  refine (quiet_get space).bind_atomicOn fun _ hget => ?_
  cases hget
  refine (quiet_ofExcept _ space).bind_atomicOn fun reg hreg => ?_
  cases ht : reg.type with
  | ram ram off => exact (sure_set _ space).atomicOn _
  | mmio handler => exact (keeps_writeMmio handler reg addr .dword value space).atomicOn

end AddressSpace

end Xblob.Memory
