import Xblob.Interface.SplitWrite
import Xblob.Analysis.TlbCoherence

/-!
# Multi-byte virtual writes are all-or-nothing exactly when they are not torn

The three multi-byte writes translate every byte before they store the first one,
so a translation fault changes no RAM (`keeps_translateBytes`).  After that the
stores run one by one, and `storeBytes_spec` says what they leave in every RAM cell,
up to the byte the physical memory refuses.

`WriteBytes` translates each address a second time while it stores.  The second
translation finds the cache entry the first one left (`Hit`), so it gives the same
address and changes nothing: the loop is the loop of the other two
(`writeEach_eq_storeBytes`).
-/

set_option autoImplicit false

namespace Xblob.Analysis

open Xblob.Memory Xblob.Memory.VirtualMemory Xblob.Memory.AddressSpace Xblob.Interface
open Xblob.Computation

variable {δ : Type}

/-! ## Stores -/

/-- Two memories send every byte to the same place. -/
def SameTargets (a b : AddressSpace δ) : Prop :=
  a.regions = b.regions ∧ ∀ ram, (a.rams ram).size = (b.rams ram).size

/-- The target of a byte is the same where the targets are. -/
theorem SameTargets.byteTarget {a b : AddressSpace δ} (h : SameTargets a b) (addr : GuestAddr) :
    a.byteTarget addr = b.byteTarget addr := by
  have hres : a.resolveRegion addr 1 .write = b.resolveRegion addr 1 .write := by
    simp only [resolveRegion, h.1]
  simp only [AddressSpace.byteTarget, hres, h.2]

/-- A byte poked leaves the targets. -/
theorem SameTargets.poke {a b : AddressSpace δ} (h : SameTargets a b) (ram offset : ℕ)
    (v : U8) : SameTargets a (b.setRam ram ((b.rams ram).poke offset v)) := by
  refine ⟨h.1, fun ram' => ?_⟩
  rw [h.2 ram']
  by_cases heq : ram' = ram
  · subst heq
    simp [setRam, Ram.poke]
  · simp [setRam, heq]

/-- What a device window does to the memory, by what it answers. -/
theorem writeMmio_run (h : MmioHandler δ) (reg : Region δ) (addr : GuestAddr) (b : U8)
    (space : AddressSpace δ) :
    match deviceTakes h reg addr b space.devices with
    | some d => (writeMmio h reg addr .byte (b.setWidth 32)).run space =
        .ok () { space with devices := d }
    | none => ∃ e d, (writeMmio h reg addr .byte (b.setWidth 32)).run space =
        .error e { space with devices := d } := by
  unfold deviceTakes writeMmio
  cases h.write with
  | none => exact ⟨_, space.devices, rfl⟩
  | some write =>
    simp only [onDevices, run_zoom]
    cases (write (addr - reg.base) .byte (b.setWidth 32)).run space.devices with
    | ok u d => rfl
    | error e d => exact ⟨e, d, rfl⟩

/-- The bytes of RAM after one byte went into a cell. -/
theorem ramBytes_poke (vm : VirtualMemory δ) (ram₀ offset₀ : ℕ) (b : U8) (ram offset : ℕ) :
    (((vm.physicalSpace.setRam ram₀ ((vm.physicalSpace.rams ram₀).poke offset₀ b)).rams ram).data
      offset) =
      if ram₀ = ram ∧ offset₀ = offset then b else ramBytes vm ram offset := by
  by_cases hr : ram₀ = ram
  · subst hr
    by_cases ho : offset₀ = offset
    · subst ho
      simp [setRam, Ram.poke]
    · simp [setRam, Ram.poke, ho, Function.update_of_ne (Ne.symm ho), ramBytes]
  · simp [setRam, hr, Function.update_of_ne (Ne.symm hr), ramBytes]

/-- One more store before the ones that are taken. -/
theorem lastStored_taken (space : AddressSpace δ) (ram offset : ℕ) (store : GuestAddr × U8)
    (rest : List (GuestAddr × U8)) (refused : Option ℕ) (old : U8) :
    (lastStored space ram offset ((store :: rest).take
      ((refused.map (· + 1)).getD (rest.length + 1)))).getD old =
      (lastStored space ram offset (rest.take (refused.getD rest.length))).getD
        ((storesTo space ram offset store).getD old) := by
  have htake : (refused.map (· + 1)).getD (rest.length + 1) = refused.getD rest.length + 1 := by
    cases refused <;> rfl
  rw [htake, List.take_succ_cons, lastStored]
  cases lastStored space ram offset (rest.take (refused.getD rest.length)) <;> rfl

/-- **What a sequence of stores leaves**: up to the byte that is refused, every RAM
cell holds the last byte sent to it, and the error is returned exactly when a byte
is refused. -/
theorem storeBytes_spec (space : AddressSpace δ) (stores : List (GuestAddr × U8))
    (vm : VirtualMemory δ) (hsame : SameTargets space vm.physicalSpace) :
    let refused := refusedAt space vm.physicalSpace.devices stores
    let done := stores.take (refused.getD stores.length)
    let r := (storeBytes stores).run vm
    (∀ ram offset, ramBytes (stateAfter r) ram offset =
      (lastStored space ram offset done).getD (ramBytes vm ram offset)) ∧
    (refused = none ↔ ∃ vm', r = .ok () vm') := by
  induction stores generalizing vm with
  | nil => exact ⟨fun ram offset => rfl, by simp [refusedAt, storeBytes]⟩
  | cons store rest ih =>
    obtain ⟨addr, b⟩ := store
    have hwrite := write8_run vm.physicalSpace addr b
    rw [← hsame.byteTarget addr] at hwrite
    have hrun : (storeBytes ((addr, b) :: rest)).run vm =
        match (AddressSpace.write8 addr b).run vm.physicalSpace with
        | .ok _ s => (storeBytes rest).run { vm with physicalSpace := s }
        | .error e s => .error e { vm with physicalSpace := s } := by
      simp only [storeBytes, EStateM.run_bind, onPhysical, run_zoom]
      cases (AddressSpace.write8 addr b).run vm.physicalSpace <;> rfl
    intro refused done r
    cases ht : space.byteTarget addr with
    | refused e =>
      simp only [ht] at hwrite
      have hrefused : refused = some 0 := by simp [refused, refusedAt, ht]
      have hr : r = .error e vm := by simp only [r, hrun, hwrite]
      rw [hr]
      refine ⟨fun ram offset => ?_, by simp [hrefused]⟩
      simp [done, hrefused, lastStored]
    | cell ram₀ offset₀ =>
      simp only [ht] at hwrite
      let vm₁ : VirtualMemory δ := { vm with
        physicalSpace := vm.physicalSpace.setRam ram₀
          ((vm.physicalSpace.rams ram₀).poke offset₀ b) }
      obtain ⟨hbytes, hok⟩ := ih vm₁ (hsame.poke ram₀ offset₀ b)
      have hr : r = (storeBytes rest).run vm₁ := by simp only [r, hrun, hwrite, vm₁]
      have hrefused : refused = (refusedAt space vm₁.physicalSpace.devices rest).map (· + 1) := by
        simp [refused, refusedAt, ht, vm₁, setRam]
      rw [hr]
      refine ⟨fun ram offset => ?_, by rw [hrefused, Option.map_eq_none_iff]; exact hok⟩
      simp only [done, hrefused, List.length_cons]
      rw [lastStored_taken, hbytes ram offset]
      congr 1
      rw [show ramBytes vm₁ ram offset = _ from ramBytes_poke vm ram₀ offset₀ b ram offset]
      simp only [storesTo, ht]
      split <;> rfl
    | device h reg =>
      simp only [ht] at hwrite
      have hdev := writeMmio_run h reg addr b vm.physicalSpace
      cases hd : deviceTakes h reg addr b vm.physicalSpace.devices with
      | none =>
        rw [hd] at hdev
        obtain ⟨e, d, hdev⟩ := hdev
        have hrefused : refused = some 0 := by simp [refused, refusedAt, ht, hd]
        have hr : r =
            .error e { vm with physicalSpace := { vm.physicalSpace with devices := d } } := by
          simp only [r, hrun, hwrite, hdev]
        rw [hr]
        refine ⟨fun ram offset => ?_, by simp [hrefused]⟩
        simp [done, hrefused, lastStored, ramBytes]
      | some d =>
        rw [hd] at hdev
        let vm₁ : VirtualMemory δ := { vm with
          physicalSpace := { vm.physicalSpace with devices := d } }
        obtain ⟨hbytes, hok⟩ := ih vm₁ hsame
        have hr : r = (storeBytes rest).run vm₁ := by simp only [r, hrun, hwrite, hdev, vm₁]
        have hrefused : refused = (refusedAt space vm₁.physicalSpace.devices rest).map (· + 1) := by
          simp [refused, refusedAt, ht, hd, vm₁]
        rw [hr]
        refine ⟨fun ram offset => ?_, by rw [hrefused, Option.map_eq_none_iff]; exact hok⟩
        simp only [done, hrefused, List.length_cons]
        rw [lastStored_taken, hbytes ram offset]
        simp only [storesTo, ht]
        rfl

/-! ## Translations -/

/-- Reading tables changes no bank. -/
theorem storage_afterTables (space : AddressSpace δ) (cr3 : U32) (vaddr : GuestAddr) :
    storage (afterTables space cr3 vaddr) = storage space := by
  unfold afterTables
  cases hr : (AddressSpace.read32 (pdeAddr cr3 vaddr)).run space with
  | error e s => exact (keeps_read32 _ space).error hr
  | ok pde s =>
    dsimp only
    split
    · exact (keeps_read32 _ space).ok hr
    · exact (keeps_read32 _ s).trans ((keeps_read32 _ space).ok hr)

/-- A translation changes no bank. -/
theorem keeps_translate (vm : VirtualMemory δ) (vaddr : GuestAddr) (access : VirtualAccessType) :
    Keeps (fun vm => storage vm.physicalSpace) (VirtualMemory.translate vaddr access) vm := by
  obtain ⟨vm', fault, hfill, hstate⟩ := stateAfter_translate vm vaddr access
  unfold Keeps
  rw [hstate]
  obtain hm | hm := hfill.memory
  · exact congrArg storage hm
  · exact (congrArg storage hm).trans (storage_afterTables _ _ _)

/-- Translating addresses leaves the storage. -/
theorem keeps_translateBytes (vm : VirtualMemory δ) (vaddr : GuestAddr) (n : ℕ) :
    Keeps (fun vm => storage vm.physicalSpace) (translateBytes vaddr n) vm := by
  induction n generalizing vm vaddr with
  | zero => exact (quiet_pure _ vm).keeps _
  | succ n ih =>
    refine (keeps_translate vm vaddr .write).bind fun t vm₁ _ => ?_
    exact (ih vm₁ (vaddr + 1)).bind fun rest vm₂ _ => (quiet_pure _ vm₂).keeps _

/-- A write to `vaddr` would translate to `phys` without a page walk. -/
def Hit (vm : VirtualMemory δ) (vaddr phys : GuestAddr) : Prop :=
  (testBits vm.cr0 kCr0Paging = false ∧ phys = vaddr) ∨
  (testBits vm.cr0 kCr0Paging ∧ ∃ entry, vm.tlb (vaddr >>> 12) = some entry ∧
    permit (regsOf vm) vaddr .write entry = .ok () ∧ phys = frameAddr entry vaddr)

/-- Successive addresses that would translate without a page walk. -/
def Hits (vm : VirtualMemory δ) : GuestAddr → List GuestAddr → Prop
  | _, [] => True
  | vaddr, phys :: rest => Hit vm vaddr phys ∧ Hits vm (vaddr + 1) rest

/-- A hit translates and changes nothing. -/
theorem Hit.translate {vm : VirtualMemory δ} {vaddr phys : GuestAddr} (h : Hit vm vaddr phys) :
    ∃ perms, (VirtualMemory.translate vaddr .write).run vm = .ok ⟨phys, perms⟩ vm := by
  obtain ⟨hpg, rfl⟩ | ⟨hpg, entry, hc, hperm, rfl⟩ := h
  · exact ⟨.all, by simp [VirtualMemory.translate, isPagingEnabled, hpg]⟩
  · have hcheck := checkAccess_eq vm vaddr .write entry
    simp only [hperm] at hcheck
    refine ⟨entry.effectivePermissions, ?_⟩
    simp [VirtualMemory.translate, isPagingEnabled, hpg, hc, hcheck, frameAddr]

/-- A successful translation leaves a hit behind. -/
theorem hit_of_translate {vm vm' : VirtualMemory δ} {vaddr : GuestAddr} {t : TranslationResult}
    (h : (VirtualMemory.translate vaddr .write).run vm = .ok t vm') :
    Hit vm' vaddr t.physicalAddress := by
  obtain ⟨vm₁, hfill, hrun⟩ := translate_spec vm vaddr .write
  have hvm' : vm₁ = vm' := by
    rw [hrun] at h
    cases hu : useEntry (regsOf vm) vaddr .write (currentEntry vm vaddr .write) with
    | ok t' => simp only [hu, EStateM.Result.ok.injEq] at h; exact h.2
    | error f => simp [hu] at h
  subst hvm'
  have hregs := hfill.regs
  have hcr0 : vm₁.cr0 = vm.cr0 := congrArg PagingRegisters.cr0 hregs
  cases hpg : testBits vm.cr0 kCr0Paging with
  | false =>
    refine .inl ⟨by rw [hcr0]; exact hpg, ?_⟩
    simp [VirtualMemory.translate, isPagingEnabled, hpg] at h
    rw [← h.1]
  | true =>
    obtain ⟨entry, hc, hperm, ht⟩ := translate_ok_cached hpg h
    exact .inr ⟨by rw [hcr0]; exact hpg, entry, hc, by rw [hregs]; exact hperm, by rw [ht]⟩

/-- A translation keeps the hits there were. -/
theorem Hit.refilled {vm vm' : VirtualMemory δ} {vaddr phys w : GuestAddr}
    (h : Hit vm vaddr phys) (hfill : Refilled vm vm' w) : Hit vm' vaddr phys := by
  have hregs := hfill.regs
  have hcr0 : vm'.cr0 = vm.cr0 := congrArg PagingRegisters.cr0 hregs
  obtain ⟨hpg, rfl⟩ | ⟨hpg, entry, hc, hperm, rfl⟩ := h
  · exact .inl ⟨by rw [hcr0]; exact hpg, rfl⟩
  · refine .inr ⟨by rw [hcr0]; exact hpg, entry, ?_, by rw [hregs]; exact hperm, rfl⟩
    obtain htlb | ⟨entry', access, hnone, -, htlb⟩ := hfill.cache
    · rw [htlb]; exact hc
    · have hne : vaddr >>> 12 ≠ w >>> 12 := by
        intro heq
        rw [heq, hnone] at hc
        cases hc
      rw [htlb, Function.update_of_ne hne]
      exact hc

/-- Translating `n` addresses leaves a hit for each. -/
theorem hits_of_translateBytes {n : ℕ} {vm vm' : VirtualMemory δ} {vaddr : GuestAddr}
    {phys : List GuestAddr} (h : (translateBytes vaddr n).run vm = .ok phys vm') :
    phys.length = n ∧ Hits vm' vaddr phys ∧ ∀ w p, Hit vm w p → Hit vm' w p := by
  induction n generalizing vm vaddr phys with
  | zero =>
    cases h
    exact ⟨rfl, trivial, fun w p hw => hw⟩
  | succ n ih =>
    simp only [translateBytes, EStateM.run_bind] at h
    cases ht : (VirtualMemory.translate vaddr .write).run vm with
    | error e s => simp [ht] at h
    | ok t vm₁ =>
      simp only [ht] at h
      cases hrest : (translateBytes (vaddr + 1) n).run vm₁ with
      | error e s => rw [hrest] at h; cases h
      | ok rest vm₂ =>
        simp only [hrest, EStateM.run_pure, EStateM.Result.ok.injEq] at h
        obtain ⟨rfl, rfl⟩ := h
        obtain ⟨hlen, hhits, hmono⟩ := ih hrest
        obtain ⟨vm₃, fault, hfill, hstate⟩ := stateAfter_translate vm vaddr .write
        rw [ht, stateAfter_ok] at hstate
        refine ⟨by simp [hlen], ⟨hmono _ _ (hit_of_translate ht), hhits⟩, fun w p hw => ?_⟩
        have hw₃ : Hit vm₃ w p := hw.refilled hfill
        refine hmono w p ?_
        rw [hstate]
        exact hw₃

/-! ## The three writes -/

/-- A hit depends on the registers and the cache only. -/
theorem Hits.onSpace {vm : VirtualMemory δ} {vaddr : GuestAddr} {phys : List GuestAddr}
    (h : Hits vm vaddr phys) (space : AddressSpace δ) :
    Hits { vm with physicalSpace := space } vaddr phys := by
  induction phys generalizing vaddr with
  | nil => trivial
  | cons p rest ih => exact ⟨h.1, ih h.2⟩

/-- The storing loop of `WriteBytes` finds every translation in the cache. -/
theorem writeEach_eq_storeBytes {bytes : List U8} {vm : VirtualMemory δ} {vaddr : GuestAddr}
    {phys : List GuestAddr} (hlen : phys.length = bytes.length) (h : Hits vm vaddr phys) :
    (writeEach vaddr bytes).run vm = (storeBytes (phys.zip bytes)).run vm := by
  induction bytes generalizing vm vaddr phys with
  | nil =>
    cases phys with
    | nil => rfl
    | cons p rest => cases hlen
  | cons b bytes ih =>
    cases phys with
    | nil => cases hlen
    | cons p rest =>
      obtain ⟨perms, htrans⟩ := h.1.translate
      have hlen' : rest.length = bytes.length := Nat.succ.inj hlen
      simp only [writeEach, VirtualMemory.write8, List.zip_cons_cons, storeBytes,
        EStateM.run_bind, htrans]
      cases hw : (onPhysical (AddressSpace.write8 p b)).run vm with
      | error e s => rfl
      | ok u vm₁ =>
        have hvm₁ : vm₁ = { vm with physicalSpace := vm₁.physicalSpace } := by
          simp only [onPhysical, run_zoom] at hw
          cases hp : (AddressSpace.write8 p b).run vm.physicalSpace with
          | error e s => simp [hp] at hw
          | ok u s => simp only [hp, EStateM.Result.ok.injEq] at hw; rw [← hw.2]
        dsimp only
        refine ih hlen' ?_
        rw [hvm₁]
        exact h.2.onSpace _

/-- The write loop the three multi-byte writes share. -/
def splitWrite (vaddr : GuestAddr) (bytes : List U8) : EStateM Error (VirtualMemory δ) Unit := do
  let phys ← translateBytes vaddr bytes.length
  storeBytes (phys.zip bytes)

/-- A block written is the split write. -/
theorem writeBytes_eq_splitWrite (vm : VirtualMemory δ) (vaddr : GuestAddr) (bytes : List U8) :
    (VirtualMemory.writeBytes vaddr bytes).run vm = (splitWrite vaddr bytes).run vm := by
  simp only [VirtualMemory.writeBytes, splitWrite, EStateM.run_bind]
  cases h : (translateBytes vaddr bytes.length).run vm with
  | error e s => rfl
  | ok phys vm' =>
    obtain ⟨hlen, hhits, -⟩ := hits_of_translateBytes h
    exact writeEach_eq_storeBytes hlen hhits

/-- The banks of a memory determine its bytes. -/
theorem ramBytes_of_storage {vm vm' : VirtualMemory δ}
    (h : storage vm'.physicalSpace = storage vm.physicalSpace) : ramBytes vm' = ramBytes vm := by
  have hrams : vm'.physicalSpace.rams = vm.physicalSpace.rams := congrArg Prod.snd h
  unfold ramBytes
  rw [hrams]

/-- **A split write is all-or-nothing exactly when it is not torn.** -/
theorem splitWrite_allOrNothing_iff (vm : VirtualMemory δ) (vaddr : GuestAddr)
    (bytes : List U8) :
    AllOrNothing (splitWrite vaddr bytes) vm ↔ ¬ TornWrite vm vaddr bytes := by
  have hkeep := keeps_translateBytes vm vaddr bytes.length
  unfold AllOrNothing TornWrite splitWrite
  simp only [EStateM.run_bind]
  cases ht : (translateBytes vaddr bytes.length).run vm with
  | error e₁ vm₁ =>
    -- a page fault comes before any store
    have hsame := ramBytes_of_storage (hkeep.error ht)
    constructor
    · rintro - ⟨phys, vm', habs, -⟩
      cases habs
    · intro _ e vm' h ram offset
      cases h
      rw [hsame]
  | ok phys vm₁ =>
    have hsame := ramBytes_of_storage (hkeep.ok ht)
    obtain ⟨hbytes, hok⟩ := storeBytes_spec vm₁.physicalSpace (phys.zip bytes) vm₁
      ⟨rfl, fun _ => rfl⟩
    constructor
    · rintro hall ⟨phys', vm', hrun, j, hj, ram, offset, b, hlast, hne⟩
      cases hrun
      cases hr : (storeBytes (phys.zip bytes)).run vm₁ with
      | ok u vm₂ =>
        have hnone := hok.mpr ⟨vm₂, hr⟩
        rw [hj] at hnone
        cases hnone
      | error e vm₂ =>
        have hcell := hbytes ram offset
        simp only [hj, hr, stateAfter_error, Option.getD_some, hlast] at hcell
        have hkept := hall e vm₂ hr ram offset
        rw [hcell, ← hsame] at hkept
        exact hne hkept
    · intro htorn e vm' h ram offset
      rw [← hsame]
      have hcell := hbytes ram offset
      dsimp only at h
      rw [h, stateAfter_error] at hcell
      rw [hcell]
      cases hj : refusedAt vm₁.physicalSpace vm₁.physicalSpace.devices (phys.zip bytes) with
      | none =>
        obtain ⟨vm₂, hr⟩ := hok.mp hj
        rw [hr] at h
        cases h
      | some j =>
        rw [Option.getD_some]
        cases hlast : lastStored vm₁.physicalSpace ram offset ((phys.zip bytes).take j) with
        | none => rfl
        | some b =>
          by_contra hne
          exact htorn ⟨phys, vm₁, rfl, j, hj, ram, offset, b, hlast, hne⟩

/-- An access that stays in its page is one physical access, made or refused whole. -/
theorem allOrNothing_onPhysical {α : Type} (vm : VirtualMemory δ) (vaddr : GuestAddr)
    (store : GuestAddr → EStateM Error (AddressSpace δ) α)
    (hstore : ∀ addr space, AtomicOn storage (store addr) space) :
    AllOrNothing (do
      let trans ← VirtualMemory.translate vaddr .write
      onPhysical (store trans.physicalAddress)) vm := by
  have hatomic : AtomicOn (fun vm : VirtualMemory δ => storage vm.physicalSpace) (do
      let trans ← VirtualMemory.translate vaddr .write
      onPhysical (store trans.physicalAddress)) vm :=
    (keeps_translate vm vaddr .write).bind_atomicOn fun t vm₁ _ =>
      (hstore t.physicalAddress vm₁.physicalSpace).zoom fun _ h => h
  intro e vm' h ram offset
  rw [ramBytes_of_storage (hatomic e vm' h)]

/-- The page test of `Write16`. -/
theorem crossesPage_two (vaddr : GuestAddr) :
    CrossesPage vaddr 2 ↔ ¬ (vaddr &&& 0xFFF) ≤ 0xFFE := by
  have hlit : (0xFFE : U32).toNat = 0xFFE := rfl
  rw [CrossesPage, BitVec.le_def, hlit]
  omega

/-- The page test of `Write32`. -/
theorem crossesPage_four (vaddr : GuestAddr) :
    CrossesPage vaddr 4 ↔ ¬ (vaddr &&& 0xFFF) ≤ 0xFFC := by
  have hlit : (0xFFC : U32).toNat = 0xFFC := rfl
  rw [CrossesPage, BitVec.le_def, hlit]
  omega

/-- **Multi-byte virtual writes.**  A 16- or 32-bit write is all-or-nothing exactly
unless it crosses a page and is torn; a byte span exactly unless it is torn. -/
theorem writes_allOrNothing_iff (vm : VirtualMemory δ) (vaddr : GuestAddr) :
    (∀ value : U16, AllOrNothing (VirtualMemory.write16 vaddr value) vm ↔
      ¬ (CrossesPage vaddr 2 ∧ TornWrite vm vaddr [byteOf value 0, byteOf value 1])) ∧
    (∀ value : U32, AllOrNothing (VirtualMemory.write32 vaddr value) vm ↔
      ¬ (CrossesPage vaddr 4 ∧ TornWrite vm vaddr
        [byteOf value 0, byteOf value 1, byteOf value 2, byteOf value 3])) ∧
    (∀ src : List U8, AllOrNothing (VirtualMemory.writeBytes vaddr src) vm ↔
      ¬ TornWrite vm vaddr src) := by
  refine ⟨fun value => ?_, fun value => ?_, fun src => ?_⟩
  · by_cases hcross : CrossesPage vaddr 2
    · have hsplit := splitWrite_allOrNothing_iff vm vaddr [byteOf value 0, byteOf value 1]
      unfold VirtualMemory.write16
      rw [if_neg ((crossesPage_two vaddr).mp hcross), and_iff_right hcross]
      exact hsplit
    · have hpage : (vaddr &&& 0xFFF) ≤ 0xFFE := not_not.mp (mt (crossesPage_two vaddr).mpr hcross)
      have hall := allOrNothing_onPhysical vm vaddr (fun addr => AddressSpace.write16 addr value)
        fun addr space => atomicOn_write16 space addr value
      unfold VirtualMemory.write16
      rw [if_pos hpage]
      exact iff_of_true hall fun h => hcross h.1
  · by_cases hcross : CrossesPage vaddr 4
    · have hsplit := splitWrite_allOrNothing_iff vm vaddr
        [byteOf value 0, byteOf value 1, byteOf value 2, byteOf value 3]
      unfold VirtualMemory.write32
      rw [if_neg ((crossesPage_four vaddr).mp hcross), and_iff_right hcross]
      exact hsplit
    · have hpage : (vaddr &&& 0xFFF) ≤ 0xFFC :=
        not_not.mp (mt (crossesPage_four vaddr).mpr hcross)
      have hall := allOrNothing_onPhysical vm vaddr (fun addr => AddressSpace.write32 addr value)
        fun addr space => atomicOn_write32 space addr value
      unfold VirtualMemory.write32
      rw [if_pos hpage]
      exact iff_of_true hall fun h => hcross h.1
  · have hsplit := splitWrite_allOrNothing_iff vm vaddr src
    unfold AllOrNothing at hsplit ⊢
    simp only [writeBytes_eq_splitWrite]
    exact hsplit

/-- A memory of two RAM regions side by side, the second one read-only. -/
def sealedSpace : AddressSpace Unit where
  regions := [⟨0, 0x2000, .all, .ram 0 0⟩, ⟨0x2000, 0x2000, .readExecute, .ram 0 0x2000⟩]
  rams := fun _ => ⟨kRamSizeRetail, fun _ => 0⟩
  devices := ()

/-- Writing 0xBEEF at the last address before the read-only region. -/
def sealedWrite : EStateM.Result Error (VirtualMemory Unit) Unit :=
  (VirtualMemory.write16 0x1FFF 0xBEEF).run { physicalSpace := sealedSpace }

/-- The write into the sealed page is refused. -/
theorem sealedWrite_refused : outcome sealedWrite =
    .error { code := .accessViolation, message := "Violação de permissão de acesso à memória"
             offset := 0x2000 } := by
  rfl

/-- Its first byte is stored nevertheless. -/
theorem sealedWrite_stored : ramBytes (stateAfter sealedWrite) 0 0x1FFF = 0xEF := by
  rfl

/-- A 16-bit write at the last byte before a read-only region stores that byte and
then fails. -/
theorem write16_torn_at_region_end :
    ¬ ∀ (vm : VirtualMemory Unit) (vaddr : GuestAddr) (value : U16),
      AllOrNothing (VirtualMemory.write16 vaddr value) vm := by
  intro hall
  have hkept := hall { physicalSpace := sealedSpace } 0x1FFF 0xBEEF _ _
    (eq_error_of_outcome sealedWrite_refused) 0 0x1FFF
  exact absurd (sealedWrite_stored.symm.trans hkept) (by decide)

end Xblob.Analysis
