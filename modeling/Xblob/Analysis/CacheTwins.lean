import Xblob.Analysis.TlbCoherence
import Xblob.Computation.Lockstep
import Xblob.Interface.ExceptionReports

/-!
# Two virtual memories that differ in their caches

Two virtual memories over the same physical memory, with the same registers and the same
page-fault record, may have cached different translations.  As long as both caches hold
only what the tables say, no access can tell them apart: a translation or a read returns
the same from both and leaves the two alike again.  A write returns the same from both,
but it may change the tables under one cached entry and not under the other, so it leaves
two memories that agree in what they show and may disagree in what they translate next.

A page whose entry both have cached stays alike whatever is written.
-/

set_option autoImplicit false

namespace Xblob.Analysis

open Xblob.Memory Xblob.Memory.VirtualMemory Xblob.Interface Xblob.Computation

variable {δ : Type}

/-! ## Table walks in RAM -/

/-- A dword read from RAM depends on the regions and banks only. -/
theorem outcome_read32_congr {a b : AddressSpace δ} (hab : b.storage = a.storage)
    {addr : GuestAddr} (h : a.NoDevice addr 4 .read) :
    outcome ((AddressSpace.read32 addr).run b) = outcome ((AddressSpace.read32 addr).run a) := by
  have hregions : b.regions = a.regions := congrArg Prod.fst hab
  have hrams : b.rams = a.rams := congrArg Prod.snd hab
  have hres : b.resolveRegion addr 4 .read = a.resolveRegion addr 4 .read := by
    unfold AddressSpace.resolveRegion
    rw [hregions]
  unfold AddressSpace.read32
  simp only [EStateM.run_bind, EStateM.run_get, run_ofExcept, hres]
  cases hr : a.resolveRegion addr 4 .read with
  | error e => rfl
  | ok reg =>
    have hram := h reg hr
    cases ht : reg.type with
    | ram ram off => simp [ht, hrams]
    | mmio handler => simp [Region.isRam, ht] at hram

/-- Where resolution does not end in a device depends on the regions only. -/
theorem noDevice_congr {a b : AddressSpace δ} (hab : b.storage = a.storage) {addr : GuestAddr}
    {len : GuestSize} {perm : MemoryPermission} (h : a.NoDevice addr len perm) :
    b.NoDevice addr len perm := by
  have hregions : b.regions = a.regions := congrArg Prod.fst hab
  intro reg hreg
  apply h reg
  unfold AddressSpace.resolveRegion at hreg ⊢
  rwa [hregions] at hreg

/-- Tables in RAM stay there when only devices change. -/
theorem tablesInRam_congr {a b : AddressSpace δ} {cr3 : U32} (h : TablesInRam a cr3)
    (hab : b.storage = a.storage) : TablesInRam b cr3 := by
  intro addr haddr
  apply noDevice_congr hab
  apply h
  cases haddr with
  | directory vaddr => exact .directory vaddr
  | table vaddr pde hread hp =>
    rw [outcome_read32_congr hab (h _ (.directory vaddr))] at hread
    exact .table vaddr pde hread hp

/-- Tables in RAM read the same when only devices change. -/
theorem sameTables_inRam {a b : AddressSpace δ} {cr3 : U32} (h : TablesInRam a cr3)
    (hab : b.storage = a.storage) : SameTables cr3 a b := by
  intro vaddr
  have h' := tablesInRam_congr h hab
  have hdir := outcome_read32_congr hab (h _ (.directory vaddr))
  have hqa := AddressSpace.quiet_read32 (h _ (.directory vaddr))
  have hqb := AddressSpace.quiet_read32 (h' _ (.directory vaddr))
  unfold readTables
  rw [hqa.run_eq, hqb.run_eq, hdir]
  cases hpde : outcome ((AddressSpace.read32 (pdeAddr cr3 vaddr)).run a) with
  | error e => rfl
  | ok pde =>
    by_cases hp : testBits pde kPagePresent
    · have htab : TableAddr a cr3 (pteAddr pde vaddr) := .table vaddr pde hpde hp
      have hpte := outcome_read32_congr hab (h _ htab)
      have hqa' := AddressSpace.quiet_read32 (h _ htab)
      have hqb' := AddressSpace.quiet_read32 (noDevice_congr hab (h _ htab))
      simp only [hp, Bool.not_true, Bool.false_eq_true, if_false]
      rw [hqa'.run_eq, hqb'.run_eq, hpte]
      cases outcome ((AddressSpace.read32 (pteAddr pde vaddr)).run a) <;> rfl
    · simp [hp]

/-- Reading tables in RAM changes nothing. -/
theorem afterTables_inRam {space : AddressSpace δ} {cr3 : U32} (h : TablesInRam space cr3)
    (vaddr : GuestAddr) : afterTables space cr3 vaddr = space := by
  have hqdir := AddressSpace.quiet_read32 (h _ (.directory vaddr))
  unfold afterTables
  cases hr : (AddressSpace.read32 (pdeAddr cr3 vaddr)).run space with
  | error e s => exact hqdir.error hr
  | ok pde s =>
    cases hqdir.ok hr
    by_cases hp : testBits pde kPagePresent
    · have htab : TableAddr space cr3 (pteAddr pde vaddr) :=
        .table vaddr pde (by rw [hr, outcome_ok]) hp
      simp only [hp, Bool.not_true, Bool.false_eq_true, if_false]
      exact AddressSpace.quiet_read32 (h _ htab)
    · simp [hp]

/-! ## Sound caches -/

/-- Paging is the same where the registers are. -/
theorem paging_congr {a b : VirtualMemory δ} (h : regsOf a = regsOf b) :
    testBits a.cr0 kCr0Paging = testBits b.cr0 kCr0Paging :=
  congrArg (fun regs => testBits regs.cr0 kCr0Paging) h

/-- The directory base is the same where the registers are. -/
theorem cr3_congr {a b : VirtualMemory δ} (h : regsOf a = regsOf b) : a.cr3 = b.cr3 :=
  congrArg PagingRegisters.cr3 h

/-- With paging on, the cache holds what the tables say and the tables are in RAM. -/
def Sound (vm : VirtualMemory δ) : Prop :=
  testBits vm.cr0 kCr0Paging → Coherent vm ∧ TablesInRam vm.physicalSpace vm.cr3

/-- Soundness does not depend on the page-fault record, and survives device accesses. -/
theorem Sound.congr {vm vm' : VirtualMemory δ} (h : Sound vm) (hregs : regsOf vm' = regsOf vm)
    (htlb : vm'.tlb = vm.tlb) (hmem : vm'.physicalSpace.storage = vm.physicalSpace.storage) :
    Sound vm' := by
  have hcr3 := cr3_congr hregs
  intro hpg
  rw [paging_congr hregs] at hpg
  obtain ⟨hcoh, htab⟩ := h hpg
  refine ⟨hcoh.congr hcr3 htlb (sameTables_inRam htab hmem), ?_⟩
  rw [hcr3]
  exact tablesInRam_congr htab hmem

/-- **A translation from a sound cache.**  It is the walk; it leaves the memory and the
registers as they were and the cache sound. -/
theorem translate_sound {vm : VirtualMemory δ} (h : Sound vm) (vaddr : GuestAddr)
    (access : VirtualAccessType) :
    ∃ vm', Sound vm' ∧ regsOf vm' = regsOf vm ∧ vm'.physicalSpace = vm.physicalSpace ∧
      vm'.lastPageFault = vm.lastPageFault ∧
      (VirtualMemory.translate vaddr access).run vm =
        match walk vm.physicalSpace (regsOf vm) vaddr access with
        | .ok t => .ok t vm'
        | .error f => .error f.error (recorded vm' f) := by
  by_cases hpg : testBits vm.cr0 kCr0Paging
  · obtain ⟨hcoh, htab⟩ := h hpg
    obtain ⟨vm', hfill, hrun⟩ := translate_spec vm vaddr access
    have hmem : vm'.physicalSpace = vm.physicalSpace := by
      obtain hm | hm := hfill.memory
      · exact hm
      · rw [hm, afterTables_inRam htab]
    have hcr3 := cr3_congr hfill.regs
    have hsame : SameTables vm.cr3 vm.physicalSpace vm'.physicalSpace := by
      rw [hmem]
      intro v
      rfl
    refine ⟨vm', fun _ => ⟨hfill.coherent hcoh hsame, ?_⟩, hfill.regs, hmem, hfill.fault, ?_⟩
    · rw [hcr3, hmem]
      exact htab
    · rw [hcoh.currentEntry_eq] at hrun
      exact hrun
  · refine ⟨vm, h, rfl, rfl, rfl, ?_⟩
    simp [VirtualMemory.translate, walk, useEntry, isPagingEnabled, hpg]

/-! ## Views -/

variable {regs : PagingRegisters}

/-- What two virtual memories show: the physical memory, the registers and the record. -/
structure SameView (regs : PagingRegisters) (a b : VirtualMemory δ) : Prop where
  space : a.physicalSpace = b.physicalSpace
  leftRegs : regsOf a = regs
  rightRegs : regsOf b = regs
  fault : a.lastPageFault = b.lastPageFault

/-- Two virtual memories that show the same and have sound caches. -/
structure Twins (regs : PagingRegisters) (a b : VirtualMemory δ) : Prop
    extends SameView regs a b where
  left : Sound a
  right : Sound b

/-- Without paging the caches are not consulted. -/
theorem SameView.twins {a b : VirtualMemory δ} (h : SameView regs a b)
    (hpg : ¬ testBits regs.cr0 kCr0Paging) : Twins regs a b := by
  refine ⟨h, fun hpga => ?_, fun hpgb => ?_⟩
  · exact absurd (congrArg PagingRegisters.cr0 h.leftRegs ▸ hpga) hpg
  · exact absurd (congrArg PagingRegisters.cr0 h.rightRegs ▸ hpgb) hpg

/-- Recording the same failure keeps two memories alike. -/
theorem SameView.recorded {a b : VirtualMemory δ} (h : SameView regs a b) (f : WalkFailure) :
    SameView regs (recorded a f) (recorded b f) := by
  refine ⟨h.space, h.leftRegs, h.rightRegs, ?_⟩
  unfold Analysis.recorded
  rw [h.fault]

/-- Recording the same failure keeps two memories twins. -/
theorem Twins.recorded {a b : VirtualMemory δ} (h : Twins regs a b) (f : WalkFailure) :
    Twins regs (recorded a f) (recorded b f) :=
  ⟨h.toSameView.recorded f, h.left.congr rfl rfl rfl, h.right.congr rfl rfl rfl⟩

/-- **Translations of twins agree and leave twins.** -/
theorem lockstep_translate {a b : VirtualMemory δ} (h : Twins regs a b) (vaddr : GuestAddr)
    (access : VirtualAccessType) :
    Lockstep (VirtualMemory.translate vaddr access) (fun _ => Twins regs) (Twins regs) a b := by
  obtain ⟨a', ha, haregs, hamem, hafault, harun⟩ := translate_sound h.left vaddr access
  obtain ⟨b', hb, hbregs, hbmem, hbfault, hbrun⟩ := translate_sound h.right vaddr access
  have htwins : Twins regs a' b' := by
    refine ⟨⟨?_, haregs.trans h.leftRegs, hbregs.trans h.rightRegs, ?_⟩, ha, hb⟩
    · rw [hamem, hbmem, h.space]
    · rw [hafault, hbfault, h.fault]
  unfold Lockstep
  rw [harun, hbrun, h.space, h.leftRegs, h.rightRegs]
  cases walk b.physicalSpace regs vaddr access with
  | ok t => exact ⟨rfl, htwins⟩
  | error f => exact ⟨rfl, htwins.recorded f⟩

/-- The same access on the same physical memory ends the same. -/
theorem SameView.physical {α : Type} {a b : VirtualMemory δ} (h : SameView regs a b)
    (f : EStateM Error (AddressSpace δ) α) :
    Lockstep f (fun _ u v => u = v) Eq a.physicalSpace b.physicalSpace := by
  rw [h.space]
  exact lockstep_refl f b.physicalSpace

/-- Any physical access agrees on memories that show the same. -/
theorem SameView.onPhysical {α : Type} {a b : VirtualMemory δ} (h : SameView regs a b)
    (f : EStateM Error (AddressSpace δ) α) :
    Lockstep (onPhysical f) (fun _ => SameView regs) (SameView regs) a b := by
  refine (h.physical f).zoom (fun _ u v huv => ?_) fun u v huv => ?_
  · exact ⟨huv, h.leftRegs, h.rightRegs, h.fault⟩
  · exact ⟨huv, h.leftRegs, h.rightRegs, h.fault⟩

/-- A physical access that changes no bank leaves twins. -/
theorem Twins.onPhysical {α : Type} {a b : VirtualMemory δ} (h : Twins regs a b)
    {f : EStateM Error (AddressSpace δ) α} (hf : ∀ space, Keeps AddressSpace.storage f space) :
    Lockstep (onPhysical f) (fun _ => Twins regs) (Twins regs) a b := by
  have hl := h.toSameView.onPhysical f
  unfold Lockstep VirtualMemory.onPhysical at hl ⊢
  rw [run_zoom, run_zoom] at hl ⊢
  have hkept := hf a.physicalSpace
  have hspace := h.space
  rw [← hspace] at hl ⊢
  cases hr : f.run a.physicalSpace with
  | ok x s =>
    rw [hr] at hl
    have hs := hkept.ok hr
    refine ⟨rfl, hl.2, h.left.congr rfl rfl hs, h.right.congr rfl rfl ?_⟩
    rw [← hspace]
    exact hs
  | error e s =>
    rw [hr] at hl
    have hs := hkept.error hr
    refine ⟨rfl, hl.2, h.left.congr rfl rfl hs, h.right.congr rfl rfl ?_⟩
    rw [← hspace]
    exact hs

/-! ## Accessors -/

section Accessors

variable {a b : VirtualMemory δ}

/-- Twins read the same byte. -/
theorem lockstep_read8 (h : Twins regs a b) (vaddr : GuestAddr) :
    Lockstep (VirtualMemory.read8 vaddr) (fun _ => Twins regs) (Twins regs) a b := by
  refine (lockstep_translate h vaddr .read).bind fun t s s' hs => ?_
  exact hs.onPhysical (AddressSpace.keeps_read8 _)

/-- Twins read the same word. -/
theorem lockstep_read16 (h : Twins regs a b) (vaddr : GuestAddr) :
    Lockstep (VirtualMemory.read16 vaddr) (fun _ => Twins regs) (Twins regs) a b := by
  unfold VirtualMemory.read16
  split_ifs
  · refine (lockstep_translate h vaddr .read).bind fun t s s' hs => ?_
    exact hs.onPhysical (AddressSpace.keeps_read16 _)
  · refine (lockstep_read8 h vaddr).bind fun b0 s s' hs => ?_
    refine (lockstep_read8 hs (vaddr + 1)).bind fun b1 s s' hs => ?_
    exact lockstep_pure hs

/-- Twins read the same dword. -/
theorem lockstep_read32 (h : Twins regs a b) (vaddr : GuestAddr) :
    Lockstep (VirtualMemory.read32 vaddr) (fun _ => Twins regs) (Twins regs) a b := by
  unfold VirtualMemory.read32
  split_ifs
  · refine (lockstep_translate h vaddr .read).bind fun t s s' hs => ?_
    exact hs.onPhysical (AddressSpace.keeps_read32 _)
  · refine (lockstep_read8 h vaddr).bind fun b0 s s' hs => ?_
    refine (lockstep_read8 hs (vaddr + 1)).bind fun b1 s s' hs => ?_
    refine (lockstep_read8 hs (vaddr + 2)).bind fun b2 s s' hs => ?_
    refine (lockstep_read8 hs (vaddr + 3)).bind fun b3 s s' hs => ?_
    exact lockstep_pure hs

/-- Twins fetch the same byte. -/
theorem lockstep_fetch8 (h : Twins regs a b) (vaddr : GuestAddr) :
    Lockstep (VirtualMemory.fetch8 vaddr) (fun _ => Twins regs) (Twins regs) a b := by
  refine (lockstep_translate h vaddr .execute).bind fun t s s' hs => ?_
  exact hs.onPhysical fun space => (AddressSpace.quiet_fetch8 space _).keeps _

/-- Twins translate the same addresses. -/
theorem lockstep_translateBytes (n : ℕ) (h : Twins regs a b) (vaddr : GuestAddr) :
    Lockstep (translateBytes vaddr n) (fun _ => Twins regs) (Twins regs) a b := by
  induction n generalizing a b vaddr with
  | zero => exact lockstep_pure h
  | succ n ih =>
    refine (lockstep_translate h vaddr .write).bind fun t s s' hs => ?_
    refine (ih hs (vaddr + 1)).bind fun rest s s' hs => ?_
    exact lockstep_pure hs

/-- The same stores keep two memories alike. -/
theorem lockstep_storeBytes (stores : List (GuestAddr × U8)) (h : SameView regs a b) :
    Lockstep (storeBytes stores) (fun _ => SameView regs) (SameView regs) a b := by
  induction stores generalizing a b with
  | nil => exact lockstep_pure h
  | cons store stores ih =>
    refine (h.onPhysical _).bind fun _ s s' hs => ?_
    exact ih hs

/-- The common shape of the writes: translations, then stores. -/
theorem lockstep_stores {α : Type} {x : EStateM Error (VirtualMemory δ) α}
    {f : α → EStateM Error (VirtualMemory δ) Unit}
    (hx : Lockstep x (fun _ => Twins regs) (Twins regs) a b)
    (hf : ∀ t s s', SameView regs s s' → Lockstep (f t) (fun _ => SameView regs) (SameView regs) s s') :
    Lockstep (x >>= f) (fun _ => SameView regs) (SameView regs) a b := by
  have hx' := hx.mono (fun _ _ _ h => h) fun _ _ h => h.toSameView
  exact hx'.bind fun t s s' hs => hf t s s' hs.toSameView

/-- Twins take the same byte. -/
theorem lockstep_write8 (h : Twins regs a b) (vaddr : GuestAddr) (value : U8) :
    Lockstep (VirtualMemory.write8 vaddr value) (fun _ => SameView regs) (SameView regs) a b :=
  lockstep_stores (lockstep_translate h vaddr .write) fun _ _ _ hs => hs.onPhysical _

/-- Twins take the same word. -/
theorem lockstep_write16 (h : Twins regs a b) (vaddr : GuestAddr) (value : U16) :
    Lockstep (VirtualMemory.write16 vaddr value) (fun _ => SameView regs) (SameView regs) a b := by
  unfold VirtualMemory.write16
  split_ifs
  · exact lockstep_stores (lockstep_translate h vaddr .write) fun _ _ _ hs => hs.onPhysical _
  · exact lockstep_stores (lockstep_translateBytes 2 h vaddr) fun _ _ _ hs =>
      lockstep_storeBytes _ hs

/-- Twins take the same dword. -/
theorem lockstep_write32 (h : Twins regs a b) (vaddr : GuestAddr) (value : U32) :
    Lockstep (VirtualMemory.write32 vaddr value) (fun _ => SameView regs) (SameView regs) a b := by
  unfold VirtualMemory.write32
  split_ifs
  · exact lockstep_stores (lockstep_translate h vaddr .write) fun _ _ _ hs => hs.onPhysical _
  · exact lockstep_stores (lockstep_translateBytes 4 h vaddr) fun _ _ _ hs =>
      lockstep_storeBytes _ hs

end Accessors

/-! ## A page both have cached -/

/-- Two memories that show the same and have the same entry cached for a page. -/
structure CachedAlike (regs : PagingRegisters) (page : U32) (a b : VirtualMemory δ) : Prop
    extends SameView regs a b where
  entry : testBits regs.cr0 kCr0Paging → ∃ entry, a.tlb page = some entry ∧ b.tlb page = some entry

section Cached

variable {a b : VirtualMemory δ}

/-- A physical access on memories that cached a page alike leaves them so. -/
theorem CachedAlike.onPhysical {α : Type} {page : U32} (h : CachedAlike regs page a b)
    (f : EStateM Error (AddressSpace δ) α) :
    Lockstep (onPhysical f) (fun _ => CachedAlike regs page) (SameView regs) a b := by
  refine (h.toSameView.physical f).zoom (fun _ u v huv => ?_) fun u v huv => ?_
  · exact ⟨⟨huv, h.leftRegs, h.rightRegs, h.fault⟩, h.entry⟩
  · exact ⟨huv, h.leftRegs, h.rightRegs, h.fault⟩

/-- A translation that twins both make leaves its entry cached in both. -/
theorem lockstep_translate_cached (h : Twins regs a b) (vaddr : GuestAddr)
    (access : VirtualAccessType) :
    Lockstep (VirtualMemory.translate vaddr access) (fun _ => CachedAlike regs (vaddr >>> 12))
      (SameView regs) a b := by
  unfold Lockstep
  obtain ⟨t, s, s', hs, hs', htw⟩ | ⟨e, s, s', hs, hs', htw⟩ :=
    (lockstep_translate h vaddr access).cases
  · rw [hs, hs']
    refine ⟨rfl, htw.toSameView, fun hpg => ?_⟩
    obtain ⟨entry, hentry, -, -⟩ := translate_ok_cached (h.leftRegs ▸ hpg :) hs
    obtain ⟨entry', hentry', -, -⟩ := translate_ok_cached (h.rightRegs ▸ hpg :) hs'
    have htab := (htw.left (htw.leftRegs ▸ hpg :)).1 _ _ hentry
    have htab' := (htw.right (htw.rightRegs ▸ hpg :)).1 _ _ hentry'
    rw [htw.space, cr3_congr (htw.leftRegs.trans htw.rightRegs.symm), htab'] at htab
    cases htab
    exact ⟨entry, hentry, hentry'⟩
  · rw [hs, hs']
    exact ⟨rfl, htw.toSameView⟩

/-- A translation of a cached page consults the access rules and nothing else. -/
theorem translate_hit {vm : VirtualMemory δ} (hpg : testBits vm.cr0 kCr0Paging)
    {vaddr : GuestAddr} {entry : TlbEntry} (hc : vm.tlb (vaddr >>> 12) = some entry)
    (access : VirtualAccessType) :
    (VirtualMemory.translate vaddr access).run vm =
      match permit (regsOf vm) vaddr access entry with
      | .ok () => .ok ⟨frameAddr entry vaddr, entry.effectivePermissions⟩ vm
      | .error f => .error f.error (recorded vm f) := by
  have hcheck := checkAccess_eq vm vaddr access entry
  cases hperm : permit (regsOf vm) vaddr access entry with
  | error f =>
    simp only [hperm] at hcheck
    simp [VirtualMemory.translate, isPagingEnabled, hpg, hc, hcheck]
  | ok u =>
    simp only [hperm] at hcheck
    simp [VirtualMemory.translate, isPagingEnabled, hpg, hc, hcheck, frameAddr]

/-- Translations of a page both have cached agree, whatever the tables say by now. -/
theorem CachedAlike.translate {page : U32} (h : CachedAlike regs page a b) {vaddr : GuestAddr}
    (hv : vaddr >>> 12 = page) (access : VirtualAccessType) :
    Lockstep (VirtualMemory.translate vaddr access) (fun _ => CachedAlike regs page) (SameView regs) a b := by
  subst hv
  by_cases hpg : testBits regs.cr0 kCr0Paging
  · obtain ⟨entry, ha, hb⟩ := h.entry hpg
    unfold Lockstep
    rw [translate_hit (h.leftRegs ▸ hpg :) ha, translate_hit (h.rightRegs ▸ hpg :) hb, h.leftRegs,
      h.rightRegs]
    cases permit regs vaddr access entry with
    | error f => exact ⟨rfl, h.toSameView.recorded f⟩
    | ok u => exact ⟨rfl, h⟩
  · have hpga : ¬ testBits a.cr0 kCr0Paging := (h.leftRegs ▸ hpg :)
    have hpgb : ¬ testBits b.cr0 kCr0Paging := (h.rightRegs ▸ hpg :)
    unfold Lockstep
    simp only [VirtualMemory.translate, isPagingEnabled, EStateM.run_bind, EStateM.run_get, hpga,
      hpgb, Bool.not_false, if_true]
    exact ⟨rfl, h⟩

/-- A dword written inside a page by twins leaves the page cached alike. -/
theorem lockstep_write32_first (h : Twins regs a b) {vaddr : GuestAddr}
    (hin : (vaddr &&& 0xFFF) ≤ 0xFFC) (value : U32) :
    Lockstep (VirtualMemory.write32 vaddr value) (fun _ => CachedAlike regs (vaddr >>> 12)) (SameView regs)
      a b := by
  unfold VirtualMemory.write32
  rw [if_pos hin]
  refine (lockstep_translate_cached h vaddr .write).bind fun t s s' hs => ?_
  exact hs.onPhysical _

/-- A dword written inside a page cached alike leaves it so. -/
theorem CachedAlike.write32 {page : U32} (h : CachedAlike regs page a b) {vaddr : GuestAddr}
    (hv : vaddr >>> 12 = page) (hin : (vaddr &&& 0xFFF) ≤ 0xFFC) (value : U32) :
    Lockstep (VirtualMemory.write32 vaddr value) (fun _ => CachedAlike regs page) (SameView regs) a b := by
  unfold VirtualMemory.write32
  rw [if_pos hin]
  refine (h.translate hv .write).bind fun t s s' hs => ?_
  exact hs.onPhysical _

end Cached

end Xblob.Analysis
