import Xblob.Interface.PageWalk
import Xblob.Analysis.PhysicalAccess

/-!
# The translation cache is coherent with the page walk

The cache is filled from the page tables and consulted instead of them, with the
privilege level and CR0.WP of the later access, not of the access that filled it.
It is sound because an entry holds the two bits the access rules need and the hit
path applies the same rules to them: `checkAccess_eq` says so once for both paths.

The invariant is `Coherent`: every cached entry is the one the current tables
describe.  Each call keeps it as long as the tables keep their bytes
(`coherent_apply`), so every state of a run has it (`coherent_runCalls`), and in a
coherent state `translate` shows exactly what the cache-free walk shows
(`observe_translate`).
-/

set_option autoImplicit false

namespace Xblob.Analysis

open Xblob.Memory Xblob.Memory.VirtualMemory Xblob.Interface Xblob.Computation

variable {δ : Type}

/-! ## Table reads depend on the page only -/

/-- Addresses of one page share their directory entry. -/
theorem pdeAddr_congr {v w : GuestAddr} (h : v >>> 12 = w >>> 12) (cr3 : U32) :
    pdeAddr cr3 v = pdeAddr cr3 w := by
  have split : ∀ x : GuestAddr, x >>> 22 = x >>> 12 >>> 10 :=
    fun x => BitVec.shiftRight_add x 12 10
  simp only [pdeAddr, split, h]

/-- Addresses of one page share their table entry. -/
theorem pteAddr_congr {v w : GuestAddr} (h : v >>> 12 = w >>> 12) (pde : U32) :
    pteAddr pde v = pteAddr pde w := by
  simp only [pteAddr, h]

/-- Addresses of one page find the same entries. -/
theorem readTables_congr {v w : GuestAddr} (h : v >>> 12 = w >>> 12)
    (space : AddressSpace δ) (cr3 : U32) :
    readTables space cr3 v = readTables space cr3 w := by
  simp only [readTables, pdeAddr_congr h, fun pde => pteAddr_congr h pde]

/-- The first address of a page is in that page. -/
theorem pageBase_page (v : GuestAddr) : ((v >>> 12) <<< 12) >>> 12 = v >>> 12 := by
  apply BitVec.eq_of_toNat_eq
  simp
  omega

/-! ## The invariant -/

/-- Every cached entry is the one the current tables describe. -/
def Coherent (vm : VirtualMemory δ) : Prop :=
  CacheSound (tableEntry vm.physicalSpace vm.cr3) vm.tlb

/-- A cached entry of a coherent state comes from a present pair of table entries. -/
theorem Coherent.entries {vm : VirtualMemory δ} (h : Coherent vm) {vaddr : GuestAddr}
    {entry : TlbEntry} (hc : vm.tlb (vaddr >>> 12) = some entry) :
    ∃ pde pte, readTables vm.physicalSpace vm.cr3 vaddr = .entries pde pte ∧
      entry = entryOf pde pte := by
  have he := h _ _ hc
  unfold tableEntry at he
  rw [readTables_congr (pageBase_page vaddr)] at he
  split at he
  next pde pte heq => exact ⟨pde, pte, heq, (Option.some.inj he).symm⟩
  next => cases he

/-! ## One translation -/

/-- The state in which a failed walk has left its page fault, if it recorded one. -/
def recorded (vm : VirtualMemory δ) (f : WalkFailure) : VirtualMemory δ :=
  { vm with lastPageFault := f.fault.or vm.lastPageFault }

/-- A fault, run: it is recorded and reported. -/
@[simp] theorem run_fault {α : Type} (vaddr : GuestAddr) (code : U32)
    (access : VirtualAccessType) (message : String) (vm : VirtualMemory δ) :
    (fault vaddr code access message : EStateM Error (VirtualMemory δ) α).run vm =
      .error { code := .accessViolation, message := message, offset := vaddr.setWidth 64 }
        { vm with lastPageFault := some ⟨vaddr, code, access, vm.cpl⟩ } := rfl

/-- The access checks of the code are the access rules, for any entry with these two
bits: nothing changes when they pass, and the fault is recorded when they do not. -/
theorem checkAccess_eq (vm : VirtualMemory δ) (vaddr : GuestAddr) (access : VirtualAccessType)
    (entry : TlbEntry) :
    (checkAccess vaddr access entry.userAccessible entry.writable).run vm =
      match permit (regsOf vm) vaddr access entry with
      | .ok () => .ok () vm
      | .error f => .error f.error (recorded vm f) := by
  by_cases hc : vm.cpl = 3#8
  · by_cases hu : entry.userAccessible
    · by_cases hw : access = .write ∧ entry.writable = false
      · simp [checkAccess, permit, regsOf, hc, hu, hw, pageFault, recorded]
      · simp [checkAccess, permit, regsOf, hc, hu, hw]
    · simp [checkAccess, permit, regsOf, hc, hu, pageFault, recorded]
  · by_cases hw : (access = .write ∧ testBits vm.cr0 kCr0WriteProtect) ∧ entry.writable = false
    · simp [checkAccess, permit, regsOf, hc, hw, pageFault, isWriteProtect, recorded]
    · simp [checkAccess, permit, regsOf, hc, hw, isWriteProtect]

/-- The memory the two table reads leave behind. -/
def afterTables (space : AddressSpace δ) (cr3 : U32) (vaddr : GuestAddr) : AddressSpace δ :=
  match (AddressSpace.read32 (pdeAddr cr3 vaddr)).run space with
  | .error _ space => space
  | .ok pde space =>
    if !testBits pde kPagePresent then
      space
    else
      stateAfter ((AddressSpace.read32 (pteAddr pde vaddr)).run space)

/-- **The page walk of the code, run on any state.**  It looks the entry up in the
tables, applies the access rules, and fills the cache when they pass. -/
theorem pageWalk_eq (vm : VirtualMemory δ) (vaddr : GuestAddr) (access : VirtualAccessType) :
    (pageWalk vaddr access).run vm =
      let after := { vm with physicalSpace := afterTables vm.physicalSpace vm.cr3 vaddr }
      match lookupTables vm.physicalSpace (regsOf vm) vaddr access with
      | .error f => .error f.error (recorded after f)
      | .ok entry =>
        match permit (regsOf vm) vaddr access entry with
        | .error f => .error f.error (recorded after f)
        | .ok () =>
          .ok ⟨frameAddr entry vaddr, entry.effectivePermissions⟩
            { after with tlb := Function.update vm.tlb (vaddr >>> 12) (some entry) } := by
  unfold pageWalk lookupTables readTables afterTables
  simp only [EStateM.run_bind, EStateM.run_get, onPhysical, run_zoom, regsOf_cr3]
  cases hpde : (AddressSpace.read32 (pdeAddr vm.cr3 vaddr)).run vm.physicalSpace with
  | error e space => rfl
  | ok pde space =>
    by_cases hp : testBits pde kPagePresent
    · simp only [hp]
      cases hpte : (AddressSpace.read32 (pteAddr pde vaddr)).run space with
      | error e space => simp [hpte, recorded]
      | ok pte space =>
        by_cases hq : testBits pte kPagePresent
        · have hcheck := checkAccess_eq { vm with physicalSpace := space } vaddr access
            (entryOf pde pte)
          have hregs : regsOf { vm with physicalSpace := space } = regsOf vm := rfl
          cases hperm : permit (regsOf vm) vaddr access (entryOf pde pte) with
          | error f =>
            simp only [hregs, hperm] at hcheck
            simp only [entryOf] at hcheck
            simp [hpte, hq, hcheck, hperm]
          | ok u =>
            simp only [hregs, hperm] at hcheck
            simp only [entryOf] at hcheck
            simp [hpte, hq, hcheck, hperm]
            simp [frameAddr, entryOf]
        · simp [hpte, hq]
          exact ⟨rfl, rfl⟩
    · simp [hp]
      exact ⟨rfl, rfl⟩

/-- The entry a translation works with: the cached one, or else the tables' own. -/
def currentEntry (vm : VirtualMemory δ) (vaddr : GuestAddr) (access : VirtualAccessType) :
    Except WalkFailure TlbEntry :=
  match vm.tlb (vaddr >>> 12) with
  | some entry => .ok entry
  | none => lookupTables vm.physicalSpace (regsOf vm) vaddr access

/-- What a translation may change besides the page-fault record: the memory by
reading the tables, the cache by adding the entry it read. -/
structure Refilled (vm vm' : VirtualMemory δ) (vaddr : GuestAddr) : Prop where
  regs : regsOf vm' = regsOf vm
  fault : vm'.lastPageFault = vm.lastPageFault
  memory : vm'.physicalSpace = vm.physicalSpace ∨
    vm'.physicalSpace = afterTables vm.physicalSpace vm.cr3 vaddr
  cache : vm'.tlb = vm.tlb ∨ ∃ entry access, vm.tlb (vaddr >>> 12) = none ∧
    lookupTables vm.physicalSpace (regsOf vm) vaddr access = .ok entry ∧
      vm'.tlb = Function.update vm.tlb (vaddr >>> 12) (some entry)

/-- A translation that did not touch anything. -/
theorem Refilled.refl (vm : VirtualMemory δ) (vaddr : GuestAddr) : Refilled vm vm vaddr :=
  ⟨rfl, rfl, .inl rfl, .inl rfl⟩

/-- **A translation of the code, run on any state.**  It applies the access rules to
the current entry; the cache entry it may add is the tables' own. -/
theorem translate_spec (vm : VirtualMemory δ) (vaddr : GuestAddr)
    (access : VirtualAccessType) :
    ∃ vm', Refilled vm vm' vaddr ∧
      (VirtualMemory.translate vaddr access).run vm =
        match useEntry (regsOf vm) vaddr access (currentEntry vm vaddr access) with
        | .ok t => .ok t vm'
        | .error f => .error f.error (recorded vm' f) := by
  by_cases hpg : testBits vm.cr0 kCr0Paging
  · cases hc : vm.tlb (vaddr >>> 12) with
    | some entry =>
      -- a hit: the same rules apply to the cached entry, under today's registers
      have hcheck := checkAccess_eq vm vaddr access entry
      refine ⟨vm, .refl vm vaddr, ?_⟩
      cases hperm : permit (regsOf vm) vaddr access entry with
      | error f =>
        simp only [hperm] at hcheck
        simp [VirtualMemory.translate, useEntry, currentEntry, isPagingEnabled, hpg, hc, hcheck,
          hperm]
      | ok u =>
        simp only [hperm] at hcheck
        simp [VirtualMemory.translate, useEntry, currentEntry, isPagingEnabled, hpg, hc, hcheck,
          hperm, frameAddr]
    | none =>
      have hwalk := pageWalk_eq vm vaddr access
      have hrun : (VirtualMemory.translate vaddr access).run vm =
          (pageWalk vaddr access).run vm := by
        simp [VirtualMemory.translate, isPagingEnabled, hpg, hc]
      let after := { vm with physicalSpace := afterTables vm.physicalSpace vm.cr3 vaddr }
      have hafter : Refilled vm after vaddr := ⟨rfl, rfl, .inr rfl, .inl rfl⟩
      cases hlook : lookupTables vm.physicalSpace (regsOf vm) vaddr access with
      | error f =>
        refine ⟨after, hafter, ?_⟩
        simp [hrun, hwalk, useEntry, currentEntry, hpg, hc, hlook, after]
      | ok entry =>
        cases hperm : permit (regsOf vm) vaddr access entry with
        | error f =>
          refine ⟨after, hafter, ?_⟩
          simp [hrun, hwalk, useEntry, currentEntry, hpg, hc, hlook, hperm, after]
        | ok u =>
          refine ⟨{ after with tlb := Function.update vm.tlb (vaddr >>> 12) (some entry) },
            ⟨rfl, rfl, .inr rfl, .inr ⟨entry, access, hc, hlook, rfl⟩⟩, ?_⟩
          simp [hrun, hwalk, useEntry, currentEntry, hpg, hc, hlook, hperm, after]
  · refine ⟨vm, .refl vm vaddr, ?_⟩
    simp [VirtualMemory.translate, useEntry, isPagingEnabled, hpg]

/-- With paging on, a translation that succeeds leaves its entry in the cache. -/
theorem translate_ok_cached {vm vm' : VirtualMemory δ} {vaddr : GuestAddr}
    {access : VirtualAccessType} {t : TranslationResult} (hpg : testBits vm.cr0 kCr0Paging)
    (h : (VirtualMemory.translate vaddr access).run vm = .ok t vm') :
    ∃ entry, vm'.tlb (vaddr >>> 12) = some entry ∧
      permit (regsOf vm) vaddr access entry = .ok () ∧
      t = ⟨frameAddr entry vaddr, entry.effectivePermissions⟩ := by
  cases hc : vm.tlb (vaddr >>> 12) with
  | some entry =>
    have hcheck := checkAccess_eq vm vaddr access entry
    cases hperm : permit (regsOf vm) vaddr access entry with
    | error f =>
      simp only [hperm] at hcheck
      simp [VirtualMemory.translate, isPagingEnabled, hpg, hc, hcheck] at h
    | ok u =>
      simp only [hperm] at hcheck
      simp [VirtualMemory.translate, isPagingEnabled, hpg, hc, hcheck] at h
      exact ⟨entry, by rw [← h.2]; exact hc, hperm, h.1.symm⟩
  | none =>
    have hwalk := pageWalk_eq vm vaddr access
    have hrun : (VirtualMemory.translate vaddr access).run vm =
        (pageWalk vaddr access).run vm := by
      simp [VirtualMemory.translate, isPagingEnabled, hpg, hc]
    rw [hrun, hwalk] at h
    cases hlook : lookupTables vm.physicalSpace (regsOf vm) vaddr access with
    | error f => simp [hlook] at h
    | ok entry =>
      cases hperm : permit (regsOf vm) vaddr access entry with
      | error f => simp [hlook, hperm] at h
      | ok u =>
        simp only [hlook, hperm, EStateM.Result.ok.injEq] at h
        exact ⟨entry, by rw [← h.2]; exact Function.update_self _ _ _, hperm, h.1.symm⟩

/-- In a coherent state the current entry is the tables' own. -/
theorem Coherent.currentEntry_eq {vm : VirtualMemory δ} (h : Coherent vm) (vaddr : GuestAddr)
    (access : VirtualAccessType) :
    currentEntry vm vaddr access = lookupTables vm.physicalSpace (regsOf vm) vaddr access := by
  unfold currentEntry
  cases hc : vm.tlb (vaddr >>> 12) with
  | some entry =>
    obtain ⟨pde, pte, htab, rfl⟩ := h.entries hc
    simp [lookupTables, htab]
  | none => rfl

/-- In a coherent state a translation shows what the cache-free walk shows. -/
theorem observe_translate {vm : VirtualMemory δ} (h : Coherent vm) (vaddr : GuestAddr)
    (access : VirtualAccessType) :
    observe ((VirtualMemory.translate vaddr access).run vm) =
      observeWalk vm.lastPageFault (walk vm.physicalSpace (regsOf vm) vaddr access) := by
  obtain ⟨vm', hfill, hrun⟩ := translate_spec vm vaddr access
  rw [hrun, h.currentEntry_eq, ← walk]
  cases walk vm.physicalSpace (regsOf vm) vaddr access with
  | ok t => simp [observe, observeWalk, hfill.fault]
  | error f => simp [observe, observeWalk, recorded, hfill.fault]

/-! ## Calls keep the invariant -/

/-- Coherence depends on the registers only through CR3. -/
theorem Coherent.congr {vm vm' : VirtualMemory δ} (h : Coherent vm) (hcr3 : vm'.cr3 = vm.cr3)
    (htlb : vm'.tlb = vm.tlb) (hsame : SameTables vm.cr3 vm.physicalSpace vm'.physicalSpace) :
    Coherent vm' := by
  unfold Coherent
  rw [hcr3, htlb]
  refine CacheSound.congr h ?_
  intro page entry hentry
  unfold tableEntry at hentry ⊢
  rw [← hsame (page <<< 12)]
  exact hentry

/-- An empty cache is coherent with any tables. -/
theorem coherent_of_empty {vm : VirtualMemory δ} (h : vm.tlb = fun _ => none) : Coherent vm := by
  unfold Coherent
  rw [h]
  exact CacheSound.empty _

/-- The entry a lookup finds is the one the tables describe for its page. -/
theorem tableEntry_of_lookup {space : AddressSpace δ} {regs : PagingRegisters}
    {vaddr : GuestAddr} {access : VirtualAccessType} {entry : TlbEntry}
    (h : lookupTables space regs vaddr access = .ok entry) :
    tableEntry space regs.cr3 (vaddr >>> 12) = some entry := by
  unfold lookupTables at h
  unfold tableEntry
  rw [readTables_congr (pageBase_page vaddr)]
  cases htab : readTables space regs.cr3 vaddr with
  | entries pde pte =>
    rw [htab] at h
    exact congrArg some (Except.ok.inj h)
  | unreadable e => rw [htab] at h; cases h
  | noDirectoryEntry => rw [htab] at h; cases h
  | noTableEntry => rw [htab] at h; cases h

/-- What a translation adds to the cache is coherent. -/
theorem Refilled.coherent {vm vm' : VirtualMemory δ} {vaddr : GuestAddr}
    (hfill : Refilled vm vm' vaddr) (h : Coherent vm)
    (hsame : SameTables vm.cr3 vm.physicalSpace vm'.physicalSpace) : Coherent vm' := by
  have hcr3 : vm'.cr3 = vm.cr3 := congrArg PagingRegisters.cr3 hfill.regs
  obtain htlb | ⟨entry, access, -, hlook, htlb⟩ := hfill.cache
  · exact h.congr hcr3 htlb hsame
  · have hentry := tableEntry_of_lookup hlook
    have hins : Coherent { vm with tlb := vm'.tlb } := by
      unfold Coherent
      rw [htlb]
      exact CacheSound.insert h hentry
    exact hins.congr hcr3 rfl hsame

/-- The state after a translation is a refilled one, up to the fault record. -/
theorem stateAfter_translate (vm : VirtualMemory δ) (vaddr : GuestAddr)
    (access : VirtualAccessType) :
    ∃ vm' fault, Refilled vm vm' vaddr ∧
      stateAfter ((VirtualMemory.translate vaddr access).run vm) =
        { vm' with lastPageFault := fault } := by
  obtain ⟨vm', hfill, hrun⟩ := translate_spec vm vaddr access
  rw [hrun]
  cases useEntry (regsOf vm) vaddr access (currentEntry vm vaddr access) with
  | ok t => exact ⟨vm', vm'.lastPageFault, hfill, rfl⟩
  | error f => exact ⟨vm', f.fault.or vm'.lastPageFault, hfill, rfl⟩

/-- A translation keeps the cache coherent, if its table reads keep the tables. -/
theorem coherent_translate {vm : VirtualMemory δ} (h : Coherent vm) (vaddr : GuestAddr)
    (access : VirtualAccessType)
    (hsame : SameTables vm.cr3 vm.physicalSpace
      (stateAfter ((VirtualMemory.translate vaddr access).run vm)).physicalSpace) :
    Coherent (stateAfter ((VirtualMemory.translate vaddr access).run vm)) := by
  obtain ⟨vm', fault, hfill, hstate⟩ := stateAfter_translate vm vaddr access
  rw [hstate] at hsame ⊢
  exact hfill.coherent h hsame

/-- **Every call keeps the cache coherent** as long as the tables keep their bytes. -/
theorem coherent_apply {vm : VirtualMemory δ} (h : Coherent vm) (call : VmCall δ)
    (hsame : SameTables vm.cr3 vm.physicalSpace (call.apply vm).physicalSpace) :
    Coherent (call.apply vm) := by
  cases call with
  | setCr0 cr0 =>
    simp only [VmCall.apply, VirtualMemory.setCr0]
    split
    · exact coherent_of_empty rfl
    · exact h
  | setCr3 cr3 => exact coherent_of_empty rfl
  | setCpl cpl => exact h
  | invalidateTranslation vaddr => exact CacheSound.erase h _
  | invalidateAll => exact coherent_of_empty rfl
  | translate vaddr access => exact coherent_translate h vaddr access hsame
  | memory space => exact h.congr rfl rfl hsame

/-- A run of calls over unchanged tables keeps the cache coherent. -/
theorem coherent_runCalls {calls : List (VmCall δ)} {vm : VirtualMemory δ} (h : Coherent vm)
    (hfix : TablesFixed vm calls) : Coherent (runCalls vm calls) := by
  induction calls generalizing vm with
  | nil => exact h
  | cons call calls ih => exact ih (coherent_apply h call hfix.1) hfix.2

/-- Unchanged tables along a run are unchanged along its beginning. -/
theorem tablesFixed_of_append {before after : List (VmCall δ)} {vm : VirtualMemory δ}
    (h : TablesFixed vm (before ++ after)) : TablesFixed vm before := by
  induction before generalizing vm with
  | nil => trivial
  | cons call calls ih => exact ⟨h.1, ih h.2⟩

/-- **The translation cache is invisible.**  Along any run of calls over unchanged
tables, every translation returns what the cache-free walk of the current memory,
CR0, CR3 and CPL returns, and leaves the page-fault record that walk leaves. -/
theorem translate_eq_walk (space : AddressSpace δ) (before after : List (VmCall δ))
    (vaddr : GuestAddr) (access : VirtualAccessType)
    (hfix : TablesFixed { physicalSpace := space } (before ++ .translate vaddr access :: after)) :
    let vm := runCalls { physicalSpace := space } before
    observe ((VirtualMemory.translate vaddr access).run vm) =
      observeWalk vm.lastPageFault (walk vm.physicalSpace (regsOf vm) vaddr access) := by
  intro vm
  have hstart : Coherent { physicalSpace := space } := coherent_of_empty rfl
  exact observe_translate (coherent_runCalls hstart (tablesFixed_of_append hfix)) vaddr access

/-! ## Tables in RAM -/

/-- Table reads from RAM change nothing. -/
theorem afterTables_ramOnly {space : AddressSpace δ} (h : space.RamOnly) (cr3 : U32)
    (vaddr : GuestAddr) : afterTables space cr3 vaddr = space := by
  have hq : ∀ addr, Quiet (AddressSpace.read32 addr) space :=
    fun addr => AddressSpace.quiet_read32 (h.noDevice addr 4 .read)
  unfold afterTables
  cases hr : (AddressSpace.read32 (pdeAddr cr3 vaddr)).run space with
  | error e s => exact (hq _).error hr
  | ok pde s =>
    cases (hq _).ok hr
    dsimp only
    split
    · rfl
    · exact hq _

/-- A translation over a RAM-only memory leaves it as it is. -/
theorem translate_memory_ramOnly {vm : VirtualMemory δ} (h : vm.physicalSpace.RamOnly)
    (vaddr : GuestAddr) (access : VirtualAccessType) :
    (stateAfter ((VirtualMemory.translate vaddr access).run vm)).physicalSpace =
      vm.physicalSpace := by
  obtain ⟨vm', fault, hfill, hstate⟩ := stateAfter_translate vm vaddr access
  rw [hstate]
  obtain hm | hm := hfill.memory
  · exact hm
  · exact hm.trans (afterTables_ramOnly h _ _)

/-- Over a RAM-only memory, calls that store nothing keep the tables. -/
theorem tablesFixed_ramOnly {calls : List (VmCall δ)} {vm : VirtualMemory δ}
    (h : vm.physicalSpace.RamOnly) (hcalls : ∀ call ∈ calls, call.storesMemory = false) :
    TablesFixed vm calls := by
  induction calls generalizing vm with
  | nil => trivial
  | cons call calls ih =>
    have hsame : (call.apply vm).physicalSpace = vm.physicalSpace := by
      cases call with
      | setCr0 cr0 =>
        simp only [VmCall.apply, VirtualMemory.setCr0]
        split <;> rfl
      | setCr3 cr3 => rfl
      | setCpl cpl => rfl
      | invalidateTranslation vaddr => rfl
      | invalidateAll => rfl
      | translate vaddr access => exact translate_memory_ramOnly h vaddr access
      | memory space => exact absurd (hcalls _ List.mem_cons_self) (by simp [VmCall.storesMemory])
    refine ⟨fun vaddr => by rw [hsame], ih (by rw [hsame]; exact h) ?_⟩
    exact fun c hc => hcalls c (List.mem_cons_of_mem _ hc)

/-- A retail bank at address zero whose page directory, at 4096, maps the first
four megabytes through the table at 8192; only page 3 is present there, read-only
and for the supervisor. -/
def pagedSpace : AddressSpace Unit where
  regions := [⟨0, 0x4000000, .all, .ram 0 0⟩]
  rams := fun _ => ⟨kRamSizeRetail, fun offset =>
    if offset = 0x1000 then 0x03 else if offset = 0x1001 then 0x20 else
    if offset = 0x200C then 0x01 else if offset = 0x200D then 0x50 else 0⟩
  devices := ()

/-- A read fills the cache for page 3; a later write by user code to that page is
refused with the fault of the cache-free walk. -/
theorem translate_eq_walk_after_privilege_change :
    let calls : List (VmCall Unit) :=
      [.setCr3 0x1000, .setCr0 0x80000000, .translate 0x3010 .read, .setCpl 3]
    let vm := runCalls { physicalSpace := pagedSpace } calls
    vm.tlb 3 = some ⟨5, .readExecute, false, false⟩ ∧
      observe ((VirtualMemory.translate 0x3020 .write).run vm) =
        observeWalk vm.lastPageFault (walk vm.physicalSpace (regsOf vm) 0x3020 .write) := by
  refine ⟨by decide, translate_eq_walk pagedSpace _ [] 0x3020 .write ?_⟩
  refine tablesFixed_ramOnly ?_ ?_
  · intro r hr
    simp only [pagedSpace, List.mem_singleton] at hr
    rw [hr]
    rfl
  · decide

end Xblob.Analysis
