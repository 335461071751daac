import Xblob.Analysis.PageAccess
import Xblob.Analysis.TlbCoherence

/-!
# Reads of virtual memory

Over private data pages a read cannot be noticed afterwards: it leaves the state
`Still`, with only the cache and the fault record different.  `peek` is what a byte
read returns, as a function of the state, and every wider read, whether it stays in
a page or is split at a page boundary, is made of the `peek`s at its addresses.
-/

set_option autoImplicit false

namespace Xblob.Analysis

open Xblob.Memory Xblob.Memory.VirtualMemory Xblob.Memory.AddressSpace Xblob.Interface
open Xblob.Computation

variable {δ : Type}

/-! ## States no access can tell apart -/

/-- Only the cache and the fault record differ, and the entries in force are the same. -/
structure Still (vm vm' : VirtualMemory δ) : Prop where
  regs : regsOf vm' = regsOf vm
  space : vm'.physicalSpace = vm.physicalSpace
  entries : testBits vm.cr0 kCr0Paging → ∀ v access,
    currentEntry vm' v access = currentEntry vm v access

/-- Nothing moves. -/
theorem Still.refl (vm : VirtualMemory δ) : Still vm vm := ⟨rfl, rfl, fun _ _ _ => rfl⟩

/-- Standing still composes. -/
theorem Still.trans {vm₁ vm₂ vm₃ : VirtualMemory δ} (h : Still vm₁ vm₂) (h' : Still vm₂ vm₃) :
    Still vm₁ vm₃ := by
  have hcr0 : vm₂.cr0 = vm₁.cr0 := congrArg PagingRegisters.cr0 h.regs
  refine ⟨h'.regs.trans h.regs, h'.space.trans h.space, fun hpg v access => ?_⟩
  rw [h'.entries (by rw [hcr0]; exact hpg), h.entries hpg]

/-- The entry in force for a page, seen through the translation of its addresses. -/
theorem currentEntry_ok_iff (vm : VirtualMemory δ) (v : GuestAddr) (access : VirtualAccessType)
    (entry : TlbEntry) :
    currentEntry vm v access = .ok entry ↔ pageEntry vm (v >>> 12) = some entry := by
  unfold currentEntry pageEntry
  cases vm.tlb (v >>> 12) with
  | some e => simp
  | none =>
    simp only [Option.none_or]
    unfold lookupTables tableEntry
    rw [readTables_congr (pageBase_page v), regsOf_cr3]
    cases readTables vm.physicalSpace vm.cr3 v <;> simp

/-- The entry of a page stays where nothing moves. -/
theorem Still.pageEntry {vm vm' : VirtualMemory δ} (h : Still vm vm')
    (hpg : testBits vm.cr0 kCr0Paging) (v : GuestAddr) :
    pageEntry vm' (v >>> 12) = pageEntry vm (v >>> 12) := by
  apply Option.ext
  intro entry
  rw [← currentEntry_ok_iff vm' v .read, ← currentEntry_ok_iff vm v .read, h.entries hpg]

/-- The address of data stays where nothing moves. -/
theorem Still.dataAddr {vm vm' : VirtualMemory δ} (h : Still vm vm') (v : GuestAddr) :
    dataAddr vm' v = dataAddr vm v := by
  have hcr0 : vm'.cr0 = vm.cr0 := congrArg PagingRegisters.cr0 h.regs
  unfold Interface.dataAddr
  rw [hcr0]
  by_cases hpg : testBits vm.cr0 kCr0Paging
  · rw [if_pos hpg, if_pos hpg, h.pageEntry hpg]
  · rw [if_neg hpg, if_neg hpg]

/-- The cell of data stays where nothing moves. -/
theorem Still.dataCell {vm vm' : VirtualMemory δ} (h : Still vm vm') (v : GuestAddr) :
    dataCell vm' v = dataCell vm v := by
  unfold Interface.dataCell
  rw [h.dataAddr, h.space]

/-- The data pages stay where nothing moves. -/
theorem dataPages_still {vm vm' : VirtualMemory δ} (hd : DataPages vm) (h : Still vm vm') :
    DataPages vm' := by
  have hcr0 : vm'.cr0 = vm.cr0 := congrArg PagingRegisters.cr0 h.regs
  have hcr3 : vm'.cr3 = vm.cr3 := congrArg PagingRegisters.cr3 h.regs
  constructor
  · intro v addr haddr
    rw [h.dataAddr] at haddr
    rw [h.space]
    exact hd.inRegion v addr haddr
  · intro v w c hv hw
    rw [h.dataCell] at hv hw
    exact hd.apart v w c hv hw
  · intro hpg
    rw [h.space, hcr3]
    rw [hcr0] at hpg
    exact hd.tablesInRam hpg
  · intro hpg
    rw [h.space, hcr3]
    rw [hcr0] at hpg
    intro addr haddr c hc v
    rw [h.dataCell]
    exact hd.tablesApart hpg addr haddr c hc v

/-- Table reads over private data pages change nothing. -/
theorem afterTables_dataPages {vm : VirtualMemory δ} (hd : DataPages vm)
    (hpg : testBits vm.cr0 kCr0Paging) (v : GuestAddr) :
    afterTables vm.physicalSpace vm.cr3 v = vm.physicalSpace := by
  have hquiet : ∀ addr, TableAddr vm.physicalSpace vm.cr3 addr →
      Quiet (AddressSpace.read32 addr) vm.physicalSpace :=
    fun addr h => quiet_read32 (hd.tablesInRam hpg addr h)
  unfold afterTables
  have hdir := hquiet _ (.directory v)
  cases hr : (AddressSpace.read32 (pdeAddr vm.cr3 v)).run vm.physicalSpace with
  | error e s => exact hdir.error hr
  | ok pde s =>
    cases hdir.ok hr
    dsimp only
    by_cases hp : testBits pde kPagePresent
    · simp only [hp, Bool.not_true, Bool.false_eq_true, if_false]
      exact hquiet _ (.table v pde (by rw [hr]; rfl) hp)
    · simp [hp]

/-- **A translation over private data pages cannot be noticed.** -/
theorem still_translate {vm : VirtualMemory δ} (hd : DataPages vm) (v : GuestAddr)
    (access : VirtualAccessType) :
    Still vm (stateAfter ((VirtualMemory.translate v access).run vm)) := by
  by_cases hpg : testBits vm.cr0 kCr0Paging
  · obtain ⟨vm', fault, hfill, hstate⟩ := stateAfter_translate vm v access
    have hspace : vm'.physicalSpace = vm.physicalSpace := by
      obtain hm | hm := hfill.memory
      · exact hm
      · exact hm.trans (afterTables_dataPages hd hpg v)
    have hregs : regsOf vm' = regsOf vm := hfill.regs
    rw [hstate]
    refine ⟨hregs, hspace, fun _ w access' => ?_⟩
    have hsame : currentEntry vm' w access' = currentEntry vm w access' := by
      unfold currentEntry
      rw [hspace, hregs]
      obtain htlb | ⟨entry, access'', hnone, hlook, htlb⟩ := hfill.cache
      · rw [htlb]
      · rw [htlb]
        by_cases hpage : w >>> 12 = v >>> 12
        · -- the entry that was added is the one the tables give for the whole page
          rw [hpage, Function.update_self, hnone]
          unfold lookupTables at hlook ⊢
          rw [readTables_congr hpage]
          cases htab : readTables vm.physicalSpace (regsOf vm).cr3 v with
          | entries pde pte => rw [htab] at hlook; cases hlook; rfl
          | unreadable e => rw [htab] at hlook; cases hlook
          | noDirectoryEntry => rw [htab] at hlook; cases hlook
          | noTableEntry => rw [htab] at hlook; cases hlook
        · rw [Function.update_of_ne hpage]
    exact hsame
  · have hrun : (VirtualMemory.translate v access).run vm = .ok ⟨v, .all⟩ vm := by
      simp [VirtualMemory.translate, isPagingEnabled, hpg]
    rw [hrun]
    exact .refl vm

/-- What a translation returns, over the entry in force. -/
theorem outcome_translate (vm : VirtualMemory δ) (v : GuestAddr) (access : VirtualAccessType) :
    outcome ((VirtualMemory.translate v access).run vm) =
      match useEntry (regsOf vm) v access (currentEntry vm v access) with
      | .ok t => .ok t
      | .error f => .error f.error := by
  obtain ⟨vm', -, hrun⟩ := translate_spec vm v access
  rw [hrun]
  cases useEntry (regsOf vm) v access (currentEntry vm v access) <;> rfl

/-- A successful translation gives the data address. -/
theorem dataAddr_of_useEntry {vm : VirtualMemory δ} {v : GuestAddr} {access : VirtualAccessType}
    {t : TranslationResult}
    (h : useEntry (regsOf vm) v access (currentEntry vm v access) = .ok t) :
    dataAddr vm v = some t.physicalAddress := by
  unfold useEntry at h
  unfold dataAddr
  by_cases hpg : testBits vm.cr0 kCr0Paging
  · rw [if_pos hpg]
    simp only [regsOf_cr0, hpg, Bool.not_true, Bool.false_eq_true, if_false] at h
    cases he : currentEntry vm v access with
    | error f => simp [he] at h
    | ok entry =>
      simp only [he] at h
      cases hperm : permit (regsOf vm) v access entry with
      | error f => simp [hperm] at h
      | ok u =>
        simp only [hperm, Except.ok.injEq] at h
        rw [(currentEntry_ok_iff vm v access entry).mp he, ← h]
        rfl
  · rw [if_neg hpg]
    simp [hpg] at h
    rw [← h]

/-- A use of a translation is the same where the entry is. -/
theorem useEntry_congr {regs : PagingRegisters} {v : GuestAddr} {access : VirtualAccessType}
    {e e' : Except WalkFailure TlbEntry} (h : testBits regs.cr0 kCr0Paging → e = e') :
    useEntry regs v access e = useEntry regs v access e' := by
  unfold useEntry
  by_cases hpg : testBits regs.cr0 kCr0Paging
  · rw [h hpg]
  · simp [hpg]

/-! ## The bytes of virtual memory -/

/-- **What a byte read returns**, without the state it leaves. -/
def peek (vm : VirtualMemory δ) (v : GuestAddr) : Result U8 :=
  match useEntry (regsOf vm) v .read (currentEntry vm v .read) with
  | .ok t => outcome ((AddressSpace.read8 t.physicalAddress).run vm.physicalSpace)
  | .error f => .error f.error

/-- What can be read stays where nothing moves. -/
theorem Still.peek {vm vm' : VirtualMemory δ} (h : Still vm vm') (v : GuestAddr) :
    peek vm' v = peek vm v := by
  have hentry : useEntry (regsOf vm) v .read (currentEntry vm' v .read) =
      useEntry (regsOf vm) v .read (currentEntry vm v .read) :=
    useEntry_congr fun hpg => h.entries hpg v .read
  unfold Analysis.peek
  rw [h.regs, h.space, hentry]

/-- An access that translates and then reads physical memory, when the physical read
changes nothing. -/
theorem read_spec {α : Type} {vm : VirtualMemory δ} (hd : DataPages vm) (v : GuestAddr)
    (load : GuestAddr → EStateM Error (AddressSpace δ) α)
    (hload : ∀ addr, dataAddr vm v = some addr → Quiet (load addr) vm.physicalSpace) :
    let r := (do
      let trans ← VirtualMemory.translate v .read
      onPhysical (load trans.physicalAddress) : EStateM Error (VirtualMemory δ) α).run vm
    Still vm (stateAfter r) ∧
      outcome r = match useEntry (regsOf vm) v .read (currentEntry vm v .read) with
        | .ok t => outcome ((load t.physicalAddress).run vm.physicalSpace)
        | .error f => .error f.error := by
  have hstill := still_translate hd v .read
  have hout := outcome_translate vm v .read
  intro r
  cases ht : (VirtualMemory.translate v .read).run vm with
  | error e vm₁ =>
    have hr : r = .error e vm₁ := by simp only [r, EStateM.run_bind, ht]
    rw [ht] at hstill hout
    rw [hr]
    refine ⟨hstill, ?_⟩
    cases hu : useEntry (regsOf vm) v .read (currentEntry vm v .read) with
    | ok t => rw [hu] at hout; cases hout
    | error f => rw [hu] at hout; cases hout; rfl
  | ok t vm₁ =>
    rw [ht, stateAfter_ok] at hstill
    rw [ht, outcome_ok] at hout
    have hu : useEntry (regsOf vm) v .read (currentEntry vm v .read) = .ok t := by
      cases hu : useEntry (regsOf vm) v .read (currentEntry vm v .read) with
      | ok t' => rw [hu] at hout; cases hout; rfl
      | error f => rw [hu] at hout; cases hout
    have hq := hload _ (dataAddr_of_useEntry hu)
    have hr : r = match (load t.physicalAddress).run vm.physicalSpace with
        | .ok a s => .ok a { vm₁ with physicalSpace := s }
        | .error e s => .error e { vm₁ with physicalSpace := s } := by
      simp only [r, EStateM.run_bind, ht, onPhysical, run_zoom, hstill.space]
      cases (load t.physicalAddress).run vm.physicalSpace <;> rfl
    have hsame : ({ vm₁ with physicalSpace := vm.physicalSpace } : VirtualMemory δ) = vm₁ := by
      rw [← hstill.space]
    rw [hr, hu]
    cases hl : (load t.physicalAddress).run vm.physicalSpace with
    | ok a s =>
      cases hq.ok hl
      simp only [hsame, stateAfter_ok, hl]
      exact ⟨hstill, rfl⟩
    | error e s =>
      cases hq.error hl
      simp only [hsame, stateAfter_error, hl]
      exact ⟨hstill, rfl⟩

/-- A page inside one RAM region, or in none, is not behind a device. -/
theorem noDevice_of_pageInRegion {space : AddressSpace δ} {addr : GuestAddr}
    (h : PageInRegion space addr) (len : GuestSize) (perm : MemoryPermission) :
    space.NoDevice addr len perm := by
  intro reg hres
  have hin : resolveIn addr len perm space.regions = .ok reg := by
    unfold resolveRegion at hres
    split at hres
    · cases hres
    · split at hres
      · cases hres
      · exact hres
  rw [resolveIn_eq] at hin
  obtain ⟨reg', hram, hpage⟩ | hnone := h
  · have hfound := hpage addr rfl
    unfold regionAt at hfound
    rw [hfound] at hin
    have hreg : reg' = reg := by
      by_cases hc : reg'.containsRange addr len
      · by_cases hp : hasPermission reg'.permissions perm
        · simpa [hc, hp] using hin
        · simp [hc, hp] at hin
      · simp [hc] at hin
    rw [← hreg]
    exact hram
  · have hfound := hnone addr rfl
    unfold regionAt at hfound
    rw [hfound] at hin
    cases hin

section Reads

variable {vm : VirtualMemory δ}

/-- From any state no access can tell from `vm`, the computation returns `r` and leaves
another such state. -/
def Reads {α : Type} (vm : VirtualMemory δ) (f : EStateM Error (VirtualMemory δ) α)
    (r : Result α) : Prop :=
  ∀ vm', Still vm vm' → Still vm (stateAfter (f.run vm')) ∧ outcome (f.run vm') = r

/-- A read has its result for its outcome. -/
theorem Reads.outcome_eq {α : Type} {f : EStateM Error (VirtualMemory δ) α} {r : Result α}
    (h : Reads vm f r) : outcome (f.run vm) = r :=
  (h vm (.refl vm)).2

/-- A value returned is read. -/
theorem Reads.pure {α : Type} (a : α) : Reads vm (Pure.pure a) (.ok a) :=
  fun _ h => ⟨h, rfl⟩

/-- A sequence of reads is a read. -/
theorem Reads.bind {α β : Type} {x : EStateM Error (VirtualMemory δ) α} {rx : Result α}
    {f : α → EStateM Error (VirtualMemory δ) β} {rf : α → Result β} (hx : Reads vm x rx)
    (hf : ∀ a, Reads vm (f a) (rf a)) : Reads vm (x >>= f) (rx >>= rf) := by
  intro vm' hstill
  obtain ⟨hs, hout⟩ := hx vm' hstill
  rw [EStateM.run_bind]
  cases hr : x.run vm' with
  | error e vm₁ =>
    rw [hr] at hs hout
    rw [← hout]
    exact ⟨hs, rfl⟩
  | ok a vm₁ =>
    rw [hr] at hs hout
    rw [← hout]
    exact hf a vm₁ hs

/-- A read in one physical access, when the access changes nothing. -/
theorem reads_load {α : Type} (hd : DataPages vm) (v : GuestAddr)
    (load : GuestAddr → EStateM Error (AddressSpace δ) α)
    (hload : ∀ addr, dataAddr vm v = some addr → Quiet (load addr) vm.physicalSpace) :
    Reads vm (do
      let trans ← VirtualMemory.translate v .read
      onPhysical (load trans.physicalAddress))
      (match useEntry (regsOf vm) v .read (currentEntry vm v .read) with
        | .ok t => outcome ((load t.physicalAddress).run vm.physicalSpace)
        | .error f => .error f.error) := by
  intro vm' hstill
  have hload' : ∀ addr, dataAddr vm' v = some addr → Quiet (load addr) vm'.physicalSpace := by
    intro addr haddr
    rw [hstill.dataAddr] at haddr
    rw [hstill.space]
    exact hload addr haddr
  have hentry : useEntry (regsOf vm) v .read (currentEntry vm' v .read) =
      useEntry (regsOf vm) v .read (currentEntry vm v .read) :=
    useEntry_congr fun hpg => hstill.entries hpg v .read
  obtain ⟨hs, hout⟩ := read_spec (dataPages_still hd hstill) v load hload'
  rw [hstill.regs, hstill.space, hentry] at hout
  exact ⟨hstill.trans hs, hout⟩

/-- **A byte read returns `peek` and cannot be noticed.** -/
theorem reads_read8 (hd : DataPages vm) (v : GuestAddr) :
    Reads vm (VirtualMemory.read8 v) (peek vm v) :=
  reads_load hd v AddressSpace.read8 fun addr haddr =>
    quiet_read8 (noDevice_of_pageInRegion (hd.inRegion v addr haddr) 1 .read)

/-- What byte reads at `n` successive addresses return. -/
def peeks (vm : VirtualMemory δ) (v : GuestAddr) : ℕ → Result (List U8)
  | 0 => .ok []
  | n + 1 => do
    let b ← peek vm v
    let bs ← peeks vm (v + 1) n
    .ok (b :: bs)

/-- A span read returns the bytes at its addresses and cannot be noticed. -/
theorem reads_readBytes (hd : DataPages vm) (v : GuestAddr) (n : ℕ) :
    Reads vm (VirtualMemory.readBytes v n) (peeks vm v n) := by
  induction n generalizing v with
  | zero => exact .pure []
  | succ n ih =>
    exact (reads_read8 hd v).bind fun b => (ih (v + 1)).bind fun bs => .pure (b :: bs)

/-- Inside a page, an access is permitted at one address as at another. -/
theorem permit_ok_congr {regs : PagingRegisters} {v w : GuestAddr} {access : VirtualAccessType}
    {entry : TlbEntry} (h : permit regs v access entry = .ok ()) :
    permit regs w access entry = .ok () := by
  unfold permit at h ⊢
  by_cases hc : regs.cpl = 3
  · rw [if_pos hc] at h ⊢
    by_cases hu : entry.userAccessible
    · by_cases hw : access = .write && !entry.writable
      · simp [hu, hw] at h
      · simp [hu, hw]
    · simp [hu] at h
  · rw [if_neg hc] at h ⊢
    by_cases hw : access = .write && testBits regs.cr0 kCr0WriteProtect && !entry.writable
    · rw [if_pos hw] at h
      cases h
    · rw [if_neg hw]

/-- Inside a page, the translation moves with the address. -/
theorem useEntry_move {v : GuestAddr} {access : VirtualAccessType} {t : TranslationResult}
    (h : useEntry (regsOf vm) v access (currentEntry vm v access) = .ok t) {i : ℕ}
    (hi : v.toNat % 4096 + i < 4096) :
    ∃ t', useEntry (regsOf vm) (v + BitVec.ofNat 32 i) access
        (currentEntry vm (v + BitVec.ofNat 32 i) access) = .ok t' ∧
      t'.physicalAddress = t.physicalAddress + BitVec.ofNat 32 i := by
  unfold useEntry at h ⊢
  by_cases hpg : testBits vm.cr0 kCr0Paging
  · simp only [regsOf_cr0, hpg, Bool.not_true, Bool.false_eq_true, if_false] at h ⊢
    cases he : currentEntry vm v access with
    | error f => simp [he] at h
    | ok entry =>
      simp only [he] at h
      have he' : currentEntry vm (v + BitVec.ofNat 32 i) access = .ok entry := by
        rw [currentEntry_ok_iff, page_add hi]
        exact (currentEntry_ok_iff vm v access entry).mp he
      cases hperm : permit (regsOf vm) v access entry with
      | error f => simp [hperm] at h
      | ok u =>
        simp only [hperm, Except.ok.injEq] at h
        refine ⟨⟨frameAddr entry (v + BitVec.ofNat 32 i), entry.effectivePermissions⟩, ?_, ?_⟩
        · simp only [he', permit_ok_congr hperm]
        · rw [← h]
          exact frameAddr_add entry hi
  · simp [hpg] at h
    refine ⟨⟨v + BitVec.ofNat 32 i, .all⟩, by simp [hpg], ?_⟩
    rw [← h]

/-- A translation keeps the offset in the page. -/
theorem useEntry_offset {v : GuestAddr} {access : VirtualAccessType} {t : TranslationResult}
    {e : Except WalkFailure TlbEntry} (h : useEntry (regsOf vm) v access e = .ok t) :
    t.physicalAddress.toNat % 4096 = v.toNat % 4096 := by
  unfold useEntry at h
  by_cases hpg : testBits vm.cr0 kCr0Paging
  · simp only [regsOf_cr0, hpg, Bool.not_true, Bool.false_eq_true, if_false] at h
    cases e with
    | error f => simp at h
    | ok entry =>
      cases hperm : permit (regsOf vm) v access entry with
      | error f => simp [hperm] at h
      | ok u =>
        simp only [hperm, Except.ok.injEq] at h
        have hframe := toNat_frame entry
        rw [← h, toNat_frameAddr]
        omega
  · simp [hpg] at h
    rw [← h]

/-- A byte of a RAM page, read through an address of the page. -/
theorem peek_ramPage {v : GuestAddr} {t : TranslationResult}
    (h : useEntry (regsOf vm) v .read (currentEntry vm v .read) = .ok t) {reg : Region δ}
    {ram off : ℕ} (hram : RamPage vm.physicalSpace t.physicalAddress reg ram off) {i : ℕ}
    (hi : v.toNat % 4096 + i < 4096) :
    peek vm (v + BitVec.ofNat 32 i) =
      if hasPermission reg.permissions .read then
        .ok ((vm.physicalSpace.rams ram).data (ramPos reg off t.physicalAddress + i))
      else .error (notGranted (t.physicalAddress + BitVec.ofNat 32 i)) := by
  obtain ⟨t', ht', haddr⟩ := useEntry_move h hi
  have hi' : t.physicalAddress.toNat % 4096 + i < 4096 := by
    rw [useEntry_offset h]
    exact hi
  unfold peek
  rw [ht']
  dsimp only
  rw [haddr, (hram.move hi').read8, hram.pos_add hi']
  split <;> rfl

/-- A byte of a page without a region. -/
theorem peek_unmapped {v : GuestAddr} {t : TranslationResult}
    (h : useEntry (regsOf vm) v .read (currentEntry vm v .read) = .ok t)
    (hnone : ∀ q : GuestAddr, q >>> 12 = t.physicalAddress >>> 12 →
      regionAt vm.physicalSpace q = none) :
    peek vm v = .error (unmapped t.physicalAddress) := by
  unfold peek
  rw [h]
  dsimp only
  rw [read8_unmapped hnone]
  rfl

/-- **A 16-bit read is the two byte reads.** -/
theorem reads_read16 (hd : DataPages vm) (hmap : WellMapped vm.physicalSpace) (v : GuestAddr) :
    Reads vm (VirtualMemory.read16 v) (do
      let b0 ← peek vm v
      let b1 ← peek vm (v + 1)
      .ok (word16 b0 b1)) := by
  unfold VirtualMemory.read16
  by_cases hpage : (v &&& 0xFFF) ≤ 0xFFE
  · rw [if_pos hpage]
    have hin : v.toNat % 4096 + 2 ≤ 4096 := by
      have hlit : (0xFFE : U32).toNat = 0xFFE := rfl
      rw [BitVec.le_def, toNat_pageOffset, hlit] at hpage
      omega
    have hload := reads_load hd v AddressSpace.read16 fun addr haddr =>
      quiet_read16 (noDevice_of_pageInRegion (hd.inRegion v addr haddr) 2 .read)
    cases hu : useEntry (regsOf vm) v .read (currentEntry vm v .read) with
    | error f =>
      have hpeek : peek vm v = .error f.error := by simp [peek, hu]
      rw [hu] at hload
      rw [hpeek]
      exact hload
    | ok t =>
      have hoff := useEntry_offset hu
      have hregion := hd.inRegion v _ (dataAddr_of_useEntry hu)
      rw [hu] at hload
      dsimp only at hload
      obtain ⟨reg, ram, off, hram⟩ | hnone := ramPage_or_unmapped hmap hregion
      · have h0 := peek_ramPage hu hram (i := 0) (by omega)
        have h1 := peek_ramPage hu hram (i := 1) (by omega)
        rw [hram.read16 (by omega)] at hload
        simp only [BitVec.ofNat_eq_ofNat, BitVec.add_zero, Nat.add_zero] at h0 h1 ⊢
        rw [h0, h1]
        by_cases hp : hasPermission reg.permissions .read
        · simp only [if_pos hp] at hload ⊢
          exact hload
        · simp only [if_neg hp] at hload ⊢
          exact hload
      · rw [read16_unmapped hnone (by omega)] at hload
        rw [peek_unmapped hu hnone]
        exact hload
  · rw [if_neg hpage]
    exact (reads_read8 hd v).bind fun b0 =>
      (reads_read8 hd (v + 1)).bind fun b1 => .pure (word16 b0 b1)

/-- **A 32-bit read is the four byte reads.** -/
theorem reads_read32 (hd : DataPages vm) (hmap : WellMapped vm.physicalSpace) (v : GuestAddr) :
    Reads vm (VirtualMemory.read32 v) (do
      let b0 ← peek vm v
      let b1 ← peek vm (v + 1)
      let b2 ← peek vm (v + 2)
      let b3 ← peek vm (v + 3)
      .ok (word32 b0 b1 b2 b3)) := by
  unfold VirtualMemory.read32
  by_cases hpage : (v &&& 0xFFF) ≤ 0xFFC
  · rw [if_pos hpage]
    have hin : v.toNat % 4096 + 4 ≤ 4096 := by
      have hlit : (0xFFC : U32).toNat = 0xFFC := rfl
      rw [BitVec.le_def, toNat_pageOffset, hlit] at hpage
      omega
    have hload := reads_load hd v AddressSpace.read32 fun addr haddr =>
      quiet_read32 (noDevice_of_pageInRegion (hd.inRegion v addr haddr) 4 .read)
    cases hu : useEntry (regsOf vm) v .read (currentEntry vm v .read) with
    | error f =>
      have hpeek : peek vm v = .error f.error := by simp [peek, hu]
      rw [hu] at hload
      rw [hpeek]
      exact hload
    | ok t =>
      have hoff := useEntry_offset hu
      have hregion := hd.inRegion v _ (dataAddr_of_useEntry hu)
      rw [hu] at hload
      dsimp only at hload
      obtain ⟨reg, ram, off, hram⟩ | hnone := ramPage_or_unmapped hmap hregion
      · have h0 := peek_ramPage hu hram (i := 0) (by omega)
        have h1 := peek_ramPage hu hram (i := 1) (by omega)
        have h2 := peek_ramPage hu hram (i := 2) (by omega)
        have h3 := peek_ramPage hu hram (i := 3) (by omega)
        rw [hram.read32 (by omega)] at hload
        simp only [BitVec.ofNat_eq_ofNat, BitVec.add_zero, Nat.add_zero] at h0 h1 h2 h3 ⊢
        rw [h0, h1, h2, h3]
        by_cases hp : hasPermission reg.permissions .read
        · simp only [if_pos hp] at hload ⊢
          exact hload
        · simp only [if_neg hp] at hload ⊢
          exact hload
      · rw [read32_unmapped hnone (by omega)] at hload
        rw [peek_unmapped hu hnone]
        exact hload
  · rw [if_neg hpage]
    exact (reads_read8 hd v).bind fun b0 => (reads_read8 hd (v + 1)).bind fun b1 =>
      (reads_read8 hd (v + 2)).bind fun b2 => (reads_read8 hd (v + 3)).bind fun b3 =>
        .pure (word32 b0 b1 b2 b3)

end Reads

end Xblob.Analysis
