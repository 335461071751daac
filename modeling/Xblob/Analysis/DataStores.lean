import Xblob.Analysis.SplitWrites
import Xblob.Analysis.VirtualReads

/-!
# Byte writes of virtual memory

Over private data pages a byte write stores into the cell of its address (`poked`).
No table entry is there and no other address has that cell, so the write changes
`peek` at its own address and nowhere else (`peek_poked`), and the configuration stays
what it was.  `writeEach_spec` is the same for a span of bytes.
-/

set_option autoImplicit false

namespace Xblob.Analysis

open Xblob.Memory Xblob.Memory.VirtualMemory Xblob.Memory.AddressSpace Xblob.Interface
open Xblob.Computation

variable {δ : Type}

/-! ## Storing one byte of a data page -/

/-- The state after a byte has been put into a cell. -/
def poked (vm : VirtualMemory δ) (c : Cell) (b : U8) : VirtualMemory δ :=
  { vm with
    physicalSpace := vm.physicalSpace.setRam c.1 ((vm.physicalSpace.rams c.1).poke c.2 b) }

/-- A byte poked changes that byte of RAM and no other. -/
theorem ramBytes_poked (vm : VirtualMemory δ) (c : Cell) (b : U8) (ram offset : ℕ) :
    ramBytes (poked vm c b) ram offset =
      if c.1 = ram ∧ c.2 = offset then b else ramBytes vm ram offset :=
  ramBytes_poke vm c.1 c.2 b ram offset

section Poked

variable {vm : VirtualMemory δ} {v : GuestAddr} {c : Cell} (hd : DataPages vm)
  (hc : dataCell vm v = some c) (b : U8)

include hd hc

/-- A table entry reads the same after a byte of a data page has changed. -/
theorem read32_poked (hpg : testBits vm.cr0 kCr0Paging) {addr : GuestAddr}
    (ht : TableAddr vm.physicalSpace vm.cr3 addr) :
    outcome ((AddressSpace.read32 addr).run (poked vm c b).physicalSpace) =
      outcome ((AddressSpace.read32 addr).run vm.physicalSpace) := by
  have hres : (poked vm c b).physicalSpace.resolveRegion addr 4 .read =
      vm.physicalSpace.resolveRegion addr 4 .read := rfl
  unfold AddressSpace.read32
  simp only [EStateM.run_bind, EStateM.run_get, run_ofExcept, hres]
  cases hr : vm.physicalSpace.resolveRegion addr 4 .read with
  | error e => rfl
  | ok reg =>
    cases htype : reg.type with
    | mmio handler =>
      have hram := hd.tablesInRam hpg addr ht reg hr
      simp [Region.isRam, htype] at hram
    | ram ram off =>
      have hbyte : ∀ i < 4, ramBytes (poked vm c b) ram (ramPos reg off addr + i) =
          ramBytes vm ram (ramPos reg off addr + i) := by
        intro i hi
        have hne := hd.tablesApart hpg addr ht _ ⟨reg, ram, off, hr, htype, i, hi, rfl⟩ v
        rw [ramBytes_poked, if_neg]
        rintro ⟨rfl, h2⟩
        exact hne (by rw [hc, ← h2])
      have h0 := hbyte 0 (by decide)
      have h1 := hbyte 1 (by decide)
      have h2 := hbyte 2 (by decide)
      have h3 := hbyte 3 (by decide)
      simp only [ramBytes, Nat.add_zero] at h0 h1 h2 h3
      simp [htype, h0, h1, h2, h3]

/-- So do the tables as a whole. -/
theorem readTables_poked (hpg : testBits vm.cr0 kCr0Paging) (w : GuestAddr) :
    readTables (poked vm c b).physicalSpace vm.cr3 w = readTables vm.physicalSpace vm.cr3 w := by
  have hq : ∀ addr, TableAddr vm.physicalSpace vm.cr3 addr →
      Quiet (AddressSpace.read32 addr) vm.physicalSpace ∧
        Quiet (AddressSpace.read32 addr) (poked vm c b).physicalSpace :=
    fun addr ht => ⟨quiet_read32 (hd.tablesInRam hpg addr ht),
      quiet_read32 (hd.tablesInRam hpg addr ht)⟩
  have hdir := hq _ (.directory w)
  unfold readTables
  rw [hdir.1.run_eq, hdir.2.run_eq, read32_poked hd hc b hpg (.directory w)]
  cases hpde : outcome ((AddressSpace.read32 (pdeAddr vm.cr3 w)).run vm.physicalSpace) with
  | error e => rfl
  | ok pde =>
    dsimp only
    by_cases hp : testBits pde kPagePresent
    · have htab := TableAddr.table w pde hpde hp
      have hpte := hq _ htab
      rw [hpte.1.run_eq, hpte.2.run_eq, read32_poked hd hc b hpg htab]
      cases outcome ((AddressSpace.read32 (pteAddr pde w)).run vm.physicalSpace) <;> rfl
    · simp [hp]

/-- A poke changes no translation that is used. -/
theorem currentEntry_poked (hpg : testBits vm.cr0 kCr0Paging) (w : GuestAddr)
    (access : VirtualAccessType) :
    currentEntry (poked vm c b) w access = currentEntry vm w access := by
  have htab := readTables_poked hd hc b hpg w
  unfold currentEntry lookupTables
  rw [show (poked vm c b).tlb = vm.tlb from rfl, show regsOf (poked vm c b) = regsOf vm from rfl,
    regsOf_cr3, htab]

/-- A poke changes no use of a translation. -/
theorem useEntry_poked (w : GuestAddr) (access : VirtualAccessType) :
    useEntry (regsOf (poked vm c b)) w access (currentEntry (poked vm c b) w access) =
      useEntry (regsOf vm) w access (currentEntry vm w access) :=
  useEntry_congr fun hpg => currentEntry_poked hd hc b hpg w access

/-- A poke changes no data address. -/
theorem dataAddr_poked (w : GuestAddr) : dataAddr (poked vm c b) w = dataAddr vm w := by
  unfold dataAddr
  rw [show (poked vm c b).cr0 = vm.cr0 from rfl]
  by_cases hpg : testBits vm.cr0 kCr0Paging
  · rw [if_pos hpg, if_pos hpg]
    congr 1
    apply Option.ext
    intro entry
    rw [← currentEntry_ok_iff _ w .read, ← currentEntry_ok_iff _ w .read,
      currentEntry_poked hd hc b hpg]
  · rw [if_neg hpg, if_neg hpg]

/-- A poke changes no data cell. -/
theorem dataCell_poked (w : GuestAddr) : dataCell (poked vm c b) w = dataCell vm w := by
  unfold dataCell
  rw [dataAddr_poked hd hc b]
  rfl

/-- The data pages are still data pages after a poke. -/
theorem dataPages_poked : DataPages (poked vm c b) := by
  have htable : testBits vm.cr0 kCr0Paging → ∀ addr,
      TableAddr (poked vm c b).physicalSpace vm.cr3 addr → TableAddr vm.physicalSpace vm.cr3 addr := by
    rintro hpg addr (⟨w⟩ | ⟨w, pde, hread, hp⟩)
    · exact .directory w
    · rw [read32_poked hd hc b hpg (.directory w)] at hread
      exact .table w pde hread hp
  constructor
  · intro w addr haddr
    rw [dataAddr_poked hd hc b] at haddr
    exact hd.inRegion w addr haddr
  · intro w w' c' hw hw'
    rw [dataCell_poked hd hc b] at hw hw'
    exact hd.apart w w' c' hw hw'
  · intro hpg addr haddr
    exact hd.tablesInRam hpg addr (htable hpg addr haddr)
  · intro hpg addr haddr c' hc' w
    rw [dataCell_poked hd hc b]
    exact hd.tablesApart hpg addr (htable hpg addr haddr) c' hc' w

/-- A readable memory is readable after a poke. -/
theorem readable_poked (hr : Readable vm) : Readable (poked vm c b) := by
  intro w addr reg haddr hreg
  rw [dataAddr_poked hd hc b] at haddr
  exact hr w addr reg haddr hreg

end Poked

/-- A well mapped space is so after a poke. -/
theorem wellMapped_poked {vm : VirtualMemory δ} (h : WellMapped vm.physicalSpace) (c : Cell)
    (b : U8) : WellMapped (poked vm c b).physicalSpace := by
  intro reg hreg ram off htype
  have hsize : ((poked vm c b).physicalSpace.rams ram).size = (vm.physicalSpace.rams ram).size := by
    by_cases heq : ram = c.1
    · subst heq
      simp [poked, setRam, Ram.poke]
    · simp [poked, setRam, heq]
  rw [hsize]
  exact h reg hreg ram off htype

/-- The cell of an address in a RAM page. -/
theorem dataCell_ramPage {vm : VirtualMemory δ} {v addr : GuestAddr}
    (haddr : dataAddr vm v = some addr) {reg : Region δ} {ram off : ℕ}
    (hram : RamPage vm.physicalSpace addr reg ram off) :
    dataCell vm v = some (ram, ramPos reg off addr) := by
  unfold dataCell cellAt
  rw [haddr, Option.bind_some, hram.page addr rfl]
  simp only [hram.type]

/-- Addresses of one page have their data addresses in one page, and apart. -/
theorem dataAddr_samePage {vm : VirtualMemory δ} {v w av aw : GuestAddr}
    (hpage : v >>> 12 = w >>> 12) (hv : dataAddr vm v = some av) (hw : dataAddr vm w = some aw) :
    av >>> 12 = aw >>> 12 ∧ (av = aw → v = w) := by
  unfold dataAddr at hv hw
  by_cases hpg : testBits vm.cr0 kCr0Paging
  · rw [if_pos hpg] at hv hw
    rw [← hpage] at hw
    cases he : pageEntry vm (v >>> 12) with
    | none => rw [he] at hv; cases hv
    | some entry =>
      rw [he] at hv hw
      cases hv
      cases hw
      exact ⟨frameAddr_page entry, frameAddr_inj entry hpage⟩
  · rw [if_neg hpg] at hv hw
    cases hv
    cases hw
    exact ⟨hpage, id⟩

/-- **Different addresses have different cells.** -/
theorem dataCell_inj {vm : VirtualMemory δ} (hd : DataPages vm)
    (hmap : WellMapped vm.physicalSpace) {v w : GuestAddr} {c : Cell}
    (hv : dataCell vm v = some c) (hw : dataCell vm w = some c) : v = w := by
  have hpage := hd.apart v w c hv hw
  obtain ⟨av, hav, hcv⟩ := Option.bind_eq_some_iff.mp hv
  obtain ⟨aw, haw, hcw⟩ := Option.bind_eq_some_iff.mp hw
  obtain ⟨hsame, hinj⟩ := dataAddr_samePage hpage hav haw
  obtain ⟨reg, ram, off, hram⟩ | hnone := ramPage_or_unmapped hmap (hd.inRegion v av hav)
  · have hram' : RamPage vm.physicalSpace aw reg ram off :=
      ⟨hram.type, fun q hq => hram.page q (hq.trans hsame.symm), hram.bank⟩
    have hpos : ramPos reg off av = ramPos reg off aw := by
      rw [dataCell_ramPage hav hram] at hv
      rw [dataCell_ramPage haw hram'] at hw
      exact congrArg Prod.snd (Option.some.inj (hv.trans hw.symm))
    have hb := hram.bounds
    have hb' := hram'.bounds
    apply hinj
    apply BitVec.eq_of_toNat_eq
    unfold ramPos at hpos
    omega
  · rw [cellAt, hnone av rfl] at hcv
    cases hcv

/-- Where writing is permitted, reading is. -/
theorem permit_write_read {regs : PagingRegisters} {v : GuestAddr} {entry : TlbEntry}
    (h : permit regs v .write entry = .ok ()) : permit regs v .read entry = .ok () := by
  unfold permit at h ⊢
  by_cases hc : regs.cpl = 3
  · rw [if_pos hc] at h ⊢
    by_cases hu : entry.userAccessible
    · simp [hu]
    · simp [hu] at h
  · rw [if_neg hc]
    simp

/-- An address that translates for writing translates for reading, to the same place. -/
theorem useEntry_write_read {vm : VirtualMemory δ} {v : GuestAddr} {t : TranslationResult}
    (h : useEntry (regsOf vm) v .write (currentEntry vm v .write) = .ok t) :
    useEntry (regsOf vm) v .read (currentEntry vm v .read) = .ok t := by
  unfold useEntry at h ⊢
  by_cases hpg : testBits vm.cr0 kCr0Paging
  · simp only [regsOf_cr0, hpg, Bool.not_true, Bool.false_eq_true, if_false] at h ⊢
    cases he : currentEntry vm v .write with
    | error f => simp [he] at h
    | ok entry =>
      have he' : currentEntry vm v .read = .ok entry := by
        rw [currentEntry_ok_iff] at he ⊢
        exact he
      cases hperm : permit (regsOf vm) v .write entry with
      | error f => simp [he, hperm] at h
      | ok u =>
        simp only [he, hperm] at h
        simp only [he', permit_write_read hperm]
        exact h
  · simpa [hpg] using h

/-- **A byte stored at `v` is read back at `v`, and nowhere else.** -/
theorem peek_poked {vm : VirtualMemory δ} (hd : DataPages vm) (hr : Readable vm)
    (hmap : WellMapped vm.physicalSpace) {v : GuestAddr} {c : Cell}
    (hc : dataCell vm v = some c) {t : TranslationResult}
    (ht : useEntry (regsOf vm) v .write (currentEntry vm v .write) = .ok t) (b : U8)
    (w : GuestAddr) :
    peek (poked vm c b) w = if w = v then .ok b else peek vm w := by
  have hmap' := wellMapped_poked hmap c b
  have hd' := dataPages_poked hd hc b
  have huse := useEntry_poked hd hc b w .read
  cases hu : useEntry (regsOf vm) w .read (currentEntry vm w .read) with
  | error f =>
    have hne : w ≠ v := by
      rintro rfl
      rw [useEntry_write_read ht] at hu
      cases hu
    rw [hu] at huse
    simp [hne, peek, huse, hu]
  | ok tw =>
    rw [hu] at huse
    have haddr := dataAddr_of_useEntry hu
    have haddr' := dataAddr_of_useEntry huse
    obtain ⟨reg, ram, off, hram⟩ | hnone := ramPage_or_unmapped hmap (hd.inRegion w _ haddr)
    · have hram' : RamPage (poked vm c b).physicalSpace tw.physicalAddress reg ram off :=
        ⟨hram.type, hram.page, hmap' reg (List.mem_of_find?_eq_some (hram.page _ rfl)) ram off
          hram.type⟩
      have hperm := hr w _ reg haddr (hram.page _ rfl)
      have hcell := dataCell_ramPage haddr hram
      have hbyte := ramBytes_poked vm c b ram (ramPos reg off tw.physicalAddress)
      have hpeek : peek vm w = .ok (ramBytes vm ram (ramPos reg off tw.physicalAddress)) := by
        simp [peek, hu, hram.read8, hperm, ramBytes]
      have hpeek' : peek (poked vm c b) w =
          .ok (ramBytes (poked vm c b) ram (ramPos reg off tw.physicalAddress)) := by
        simp [peek, huse, hram'.read8, hperm, ramBytes]
      rw [hpeek', hbyte, hpeek]
      by_cases hwv : w = v
      · subst hwv
        rw [hcell] at hc
        cases hc
        simp
      · have hne : ¬ (c.1 = ram ∧ c.2 = ramPos reg off tw.physicalAddress) := by
          rintro ⟨rfl, h2⟩
          refine hwv (dataCell_inj hd hmap hcell ?_)
          rw [hc, ← h2]
        rw [if_neg hne, if_neg hwv]
    · have hne : w ≠ v := by
        rintro rfl
        unfold dataCell cellAt at hc
        rw [haddr, Option.bind_some, hnone _ rfl] at hc
        cases hc
      rw [if_neg hne, peek_unmapped hu hnone, peek_unmapped huse hnone]

/-! ## Writes -/

/-- Where a state stays still, an address translates as before. -/
theorem Still.useEntry_eq {vm vm' : VirtualMemory δ} (h : Still vm vm') (v : GuestAddr)
    (access : VirtualAccessType) :
    useEntry (regsOf vm') v access (currentEntry vm' v access) =
      useEntry (regsOf vm) v access (currentEntry vm v access) := by
  rw [h.regs]
  exact useEntry_congr fun hpg => h.entries hpg v access

/-- A translation that succeeds, over private data pages. -/
theorem translate_ok_still {vm vm₁ : VirtualMemory δ} (hd : DataPages vm) {v : GuestAddr}
    {access : VirtualAccessType} {t : TranslationResult}
    (h : (VirtualMemory.translate v access).run vm = .ok t vm₁) :
    Still vm vm₁ ∧ useEntry (regsOf vm₁) v access (currentEntry vm₁ v access) = .ok t := by
  have hstill := still_translate hd v access
  have hout := outcome_translate vm v access
  rw [h, stateAfter_ok] at hstill
  rw [h, outcome_ok] at hout
  refine ⟨hstill, ?_⟩
  rw [hstill.useEntry_eq]
  cases hu : useEntry (regsOf vm) v access (currentEntry vm v access) with
  | ok t' => rw [hu] at hout; cases hout; rfl
  | error f => rw [hu] at hout; cases hout

/-- **A byte write stores into the cell of its address.** -/
theorem write8_poked {vm vm' : VirtualMemory δ} (hd : DataPages vm)
    (hmap : WellMapped vm.physicalSpace) {v : GuestAddr} {b : U8}
    (h : (VirtualMemory.write8 v b).run vm = .ok () vm') :
    ∃ vm₁ c t, Still vm vm₁ ∧ dataCell vm₁ v = some c ∧
      useEntry (regsOf vm₁) v .write (currentEntry vm₁ v .write) = .ok t ∧
      vm' = poked vm₁ c b := by
  simp only [VirtualMemory.write8, EStateM.run_bind] at h
  cases ht : (VirtualMemory.translate v .write).run vm with
  | error e vm₁ => rw [ht] at h; cases h
  | ok t vm₁ =>
    obtain ⟨hstill, hu⟩ := translate_ok_still hd ht
    have hd₁ := dataPages_still hd hstill
    have hmap₁ : WellMapped vm₁.physicalSpace := by rw [hstill.space]; exact hmap
    have haddr := dataAddr_of_useEntry hu
    rw [ht] at h
    simp only [onPhysical, run_zoom] at h
    obtain ⟨reg, ram, off, hram⟩ | hnone := ramPage_or_unmapped hmap₁ (hd₁.inRegion v _ haddr)
    · rw [hram.write8] at h
      by_cases hp : hasPermission reg.permissions .write
      · simp only [if_pos hp, EStateM.Result.ok.injEq, true_and] at h
        exact ⟨vm₁, _, t, hstill, dataCell_ramPage haddr hram, hu, h.symm⟩
      · simp [hp] at h
    · rw [write8_unmapped hnone] at h
      cases h

/-- The byte a span leaves at an address, if it writes there. -/
def written (v : GuestAddr) : List U8 → GuestAddr → Option U8
  | [], _ => none
  | b :: bs, w => (written (v + 1) bs w).or (if w = v then some b else none)

/-- The configurations the results are about. -/
structure Flat (vm : VirtualMemory δ) : Prop where
  pages : DataPages vm
  readable : Readable vm
  mapped : WellMapped vm.physicalSpace

/-- A flat memory stays flat where nothing moves. -/
theorem Flat.still {vm vm' : VirtualMemory δ} (hf : Flat vm) (h : Still vm vm') : Flat vm' := by
  refine ⟨dataPages_still hf.pages h, ?_, by rw [h.space]; exact hf.mapped⟩
  intro v addr reg haddr hreg
  rw [h.dataAddr] at haddr
  rw [h.space] at hreg
  exact hf.readable v addr reg haddr hreg

/-- **The byte writes of a span change the bytes of its addresses only.** -/
theorem writeEach_spec {bytes : List U8} {vm vm' : VirtualMemory δ} (hf : Flat vm)
    {v : GuestAddr} (h : (writeEach v bytes).run vm = .ok () vm') :
    Flat vm' ∧ ∀ w, peek vm' w = (written v bytes w).elim (peek vm w) .ok := by
  induction bytes generalizing vm v with
  | nil =>
    cases h
    exact ⟨hf, fun w => rfl⟩
  | cons b bs ih =>
    simp only [writeEach, EStateM.run_bind] at h
    cases hw : (VirtualMemory.write8 v b).run vm with
    | error e vm₂ => rw [hw] at h; cases h
    | ok u vm₂ =>
      rw [hw] at h
      obtain ⟨vm₁, c, t, hstill, hc, hu, rfl⟩ := write8_poked hf.pages hf.mapped hw
      have hf₁ := hf.still hstill
      have hf₂ : Flat (poked vm₁ c b) :=
        ⟨dataPages_poked hf₁.pages hc b, readable_poked hf₁.pages hc b hf₁.readable,
          wellMapped_poked hf₁.mapped c b⟩
      obtain ⟨hf', hpeek⟩ := ih hf₂ h
      refine ⟨hf', fun w => ?_⟩
      rw [hpeek w, peek_poked hf₁.pages hf₁.readable hf₁.mapped hc hu, hstill.peek]
      simp only [written]
      cases written (v + 1) bs w with
      | some b' => rfl
      | none =>
        by_cases hwv : w = v
        · simp [hwv]
        · simp [hwv]

end Xblob.Analysis
