import Mathlib.Data.BitVec
import Mathlib.Data.List.Forall2
import Xblob.Analysis.BlockAccess
import Xblob.Analysis.GateDelivery
import Xblob.Analysis.RoundTrip
import Xblob.Analysis.WideWrites
import Xblob.Interface.Interrupts

/-!
# IRET undoes a delivery

The frame is read back if every dword of it is: if the writes after it miss its bytes, and the
read comes to where the write went.  Over virtual memory it does because the write has left the
translation in the cache, whatever the frame itself may have done to the tables.
-/

set_option autoImplicit false

namespace Xblob.Analysis

open Xblob.Computation Xblob.Interface Xblob.Memory Xblob.Processor Xblob.Processor.Exec

variable {δ M : Type} [GuestMemory M]

/-! ## Memories that are made of cells -/

/-- How dwords are stored in a memory and read from it.  `Ready` says of an address that it has
been written and can be read without a change; it stays so in later memories. -/
structure CellMemory (M : Type) [GuestMemory M] where
  cells : M → GuestAddr → Option (List Cell)
  byteAt : M → Cell → U8
  Ready : M → GuestAddr → Prop
  Later : M → M → Prop
  later_refl : ∀ m, Later m m
  later_trans : ∀ {m₁ m₂ m₃}, Later m₁ m₂ → Later m₂ m₃ → Later m₁ m₃
  ready_later : ∀ {m m' addr}, Later m m' → Ready m addr → Ready m' addr
  cells_later : ∀ {m m' addr}, Later m m' → Ready m addr → cells m' addr = cells m addr
  write : ∀ {m m' addr x}, (GuestMemory.write32 addr x).run m = .ok () m' →
    Later m m' ∧ Ready m' addr ∧ ∀ cs, cells m' addr = some cs → cs.Nodup →
      cs.map (byteAt m') = dwordBytes x ∧ ∀ c, c ∉ cs → byteAt m' c = byteAt m c
  read : ∀ {m addr cs x}, Ready m addr → cells m addr = some cs →
    cs.map (byteAt m) = dwordBytes x → (GuestMemory.read32 addr).run m = .ok x m

namespace CellMemory

variable (R : CellMemory M)

/-- Dwords with bytes of their own are read back after all of them are stored. -/
theorem readBack {words : List (GuestAddr × U32)} {m m' : M} {css : List (List Cell)}
    (hrun : (storeWords words).run m = .ok () m')
    (hcells : List.Forall₂ (fun w cs => R.cells m' w.1 = some cs) words css)
    (hnodup : css.flatten.Nodup) :
    R.Later m m' ∧ (∀ c, c ∉ css.flatten → R.byteAt m' c = R.byteAt m c) ∧
      ∀ w ∈ words, (GuestMemory.read32 w.1).run m' = .ok w.2 m' := by
  induction words generalizing m css with
  | nil =>
    cases hrun
    cases hcells
    exact ⟨R.later_refl _, fun _ _ => rfl, by simp⟩
  | cons w words ih =>
    cases hcells with
    | @cons _ cs _ css hfirst hrest =>
      rw [List.flatten_cons, List.nodup_append] at hnodup
      obtain ⟨hcs, hcss, hapart⟩ := hnodup
      simp only [storeWords, EStateM.run_bind] at hrun
      cases hwrite : (GuestMemory.write32 w.1 w.2).run m with
      | error e m₁ =>
        rw [hwrite] at hrun
        cases hrun
      | ok u m₁ =>
        rw [hwrite] at hrun
        obtain ⟨hlater₁, hready, hstored⟩ := R.write hwrite
        obtain ⟨hlater, hkept, hreads⟩ := ih hrun hrest hcss
        rw [R.cells_later hlater hready] at hfirst
        obtain ⟨hbytes, hother⟩ := hstored cs hfirst hcs
        refine ⟨R.later_trans hlater₁ hlater, ?_, ?_⟩
        · intro c hc
          rw [List.flatten_cons, List.mem_append, not_or] at hc
          rw [hkept c hc.2, hother c hc.1]
        · refine List.forall_mem_cons.2 ⟨?_, hreads⟩
          apply R.read (R.ready_later hlater hready)
          · rw [R.cells_later hlater hready]
            exact hfirst
          · rw [← hbytes]
            apply List.map_congr_left
            intro c hc
            apply hkept
            intro hc'
            exact hapart c hc c hc' rfl

end CellMemory

/-! ## Physical memory -/

/-- The cells from a place on, by bank and offset. -/
theorem mem_cellsFrom {c d : Cell} {n : ℕ} :
    d ∈ cellsFrom c n ↔ d.1 = c.1 ∧ (Span.mk c.2 n).Holds d.2 := by
  obtain ⟨ram, pos⟩ := d
  simp only [cellsFrom, List.mem_map, List.mem_range, Prod.mk.injEq, Span.Holds, Span.stop]
  constructor
  · rintro ⟨i, hi, hram, hpos⟩
    exact ⟨hram.symm, by omega, by omega⟩
  · rintro ⟨hram, hle, hlt⟩
    exact ⟨pos - c.2, by omega, hram.symm, by omega⟩

/-- The bytes that are stored in a bank are in its cells. -/
theorem map_cellsFrom_storedAt (space : AddressSpace δ) (c : Cell) (bytes : List U8) :
    (cellsFrom c bytes.length).map (fun d => ((storedAt space c bytes).rams d.1).data d.2) =
      bytes := by
  apply List.ext_getElem
  · simp [cellsFrom]
  · intro i hi hi'
    simp only [cellsFrom, List.getElem_map, List.getElem_range, storedAt_data]
    rw [if_pos ⟨trivial, by simp only [Span.Holds, Span.stop]; omega⟩, Nat.add_sub_cancel_left,
      List.getD_eq_getElem?_getD, List.getElem?_eq_getElem hi']
    rfl

/-- A dword that is written where it can be read. -/
theorem write32_stores {space space' : AddressSpace δ} {addr : GuestAddr} {x : U32}
    (h : (AddressSpace.write32 addr x).run space = .ok () space') :
    SameTargets space space' ∧
      ∀ c, blockAt space addr 4 .read = some c → space' = storedAt space c (dwordBytes x) := by
  simp only [AddressSpace.write32, EStateM.run_bind, EStateM.run_get] at h
  cases hreg : space.resolveRegion addr 4 .write with
  | error e =>
    rw [hreg] at h
    cases h
  | ok reg =>
    rw [hreg] at h
    simp only [run_ofExcept] at h
    cases htype : reg.type with
    | ram ram off =>
      rw [htype] at h
      cases h
      refine ⟨⟨rfl, ?_⟩, ?_⟩
      · intro ram'
        exact (storedAt_size space (ram, AddressSpace.ramPos reg off addr) (dwordBytes x) ram').symm
      · intro c hc
        obtain ⟨reg', off', hreg', htype', hpos⟩ := blockAt_some hc
        have hsame := resolveRegion_unique hreg hreg'
        subst hsame
        rw [htype] at htype'
        obtain ⟨hbank, rfl⟩ := RegionType.ram.inj htype'
        rw [storedAt, ← hbank, hpos]
        rfl
    | mmio handler =>
      rw [htype] at h
      have hkept := (AddressSpace.keeps_writeMmio handler reg addr _ _ space).ok h
      refine ⟨⟨(congrArg Prod.fst hkept).symm, ?_⟩, ?_⟩
      · intro ram
        exact congrArg (fun rams => (rams ram).size) (congrArg Prod.snd hkept).symm
      · intro c hc
        obtain ⟨reg', off', hreg', htype', -⟩ := blockAt_some hc
        have hsame := resolveRegion_unique hreg hreg'
        subst hsame
        rw [htype] at htype'
        cases htype'

/-- A dword that can be read is read from its cells. -/
theorem read32_block {space : AddressSpace δ} {addr : GuestAddr} {c : Cell}
    (h : blockAt space addr 4 .read = some c) {x : U32}
    (hbytes : (cellsFrom c 4).map (fun d => (space.rams d.1).data d.2) = dwordBytes x) :
    (AddressSpace.read32 addr).run space = .ok x space := by
  obtain ⟨reg, off, hreg, htype, hpos⟩ := blockAt_some h
  have hreg' : space.resolveRegion addr 4 .read = .ok reg := hreg
  simp only [AddressSpace.read32, EStateM.run_bind, EStateM.run_get, run_ofExcept, hreg', htype,
    EStateM.run_pure, ← hpos]
  have hrange : List.range 4 = [0, 1, 2, 3] := rfl
  simp only [cellsFrom, dwordBytes, hrange, List.map_cons, List.map_nil, List.cons.injEq,
    and_true] at hbytes
  obtain ⟨h0, h1, h2, h3⟩ := hbytes
  rw [h0, h1, h2, h3, word32_byteOf]

/-- Physical memory is made of cells. -/
def physicalCells (δ : Type) : CellMemory (AddressSpace δ) where
  cells := wordCells
  byteAt space c := (space.rams c.1).data c.2
  Ready _ _ := True
  Later space space' := space'.regions = space.regions
  later_refl _ := rfl
  later_trans h h' := h'.trans h
  ready_later _ _ := trivial
  cells_later {space space' addr} h _ := by
    simp only [wordCells, blockAt_congr h]
  write {space space' addr x} h := by
    obtain ⟨htargets, hstored⟩ := write32_stores h
    refine ⟨htargets.1.symm, trivial, ?_⟩
    intro cs hcs _
    rw [wordCells, blockAt_congr htargets.1.symm] at hcs
    obtain ⟨c, hc, rfl⟩ := Option.map_eq_some_iff.1 hcs
    rw [hstored c hc]
    refine ⟨map_cellsFrom_storedAt space c (dwordBytes x), ?_⟩
    intro d hd
    rw [mem_cellsFrom] at hd
    simp only [storedAt_data]
    exact if_neg hd
  read {space addr cs x} _ hcs hbytes := by
    obtain ⟨c, hc, rfl⟩ := Option.map_eq_some_iff.1 hcs
    exact read32_block hc hbytes

/-! ## Virtual memory -/

/-- A byte of RAM that is read lies in its bank. -/
def InBank (space : AddressSpace δ) (addr : GuestAddr) : Prop :=
  ∀ c, blockAt space addr 1 .read = some c → c.2 < (space.rams c.1).size

/-- A space has its own targets. -/
theorem sameTargets_refl (space : AddressSpace δ) : SameTargets space space := ⟨rfl, fun _ => rfl⟩

/-- Having the same targets composes. -/
theorem SameTargets.trans {a b c : AddressSpace δ} (h : SameTargets a b) (h' : SameTargets b c) :
    SameTargets a c := ⟨h.1.trans h'.1, fun ram => (h.2 ram).trans (h'.2 ram)⟩

/-- An address in a bank stays in one where the targets are the same. -/
theorem SameTargets.inBank {a b : AddressSpace δ} (h : SameTargets a b) {addr : GuestAddr}
    (hbank : InBank a addr) : InBank b addr := by
  intro c hc
  rw [blockAt_congr h.1.symm] at hc
  rw [← h.2 c.1]
  exact hbank c hc

/-- A byte that is written where it can be read. -/
theorem write8_stores {space space' : AddressSpace δ} {addr : GuestAddr} {b : U8}
    (h : (AddressSpace.write8 addr b).run space = .ok () space') :
    SameTargets space space' ∧ InBank space addr ∧
      ∀ c, blockAt space addr 1 .read = some c → space' = storedAt space c [b] := by
  simp only [AddressSpace.write8, EStateM.run_bind, EStateM.run_get] at h
  cases hreg : space.resolveRegion addr 1 .write with
  | error e =>
    rw [hreg] at h
    cases h
  | ok reg =>
    rw [hreg] at h
    simp only [run_ofExcept] at h
    have hplace : ∀ {c : Cell}, blockAt space addr 1 .read = some c →
        ∃ off, reg.type = .ram c.1 off ∧ c.2 = AddressSpace.ramPos reg off addr := by
      intro c hc
      obtain ⟨reg', off', hreg', htype', hpos⟩ := blockAt_some hc
      have hsame := resolveRegion_unique hreg hreg'
      subst hsame
      exact ⟨off', htype', hpos⟩
    cases htype : reg.type with
    | ram ram off =>
      rw [htype] at h
      dsimp only at h
      rw [run_ite] at h
      split at h
      · cases h
      next hsize =>
        cases h
        refine ⟨(sameTargets_refl space).poke ram _ b, ?_, ?_⟩
        · intro c hc
          obtain ⟨off', htype', hpos⟩ := hplace hc
          rw [htype] at htype'
          obtain ⟨hbank, rfl⟩ := RegionType.ram.inj htype'
          rw [← hbank, hpos]
          omega
        · intro c hc
          obtain ⟨off', htype', hpos⟩ := hplace hc
          rw [htype] at htype'
          obtain ⟨hbank, rfl⟩ := RegionType.ram.inj htype'
          rw [storedAt, ← hbank, hpos]
          rfl
    | mmio handler =>
      rw [htype] at h
      have hkept := (AddressSpace.keeps_writeMmio handler reg addr _ _ space).ok h
      refine ⟨⟨(congrArg Prod.fst hkept).symm, ?_⟩, ?_, ?_⟩
      · intro ram
        exact congrArg (fun rams => (rams ram).size) (congrArg Prod.snd hkept).symm
      · intro c hc
        obtain ⟨off', htype', -⟩ := hplace hc
        rw [htype] at htype'
        cases htype'
      · intro c hc
        obtain ⟨off', htype', -⟩ := hplace hc
        rw [htype] at htype'
        cases htype'

/-- The byte of a cell. -/
def byteIn (space : AddressSpace δ) (c : Cell) : U8 := (space.rams c.1).data c.2

/-- One byte stored, read back or not. -/
theorem byteIn_storedAt_single (space : AddressSpace δ) (c d : Cell) (b : U8) :
    byteIn (storedAt space c [b]) d = if d = c then b else byteIn space d := by
  rw [byteIn, storedAt_data]
  by_cases hd : d = c
  · subst hd
    rw [if_pos ⟨rfl, by simp [Span.Holds, Span.stop]⟩, if_pos rfl]
    simp
  · rw [if_neg hd, if_neg]
    · rfl
    · rintro ⟨hbank, hholds⟩
      apply hd
      refine Prod.ext hbank ?_
      simp only [Span.Holds, Span.stop, List.length_singleton] at hholds
      omega

/-- Bytes that are stored one after the other where they can be read. -/
theorem storeBytes_stores {stores : List (GuestAddr × U8)} {vm vm' : VirtualMemory δ}
    (h : (VirtualMemory.storeBytes stores).run vm = .ok () vm') :
    SameTargets vm.physicalSpace vm'.physicalSpace ∧
      vm' = { vm with physicalSpace := vm'.physicalSpace } ∧
      (∀ store ∈ stores, InBank vm.physicalSpace store.1) ∧
      ∀ cs, List.Forall₂ (fun store c => blockAt vm.physicalSpace store.1 1 .read = some c)
        stores cs → cs.Nodup →
        cs.map (byteIn vm'.physicalSpace) = stores.map Prod.snd ∧
        ∀ c, c ∉ cs → byteIn vm'.physicalSpace c = byteIn vm.physicalSpace c := by
  induction stores generalizing vm with
  | nil =>
    cases h
    refine ⟨sameTargets_refl _, rfl, by simp, ?_⟩
    intro cs hcs _
    cases hcs
    exact ⟨rfl, fun _ _ => rfl⟩
  | cons store rest ih =>
    obtain ⟨addr, b⟩ := store
    simp only [VirtualMemory.storeBytes, EStateM.run_bind, VirtualMemory.onPhysical, run_zoom] at h
    cases hwrite : (AddressSpace.write8 addr b).run vm.physicalSpace with
    | error e space =>
      rw [hwrite] at h
      cases h
    | ok u space =>
      rw [hwrite] at h
      obtain ⟨htargets, hbank, hstored⟩ := write8_stores hwrite
      obtain ⟨htargets', hvm', hbanks, hbytes⟩ := ih h
      refine ⟨htargets.trans htargets', hvm', ?_, ?_⟩
      · refine List.forall_mem_cons.2 ⟨hbank, ?_⟩
        intro store hstore
        exact SameTargets.inBank ⟨htargets.1.symm, fun ram => (htargets.2 ram).symm⟩
          (hbanks store hstore)
      · intro cs hcs hnodup
        cases hcs with
        | @cons _ c _ cs hc hrest =>
          obtain ⟨hfresh, hnodup⟩ := List.nodup_cons.1 hnodup
          have hrest' : List.Forall₂ (fun store c => blockAt space store.1 1 .read = some c)
              rest cs := by
            refine hrest.imp ?_
            intro store d hd
            rwa [blockAt_congr htargets.1.symm]
          obtain ⟨hmap, hother⟩ := hbytes cs hrest' hnodup
          rw [List.map_cons, List.map_cons, hmap, hother c hfresh, hstored c hc]
          refine ⟨?_, ?_⟩
          · simp [byteIn_storedAt_single]
          · intro d hd
            rw [List.mem_cons, not_or] at hd
            rw [hother d hd.2, hstored c hc, byteIn_storedAt_single, if_neg hd.1]

/-- A byte of a bank is read from its cell. -/
theorem read8_block {space : AddressSpace δ} {addr : GuestAddr} {c : Cell}
    (h : blockAt space addr 1 .read = some c) (hbank : InBank space addr) :
    (AddressSpace.read8 addr).run space = .ok (byteIn space c) space := by
  obtain ⟨reg, off, hreg, htype, hpos⟩ := blockAt_some h
  have hreg' : space.resolveRegion addr 1 .read = .ok reg := hreg
  have hsize : ¬ (space.rams c.1).size ≤ c.2 := by
    have := hbank c h
    omega
  simp only [AddressSpace.read8, EStateM.run_bind, EStateM.run_get, run_ofExcept, hreg', htype,
    ← hpos]
  simp [Ram.read8, hsize, byteIn]

/-! ## What a write leaves in the cache -/

/-- A hit is the address the data of the page is at. -/
theorem Hit.dataAddr {vm : VirtualMemory δ} {v p : GuestAddr} (h : Hit vm v p) :
    dataAddr vm v = some p := by
  obtain ⟨hpg, rfl⟩ | ⟨hpg, entry, hc, -, rfl⟩ := h
  · simp [Interface.dataAddr, hpg]
  · simp [Interface.dataAddr, hpg, pageEntry, hc]

/-- What was written can be read. -/
theorem Hit.translateRead {vm : VirtualMemory δ} {v p : GuestAddr} (h : Hit vm v p) :
    ∃ perms, (VirtualMemory.translate v .read).run vm = .ok ⟨p, perms⟩ vm := by
  obtain ⟨hpg, rfl⟩ | ⟨hpg, entry, hc, hperm, rfl⟩ := h
  · exact ⟨.all, by simp [VirtualMemory.translate, VirtualMemory.isPagingEnabled, hpg]⟩
  · have hcheck := checkAccess_eq vm v .read entry
    simp only [permit_write_read hperm] at hcheck
    refine ⟨entry.effectivePermissions, ?_⟩
    simp [VirtualMemory.translate, VirtualMemory.isPagingEnabled, hpg, hc, hcheck, frameAddr]

/-- Where the four bytes of a dword across two pages have gone. -/
theorem hits_four {vm : VirtualMemory δ} {v p₀ p₁ p₂ p₃ : GuestAddr}
    (h : Hits vm v [p₀, p₁, p₂, p₃]) :
    Hit vm v p₀ ∧ Hit vm (v + 1) p₁ ∧ Hit vm (v + 2) p₂ ∧ Hit vm (v + 3) p₃ := by
  obtain ⟨h₀, h₁, h₂, h₃, -⟩ := h
  rw [show v + 1 + 1 = v + 2 by bv_omega] at h₂
  rw [show v + 1 + 1 + 1 = v + 3 by bv_omega] at h₃
  exact ⟨h₀, h₁, h₂, h₃⟩

/-- The memory after an operation finds every translation the one before it found. -/
def HitsKept (vm vm' : VirtualMemory δ) : Prop :=
  (∀ w p, Hit vm w p → Hit vm' w p) ∧ SameTargets vm.physicalSpace vm'.physicalSpace

/-- Keeping the hits composes. -/
theorem HitsKept.trans {vm₁ vm₂ vm₃ : VirtualMemory δ} (h : HitsKept vm₁ vm₂)
    (h' : HitsKept vm₂ vm₃) : HitsKept vm₁ vm₃ :=
  ⟨fun w p hw => h'.1 w p (h.1 w p hw), h.2.trans h'.2⟩

/-- A translation that changed no bank. -/
theorem hitsKept_of_storage {vm vm' : VirtualMemory δ} (hhits : ∀ w p, Hit vm w p → Hit vm' w p)
    (h : vm'.physicalSpace.storage = vm.physicalSpace.storage) : HitsKept vm vm' := by
  refine ⟨hhits, (congrArg Prod.fst h).symm, ?_⟩
  intro ram
  exact congrArg (fun rams => (rams ram).size) (congrArg Prod.snd h).symm

/-- A translation for writing keeps the hits there were. -/
theorem hitsKept_translate {vm vm' : VirtualMemory δ} {v : GuestAddr} {t : TranslationResult}
    (h : (VirtualMemory.translate v .write).run vm = .ok t vm') : HitsKept vm vm' := by
  refine hitsKept_of_storage ?_ ((keeps_translate vm v .write).ok h)
  obtain ⟨vm₁, fault, hfill, hstate⟩ := stateAfter_translate vm v .write
  rw [h, stateAfter_ok] at hstate
  intro w p hw
  have hw₁ : Hit vm₁ w p := hw.refilled hfill
  rw [hstate]
  exact hw₁

/-- A word that was written: what is needed to read it without a walk. -/
def WordReady (vm : VirtualMemory δ) (v : GuestAddr) : Prop :=
  if v &&& 0xFFF ≤ 0xFFC then ∃ p, Hit vm v p
  else ∃ p₀ p₁ p₂ p₃, Hits vm v [p₀, p₁, p₂, p₃] ∧
    ∀ p ∈ [p₀, p₁, p₂, p₃], InBank vm.physicalSpace p

/-- A word that is ready stays so where the hits are kept. -/
theorem WordReady.later {vm vm' : VirtualMemory δ} {v : GuestAddr} (h : HitsKept vm vm')
    (hready : WordReady vm v) : WordReady vm' v := by
  unfold WordReady at hready ⊢
  split
  next hpage =>
    rw [if_pos hpage] at hready
    obtain ⟨p, hp⟩ := hready
    exact ⟨p, h.1 v p hp⟩
  next hpage =>
    rw [if_neg hpage] at hready
    obtain ⟨p₀, p₁, p₂, p₃, hhits, hbanks⟩ := hready
    obtain ⟨h₀, h₁, h₂, h₃, -⟩ := hhits
    refine ⟨p₀, p₁, p₂, p₃, ⟨h.1 _ _ h₀, h.1 _ _ h₁, h.1 _ _ h₂, h.1 _ _ h₃, trivial⟩, ?_⟩
    intro p hp
    exact h.2.inBank (hbanks p hp)

/-- The cells of a dword in a page. -/
theorem pagedCells_inPage {vm : VirtualMemory δ} {v p : GuestAddr} (hpage : v &&& 0xFFF ≤ 0xFFC)
    (h : Hit vm v p) : pagedCells vm v = wordCells vm.physicalSpace p := by
  rw [pagedCells, if_pos hpage, h.dataAddr]
  rfl

/-- The cell of a byte on a page that is cached. -/
theorem byteCell_hit {vm : VirtualMemory δ} {v p : GuestAddr} (h : Hit vm v p) :
    byteCell vm v = blockAt vm.physicalSpace p 1 .read := by
  rw [byteCell, h.dataAddr]
  rfl

/-- The cells of a dword across two pages. -/
theorem pagedCells_crossing {vm : VirtualMemory δ} {v p₀ p₁ p₂ p₃ : GuestAddr}
    (hpage : ¬ v &&& 0xFFF ≤ 0xFFC) (h : Hits vm v [p₀, p₁, p₂, p₃]) (cs : List Cell) :
    pagedCells vm v = some cs ↔
      List.Forall₂ (fun p c => blockAt vm.physicalSpace p 1 .read = some c) [p₀, p₁, p₂, p₃] cs := by
  obtain ⟨h₀, h₁, h₂, h₃⟩ := hits_four h
  simp only [pagedCells, if_neg hpage, byteCell_hit h₀, byteCell_hit h₁, byteCell_hit h₂,
    byteCell_hit h₃, Option.bind_eq_bind, Option.bind_eq_some_iff, Option.some.injEq,
    List.forall₂_cons_left_iff, List.forall₂_nil_left_iff]
  constructor
  · rintro ⟨c₀, hc₀, c₁, hc₁, c₂, hc₂, c₃, hc₃, rfl⟩
    exact ⟨c₀, _, hc₀, ⟨c₁, _, hc₁, ⟨c₂, _, hc₂, ⟨c₃, _, hc₃, rfl, rfl⟩, rfl⟩, rfl⟩, rfl⟩
  · rintro ⟨c₀, _, hc₀, ⟨c₁, _, hc₁, ⟨c₂, _, hc₂, ⟨c₃, _, hc₃, rfl, rfl⟩, rfl⟩, rfl⟩, rfl⟩
    exact ⟨c₀, hc₀, c₁, hc₁, c₂, hc₂, c₃, hc₃, rfl⟩

/-- The cells of a word that is ready stay the same. -/
theorem pagedCells_later {vm vm' : VirtualMemory δ} {v : GuestAddr} (h : HitsKept vm vm')
    (hready : WordReady vm v) : pagedCells vm' v = pagedCells vm v := by
  unfold WordReady at hready
  split at hready
  next hpage =>
    obtain ⟨p, hp⟩ := hready
    rw [pagedCells_inPage hpage hp, pagedCells_inPage hpage (h.1 v p hp), wordCells, wordCells,
      blockAt_congr h.2.1]
  next hpage =>
    obtain ⟨p₀, p₁, p₂, p₃, hhits, -⟩ := hready
    have hhits' : Hits vm' v [p₀, p₁, p₂, p₃] := by
      obtain ⟨h₀, h₁, h₂, h₃, -⟩ := hhits
      exact ⟨h.1 _ _ h₀, h.1 _ _ h₁, h.1 _ _ h₂, h.1 _ _ h₃, trivial⟩
    apply Option.ext
    intro cs
    rw [pagedCells_crossing hpage hhits', pagedCells_crossing hpage hhits]
    simp only [blockAt_congr h.2.1]

/-- A dword that is written, over virtual memory. -/
theorem virtualWrite32_stores {vm vm' : VirtualMemory δ} {v : GuestAddr} {x : U32}
    (h : (VirtualMemory.write32 v x).run vm = .ok () vm') :
    HitsKept vm vm' ∧ WordReady vm' v ∧ ∀ cs, pagedCells vm' v = some cs → cs.Nodup →
      cs.map (byteIn vm'.physicalSpace) = dwordBytes x ∧
      ∀ c, c ∉ cs → byteIn vm'.physicalSpace c = byteIn vm.physicalSpace c := by
  unfold VirtualMemory.write32 at h
  rw [run_ite] at h
  split at h
  next hpage =>
    simp only [EStateM.run_bind, VirtualMemory.onPhysical, run_zoom] at h
    cases htrans : (VirtualMemory.translate v .write).run vm with
    | error e vm₁ =>
      rw [htrans] at h
      cases h
    | ok t vm₁ =>
      rw [htrans] at h
      dsimp only at h
      cases hwrite : (AddressSpace.write32 t.physicalAddress x).run vm₁.physicalSpace with
      | error e space =>
        rw [hwrite] at h
        cases h
      | ok u space =>
        rw [hwrite] at h
        cases h
        obtain ⟨htargets, hstored⟩ := write32_stores hwrite
        have hhit₁ : Hit vm₁ v t.physicalAddress := hit_of_translate htrans
        have hhit : Hit { vm₁ with physicalSpace := space } v t.physicalAddress := hhit₁
        have hkept : HitsKept vm vm₁ := hitsKept_translate htrans
        have hbanks : vm₁.physicalSpace.rams = vm.physicalSpace.rams :=
          congrArg Prod.snd ((keeps_translate vm v .write).ok htrans)
        refine ⟨hkept.trans ⟨fun w p hw => hw, htargets⟩, ?_, ?_⟩
        · rw [WordReady, if_pos hpage]
          exact ⟨_, hhit⟩
        · intro cs hcs _
          rw [pagedCells_inPage hpage hhit, wordCells, blockAt_congr htargets.1.symm] at hcs
          obtain ⟨c, hc, rfl⟩ := Option.map_eq_some_iff.1 hcs
          dsimp only
          rw [hstored c hc]
          refine ⟨map_cellsFrom_storedAt vm₁.physicalSpace c (dwordBytes x), ?_⟩
          intro d hd
          have hd' : ¬ (d.1 = c.1 ∧ (Span.mk c.2 (dwordBytes x).length).Holds d.2) := by
            rwa [mem_cellsFrom] at hd
          rw [byteIn, storedAt_data, if_neg hd', byteIn, hbanks]
  next hpage =>
    simp only [EStateM.run_bind] at h
    cases htrans : (VirtualMemory.translateBytes v 4).run vm with
    | error e vm₁ =>
      rw [htrans] at h
      cases h
    | ok phys vm₁ =>
      rw [htrans] at h
      dsimp only at h
      obtain ⟨hlen, hhits, hmono⟩ := hits_of_translateBytes htrans
      obtain ⟨p₀, p₁, p₂, p₃, rfl⟩ := List.length_eq_four.1 hlen
      obtain ⟨htargets, hvm', hbanks, hbytes⟩ := storeBytes_stores h
      have hstorage := (keeps_translateBytes vm v 4).ok htrans
      have hrams : vm₁.physicalSpace.rams = vm.physicalSpace.rams := congrArg Prod.snd hstorage
      have hhits' : Hits vm' v [p₀, p₁, p₂, p₃] := by
        rw [hvm']
        exact hhits.onSpace _
      have hkept : HitsKept vm₁ vm' := by
        refine ⟨?_, htargets⟩
        rw [hvm']
        exact fun w p hw => hw
      refine ⟨(hitsKept_of_storage hmono hstorage).trans hkept, ?_, ?_⟩
      · rw [WordReady, if_neg hpage]
        refine ⟨p₀, p₁, p₂, p₃, hhits', ?_⟩
        intro p hp
        apply htargets.inBank
        have hbanks' : ∀ p ∈ [p₀, p₁, p₂, p₃], InBank vm₁.physicalSpace p := by
          simpa using hbanks
        exact hbanks' p hp
      · intro cs hcs hnodup
        rw [pagedCells_crossing hpage hhits'] at hcs
        have hstores : List.Forall₂
            (fun store c => blockAt vm₁.physicalSpace store.1 1 .read = some c)
            ([p₀, p₁, p₂, p₃].zip (dwordBytes x)) cs := by
          simpa [dwordBytes, blockAt_congr htargets.1.symm, List.forall₂_cons_left_iff,
            List.forall₂_nil_left_iff] using hcs
        obtain ⟨hmap, hother⟩ := hbytes cs hstores hnodup
        refine ⟨?_, ?_⟩
        · rw [hmap]
          simp [dwordBytes]
        · intro c hc
          rw [hother c hc, byteIn, byteIn, hrams]

/-- A byte that was written is read from its cell. -/
theorem virtualRead8_hit {vm : VirtualMemory δ} {v p : GuestAddr} {c : Cell} (h : Hit vm v p)
    (hbank : InBank vm.physicalSpace p) (hc : blockAt vm.physicalSpace p 1 .read = some c) :
    (VirtualMemory.read8 v).run vm = .ok (byteIn vm.physicalSpace c) vm := by
  obtain ⟨perms, htrans⟩ := h.translateRead
  simp only [VirtualMemory.read8, EStateM.run_bind, htrans, VirtualMemory.onPhysical, run_zoom,
    read8_block hc hbank]

/-- A dword that was written is read from its cells. -/
theorem virtualRead32_ready {vm : VirtualMemory δ} {v : GuestAddr} {cs : List Cell} {x : U32}
    (hready : WordReady vm v) (hcells : pagedCells vm v = some cs)
    (hbytes : cs.map (byteIn vm.physicalSpace) = dwordBytes x) :
    (VirtualMemory.read32 v).run vm = .ok x vm := by
  unfold VirtualMemory.read32
  unfold WordReady at hready
  rw [run_ite]
  split at hready
  next hpage =>
    obtain ⟨p, hp⟩ := hready
    rw [if_pos hpage]
    rw [pagedCells_inPage hpage hp] at hcells
    obtain ⟨c, hc, rfl⟩ := Option.map_eq_some_iff.1 hcells
    obtain ⟨perms, htrans⟩ := hp.translateRead
    simp only [EStateM.run_bind, htrans, VirtualMemory.onPhysical, run_zoom,
      read32_block hc hbytes]
  next hpage =>
    obtain ⟨p₀, p₁, p₂, p₃, hhits, hbanks⟩ := hready
    rw [if_neg hpage]
    rw [pagedCells_crossing hpage hhits] at hcells
    obtain ⟨h₀, h₁, h₂, h₃⟩ := hits_four hhits
    simp only [List.forall₂_cons_left_iff, List.forall₂_nil_left_iff] at hcells
    obtain ⟨c₀, _, hc₀, ⟨c₁, _, hc₁, ⟨c₂, _, hc₂, ⟨c₃, _, hc₃, rfl, rfl⟩, rfl⟩, rfl⟩, rfl⟩ := hcells
    simp only [List.map_cons, List.map_nil, dwordBytes, List.cons.injEq, and_true] at hbytes
    obtain ⟨hb₀, hb₁, hb₂, hb₃⟩ := hbytes
    simp only [EStateM.run_bind, virtualRead8_hit h₀ (hbanks _ (by simp)) hc₀,
      virtualRead8_hit h₁ (hbanks _ (by simp)) hc₁, virtualRead8_hit h₂ (hbanks _ (by simp)) hc₂,
      virtualRead8_hit h₃ (hbanks _ (by simp)) hc₃, EStateM.run_pure, hb₀, hb₁, hb₂, hb₃,
      word32_byteOf]

/-- Virtual memory is made of cells. -/
def virtualCells (δ : Type) : CellMemory (VirtualMemory δ) where
  cells := pagedCells
  byteAt vm := byteIn vm.physicalSpace
  Ready := WordReady
  Later := HitsKept
  later_refl _ := ⟨fun _ _ h => h, sameTargets_refl _⟩
  later_trans h h' := h.trans h'
  ready_later h hready := hready.later h
  cells_later h hready := pagedCells_later h hready
  write h := virtualWrite32_stores h
  read hready hcells hbytes := virtualRead32_ready hready hcells hbytes

/-! ## The return -/

/-- A delivery that succeeds has stored its frame and entered its gate. -/
theorem run_delivered {d : Delivery} {trap : Option (TrapHandler M)} {s s' : Machine M} {g : Gate}
    (hgate : d.Through trap s g) (h : d.run trap s = .ok () s') :
    s'.ctx = enterGate g d.errorCode s.ctx ∧
      ∃ mem, (storeWords (d.frame s.ctx)).run mem = .ok () s'.mem := by
  obtain ⟨s₁, hread⟩ := hgate
  unfold runExec at hread
  unfold Delivery.run runExec deliverGate at h
  simp only [Program.run_bind, EStateM.run_bind, run_context, hread] at h
  cases hcheck : ((checkGate s.ctx d.vector d.isSoftwareInt g).run (Machine.answer trap)).run s₁ with
  | error e s₂ =>
    rw [hcheck] at h
    cases h
  | ok u s₂ =>
    rw [hcheck, run_pushFrame] at h
    dsimp only at h
    unfold onMemory at h
    rw [run_zoom] at h
    cases hstore : (storeWords (d.frame s.ctx)).run s₂.mem with
    | error e mem =>
      rw [hstore] at h
      cases h
    | ok u mem =>
      rw [hstore] at h
      cases h
      exact ⟨rfl, s₂.mem, hstore⟩

/-- What an IRET does with the three dwords it reads. -/
theorem run_iret {trap : Option (TrapHandler M)} {s : Machine M} {eip cs eflags : U32}
    (heip : (GuestMemory.read32 (s.ctx.gpr .esp)).run s.mem = .ok eip s.mem)
    (hcs : (GuestMemory.read32 (s.ctx.gpr .esp + 4)).run s.mem = .ok cs s.mem)
    (heflags : (GuestMemory.read32 (s.ctx.gpr .esp + 8)).run s.mem = .ok eflags s.mem)
    (hrpl : (cs &&& 3).setWidth 8 = (s.ctx.segments .cs &&& 3).setWidth 8) :
    runExec trap executeIret s = .ok () { s with
      ctx := (({ s.ctx with eip := eip }.setSegment .cs ((cs &&& 0xFFFF).setWidth 16)).setEflags
        eflags).setGpr .esp (s.ctx.gpr .esp + 12) } := by
  unfold runExec executeIret
  simp only [Program.run_bind, EStateM.run_bind, run_context, run_read32, onMemory, run_zoom, heip,
    hcs, heflags]
  rw [if_neg (not_not.2 hrpl)]
  rfl

/-- Which registers a gate changes. -/
theorem enterGate_none (g : Gate) (ctx : CpuContext) : ∃ eflags, enterGate g none ctx =
    { ctx with
      gpr := Function.update ctx.gpr .esp (ctx.gpr .esp - 12)
      segments := Function.update ctx.segments .cs g.selector
      eip := g.targetHandler
      eflags := eflags } := by
  unfold enterGate
  dsimp only [Option.isSome_none]
  by_cases htype : g.gateType = 0x0E
  · rw [if_pos htype]
    exact ⟨_, rfl⟩
  · rw [if_neg htype]
    exact ⟨_, rfl⟩

/-- A reserved bit that is set is set again. -/
theorem or_reserved {eflags : U32} (h : eflags &&& 2 = 2) : eflags ||| kFlagReserved1 = eflags := by
  have hbit : kFlagReserved1 = eflags &&& 2 := h.symm
  rw [hbit]
  apply BitVec.eq_of_getLsbD_eq
  intro i _
  rw [BitVec.getLsbD_or, BitVec.getLsbD_and]
  cases eflags.getLsbD i <;> simp

/-- A selector survives its stay on the stack. -/
theorem selector_stacked (sel : U16) : ((sel.setWidth 32 &&& 0xFFFF : U32).setWidth 16) = sel := by
  apply BitVec.eq_of_toNat_eq
  have hlt := sel.isLt
  rw [BitVec.toNat_setWidth, BitVec.toNat_and, BitVec.toNat_setWidth,
    Nat.mod_eq_of_lt (show sel.toNat < 2 ^ 32 by omega), show (0xFFFF : U32).toNat = 2 ^ 16 - 1 from rfl,
    Nat.and_two_pow_sub_one_eq_mod, Nat.mod_mod, Nat.mod_eq_of_lt hlt]

/-- The privilege level of a selector survives it, too. -/
theorem level_stacked {sel sel' : U16} (h : sel' &&& 3 = sel &&& 3) :
    ((sel.setWidth 32 &&& 3 : U32).setWidth 8) = (sel' &&& 3).setWidth 8 := by
  rw [h]
  apply BitVec.eq_of_toNat_eq
  have hlt := sel.isLt
  simp only [BitVec.toNat_setWidth, BitVec.toNat_and]
  rw [Nat.mod_eq_of_lt (show sel.toNat < 2 ^ 32 by omega)]
  rfl

/-- What an IRET sets are the registers the gate has changed. -/
theorem enterGate_undone (g : Gate) (ctx : CpuContext) (eip : U32)
    (hreserved : ctx.eflags &&& 2 = 2) :
    (({ enterGate g none ctx with eip := eip }.setSegment .cs
      (((ctx.segments .cs).setWidth 32 &&& 0xFFFF : U32).setWidth 16)).setEflags
        ctx.eflags).setGpr .esp ((enterGate g none ctx).gpr .esp + 12) =
      { ctx with eip := eip } := by
  obtain ⟨eflags, hentered⟩ := enterGate_none g ctx
  rw [hentered, selector_stacked]
  simp [CpuContext.setGpr, CpuContext.setSegment, CpuContext.setEflags, or_reserved hreserved]

/-- **IRET after a delivery** over any memory that is made of cells. -/
theorem CellMemory.iret_undoes (R : CellMemory M) {d : Delivery} (hcode : d.errorCode = none)
    {trap : Option (TrapHandler M)} {s s' : Machine M} {g : Gate} (hgate : d.Through trap s g)
    (hlevel : g.selector &&& 3 = s.ctx.segments .cs &&& 3) (hreserved : s.ctx.eflags &&& 2 = 2)
    (hrun : d.run trap s = .ok () s') (hframe : FrameInRam (R.cells s'.mem) (s.ctx.gpr .esp)) :
    runExec trap executeIret s' = .ok () { s' with ctx := d.returned s.ctx } := by
  obtain ⟨hctx, mem, hstore⟩ := run_delivered hgate hrun
  obtain ⟨c₀, c₁, c₂, h₀, h₁, h₂, hnodup⟩ := hframe
  have hwords : d.frame s.ctx = [(s.ctx.gpr .esp - 4, s.ctx.eflags),
      (s.ctx.gpr .esp - 8, (s.ctx.segments .cs).setWidth 32), (s.ctx.gpr .esp - 12, d.returnEip)] := by
    simp [Delivery.frame, hcode]
  rw [hwords] at hstore
  have hcells : List.Forall₂ (fun w cs => R.cells s'.mem w.1 = some cs)
      [(s.ctx.gpr .esp - 4, s.ctx.eflags), (s.ctx.gpr .esp - 8, (s.ctx.segments .cs).setWidth 32),
        (s.ctx.gpr .esp - 12, d.returnEip)] [c₀, c₁, c₂] :=
    .cons h₀ (.cons h₁ (.cons h₂ .nil))
  obtain ⟨-, -, hreads⟩ := R.readBack hstore hcells (by simpa using hnodup)
  rw [hcode] at hctx
  have hesp : s'.ctx.gpr .esp = s.ctx.gpr .esp - 12 := by
    obtain ⟨eflags, hentered⟩ := enterGate_none g s.ctx
    rw [hctx, hentered]
    simp
  have hsel : s'.ctx.segments .cs = g.selector := by
    obtain ⟨eflags, hentered⟩ := enterGate_none g s.ctx
    rw [hctx, hentered]
    simp
  have heip : (GuestMemory.read32 (s'.ctx.gpr .esp)).run s'.mem = .ok d.returnEip s'.mem := by
    rw [hesp]
    exact hreads (s.ctx.gpr .esp - 12, d.returnEip) (by simp)
  have hcs : (GuestMemory.read32 (s'.ctx.gpr .esp + 4)).run s'.mem =
      .ok ((s.ctx.segments .cs).setWidth 32) s'.mem := by
    rw [hesp, show s.ctx.gpr .esp - 12 + 4 = s.ctx.gpr .esp - 8 by bv_omega]
    exact hreads (s.ctx.gpr .esp - 8, (s.ctx.segments .cs).setWidth 32) (by simp)
  have heflags : (GuestMemory.read32 (s'.ctx.gpr .esp + 8)).run s'.mem =
      .ok s.ctx.eflags s'.mem := by
    rw [hesp, show s.ctx.gpr .esp - 12 + 8 = s.ctx.gpr .esp - 4 by bv_omega]
    exact hreads (s.ctx.gpr .esp - 4, s.ctx.eflags) (by simp)
  rw [run_iret heip hcs heflags (by rw [hsel]; exact level_stacked hlevel), hctx,
    enterGate_undone g s.ctx d.returnEip hreserved]
  rfl

/-- **IRET undoes a delivery** whose frame is in RAM that can be read, with bytes of its own: every
register is what it was before, but for EIP, which is the return address. -/
theorem iret_undoes_delivery (d : Delivery) (hcode : d.errorCode = none) :
    (∀ (trap : Option (TrapHandler (AddressSpace δ))) (s s' : Machine (AddressSpace δ)) (g : Gate),
      d.Through trap s g → g.selector &&& 3 = s.ctx.segments .cs &&& 3 →
      s.ctx.eflags &&& 2 = 2 → d.run trap s = .ok () s' →
      FrameInRam (wordCells s'.mem) (s.ctx.gpr .esp) →
      runExec trap executeIret s' = .ok () { s' with ctx := d.returned s.ctx }) ∧
    ∀ (trap : Option (TrapHandler (VirtualMemory δ))) (s s' : Machine (VirtualMemory δ)) (g : Gate),
      d.Through trap s g → g.selector &&& 3 = s.ctx.segments .cs &&& 3 →
      s.ctx.eflags &&& 2 = 2 → d.run trap s = .ok () s' →
      FrameInRam (pagedCells s'.mem) (s.ctx.gpr .esp) →
      runExec trap executeIret s' = .ok () { s' with ctx := d.returned s.ctx } := by
  constructor
  · intro trap s s' g hgate hlevel hreserved hrun hframe
    exact (physicalCells δ).iret_undoes hcode hgate hlevel hreserved hrun hframe
  · intro trap s s' g hgate hlevel hreserved hrun hframe
    exact (virtualCells δ).iret_undoes hcode hgate hlevel hreserved hrun hframe

/-! ## Two stacks that are not read back -/

/-- An interrupt gate for vector 0, and a stack in regions of its own. -/
def gateAndStack (esp : U32) (stack : List (Region Unit)) : Machine (AddressSpace Unit) where
  ctx := { gpr := fun r => if r = .esp then esp else 0, idtr := { base := 0x2100, limit := 7 } }
  mem :=
    { regions := stack ++ [⟨0x2000, 0x1000, .all, .ram 0 0⟩]
      rams := fun _ => ⟨0x1000, fun i => if i = 0x102 then 8 else if i = 0x105 then 0x8E else 0⟩
      devices := () }

/-- The gate of these machines. -/
def kernelGate : Gate := ⟨0, 8, 0x8E00, 0⟩

/-- An interrupt through it. -/
def kernelInterrupt : Delivery where
  vector := 0
  errorCode := none
  isSoftwareInt := false
  returnEip := 0x401000

/-- The stack in a region of its own. -/
def plainStack : Machine (AddressSpace Unit) :=
  gateAndStack 0x1800 [⟨0x1000, 0x1000, .all, .ram 1 0⟩]

/-- The same stack under virtual memory. -/
def unpagedStack : Machine (VirtualMemory Unit) where
  ctx := plainStack.ctx
  mem := { physicalSpace := plainStack.mem }

/-- A frame in one region is undone, over physical and over virtual memory. -/
theorem iret_undoes_kernelInterrupt :
    runExec none executeIret (stateAfter (kernelInterrupt.run none plainStack)) =
        .ok () { stateAfter (kernelInterrupt.run none plainStack) with
          ctx := kernelInterrupt.returned plainStack.ctx } ∧
      runExec none executeIret (stateAfter (kernelInterrupt.run none unpagedStack)) =
        .ok () { stateAfter (kernelInterrupt.run none unpagedStack) with
          ctx := kernelInterrupt.returned unpagedStack.ctx } :=
  ⟨(iret_undoes_delivery kernelInterrupt rfl).1 none _ _ kernelGate ⟨_, rfl⟩ (by decide)
      (by decide) (eq_ok_of_outcome (by decide +kernel)) ⟨_, _, _, rfl, rfl, rfl, by decide +kernel⟩,
    (iret_undoes_delivery kernelInterrupt rfl).2 none _ _ kernelGate ⟨_, rfl⟩ (by decide)
      (by decide) (eq_ok_of_outcome (by decide +kernel)) ⟨_, _, _, rfl, rfl, rfl, by decide +kernel⟩⟩

/-- The stack in a region that can be written and not read. -/
def writeOnlyStack : Machine (AddressSpace Unit) :=
  gateAndStack 0x1800 [⟨0x1000, 0x1000, .write, .ram 1 0⟩]

/-- The stack across two regions over the same bytes: the return address comes to where EFLAGS
was pushed. -/
def mirroredStack : Machine (AddressSpace Unit) :=
  gateAndStack 0x100C [⟨0x1000, 8, .all, .ram 1 0⟩, ⟨0x1008, 8, .all, .ram 1 0⟩]

/-- The frame on a write-only stack cannot be read back. -/
theorem writeOnlyStack_unread :
    outcome (runExec none executeIret (stateAfter (kernelInterrupt.run none writeOnlyStack))) =
      .error { code := .accessViolation, message := "Violação de permissão de acesso à memória"
               offset := 0x17F4 } := by
  decide +kernel

/-- IRET on the mirrored stack returns other flags than were pushed. -/
theorem mirroredStack_eflags :
    (stateAfter (runExec none executeIret
      (stateAfter (kernelInterrupt.run none mirroredStack)))).ctx.eflags = 0x401002 := by
  decide +kernel

/-- RAM that can be written is not enough, nor is RAM that can be written and read. -/
theorem delivery_not_undone :
    (¬ ∀ (d : Delivery) (s s' : Machine (AddressSpace Unit)) (g : Gate), d.errorCode = none →
      d.Through none s g → g.selector &&& 3 = s.ctx.segments .cs &&& 3 → s.ctx.eflags &&& 2 = 2 →
      d.run none s = .ok () s' → d.FrameGrants s .write →
      runExec none executeIret s' = .ok () { s' with ctx := d.returned s.ctx }) ∧
    ¬ ∀ (d : Delivery) (s s' : Machine (AddressSpace Unit)) (g : Gate), d.errorCode = none →
      d.Through none s g → g.selector &&& 3 = s.ctx.segments .cs &&& 3 → s.ctx.eflags &&& 2 = 2 →
      d.run none s = .ok () s' → d.FrameGrants s .write → d.FrameGrants s .read →
      runExec none executeIret s' = .ok () { s' with ctx := d.returned s.ctx } := by
  constructor
  · intro hall
    have hreturn := hall kernelInterrupt writeOnlyStack _ kernelGate rfl ⟨_, rfl⟩ (by decide)
      (by decide) (eq_ok_of_outcome (by decide +kernel)) (by decide +kernel)
    have hunread := writeOnlyStack_unread
    rw [hreturn] at hunread
    cases hunread
  · intro hall
    have hreturn := hall kernelInterrupt mirroredStack _ kernelGate rfl ⟨_, rfl⟩ (by decide)
      (by decide) (eq_ok_of_outcome (by decide +kernel)) (by decide +kernel)
      (by decide +kernel)
    have heflags := mirroredStack_eflags
    rw [hreturn] at heflags
    exact absurd heflags (by decide)

end Xblob.Analysis
