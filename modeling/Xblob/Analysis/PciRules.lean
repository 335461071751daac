import Xblob.Analysis.PciBridge
import Mathlib.Data.List.Induction
import Xblob.Analysis.RoundTrip

/-!
# The access rules of PCI registers

A write through the bridge comes to one write to the bytes of one header.  Which bytes it leaves
is settled offset by offset; the rules then hold in a sequence of writes when each of them keeps
to its own.
-/

set_option autoImplicit false

namespace Xblob.Analysis

open Xblob.Computation Xblob.Interface Xblob.Pci Xblob.Pci.PciBusBridge Xblob.Pci.PciConfigHeader

variable {β : Type}

/-! ## One write is one write to a header -/

/-- The write passes the alignment checks of the registry. -/
theorem aligned_checks {w : ConfigWrite} (h : w.Aligned) :
    ¬ (w.width = .word ∧ w.offset.toNat % 2 ≠ 0) ∧
      ¬ (w.width = .dword ∧ w.offset.toNat % 4 ≠ 0) ∧
      ¬ w.offset.toNat + w.width.bytes > kPciConfigSpaceSize := by
  have hlt := w.offset.isLt
  unfold ConfigWrite.Aligned at h
  unfold kPciConfigSpaceSize
  cases hwidth : w.width with
  | byte =>
    rw [hwidth] at h
    simp only [PciAccessWidth.bytes] at h ⊢
    exact ⟨by simp, by simp, by omega⟩
  | word =>
    rw [hwidth] at h
    simp only [PciAccessWidth.bytes] at h ⊢
    exact ⟨by simp [h], by simp, by omega⟩
  | dword =>
    rw [hwidth] at h
    simp only [PciAccessWidth.bytes] at h ⊢
    exact ⟨by simp, by simp [h], by omega⟩

/-- A write to the registry changes the header of its device. -/
theorem rawOf_registryWrite (br : PciBusBridge β) {w : ConfigWrite} (hw : w.Aligned)
    (bdf : PciBdf) :
    rawOf (stateAfter ((registryWrite w.bdf w.offset w.width w.value).run br)) bdf =
      if bdf = w.bdf then (headerOf br bdf).map fun h => rawWritten h w.offset w.width w.value
      else rawOf br bdf := by
  obtain ⟨hword, hdword, -⟩ := aligned_checks hw
  simp only [registryWrite, EStateM.run_bind, EStateM.run_get, PciRegistry.writeConfig,
    if_neg hword, if_neg hdword]
  cases hdev : br.registry.findDevice w.bdf with
  | none =>
    by_cases hbdf : bdf = w.bdf
    · subst hbdf
      simp [rawOf, headerOf, hdev]
    · rw [if_neg hbdf]
      rfl
  | some dev =>
    dsimp only
    cases hwrite : dev.configHeader.write w.offset w.width w.value with
    | error e =>
      by_cases hbdf : bdf = w.bdf
      · subst hbdf
        simp [rawOf, headerOf, hdev, rawWritten, hwrite]
      · rw [if_neg hbdf]
        rfl
    | ok h =>
      change rawOf { br with registry := br.registry.setHeader w.bdf h } bdf = _
      rw [rawOf, headerOf_setHeader]
      by_cases hbdf : bdf = w.bdf
      · subst hbdf
        simp [headerOf, hdev, rawWritten, hwrite]
      · rw [if_neg hbdf, if_neg hbdf]
        rfl

/-- Writing to a base address register changes no byte. -/
theorem rawWritten_bar (h : PciConfigHeader β) {offset : U8} (hbar : (barOf offset).isSome)
    (width : PciAccessWidth) (value : U32) : rawWritten h offset width value = h.rawBytes := by
  obtain ⟨⟨i, byteOffset⟩, hbar⟩ := Option.isSome_iff_exists.1 hbar
  unfold rawWritten PciConfigHeader.write
  rw [hbar]
  dsimp only
  split_ifs
  · rfl
  · rfl
  · rfl
  · cases (h.bars i).write value <;> rfl
  · cases (h.bars i).write (merged (h.bars i) byteOffset width value) <;> rfl

/-- A word can be written to the command register. -/
theorem write_command (h : PciConfigHeader β) (value : U32) :
    h.write kPciCommandOffset .word value = .ok (h.writeRaw kPciCommandOffset .word value) := by
  have hbar : barOf kPciCommandOffset = none := rfl
  unfold PciConfigHeader.write
  rw [hbar]
  simp [kPciConfigSpaceSize, kPciCommandOffset, PciAccessWidth.bytes]

/-- The memory space switch is a write of a word to the command register. -/
theorem rawOf_setMemorySpaceEnabled (br : PciBusBridge β) (bdf bdf' : PciBdf) (value : U32) :
    rawOf (stateAfter ((setMemorySpaceEnabled bdf
      (value.setWidth 16 &&& kPciCommandMemorySpace ≠ 0)).run br)) bdf' =
      if bdf' = bdf then (headerOf br bdf').map fun h =>
        rawWritten h kPciCommandOffset .word ((commandWord h value).setWidth 32)
      else rawOf br bdf' := by
  unfold setMemorySpaceEnabled
  simp only [EStateM.run_bind, EStateM.run_get]
  cases hdev : br.registry.findDevice bdf with
  | none =>
    by_cases hbdf : bdf' = bdf
    · subst hbdf
      simp [rawOf, headerOf, hdev]
    · rw [if_neg hbdf]
      rfl
  | some dev =>
    simp only [write_command, EStateM.run_bind, EStateM.run_set, decide_eq_true_eq]
    have hkeeps : ∀ (f : BarId → EStateM Error (PciBusBridge β) Unit) (br : PciBusBridge β),
        (∀ id br, Keeps (fun br => br.registry) (f id) br) →
        rawOf (stateAfter ((forBars f bdf (List.finRange 6)).run br)) bdf' = rawOf br bdf' :=
      fun f br hf => congrFun (keeps_rawOf (keeps_forBars hf bdf _ br)) bdf'
    rw [hkeeps _ _ (by intro id br; split; exacts [keeps_mapBar id br, keeps_unmapBar id br]),
      rawOf, headerOf_setHeader]
    by_cases hbdf : bdf' = bdf
    · subst hbdf
      simp [headerOf, hdev, rawWritten, write_command, commandWord]
    · rw [if_neg hbdf, if_neg hbdf]
      rfl

/-- **A write through the bridge** changes the bytes of one header. -/
theorem rawOf_next (br : PciBusBridge β) {w : ConfigWrite} (hw : w.Aligned) (bdf : PciBdf) :
    rawOf (w.next br) bdf =
      if bdf = w.bdf then (headerOf br bdf).map w.bytesAfter else rawOf br bdf := by
  have hwrite := rawOf_registryWrite br hw bdf
  have hsync : rawOf (stateAfter ((do
      registryWrite w.bdf w.offset w.width w.value
      regardless (syncDevice w.bdf)).run br)) bdf =
      rawOf (stateAfter ((registryWrite w.bdf w.offset w.width w.value).run br)) bdf := by
    rw [EStateM.run_bind]
    cases (registryWrite w.bdf w.offset w.width w.value).run br with
    | error e br' => rfl
    | ok u br' => exact congrFun (keeps_rawOf (keeps_syncDevice w.bdf br')) bdf
  unfold ConfigWrite.next ConfigWrite.bytesAfter writeConfig
  cases hbar : barOf w.offset with
  | some p =>
    have hsome : (barOf w.offset).isSome := by simp [hbar]
    have hne : ¬ (w.offset = kPciCommandOffset ∧ w.width = .word) := by
      rintro ⟨hoffset, -⟩
      rw [hoffset] at hsome
      cases hsome
    have hsame : (headerOf br bdf).map (fun h => rawWritten h w.offset w.width w.value) =
        rawOf br bdf := by
      rw [rawOf]
      congr 1
      funext h
      exact rawWritten_bar h hsome w.width w.value
    simp only [if_neg hne, hsame, ite_self] at hwrite ⊢
    by_cases hones : w.value = 0xFFFFFFFF
    · rw [if_pos hones]
      exact hwrite
    · rw [if_neg hones]
      split
      · exact congrFun (keeps_programBar w.bdf _ _ br) bdf
      · exact hsync.trans hwrite
  | none =>
    by_cases hcommand : w.offset = kPciCommandOffset ∧ w.width = .word
    · simp only [if_pos hcommand]
      exact rawOf_setMemorySpaceEnabled br w.bdf bdf w.value
    · simp only [if_neg hcommand]
      exact hsync.trans hwrite

/-! ## Which bytes a write leaves -/

/-- The offsets that are read only, as numbers. -/
theorem mem_readOnlyOffsets : ∀ o : U8, o ∈ readOnlyOffsets ↔
    o.toNat < 4 ∨ (8 ≤ o.toNat ∧ o.toNat < 12) ∨ o.toNat = 14 ∨ (44 ≤ o.toNat ∧ o.toNat < 48) := by
  decide

/-- The offsets the header ignores are those of the read-only registers. -/
theorem ignored_iff : ∀ o : U8, (o < kPciCommandOffset ∨
    (kPciRevisionIdOffset ≤ o ∧ o < kPciCacheLineSizeOffset) ∨ o = kPciHeaderTypeOffset ∨
    (kPciSubsystemVendorIdOffset ≤ o ∧ o < kPciExpansionRomOffset)) ↔ o ∈ readOnlyOffsets := by
  decide

/-- The bytes that are written as they are. -/
theorem writeRaw_bytes (h : PciConfigHeader β) (w : ConfigWrite) (o : U8) :
    (h.writeRaw w.offset w.width w.value).rawBytes o = (w.byteAt o).getD (h.rawBytes o) := by
  simp only [writeRaw, ConfigWrite.byteAt]
  split <;> rfl

/-- No register in front of the base addresses, and none behind them, is covered by a write to
a base address. -/
theorem byteAt_bar {w : ConfigWrite} (hw : w.Aligned) (hbar : (barOf w.offset).isSome) {o : U8}
    (ho : o.toNat < 0x10 ∨ 0x28 ≤ o.toNat) : w.byteAt o = none := by
  have hrange : 0x10 ≤ w.offset.toNat ∧ w.offset.toNat < 0x28 := by
    unfold barOf at hbar
    split at hbar
    next hin => exact hin
    next => cases hbar
  unfold ConfigWrite.Aligned at hw
  apply if_neg
  cases hwidth : w.width <;> rw [hwidth] at hw <;> simp only [PciAccessWidth.bytes] at hw ⊢ <;> omega

/-- A write that is ignored covers no byte of the command and status registers. -/
theorem byteAt_readOnly {w : ConfigWrite} (hw : w.Aligned) (hro : w.offset ∈ readOnlyOffsets)
    {o : U8} (ho : 4 ≤ o.toNat ∧ o.toNat < 8) : w.byteAt o = none := by
  rw [mem_readOnlyOffsets] at hro
  unfold ConfigWrite.Aligned at hw
  apply if_neg
  cases hwidth : w.width <;> rw [hwidth] at hw <;> simp only [PciAccessWidth.bytes] at hw ⊢ <;> omega

/-- What a write does to the bytes: nothing, at a base address or a read-only offset; what is
written to the command and status registers as a word is masked; all else is stored as it is. -/
theorem bytesAfter_cases (h : PciConfigHeader β) {w : ConfigWrite} (hw : w.Aligned) :
    (((barOf w.offset).isSome ∨ w.offset ∈ readOnlyOffsets) ∧ w.bytesAfter h = h.rawBytes) ∨
    (w.offset = 0x04 ∧ w.width = .word ∧ w.bytesAfter h =
      (h.writeRaw 0x04 .word ((commandWord h w.value).setWidth 32)).rawBytes) ∨
    (w.offset = 0x06 ∧ w.width = .word ∧ w.bytesAfter h = (h.writeRaw 0x06 .word
      ((h.status &&& ~~~(w.value.setWidth 16 &&& w1cMask)).setWidth 32)).rawBytes) ∨
    (w.offset ∉ readOnlyOffsets ∧ (w.offset = 0x04 → w.width ≠ .word) ∧
      (w.offset = 0x06 → w.width ≠ .word) ∧
      ∀ o, w.bytesAfter h o = (w.byteAt o).getD (h.rawBytes o)) := by
  obtain ⟨hword, hdword, hbound⟩ := aligned_checks hw
  unfold ConfigWrite.bytesAfter
  by_cases hcommand : w.offset = kPciCommandOffset ∧ w.width = .word
  · rw [if_pos hcommand]
    refine .inr (.inl ⟨hcommand.1, hcommand.2, ?_⟩)
    rw [rawWritten, write_command]
    rfl
  · rw [if_neg hcommand]
    cases hbar : barOf w.offset with
    | some p =>
      have hsome : (barOf w.offset).isSome := by simp [hbar]
      exact .inl ⟨.inl rfl, rawWritten_bar h hsome w.width w.value⟩
    | none =>
      have hwrite : h.write w.offset w.width w.value = if kPciCommandOffset ≤ w.offset ∧
          w.offset < kPciCommandOffset + 2 then .ok (h.writeRaw w.offset w.width w.value)
        else if w.offset = kPciStatusOffset ∧ w.width = .word then
          .ok (h.writeRaw kPciStatusOffset w.width
            ((h.status &&& ~~~(w.value.setWidth 16 &&& w1cMask)).setWidth 32))
        else if w.offset < kPciCommandOffset ∨
            (kPciRevisionIdOffset ≤ w.offset ∧ w.offset < kPciCacheLineSizeOffset) ∨
            w.offset = kPciHeaderTypeOffset ∨
            (kPciSubsystemVendorIdOffset ≤ w.offset ∧ w.offset < kPciExpansionRomOffset) then
          .ok h
        else .ok (h.writeRaw w.offset w.width w.value) := by
        unfold PciConfigHeader.write
        rw [if_neg hbound, if_neg hword, if_neg hdword, hbar]
        dsimp only
        rw [if_neg hcommand]
      have hstored : ∀ o, (h.writeRaw w.offset w.width w.value).rawBytes o =
          (w.byteAt o).getD (h.rawBytes o) := writeRaw_bytes h w
      rw [rawWritten, hwrite]
      by_cases hbytes : kPciCommandOffset ≤ w.offset ∧ w.offset < kPciCommandOffset + 2
      · rw [if_pos hbytes]
        refine .inr (.inr (.inr ⟨?_, fun ho hw => hcommand ⟨ho, hw⟩, ?_, hstored⟩))
        · have hrange : 4 ≤ w.offset.toNat ∧ w.offset.toNat < 6 := hbytes
          rw [mem_readOnlyOffsets]
          omega
        · intro ho
          rw [ho] at hbytes
          exact absurd hbytes (by decide)
      · rw [if_neg hbytes]
        by_cases hstatus : w.offset = kPciStatusOffset ∧ w.width = .word
        · rw [if_pos hstatus]
          refine .inr (.inr (.inl ⟨hstatus.1, hstatus.2, ?_⟩))
          rw [hstatus.2]
          rfl
        · rw [if_neg hstatus]
          by_cases hro : w.offset ∈ readOnlyOffsets
          · rw [if_pos ((ignored_iff _).2 hro)]
            exact .inl ⟨.inr hro, rfl⟩
          · rw [if_neg (mt (ignored_iff _).1 hro)]
            exact .inr (.inr (.inr ⟨hro, fun ho hw => hcommand ⟨ho, hw⟩,
              fun ho hw => hstatus ⟨ho, hw⟩, hstored⟩))

/-! ## Bits and bytes -/

/-- A bit of a byte of a word is a bit of the word. -/
theorem getLsbD_byteOf (v : U16) (j : ℕ) {i : ℕ} (hi : i < 8) :
    (byteOf v j).getLsbD i = v.getLsbD (8 * j + i) := by
  simp only [byteOf, BitVec.getLsbD_setWidth, BitVec.getLsbD_and, BitVec.getLsbD_ushiftRight]
  interval_cases i <;> simp

/-- The low bytes of a dword made of a word. -/
theorem byteOf_setWidth (v : U16) {j : ℕ} (hj : j < 2) : byteOf (v.setWidth 32) j = byteOf v j := by
  apply BitVec.eq_of_getLsbD_eq
  intro i hi
  simp only [byteOf, BitVec.getLsbD_setWidth, BitVec.getLsbD_and, BitVec.getLsbD_ushiftRight]
  interval_cases j <;> interval_cases i <;> simp

/-- The low bytes of the word a dword is cut to. -/
theorem byteOf_cut (v : U32) {j : ℕ} (hj : j < 2) : byteOf (v.setWidth 16) j = byteOf v j := by
  apply BitVec.eq_of_getLsbD_eq
  intro i hi
  simp only [byteOf, BitVec.getLsbD_setWidth, BitVec.getLsbD_and, BitVec.getLsbD_ushiftRight]
  interval_cases j <;> interval_cases i <;> simp

/-- The low byte of a word put together. -/
theorem byteOf_word16_low (a b : U8) : byteOf (word16 a b) 0 = a := by
  apply BitVec.eq_of_getLsbD_eq
  intro i hi
  simp only [word16, byteOf, BitVec.getLsbD_or, BitVec.getLsbD_setWidth, BitVec.getLsbD_shiftLeft,
    BitVec.getLsbD_and, BitVec.getLsbD_ushiftRight]
  interval_cases i <;> simp

/-- The high byte of a word put together. -/
theorem byteOf_word16_high (a b : U8) : byteOf (word16 a b) 1 = b := by
  apply BitVec.eq_of_getLsbD_eq
  intro i hi
  simp only [word16, byteOf, BitVec.getLsbD_or, BitVec.getLsbD_setWidth, BitVec.getLsbD_shiftLeft,
    BitVec.getLsbD_and, BitVec.getLsbD_ushiftRight]
  interval_cases i <;> simp

/-- Two words are one if their bytes are. -/
theorem word_eq_iff (v w : U16) : v = w ↔ byteOf v 0 = byteOf w 0 ∧ byteOf v 1 = byteOf w 1 := by
  constructor
  · rintro rfl
    exact ⟨rfl, rfl⟩
  · rintro ⟨h0, h1⟩
    rw [← word16_byteOf v, ← word16_byteOf w, h0, h1]

/-- Clearing the bits of a word that are written as ones under a mask. -/
theorem clearedByOnes_word (v written mask : U16) (j : ℕ) (hj : j < 2) :
    ClearedByOnes (byteOf mask j) (byteOf written j) (byteOf v j)
      (byteOf (v &&& ~~~(written &&& mask)) j) := by
  intro i hne
  by_cases hi : i < 8
  · rw [getLsbD_byteOf _ j hi, getLsbD_byteOf _ j hi, getLsbD_byteOf _ j hi] at *
    rw [BitVec.getLsbD_and, BitVec.getLsbD_not, BitVec.getLsbD_and] at hne ⊢
    have hlt : 8 * j + i < 16 := by omega
    simp only [hlt, decide_true, Bool.true_and] at hne ⊢
    cases hv : v.getLsbD (8 * j + i) <;> cases hw : written.getLsbD (8 * j + i) <;>
      cases hm : mask.getLsbD (8 * j + i) <;> simp_all
  · rw [BitVec.getLsbD_of_ge _ _ (by omega), BitVec.getLsbD_of_ge _ _ (by omega)] at hne
    exact absurd rfl hne

/-- A byte that is stored over another is the other if its ones clear bits. -/
theorem clearedByOnes_stored (mask before after : U8) :
    ClearedByOnes mask after before after ↔ after = before := by
  constructor
  · intro h
    apply BitVec.eq_of_getLsbD_eq
    intro i _
    by_contra hne
    obtain ⟨-, hone, hzero⟩ := h i hne
    rw [hone] at hzero
    cases hzero
  · rintro rfl i hne
    exact absurd rfl hne

/-- What is not written does not change. -/
theorem clearedByOnes_same (mask written before : U8) : ClearedByOnes mask written before before :=
  fun _ hne => absurd rfl hne

/-! ## The rules of one write -/

/-- The bytes of the command register that are written are there afterwards. -/
def CommandStored (w : ConfigWrite) (h' : PciConfigHeader β) : Prop :=
  ∀ o ∈ [(0x04 : U8), 0x05], ∀ b, w.byteAt o = some b → h'.rawBytes o = b

/-- The rules of one write. -/
def RulesOf (w : ConfigWrite) (h h' : PciConfigHeader β) : Prop :=
  ReadOnlyKept h h' ∧ StatusKept w h h' ∧ CommandStored w h'

/-- The byte a write has for an offset it covers. -/
theorem byteAt_some {w : ConfigWrite} {o : U8}
    (h : w.offset.toNat ≤ o.toNat ∧ o.toNat < w.offset.toNat + w.width.bytes) :
    w.byteAt o = some (byteOf w.value (o.toNat - w.offset.toNat)) := if_pos h

/-- A write has no byte for an offset it does not cover. -/
theorem byteAt_none {w : ConfigWrite} {o : U8}
    (h : ¬ (w.offset.toNat ≤ o.toNat ∧ o.toNat < w.offset.toNat + w.width.bytes)) :
    w.byteAt o = none := if_neg h

/-- A write that changes nothing, and covers neither register. -/
theorem rules_unchanged {w : ConfigWrite} (hw : w.Aligned) {h h' : PciConfigHeader β}
    (hoffset : (barOf w.offset).isSome ∨ w.offset ∈ readOnlyOffsets)
    (hraw : h'.rawBytes = h.rawBytes) : RulesOf w h h' ↔ w.Harmless h := by
  have hnone : ∀ o : U8, 4 ≤ o.toNat ∧ o.toNat < 8 → w.byteAt o = none := by
    intro o ho
    obtain hbar | hro := hoffset
    · exact byteAt_bar hw hbar (.inl (by omega))
    · exact byteAt_readOnly hw hro ho
  have hnot : ∀ o : U8, ¬ ((barOf o).isSome ∨ o ∈ readOnlyOffsets) → w.offset ≠ o := by
    rintro o ho rfl
    exact ho hoffset
  refine iff_of_true ⟨?_, ⟨?_, ?_⟩, ?_⟩ ⟨?_, ?_, ?_, ?_⟩
  · intro o _
    rw [hraw]
  · rw [hraw]
    exact clearedByOnes_same _ _ _
  · rw [hraw]
    exact clearedByOnes_same _ _ _
  · intro o ho b hb
    rw [hnone o (by simp at ho; obtain rfl | rfl := ho <;> decide)] at hb
    cases hb
  · intro ho
    exact absurd ho (hnot _ (by decide))
  · intro ho
    exact absurd ho (hnot _ (by decide))
  · rintro - (ho | ho)
    · exact absurd ho (hnot _ (by decide))
    · exact absurd ho (hnot _ (by decide))
  · intro ho
    exact absurd ho (hnot _ (by decide))

/-- The memory space flag is bit 1. -/
theorem getLsbD_memorySpace {i : ℕ} (hi : i < 16) :
    kPciCommandMemorySpace.getLsbD i = decide (i = 1) := by
  interval_cases i <;> rfl

/-- One bit of a word. -/
theorem memorySpace_iff (v : U16) : v &&& kPciCommandMemorySpace ≠ 0 ↔ v.getLsbD 1 = true := by
  have hbits : v &&& kPciCommandMemorySpace = if v.getLsbD 1 then kPciCommandMemorySpace else 0 := by
    apply BitVec.eq_of_getLsbD_eq
    intro i hi
    rw [BitVec.getLsbD_and, getLsbD_memorySpace hi]
    by_cases hi1 : i = 1
    · subst hi1
      cases hv : v.getLsbD 1
      · rfl
      · rfl
    · cases hv : v.getLsbD 1
      · simp [hi1]
      · rw [if_pos rfl, getLsbD_memorySpace hi]
        simp [hi1]
  rw [hbits]
  cases v.getLsbD 1 <;> simp [kPciCommandMemorySpace]

/-- The memory bit of a word, with the other bits of another word. -/
theorem commandWord_eq_iff (h : PciConfigHeader β) (value : U32) :
    commandWord h value = value.setWidth 16 ↔
      value.setWidth 16 &&& ~~~kPciCommandMemorySpace = h.command &&& ~~~kPciCommandMemorySpace := by
  have hword : ∀ i < 16, (commandWord h value).getLsbD i =
      if i = 1 then (value.setWidth 16 : U16).getLsbD 1 else h.command.getLsbD i := by
    intro i hi
    unfold commandWord
    simp only [memorySpace_iff]
    by_cases hbit : (value.setWidth 16 : U16).getLsbD 1 = true
    · rw [if_pos hbit, BitVec.getLsbD_or, getLsbD_memorySpace hi, hbit]
      by_cases hi1 : i = 1 <;> simp [hi1]
    · rw [if_neg hbit, BitVec.getLsbD_and, BitVec.getLsbD_not, getLsbD_memorySpace hi,
        Bool.not_eq_true _ |>.mp hbit]
      by_cases hi1 : i = 1 <;> simp [hi1, hi]
  have hother : ∀ (v : U16) (i : ℕ), i < 16 → (v &&& ~~~kPciCommandMemorySpace).getLsbD i =
      (v.getLsbD i && decide (i ≠ 1)) := by
    intro v i hi
    rw [BitVec.getLsbD_and, BitVec.getLsbD_not, getLsbD_memorySpace hi]
    simp [hi]
  constructor
  · intro heq
    apply BitVec.eq_of_getLsbD_eq
    intro i hi
    rw [hother _ i hi, hother _ i hi, ← heq, hword i hi]
    by_cases hi1 : i = 1 <;> simp [hi1]
  · intro heq
    apply BitVec.eq_of_getLsbD_eq
    intro i hi
    rw [hword i hi]
    by_cases hi1 : i = 1
    · rw [if_pos hi1, hi1]
    · have hbit := congrArg (fun v => v.getLsbD i) heq
      simp only [hother _ i hi, hi1, ne_eq, not_false_eq_true, decide_true, Bool.and_true] at hbit
      rw [if_neg hi1, hbit]

/-- What a word that is stored leaves at an offset outside of it. -/
theorem writeRaw_word_other (h : PciConfigHeader β) {offset o : U8} (value : U32)
    (ho : o.toNat < offset.toNat ∨ offset.toNat + 2 ≤ o.toNat) :
    (h.writeRaw offset .word value).rawBytes o = h.rawBytes o := by
  apply if_neg
  simp only [PciAccessWidth.bytes]
  omega

/-- A word to the command register. -/
theorem rules_commandWord {w : ConfigWrite} {h h' : PciConfigHeader β} (ho : w.offset = 0x04)
    (hwidth : w.width = .word) (hraw : h'.rawBytes =
      (h.writeRaw 0x04 .word ((commandWord h w.value).setWidth 32)).rawBytes) :
    RulesOf w h h' ↔ w.Harmless h := by
  have hother : ∀ o : U8, o.toNat < 4 ∨ 6 ≤ o.toNat → h'.rawBytes o = h.rawBytes o := by
    intro o hrange
    rw [hraw]
    exact writeRaw_word_other h _ hrange
  have h4 : h'.rawBytes 0x04 = byteOf (commandWord h w.value) 0 := by
    rw [hraw, ← byteOf_setWidth _ (by decide)]
    rfl
  have h5 : h'.rawBytes 0x05 = byteOf (commandWord h w.value) 1 := by
    rw [hraw, ← byteOf_setWidth _ (by decide)]
    rfl
  have hb4 : w.byteAt 0x04 = some (byteOf (w.value.setWidth 16 : U16) 0) := by
    rw [byteOf_cut _ (by decide)]
    simp [ConfigWrite.byteAt, ho, hwidth, PciAccessWidth.bytes]
  have hb5 : w.byteAt 0x05 = some (byteOf (w.value.setWidth 16 : U16) 1) := by
    rw [byteOf_cut _ (by decide)]
    simp [ConfigWrite.byteAt, ho, hwidth, PciAccessWidth.bytes]
  have hro : ReadOnlyKept h h' := by
    intro o hmem
    rw [mem_readOnlyOffsets] at hmem
    exact hother o (by omega)
  have hstatus : StatusKept w h h' := by
    constructor
    · rw [hother 0x06 (by decide)]
      exact clearedByOnes_same _ _ _
    · rw [hother 0x07 (by decide)]
      exact clearedByOnes_same _ _ _
  have hcommand : CommandStored w h' ↔ commandWord h w.value = w.value.setWidth 16 := by
    simp only [CommandStored, List.forall_mem_cons, hb4, hb5, h4, h5, Option.some.injEq,
      forall_eq', word_eq_iff]
    simp
  have hharmless : w.Harmless h ↔ w.value.setWidth 16 &&& ~~~kPciCommandMemorySpace =
      h.command &&& ~~~kPciCommandMemorySpace := by
    simp [ConfigWrite.Harmless, ho, hwidth]
  rw [RulesOf, hharmless, ← commandWord_eq_iff, ← hcommand]
  exact ⟨fun hrules => hrules.2.2, fun hstored => ⟨hro, hstatus, hstored⟩⟩

/-- A word to the status register. -/
theorem rules_statusWord {w : ConfigWrite} {h h' : PciConfigHeader β} (ho : w.offset = 0x06)
    (hwidth : w.width = .word) (hraw : h'.rawBytes = (h.writeRaw 0x06 .word
      ((h.status &&& ~~~(w.value.setWidth 16 &&& w1cMask)).setWidth 32)).rawBytes) :
    RulesOf w h h' ↔ w.Harmless h := by
  have h6 : h'.rawBytes 0x06 = byteOf (h.status &&& ~~~(w.value.setWidth 16 &&& w1cMask)) 0 := by
    rw [hraw, ← byteOf_setWidth _ (by decide)]
    rfl
  have h7 : h'.rawBytes 0x07 = byteOf (h.status &&& ~~~(w.value.setWidth 16 &&& w1cMask)) 1 := by
    rw [hraw, ← byteOf_setWidth _ (by decide)]
    rfl
  have hb6 : w.byteAt 0x06 = some (byteOf (w.value.setWidth 16 : U16) 0) := by
    rw [byteOf_cut _ (by decide)]
    simp [ConfigWrite.byteAt, ho, hwidth, PciAccessWidth.bytes]
  have hb7 : w.byteAt 0x07 = some (byteOf (w.value.setWidth 16 : U16) 1) := by
    rw [byteOf_cut _ (by decide)]
    simp [ConfigWrite.byteAt, ho, hwidth, PciAccessWidth.bytes]
  have hs6 : h.rawBytes 0x06 = byteOf h.status 0 := (byteOf_word16_low _ _).symm
  have hs7 : h.rawBytes 0x07 = byteOf h.status 1 := (byteOf_word16_high _ _).symm
  refine iff_of_true ⟨?_, ⟨?_, ?_⟩, ?_⟩ ?_
  · intro o hmem
    rw [mem_readOnlyOffsets] at hmem
    rw [hraw]
    exact writeRaw_word_other h _ (by simp; omega)
  · rw [h6, hb6, hs6]
    exact clearedByOnes_word _ _ _ 0 (by decide)
  · rw [h7, hb7, hs7]
    exact clearedByOnes_word _ _ _ 1 (by decide)
  · intro o hmem b hb
    have hrange : o.toNat < 6 := by
      simp only [List.mem_cons, List.not_mem_nil, or_false] at hmem
      obtain rfl | rfl := hmem <;> decide
    rw [byteAt_none (by rw [ho]; simp; omega)] at hb
    cases hb
  · simp [ConfigWrite.Harmless, ho, hwidth]

/-- A write that is stored as it is. -/
theorem rules_stored {w : ConfigWrite} (hw : w.Aligned) {h h' : PciConfigHeader β}
    (hro : w.offset ∉ readOnlyOffsets) (hcommand : w.offset = 0x04 → w.width ≠ .word)
    (hstatus : w.offset = 0x06 → w.width ≠ .word)
    (hraw : ∀ o, h'.rawBytes o = (w.byteAt o).getD (h.rawBytes o)) :
    RulesOf w h h' ↔ w.Harmless h := by
  have hcommandRule : CommandStored w h' := by
    intro o _ b hb
    rw [hraw, hb]
    rfl
  have hstatusRule : StatusKept w h h' ↔ h'.rawBytes 0x06 = h.rawBytes 0x06 ∧
      h'.rawBytes 0x07 = h.rawBytes 0x07 := by
    have hone : ∀ (o : U8) (mask : U8), ClearedByOnes mask ((w.byteAt o).getD 0) (h.rawBytes o)
        (h'.rawBytes o) ↔ h'.rawBytes o = h.rawBytes o := by
      intro o mask
      rw [hraw]
      cases hb : w.byteAt o with
      | none => exact iff_of_true (clearedByOnes_same _ _ _) rfl
      | some b => exact clearedByOnes_stored mask _ b
    rw [StatusKept, hone, hone]
  have huncovered : ∀ o : U8, w.byteAt o = none → h'.rawBytes o = h.rawBytes o := by
    intro o ho
    rw [hraw, ho]
    rfl
  have hoffset : ∀ o : U8, w.offset = o ↔ w.offset.toNat = o.toNat :=
    fun o => BitVec.toNat_inj.symm
  rw [mem_readOnlyOffsets] at hro
  unfold ConfigWrite.Aligned at hw
  rw [RulesOf, hstatusRule]
  cases hwidth : w.width with
  | byte =>
    have hbyte : ∀ o : U8, w.offset ≠ o → h'.rawBytes o = h.rawBytes o := by
      intro o ho
      rw [ne_eq, hoffset] at ho
      apply huncovered
      apply byteAt_none
      rw [hwidth]
      simp only [PciAccessWidth.bytes]
      omega
    have hwritten : h'.rawBytes w.offset = byteOf w.value 0 := by
      rw [hraw, byteAt_some ⟨Nat.le_refl _, by rw [hwidth]; simp [PciAccessWidth.bytes]⟩,
        Nat.sub_self]
      rfl
    have hkept : ReadOnlyKept h h' := by
      intro o hmem
      rw [mem_readOnlyOffsets] at hmem
      apply hbyte
      rw [ne_eq, hoffset]
      omega
    have hharmless : w.Harmless h ↔
        (w.offset = 0x06 ∨ w.offset = 0x07 → byteOf w.value 0 = h.rawBytes w.offset) := by
      simp [ConfigWrite.Harmless, hwidth]
    rw [hharmless, ← hwritten]
    constructor
    · rintro ⟨-, ⟨h6, h7⟩, -⟩ (ho | ho)
      · rw [ho]
        exact h6
      · rw [ho]
        exact h7
    · intro hsame
      refine ⟨hkept, ⟨?_, ?_⟩, hcommandRule⟩
      · by_cases ho : w.offset = 0x06
        · rw [← ho]
          exact hsame (.inl ho)
        · exact hbyte _ ho
      · by_cases ho : w.offset = 0x07
        · rw [← ho]
          exact hsame (.inr ho)
        · exact hbyte _ ho
  | word =>
    rw [hwidth] at hw
    have h4 : ¬ w.offset.toNat = 4 := fun ho => hcommand ((hoffset 0x04).2 ho) hwidth
    have h6 : ¬ w.offset.toNat = 6 := fun ho => hstatus ((hoffset 0x06).2 ho) hwidth
    have hword : ∀ o : U8, ¬ (w.offset.toNat = o.toNat ∨ w.offset.toNat + 1 = o.toNat) →
        h'.rawBytes o = h.rawBytes o := by
      intro o ho
      apply huncovered
      apply byteAt_none
      rw [hwidth]
      simp only [PciAccessWidth.bytes]
      omega
    simp only [PciAccessWidth.bytes] at hw
    refine iff_of_true ⟨?_, ⟨hword _ ?_, hword _ ?_⟩, hcommandRule⟩ ?_
    · intro o hmem
      rw [mem_readOnlyOffsets] at hmem
      apply hword
      omega
    · have h6' : (0x06 : U8).toNat = 6 := rfl
      omega
    · have h7' : (0x07 : U8).toNat = 7 := rfl
      omega
    · refine ⟨?_, ?_, ?_, ?_⟩
      · intro _ hd
        rw [hwidth] at hd
        cases hd
      · intro _ hd
        rw [hwidth] at hd
        cases hd
      · intro hd
        rw [hwidth] at hd
        cases hd
      · intro ho
        exact absurd ((hoffset 0x04).1 ho) h4
  | dword =>
    rw [hwidth] at hw
    simp only [PciAccessWidth.bytes] at hw
    have hdword : ∀ o : U8, ¬ (w.offset.toNat ≤ o.toNat ∧ o.toNat < w.offset.toNat + 4) →
        h'.rawBytes o = h.rawBytes o := by
      intro o ho
      apply huncovered
      apply byteAt_none
      rw [hwidth]
      exact ho
    have hstored : ∀ (o : U8) (j : ℕ), o.toNat = w.offset.toNat + j → j < 4 →
        h'.rawBytes o = byteOf w.value j := by
      intro o j ho hj
      rw [hraw, byteAt_some (by rw [hwidth]; simp only [PciAccessWidth.bytes]; omega), ho,
        Nat.add_sub_cancel_left]
      rfl
    have h4 : w.offset = 0x04 ↔ w.offset.toNat = 4 := hoffset 0x04
    have h12 : w.offset = 0x0C ↔ w.offset.toNat = 12 := hoffset 0x0C
    have hharmless : w.Harmless h ↔ (w.offset = 0x0C → byteOf w.value 2 = h.rawBytes 0x0E) ∧
        (w.offset = 0x04 → byteOf w.value 2 = h.rawBytes 0x06 ∧
          byteOf w.value 3 = h.rawBytes 0x07) := by
      simp [ConfigWrite.Harmless, hwidth]
    rw [hharmless]
    by_cases ho4 : w.offset.toNat = 4
    · have hkept : ReadOnlyKept h h' := by
        intro o hmem
        rw [mem_readOnlyOffsets] at hmem
        apply hdword
        omega
      have hne : w.offset ≠ 0x0C := fun h => by
        have := h12.1 h
        omega
      have ho := h4.2 ho4
      rw [hstored 0x06 2 (by rw [ho]; rfl) (by decide), hstored 0x07 3 (by rw [ho]; rfl) (by decide)]
      exact ⟨fun hrules => ⟨fun h => absurd h hne, fun _ => hrules.2.1⟩,
        fun hsame => ⟨hkept, hsame.2 ho, hcommandRule⟩⟩
    · have hne : w.offset ≠ 0x04 := fun h => ho4 (h4.1 h)
      have h6 : h'.rawBytes 0x06 = h.rawBytes 0x06 :=
        hdword _ (by have h6' : (0x06 : U8).toNat = 6 := rfl; omega)
      have h7 : h'.rawBytes 0x07 = h.rawBytes 0x07 :=
        hdword _ (by have h7' : (0x07 : U8).toNat = 7 := rfl; omega)
      have hkept : ReadOnlyKept h h' ↔
          (w.offset = 0x0C → byteOf w.value 2 = h.rawBytes 0x0E) := by
        constructor
        · intro hkept ho
          rw [← hstored 0x0E 2 (by rw [ho]; rfl) (by decide)]
          exact hkept _ (by decide)
        · intro hsame o hmem
          by_cases ho : w.offset = 0x0C ∧ o = 0x0E
          · obtain ⟨hoff, rfl⟩ := ho
            rw [hstored 0x0E 2 (by rw [hoff]; rfl) (by decide)]
            exact hsame hoff
          · apply hdword
            rw [mem_readOnlyOffsets] at hmem
            have ho' : ¬ (w.offset.toNat = 12 ∧ o.toNat = 14) := fun h =>
              ho ⟨h12.2 h.1, BitVec.eq_of_toNat_eq h.2⟩
            omega
      rw [hkept]
      exact ⟨fun hrules => ⟨hrules.1, fun h => absurd h hne⟩,
        fun hsame => ⟨hsame.1, ⟨h6, h7⟩, hcommandRule⟩⟩

/-- **The rules hold of one write** exactly if it is none of the four that go wrong. -/
theorem rules_iff_harmless {w : ConfigWrite} (hw : w.Aligned) {h h' : PciConfigHeader β}
    (hraw : h'.rawBytes = w.bytesAfter h) : RulesOf w h h' ↔ w.Harmless h := by
  obtain ⟨hoffset, heq⟩ | ⟨ho, hwidth, heq⟩ | ⟨ho, hwidth, heq⟩ | ⟨hro, hcommand, hstatus, heq⟩ :=
    bytesAfter_cases h hw
  · exact rules_unchanged hw hoffset (hraw.trans heq)
  · exact rules_commandWord ho hwidth (hraw.trans heq)
  · exact rules_statusWord ho hwidth (hraw.trans heq)
  · exact rules_stored hw hro hcommand hstatus fun o => (congrFun hraw o).trans (heq o)

/-! ## The rules of a sequence of writes -/

/-- The headers after a write. -/
theorem headerOf_next {br : PciBusBridge β} {w : ConfigWrite} (hw : w.Aligned) {bdf : PciBdf}
    {h : PciConfigHeader β} (hheader : headerOf br bdf = some h) :
    ∃ h', headerOf (w.next br) bdf = some h' ∧
      h'.rawBytes = if bdf = w.bdf then w.bytesAfter h else h.rawBytes := by
  have hraw := rawOf_next br hw bdf
  have hsome : rawOf (w.next br) bdf =
      some (if bdf = w.bdf then w.bytesAfter h else h.rawBytes) := by
    rw [hraw]
    split
    · rw [hheader]
      rfl
    · rw [rawOf, hheader]
      rfl
  obtain ⟨h', hh', hbytes⟩ := Option.map_eq_some_iff.1 hsome
  exact ⟨h', hh', hbytes⟩

/-- A device that is there after a write was there before. -/
theorem headerOf_before {br : PciBusBridge β} {w : ConfigWrite} (hw : w.Aligned) {bdf : PciBdf}
    {h' : PciConfigHeader β} (hheader : headerOf (w.next br) bdf = some h') :
    ∃ h, headerOf br bdf = some h := by
  cases hbefore : headerOf br bdf with
  | some h => exact ⟨h, rfl⟩
  | none =>
    have hraw := rawOf_next br hw bdf
    rw [rawOf, hheader, rawOf, hbefore] at hraw
    simp at hraw

/-- One write more is one more step. -/
theorem afterWrites_append (br : PciBusBridge β) (ws : List ConfigWrite) (w : ConfigWrite) :
    afterWrites br (ws ++ [w]) = w.next (afterWrites br ws) := by
  simp [afterWrites]

/-- The command register is read back if it is stored. -/
theorem commandReadBack_iff {br' : PciBusBridge β} {w : ConfigWrite} {h' : PciConfigHeader β}
    (hheader : headerOf br' w.bdf = some h') : CommandReadBack w br' ↔ CommandStored w h' := by
  obtain ⟨dev, hdev, rfl⟩ := Option.map_eq_some_iff.1 hheader
  have hread : ∀ o ∈ [(0x04 : U8), 0x05], br'.readConfig w.bdf o .byte =
      .ok ((dev.configHeader.rawBytes o).setWidth 32) := by
    intro o ho
    simp only [List.mem_cons, List.not_mem_nil, or_false] at ho
    obtain rfl | rfl := ho <;>
      simp [readConfig, PciRegistry.readConfig, hdev, PciConfigHeader.read, kPciConfigSpaceSize,
        PciAccessWidth.bytes, barOf, kPciBar0Offset, readRaw]
  have hinj : ∀ a b : U8, (a.setWidth 32 : U32) = b.setWidth 32 ↔ a = b := by
    intro a b
    constructor
    · intro hab
      apply BitVec.eq_of_toNat_eq
      have hnat := congrArg BitVec.toNat hab
      have ha := a.isLt
      have hb := b.isLt
      rw [BitVec.toNat_setWidth, BitVec.toNat_setWidth] at hnat
      omega
    · rintro rfl
      rfl
  constructor
  · intro h o ho b hb
    have hok := h o ho b hb
    rw [hread o ho] at hok
    exact (hinj _ _).1 (Except.ok.inj hok)
  · intro h o ho b hb
    rw [hread o ho, h o ho b hb]

/-- **The access rules hold in a sequence of writes** exactly if each write of it is none of the
four that go wrong, on the device as it then is. -/
theorem access_rules_iff (br : PciBusBridge β) (ws : List ConfigWrite)
    (haligned : ∀ w ∈ ws, w.Aligned) :
    AccessRules br ws ↔ ∀ done w, done ++ [w] <+: ws → ∀ h,
      headerOf (afterWrites br done) w.bdf = some h → w.Harmless h := by
  have haligned' : ∀ {done w}, done ++ [w] <+: ws → w.Aligned := by
    intro done w hearlier
    exact haligned w (hearlier.subset (by simp))
  have hfirst : ∀ {done bdf h'}, done <+: ws → headerOf (afterWrites br done) bdf = some h' →
      ∃ h, headerOf br bdf = some h := by
    intro done
    induction done using List.reverseRecOn with
    | nil =>
      intro bdf h' _ hh'
      exact ⟨h', hh'⟩
    | append_singleton done w ih =>
      intro bdf h' hearlier hh'
      rw [afterWrites_append] at hh'
      obtain ⟨h₁, hh₁⟩ := headerOf_before (haligned' hearlier) hh'
      exact ih ((List.prefix_append done [w]).trans hearlier) hh₁
  constructor
  · intro hrules done w hearlier h hh
    have hdone : done <+: ws := (List.prefix_append done [w]).trans hearlier
    obtain ⟨h', hh', hraw⟩ := headerOf_next (haligned' hearlier) hh
    rw [if_pos rfl] at hraw
    rw [← afterWrites_append] at hh'
    obtain ⟨h₀, hh₀⟩ := hfirst hdone hh
    apply (rules_iff_harmless (haligned' hearlier) hraw).1
    refine ⟨?_, ?_, ?_⟩
    · intro o ho
      rw [hrules.readOnly _ hearlier _ _ _ hh₀ hh' o ho, hrules.readOnly _ hdone _ _ _ hh₀ hh o ho]
    · simpa using hrules.status done w hearlier w.bdf h h' hh hh'
    · exact (commandReadBack_iff hh').1 (hrules.command done w hearlier h hh)
  · intro hharmless
    have hstep : ∀ {done w}, done ++ [w] <+: ws → ∀ h h',
        headerOf (afterWrites br done) w.bdf = some h →
        headerOf (afterWrites br (done ++ [w])) w.bdf = some h' → RulesOf w h h' := by
      intro done w hearlier h h' hh hh'
      obtain ⟨h₁, hh₁, hraw⟩ := headerOf_next (haligned' hearlier) hh
      rw [if_pos rfl] at hraw
      rw [afterWrites_append, hh₁] at hh'
      cases hh'
      exact (rules_iff_harmless (haligned' hearlier) hraw).2 (hharmless done w hearlier h hh)
    have hother : ∀ {done w bdf}, done ++ [w] <+: ws → bdf ≠ w.bdf → ∀ h h',
        headerOf (afterWrites br done) bdf = some h →
        headerOf (afterWrites br (done ++ [w])) bdf = some h' → h'.rawBytes = h.rawBytes := by
      intro done w bdf hearlier hne h h' hh hh'
      obtain ⟨h₁, hh₁, hraw⟩ := headerOf_next (haligned' hearlier) hh
      rw [if_neg hne] at hraw
      rw [afterWrites_append, hh₁] at hh'
      cases hh'
      exact hraw
    constructor
    · intro done
      induction done using List.reverseRecOn with
      | nil =>
        intro _ bdf h h' hh hh' o _
        rw [afterWrites, List.foldl_nil, hh] at hh'
        cases hh'
        rfl
      | append_singleton done w ih =>
        intro hearlier bdf h h' hh hh' o ho
        have hdone : done <+: ws := (List.prefix_append done [w]).trans hearlier
        have hnext := hh'
        rw [afterWrites_append] at hnext
        obtain ⟨h₁, hh₁⟩ := headerOf_before (haligned' hearlier) hnext
        rw [← ih hdone bdf h h₁ hh hh₁ o ho]
        by_cases hbdf : bdf = w.bdf
        · subst hbdf
          exact (hstep hearlier h₁ h' hh₁ hh').1 o ho
        · rw [hother hearlier hbdf h₁ h' hh₁ hh']
    · intro done w hearlier bdf h h' hh hh'
      split
      next hbdf =>
        subst hbdf
        exact (hstep hearlier h h' hh hh').2.1
      next hbdf =>
        rw [hother hearlier hbdf h h' hh hh']
        exact ⟨rfl, rfl⟩
    · intro done w hearlier h hh
      obtain ⟨h', hh', -⟩ := headerOf_next (haligned' hearlier) hh
      rw [← afterWrites_append] at hh'
      exact (commandReadBack_iff hh').2 (hstep hearlier h h' hh hh').2.2

/-! ## Four writes -/

/-- A bridge with one device, as it is constructed. -/
def oneDevice : PciBusBridge Unit where
  registry := { devices := [⟨{}, .initial⟩] }

/-- A byte to the command register, and a sizing probe. -/
theorem access_rules_commandByte :
    AccessRules oneDevice [⟨{}, 0x04, .byte, 0x06⟩, ⟨{}, 0x10, .dword, 0xFFFFFFFF⟩] := by
  refine (access_rules_iff oneDevice _ (by decide)).2 ?_
  intro done w hearlier h _
  have hmem : w ∈ [ConfigWrite.mk {} 0x04 .byte 0x06, ⟨{}, 0x10, .dword, 0xFFFFFFFF⟩] :=
    hearlier.subset (by simp)
  simp only [List.mem_cons, List.not_mem_nil, or_false] at hmem
  obtain rfl | rfl := hmem <;> simp [ConfigWrite.Harmless]

/-- A dword at the cache line size overwrites the header type; a dword to the command register
and a byte to the status register overwrite status bits; of a word to the command register, one
bit is stored. -/
theorem access_rules_broken :
    ¬ AccessRules oneDevice [⟨{}, 0x0C, .dword, 0x00800000⟩] ∧
      ¬ AccessRules oneDevice [⟨{}, 0x04, .dword, 0x00000002⟩] ∧
      ¬ AccessRules oneDevice [⟨{}, 0x07, .byte, 0x00⟩] ∧
      ¬ AccessRules oneDevice [⟨{}, 0x04, .word, 0x0007⟩] := by
  refine ⟨?_, ?_, ?_, ?_⟩
  · intro hrules
    exact absurd (hrules.readOnly _ (List.prefix_refl _) {} _ _ rfl rfl 0x0E (by decide))
      (by decide +kernel)
  · intro hrules
    have hstatus := hrules.status [] _ (List.prefix_refl _) {} _ _ rfl rfl
    exact absurd (hstatus.2 1 (by decide +kernel)).1 (by decide +kernel)
  · intro hrules
    have hstatus := hrules.status [] _ (List.prefix_refl _) {} _ _ rfl rfl
    exact absurd (hstatus.2 1 (by decide +kernel)).1 (by decide +kernel)
  · intro hrules
    have hcommand := hrules.command [] _ (List.prefix_refl _) _ rfl 0x04 (by decide) 0x07 rfl
    exact absurd hcommand (by decide +kernel)

end Xblob.Analysis
