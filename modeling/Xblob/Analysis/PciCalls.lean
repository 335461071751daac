import Xblob.Analysis.PciMappings
import Xblob.Analysis.PciRules

/-!
# The calls of the PCI bus bridge

A call that programs a base address register changes it, and then maps it or syncs its device.
The invariant survives the change but for the entry of that register, if there is room for it
where it goes; the mapping puts the entry right.
-/

set_option autoImplicit false

namespace Xblob.Analysis

open Xblob.Computation Xblob.Interface Xblob.Pci Xblob.Pci.PciBusBridge

variable {β : Type} {F : List (BusMapping β)} {br br' : PciBusBridge β} {id : BarId}
  {bar : PciBar β}

/-! ## Changes of one register -/

/-- One register has been replaced. -/
structure BarChanged (br br' : PciBusBridge β) (id : BarId) (bar : PciBar β) : Prop where
  active : br'.activeMappings = br.activeMappings
  bus : br'.bus = br.bus
  at_ : barAt br' id = some bar
  others : ∀ id', id' ≠ id → barAt br' id' = barAt br id'
  enabled : ∀ bdf, MemoryEnabled br' bdf ↔ MemoryEnabled br bdf

/-- The invariant, but for the entry of one register, which may be out of place or missing. -/
structure Loose (F : List (BusMapping β)) (br : PciBusBridge β) (id : BarId) : Prop where
  layout : Layout F br
  placed : BarsPlaced F br
  others : ∀ id', id' ≠ id → Exact br id'
  own : ∀ act ∈ br.activeMappings, act.id = id → ∃ bar, Wanted br id bar

/-- Mappings that mirror the BARs may be loose at one. -/
theorem Mirrors.loose (h : Mirrors F br) (id : BarId) : Loose F br id where
  layout := h.layout
  placed := h.placed
  others id' _ := h.exact id'
  own := by
    intro act hact hid
    obtain ⟨bar, hwanted, -⟩ := (h.exact id act hid).1 hact
    rw [hid] at hwanted
    exact ⟨bar, hwanted⟩

/-- Mappings that are loose at one BAR mirror them where that one is exact. -/
theorem Loose.mirrors (h : Loose F br id) (hexact : Exact br id) : Mirrors F br where
  layout := h.layout
  placed := h.placed
  exact := by
    intro id'
    by_cases hid : id' = id
    · rw [hid]
      exact hexact
    · exact h.others id' hid

/-- Mappings that are loose can be fixed at every BAR. -/
theorem Loose.fixable (h : Loose F br id) (id' : BarId) : Fixable br id' := by
  by_cases hid : id' = id
  · subst hid
    refine .inr ⟨?_, h.own⟩
    intro act hact hne
    exact (h.others act.id hne).current rfl hact
  · exact .inl (h.others id' hid)

/-- Mappings that are loose at a BAR are unsynchronised at its device at most. -/
theorem Loose.unsynced (h : Loose F br id) : Unsynced F id.bdf br where
  layout := h.layout
  placed := h.placed
  others id' hbdf := h.others id' fun heq => hbdf (congrArg BarId.bdf heq)
  fixable _ _ := h.fixable _

/-- Mappings that mirror the BARs are unsynchronised at no device. -/
theorem Mirrors.unsynced (h : Mirrors F br) (bdf : PciBdf) : Unsynced F bdf br where
  layout := h.layout
  placed := h.placed
  others id _ := h.exact id
  fixable _ i := .inl (h.exact ⟨bdf, i⟩)

/-- Taking out the entry of a register leaves the invariant without it. -/
theorem Unmapped.loose (h : Unmapped br br' id) (hlayout : Layout F br') (hloose : Loose F br id) :
    Loose F br' id where
  layout := hlayout
  placed := hloose.placed.congr h.registry
  others := by
    intro id' hid
    refine exact_of_same h.registry ?_ (hloose.others id' hid)
    intro act hact
    rw [h.entries]
    exact ⟨fun hmem => hmem.1, fun hmem => ⟨hmem, by rw [hact]; exact hid⟩⟩
  own := by
    intro act hact hid
    exact absurd hid ((h.entries act).1 hact).2

/-- A BAR changed leaves the others programmed as they were. -/
theorem BarChanged.programmed (h : BarChanged br br' id bar) {id' : BarId} (hid : id' ≠ id)
    {bar' : PciBar β} : Programmed br' id' bar' ↔ Programmed br id' bar' := by
  rw [Programmed, Programmed, h.others id' hid]

/-- A BAR changed leaves the others wanted as they were. -/
theorem BarChanged.wanted (h : BarChanged br br' id bar) {id' : BarId} (hid : id' ≠ id)
    {bar' : PciBar β} : Wanted br' id' bar' ↔ Wanted br id' bar' := by
  constructor
  · intro hw
    exact ⟨(h.programmed hid).1 hw.programmed, hw.attached, (h.enabled _).1 hw.enabled⟩
  · intro hw
    exact ⟨(h.programmed hid).2 hw.programmed, hw.attached, (h.enabled _).2 hw.enabled⟩

/-- What programming a register keeps of it. -/
structure Reprogrammed (bar bar' : PciBar β) : Prop where
  device : bar'.device = bar.device
  isIo : bar'.isIo = bar.isIo
  active : bar.isActive = true → bar'.isActive = true

/-- The place of a register is free: in the address space, apart from the other programmed
registers and, if it is to be mapped there, from the mappings of others. -/
structure BarPlaceFree (F : List (BusMapping β)) (br : PciBusBridge β) (id : BarId)
    (bar : PciBar β) : Prop where
  inSpace : (barSpan bar).stop ≤ 0x100000000
  bars : ∀ id' bar', Programmed br id' bar' → id' ≠ id → (barSpan bar).Apart (barSpan bar')
  mappings : bar.device.isSome → MemoryEnabled br id.bdf → ∀ m ∈ F, m.span.Apart (barSpan bar)

/-- A register that comes to a free place leaves the invariant but for its own entry. -/
theorem BarChanged.loose {bar' : PciBar β} (h : BarChanged br br' id bar') (hloose : Loose F br id)
    (hbar : barAt br id = some bar) (hre : Reprogrammed bar bar')
    (hfree : Programmed br' id bar' → BarPlaceFree F br id bar') : Loose F br' id where
  layout := by
    refine hloose.layout.congr h.active h.bus ?_
    intro id'
    by_cases hid : id' = id
    · rw [hid, deviceAt, deviceAt, h.at_, hbar]
      exact hre.device
    · rw [deviceAt, deviceAt, h.others id' hid]
  placed := by
    have hself : ∀ {b}, Programmed br' id b → b = bar' := fun hb =>
      Option.some.inj (hb.1.symm.trans h.at_)
    constructor
    · intro i i' b b' hb hb' hne
      by_cases hi : i = id
      · subst hi
        obtain rfl := hself hb
        exact (hfree hb).bars i' b' ((h.programmed hne.symm).1 hb') hne.symm
      · by_cases hi' : i' = id
        · subst hi'
          obtain rfl := hself hb'
          exact ((hfree hb').bars i b ((h.programmed hi).1 hb) hi).symm
        · exact hloose.placed.disjoint i i' b b' ((h.programmed hi).1 hb) ((h.programmed hi').1 hb')
            hne
    · intro i b hb
      by_cases hi : i = id
      · subst hi
        obtain rfl := hself hb
        exact (hfree hb).inSpace
      · exact hloose.placed.inSpace i b ((h.programmed hi).1 hb)
    · intro i b hb
      by_cases hi : i = id
      · subst hi
        obtain rfl := hself hb.programmed
        exact (hfree hb.programmed).mappings hb.attached ((h.enabled _).1 hb.enabled)
      · exact hloose.placed.apart i b ((h.wanted hi).1 hb)
  others := by
    intro id' hid act hact
    rw [h.active, hloose.others id' hid act hact]
    have hne : act.id ≠ id := by
      rw [hact]
      exact hid
    constructor
    · rintro ⟨b, hwanted, heq⟩
      exact ⟨b, (h.wanted hne).2 hwanted, heq⟩
    · rintro ⟨b, hwanted, heq⟩
      exact ⟨b, (h.wanted hne).1 hwanted, heq⟩
  own := by
    intro act hact hid
    rw [h.active] at hact
    obtain ⟨b, hwanted⟩ := hloose.own act hact hid
    have hb : b = bar := Option.some.inj (hwanted.programmed.1.symm.trans hbar)
    subst hb
    exact ⟨bar', ⟨h.at_, hre.active hwanted.programmed.2.1, hre.isIo.trans hwanted.programmed.2.2⟩,
      by rw [hre.device]; exact hwanted.attached, (h.enabled _).2 hwanted.enabled⟩

/-- Storing a register in the header of its device. -/
theorem barChanged_setBar (id : BarId) {dev : PciDevice β} (hdev : br.registry.findDevice id.bdf = some dev)
    (bar : PciBar β) : BarChanged br { br with
      registry := br.registry.setHeader id.bdf (dev.configHeader.setBar id.barIdx bar) } id bar where
  active := rfl
  bus := rfl
  at_ := by
    rw [barAt, headerOf_setHeader, if_pos rfl, headerOf, hdev]
    simp [PciConfigHeader.setBar]
  others := by
    intro id' hid
    rw [barAt, headerOf_setHeader]
    by_cases hbdf : id'.bdf = id.bdf
    · have hidx : id'.barIdx ≠ id.barIdx := by
        intro hidx
        apply hid
        cases id
        cases id'
        cases hbdf
        cases hidx
        rfl
      rw [if_pos hbdf, barAt, headerOf, hbdf, hdev]
      simp [PciConfigHeader.setBar, hidx]
    · rw [if_neg hbdf]
      rfl
  enabled := by
    intro bdf
    rw [MemoryEnabled, MemoryEnabled, headerOf_setHeader]
    by_cases hbdf : bdf = id.bdf
    · rw [if_pos hbdf, headerOf, hbdf, hdev]
      simp only [Option.map_some, Option.some.injEq]
      constructor
      · rintro ⟨_, rfl, henabled⟩
        exact ⟨_, rfl, henabled⟩
      · rintro ⟨_, rfl, henabled⟩
        exact ⟨_, rfl, henabled⟩
    · rw [if_neg hbdf]

/-- Storing a header with the same registers. -/
theorem commandChanged_setHeader {bdf : PciBdf} {dev : PciDevice β}
    (hdev : br.registry.findDevice bdf = some dev) {h : PciConfigHeader β}
    (hbars : h.bars = dev.configHeader.bars) :
    CommandChanged br { br with registry := br.registry.setHeader bdf h } bdf where
  active := rfl
  bus := rfl
  bars := by
    intro id
    rw [barAt, headerOf_setHeader]
    by_cases hbdf : id.bdf = bdf
    · rw [if_pos hbdf, barAt, headerOf, hbdf, hdev]
      simp [hbars]
    · rw [if_neg hbdf]
      rfl
  enabled := by
    intro bdf' hbdf
    rw [MemoryEnabled, headerOf_setHeader, if_neg hbdf]
    rfl

/-! ## Room -/

/-- A mapping of another is not the register's own. -/
theorem apart_of_freeOnBus {span : Span} (hmirrors : Mirrors F br) (h : FreeOnBus br id span) :
    ∀ m ∈ F, m.span.Apart span := by
  intro m hm
  apply h m (hmirrors.layout.kept m hm)
  rintro ⟨act, hact, -, hbase⟩
  obtain ⟨device, -, hmapped, hother⟩ := hmirrors.layout.mapped act hact
  rw [Bus.eq_of_base (hmirrors.layout.kept m hm) hmapped hbase.symm] at hm
  exact hother hm

/-- Where a register may come, its place is free. -/
theorem barPlaceFree_of_mayCome {bar bar' : PciBar β} (h : MayCome br id bar bar'.baseAddress)
    (hsize : bar'.size = bar.size) (hdevice : bar'.device = bar.device) (hmirrors : Mirrors F br)
    (hspace : (barSpan bar').stop ≤ 0x100000000) : BarPlaceFree F br id bar' := by
  have hspan : spanAt bar bar'.baseAddress = barSpan bar' := by
    rw [spanAt, barSpan, hsize]
  obtain ⟨hbars, hbus⟩ := h
  rw [hspan] at hbars hbus
  refine ⟨hspace, hbars, ?_⟩
  intro hattached henabled
  rw [hdevice] at hattached
  exact apart_of_freeOnBus hmirrors (hbus hattached henabled)

/-- Where the collision check passes, a register may come. -/
theorem mayCome_of_hasCollision {bar : PciBar β} {addr : GuestAddr}
    (hconfigured : bar.isConfigured = true) (h : br.hasCollision id addr bar.size = false) :
    MayCome br id bar addr := by
  have hne : ¬ bar.size = 0 := by
    intro hzero
    rw [PciBar.isConfigured, hzero] at hconfigured
    cases hconfigured
  rw [hasCollision, if_neg hne, Bool.or_eq_false_iff] at h
  obtain ⟨hbars, hmappings⟩ := h
  constructor
  · intro id' bar' hprogrammed hid
    obtain ⟨header, hheader, hbar⟩ := Option.map_eq_some_iff.1 hprogrammed.1
    obtain ⟨dev, hdev, rfl⟩ := Option.map_eq_some_iff.1 hheader
    have hmem : dev ∈ br.registry.devices := List.mem_of_find?_eq_some hdev
    have hbdf : dev.bdf = id'.bdf := findDevice_bdf hdev
    rw [List.any_eq_false] at hbars
    have hdevice := hbars dev hmem
    rw [Bool.not_eq_true, List.any_eq_false] at hdevice
    have hone := hdevice id'.barIdx (List.mem_finRange _)
    have hid' : ¬ BarId.mk dev.bdf id'.barIdx = id := by
      rw [hbdf]
      exact hid
    rw [hbar] at hone
    simp only [hid', decide_false, Bool.not_false, hprogrammed.2.1, Bool.true_and,
      decide_eq_true_eq] at hone
    simp only [spanAt, barSpan, Span.Apart, Span.Before, Span.stop]
    omega
  · intro _ _ m hm hown
    rw [List.any_eq_false] at hmappings
    have hone := hmappings m hm
    have hnot : (br.activeMappings.any fun act => act.id = id ∧ act.base = m.base) = false := by
      rw [List.any_eq_false]
      intro act hact hsame
      exact hown ⟨act, hact, by simpa using hsame⟩
    rw [hnot, Bool.not_false, Bool.true_and, BusMapping.overlaps_iff, not_not] at hone
    exact hone

/-! ## Programming a register -/

/-- What an accepted address does to a register. -/
theorem programAddress_ok {bar bar' : PciBar β} {addr : GuestAddr}
    (h : bar.programAddress addr = .ok bar') :
    bar.isConfigured = true ∧ addr.toNat + bar.size.toNat ≤ 0x100000000 ∧
      bar'.baseAddress = addr &&& bar.addressMask ∧ bar'.size = bar.size ∧
      bar'.isActive = true ∧ Reprogrammed bar bar' := by
  unfold PciBar.programAddress PciBar.checkAddress at h
  split_ifs at h with hconfigured hrange halign
  cases h
  have hconf : bar.isConfigured = true := by simpa using hconfigured
  have hactive : ∀ b : PciBar β, b.size = bar.size → b.isProgrammed = true → b.isActive = true := by
    intro b hsize hprogrammed
    rw [PciBar.isActive, PciBar.isConfigured, hsize, hprogrammed, Bool.and_true]
    exact hconf
  exact ⟨hconf, Nat.not_lt.1 hrange, rfl, rfl, hactive _ rfl rfl, rfl, rfl,
    fun _ => hactive _ rfl rfl⟩

/-- A register that accepts an address takes it. -/
theorem takesAddress_of_ok {bar bar' : PciBar β} {addr : GuestAddr}
    (h : bar.programAddress addr = .ok bar') : TakesAddress bar addr := by
  unfold PciBar.programAddress PciBar.checkAddress at h
  split_ifs at h with hconfigured hrange halign
  exact ⟨by simpa using hconfigured, Nat.not_lt.1 hrange, not_not.1 halign⟩

/-- The base of a memory register after an accepted address. -/
theorem memory_base {bar bar' : PciBar β} {addr : GuestAddr}
    (h : bar.programAddress addr = .ok bar') (hio : bar'.isIo = false) :
    bar.isIo = false ∧ bar'.baseAddress = addr &&& kPciBarMemoryAddressMask := by
  obtain ⟨-, -, hbase, -, -, hre⟩ := programAddress_ok h
  have hmemory : bar.isIo = false := hre.isIo.symm.trans hio
  rw [PciBar.addressMask, hmemory] at hbase
  exact ⟨hmemory, hbase⟩

/-- The range of a register that an accepted address has programmed. -/
theorem programAddress_stop {bar bar' : PciBar β} {addr : GuestAddr}
    (h : bar.programAddress addr = .ok bar') : (barSpan bar').stop ≤ 0x100000000 := by
  obtain ⟨-, hrange, hbase, hsize, -⟩ := programAddress_ok h
  have hle : (addr &&& bar.addressMask).toNat ≤ addr.toNat := by
    rw [BitVec.toNat_and]
    exact Nat.and_le_left
  simp only [barSpan, Span.stop, hbase, hsize]
  omega

/-- The checks of the bridge are those of the register. -/
theorem programAddress_of_check {bar : PciBar β} {addr : GuestAddr} {text : String}
    (hconfigured : bar.isConfigured = true) (h : bar.checkAddress addr text = .ok ()) :
    ∃ bar', bar.programAddress addr = .ok bar' := by
  unfold PciBar.checkAddress at h
  split_ifs at h with hrange halign
  rw [PciBar.programAddress, hconfigured, PciBar.checkAddress, if_neg hrange, if_neg halign]
  exact ⟨_, rfl⟩

/-- Mapping a register completes the invariant. -/
theorem mapBar_mirrors (h : Loose F br id) : Mirrors F (stateAfter ((mapBar id).run br)) := by
  obtain ⟨hlayout, hregistry, hexact, hsame⟩ := mapBar_fixes h.layout h.placed (h.fixable id)
  refine ⟨hlayout, h.placed.congr hregistry, ?_⟩
  intro id'
  by_cases hid : id' = id
  · rw [hid]
    exact hexact
  · refine exact_of_same hregistry ?_ (h.others id' hid)
    intro act hact
    exact hsame act (by rw [hact]; exact hid)

/-- The old entry is taken out if there is one. -/
theorem unmapOld_run (hlayout : Layout F br) (id : BarId) :
    ∃ br', (onlyIf (br.activeMappings.any fun act => act.id = id)
      (regardless (unmapBar id))).run br = .ok () br' ∧ Layout F br' ∧ Unmapped br br' id := by
  cases hany : br.activeMappings.any fun act => act.id = id with
  | true =>
    obtain ⟨br', hrun, hrest⟩ := unmapBar_run hlayout id
    refine ⟨br', ?_, hrest⟩
    rw [onlyIf_true, run_regardless, hrun]
    rfl
  | false =>
    rw [List.any_eq_false] at hany
    have hnone : ∀ act ∈ br.activeMappings, act.id ≠ id := by
      intro act hact
      simpa using hany act hact
    refine ⟨br, rfl, hlayout, rfl, ?_, ?_⟩
    · intro act
      exact ⟨fun hact => ⟨hact, hnone act hact⟩, fun hact => hact.1⟩
    · intro m
      exact ⟨fun hm => ⟨hm, fun act hact hid => absurd hid (hnone act hact)⟩, fun hm => hm.1⟩

/-- A register is moved to where it may come. -/
theorem moveBar_mirrors (id : BarId) (hmirrors : Mirrors F br) {dev : PciDevice β}
    (hdev : br.registry.findDevice id.bdf = some dev) {newAddr : GuestAddr} {bar' : PciBar β}
    (hok : (dev.configHeader.bars id.barIdx).programAddress newAddr = .ok bar')
    (hmay : bar'.isIo = false → MayCome br id (dev.configHeader.bars id.barIdx) bar'.baseAddress) :
    ∃ br', (moveBar id dev newAddr).run br = .ok () br' ∧ Mirrors F br' := by
  obtain ⟨br₁, hunmap, hlayout₁, hunmapped⟩ := unmapOld_run hmirrors.layout id
  have hloose₁ : Loose F br₁ id := hunmapped.loose hlayout₁ (hmirrors.loose id)
  have hdev₁ : br₁.registry.findDevice id.bdf = some dev := by
    rw [hunmapped.registry]
    exact hdev
  have hchanged := barChanged_setBar id hdev₁ bar'
  obtain ⟨-, -, -, hsize, hactive, hre⟩ := programAddress_ok hok
  have hbar₁ : barAt br₁ id = some (dev.configHeader.bars id.barIdx) := by
    rw [barAt, headerOf, hdev₁]
    rfl
  have hplace : bar'.isIo = false → BarPlaceFree F br₁ id bar' := by
    intro hio
    have hfree := barPlaceFree_of_mayCome (hmay hio) hsize hre.device hmirrors
      (programAddress_stop hok)
    refine ⟨hfree.inSpace, ?_, ?_⟩
    · intro id' b hb hid
      exact hfree.bars id' b ((programmed_congr hunmapped.registry).1 hb) hid
    · intro hattached henabled
      exact hfree.mappings hattached ((memoryEnabled_congr hunmapped.registry).1 henabled)
  have hloose₂ := hchanged.loose hloose₁ hbar₁ hre fun hprogrammed => hplace hprogrammed.2.2
  have hprogram : (programAddress id newAddr).run br₁ = .ok () { br₁ with
      registry := br₁.registry.setHeader id.bdf (dev.configHeader.setBar id.barIdx bar') } := by
    unfold programAddress
    simp only [EStateM.run_bind, EStateM.run_get, hdev₁, hok]
    rfl
  unfold moveBar
  simp only [EStateM.run_bind, EStateM.run_get, hunmap, run_tryCatch_ok hprogram]
  have henabled : ∀ br₂ : PciBusBridge β, (∀ bdf, MemoryEnabled br₂ bdf ↔ MemoryEnabled br₁ bdf) →
      (MemoryEnabled br₂ id.bdf ↔ dev.configHeader.isMemorySpaceEnabled = true) := by
    intro br₂ hsame
    rw [hsame, memoryEnabled_iff hdev₁]
  cases hcond : dev.configHeader.isMemorySpaceEnabled &&
      (dev.configHeader.bars id.barIdx).device.isSome && !(dev.configHeader.bars id.barIdx).isIo with
  | true =>
    simp only [Bool.and_eq_true, Bool.not_eq_true'] at hcond
    have hwanted := Wanted.mk ⟨hchanged.at_, hactive, hre.isIo.trans hcond.2⟩
      (by rw [hre.device]; exact hcond.1.2) ((henabled _ hchanged.enabled).2 hcond.1.1)
    obtain ⟨br₃, hmap, -, -⟩ := mapBar_wanted hloose₂.layout hloose₂.placed hwanted
      fun act hact hne => (hloose₂.others act.id hne).current rfl hact
    have hmirrors₃ := mapBar_mirrors hloose₂
    rw [hmap] at hmirrors₃
    exact ⟨br₃, by rw [onlyIf_true, run_tryCatch_ok hmap], hmirrors₃⟩
  | false =>
    refine ⟨_, rfl, hloose₂.mirrors ?_⟩
    intro act hid
    constructor
    · intro hact
      exact absurd hid ((hunmapped.entries act).1 hact).2
    · rintro ⟨b, hwanted, -⟩
      rw [hid] at hwanted
      have hb : b = bar' := Option.some.inj (hwanted.programmed.1.symm.trans hchanged.at_)
      subst hb
      have hall : (dev.configHeader.isMemorySpaceEnabled &&
          (dev.configHeader.bars id.barIdx).device.isSome &&
          !(dev.configHeader.bars id.barIdx).isIo) = true := by
        rw [(henabled _ hchanged.enabled).1 hwanted.enabled, ← hre.device, ← hre.isIo,
          hwanted.attached, hwanted.programmed.2.2]
        rfl
      rw [hcond] at hall
      cases hall

/-! ## The calls -/

/-- A call that succeeds keeps the invariant, and one that fails changes nothing. -/
def CallKeeps (F : List (BusMapping β)) (br : PciBusBridge β)
    (f : EStateM Error (PciBusBridge β) Unit) : Prop :=
  (∃ br', f.run br = .ok () br' ∧ Mirrors F br') ∨ ∃ e, f.run br = .error e br

/-- Programming a BAR under its condition keeps the mappings mirrored. -/
theorem programBar_sound (hmirrors : Mirrors F br) (bdf : PciBdf) (barIdx : U8)
    (newAddr : GuestAddr) (hsafe : PciCall.Safe br (.programBar bdf barIdx newAddr)) :
    CallKeeps F br (programBar bdf barIdx newAddr) := by
  unfold CallKeeps programBar
  simp only [EStateM.run_bind, EStateM.run_get]
  cases hdev : br.registry.findDevice bdf with
  | none => exact .inr ⟨_, rfl⟩
  | some dev =>
    dsimp only
    split
    next hidx =>
      rw [run_ite]
      split
      · exact .inr ⟨_, rfl⟩
      next hconfigured =>
        rw [EStateM.run_bind, run_ofExcept]
        cases hcheck : (dev.configHeader.bars ⟨barIdx.toNat, hidx⟩).checkAddress newAddr
            "BAR address misaligned" with
        | error e => exact .inr ⟨e, rfl⟩
        | ok u =>
          dsimp only
          rw [run_ite]
          split
          · exact .inr ⟨_, rfl⟩
          next hcollision =>
            obtain ⟨bar', hok⟩ := programAddress_of_check (by simpa using hconfigured) hcheck
            refine .inl (moveBar_mirrors ⟨bdf, ⟨barIdx.toNat, hidx⟩⟩ hmirrors hdev hok ?_)
            intro hio
            obtain ⟨hmemory, hbase⟩ := memory_base hok hio
            rw [hbase]
            refine hsafe hidx _ ?_ hmemory (takesAddress_of_ok hok) (by simpa using hcollision)
            rw [barAt, headerOf, hdev]
            rfl
    · exact .inr ⟨_, rfl⟩

/-- An address without low bits is safe to program. -/
theorem programBar_safe_of_masked (bdf : PciBdf) (barIdx : U8) {newAddr : GuestAddr}
    (hmasked : newAddr &&& kPciBarMemoryAddressMask = newAddr) :
    PciCall.Safe br (.programBar bdf barIdx newAddr) := by
  intro hidx bar _ _ htakes hcollision
  rw [hmasked]
  exact mayCome_of_hasCollision htakes.configured hcollision

/-- The command register after a word is stored in it. -/
theorem command_writeRaw (h : PciConfigHeader β) (cmd : U16) :
    (h.writeRaw kPciCommandOffset .word (cmd.setWidth 32)).command = cmd := by
  have hlow : (h.writeRaw kPciCommandOffset .word (cmd.setWidth 32)).rawBytes kPciCommandOffset =
      byteOf cmd 0 := by
    rw [← byteOf_setWidth _ (by decide)]
    rfl
  have hhigh : (h.writeRaw kPciCommandOffset .word (cmd.setWidth 32)).rawBytes
      (kPciCommandOffset + 1) = byteOf cmd 1 := by
    rw [← byteOf_setWidth _ (by decide)]
    rfl
  rw [PciConfigHeader.command, hlow, hhigh, word16_byteOf]

/-- The memory space switch sets what it is told to set. -/
theorem enabled_writeRaw (h : PciConfigHeader β) (cmd : U16) (enabled : Bool) :
    (h.writeRaw kPciCommandOffset .word ((if enabled then cmd ||| kPciCommandMemorySpace
      else cmd &&& ~~~kPciCommandMemorySpace).setWidth 32)).isMemorySpaceEnabled = enabled := by
  rw [PciConfigHeader.isMemorySpaceEnabled, command_writeRaw, Bool.eq_iff_iff, decide_eq_true_iff,
    memorySpace_iff]
  cases enabled with
  | true =>
    rw [if_pos rfl, BitVec.getLsbD_or, getLsbD_memorySpace (by decide)]
    simp
  | false =>
    rw [if_neg Bool.false_ne_true, BitVec.getLsbD_and, BitVec.getLsbD_not,
      getLsbD_memorySpace (by decide)]
    simp

/-- What may be enabled is apart from the mappings of others. -/
theorem free_of_mayEnable {bdf : PciBdf} (h : MayEnable br bdf) (hmirrors : Mirrors F br)
    (hchanged : CommandChanged br br' bdf) :
    ∀ i bar, Wanted br' ⟨bdf, i⟩ bar → ∀ m ∈ F, m.span.Apart (barSpan bar) := by
  intro i bar hwanted
  have hprogrammed := hchanged.programmed.1 hwanted.programmed
  exact apart_of_freeOnBus hmirrors (h i bar hprogrammed hwanted.attached)

/-- Turning memory space on or off under its condition keeps the mappings mirrored. -/
theorem setMemorySpaceEnabled_sound (hmirrors : Mirrors F br) (bdf : PciBdf) (enabled : Bool)
    (hsafe : enabled = true → MayEnable br bdf) :
    CallKeeps F br (setMemorySpaceEnabled bdf enabled) := by
  unfold CallKeeps setMemorySpaceEnabled
  simp only [EStateM.run_bind, EStateM.run_get]
  cases hdev : br.registry.findDevice bdf with
  | none => exact .inr ⟨_, rfl⟩
  | some dev =>
    simp only [write_command, EStateM.run_bind, EStateM.run_set]
    have henabled := enabled_writeRaw dev.configHeader dev.configHeader.command enabled
    generalize hwritten : dev.configHeader.writeRaw kPciCommandOffset .word
      ((if enabled then dev.configHeader.command ||| kPciCommandMemorySpace
        else dev.configHeader.command &&& ~~~kPciCommandMemorySpace).setWidth 32) = h at henabled ⊢
    have hbars : h.bars = dev.configHeader.bars := by
      rw [← hwritten]
      rfl
    have hchanged := commandChanged_setHeader hdev hbars
    have hmemory : MemoryEnabled { br with registry := br.registry.setHeader bdf h } bdf ↔
        enabled = true := by
      rw [MemoryEnabled, headerOf_setHeader, if_pos rfl, headerOf, hdev]
      simp only [Option.map_some, Option.some.injEq]
      rw [exists_eq_left', henabled]
    have hunsynced := hchanged.unsynced hmirrors (by
      intro i bar hwanted
      exact free_of_mayEnable (hsafe (hmemory.1 hwanted.enabled)) hmirrors hchanged i bar hwanted)
    left
    cases enabled with
    | true => exact mapAll_mirrors hunsynced (hmemory.2 rfl)
    | false => exact unmapAll_mirrors hunsynced (mt hmemory.1 Bool.false_ne_true)

/-- Synchronising a device keeps the mappings mirrored. -/
theorem syncDevice_sound (hmirrors : Mirrors F br) (bdf : PciBdf) :
    CallKeeps F br (syncDevice bdf) := .inl (syncDevice_mirrors (hmirrors.unsynced bdf))

/-- A write that fails, or leaves the mappings of its device to be put right, and the
synchronisation after it. -/
theorem synced_keeps {bdf : PciBdf} {f : EStateM Error (PciBusBridge β) Unit}
    (h : (∃ e, f.run br = .error e br) ∨ ∃ br₁, f.run br = .ok () br₁ ∧ Unsynced F bdf br₁) :
    CallKeeps F br (do f; regardless (syncDevice bdf)) := by
  obtain ⟨e, hrun⟩ | ⟨br₁, hrun, hunsynced⟩ := h
  · refine .inr ⟨e, ?_⟩
    rw [EStateM.run_bind, hrun]
  · obtain ⟨br₂, hsync, hmirrors₂⟩ := syncDevice_mirrors hunsynced
    refine .inl ⟨br₂, ?_, hmirrors₂⟩
    rw [EStateM.run_bind, hrun]
    dsimp only
    rw [run_regardless, hsync]
    rfl

/-! ## Configuration writes -/

/-- What a write to the registry does: it fails, or finds no device, or stores a header. -/
theorem registryWrite_cases (br : PciBusBridge β) (bdf : PciBdf) (offset : U8)
    (width : PciAccessWidth) (value : U32) :
    (∃ e, (registryWrite bdf offset width value).run br = .error e br) ∨
    (registryWrite bdf offset width value).run br = .ok () br ∨
    ∃ dev h, br.registry.findDevice bdf = some dev ∧
      dev.configHeader.write offset width value = .ok h ∧
      ¬ (width = .word ∧ offset.toNat % 2 ≠ 0) ∧ ¬ (width = .dword ∧ offset.toNat % 4 ≠ 0) ∧
      (registryWrite bdf offset width value).run br =
        .ok () { br with registry := br.registry.setHeader bdf h } := by
  unfold registryWrite
  simp only [EStateM.run_bind, EStateM.run_get, PciRegistry.writeConfig]
  by_cases hword : width = .word ∧ offset.toNat % 2 ≠ 0
  · rw [if_pos hword]
    exact .inl ⟨_, rfl⟩
  · by_cases hdword : width = .dword ∧ offset.toNat % 4 ≠ 0
    · rw [if_neg hword, if_pos hdword]
      exact .inl ⟨_, rfl⟩
    · rw [if_neg hword, if_neg hdword]
      cases hdev : br.registry.findDevice bdf with
      | none => exact .inr (.inl rfl)
      | some dev =>
        dsimp only
        cases hwrite : dev.configHeader.write offset width value with
        | error e => exact .inl ⟨e, rfl⟩
        | ok h => exact .inr (.inr ⟨dev, h, rfl, hwrite, hword, hdword, rfl⟩)

/-- A write outside of the base address registers keeps them. -/
theorem write_bars {h h' : PciConfigHeader β} {offset : U8} {width : PciAccessWidth} {value : U32}
    (hbar : PciConfigHeader.barOf offset = none) (hwrite : h.write offset width value = .ok h') :
    h'.bars = h.bars := by
  unfold PciConfigHeader.write at hwrite
  rw [hbar] at hwrite
  dsimp only at hwrite
  split_ifs at hwrite <;> cases hwrite <;> rfl

/-- A write to a base address register replaces it. -/
theorem write_bar {h h' : PciConfigHeader β} {offset : U8} {width : PciAccessWidth} {value : U32}
    {i : Fin 6} {byteOffset : ℕ} (hbar : PciConfigHeader.barOf offset = some (i, byteOffset))
    (hwrite : h.write offset width value = .ok h') : ∃ bar,
      (h.bars i).write (if width = .dword ∧ byteOffset = 0 then value
        else PciConfigHeader.merged (h.bars i) byteOffset width value) = .ok bar ∧
      h' = h.setBar i bar := by
  unfold PciConfigHeader.write at hwrite
  rw [hbar] at hwrite
  dsimp only at hwrite
  split_ifs at hwrite with h1 h2 h3 h4
  · rw [if_pos h4]
    cases hbarWrite : (h.bars i).write value with
    | error e =>
      rw [hbarWrite] at hwrite
      cases hwrite
    | ok bar =>
      rw [hbarWrite] at hwrite
      cases hwrite
      exact ⟨bar, rfl, rfl⟩
  · rw [if_neg h4]
    cases hbarWrite : (h.bars i).write
        (PciConfigHeader.merged (h.bars i) byteOffset width value) with
    | error e =>
      rw [hbarWrite] at hwrite
      cases hwrite
    | ok bar =>
      rw [hbarWrite] at hwrite
      cases hwrite
      exact ⟨bar, rfl, rfl⟩

/-- A register that is written to stays the register it was, where it was or in range. -/
theorem barWrite_ok {bar bar' : PciBar β} {value : U32} (h : bar.write value = .ok bar') :
    Reprogrammed bar bar' ∧ bar'.size = bar.size ∧
      ((bar'.isActive = bar.isActive ∧ bar'.baseAddress = bar.baseAddress) ∨
        (value ≠ 0xFFFFFFFF ∧ bar.programAddress (value &&& bar.addressMask) = .ok bar')) := by
  unfold PciBar.write at h
  split_ifs at h with hconfigured hones
  · cases h
    exact ⟨⟨rfl, rfl, fun hactive => hactive⟩, rfl, .inl ⟨rfl, rfl⟩⟩
  · cases h
    exact ⟨⟨rfl, rfl, fun hactive => hactive⟩, rfl, .inl ⟨rfl, rfl⟩⟩
  · obtain ⟨-, -, -, hsize, -, hre⟩ := programAddress_ok h
    exact ⟨hre, hsize, .inr ⟨hones, h⟩⟩

/-- A register that is stored without a sync keeps the invariant if it is mapped where it is. -/
theorem BarChanged.mirrors {bar' : PciBar β} (h : BarChanged br br' id bar')
    (hmirrors : Mirrors F br) (hbar : barAt br id = some bar) (hre : Reprogrammed bar bar')
    (hsize : bar'.size = bar.size) (hfree : Programmed br' id bar' → BarPlaceFree F br id bar')
    (hplace : Wanted br' id bar' → bar.isActive = true ∧ bar'.baseAddress = bar.baseAddress) :
    Mirrors F br' := by
  refine (h.loose (hmirrors.loose id) hbar hre hfree).mirrors ?_
  have hentry : Wanted br' id bar' → entryFor id bar' = entryFor id bar := by
    intro hwanted
    rw [entryFor, entryFor, (hplace hwanted).2, hsize]
  intro act hid
  subst hid
  rw [h.active, hmirrors.exact act.id act rfl]
  constructor
  · rintro ⟨b, hwanted, heq⟩
    have hb : b = bar := Option.some.inj (hwanted.programmed.1.symm.trans hbar)
    subst hb
    have hwanted' : Wanted br' act.id bar' :=
      ⟨⟨h.at_, hre.active hwanted.programmed.2.1, hre.isIo.trans hwanted.programmed.2.2⟩,
        by rw [hre.device]; exact hwanted.attached, (h.enabled _).2 hwanted.enabled⟩
    exact ⟨bar', hwanted', by rw [hentry hwanted']; exact heq⟩
  · rintro ⟨b, hwanted, heq⟩
    have hb : b = bar' := Option.some.inj (hwanted.programmed.1.symm.trans h.at_)
    subst hb
    refine ⟨bar, ⟨⟨hbar, (hplace hwanted).1, hre.isIo.symm.trans hwanted.programmed.2.2⟩,
      by rw [← hre.device]; exact hwanted.attached, (h.enabled _).1 hwanted.enabled⟩, ?_⟩
    rw [← hentry hwanted]
    exact heq

/-- A register that stays where it is stays at a free place. -/
theorem barPlaceFree_of_same {bar' : PciBar β} (hplaced : BarsPlaced F br) (hbar : barAt br id = some bar)
    (hactive : bar'.isActive = bar.isActive) (hbase : bar'.baseAddress = bar.baseAddress)
    (hsize : bar'.size = bar.size) (hio : bar'.isIo = bar.isIo) (hdevice : bar'.device = bar.device)
    (hprogrammed : Programmed br' id bar') : BarPlaceFree F br id bar' := by
  have hspan : barSpan bar' = barSpan bar := by
    rw [barSpan, barSpan, hbase, hsize]
  have hwas : Programmed br id bar :=
    ⟨hbar, hactive.symm.trans hprogrammed.2.1, hio.symm.trans hprogrammed.2.2⟩
  constructor
  · rw [hspan]
    exact hplaced.inSpace id bar hwas
  · rw [hspan]
    intro id' b hb hid
    exact hplaced.disjoint id id' bar b hwas hb hid.symm
  · rw [hspan, hdevice]
    intro hattached henabled
    exact hplaced.apart id bar ⟨hwas, hattached, henabled⟩

/-- The offset of a dword that passes the alignment check is that of a register. -/
theorem barOf_dword {offset : U8} {i : Fin 6} {byteOffset : ℕ}
    (hbar : PciConfigHeader.barOf offset = some (i, byteOffset)) (haligned : offset.toNat % 4 = 0) :
    byteOffset = 0 := by
  unfold PciConfigHeader.barOf at hbar
  split at hbar
  next hrange =>
    obtain ⟨-, rfl⟩ := Prod.mk.inj (Option.some.inj hbar)
    have hlow : 0x10 ≤ offset.toNat := hrange.1
    omega
  next => cases hbar

/-- A write that passes the alignment checks is aligned. -/
theorem aligned_of_checks {w : ConfigWrite} (hword : ¬ (w.width = .word ∧ w.offset.toNat % 2 ≠ 0))
    (hdword : ¬ (w.width = .dword ∧ w.offset.toNat % 4 ≠ 0)) : w.Aligned := by
  unfold ConfigWrite.Aligned
  cases hwidth : w.width with
  | byte => exact Nat.mod_one _
  | word => exact not_not.1 fun h => hword ⟨hwidth, h⟩
  | dword => exact not_not.1 fun h => hdword ⟨hwidth, h⟩

/-- A write that is stored in a base address register, be it a sizing probe or a part of the
register: the entry of that register may be out of place, and is not if the bridge does not sync
the device after it. -/
theorem stored_loose (hmirrors : Mirrors F br) {w : ConfigWrite} (hsafe : PartialWriteSafe br w)
    {i : Fin 6} {byteOffset : ℕ} (hbarOf : PciConfigHeader.barOf w.offset = some (i, byteOffset))
    (hprobe : w.width = .dword → w.value = 0xFFFFFFFF) {dev : PciDevice β} {h : PciConfigHeader β}
    (hdev : br.registry.findDevice w.bdf = some dev) (haligned : w.Aligned)
    (hwrite : dev.configHeader.write w.offset w.width w.value = .ok h) :
    Loose F { br with registry := br.registry.setHeader w.bdf h } ⟨w.bdf, i⟩ ∧
      (w.value = 0xFFFFFFFF →
        Mirrors F { br with registry := br.registry.setHeader w.bdf h }) := by
  obtain ⟨bar', hbarWrite, rfl⟩ := write_bar hbarOf hwrite
  obtain ⟨hre, hsize, hplace⟩ := barWrite_ok hbarWrite
  have hchanged := barChanged_setBar ⟨w.bdf, i⟩ hdev bar'
  have hbarAt : barAt br ⟨w.bdf, i⟩ = some (dev.configHeader.bars i) := by
    rw [barAt, headerOf, hdev]
    rfl
  obtain ⟨hactive, hbase⟩ | ⟨hones, hok⟩ := hplace
  · have hfree : Programmed
        { br with registry := br.registry.setHeader w.bdf (dev.configHeader.setBar i bar') }
        ⟨w.bdf, i⟩ bar' → BarPlaceFree F br ⟨w.bdf, i⟩ bar' :=
      barPlaceFree_of_same hmirrors.placed hbarAt hactive hbase hsize hre.isIo hre.device
    refine ⟨hchanged.loose (hmirrors.loose _) hbarAt hre hfree, fun _ => ?_⟩
    refine hchanged.mirrors hmirrors hbarAt hre hsize hfree ?_
    intro hwanted
    have hbar : _ = bar' := Option.some.inj (hwanted.programmed.1.symm.trans hchanged.at_)
    exact ⟨hactive.symm.trans hwanted.programmed.2.1, hbase⟩
  · have hwidth : w.width ≠ .dword := by
      intro hd
      unfold ConfigWrite.Aligned at haligned
      rw [hd] at haligned
      rw [if_pos ⟨hd, barOf_dword hbarOf haligned⟩] at hones
      exact hones (hprobe hd)
    rw [if_neg fun hd => hwidth hd.1] at hones hok
    -- a memory register has taken the address without its low bits, which it has none of
    have hsafeAt : bar'.isIo = false →
        MayCome br ⟨w.bdf, i⟩ (dev.configHeader.bars i) bar'.baseAddress ∧
        (w.value = 0xFFFFFFFF → (dev.configHeader.bars i).device.isSome → MemoryEnabled br w.bdf →
          (dev.configHeader.bars i).isActive = true ∧
            bar'.baseAddress = (dev.configHeader.bars i).baseAddress) := by
      intro hio
      obtain ⟨hmemory, hbase⟩ := memory_base hok hio
      rw [PciBar.addressMask, hmemory] at hok
      change (dev.configHeader.bars i).programAddress (_ &&& kPciBarMemoryAddressMask) = _ at hok
      rw [PciBar.addressMask, hmemory] at hbase
      change _ = (_ &&& kPciBarMemoryAddressMask) &&& _ at hbase
      rw [BitVec.and_assoc, BitVec.and_self] at hbase
      rw [hbase]
      exact hsafe hwidth i byteOffset _ _ hbarOf hbarAt hmemory hones rfl (takesAddress_of_ok hok)
    have hfree : Programmed { br with
        registry := br.registry.setHeader w.bdf (dev.configHeader.setBar i bar') } ⟨w.bdf, i⟩ bar' →
        BarPlaceFree F br ⟨w.bdf, i⟩ bar' := fun hprogrammed =>
      barPlaceFree_of_mayCome (hsafeAt hprogrammed.2.2).1 hsize hre.device hmirrors
        (programAddress_stop hok)
    refine ⟨hchanged.loose (hmirrors.loose _) hbarAt hre hfree, fun hvalue => ?_⟩
    refine hchanged.mirrors hmirrors hbarAt hre hsize hfree ?_
    intro hwanted
    refine (hsafeAt hwanted.programmed.2.2).2 hvalue ?_ ((hchanged.enabled _).1 hwanted.enabled)
    rw [← hre.device]
    exact hwanted.attached

/-- The memory space is enabled by one bit of the first command byte. -/
theorem enabled_iff_bit (h : PciConfigHeader β) :
    h.isMemorySpaceEnabled = true ↔ (h.rawBytes kPciCommandOffset).getLsbD 1 = true := by
  rw [PciConfigHeader.isMemorySpaceEnabled, decide_eq_true_iff, memorySpace_iff,
    PciConfigHeader.command, ← byteOf_word16_low (h.rawBytes kPciCommandOffset)
      (h.rawBytes (kPciCommandOffset + 1)), getLsbD_byteOf _ 0 (by decide), byteOf_word16_low]

/-- A word to the command register that enables the memory space sets its bit. -/
theorem setsMemorySpace_word {w : ConfigWrite} (hoffset : w.offset = kPciCommandOffset)
    (hwidth : w.width = .word) (hbit : w.value.setWidth 16 &&& kPciCommandMemorySpace ≠ 0) :
    w.SetsMemorySpace := by
  refine ⟨byteOf w.value 0, ?_, ?_⟩
  · rw [ConfigWrite.byteAt, hoffset, hwidth]
    exact if_pos (by decide)
  · rw [memorySpace_iff] at hbit
    rw [← byteOf_cut _ (by decide), getLsbD_byteOf _ 0 (by decide)]
    exact hbit

/-- A write that enables the memory space otherwise has set its bit too. -/
theorem setsMemorySpace_stored {w : ConfigWrite} (haligned : w.Aligned)
    (hcommand : ¬ (w.offset = kPciCommandOffset ∧ w.width = .word)) {h h' : PciConfigHeader β}
    (hwrite : h.write w.offset w.width w.value = .ok h') (hbefore : ¬ h.isMemorySpaceEnabled = true)
    (hafter : h'.isMemorySpaceEnabled = true) : w.SetsMemorySpace := by
  rw [enabled_iff_bit] at hbefore hafter
  have hbytes : w.bytesAfter h = h'.rawBytes := by
    rw [ConfigWrite.bytesAfter, if_neg hcommand, rawWritten, hwrite]
  rw [← hbytes] at hafter
  obtain ⟨-, hsame⟩ | ⟨hoffset, hwidth, -⟩ | ⟨-, -, hstatus⟩ | ⟨-, -, -, hstored⟩ :=
    bytesAfter_cases h haligned
  · rw [hsame] at hafter
    exact absurd hafter hbefore
  · exact absurd ⟨hoffset, hwidth⟩ hcommand
  · rw [hstatus, writeRaw_word_other _ _ (.inl (by decide))] at hafter
    exact absurd hafter hbefore
  · rw [hstored] at hafter
    cases hbyte : w.byteAt kPciCommandOffset with
    | none =>
      rw [hbyte] at hafter
      exact absurd hafter hbefore
    | some b =>
      rw [hbyte] at hafter
      exact ⟨b, hbyte, hafter⟩

/-- What is to be mapped after a write that is stored outside of the base address registers is
apart from the mappings of others. -/
theorem stored_free (hmirrors : Mirrors F br) {w : ConfigWrite} (haligned : w.Aligned)
    (hcommand : ¬ (w.offset = kPciCommandOffset ∧ w.width = .word))
    (hsafe : w.SetsMemorySpace → MayEnable br w.bdf) {dev : PciDevice β} {h : PciConfigHeader β}
    (hdev : br.registry.findDevice w.bdf = some dev)
    (hwrite : dev.configHeader.write w.offset w.width w.value = .ok h)
    (hchanged : CommandChanged br { br with registry := br.registry.setHeader w.bdf h } w.bdf) :
    ∀ i bar, Wanted { br with registry := br.registry.setHeader w.bdf h } ⟨w.bdf, i⟩ bar →
      ∀ m ∈ F, m.span.Apart (barSpan bar) := by
  intro i bar hwanted
  by_cases hbefore : dev.configHeader.isMemorySpaceEnabled = true
  · have hwas : Wanted br ⟨w.bdf, i⟩ bar :=
      ⟨hchanged.programmed.1 hwanted.programmed, hwanted.attached,
        (memoryEnabled_iff hdev).2 hbefore⟩
    exact hmirrors.placed.apart _ bar hwas
  · obtain ⟨h', hheader, hafter⟩ := hwanted.enabled
    rw [headerOf_setHeader, if_pos rfl, headerOf, hdev] at hheader
    cases hheader
    exact free_of_mayEnable (hsafe (setsMemorySpace_stored haligned hcommand hwrite hbefore hafter))
      hmirrors hchanged i bar hwanted

/-- A configuration write under its condition keeps the mappings mirrored. -/
theorem writeConfig_sound (hmirrors : Mirrors F br) (w : ConfigWrite)
    (hsafe : PciCall.Safe br (.writeConfig w)) :
    CallKeeps F br (writeConfig w.bdf w.offset w.width w.value) := by
  unfold writeConfig
  cases hbarOf : PciConfigHeader.barOf w.offset with
  | none =>
    dsimp only
    split
    next hcommand =>
      refine setMemorySpaceEnabled_sound hmirrors w.bdf _ fun hbit => ?_
      have haligned : w.Aligned := by
        rw [ConfigWrite.Aligned, hcommand.1, hcommand.2]
        decide
      exact (hsafe haligned).2
        (setsMemorySpace_word hcommand.1 hcommand.2 (of_decide_eq_true hbit))
    next hcommand =>
      apply synced_keeps
      obtain herror | hok | ⟨dev, h, hdev, hwrite, hword, hdword, hrun⟩ :=
        registryWrite_cases br w.bdf w.offset w.width w.value
      · exact .inl herror
      · exact .inr ⟨br, hok, hmirrors.unsynced w.bdf⟩
      · have haligned := aligned_of_checks hword hdword
        have hchanged := commandChanged_setHeader hdev (write_bars hbarOf hwrite)
        exact .inr ⟨_, hrun, hchanged.unsynced hmirrors
          (stored_free hmirrors haligned hcommand (hsafe haligned).2 hdev hwrite hchanged)⟩
  | some p =>
    obtain ⟨i, byteOffset⟩ := p
    dsimp only
    split
    next hones =>
      obtain ⟨e, hrun⟩ | hrun | ⟨dev, h, hdev, hwrite, hword, hdword, hrun⟩ :=
        registryWrite_cases br w.bdf w.offset w.width w.value
      · exact .inr ⟨e, hrun⟩
      · exact .inl ⟨br, hrun, hmirrors⟩
      · have haligned := aligned_of_checks hword hdword
        exact .inl ⟨_, hrun, (stored_loose hmirrors (hsafe haligned).1 hbarOf (fun _ => hones) hdev
          haligned hwrite).2 hones⟩
    next hones =>
      split
      · refine programBar_sound hmirrors w.bdf _ _ (programBar_safe_of_masked _ _ ?_)
        rw [BitVec.and_assoc, BitVec.and_self]
      next hpartial =>
        apply synced_keeps
        obtain herror | hok | ⟨dev, h, hdev, hwrite, hword, hdword, hrun⟩ :=
          registryWrite_cases br w.bdf w.offset w.width w.value
        · exact .inl herror
        · exact .inr ⟨br, hok, hmirrors.unsynced w.bdf⟩
        · have hprobe : w.width = .dword → w.value = 0xFFFFFFFF := by
            intro hd
            refine absurd ⟨hd, barOf_dword hbarOf ?_⟩ hpartial
            exact not_not.1 fun h => hdword ⟨hd, h⟩
          have haligned := aligned_of_checks hword hdword
          exact .inr ⟨_, hrun, (stored_loose hmirrors (hsafe haligned).1 hbarOf hprobe hdev
            haligned hwrite).1.unsynced⟩

/-! ## Runs -/

/-- Every call under its condition keeps the mappings mirrored. -/
theorem pciCall_sound (hmirrors : Mirrors F br) (call : PciCall) (hsafe : call.Safe br) :
    CallKeeps F br call.run := by
  cases call with
  | programBar bdf barIdx newAddr => exact programBar_sound hmirrors bdf barIdx newAddr hsafe
  | setMemorySpaceEnabled bdf enabled => exact setMemorySpaceEnabled_sound hmirrors bdf enabled hsafe
  | writeConfig w => exact writeConfig_sound hmirrors w hsafe
  | syncDevice bdf => exact syncDevice_sound hmirrors bdf

/-- The bridge after a call under its condition mirrors the BARs. -/
theorem next_mirrors (hmirrors : Mirrors F br) (call : PciCall) (hsafe : call.Safe br) :
    Mirrors F (call.next br) := by
  rw [PciCall.next]
  obtain ⟨br', hrun, hmirrors'⟩ | ⟨e, hrun⟩ := pciCall_sound hmirrors call hsafe
  · rw [hrun]
    exact hmirrors'
  · rw [hrun]
    exact hmirrors

/-- A constructed bridge mirrors the BARs. -/
theorem constructed_mirrors (h : Constructed br) : Mirrors br.bus.mappings br where
  layout := by
    constructor <;> simp [h.empty]
  placed := ⟨h.disjoint, h.inSpace, fun id bar hwanted => absurd hwanted (h.idle id bar)⟩
  exact := by
    intro id act _
    rw [h.empty]
    constructor
    · intro hact
      cases hact
    · rintro ⟨bar, hwanted, -⟩
      exact absurd hwanted (h.idle _ bar)

/-- **The mappings mirror the base address registers** after every run of calls that check the
range they program, and a call that returns an error has changed nothing. -/
theorem mappings_mirror_bars {br₀ : PciBusBridge β} {calls : List PciCall}
    (hconstructed : Constructed br₀) (hruns : Runs PciCall.next PciCall.Safe calls br₀ br) :
    MappingsMirrorBars br ∧ ∀ call : PciCall, call.Safe br → call.ErrorsChangeNothing br := by
  have hmirrors : Mirrors br₀.bus.mappings br :=
    hruns.invariant (fun _ call h hsafe => next_mirrors h call hsafe)
      (constructed_mirrors hconstructed)
  refine ⟨hmirrors.mappingsMirrorBars, ?_⟩
  intro call hsafe e br' herror
  obtain ⟨_, hrun, -⟩ | ⟨_, hrun⟩ := pciCall_sound hmirrors call hsafe
  · rw [hrun] at herror
    cases herror
  · rw [hrun] at herror
    cases herror
    exact ⟨fun _ => rfl, rfl, rfl⟩

/-! ## Two devices -/

/-- The header of a device with two ranges, as `ConfigureBar` leaves it. -/
def twoRanges : PciConfigHeader Unit :=
  (PciConfigHeader.initial.configureBar 0 0x1000 false false (some ())).configureBar 1 8 false false
    (some ())

/-- The two bus addresses are distinct. -/
theorem twoAddresses_nodup : ([⟨0, 0, 0⟩, ⟨0, 1, 0⟩] : List PciBdf).Nodup := by
  decide

/-- No mapping is without a size. -/
theorem noMappings_sized : ∀ m ∈ ([] : List (BusMapping Unit)), 0 < m.size.toNat := by simp

/-- No two mappings meet. -/
theorem noMappings_apart :
    ([] : List (BusMapping Unit)).Pairwise fun m n => m.span.Apart n.span := by simp

/-- A bridge with two devices, before its first call. -/
def twoDevices : PciBusBridge Unit where
  bus := { mappings := [], sized := noMappings_sized, apart := noMappings_apart }
  registry :=
    { devices := [⟨⟨0, 0, 0⟩, twoRanges⟩, ⟨⟨0, 1, 0⟩, twoRanges⟩], distinct := twoAddresses_nodup }

/-- No BAR of the example device is active. -/
theorem twoRanges_inactive (i : Fin 6) : (twoRanges.bars i).isActive = false := by
  revert i
  decide

/-- The example bridge is constructed. -/
theorem twoDevices_constructed : Constructed twoDevices := by
  have hnone : ∀ id bar, ¬ Programmed twoDevices id bar := by
    rintro id bar ⟨hbar, hactive, -⟩
    obtain ⟨header, hheader, rfl⟩ := Option.map_eq_some_iff.1 hbar
    obtain ⟨dev, hdev, rfl⟩ := Option.map_eq_some_iff.1 hheader
    have hmem : dev ∈ twoDevices.registry.devices := List.mem_of_find?_eq_some hdev
    have hsame : dev.configHeader = twoRanges := by
      simp only [twoDevices, List.mem_cons, List.not_mem_nil, or_false] at hmem
      obtain rfl | rfl := hmem <;> rfl
    rw [hsame, twoRanges_inactive] at hactive
    cases hactive
  constructor
  · rfl
  · intro id _ bar _ hbar
    exact absurd hbar (hnone id bar)
  · intro id bar hbar
    exact absurd hbar (hnone id bar)
  · intro id bar hwanted
    exact hnone id bar hwanted.programmed

/-- A range is programmed, enabled, moved by a configuration write and synced. -/
def movingCalls : List PciCall :=
  [.programBar ⟨0, 0, 0⟩ 0 0x10000000, .setMemorySpaceEnabled ⟨0, 0, 0⟩ true,
    .writeConfig ⟨⟨0, 0, 0⟩, 0x10, .dword, 0x20000000⟩, .syncDevice ⟨0, 0, 0⟩]

/-- The moves of the example keep the mappings mirrored. -/
theorem movingCalls_mirrored :
    MappingsMirrorBars (movingCalls.foldl PciCall.next twoDevices) := by
  have hruns : Runs PciCall.next PciCall.Safe movingCalls twoDevices
      (movingCalls.foldl PciCall.next twoDevices) := by
    unfold movingCalls
    refine .cons ?_ (.cons ?_ (.cons ?_ (.cons ?_ (.nil _))))
    · exact programBar_safe_of_masked _ _ rfl
    · -- nothing is mapped yet
      intro _ i bar _ _ m hm
      have hnone : (PciCall.next twoDevices (.programBar ⟨0, 0, 0⟩ 0 0x10000000)).bus.mappings =
          [] := rfl
      rw [hnone] at hm
      cases hm
    · intro _
      refine ⟨fun hwidth => absurd rfl hwidth, ?_⟩
      rintro ⟨b, hbyte, -⟩
      cases hbyte
    · trivial
  exact (mappings_mirror_bars twoDevices_constructed hruns).1

/-- The second device gets the range of the first by a word to the upper half of its register. -/
def partialCalls : List PciCall :=
  [.programBar ⟨0, 0, 0⟩ 0 0x10000000, .writeConfig ⟨⟨0, 1, 0⟩, 0x12, .word, 0x1000⟩]

/-- The second device gets the range of the first by an address whose low bits are dropped. -/
def maskedCalls : List PciCall :=
  [.programBar ⟨0, 0, 0⟩ 1 0x1000, .programBar ⟨0, 1, 0⟩ 1 0x1008]

/-- A mapped range is moved by a word of ones, which is taken for a sizing probe. -/
def unsyncedCalls : List PciCall :=
  [.programBar ⟨0, 0, 0⟩ 0 0x10000000, .setMemorySpaceEnabled ⟨0, 0, 0⟩ true,
    .writeConfig ⟨⟨0, 0, 0⟩, 0x12, .word, 0xFFFFFFFF⟩]

/-- Each of the three failing runs leaves the mappings unlike the BARs. -/
theorem mappings_not_mirrored :
    ¬ MappingsMirrorBars (partialCalls.foldl PciCall.next twoDevices) ∧
      ¬ MappingsMirrorBars (maskedCalls.foldl PciCall.next twoDevices) ∧
      ¬ MappingsMirrorBars (unsyncedCalls.foldl PciCall.next twoDevices) := by
  refine ⟨?_, ?_, ?_⟩
  · intro h
    have hapart := h.disjoint ⟨⟨0, 0, 0⟩, 0⟩ ⟨⟨0, 1, 0⟩, 0⟩ _ _ ⟨rfl, by decide +kernel, by decide +kernel⟩
      ⟨rfl, by decide +kernel, by decide +kernel⟩ (by decide)
    exact absurd hapart (by decide +kernel)
  · intro h
    have hapart := h.disjoint ⟨⟨0, 0, 0⟩, 1⟩ ⟨⟨0, 1, 0⟩, 1⟩ _ _ ⟨rfl, by decide +kernel, by decide +kernel⟩
      ⟨rfl, by decide +kernel, by decide +kernel⟩ (by decide)
    exact absurd hapart (by decide +kernel)
  · intro h
    have hentry : (⟨⟨⟨0, 0, 0⟩, 0⟩, 0x10000000, 0x1000⟩ : ActiveMapping) ∈
        (unsyncedCalls.foldl PciCall.next twoDevices).activeMappings := by
      decide +kernel
    obtain ⟨bar, hwanted, heq⟩ := (h.exact _).1 hentry
    have hbar : (barAt (unsyncedCalls.foldl PciCall.next twoDevices) ⟨⟨0, 0, 0⟩, 0⟩).map
        PciBar.baseAddress = some 0xFFFF0000 := by
      decide +kernel
    rw [hwanted.programmed.1] at hbar
    have hbase := (congrArg ActiveMapping.base heq).symm.trans rfl
    rw [Option.map_some, Option.some.injEq] at hbar
    exact absurd (hbar.symm.trans hbase) (by decide)

end Xblob.Analysis
