import Xblob.Analysis.PciBridge
import Xblob.Interface.PciRules

/-!
# Mappings that mirror base address registers

The invariant has three parts: what the list of the bridge and the bus have to do with each other,
what the programmed registers have to do with the rest of the bus, and which registers the list
has entries for.  Mapping and unmapping keep the first two whatever the third; a call breaks the
third between its change of a register and the mapping that follows, for that register alone.
-/

set_option autoImplicit false

namespace Xblob.Analysis

open Xblob.Computation Xblob.Interface Xblob.Pci Xblob.Pci.PciBusBridge

variable {β : Type} {F : List (BusMapping β)} {br br' : PciBusBridge β} {id : BarId}

/-! ## The parts of the invariant -/

/-- The device behind a base address register. -/
def deviceAt (br : PciBusBridge β) (id : BarId) : Option β :=
  (barAt br id).bind PciBar.device

/-- The bus has the mappings `F` of others, and one for each entry of the list. -/
structure Layout (F : List (BusMapping β)) (br : PciBusBridge β) : Prop where
  once : (br.activeMappings.map ActiveMapping.id).Nodup
  bases : ∀ act ∈ br.activeMappings, ∀ act' ∈ br.activeMappings, act.base = act'.base → act = act'
  mapped : ∀ act ∈ br.activeMappings, ∃ device, deviceAt br act.id = some device ∧
    ⟨act.base, act.size, device⟩ ∈ br.bus.mappings ∧ ⟨act.base, act.size, device⟩ ∉ F
  kept : ∀ m ∈ F, m ∈ br.bus.mappings
  only : ∀ m ∈ br.bus.mappings, m ∈ F ∨ ∃ act ∈ br.activeMappings, act.base = m.base

/-- The programmed registers are apart from each other, and those to be mapped from the mappings
of others. -/
structure BarsPlaced (F : List (BusMapping β)) (br : PciBusBridge β) : Prop where
  disjoint : ∀ id id' bar bar', Programmed br id bar → Programmed br id' bar' → id ≠ id' →
    (barSpan bar).Apart (barSpan bar')
  inSpace : ∀ id bar, Programmed br id bar → (barSpan bar).stop ≤ 0x100000000
  apart : ∀ id bar, Wanted br id bar → ∀ m ∈ F, m.span.Apart (barSpan bar)

/-- The list has the entry of a register at its current place. -/
def Current (br : PciBusBridge β) (act : ActiveMapping) : Prop :=
  ∃ bar, Programmed br act.id bar ∧ act = entryFor act.id bar

/-- The list has the right entries for a register. -/
def Exact (br : PciBusBridge β) (id : BarId) : Prop :=
  ∀ act, act.id = id →
    (act ∈ br.activeMappings ↔ ∃ bar, Wanted br act.id bar ∧ act = entryFor act.id bar)

/-- **The invariant of the bridge.** -/
structure Mirrors (F : List (BusMapping β)) (br : PciBusBridge β) : Prop where
  layout : Layout F br
  placed : BarsPlaced F br
  exact : ∀ id, Exact br id

/-- An active BAR has a size. -/
theorem barSpan_pos {bar : PciBar β} (h : bar.isActive = true) : 0 < (barSpan bar).size := by
  simp only [PciBar.isActive, PciBar.isConfigured, Bool.and_eq_true, decide_eq_true_eq] at h
  exact h.1

/-- A BAR is programmed as one thing. -/
theorem programmed_unique {bar bar' : PciBar β} (h : Programmed br id bar)
    (h' : Programmed br id bar') : bar = bar' :=
  Option.some.inj (h.1.symm.trans h'.1)

/-- An entry of the right kind is at its current place. -/
theorem Exact.current (h : Exact br id) {act : ActiveMapping} (hid : act.id = id)
    (hact : act ∈ br.activeMappings) : Current br act := by
  obtain ⟨bar, hwanted, heq⟩ := (h act hid).1 hact
  exact ⟨bar, hwanted.programmed, heq⟩

/-- The BARs are the same where the registry is. -/
theorem barAt_congr (h : br'.registry = br.registry) (id : BarId) : barAt br' id = barAt br id := by
  rw [barAt, barAt, headerOf, headerOf, h]

/-- The programmed BARs are the same where the registry is. -/
theorem programmed_congr (h : br'.registry = br.registry) {bar : PciBar β} :
    Programmed br' id bar ↔ Programmed br id bar := by
  rw [Programmed, Programmed, barAt_congr h]

/-- Memory space is enabled alike where the registry is the same. -/
theorem memoryEnabled_congr (h : br'.registry = br.registry) {bdf : PciBdf} :
    MemoryEnabled br' bdf ↔ MemoryEnabled br bdf := by
  rw [MemoryEnabled, MemoryEnabled, headerOf, headerOf, h]

/-- The wanted BARs are the same where the registry is. -/
theorem wanted_congr (h : br'.registry = br.registry) {bar : PciBar β} :
    Wanted br' id bar ↔ Wanted br id bar := by
  constructor
  · intro hw
    exact ⟨(programmed_congr h).1 hw.programmed, hw.attached, (memoryEnabled_congr h).1 hw.enabled⟩
  · intro hw
    exact ⟨(programmed_congr h).2 hw.programmed, hw.attached, (memoryEnabled_congr h).2 hw.enabled⟩

/-- The BARs are placed where the registry is the same. -/
theorem BarsPlaced.congr (hplaced : BarsPlaced F br) (h : br'.registry = br.registry) : BarsPlaced F br' := by
  constructor
  · intro i i' bar bar' hbar hbar'
    exact hplaced.disjoint i i' bar bar' ((programmed_congr h).1 hbar) ((programmed_congr h).1 hbar')
  · intro i bar hbar
    exact hplaced.inSpace i bar ((programmed_congr h).1 hbar)
  · intro i bar hbar
    exact hplaced.apart i bar ((wanted_congr h).1 hbar)

/-- An active mapping is current where the registry is the same. -/
theorem Current.congr {act : ActiveMapping} (hcurrent : Current br act)
    (h : br'.registry = br.registry) : Current br' act := by
  obtain ⟨bar, hbar, heq⟩ := hcurrent
  exact ⟨bar, (programmed_congr h).2 hbar, heq⟩

/-- What the invariant says of a bridge. -/
theorem Mirrors.mappingsMirrorBars (h : Mirrors F br) : MappingsMirrorBars br where
  disjoint := h.placed.disjoint
  once := h.layout.once
  exact act := h.exact act.id act rfl
  onBus := by
    intro act hact
    obtain ⟨device, hdevice, hmapped, -⟩ := h.layout.mapped act hact
    obtain ⟨bar, hbar, hattached⟩ := Option.bind_eq_some_iff.1 hdevice
    exact ⟨bar, device, hbar, hattached, hmapped⟩

/-! ## Unmapping -/

/-- What is left when the entry of a register is unmapped. -/
structure Unmapped (br br' : PciBusBridge β) (id : BarId) : Prop where
  registry : br'.registry = br.registry
  entries : ∀ act, act ∈ br'.activeMappings ↔ act ∈ br.activeMappings ∧ act.id ≠ id
  mappings : ∀ m, m ∈ br'.bus.mappings ↔
    m ∈ br.bus.mappings ∧ ∀ act ∈ br.activeMappings, act.id = id → act.base ≠ m.base

/-- Unmapping a register never fails. -/
theorem unmapBar_run (hlayout : Layout F br) (id : BarId) :
    ∃ br', (unmapBar id).run br = .ok () br' ∧ Layout F br' ∧ Unmapped br br' id := by
  unfold unmapBar
  simp only [EStateM.run_bind, EStateM.run_get]
  cases hfind : br.activeMappings.find? fun act => act.id = id with
  | none =>
    have hnone : ∀ act ∈ br.activeMappings, act.id ≠ id := find?_key_none.1 hfind
    refine ⟨br, rfl, hlayout, rfl, ?_, ?_⟩
    · intro act
      exact ⟨fun hact => ⟨hact, hnone act hact⟩, fun hact => hact.1⟩
    · intro m
      exact ⟨fun hm => ⟨hm, fun act hact hid => absurd hid (hnone act hact)⟩, fun hm => hm.1⟩
  | some act =>
    obtain ⟨hact, hid⟩ := (find?_key_iff hlayout.once).1 hfind
    obtain ⟨device, -, hmapped, hother⟩ := hlayout.mapped act hact
    obtain ⟨bus, hunmap, hmappings⟩ := Bus.unmapDevice_ok hmapped
    have hunmap' : br.bus.unmapDevice act.base = .ok bus := hunmap
    have hentries : ∀ a, a ∈ br.activeMappings.eraseP (fun act => act.id = id) ↔
        a ∈ br.activeMappings ∧ a.id ≠ id := fun a => mem_eraseP_key hlayout.once
    have hsame : ∀ a ∈ br.activeMappings, a.id = id → a = act := by
      intro a ha haid
      exact eq_of_key hlayout.once ha hact (haid.trans hid.symm)
    simp only [hunmap', EStateM.run_set]
    refine ⟨_, rfl, ?_, rfl, hentries, ?_⟩
    · constructor
      · exact nodup_eraseP hlayout.once _
      · intro a ha a' ha' hbase
        exact hlayout.bases a ((hentries a).1 ha).1 a' ((hentries a').1 ha').1 hbase
      · intro a ha
        obtain ⟨ha, hne⟩ := (hentries a).1 ha
        obtain ⟨d, hd, hm, hF⟩ := hlayout.mapped a ha
        refine ⟨d, hd, (hmappings _).2 ⟨hm, ?_⟩, hF⟩
        intro hbase
        rw [hlayout.bases a ha act hact hbase] at hne
        exact hne hid
      · intro m hm
        refine (hmappings m).2 ⟨hlayout.kept m hm, ?_⟩
        intro hbase
        rw [Bus.eq_of_base (hlayout.kept m hm) hmapped hbase] at hm
        exact hother hm
      · intro m hm
        obtain ⟨hm, hne⟩ := (hmappings m).1 hm
        obtain hF | ⟨a, ha, hbase⟩ := hlayout.only m hm
        · exact .inl hF
        · refine .inr ⟨a, (hentries a).2 ⟨ha, ?_⟩, hbase⟩
          intro haid
          rw [hsame a ha haid] at hbase
          exact hne hbase.symm
    · intro m
      rw [hmappings]
      constructor
      · rintro ⟨hm, hne⟩
        refine ⟨hm, ?_⟩
        intro a ha haid hbase
        rw [hsame a ha haid] at hbase
        exact hne hbase.symm
      · rintro ⟨hm, hne⟩
        exact ⟨hm, fun hbase => hne act hact hid hbase.symm⟩

/-! ## Mapping -/

/-- What the list has after the entry of a register is mapped. -/
structure MappedAt (br br' : PciBusBridge β) (id : BarId) (bar : PciBar β) : Prop where
  registry : br'.registry = br.registry
  entries : ∀ act, act ∈ br'.activeMappings ↔
    (act ∈ br.activeMappings ∧ act.id ≠ id) ∨ act = entryFor id bar

/-- A register without an entry is mapped where there is room. -/
theorem mapDevice_run (hlayout : Layout F br) {bar : PciBar β} {device : β}
    (hbar : barAt br id = some bar) (hdevice : bar.device = some device)
    (hactive : bar.isActive = true) (hspace : (barSpan bar).stop ≤ 0x100000000)
    (hfree : ∀ m ∈ br.bus.mappings, m.span.Apart (barSpan bar))
    (hnew : ∀ act ∈ br.activeMappings, act.id ≠ id) :
    ∃ br', (mapDevice id bar).run br = .ok () br' ∧ Layout F br' ∧ MappedAt br br' id bar := by
  have hpos : 0 < bar.size.toNat := barSpan_pos hactive
  obtain ⟨bus, hmap, hmappings⟩ := Bus.mapDevice_ok device hpos hspace hfree
  have hmem : ∀ m, m ∈ bus.mappings ↔ m ∈ br.bus.mappings ∨ m = ⟨bar.baseAddress, bar.size, device⟩ := by
    intro m
    rw [hmappings, List.mem_append, List.mem_singleton]
  have hself : ∀ m ∈ br.bus.mappings, m.base ≠ bar.baseAddress := by
    intro m hm hbase
    have hsized := br.bus.sized m hm
    have hapart := hfree m hm
    simp only [BusMapping.span, barSpan, Span.Apart, Span.Before, Span.stop, hbase] at hapart
    omega
  have hbases : ∀ act ∈ br.activeMappings, act.base ≠ bar.baseAddress := by
    intro act hact
    obtain ⟨d, -, hm, -⟩ := hlayout.mapped act hact
    exact hself _ hm
  unfold mapDevice
  simp only [EStateM.run_bind, EStateM.run_get, hdevice, hmap, EStateM.run_set]
  refine ⟨_, rfl, ?_, rfl, ?_⟩
  · constructor
    · rw [List.map_append, List.nodup_append]
      refine ⟨hlayout.once, by simp, ?_⟩
      intro a ha b hb
      obtain ⟨act, hact, rfl⟩ := List.mem_map.1 ha
      simp only [List.map_cons, List.map_nil, List.mem_singleton] at hb
      rw [hb]
      exact hnew act hact
    · intro a ha a' ha' hbase
      simp only [List.mem_append, List.mem_singleton] at ha ha'
      obtain ha | rfl := ha <;> obtain ha' | rfl := ha'
      · exact hlayout.bases a ha a' ha' hbase
      · exact absurd hbase (hbases a ha)
      · exact absurd hbase.symm (hbases a' ha')
      · rfl
    · intro a ha
      simp only [List.mem_append, List.mem_singleton] at ha
      obtain ha | rfl := ha
      · obtain ⟨d, hd, hm, hF⟩ := hlayout.mapped a ha
        exact ⟨d, hd, (hmem _).2 (.inl hm), hF⟩
      · refine ⟨device, ?_, (hmem _).2 (.inr rfl), fun hF => hself _ (hlayout.kept _ hF) rfl⟩
        change (barAt br id).bind PciBar.device = some device
        rw [hbar]
        exact hdevice
    · intro m hm
      exact (hmem m).2 (.inl (hlayout.kept m hm))
    · intro m hm
      obtain hm | rfl := (hmem m).1 hm
      · obtain hF | ⟨a, ha, hbase⟩ := hlayout.only m hm
        · exact .inl hF
        · exact .inr ⟨a, List.mem_append_left _ ha, hbase⟩
      · exact .inr ⟨_, List.mem_append_right _ (List.mem_singleton.2 rfl), rfl⟩
  · intro act
    simp only [List.mem_append, List.mem_singleton, entryFor]
    constructor
    · rintro (hact | rfl)
      · exact .inl ⟨hact, hnew act hact⟩
      · exact .inr rfl
    · rintro (⟨hact, -⟩ | rfl)
      · exact .inl hact
      · exact .inr rfl

/-- The place of a register to be mapped is free on the bus, but for an entry of its own. -/
theorem free_of_current (hlayout : Layout F br) (hplaced : BarsPlaced F br) {bar : PciBar β}
    (hwanted : Wanted br id bar) (hnew : ∀ act ∈ br.activeMappings, act.id ≠ id)
    (hcurrent : ∀ act ∈ br.activeMappings, act.id ≠ id → Current br act) :
    ∀ m ∈ br.bus.mappings, m.span.Apart (barSpan bar) := by
  intro m hm
  obtain hF | ⟨act, hact, hbase⟩ := hlayout.only m hm
  · exact hplaced.apart id bar hwanted m hF
  · obtain ⟨bar', hprogrammed', heq⟩ := hcurrent act hact (hnew act hact)
    obtain ⟨device, -, hmapped, -⟩ := hlayout.mapped act hact
    have hspan : m.span = barSpan bar' := by
      rw [Bus.eq_of_base hm hmapped hbase.symm, heq]
      rfl
    rw [hspan]
    exact hplaced.disjoint _ _ _ _ hprogrammed' hwanted.programmed (hnew act hact)

/-- The device of a wanted register. -/
theorem wanted_device {bar : PciBar β} (h : Wanted br id bar) :
    ∃ dev, br.registry.findDevice id.bdf = some dev ∧
      dev.configHeader.isMemorySpaceEnabled = true ∧ dev.configHeader.bars id.barIdx = bar := by
  obtain ⟨header, hheader, henabled⟩ := h.enabled
  have hbar := h.programmed.1
  rw [barAt, hheader] at hbar
  obtain ⟨dev, hdev, rfl⟩ := Option.map_eq_some_iff.1 hheader
  exact ⟨dev, hdev, henabled, Option.some.inj hbar⟩

/-- A wanted register is mapped at its place, if all other entries are at theirs. -/
theorem mapBar_wanted (hlayout : Layout F br) (hplaced : BarsPlaced F br) {bar : PciBar β}
    (hwanted : Wanted br id bar)
    (hcurrent : ∀ act ∈ br.activeMappings, act.id ≠ id → Current br act) :
    ∃ br', (mapBar id).run br = .ok () br' ∧ Layout F br' ∧ MappedAt br br' id bar := by
  obtain ⟨dev, hdev, henabled, hbar⟩ := wanted_device hwanted
  have hprogrammed := hwanted.programmed
  obtain ⟨device, hdevice⟩ := Option.isSome_iff_exists.1 hwanted.attached
  have hskip : ¬ (!bar.isActive || bar.device.isNone || bar.isIo) = true := by
    simp [hprogrammed.2.1, hprogrammed.2.2, hdevice]
  unfold mapBar
  simp only [EStateM.run_bind, EStateM.run_get, hdev, hbar, if_neg hskip, henabled, Bool.not_true,
    Bool.false_eq_true, if_false]
  cases hfind : br.activeMappings.find? fun act => act.id = id with
  | none =>
    have hnew : ∀ act ∈ br.activeMappings, act.id ≠ id := find?_key_none.1 hfind
    exact mapDevice_run hlayout hprogrammed.1 hdevice hprogrammed.2.1
      (hplaced.inSpace id bar hprogrammed)
      (free_of_current hlayout hplaced hwanted hnew hcurrent) hnew
  | some act =>
    obtain ⟨hact, hid⟩ := (find?_key_iff hlayout.once).1 hfind
    dsimp only
    rw [run_ite]
    split
    next hplace =>
      have hentry : act = entryFor id bar := by
        obtain ⟨i, base, size⟩ := act
        simp only at hid hplace
        rw [hid, hplace.1, hplace.2]
        rfl
      refine ⟨br, rfl, hlayout, rfl, ?_⟩
      intro a
      constructor
      · intro ha
        by_cases haid : a.id = id
        · rw [← hentry]
          exact .inr (eq_of_key hlayout.once ha hact (haid.trans hid.symm))
        · exact .inl ⟨ha, haid⟩
      · rintro (⟨ha, -⟩ | rfl)
        · exact ha
        · rw [← hentry]
          exact hact
    next =>
      obtain ⟨br₁, hunmap, hlayout₁, hunmapped⟩ := unmapBar_run hlayout id
      have hnew : ∀ a ∈ br₁.activeMappings, a.id ≠ id := fun a ha => ((hunmapped.entries a).1 ha).2
      have hfree : ∀ m ∈ br₁.bus.mappings, m.span.Apart (barSpan bar) := by
        refine free_of_current hlayout₁ (hplaced.congr hunmapped.registry)
          ((wanted_congr hunmapped.registry).2 hwanted) hnew ?_
        intro a ha hne
        exact (hcurrent a ((hunmapped.entries a).1 ha).1 hne).congr hunmapped.registry
      have hbar₁ : barAt br₁ id = some bar := by
        rw [barAt_congr hunmapped.registry]
        exact hprogrammed.1
      obtain ⟨br₂, hmap, hlayout₂, hmapped⟩ := mapDevice_run hlayout₁ hbar₁ hdevice
        hprogrammed.2.1 (hplaced.inSpace id bar hprogrammed) hfree hnew
      refine ⟨br₂, ?_, hlayout₂, hmapped.registry.trans hunmapped.registry, ?_⟩
      · rw [EStateM.run_bind, run_regardless, hunmap]
        exact hmap
      · intro a
        rw [hmapped.entries, hunmapped.entries]
        tauto

/-- A register that is not wanted is left alone. -/
theorem mapBar_unwanted (h : ∀ bar, ¬ Wanted br id bar) :
    stateAfter ((mapBar id).run br) = br := by
  unfold mapBar
  simp only [EStateM.run_bind, EStateM.run_get]
  cases hdev : br.registry.findDevice id.bdf with
  | none => rfl
  | some dev =>
    have hheader : headerOf br id.bdf = some dev.configHeader := by
      rw [headerOf, hdev]
      rfl
    have hbar : barAt br id = some (dev.configHeader.bars id.barIdx) := by
      rw [barAt, hheader]
      rfl
    dsimp only
    rw [run_ite, run_ite]
    split
    · rfl
    next hskip =>
      split
      · rfl
      next henabled =>
        simp only [Bool.or_eq_true, Bool.not_eq_true', Option.isNone_iff_eq_none, not_or,
          Bool.not_eq_false, Bool.not_eq_true] at hskip henabled
        exact absurd ⟨⟨hbar, hskip.1.1, hskip.2⟩, Option.isSome_iff_ne_none.2 hskip.1.2,
          ⟨_, hheader, henabled⟩⟩ (h _)

/-- A wanted register that has its entry is left alone. -/
theorem mapBar_inPlace (hlayout : Layout F br) {bar : PciBar β} (hwanted : Wanted br id bar)
    (hentry : entryFor id bar ∈ br.activeMappings) : stateAfter ((mapBar id).run br) = br := by
  obtain ⟨dev, hdev, henabled, hbar⟩ := wanted_device hwanted
  obtain ⟨device, hdevice⟩ := Option.isSome_iff_exists.1 hwanted.attached
  have hskip : ¬ (!bar.isActive || bar.device.isNone || bar.isIo) = true := by
    simp [hwanted.programmed.2.1, hwanted.programmed.2.2, hdevice]
  have hfind : br.activeMappings.find? (fun act => act.id = id) = some (entryFor id bar) :=
    (find?_key_iff hlayout.once).2 ⟨hentry, rfl⟩
  unfold mapBar
  simp only [EStateM.run_bind, EStateM.run_get, hdev, hbar, if_neg hskip, henabled, Bool.not_true,
    Bool.false_eq_true, if_false, hfind]
  rw [run_ite, if_pos ⟨rfl, rfl⟩]
  rfl

/-- A register that has its right entries is left alone. -/
theorem mapBar_exact (hlayout : Layout F br) (hexact : Exact br id) :
    stateAfter ((mapBar id).run br) = br := by
  by_cases hwanted : ∃ bar, Wanted br id bar
  · obtain ⟨bar, hwanted⟩ := hwanted
    exact mapBar_inPlace hlayout hwanted ((hexact (entryFor id bar) rfl).2 ⟨bar, hwanted, rfl⟩)
  · exact mapBar_unwanted (not_exists.1 hwanted)

/-! ## Mapping and unmapping all registers of a device -/

/-- Mapping the register puts its entries right: they are, or all other entries are at their
places and an entry of its own is still wanted. -/
def Fixable (br : PciBusBridge β) (id : BarId) : Prop :=
  Exact br id ∨ ((∀ act ∈ br.activeMappings, act.id ≠ id → Current br act) ∧
    ∀ act ∈ br.activeMappings, act.id = id → ∃ bar, Wanted br id bar)

/-- Two bridges with the same entries for a register, and the same registers. -/
theorem exact_of_same (hregistry : br'.registry = br.registry)
    (hsame : ∀ act, act.id = id → (act ∈ br'.activeMappings ↔ act ∈ br.activeMappings))
    (hexact : Exact br id) : Exact br' id := by
  intro act hid
  rw [hsame act hid, hexact act hid]
  constructor
  · rintro ⟨bar, hwanted, heq⟩
    exact ⟨bar, (wanted_congr hregistry).2 hwanted, heq⟩
  · rintro ⟨bar, hwanted, heq⟩
    exact ⟨bar, (wanted_congr hregistry).1 hwanted, heq⟩

/-- Mapping a register puts its entries right and leaves the others alone. -/
theorem mapBar_fixes (hlayout : Layout F br) (hplaced : BarsPlaced F br) (hfixable : Fixable br id) :
    Layout F (stateAfter ((mapBar id).run br)) ∧
      (stateAfter ((mapBar id).run br)).registry = br.registry ∧
      Exact (stateAfter ((mapBar id).run br)) id ∧
      ∀ act, act.id ≠ id →
        (act ∈ (stateAfter ((mapBar id).run br)).activeMappings ↔ act ∈ br.activeMappings) := by
  obtain hexact | ⟨hcurrent, hown⟩ := hfixable
  · rw [mapBar_exact hlayout hexact]
    exact ⟨hlayout, rfl, hexact, fun _ _ => Iff.rfl⟩
  · by_cases hwanted : ∃ bar, Wanted br id bar
    · obtain ⟨bar, hwanted⟩ := hwanted
      obtain ⟨br₁, hrun, hlayout₁, hmapped⟩ := mapBar_wanted hlayout hplaced hwanted hcurrent
      rw [hrun, stateAfter_ok]
      refine ⟨hlayout₁, hmapped.registry, ?_, ?_⟩
      · intro act hid
        subst hid
        rw [hmapped.entries]
        constructor
        · rintro (⟨-, hne⟩ | heq)
          · exact absurd rfl hne
          · exact ⟨bar, (wanted_congr hmapped.registry).2 hwanted, heq⟩
        · rintro ⟨bar', hwanted', heq⟩
          rw [wanted_congr hmapped.registry] at hwanted'
          rw [programmed_unique hwanted'.programmed hwanted.programmed] at heq
          exact .inr heq
      · intro act hid
        rw [hmapped.entries]
        constructor
        · rintro (⟨hact, -⟩ | rfl)
          · exact hact
          · exact absurd rfl hid
        · intro hact
          exact .inl ⟨hact, hid⟩
    · rw [not_exists] at hwanted
      rw [mapBar_unwanted hwanted]
      refine ⟨hlayout, rfl, ?_, fun _ _ => Iff.rfl⟩
      intro act hid
      constructor
      · intro hact
        obtain ⟨bar, hbar⟩ := hown act hact hid
        exact absurd hbar (hwanted bar)
      · rintro ⟨bar, hbar, -⟩
        rw [hid] at hbar
        exact absurd hbar (hwanted bar)

/-- A walk over the BARs, one by one. -/
theorem forBars_cons (f : BarId → EStateM Error (PciBusBridge β) Unit) (bdf : PciBdf) (i : Fin 6)
    (is : List (Fin 6)) (br : PciBusBridge β) :
    (forBars f bdf (i :: is)).run br =
      (forBars f bdf is).run (stateAfter ((f ⟨bdf, i⟩).run br)) := rfl

/-- Mapping one register leaves the next ones fixable. -/
theorem Fixable.next {id' : BarId} (h : Fixable br id') (hregistry : br'.registry = br.registry)
    (hexact : Exact br' id)
    (hsame : ∀ act, act.id ≠ id → (act ∈ br'.activeMappings ↔ act ∈ br.activeMappings)) :
    Fixable br' id' := by
  by_cases hid : id' = id
  · subst hid
    exact .inl hexact
  · obtain hexact' | ⟨hcurrent, hown⟩ := h
    · refine .inl (exact_of_same hregistry ?_ hexact')
      intro act hact
      exact hsame act (by rw [hact]; exact hid)
    · refine .inr ⟨?_, ?_⟩
      · intro act hact hne
        by_cases haid : act.id = id
        · exact hexact.current haid hact
        · exact (hcurrent act ((hsame act haid).1 hact) hne).congr hregistry
      · intro act hact haid
        have hne : act.id ≠ id := by
          rw [haid]
          exact hid
        obtain ⟨bar, hwanted⟩ := hown act ((hsame act hne).1 hact) haid
        exact ⟨bar, (wanted_congr hregistry).2 hwanted⟩

/-- Mapping all registers of a device puts the entries of all of them right. -/
theorem forBars_mapBar (bdf : PciBdf) (is : List (Fin 6)) (hlayout : Layout F br)
    (hplaced : BarsPlaced F br) (hfixable : ∀ i ∈ is, Fixable br ⟨bdf, i⟩) :
    ∃ br', (forBars mapBar bdf is).run br = .ok () br' ∧ Layout F br' ∧
      br'.registry = br.registry ∧ (∀ i ∈ is, Exact br' ⟨bdf, i⟩) ∧
      ∀ act, ¬ (act.id.bdf = bdf ∧ act.id.barIdx ∈ is) →
        (act ∈ br'.activeMappings ↔ act ∈ br.activeMappings) := by
  induction is generalizing br with
  | nil => exact ⟨br, rfl, hlayout, rfl, by simp, fun _ _ => Iff.rfl⟩
  | cons i is ih =>
    rw [List.forall_mem_cons] at hfixable
    obtain ⟨hlayout₁, hregistry₁, hexact₁, hsame₁⟩ := mapBar_fixes hlayout hplaced hfixable.1
    have hrest : ∀ j ∈ is, Fixable (stateAfter ((mapBar ⟨bdf, i⟩).run br)) ⟨bdf, j⟩ :=
      fun j hj => (hfixable.2 j hj).next hregistry₁ hexact₁ hsame₁
    obtain ⟨br₂, hrun, hlayout₂, hregistry₂, hexact₂, hsame₂⟩ :=
      ih hlayout₁ (hplaced.congr hregistry₁) hrest
    refine ⟨br₂, ?_, hlayout₂, hregistry₂.trans hregistry₁, ?_, ?_⟩
    · rw [forBars_cons]
      exact hrun
    · refine List.forall_mem_cons.2 ⟨?_, hexact₂⟩
      by_cases hi : i ∈ is
      · exact hexact₂ i hi
      · refine exact_of_same hregistry₂ ?_ hexact₁
        intro act hid
        apply hsame₂
        rw [hid]
        exact fun h => hi h.2
    · intro act hact
      rw [hsame₂ act (fun h => hact ⟨h.1, List.mem_cons_of_mem _ h.2⟩), hsame₁]
      intro hid
      rw [hid] at hact
      exact hact ⟨rfl, List.mem_cons_self⟩

/-- Unmapping all registers of a device leaves it no entries. -/
theorem forBars_unmapBar (bdf : PciBdf) (is : List (Fin 6)) (hlayout : Layout F br) :
    ∃ br', (forBars unmapBar bdf is).run br = .ok () br' ∧ Layout F br' ∧
      br'.registry = br.registry ∧ ∀ act, act ∈ br'.activeMappings ↔
        act ∈ br.activeMappings ∧ ¬ (act.id.bdf = bdf ∧ act.id.barIdx ∈ is) := by
  induction is generalizing br with
  | nil => exact ⟨br, rfl, hlayout, rfl, by simp⟩
  | cons i is ih =>
    obtain ⟨br₁, hrun, hlayout₁, hunmapped⟩ := unmapBar_run hlayout ⟨bdf, i⟩
    obtain ⟨br₂, hrest, hlayout₂, hregistry, hentries⟩ := ih hlayout₁
    refine ⟨br₂, ?_, hlayout₂, hregistry.trans hunmapped.registry, ?_⟩
    · rw [forBars_cons, hrun]
      exact hrest
    · intro act
      rw [hentries, hunmapped.entries, List.mem_cons]
      obtain ⟨⟨b, j⟩, base, size⟩ := act
      simp only [ne_eq, BarId.mk.injEq]
      tauto

/-! ## Syncing a device -/

/-- The entries of all other devices are right, and those of the device can be put right. -/
structure Unsynced (F : List (BusMapping β)) (bdf : PciBdf) (br : PciBusBridge β) : Prop where
  layout : Layout F br
  placed : BarsPlaced F br
  others : ∀ id : BarId, id.bdf ≠ bdf → Exact br id
  fixable : MemoryEnabled br bdf → ∀ i, Fixable br ⟨bdf, i⟩

/-- Mapping all BARs of an enabled device makes the mappings mirror them. -/
theorem mapAll_mirrors {bdf : PciBdf} (h : Unsynced F bdf br) (henabled : MemoryEnabled br bdf) :
    ∃ br', (forBars mapBar bdf (List.finRange 6)).run br = .ok () br' ∧ Mirrors F br' := by
  obtain ⟨br', hrun, hlayout, hregistry, hexact, hsame⟩ :=
    forBars_mapBar bdf (List.finRange 6) h.layout h.placed fun i _ => h.fixable henabled i
  refine ⟨br', hrun, hlayout, h.placed.congr hregistry, ?_⟩
  intro id
  by_cases hbdf : id.bdf = bdf
  · subst hbdf
    exact hexact id.barIdx (List.mem_finRange _)
  · refine exact_of_same hregistry ?_ (h.others id hbdf)
    intro act hid
    apply hsame
    rw [hid]
    exact fun hact => hbdf hact.1

/-- Unmapping all BARs of a disabled device makes the mappings mirror them. -/
theorem unmapAll_mirrors {bdf : PciBdf} (h : Unsynced F bdf br)
    (hdisabled : ¬ MemoryEnabled br bdf) :
    ∃ br', (forBars unmapBar bdf (List.finRange 6)).run br = .ok () br' ∧ Mirrors F br' := by
  obtain ⟨br', hrun, hlayout, hregistry, hentries⟩ :=
    forBars_unmapBar bdf (List.finRange 6) h.layout
  refine ⟨br', hrun, hlayout, h.placed.congr hregistry, ?_⟩
  intro id
  by_cases hbdf : id.bdf = bdf
  · intro act hid
    constructor
    · intro hact
      exact absurd ⟨by rw [hid]; exact hbdf, List.mem_finRange _⟩ ((hentries act).1 hact).2
    · rintro ⟨bar, hwanted, -⟩
      rw [hid] at hwanted
      have henabled := (memoryEnabled_congr hregistry).1 hwanted.enabled
      rw [hbdf] at henabled
      exact absurd henabled hdisabled
  · refine exact_of_same hregistry ?_ (h.others id hbdf)
    intro act hid
    rw [hentries]
    constructor
    · exact fun hact => hact.1
    · intro hact
      refine ⟨hact, ?_⟩
      rw [hid]
      exact fun hact => hbdf hact.1

/-- Memory space is enabled where the command register of the device says so. -/
theorem memoryEnabled_iff {bdf : PciBdf} {dev : PciDevice β}
    (hdev : br.registry.findDevice bdf = some dev) :
    MemoryEnabled br bdf ↔ dev.configHeader.isMemorySpaceEnabled = true := by
  have hheader : headerOf br bdf = some dev.configHeader := by
    rw [headerOf, hdev]
    rfl
  rw [MemoryEnabled, hheader]
  simp

/-- Syncing a device puts its entries right. -/
theorem syncDevice_mirrors {bdf : PciBdf} (h : Unsynced F bdf br) :
    ∃ br', (syncDevice bdf).run br = .ok () br' ∧ Mirrors F br' := by
  unfold syncDevice
  simp only [EStateM.run_bind, EStateM.run_get]
  cases hdev : br.registry.findDevice bdf with
  | none =>
    refine ⟨br, rfl, h.layout, h.placed, ?_⟩
    intro id
    by_cases hbdf : id.bdf = bdf
    · have hnone : barAt br id = none := by
        rw [barAt, headerOf, hbdf, hdev]
        rfl
      intro act hid
      constructor
      · intro hact
        obtain ⟨device, hdevice, -⟩ := h.layout.mapped act hact
        rw [hid, deviceAt, hnone] at hdevice
        cases hdevice
      · rintro ⟨bar, hwanted, -⟩
        rw [hid] at hwanted
        have hbar := hwanted.programmed.1
        rw [hnone] at hbar
        cases hbar
    · exact h.others id hbdf
  | some dev =>
    dsimp only
    split
    next henabled => exact mapAll_mirrors h ((memoryEnabled_iff hdev).2 henabled)
    next hdisabled => exact unmapAll_mirrors h (mt (memoryEnabled_iff hdev).1 hdisabled)

/-! ## Changes of the command register -/

/-- Only the memory space of one device has been switched, if anything. -/
structure CommandChanged (br br' : PciBusBridge β) (bdf : PciBdf) : Prop where
  active : br'.activeMappings = br.activeMappings
  bus : br'.bus = br.bus
  bars : ∀ id, barAt br' id = barAt br id
  enabled : ∀ bdf', bdf' ≠ bdf → (MemoryEnabled br' bdf' ↔ MemoryEnabled br bdf')

/-- The list and the bus depend on the devices behind the registers only. -/
theorem Layout.congr (h : Layout F br) (hactive : br'.activeMappings = br.activeMappings)
    (hbus : br'.bus = br.bus) (hdevices : ∀ id, deviceAt br' id = deviceAt br id) :
    Layout F br' := by
  constructor
  · rw [hactive]
    exact h.once
  · rw [hactive]
    exact h.bases
  · rw [hactive, hbus]
    intro act hact
    rw [hdevices]
    exact h.mapped act hact
  · rw [hbus]
    exact h.kept
  · rw [hactive, hbus]
    exact h.only

/-- A command changed leaves the BARs programmed as they were. -/
theorem CommandChanged.programmed {bdf : PciBdf} (h : CommandChanged br br' bdf) {bar : PciBar β} :
    Programmed br' id bar ↔ Programmed br id bar := by
  rw [Programmed, Programmed, h.bars]

/-- A command changed leaves the BARs of the other devices wanted as they were. -/
theorem CommandChanged.wanted {bdf : PciBdf} (h : CommandChanged br br' bdf) {bar : PciBar β}
    (hbdf : id.bdf ≠ bdf) : Wanted br' id bar ↔ Wanted br id bar := by
  constructor
  · intro hw
    exact ⟨h.programmed.1 hw.programmed, hw.attached, (h.enabled _ hbdf).1 hw.enabled⟩
  · intro hw
    exact ⟨h.programmed.2 hw.programmed, hw.attached, (h.enabled _ hbdf).2 hw.enabled⟩

/-- A switched memory space leaves the device to be synced, if what is to be mapped now can be. -/
theorem CommandChanged.unsynced {bdf : PciBdf} (h : CommandChanged br br' bdf)
    (hmirrors : Mirrors F br)
    (hfree : ∀ i bar, Wanted br' ⟨bdf, i⟩ bar → ∀ m ∈ F, m.span.Apart (barSpan bar)) :
    Unsynced F bdf br' := by
  constructor
  · refine hmirrors.layout.congr h.active h.bus ?_
    intro id
    rw [deviceAt, deviceAt, h.bars]
  · constructor
    · intro i i' bar bar' hbar hbar'
      exact hmirrors.placed.disjoint i i' bar bar' (h.programmed.1 hbar) (h.programmed.1 hbar')
    · intro i bar hbar
      exact hmirrors.placed.inSpace i bar (h.programmed.1 hbar)
    · intro i bar hbar
      by_cases hbdf : i.bdf = bdf
      · subst hbdf
        exact hfree i.barIdx bar hbar
      · exact hmirrors.placed.apart i bar ((h.wanted hbdf).1 hbar)
  · intro id hbdf act hid
    rw [h.active, hmirrors.exact id act hid]
    constructor
    · rintro ⟨bar, hwanted, heq⟩
      exact ⟨bar, (h.wanted (by rw [hid]; exact hbdf)).2 hwanted, heq⟩
    · rintro ⟨bar, hwanted, heq⟩
      exact ⟨bar, (h.wanted (by rw [hid]; exact hbdf)).1 hwanted, heq⟩
  · intro henabled i
    refine .inr ⟨?_, ?_⟩
    · intro act hact _
      rw [h.active] at hact
      obtain ⟨bar, hbar, heq⟩ := (hmirrors.exact act.id).current rfl hact
      exact ⟨bar, h.programmed.2 hbar, heq⟩
    · intro act hact hid
      rw [h.active] at hact
      obtain ⟨bar, hwanted, -⟩ := (hmirrors.exact act.id act rfl).1 hact
      rw [hid] at hwanted
      exact ⟨bar, h.programmed.2 hwanted.programmed, hwanted.attached, henabled⟩

end Xblob.Analysis
