import Xblob.Analysis.PciCalls
import Xblob.Computation.Alignment

/-!
# Probing and programming base address registers

The list of the bridge has at most one entry for a register, so taking it out clears the way for
the register's own new place.  What the register reads as then depends on the address alone that
the bridge has let through.
-/

set_option autoImplicit false

namespace Xblob.Analysis

open Xblob.Computation Xblob.Interface Xblob.Pci Xblob.Pci.PciBusBridge

variable {β : Type} {br br' : PciBusBridge β} {id : BarId}

/-! ## One entry for each register -/

/-- The list of the bridge has at most one entry for each register. -/
def Once (br : PciBusBridge β) : Prop := (br.activeMappings.map ActiveMapping.id).Nodup

/-- Unmapping a BAR drops its first active mapping, whether the bus goes along or not. -/
theorem activeMappings_unmapBar (id : BarId) (br : PciBusBridge β) :
    (stateAfter ((unmapBar id).run br)).activeMappings =
      br.activeMappings.eraseP fun act => act.id = id := by
  unfold unmapBar
  simp only [EStateM.run_bind, EStateM.run_get]
  cases hfind : br.activeMappings.find? fun act => act.id = id with
  | none =>
    have hnone : ∀ act ∈ br.activeMappings, act.id ≠ id := find?_key_none.1 hfind
    rw [List.eraseP_of_forall_not fun act hact => by simpa using hnone act hact]
    rfl
  | some act =>
    dsimp only
    cases br.bus.unmapDevice act.base <;> rfl

/-- Unmapping keeps each BAR active at most once. -/
theorem once_unmapBar (id : BarId) (br : PciBusBridge β) : Maintains Once (unmapBar id) br := by
  intro honce
  rw [Once, activeMappings_unmapBar]
  exact nodup_eraseP honce _

/-- A register without an entry gets one. -/
theorem once_mapDevice {bar : PciBar β} (hnone : ∀ act ∈ br.activeMappings, act.id ≠ id) :
    Maintains Once (mapDevice id bar) br := by
  intro honce
  unfold mapDevice
  simp only [EStateM.run_bind, EStateM.run_get]
  cases br.bus.mapDevice bar.baseAddress bar.size bar.device with
  | error e => exact honce
  | ok bus =>
    change (List.map ActiveMapping.id (_ ++ [_])).Nodup
    rw [List.map_append, List.nodup_append]
    refine ⟨honce, List.nodup_singleton _, ?_⟩
    intro i hi j hj
    obtain ⟨act, hact, rfl⟩ := List.mem_map.1 hi
    rw [List.mem_singleton.1 hj]
    exact hnone act hact

/-- Mapping keeps each BAR active at most once: it unmaps the BAR first. -/
theorem once_mapBar (id : BarId) (br : PciBusBridge β) : Maintains Once (mapBar id) br := by
  unfold mapBar
  refine ((quiet_get br).maintains _).bind ?_
  rintro _ _ ⟨⟩
  split
  · exact (quiet_throw _ br).maintains _
  · dsimp only
    split_ifs
    · exact (quiet_pure _ br).maintains _
    · exact (quiet_pure _ br).maintains _
    · split
      · split_ifs
        · exact (quiet_pure _ br).maintains _
        · intro honce
          refine Maintains.bind (once_unmapBar id br).regardless (fun _ br₁ hrun => ?_) honce
          apply once_mapDevice
          rw [run_regardless] at hrun
          cases hrun
          rw [activeMappings_unmapBar]
          intro act hact
          exact ((mem_eraseP_key honce).1 hact).2
      next hfind => exact once_mapDevice (find?_key_none.1 hfind)

/-- A walk over the BARs of a device keeps each active at most once if each step does. -/
theorem once_forBars {f : BarId → EStateM Error (PciBusBridge β) Unit}
    (hf : ∀ id br, Maintains Once (f id) br) (bdf : PciBdf) (is : List (Fin 6))
    (br : PciBusBridge β) : Maintains Once (forBars f bdf is) br := by
  induction is generalizing br with
  | nil => exact (quiet_pure _ br).maintains _
  | cons i is ih => exact (hf _ br).regardless.bind fun _ br' _ => ih br'

/-- Synchronising a device keeps each BAR active at most once. -/
theorem once_syncDevice (bdf : PciBdf) (br : PciBusBridge β) :
    Maintains Once (syncDevice bdf) br := by
  unfold syncDevice
  refine ((quiet_get br).maintains _).bind ?_
  rintro _ _ ⟨⟩
  split
  · exact (quiet_pure _ br).maintains _
  · split_ifs
    · exact once_forBars once_mapBar bdf _ br
    · exact once_forBars once_unmapBar bdf _ br

/-- Storing a register does not touch the list. -/
theorem once_programAddress (id : BarId) (addr : GuestAddr) (br : PciBusBridge β) :
    Maintains Once (programAddress id addr) br := by
  unfold programAddress
  refine ((quiet_get br).maintains _).bind ?_
  rintro _ _ ⟨⟩
  split
  · exact (quiet_pure _ br).maintains _
  · split
    · exact fun honce => honce
    · exact (quiet_throw _ br).maintains _

/-- Moving a BAR keeps each BAR active at most once. -/
theorem once_moveBar (id : BarId) (dev : PciDevice β) (newAddr : GuestAddr)
    (br : PciBusBridge β) : Maintains Once (moveBar id dev newAddr) br := by
  unfold moveBar
  refine ((quiet_get br).maintains _).bind ?_
  rintro _ _ ⟨⟩
  refine ((once_unmapBar id br).regardless.onlyIf _).bind fun _ br₁ _ => ?_
  refine ((once_programAddress id newAddr br₁).tryCatch fun e br₂ _ => ?_).bind fun _ br₂ _ => ?_
  · refine ((once_programAddress id _ br₂).regardless.onlyIf _).bind fun _ br₃ _ => ?_
    refine ((once_mapBar id br₃).regardless.onlyIf _).bind fun _ br₄ _ => ?_
    exact (quiet_throw e br₄).maintains _
  · refine ((once_mapBar id br₂).tryCatch fun e br₃ _ => ?_).onlyIf _
    refine (once_programAddress id _ br₃).regardless.bind fun _ br₄ _ => ?_
    refine ((once_mapBar id br₄).regardless.onlyIf _).bind fun _ br₅ _ => ?_
    exact (quiet_throw e br₅).maintains _

/-- Programming a BAR keeps each BAR active at most once. -/
theorem once_programBar (bdf : PciBdf) (barIdx : U8) (newAddr : GuestAddr)
    (br : PciBusBridge β) : Maintains Once (programBar bdf barIdx newAddr) br := by
  unfold programBar
  refine ((quiet_get br).maintains _).bind ?_
  rintro _ _ ⟨⟩
  split
  · exact (quiet_throw _ br).maintains _
  · split
    · dsimp only
      split_ifs
      · exact (quiet_throw _ br).maintains _
      · refine ((quiet_ofExcept _ br).maintains _).bind ?_
        intro _ br' _
        exact (quiet_throw _ br').maintains _
      · refine ((quiet_ofExcept _ br).maintains _).bind ?_
        intro _ br' _
        exact once_moveBar _ _ newAddr br'
    · exact (quiet_throw _ br).maintains _

/-- Turning memory space on or off keeps each BAR active at most once. -/
theorem once_setMemorySpaceEnabled (bdf : PciBdf) (enabled : Bool) (br : PciBusBridge β) :
    Maintains Once (setMemorySpaceEnabled bdf enabled) br := by
  have hbars : ∀ br : PciBusBridge β, Maintains Once
      (forBars (if enabled then mapBar else unmapBar) bdf (List.finRange 6)) br := by
    intro br
    cases enabled with
    | false => exact once_forBars once_unmapBar bdf _ br
    | true => exact once_forBars once_mapBar bdf _ br
  unfold setMemorySpaceEnabled
  refine ((quiet_get br).maintains _).bind ?_
  rintro _ _ ⟨⟩
  split
  · exact (quiet_throw _ br).maintains _
  · dsimp only
    split
    · exact Maintains.bind (fun honce => honce) fun _ br' _ => hbars br'
    · exact hbars br

/-- A write through to the registry leaves the active mappings alone. -/
theorem once_registryWrite (bdf : PciBdf) (offset : U8) (width : PciAccessWidth) (value : U32)
    (br : PciBusBridge β) : Maintains Once (registryWrite bdf offset width value) br := by
  intro honce
  obtain ⟨e, hrun⟩ | hrun | ⟨dev, h, -, -, -, -, hrun⟩ :=
    registryWrite_cases br bdf offset width value
  · rw [hrun]
    exact honce
  · rw [hrun]
    exact honce
  · rw [hrun]
    exact honce

/-- A configuration write keeps each BAR active at most once. -/
theorem once_writeConfig (bdf : PciBdf) (offset : U8) (width : PciAccessWidth) (value : U32)
    (br : PciBusBridge β) : Maintains Once (writeConfig bdf offset width value) br := by
  have hsynced : Maintains Once (do
      registryWrite bdf offset width value
      regardless (syncDevice bdf)) br :=
    (once_registryWrite bdf offset width value br).bind fun _ br' _ =>
      (once_syncDevice bdf br').regardless
  unfold writeConfig
  split
  · split_ifs
    · exact once_registryWrite bdf offset width value br
    · exact once_programBar bdf _ _ br
    · exact hsynced
  · split_ifs
    · exact once_setMemorySpaceEnabled bdf _ br
    · exact hsynced

/-- Every reachable bridge has at most one entry for each register. -/
theorem once_of_reachable (h : ReachableBridge br) : Once br := by
  induction h with
  | created bus registry => exact List.nodup_nil
  | @called br call _ ih =>
    cases call with
    | programBar bdf barIdx newAddr => exact once_programBar bdf barIdx newAddr br ih
    | setMemorySpaceEnabled bdf enabled => exact once_setMemorySpaceEnabled bdf enabled br ih
    | writeConfig w => exact once_writeConfig w.bdf w.offset w.width w.value br ih
    | syncDevice bdf => exact once_syncDevice bdf br ih
  | changed bus registry _ ih => exact ih

/-! ## Clearing the way -/

/-- The register's own entry is gone, and its own mapping with it. -/
structure Vacated (br br₁ : PciBusBridge β) (id : BarId) : Prop where
  registry : br₁.registry = br.registry
  entries : ∀ act ∈ br₁.activeMappings, act.id ≠ id
  mappings : ∀ m ∈ br₁.bus.mappings,
    m ∈ br.bus.mappings ∧ ¬ ∃ act ∈ br.activeMappings, act.id = id ∧ act.base = m.base

/-- No mapping is left where a device was unmapped, or where there was none to unmap. -/
theorem unmapDevice_gone (bus : Bus β) (base : GuestAddr) :
    (∃ bus', bus.unmapDevice base = .ok bus' ∧
      ∀ m ∈ bus'.mappings, m ∈ bus.mappings ∧ m.base ≠ base) ∨
    ∃ e, bus.unmapDevice base = .error e ∧ ∀ m ∈ bus.mappings, m.base ≠ base := by
  by_cases hm : ∃ m ∈ bus.mappings, m.base = base
  · obtain ⟨m, hm, rfl⟩ := hm
    obtain ⟨bus', hunmap, hmappings⟩ := Bus.unmapDevice_ok hm
    exact .inl ⟨bus', hunmap, fun n hn => (hmappings n).1 hn⟩
  · push Not at hm
    have hany : ¬ (bus.mappings.any fun m => m.base = base) = true := by
      simpa using hm
    exact .inr ⟨_, if_neg hany, hm⟩

/-- The unmapping in front of a move returns, and leaves no mapping of the BAR. -/
theorem vacate_run (honce : Once br) (id : BarId) :
    ∃ br₁, (onlyIf (br.activeMappings.any fun act => act.id = id)
      (regardless (unmapBar id))).run br = .ok () br₁ ∧ Vacated br br₁ id := by
  cases hfind : br.activeMappings.find? fun act => act.id = id with
  | none =>
    have hnone : ∀ act ∈ br.activeMappings, act.id ≠ id := find?_key_none.1 hfind
    have hany : (br.activeMappings.any fun act => act.id = id) = false := by
      simpa using hnone
    refine ⟨br, by rw [hany]; rfl, rfl, hnone, ?_⟩
    rintro m hm
    exact ⟨hm, fun ⟨act, hact, hid, _⟩ => hnone act hact hid⟩
  | some act =>
    obtain ⟨hact, hid⟩ := (find?_key_iff honce).1 hfind
    have hany : (br.activeMappings.any fun act => act.id = id) = true :=
      List.any_eq_true.2 ⟨act, hact, by simpa using hid⟩
    have hbus : ∀ m ∈ (stateAfter ((unmapBar id).run br)).bus.mappings,
        m ∈ br.bus.mappings ∧ m.base ≠ act.base := by
      unfold unmapBar
      simp only [EStateM.run_bind, EStateM.run_get, hfind]
      obtain ⟨bus', hunmap, hgone⟩ | ⟨e, hunmap, hgone⟩ := unmapDevice_gone br.bus act.base
      · simp only [hunmap]
        exact hgone
      · simp only [hunmap]
        exact fun m hm => ⟨hm, hgone m hm⟩
    refine ⟨_, by rw [hany, onlyIf_true, run_regardless], keeps_unmapBar id br, ?_, ?_⟩
    · rw [activeMappings_unmapBar]
      intro a ha
      exact ((mem_eraseP_key honce).1 ha).2
    · intro m hm
      refine ⟨(hbus m hm).1, ?_⟩
      rintro ⟨a, ha, haid, hbase⟩
      rw [eq_of_key honce ha hact (haid.trans hid.symm)] at hbase
      exact (hbus m hm).2 hbase.symm

/-! ## Placing a register -/

/-- The register with an address that the bridge and the register have let through. -/
def placed (bar : PciBar β) (addr : GuestAddr) : PciBar β :=
  { bar with
    baseAddress := addr &&& bar.addressMask
    rawValue := (addr &&& bar.addressMask) ||| bar.flags
    isProgrammed := true
    probeMode := false }

/-- A placed BAR reads as its masked address with its flag bits. -/
theorem read_placed {bar : PciBar β} (hconfigured : bar.isConfigured = true) (addr : GuestAddr) :
    (placed bar addr).read = (addr &&& bar.addressMask) ||| bar.flags := by
  have hconf : (placed bar addr).isConfigured = true := hconfigured
  have hmask : (placed bar addr).addressMask = bar.addressMask := rfl
  rw [PciBar.read, hconf]
  change ((addr &&& bar.addressMask) &&& (placed bar addr).addressMask) ||| bar.flags = _
  rw [hmask, BitVec.and_assoc, BitVec.and_self]

/-- Programming a register leaves it placed, or does not succeed. -/
theorem programAddress_placed {bar bar' : PciBar β} {addr : GuestAddr}
    (h : bar.programAddress addr = .ok bar') : bar' = placed bar addr := by
  unfold PciBar.programAddress at h
  split_ifs at h
  split at h
  · cases h
  · exact (Except.ok.inj h).symm

/-- A register that the list has no entry for is mapped where the bus has room for it. -/
theorem mapBar_vacant {dev : PciDevice β} {bar : PciBar β}
    (hdev : br.registry.findDevice id.bdf = some dev)
    (hbar : dev.configHeader.bars id.barIdx = bar) (hactive : bar.isActive = true)
    (hattached : bar.device.isSome = true) (hio : bar.isIo = false)
    (henabled : dev.configHeader.isMemorySpaceEnabled = true)
    (hnone : ∀ act ∈ br.activeMappings, act.id ≠ id)
    (hspace : (barSpan bar).stop ≤ 0x100000000)
    (hroom : ∀ m ∈ br.bus.mappings, m.span.Apart (barSpan bar)) :
    ∃ br', (mapBar id).run br = .ok () br' := by
  obtain ⟨device, hdevice⟩ := Option.isSome_iff_exists.1 hattached
  obtain ⟨bus', hmap, -⟩ := Bus.mapDevice_ok device (barSpan_pos hactive) hspace hroom
  have hfind : br.activeMappings.find? (fun act => act.id = id) = none := find?_key_none.2 hnone
  unfold mapBar
  simp only [EStateM.run_bind, EStateM.run_get, hdev, hbar, hactive, hdevice, hio, henabled,
    hfind, Option.isNone_some, Bool.not_true, Bool.or_false, Bool.false_eq_true, if_false]
  unfold mapDevice
  simp only [EStateM.run_bind, EStateM.run_get, hdevice, hmap]
  exact ⟨_, rfl⟩

/-- A register is moved to a place that no mapping but its own is in the way of. -/
theorem moveBar_places (honce : Once br) {dev : PciDevice β}
    (hdev : br.registry.findDevice id.bdf = some dev) {newAddr : GuestAddr} {bar' : PciBar β}
    (hok : (dev.configHeader.bars id.barIdx).programAddress newAddr = .ok bar')
    (hroom : bar'.isIo = false → ∀ m ∈ br.bus.mappings,
      (¬ ∃ act ∈ br.activeMappings, act.id = id ∧ act.base = m.base) →
        m.span.Apart (barSpan bar')) :
    ∃ br', (moveBar id dev newAddr).run br = .ok () br' ∧ barAt br' id = some bar' := by
  obtain ⟨br₁, hvacate, hvacated⟩ := vacate_run honce id
  have hdev₁ : br₁.registry.findDevice id.bdf = some dev := by
    rw [hvacated.registry]
    exact hdev
  obtain ⟨-, -, -, -, hactive, hre⟩ := programAddress_ok hok
  have hchanged := barChanged_setBar id hdev₁ bar'
  have hprogram : (programAddress id newAddr).run br₁ = .ok () { br₁ with
      registry := br₁.registry.setHeader id.bdf (dev.configHeader.setBar id.barIdx bar') } := by
    unfold programAddress
    simp only [EStateM.run_bind, EStateM.run_get, hdev₁, hok]
    rfl
  unfold moveBar
  simp only [EStateM.run_bind, EStateM.run_get, hvacate, run_tryCatch_ok hprogram]
  cases hcond : dev.configHeader.isMemorySpaceEnabled &&
      (dev.configHeader.bars id.barIdx).device.isSome && !(dev.configHeader.bars id.barIdx).isIo with
  | false => exact ⟨_, rfl, hchanged.at_⟩
  | true =>
    simp only [Bool.and_eq_true, Bool.not_eq_true'] at hcond
    have hfound : (br₁.registry.setHeader id.bdf
        (dev.configHeader.setBar id.barIdx bar')).findDevice id.bdf =
          some { dev with configHeader := dev.configHeader.setBar id.barIdx bar' } := by
      rw [findDevice_setHeader, if_pos rfl, hdev₁]
      rfl
    have hbar : (dev.configHeader.setBar id.barIdx bar').bars id.barIdx = bar' :=
      Function.update_self _ _ _
    have hio : bar'.isIo = false := hre.isIo.trans hcond.2
    have hattached : bar'.device.isSome = true := by
      rw [hre.device]
      exact hcond.1.2
    obtain ⟨br₃, hmap⟩ : ∃ br₃, (mapBar id).run { br₁ with
        registry := br₁.registry.setHeader id.bdf (dev.configHeader.setBar id.barIdx bar') } =
          .ok () br₃ := by
      refine mapBar_vacant hfound hbar hactive hattached hio hcond.1.1 hvacated.entries
        (programAddress_stop hok) ?_
      intro m hm
      obtain ⟨hm, hown⟩ := hvacated.mappings m hm
      exact hroom hio m hm hown
    refine ⟨br₃, by rw [onlyIf_true, run_tryCatch_ok hmap], ?_⟩
    rw [barAt_congr ((keeps_mapBar id _).ok hmap)]
    exact hchanged.at_

/-- The rollback of a refused address reports the error it was called with. -/
theorem undoProgram_throws (id : BarId) (oldAddr : GuestAddr) (restorable : Bool) (e : Error)
    (br : PciBusBridge β) : ∃ br', (undoProgram id oldAddr restorable e).run br = .error e br' := by
  unfold undoProgram
  cases restorable with
  | false => exact ⟨_, rfl⟩
  | true => exact ⟨_, rfl⟩

/-- The rollback of a refused mapping reports the error it was called with. -/
theorem undoMap_throws (id : BarId) (oldAddr : GuestAddr) (restorable : Bool) (e : Error)
    (br : PciBusBridge β) : ∃ br', (undoMap id oldAddr restorable e).run br = .error e br' := by
  unfold undoMap
  cases restorable with
  | false => exact ⟨_, rfl⟩
  | true => exact ⟨_, rfl⟩

/-- Where a move succeeds, it has placed the register. -/
theorem placed_of_moveBar {dev : PciDevice β}
    (hdev : br.registry.findDevice id.bdf = some dev) {newAddr : GuestAddr}
    (hrun : (moveBar id dev newAddr).run br = .ok () br') :
    barAt br' id = some (placed (dev.configHeader.bars id.barIdx) newAddr) := by
  unfold moveBar at hrun
  obtain ⟨_, _, hget, hrun⟩ := run_bind_ok hrun
  cases hget
  obtain ⟨_, br₁, hvacate, hrun⟩ := run_bind_ok hrun
  obtain ⟨_, br₂, hprogram, hrun⟩ := run_bind_ok hrun
  have hdev₁ : br₁.registry.findDevice id.bdf = some dev := by
    rw [((keeps_unmapBar id br).regardless.onlyIf _).ok hvacate]
    exact hdev
  have hprogram' : (programAddress id newAddr).run br₁ = .ok () br₂ :=
    run_ok_of_tryCatch (undoProgram_throws id _ _) hprogram
  have hregistry : br'.registry = br₂.registry := by
    cases hcond : dev.configHeader.isMemorySpaceEnabled &&
        (dev.configHeader.bars id.barIdx).device.isSome &&
        !(dev.configHeader.bars id.barIdx).isIo with
    | false =>
      rw [hcond] at hrun
      cases hrun
      rfl
    | true =>
      rw [hcond, onlyIf_true] at hrun
      exact (keeps_mapBar id br₂).ok (run_ok_of_tryCatch (undoMap_throws id _ _) hrun)
  unfold programAddress at hprogram'
  simp only [EStateM.run_bind, EStateM.run_get, hdev₁] at hprogram'
  rw [barAt_congr hregistry]
  cases hok : (dev.configHeader.bars id.barIdx).programAddress newAddr with
  | error e =>
    rw [hok] at hprogram'
    cases hprogram'
  | ok bar' =>
    rw [hok] at hprogram'
    cases hprogram'
    rw [← programAddress_placed hok]
    exact (barChanged_setBar id hdev₁ bar').at_

/-! ## The checks of the bridge -/

/-- A BAR of the bridge belongs to a registered device. -/
theorem exists_device {bar : PciBar β} (hbar : barAt br id = some bar) :
    ∃ dev, br.registry.findDevice id.bdf = some dev ∧ dev.configHeader.bars id.barIdx = bar := by
  obtain ⟨header, hheader, hbar⟩ := Option.map_eq_some_iff.1 hbar
  obtain ⟨dev, hdev, rfl⟩ := Option.map_eq_some_iff.1 hheader
  exact ⟨dev, hdev, hbar⟩

/-- Every register of a registered device is that of its address. -/
theorem barAt_of_mem {dev : PciDevice β} (hdev : dev ∈ br.registry.devices) (i : Fin 6) :
    barAt br ⟨dev.bdf, i⟩ = some (dev.configHeader.bars i) := by
  have hfind : br.registry.findDevice dev.bdf = some dev :=
    (find?_key_iff br.registry.distinct).2 ⟨hdev, rfl⟩
  rw [barAt, headerOf, hfind]
  rfl

/-- The collision check passes where nothing is in the way. -/
theorem hasCollision_of_uncontested {base : GuestAddr} {size : GuestSize}
    (h : Uncontested br id ⟨base.toNat, size.toNat⟩) : br.hasCollision id base size = false := by
  by_cases hsize : size = 0
  · rw [hasCollision, if_pos hsize]
  · rw [hasCollision, if_neg hsize, Bool.or_eq_false_iff]
    constructor
    · rw [List.any_eq_false]
      intro dev hdev hany
      obtain ⟨i, -, hcollides⟩ := List.any_eq_true.1 hany
      simp only [Bool.and_eq_true, Bool.not_eq_true', decide_eq_false_iff_not,
        decide_eq_true_eq] at hcollides
      obtain ⟨⟨hid, hactive⟩, hoverlap⟩ := hcollides
      have hapart := h.bars _ _ (barAt_of_mem hdev i) hactive hid
      simp only [barSpan, Span.Apart, Span.Before, Span.stop] at hapart
      omega
    · rw [List.any_eq_false]
      intro m hm hcollides
      rw [Bool.and_eq_true, BusMapping.overlaps_iff] at hcollides
      obtain ⟨hown, hoverlap⟩ := hcollides
      refine hoverlap (h.mappings m hm ?_)
      rintro ⟨act, hact, hid, hbase⟩
      rw [List.any_eq_true.2 ⟨act, hact, by simp [hid, hbase]⟩] at hown
      cases hown

/-- The index of a BAR as a byte. -/
theorem barIdx_toNat (i : Fin 6) : (BitVec.ofNat 8 i).toNat = i := by
  rw [BitVec.toNat_ofNat]
  have hlt := i.isLt
  omega

/-- Programming a register of a registered device, check by check. -/
theorem programBar_run {dev : PciDevice β} (hdev : br.registry.findDevice id.bdf = some dev)
    (hconfigured : (dev.configHeader.bars id.barIdx).isConfigured = true) (addr : GuestAddr) :
    (programBar id.bdf (BitVec.ofNat 8 id.barIdx) addr).run br =
      match (dev.configHeader.bars id.barIdx).checkAddress addr "BAR address misaligned" with
      | .error e => .error e br
      | .ok () =>
        if br.hasCollision id addr (dev.configHeader.bars id.barIdx).size then
          .error { code := .regionOverlap
                   message := "BAR address range collides with existing region"
                   offset := addr.setWidth 64 } br
        else (moveBar id dev addr).run br := by
  have hidx : (BitVec.ofNat 8 id.barIdx).toNat < 6 := by
    rw [barIdx_toNat]
    exact id.barIdx.isLt
  have hfin : (⟨(BitVec.ofNat 8 id.barIdx).toNat, hidx⟩ : Fin 6) = id.barIdx :=
    Fin.ext (barIdx_toNat _)
  unfold programBar
  simp only [EStateM.run_bind, EStateM.run_get, hdev, dif_pos hidx, hfin, hconfigured,
    Bool.not_true, Bool.false_eq_true, if_false, run_ofExcept]
  cases (dev.configHeader.bars id.barIdx).checkAddress addr "BAR address misaligned" with
  | error e => rfl
  | ok _ =>
    dsimp only
    split_ifs
    · rfl
    · rfl

/-- A register is placed where it is aligned, in range and in nobody's way. -/
theorem programBar_places (honce : Once br) {bar : PciBar β} (hbar : barAt br id = some bar)
    (hconfigured : bar.isConfigured = true) {addr : GuestAddr}
    (hspace : addr.toNat + bar.size.toNat ≤ 0x100000000) (haligned : addr &&& (bar.size - 1) = 0)
    (hkept : addr &&& bar.addressMask = addr)
    (hfree : Uncontested br id ⟨addr.toNat, bar.size.toNat⟩) :
    ∃ br', (programBar id.bdf (BitVec.ofNat 8 id.barIdx) addr).run br = .ok () br' ∧
      barAt br' id = some (placed bar addr) := by
  obtain ⟨dev, hdev, rfl⟩ := exists_device hbar
  have hcheck : ∀ text, (dev.configHeader.bars id.barIdx).checkAddress addr text = .ok () := by
    intro text
    rw [PciBar.checkAddress, if_neg (Nat.not_lt.2 hspace), if_neg (not_not.2 haligned)]
  obtain ⟨bar', hok⟩ := programAddress_of_check hconfigured (hcheck "")
  have hspan : barSpan bar' = ⟨addr.toNat, (dev.configHeader.bars id.barIdx).size.toNat⟩ := by
    rw [programAddress_placed hok, barSpan]
    change Span.mk (addr &&& (dev.configHeader.bars id.barIdx).addressMask).toNat _ = _
    rw [hkept]
    rfl
  rw [programBar_run hdev hconfigured, hcheck, hasCollision_of_uncontested hfree]
  dsimp only
  rw [if_neg Bool.false_ne_true, ← programAddress_placed hok]
  apply moveBar_places honce hdev hok
  intro _ m hm hown
  rw [hspan]
  exact hfree.mappings m hm hown

/-- Where programming succeeds, the register is placed at the address that was asked for. -/
theorem placed_of_programBar {bar : PciBar β} (hbar : barAt br id = some bar)
    (hconfigured : bar.isConfigured = true) {addr : GuestAddr}
    (hrun : (programBar id.bdf (BitVec.ofNat 8 id.barIdx) addr).run br = .ok () br') :
    barAt br' id = some (placed bar addr) := by
  obtain ⟨dev, hdev, rfl⟩ := exists_device hbar
  rw [programBar_run hdev hconfigured] at hrun
  split at hrun
  · cases hrun
  · split_ifs at hrun
    exact placed_of_moveBar hdev hrun

/-! ## The registers in the configuration space -/

/-- The offset of a BAR leads back to it. -/
theorem barOf_barOffset (i : Fin 6) : PciConfigHeader.barOf (barOffset i) = some (i, 0) := by
  revert i
  decide

/-- The offset of a BAR is an aligned dword of the configuration space. -/
theorem barOffset_inSpace (i : Fin 6) :
    (barOffset i).toNat + PciAccessWidth.dword.bytes ≤ kPciConfigSpaceSize ∧
      (barOffset i).toNat % 4 = 0 := by
  revert i
  decide

/-- The checks that a dword at a register passes. -/
theorem barOffset_checks (i : Fin 6) :
    ¬ ((barOffset i).toNat + PciAccessWidth.dword.bytes > kPciConfigSpaceSize) ∧
      ¬ (PciAccessWidth.dword = .word ∧ (barOffset i).toNat % 2 ≠ 0) ∧
      ¬ (PciAccessWidth.dword = .dword ∧ (barOffset i).toNat % 4 ≠ 0) := by
  obtain ⟨hspace, haligned⟩ := barOffset_inSpace i
  refine ⟨Nat.not_lt.2 hspace, ?_, ?_⟩
  · rintro ⟨hword, -⟩
    cases hword
  · rintro ⟨-, hmisaligned⟩
    exact hmisaligned haligned

/-- A dword read at the offset of a BAR reads the BAR. -/
theorem readConfig_bar {bar : PciBar β} (hbar : barAt br id = some bar) :
    br.readConfig id.bdf (barOffset id.barIdx) .dword = .ok bar.read := by
  obtain ⟨dev, hdev, rfl⟩ := exists_device hbar
  obtain ⟨hspace, hword, hdword⟩ := barOffset_checks id.barIdx
  rw [PciBusBridge.readConfig, PciRegistry.readConfig, if_neg hword, if_neg hdword, hdev]
  dsimp only
  rw [PciConfigHeader.read, if_neg hspace, if_neg hword, if_neg hdword, barOf_barOffset]
  dsimp only
  rw [if_pos ⟨rfl, rfl⟩]

/-- A dword of ones puts the register in probe mode. -/
theorem writeConfig_ones {bar : PciBar β} (hbar : barAt br id = some bar)
    (hconfigured : bar.isConfigured = true) :
    ∃ br', (writeConfig id.bdf (barOffset id.barIdx) .dword 0xFFFFFFFF).run br = .ok () br' ∧
      barAt br' id = some { bar with probeMode := true } := by
  obtain ⟨dev, hdev, rfl⟩ := exists_device hbar
  obtain ⟨hspace, hword, hdword⟩ := barOffset_checks id.barIdx
  have hbarWrite : (dev.configHeader.bars id.barIdx).write 0xFFFFFFFF =
      .ok { dev.configHeader.bars id.barIdx with probeMode := true } := by
    rw [PciBar.write, hconfigured]
    rfl
  have hwrite : dev.configHeader.write (barOffset id.barIdx) .dword 0xFFFFFFFF =
      .ok (dev.configHeader.setBar id.barIdx
        { dev.configHeader.bars id.barIdx with probeMode := true }) := by
    rw [PciConfigHeader.write, if_neg hspace, if_neg hword, if_neg hdword, barOf_barOffset]
    dsimp only
    rw [if_pos ⟨rfl, rfl⟩, hbarWrite]
  have hregistry : br.registry.writeConfig id.bdf (barOffset id.barIdx) .dword 0xFFFFFFFF =
      .ok (br.registry.setHeader id.bdf (dev.configHeader.setBar id.barIdx
        { dev.configHeader.bars id.barIdx with probeMode := true })) := by
    rw [PciRegistry.writeConfig, if_neg hword, if_neg hdword, hdev]
    dsimp only
    rw [hwrite]
  unfold writeConfig registryWrite
  rw [barOf_barOffset]
  dsimp only
  rw [if_pos rfl]
  simp only [EStateM.run_bind, EStateM.run_get, hregistry]
  exact ⟨_, rfl, (barChanged_setBar id hdev _).at_⟩

/-- Any other dword is taken for an address of memory, whatever kind the register is of. -/
theorem writeConfig_address {value : U32} (hvalue : value ≠ 0xFFFFFFFF) :
    (writeConfig id.bdf (barOffset id.barIdx) .dword value :
        EStateM Error (PciBusBridge β) Unit) =
      programBar id.bdf (BitVec.ofNat 8 id.barIdx) (value &&& kPciBarMemoryAddressMask) := by
  unfold writeConfig
  rw [barOf_barOffset]
  dsimp only
  rw [if_neg hvalue, if_pos ⟨rfl, rfl⟩]

/-! ## Sizes and masks -/

/-- A sized BAR is configured. -/
theorem isConfigured_of_sized {bar : PciBar β} (h : SizedBar br id bar) :
    bar.isConfigured = true := by
  obtain ⟨k, -, hk, hsize⟩ := h.size
  rw [PciBar.isConfigured, hsize, decide_eq_true_iff, BitVec.lt_def, BitVec.toNat_twoPow]
  rw [Nat.mod_eq_of_lt (Nat.pow_lt_pow_right (by omega) hk)]
  exact Nat.two_pow_pos k

/-- An aligned range of a power of two does not run over the end of the address space. -/
theorem aligned_inSpace {addr size : U32} {k : ℕ} (hk : k < 32) (hsize : size = BitVec.twoPow 32 k)
    (haligned : addr &&& (size - 1) = 0) : addr.toNat + size.toNat ≤ 0x100000000 := by
  have hsize' : size.toNat = 2 ^ k := by
    rw [hsize, BitVec.toNat_twoPow, Nat.mod_eq_of_lt (Nat.pow_lt_pow_right (by omega) hk)]
  have hmod : addr.toNat % 2 ^ k = 0 := by
    have hand := congrArg BitVec.toNat haligned
    rw [BitVec.toNat_and, toNat_pred hsize', Nat.and_two_pow_sub_one_eq_mod] at hand
    exact hand
  obtain ⟨q, hq⟩ := Nat.dvd_of_mod_eq_zero hmod
  have hspace : 0x100000000 = 2 ^ k * 2 ^ (32 - k) := by
    rw [← Nat.pow_add, Nat.add_sub_cancel' hk.le]
  have hlt : 2 ^ k * q < 2 ^ k * 2 ^ (32 - k) := by
    rw [← hq, ← hspace]
    exact addr.isLt
  have hq' : q + 1 ≤ 2 ^ (32 - k) := Nat.lt_of_mul_lt_mul_left hlt
  rw [hsize', hq, hspace, ← Nat.mul_succ]
  exact Nat.mul_le_mul_left _ hq'

/-- A mask without any of some bits is not changed by clearing them. -/
theorem not_and_of_and_eq_zero {m x : U32} (h : m &&& x = 0#32) : ~~~x &&& m = m := by
  have hsplit : m = m &&& (x ||| ~~~x) := by
    rw [BitVec.or_not_self, BitVec.and_allOnes]
  rw [BitVec.and_or_distrib_left, h, BitVec.zero_or, BitVec.and_comm] at hsplit
  exact hsplit.symm

/-- Ports are masked like memory where the address is a multiple of sixteen, and only there. -/
theorem memoryMask_eq_iff (value : U32) :
    value &&& kPciBarMemoryAddressMask = value &&& kPciBarIoAddressMask ↔
      (value &&& kPciBarIoAddressMask) &&& 0xF = 0 := by
  have hmask : value &&& kPciBarMemoryAddressMask =
      (value &&& kPciBarIoAddressMask) &&& kPciBarMemoryAddressMask := by
    rw [BitVec.and_assoc]
    rfl
  rw [hmask]
  generalize value &&& kPciBarIoAddressMask = x
  have hsplit : x = (x &&& kPciBarMemoryAddressMask) ||| (x &&& 0xF) := by
    rw [← BitVec.and_or_distrib_left]
    exact (BitVec.and_allOnes).symm
  constructor
  · intro hsame
    rw [← hsame, BitVec.and_assoc]
    exact BitVec.and_zero
  · intro hlow
    rw [show x &&& 0xF = 0#32 from hlow, BitVec.or_zero] at hsplit
    exact hsplit.symm

/-! ## The protocol -/

/-- A size mask reads back in any state of the register. -/
theorem probe_reads {bar : PciBar β} (h : SizedBar br id bar) :
    ReadsBack br id 0xFFFFFFFF ((~~~(bar.size - 1) &&& bar.addressMask) ||| bar.flags) := by
  have hconfigured := isConfigured_of_sized h
  obtain ⟨br', hrun, hbar⟩ := writeConfig_ones h.at_ hconfigured
  refine ⟨br', hrun, ?_⟩
  rw [readConfig_bar hbar, PciBar.read]
  have hconf : ({ bar with probeMode := true } : PciBar β).isConfigured = true := hconfigured
  rw [hconf]
  rfl

/-- An address that the mask of the bridge keeps whole reads back. -/
theorem program_reads (honce : Once br) {bar : PciBar β} (h : SizedBar br id bar) {value : U32}
    (hplace : MayBePlaced br id bar value) (hvalue : value ≠ 0xFFFFFFFF)
    (hmask : value &&& kPciBarMemoryAddressMask = addressIn bar value) :
    ReadsBack br id value (addressIn bar value ||| bar.flags) := by
  have hconfigured := isConfigured_of_sized h
  obtain ⟨k, -, hk, hsize⟩ := h.size
  have hkept : addressIn bar value &&& bar.addressMask = addressIn bar value := by
    rw [addressIn, BitVec.and_assoc, BitVec.and_self]
  obtain ⟨br', hrun, hbar⟩ := programBar_places honce h.at_ hconfigured
    (aligned_inSpace hk hsize hplace.aligned) hplace.aligned hkept hplace.uncontested
  refine ⟨br', ?_, ?_⟩
  · rw [writeConfig_address hvalue, hmask]
    exact hrun
  · rw [readConfig_bar hbar, read_placed hconfigured, hkept]

/-- Ones read back as the address they are, where that is an aligned one. -/
theorem ones_read {bar : PciBar β} (h : SizedBar br id bar)
    (hplace : MayBePlaced br id bar 0xFFFFFFFF) :
    ReadsBack br id 0xFFFFFFFF (addressIn bar 0xFFFFFFFF ||| bar.flags) := by
  have hall : addressIn bar 0xFFFFFFFF = bar.addressMask := by
    rw [addressIn]
    exact BitVec.allOnes_and
  have haligned := hplace.aligned
  rw [hall] at haligned
  have hreads := probe_reads h
  rw [not_and_of_and_eq_zero haligned] at hreads
  rw [hall]
  exact hreads

/-- A register of ports reads back what the mask of the bridge has left of the address. -/
theorem masked_of_reads {bar : PciBar β} (h : SizedBar br id bar) (hio : bar.isIo = true)
    {value : U32} (hvalue : value ≠ 0xFFFFFFFF)
    (hreads : ReadsBack br id value (addressIn bar value ||| bar.flags)) :
    addressIn bar value &&& 0xF = 0 := by
  have hconfigured := isConfigured_of_sized h
  obtain ⟨br', hrun, hread⟩ := hreads
  rw [writeConfig_address hvalue] at hrun
  rw [readConfig_bar (placed_of_programBar h.at_ hconfigured hrun), read_placed hconfigured,
    Except.ok.injEq] at hread
  have hmask : bar.addressMask = kPciBarIoAddressMask := if_pos hio
  have hflags : bar.flags = kPciBarIoFlag := if_pos hio
  rw [addressIn] at hread ⊢
  rw [hmask] at hread ⊢
  rw [hflags] at hread
  apply (memoryMask_eq_iff value).1
  have hlow := congrArg (· &&& kPciBarIoAddressMask) hread
  simp only [BitVec.and_or_distrib_right] at hlow
  have hflag : kPciBarIoFlag &&& kPciBarIoAddressMask = 0#32 := rfl
  have hboth : kPciBarMemoryAddressMask &&& kPciBarIoAddressMask = kPciBarMemoryAddressMask := rfl
  simp only [hflag, BitVec.or_zero, BitVec.and_assoc, BitVec.and_self, hboth] at hlow
  exact hlow

/-- **The protocol of base address registers**: in every reachable bridge the size mask reads back,
and so does an address that may be programmed, unless the register is one of ports and the address
is no multiple of sixteen. -/
theorem bar_protocol_iff (hreachable : ReachableBridge br) {bar : PciBar β}
    (hsized : SizedBar br id bar) :
    ReadsBack br id 0xFFFFFFFF ((~~~(bar.size - 1) &&& bar.addressMask) ||| bar.flags) ∧
      ∀ {value : U32}, MayBePlaced br id bar value →
        (BarProtocol br id bar value ↔
          bar.isIo = false ∨ addressIn bar value &&& 0xF = 0 ∨ value = 0xFFFFFFFF) := by
  refine ⟨probe_reads hsized, ?_⟩
  intro value hplace
  by_cases hvalue : value = 0xFFFFFFFF
  · subst hvalue
    exact ⟨fun _ => .inr (.inr rfl), fun _ => ⟨probe_reads hsized, ones_read hsized hplace⟩⟩
  · have honce := once_of_reachable hreachable
    cases hio : bar.isIo with
    | false =>
      have hmask : value &&& kPciBarMemoryAddressMask = addressIn bar value := by
        rw [addressIn, PciBar.addressMask, hio]
        rfl
      exact ⟨fun _ => .inl rfl,
        fun _ => ⟨probe_reads hsized, program_reads honce hsized hplace hvalue hmask⟩⟩
    | true =>
      have hports : addressIn bar value = value &&& kPciBarIoAddressMask := by
        rw [addressIn, PciBar.addressMask, hio]
        rfl
      constructor
      · intro h
        exact .inr (.inl (masked_of_reads hsized hio hvalue h.program))
      · rintro (hmemory | hlow | hones)
        · cases hmemory
        · refine ⟨probe_reads hsized, program_reads honce hsized hplace hvalue ?_⟩
          rw [hports] at hlow ⊢
          exact (memoryMask_eq_iff value).2 hlow
        · exact absurd hones hvalue

/-! ## A register of memory and one of ports -/

/-- Where nothing is active or mapped, nothing is in the way. -/
theorem uncontested_of_idle
    (hbars : ∀ dev ∈ br.registry.devices, ∀ i, (dev.configHeader.bars i).isActive = false)
    (hbus : br.bus.mappings = []) (id : BarId) (span : Span) : Uncontested br id span where
  bars := by
    intro id' bar hbar hactive
    obtain ⟨dev, hdev, rfl⟩ := exists_device hbar
    rw [hbars dev (List.mem_of_find?_eq_some hdev)] at hactive
    cases hactive
  mappings := by
    rw [hbus]
    intro m hm
    cases hm

section

/-- The registers are named by numerals. -/
local instance neZero_bars : NeZero 6 := ⟨by decide⟩

/-- The header of a device with memory that may be prefetched, and four ports. -/
def memoryAndPorts : PciConfigHeader Unit :=
  (PciConfigHeader.initial.configureBar 0 0x1000 false true (some ())).configureBar 1 4 true false
    (some ())

/-- One bus address is listed once. -/
theorem oneAddress_nodup : ([⟨0, 0, 0⟩] : List PciBdf).Nodup := List.nodup_singleton _

/-- A bridge with this device only. -/
def portsBridge : PciBusBridge Unit where
  bus := { mappings := [], sized := noMappings_sized, apart := noMappings_apart }
  registry := { devices := [⟨⟨0, 0, 0⟩, memoryAndPorts⟩], distinct := oneAddress_nodup }

/-- The bridge after the memory was sized. -/
def sizedBridge : PciBusBridge Unit :=
  PciCall.next portsBridge (.writeConfig ⟨⟨0, 0, 0⟩, 0x10, .dword, 0xFFFFFFFF⟩)

/-- No BAR of the example bridge is active. -/
theorem sizedBridge_idle :
    ∀ dev ∈ sizedBridge.registry.devices, ∀ i, (dev.configHeader.bars i).isActive = false := by
  decide +kernel

/-- The register of the memory, as the probe has left it. -/
def sizedMemory : PciBar Unit := { memoryAndPorts.bars 0 with probeMode := true }

end

/-- The memory BAR of the example bridge is sized. -/
theorem sizedMemory_sized : SizedBar sizedBridge ⟨⟨0, 0, 0⟩, 0⟩ sizedMemory where
  at_ := rfl
  size := ⟨12, by decide, by decide, by decide⟩

/-- The memory BAR of the example bridge may be placed at `0x20000008`. -/
theorem sizedMemory_placed : MayBePlaced sizedBridge ⟨⟨0, 0, 0⟩, 0⟩ sizedMemory 0x20000008 where
  aligned := by decide
  uncontested := uncontested_of_idle sizedBridge_idle rfl _ _

/-- The memory is programmed after it was sized, with the prefetch flag in the written value. -/
theorem bar_protocol_prefetchable :
    BarProtocol sizedBridge ⟨⟨0, 0, 0⟩, 0⟩ sizedMemory 0x20000008 :=
  ((bar_protocol_iff (.called _ (.created _ _)) sizedMemory_sized).2 sizedMemory_placed).2 (.inl rfl)

/-- Four ports at an address that is no multiple of sixteen do not read back. -/
theorem ports_not_read_back :
    ¬ ∀ (br : PciBusBridge Unit) (id : BarId) (bar : PciBar Unit) (value : U32),
      ReachableBridge br → SizedBar br id bar → MayBePlaced br id bar value →
        BarProtocol br id bar value := by
  intro h
  have hsized : SizedBar portsBridge ⟨⟨0, 0, 0⟩, 1⟩ (memoryAndPorts.bars 1) :=
    ⟨rfl, 2, by decide, by decide, by decide⟩
  have hidle : ∀ dev ∈ portsBridge.registry.devices, ∀ i,
      (dev.configHeader.bars i).isActive = false := by
    decide +kernel
  have hplace : MayBePlaced portsBridge ⟨⟨0, 0, 0⟩, 1⟩ (memoryAndPorts.bars 1) 0x1005 :=
    ⟨by decide, uncontested_of_idle hidle rfl _ _⟩
  obtain ⟨br', hrun, hread⟩ := (h portsBridge _ _ 0x1005 (.created _ _) hsized hplace).program
  have hstored : (stateAfter ((writeConfig ⟨0, 0, 0⟩ (barOffset 1) .dword 0x1005).run
      portsBridge)).readConfig ⟨0, 0, 0⟩ (barOffset 1) .dword = .ok 0x1001 := by
    rfl
  rw [show stateAfter ((writeConfig ⟨0, 0, 0⟩ (barOffset 1) .dword 0x1005).run portsBridge) = br'
    from congrArg stateAfter hrun] at hstored
  rw [hstored, Except.ok.injEq] at hread
  exact absurd hread (by decide)

end Xblob.Analysis
