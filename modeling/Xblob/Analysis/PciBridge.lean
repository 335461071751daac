import Xblob.Interface.PciRules

/-!
# What the calls of the bridge leave alone

Mapping and unmapping change the bus and the list of the bridge; programming a base address
register changes no byte of the configuration space.
-/

set_option autoImplicit false

namespace Xblob.Analysis

open Xblob.Computation Xblob.Interface Xblob.Pci Xblob.Pci.PciBusBridge

variable {β : Type}

/-! ## The registry -/

/-- Looking up a device after a header was stored. -/
theorem findDevice_setHeader (r : PciRegistry β) (bdf bdf' : PciBdf) (h : PciConfigHeader β) :
    (r.setHeader bdf h).findDevice bdf' =
      if bdf' = bdf then (r.findDevice bdf').map fun dev => { dev with configHeader := h }
      else r.findDevice bdf' :=
  find?_updateAt (f := fun dev : PciDevice β => { dev with configHeader := h }) (fun _ => rfl) bdf'

/-- Who is found has the address that was looked up. -/
theorem findDevice_bdf {r : PciRegistry β} {bdf : PciBdf} {dev : PciDevice β}
    (h : r.findDevice bdf = some dev) : dev.bdf = bdf := by
  simpa using List.find?_some h

/-! ## What is kept -/

/-- Unmapping leaves the registry. -/
theorem keeps_unmapBar (id : BarId) (br : PciBusBridge β) :
    Keeps (fun br => br.registry) (unmapBar id) br := by
  unfold unmapBar
  refine ((quiet_get br).keeps _).bind ?_
  rintro _ _ ⟨⟩
  dsimp only
  split
  · exact (quiet_pure _ br).keeps _
  · split
    · exact keeps_set rfl
    · exact Keeps.bind (keeps_set rfl) fun _ s' h => by
        cases h
        exact (quiet_throw _ _).keeps _

/-- Mapping into the bus leaves the registry. -/
theorem keeps_mapDevice (id : BarId) (bar : PciBar β) (br : PciBusBridge β) :
    Keeps (fun br => br.registry) (mapDevice id bar) br := by
  unfold mapDevice
  refine ((quiet_get br).keeps _).bind ?_
  rintro _ _ ⟨⟩
  split
  · exact keeps_set rfl
  · exact (quiet_throw _ br).keeps _

/-- Mapping leaves the registry. -/
theorem keeps_mapBar (id : BarId) (br : PciBusBridge β) :
    Keeps (fun br => br.registry) (mapBar id) br := by
  unfold mapBar
  refine ((quiet_get br).keeps _).bind ?_
  rintro _ _ ⟨⟩
  split
  · exact (quiet_throw _ br).keeps _
  · dsimp only
    split_ifs
    · exact (quiet_pure _ br).keeps _
    · exact (quiet_pure _ br).keeps _
    · split
      · split_ifs
        · exact (quiet_pure _ br).keeps _
        · exact (keeps_unmapBar id br).regardless.bind fun _ s' _ => keeps_mapDevice id _ s'
      · exact keeps_mapDevice id _ br

/-- A walk over the BARs leaves the registry if each step does. -/
theorem keeps_forBars {f : BarId → EStateM Error (PciBusBridge β) Unit}
    (hf : ∀ id br, Keeps (fun br => br.registry) (f id) br) (bdf : PciBdf) (is : List (Fin 6))
    (br : PciBusBridge β) : Keeps (fun br => br.registry) (forBars f bdf is) br := by
  induction is generalizing br with
  | nil => exact (quiet_pure _ br).keeps _
  | cons i is ih => exact (hf _ br).regardless.bind fun _ s' _ => ih s'

/-- Synchronising a device leaves the registry. -/
theorem keeps_syncDevice (bdf : PciBdf) (br : PciBusBridge β) :
    Keeps (fun br => br.registry) (syncDevice bdf) br := by
  unfold syncDevice
  refine ((quiet_get br).keeps _).bind ?_
  rintro _ _ ⟨⟩
  split
  · exact (quiet_pure _ br).keeps _
  · split_ifs
    · exact keeps_forBars keeps_mapBar bdf _ br
    · exact keeps_forBars keeps_unmapBar bdf _ br

/-! ## The bytes of the headers -/

/-- The bytes of the configuration space of every device. -/
def rawOf (br : PciBusBridge β) (bdf : PciBdf) : Option (U8 → U8) :=
  (headerOf br bdf).map PciConfigHeader.rawBytes

/-- The headers after one is set. -/
theorem headerOf_setHeader (br : PciBusBridge β) (bdf bdf' : PciBdf) (h : PciConfigHeader β) :
    headerOf { br with registry := br.registry.setHeader bdf h } bdf' =
      if bdf' = bdf then (headerOf br bdf').map fun _ => h else headerOf br bdf' := by
  simp only [headerOf, findDevice_setHeader]
  split
  · rw [Option.map_map, Option.map_map]
    rfl
  · rfl

/-- Storing a header with the same bytes. -/
theorem rawOf_setHeader (br : PciBusBridge β) {bdf : PciBdf} {dev : PciDevice β}
    (hdev : br.registry.findDevice bdf = some dev) {h : PciConfigHeader β}
    (hraw : h.rawBytes = dev.configHeader.rawBytes) :
    rawOf { br with registry := br.registry.setHeader bdf h } = rawOf br := by
  funext bdf'
  rw [rawOf, headerOf_setHeader]
  split
  next hbdf =>
    subst hbdf
    simp [rawOf, headerOf, hdev, hraw]
  next => rfl

/-- What keeps the registry keeps the bytes. -/
theorem keeps_rawOf {f : EStateM Error (PciBusBridge β) Unit} {br : PciBusBridge β}
    (h : Keeps (fun br => br.registry) f br) : Keeps rawOf f br := by
  have hregistry : (stateAfter (f.run br)).registry = br.registry := h
  unfold Keeps rawOf headerOf
  rw [hregistry]

/-- Programming an address leaves the raw registers. -/
theorem keeps_programAddress (id : BarId) (addr : GuestAddr) (br : PciBusBridge β) :
    Keeps rawOf (programAddress id addr) br := by
  unfold programAddress
  refine ((quiet_get br).keeps _).bind ?_
  rintro _ _ ⟨⟩
  split
  · exact (quiet_pure _ br).keeps _
  next dev hdev =>
    split
    · exact rawOf_setHeader br hdev rfl
    · exact (quiet_throw _ br).keeps _

/-- Moving a BAR leaves the raw registers. -/
theorem keeps_moveBar (id : BarId) (dev : PciDevice β) (newAddr : GuestAddr)
    (br : PciBusBridge β) : Keeps rawOf (moveBar id dev newAddr) br := by
  have hmap : ∀ br : PciBusBridge β, Keeps rawOf (mapBar id) br :=
    fun br => keeps_rawOf (keeps_mapBar id br)
  unfold moveBar
  refine ((quiet_get br).keeps _).bind ?_
  rintro _ _ ⟨⟩
  have hunmap : Keeps rawOf (regardless (unmapBar id)) br := keeps_rawOf (keeps_unmapBar id br)
  refine (hunmap.onlyIf _).bind fun _ br₁ _ => ?_
  refine ((keeps_programAddress id newAddr br₁).tryCatch fun e br₂ _ => ?_).bind fun _ br₂ _ => ?_
  · refine ((keeps_programAddress id _ br₂).regardless.onlyIf _).bind fun _ br₃ _ => ?_
    refine ((hmap br₃).regardless.onlyIf _).bind fun _ br₄ _ => ?_
    exact (quiet_throw e br₄).keeps _
  · refine ((hmap br₂).tryCatch fun e br₃ _ => ?_).onlyIf _
    refine (keeps_programAddress id _ br₃).regardless.bind fun _ br₄ _ => ?_
    refine ((hmap br₄).regardless.onlyIf _).bind fun _ br₅ _ => ?_
    exact (quiet_throw e br₅).keeps _

/-- Programming a BAR leaves the raw registers. -/
theorem keeps_programBar (bdf : PciBdf) (barIdx : U8) (newAddr : GuestAddr)
    (br : PciBusBridge β) : Keeps rawOf (programBar bdf barIdx newAddr) br := by
  unfold programBar
  refine ((quiet_get br).keeps _).bind ?_
  rintro _ _ ⟨⟩
  split
  · exact (quiet_throw _ br).keeps _
  · split
    · dsimp only
      split_ifs
      · exact (quiet_throw _ br).keeps _
      · refine ((quiet_ofExcept _ br).keeps _).bind ?_
        intro _ br' _
        exact (quiet_throw _ br').keeps _
      · refine ((quiet_ofExcept _ br).keeps _).bind ?_
        intro _ br' _
        exact keeps_moveBar _ _ newAddr br'
    · exact (quiet_throw _ br).keeps _

end Xblob.Analysis
