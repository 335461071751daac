import Xblob.Computation.Fallible
import Xblob.Model.Bus.Bus
import Xblob.Model.Pci.ConfigHeader

/-!
# The PCI bus bridge

The bridge maps the memory ranges of the registered devices on the bus.  It keeps a list of its
own of the ranges it has mapped, beside the registers of the devices and the mappings of the bus.
-/

set_option autoImplicit false

namespace Xblob.Pci

open Xblob.Computation

variable {β : Type}

/-! ## The registry -/

/-- `PciDevice`. SOURCE: libs/pci/include/xblob/pci/pci_device.hpp:10-24 -/
structure PciDevice (β : Type) where
  bdf : PciBdf
  configHeader : PciConfigHeader β

/-- `PciRegistry`: no two devices have one address.
SOURCE: libs/pci/include/xblob/pci/pci_registry.hpp:15-32 -/
structure PciRegistry (β : Type) where
  devices : List (PciDevice β) := []
  distinct : (devices.map PciDevice.bdf).Nodup := by simp

namespace PciRegistry

/-- `PciRegistry::FindDevice`. SOURCE: libs/pci/src/pci_registry.cpp:26-32 -/
def findDevice (r : PciRegistry β) (bdf : PciBdf) : Option (PciDevice β) :=
  r.devices.find? fun dev => dev.bdf = bdf

/-- Storing the header of a device. -/
def setHeader (r : PciRegistry β) (bdf : PciBdf) (h : PciConfigHeader β) : PciRegistry β where
  devices := updateAt PciDevice.bdf bdf (fun dev => { dev with configHeader := h }) r.devices
  distinct := by
    have hkeys : (updateAt PciDevice.bdf bdf (fun dev => { dev with configHeader := h })
        r.devices).map PciDevice.bdf = r.devices.map PciDevice.bdf := map_key_updateAt fun _ => rfl
    rw [hkeys]
    exact r.distinct

/-- `PciRegistry::ReadConfig`. SOURCE: libs/pci/src/pci_registry.cpp:43-68 -/
def readConfig (r : PciRegistry β) (bdf : PciBdf) (offset : U8) (width : PciAccessWidth) :
    Result U32 :=
  if width = .word ∧ offset.toNat % 2 ≠ 0 then
    .error { code := .invalidArgument, message := "Misaligned 16-bit PCI configuration read"
             offset := offset.setWidth 64 }
  else if width = .dword ∧ offset.toNat % 4 ≠ 0 then
    .error { code := .invalidArgument, message := "Misaligned 32-bit PCI configuration read"
             offset := offset.setWidth 64 }
  else
    match r.findDevice bdf with
    | none =>
      match width with
      | .byte => .ok 0xFF
      | .word => .ok 0xFFFF
      | .dword => .ok 0xFFFFFFFF
    | some dev => dev.configHeader.read offset width

/-- `PciRegistry::WriteConfig`. SOURCE: libs/pci/src/pci_registry.cpp:70-88 -/
def writeConfig (r : PciRegistry β) (bdf : PciBdf) (offset : U8) (width : PciAccessWidth)
    (value : U32) : Result (PciRegistry β) :=
  if width = .word ∧ offset.toNat % 2 ≠ 0 then
    .error { code := .invalidArgument, message := "Misaligned 16-bit PCI configuration write"
             offset := offset.setWidth 64 }
  else if width = .dword ∧ offset.toNat % 4 ≠ 0 then
    .error { code := .invalidArgument, message := "Misaligned 32-bit PCI configuration write"
             offset := offset.setWidth 64 }
  else
    match r.findDevice bdf with
    | none => .ok r
    | some dev =>
      match dev.configHeader.write offset width value with
      | .error e => .error e
      | .ok h => .ok (r.setHeader bdf h)

end PciRegistry

/-! ## The bridge -/

/-- Which base address register of which device. -/
structure BarId where
  bdf : PciBdf
  barIdx : Fin 6
  deriving DecidableEq

/-- `PciBusBridge::ActiveMapping`.
SOURCE: libs/pci/include/xblob/pci/pci_bus_bridge.hpp:29-34 -/
structure ActiveMapping where
  id : BarId
  base : GuestAddr
  size : GuestSize
  deriving DecidableEq

/-- `PciBusBridge`, with the bus and the registry it refers to.
SOURCE: libs/pci/include/xblob/pci/pci_bus_bridge.hpp:13-44 -/
structure PciBusBridge (β : Type) where
  bus : Bus β := {}
  registry : PciRegistry β := {}
  activeMappings : List ActiveMapping := []

namespace PciBusBridge

/-- `PciBusBridge::HasCollision`. SOURCE: libs/pci/src/pci_bus_bridge.cpp:18-58 -/
def hasCollision (br : PciBusBridge β) (id : BarId) (base : GuestAddr) (size : GuestSize) : Bool :=
  if size = 0 then false
  else
    (br.registry.devices.any fun dev => (List.finRange 6).any fun i =>
      let otherBar := dev.configHeader.bars i
      !(BarId.mk dev.bdf i = id) && otherBar.isActive &&
        (base.toNat < otherBar.baseAddress.toNat + otherBar.size.toNat ∧
          otherBar.baseAddress.toNat < base.toNat + size.toNat)) ||
    br.bus.mappings.any fun mapping =>
      !(br.activeMappings.any fun act => act.id = id ∧ act.base = mapping.base) &&
        mapping.overlaps base size

/-- `PciBusBridge::UnmapBar`: the entry goes, whatever the bus answers.
SOURCE: libs/pci/src/pci_bus_bridge.cpp:60-70 -/
def unmapBar (id : BarId) : EStateM Error (PciBusBridge β) Unit := do
  let br ← get
  match br.activeMappings.find? fun act => act.id = id with
  | none => pure ()
  | some act =>
    let rest := br.activeMappings.eraseP fun act => act.id = id
    match br.bus.unmapDevice act.base with
    | .ok bus => set { br with bus := bus, activeMappings := rest }
    | .error e =>
      set { br with activeMappings := rest }
      throw e

/-- The end of `PciBusBridge::MapBar`.
SOURCE: libs/pci/src/pci_bus_bridge.cpp:96-100 -/
def mapDevice (id : BarId) (bar : PciBar β) : EStateM Error (PciBusBridge β) Unit := do
  let br ← get
  match br.bus.mapDevice bar.baseAddress bar.size bar.device with
  | .ok bus =>
    set { br with
      bus := bus
      activeMappings := br.activeMappings ++ [ActiveMapping.mk id bar.baseAddress bar.size] }
  | .error e => throw e

/-- `PciBusBridge::MapBar`. SOURCE: libs/pci/src/pci_bus_bridge.cpp:72-101 -/
def mapBar (id : BarId) : EStateM Error (PciBusBridge β) Unit := do
  let br ← get
  match br.registry.findDevice id.bdf with
  | none => throw { code := .invalidArgument, message := "PCI device not found for MapBar" }
  | some dev =>
    let bar := dev.configHeader.bars id.barIdx
    if !bar.isActive || bar.device.isNone || bar.isIo then
      pure ()
    else if !dev.configHeader.isMemorySpaceEnabled then
      pure ()
    else
      match br.activeMappings.find? fun act => act.id = id with
      | some act =>
        if act.base = bar.baseAddress ∧ act.size = bar.size then
          pure ()
        else
          regardless (unmapBar id)
          mapDevice id bar
      | none => mapDevice id bar

/-- `MapBar` or `UnmapBar` for each of a list of base address registers of a device. -/
def forBars (f : BarId → EStateM Error (PciBusBridge β) Unit) (bdf : PciBdf) :
    List (Fin 6) → EStateM Error (PciBusBridge β) Unit
  | [] => pure ()
  | i :: is => do
    regardless (f ⟨bdf, i⟩)
    forBars f bdf is

/-- Storing one base address register of a device. -/
def setBar (id : BarId) (dev : PciDevice β) (bar : PciBar β) :
    EStateM Error (PciBusBridge β) Unit :=
  modify fun br => { br with
    registry := br.registry.setHeader id.bdf (dev.configHeader.setBar id.barIdx bar) }

/-- `bar.ProgramAddress`, on the register where it is. -/
def programAddress (id : BarId) (addr : GuestAddr) : EStateM Error (PciBusBridge β) Unit := do
  let br ← get
  match br.registry.findDevice id.bdf with
  | none => pure ()
  | some dev =>
    match (dev.configHeader.bars id.barIdx).programAddress addr with
    | .ok bar => setBar id dev bar
    | .error e => throw e

/-- The rollback after a failed `ProgramAddress`.
SOURCE: libs/pci/src/pci_bus_bridge.cpp:144-151 -/
def undoProgram (id : BarId) (oldAddr : GuestAddr) (restorable : Bool) (e : Error) :
    EStateM Error (PciBusBridge β) Unit := do
  onlyIf restorable (regardless (programAddress id oldAddr))
  onlyIf restorable (regardless (mapBar id))
  throw e

/-- The rollback after a failed `MapBar`.
SOURCE: libs/pci/src/pci_bus_bridge.cpp:156-163 -/
def undoMap (id : BarId) (oldAddr : GuestAddr) (restorable : Bool) (e : Error) :
    EStateM Error (PciBusBridge β) Unit := do
  regardless (programAddress id oldAddr)
  onlyIf restorable (regardless (mapBar id))
  throw e

/-- The part of `PciBusBridge::ProgramBar` after its checks.
SOURCE: libs/pci/src/pci_bus_bridge.cpp:132-166 -/
def moveBar (id : BarId) (dev : PciDevice β) (newAddr : GuestAddr) :
    EStateM Error (PciBusBridge β) Unit := do
  let br ← get
  let bar := dev.configHeader.bars id.barIdx
  let wasMapped := br.activeMappings.any fun act => act.id = id
  let restorable := wasMapped && bar.isActive
  onlyIf wasMapped (regardless (unmapBar id))
  tryCatch (programAddress id newAddr) (undoProgram id bar.baseAddress restorable)
  onlyIf (dev.configHeader.isMemorySpaceEnabled && bar.device.isSome && !bar.isIo)
    (tryCatch (mapBar id) (undoMap id bar.baseAddress restorable))

/-- `PciBusBridge::ProgramBar`. SOURCE: libs/pci/src/pci_bus_bridge.cpp:103-167 -/
def programBar (bdf : PciBdf) (barIdx : U8) (newAddr : GuestAddr) :
    EStateM Error (PciBusBridge β) Unit := do
  let br ← get
  match br.registry.findDevice bdf with
  | none => throw { code := .invalidArgument, message := "PCI device not found" }
  | some dev =>
    if h : barIdx.toNat < 6 then
      let id : BarId := ⟨bdf, ⟨barIdx.toNat, h⟩⟩
      let bar := dev.configHeader.bars id.barIdx
      if !bar.isConfigured then
        throw { code := .invalidState, message := "PCI BAR not configured" }
      else
        ofExcept (bar.checkAddress newAddr "BAR address misaligned")
        if br.hasCollision id newAddr bar.size then
          throw { code := .regionOverlap
                  message := "BAR address range collides with existing region"
                  offset := newAddr.setWidth 64 }
        else
          moveBar id dev newAddr
    else
      throw { code := .outOfBounds, message := "PCI BAR index out of bounds" }

/-- `PciBusBridge::SetMemorySpaceEnabled`.
SOURCE: libs/pci/src/pci_bus_bridge.cpp:169-194 -/
def setMemorySpaceEnabled (bdf : PciBdf) (enabled : Bool) :
    EStateM Error (PciBusBridge β) Unit := do
  let br ← get
  match br.registry.findDevice bdf with
  | none => throw { code := .invalidArgument, message := "PCI device not found" }
  | some dev =>
    let cmd := dev.configHeader.command
    let cmd := if enabled then cmd ||| kPciCommandMemorySpace else cmd &&& ~~~kPciCommandMemorySpace
    match dev.configHeader.write kPciCommandOffset .word (cmd.setWidth 32) with
    | .ok h => set { br with registry := br.registry.setHeader bdf h }
    | .error _ => pure ()
    forBars (if enabled then mapBar else unmapBar) bdf (List.finRange 6)

/-- `PciBusBridge::SyncDevice`. SOURCE: libs/pci/src/pci_bus_bridge.cpp:196-211 -/
def syncDevice (bdf : PciBdf) : EStateM Error (PciBusBridge β) Unit := do
  let br ← get
  match br.registry.findDevice bdf with
  | none => pure ()
  | some dev =>
    forBars (if dev.configHeader.isMemorySpaceEnabled then mapBar else unmapBar) bdf
      (List.finRange 6)

/-- `PciBusBridge::ReadConfig`. SOURCE: libs/pci/src/pci_bus_bridge.cpp:220-222 -/
def readConfig (br : PciBusBridge β) (bdf : PciBdf) (offset : U8) (width : PciAccessWidth) :
    Result U32 :=
  br.registry.readConfig bdf offset width

/-- `PciRegistry::WriteConfig`, on the registry of the bridge. -/
def registryWrite (bdf : PciBdf) (offset : U8) (width : PciAccessWidth) (value : U32) :
    EStateM Error (PciBusBridge β) Unit := do
  let br ← get
  match br.registry.writeConfig bdf offset width value with
  | .ok registry => set { br with registry := registry }
  | .error e => throw e

/-- `PciBusBridge::WriteConfig`. SOURCE: libs/pci/src/pci_bus_bridge.cpp:224-249 -/
def writeConfig (bdf : PciBdf) (offset : U8) (width : PciAccessWidth) (value : U32) :
    EStateM Error (PciBusBridge β) Unit :=
  match PciConfigHeader.barOf offset with
  | some (i, byteOffset) =>
    if value = 0xFFFFFFFF then
      registryWrite bdf offset width value
    else if width = .dword ∧ byteOffset = 0 then
      programBar bdf (BitVec.ofNat 8 i) (value &&& kPciBarMemoryAddressMask)
    else do
      registryWrite bdf offset width value
      regardless (syncDevice bdf)
  | none =>
    if offset = kPciCommandOffset ∧ width = .word then
      setMemorySpaceEnabled bdf (value.setWidth 16 &&& kPciCommandMemorySpace ≠ 0)
    else do
      registryWrite bdf offset width value
      regardless (syncDevice bdf)

end PciBusBridge

end Xblob.Pci
