import Xblob.Computation.Runs
import Xblob.Model.Pci.BusBridge

/-!
# PCI functions and bridge

What writes to the configuration space of a function are to leave, and what the bridge is to map.
-/

set_option autoImplicit false

namespace Xblob.Interface

open Xblob.Computation Xblob.Pci Xblob.Pci.PciConfigHeader

/-!
## The access rules of PCI registers

What a configuration write through the bridge may change, register by register.
-/

section PciRules

variable {β : Type}

/-- The header of a registered device. -/
def headerOf (br : PciBusBridge β) (bdf : PciBdf) : Option (PciConfigHeader β) :=
  (br.registry.findDevice bdf).map PciDevice.configHeader

/-- A configuration write. -/
structure ConfigWrite where
  bdf : PciBdf
  offset : U8
  width : PciAccessWidth
  value : U32

namespace ConfigWrite

/-- The offset is a multiple of the width. -/
def Aligned (w : ConfigWrite) : Prop := w.offset.toNat % w.width.bytes = 0

/-- Being aligned is decidable. -/
instance (w : ConfigWrite) : Decidable w.Aligned := inferInstanceAs (Decidable (_ = _))

/-- The byte that is written to a register of one byte, if the write covers it. -/
def byteAt (w : ConfigWrite) (o : U8) : Option U8 :=
  if w.offset.toNat ≤ o.toNat ∧ o.toNat < w.offset.toNat + w.width.bytes then
    some (byteOf w.value (o.toNat - w.offset.toNat))
  else none

/-- The bridge after the write. -/
def next (br : PciBusBridge β) (w : ConfigWrite) : PciBusBridge β :=
  stateAfter ((PciBusBridge.writeConfig w.bdf w.offset w.width w.value).run br)

end ConfigWrite

/-- The bytes of a header that is written to. -/
def rawWritten (h : PciConfigHeader β) (offset : U8) (width : PciAccessWidth) (value : U32) :
    U8 → U8 :=
  match h.write offset width value with
  | .ok h' => h'.rawBytes
  | .error _ => h.rawBytes

/-- The value the bridge writes to the command register for a word that is written to it. -/
def commandWord (h : PciConfigHeader β) (value : U32) : U16 :=
  if value.setWidth 16 &&& kPciCommandMemorySpace ≠ 0 then h.command ||| kPciCommandMemorySpace
  else h.command &&& ~~~kPciCommandMemorySpace

/-- The bytes of a header that is written to through the bridge. -/
def ConfigWrite.bytesAfter (w : ConfigWrite) (h : PciConfigHeader β) : U8 → U8 :=
  if w.offset = kPciCommandOffset ∧ w.width = .word then
    rawWritten h kPciCommandOffset .word ((commandWord h w.value).setWidth 32)
  else rawWritten h w.offset w.width w.value

/-- The bridge after a sequence of writes. -/
def afterWrites (br : PciBusBridge β) (ws : List ConfigWrite) : PciBusBridge β :=
  ws.foldl ConfigWrite.next br

/-- Vendor, device, revision, class code, header type and subsystem. -/
def readOnlyOffsets : List U8 :=
  [0x00, 0x01, 0x02, 0x03, 0x08, 0x09, 0x0A, 0x0B, 0x0E, 0x2C, 0x2D, 0x2E, 0x2F]

/-- The read-only registers are the same. -/
def ReadOnlyKept (h h' : PciConfigHeader β) : Prop :=
  ∀ o ∈ readOnlyOffsets, h'.rawBytes o = h.rawBytes o

/-- Bits change from one to zero only, where the mask allows it and a one is written. -/
def ClearedByOnes (mask written before after : U8) : Prop :=
  ∀ i, after.getLsbD i ≠ before.getLsbD i →
    mask.getLsbD i ∧ written.getLsbD i ∧ after.getLsbD i = false

/-- The two bytes of the status register change by writing ones to their write-1-to-clear bits. -/
def StatusKept (w : ConfigWrite) (h h' : PciConfigHeader β) : Prop :=
  ClearedByOnes (byteOf w1cMask 0) ((w.byteAt 0x06).getD 0) (h.rawBytes 0x06) (h'.rawBytes 0x06) ∧
  ClearedByOnes (byteOf w1cMask 1) ((w.byteAt 0x07).getD 0) (h.rawBytes 0x07) (h'.rawBytes 0x07)

/-- Every byte of the command register that is written is read back. -/
def CommandReadBack (w : ConfigWrite) (br' : PciBusBridge β) : Prop :=
  ∀ o ∈ [(0x04 : U8), 0x05], ∀ b, w.byteAt o = some b →
    br'.readConfig w.bdf o .byte = .ok (b.setWidth 32)

/-- The access rules hold in a sequence of writes: the read-only registers of every device stay
what they were at first, and each write keeps to the status and command rules. -/
structure AccessRules (br : PciBusBridge β) (ws : List ConfigWrite) : Prop where
  readOnly : ∀ done, done <+: ws → ∀ bdf h h', headerOf br bdf = some h →
    headerOf (afterWrites br done) bdf = some h' → ReadOnlyKept h h'
  status : ∀ done w, done ++ [w] <+: ws → ∀ bdf h h', headerOf (afterWrites br done) bdf = some h →
    headerOf (afterWrites br (done ++ [w])) bdf = some h' →
    if bdf = w.bdf then StatusKept w h h'
    else h'.rawBytes 0x06 = h.rawBytes 0x06 ∧ h'.rawBytes 0x07 = h.rawBytes 0x07
  command : ∀ done w, done ++ [w] <+: ws → ∀ h, headerOf (afterWrites br done) w.bdf = some h →
    CommandReadBack w (afterWrites br (done ++ [w]))

/-- The write is none of the four that go wrong: a dword over the header type or over the status
register, a byte of the status register, each with other bits than are there, and a word to the
command register that changes more than the memory space bit. -/
def ConfigWrite.Harmless (w : ConfigWrite) (h : PciConfigHeader β) : Prop :=
  (w.offset = 0x0C → w.width = .dword → byteOf w.value 2 = h.rawBytes 0x0E) ∧
  (w.offset = 0x04 → w.width = .dword →
    byteOf w.value 2 = h.rawBytes 0x06 ∧ byteOf w.value 3 = h.rawBytes 0x07) ∧
  (w.width = .byte → w.offset = 0x06 ∨ w.offset = 0x07 →
    byteOf w.value 0 = h.rawBytes w.offset) ∧
  (w.offset = 0x04 → w.width = .word →
    w.value.setWidth 16 &&& ~~~kPciCommandMemorySpace = h.command &&& ~~~kPciCommandMemorySpace)

end PciRules

/-!
## Mappings that mirror base address registers

What the list of the bridge and the bus have to do with the base address registers of the devices,
and the calls that must keep it so.
-/

section PciMappings

variable {β : Type}

/-- A base address register of a registered device. -/
def barAt (br : PciBusBridge β) (id : BarId) : Option (PciBar β) :=
  (headerOf br id.bdf).map fun h => h.bars id.barIdx

/-- The addresses of a base address register. -/
def barSpan (bar : PciBar β) : Span := ⟨bar.baseAddress.toNat, bar.size.toNat⟩

/-- A programmed memory base address register. -/
def Programmed (br : PciBusBridge β) (id : BarId) (bar : PciBar β) : Prop :=
  barAt br id = some bar ∧ bar.isActive = true ∧ bar.isIo = false

/-- The memory space of a device is enabled. -/
def MemoryEnabled (br : PciBusBridge β) (bdf : PciBdf) : Prop :=
  ∃ h, headerOf br bdf = some h ∧ h.isMemorySpaceEnabled = true

/-- A programmed memory base address register with a device behind it, of a device whose memory
space is enabled. -/
structure Wanted (br : PciBusBridge β) (id : BarId) (bar : PciBar β) : Prop where
  programmed : Programmed br id bar
  attached : bar.device.isSome
  enabled : MemoryEnabled br id.bdf

/-- The entry of the bridge for a base address register at its current place. -/
def entryFor (id : BarId) (bar : PciBar β) : ActiveMapping := ⟨id, bar.baseAddress, bar.size⟩

/-- **The mappings mirror the base address registers.** -/
structure MappingsMirrorBars (br : PciBusBridge β) : Prop where
  disjoint : ∀ id id' bar bar', Programmed br id bar → Programmed br id' bar' → id ≠ id' →
    (barSpan bar).Apart (barSpan bar')
  once : (br.activeMappings.map ActiveMapping.id).Nodup
  exact : ∀ act, act ∈ br.activeMappings ↔ ∃ bar, Wanted br act.id bar ∧ act = entryFor act.id bar
  onBus : ∀ act ∈ br.activeMappings, ∃ bar device, barAt br act.id = some bar ∧
    bar.device = some device ∧ ⟨act.base, act.size, device⟩ ∈ br.bus.mappings

/-! ### The calls -/

/-- The calls of the bridge. -/
inductive PciCall where
  | programBar (bdf : PciBdf) (barIdx : U8) (newAddr : GuestAddr)
  | setMemorySpaceEnabled (bdf : PciBdf) (enabled : Bool)
  | writeConfig (w : ConfigWrite)
  | syncDevice (bdf : PciBdf)

namespace PciCall

/-- What a call does to the bridge. -/
def run : PciCall → EStateM Error (PciBusBridge β) Unit
  | .programBar bdf barIdx newAddr => PciBusBridge.programBar bdf barIdx newAddr
  | .setMemorySpaceEnabled bdf enabled => PciBusBridge.setMemorySpaceEnabled bdf enabled
  | .writeConfig w => PciBusBridge.writeConfig w.bdf w.offset w.width w.value
  | .syncDevice bdf => PciBusBridge.syncDevice bdf

/-- The bridge after the call. -/
def next (br : PciBusBridge β) (call : PciCall) : PciBusBridge β :=
  stateAfter ((call.run : EStateM Error (PciBusBridge β) Unit).run br)

/-- If the call returns an error, the base address registers, the list of the bridge and the bus
are what they were. -/
def ErrorsChangeNothing (br : PciBusBridge β) (call : PciCall) : Prop :=
  ∀ e br', (call.run : EStateM Error (PciBusBridge β) Unit).run br = .error e br' →
    (∀ id, barAt br' id = barAt br id) ∧ br'.activeMappings = br.activeMappings ∧ br'.bus = br.bus

end PciCall

/-- The addresses a register has at some base. -/
def spanAt (bar : PciBar β) (addr : GuestAddr) : Span := ⟨addr.toNat, bar.size.toNat⟩

/-- No mapping of the bus but the register's own overlaps the addresses. -/
def FreeOnBus (br : PciBusBridge β) (id : BarId) (span : Span) : Prop :=
  ∀ m ∈ br.bus.mappings, (¬ ∃ act ∈ br.activeMappings, act.id = id ∧ act.base = m.base) →
    m.span.Apart span

/-- A memory register may come to an address: no other programmed memory register overlaps it
there; and if it is to be mapped there, no mapping of the bus does but its own. -/
structure MayCome (br : PciBusBridge β) (id : BarId) (bar : PciBar β) (addr : GuestAddr) :
    Prop where
  bars : ∀ id' bar', Programmed br id' bar' → id' ≠ id → (spanAt bar addr).Apart (barSpan bar')
  bus : bar.device.isSome → MemoryEnabled br id.bdf → FreeOnBus br id (spanAt bar addr)

/-- The memory space of a device may be enabled: its programmed memory registers with a device
behind them overlap no mapping of the bus but their own. -/
def MayEnable (br : PciBusBridge β) (bdf : PciBdf) : Prop :=
  ∀ i bar, Programmed br ⟨bdf, i⟩ bar → bar.device.isSome → FreeOnBus br ⟨bdf, i⟩ (barSpan bar)

/-- A register takes an address: it is configured, and has the address in range and aligned. -/
structure TakesAddress (bar : PciBar β) (addr : GuestAddr) : Prop where
  configured : bar.isConfigured = true
  inRange : addr.toNat + bar.size.toNat ≤ 0x100000000
  aligned : addr &&& (bar.size - 1) = 0

/-- The write sets the bit of the memory space. -/
def ConfigWrite.SetsMemorySpace (w : ConfigWrite) : Prop :=
  ∃ b, w.byteAt kPciCommandOffset = some b ∧ b.getLsbD 1 = true

/-- Where a byte or a word makes an address in a memory register that the register takes, it may
come there; and if the value is the one of a sizing probe, after which the bridge does not sync,
and the register is to be mapped, it is there already. -/
def PartialWriteSafe (br : PciBusBridge β) (w : ConfigWrite) : Prop :=
  w.width ≠ .dword → ∀ i byteOffset bar addr, barOf w.offset = some (i, byteOffset) →
    barAt br ⟨w.bdf, i⟩ = some bar → bar.isIo = false →
    merged bar byteOffset w.width w.value ≠ 0xFFFFFFFF →
    addr = merged bar byteOffset w.width w.value &&& kPciBarMemoryAddressMask →
    TakesAddress bar addr →
    MayCome br ⟨w.bdf, i⟩ bar addr ∧
      (w.value = 0xFFFFFFFF → bar.device.isSome → MemoryEnabled br w.bdf →
        bar.isActive = true ∧ addr = bar.baseAddress)

/-- The calls that are checked where the bridge does not: `ProgramBar` checks the address before
its low bits are dropped, partial writes check nothing, and enabling a memory space does not ask
whether the mappings can be made. -/
def PciCall.Safe (br : PciBusBridge β) : PciCall → Prop
  | .programBar bdf barIdx newAddr => ∀ (h : barIdx.toNat < 6) (bar : PciBar β),
      barAt br ⟨bdf, ⟨barIdx.toNat, h⟩⟩ = some bar → bar.isIo = false → TakesAddress bar newAddr →
      br.hasCollision ⟨bdf, ⟨barIdx.toNat, h⟩⟩ newAddr bar.size = false →
      MayCome br ⟨bdf, ⟨barIdx.toNat, h⟩⟩ bar (newAddr &&& kPciBarMemoryAddressMask)
  | .setMemorySpaceEnabled bdf enabled => enabled = true → MayEnable br bdf
  | .writeConfig w => w.Aligned →
      PartialWriteSafe br w ∧ (w.SetsMemorySpace → MayEnable br w.bdf)
  | .syncDevice _ => True

/-- A bridge over a bus and registered devices, before its first call: it has mapped nothing, and
what is programmed already is in range, free of overlaps and not to be mapped yet. -/
structure Constructed (br : PciBusBridge β) : Prop where
  empty : br.activeMappings = []
  disjoint : ∀ id id' bar bar', Programmed br id bar → Programmed br id' bar' → id ≠ id' →
    (barSpan bar).Apart (barSpan bar')
  inSpace : ∀ id bar, Programmed br id bar → (barSpan bar).stop ≤ 0x100000000
  idle : ∀ id bar, ¬ Wanted br id bar

end PciMappings

/-!
## The protocol of base address registers

Guests size a register by writing ones to it, and then program it.
-/

section BarProtocol

variable {β : Type}

/-- A bridge that has mapped nothing yet, or that a call leaves; between the calls the bus and the
registered devices may be changed by others. -/
inductive ReachableBridge : PciBusBridge β → Prop
  | created (bus : Bus β) (registry : PciRegistry β) :
      ReachableBridge { bus := bus, registry := registry }
  | called {br : PciBusBridge β} (call : PciCall) :
      ReachableBridge br → ReachableBridge (call.next br)
  | changed {br : PciBusBridge β} (bus : Bus β) (registry : PciRegistry β) :
      ReachableBridge br → ReachableBridge { br with bus := bus, registry := registry }

/-- A base address register of a size that the register can hold: a power of two, and four bytes
of ports or sixteen of memory at least. -/
structure SizedBar (br : PciBusBridge β) (id : BarId) (bar : PciBar β) : Prop where
  at_ : barAt br id = some bar
  size : ∃ k, (if bar.isIo then 2 else 4) ≤ k ∧ k < 32 ∧ bar.size = BitVec.twoPow 32 k

/-- The addresses collide with no other base address register, and with no mapping of the bus but
the register's own. -/
structure Uncontested (br : PciBusBridge β) (id : BarId) (span : Span) : Prop where
  bars : ∀ id' bar, barAt br id' = some bar → bar.isActive = true → id' ≠ id →
    span.Apart (barSpan bar)
  mappings : ∀ m ∈ br.bus.mappings,
    (¬ ∃ act ∈ br.activeMappings, act.id = id ∧ act.base = m.base) → m.span.Apart span

/-- The address in a value that is written to a base address register, without the flag bits. -/
def addressIn (bar : PciBar β) (value : U32) : GuestAddr := value &&& bar.addressMask

/-- The value has an aligned address, and the register may be placed there. -/
structure MayBePlaced (br : PciBusBridge β) (id : BarId) (bar : PciBar β) (value : U32) :
    Prop where
  aligned : addressIn bar value &&& (bar.size - 1) = 0
  uncontested : Uncontested br id ⟨(addressIn bar value).toNat, bar.size.toNat⟩

/-- The offset of a base address register. -/
def barOffset (i : Fin 6) : U8 := kPciBar0Offset + 4 * BitVec.ofNat 8 i

/-- A dword is written to the register without an error, and the register reads as another. -/
def ReadsBack (br : PciBusBridge β) (id : BarId) (value result : U32) : Prop :=
  ∃ br', (PciBusBridge.writeConfig id.bdf (barOffset id.barIdx) .dword value).run br = .ok () br' ∧
    br'.readConfig id.bdf (barOffset id.barIdx) .dword = .ok result

/-- **Probing and programming** work as a guest expects: ones read back as the size mask, and an
address reads back as itself, with the flag bits of the register. -/
structure BarProtocol (br : PciBusBridge β) (id : BarId) (bar : PciBar β) (value : U32) :
    Prop where
  probe : ReadsBack br id 0xFFFFFFFF ((~~~(bar.size - 1) &&& bar.addressMask) ||| bar.flags)
  program : ReadsBack br id value (addressIn bar value ||| bar.flags)

end BarProtocol

end Xblob.Interface
