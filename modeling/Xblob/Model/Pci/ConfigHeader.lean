import Mathlib.Logic.Function.Basic
import Xblob.Model.Common

/-!
# PCI configuration headers

The configuration space of a device: 256 bytes of registers, and six base address registers
that stand in front of the bytes at their offsets.
-/

set_option autoImplicit false

namespace Xblob.Pci

/-- `PciAccessWidth`. SOURCE: libs/pci/include/xblob/pci/pci_types.hpp:13-17 -/
inductive PciAccessWidth where
  | byte | word | dword
  deriving DecidableEq, Repr

/-- The width in bytes. -/
def PciAccessWidth.bytes : PciAccessWidth → ℕ
  | .byte => 1
  | .word => 2
  | .dword => 4

/-- `PciBdf`. SOURCE: libs/pci/include/xblob/pci/pci_types.hpp:19-39 -/
structure PciBdf where
  bus : U8 := 0
  device : U8 := 0
  function : U8 := 0
  deriving DecidableEq, Repr

/-! ## Offsets, flags and masks.  SOURCE: libs/pci/include/xblob/pci/pci_types.hpp:46-96 -/

def kPciCommandOffset : U8 := 0x04
def kPciStatusOffset : U8 := 0x06
def kPciRevisionIdOffset : U8 := 0x08
def kPciCacheLineSizeOffset : U8 := 0x0C
def kPciHeaderTypeOffset : U8 := 0x0E
def kPciBar0Offset : U8 := 0x10
def kPciBar5Offset : U8 := 0x24
def kPciSubsystemVendorIdOffset : U8 := 0x2C
def kPciExpansionRomOffset : U8 := 0x30

def kPciConfigSpaceSize : ℕ := 256

def kPciCommandMemorySpace : U16 := 0x0002

def kPciStatus66MHz : U16 := 0x0020
def kPciStatusDevselMedium : U16 := 0x0200

def kPciBarMemoryFlag : U32 := 0x00000000
def kPciBarIoFlag : U32 := 0x00000001
def kPciBarPrefetchable : U32 := 0x00000008
def kPciBarMemoryAddressMask : U32 := 0xFFFFFFF0
def kPciBarIoAddressMask : U32 := 0xFFFFFFFC

/-! ## Base address registers -/

/-- `PciBar`, over any kind of device behind it.
SOURCE: libs/pci/include/xblob/pci/pci_bar.hpp:13-47 -/
structure PciBar (β : Type) where
  index : U8 := 0
  size : GuestSize := 0
  isIo : Bool := false
  isPrefetchable : Bool := false
  isProgrammed : Bool := false
  probeMode : Bool := false
  baseAddress : GuestAddr := 0
  rawValue : U32 := 0
  device : Option β := none

namespace PciBar

variable {β : Type}

/-- Whether the BAR has a size. -/
def isConfigured (bar : PciBar β) : Bool := 0 < bar.size

/-- Whether the BAR has a size and an address. -/
def isActive (bar : PciBar β) : Bool := bar.isConfigured && bar.isProgrammed

/-- The bits of the register that hold the address. -/
def addressMask (bar : PciBar β) : U32 :=
  if bar.isIo then kPciBarIoAddressMask else kPciBarMemoryAddressMask

/-- The bits of the register that say what kind of range it is. -/
def flags (bar : PciBar β) : U32 :=
  if bar.isIo then kPciBarIoFlag
  else kPciBarMemoryFlag ||| (if bar.isPrefetchable then kPciBarPrefetchable else 0)

/-- The constructor of `PciBar`. SOURCE: libs/pci/src/pci_bar.cpp:7-17 -/
def configured (index : U8) (size : GuestSize) (isIo isPrefetchable : Bool) (device : Option β) :
    PciBar β :=
  let bar : PciBar β := { index := index, size := size, isIo := isIo
                          isPrefetchable := isPrefetchable, device := device }
  if 0 < size then { bar with rawValue := bar.flags } else bar

/-- `PciBar::Read`. SOURCE: libs/pci/src/pci_bar.cpp:19-34 -/
def read (bar : PciBar β) : U32 :=
  if !bar.isConfigured then 0
  else if bar.probeMode then (~~~(bar.size - 1) &&& bar.addressMask) ||| bar.flags
  else if bar.isProgrammed then (bar.baseAddress &&& bar.addressMask) ||| bar.flags
  else bar.flags

/-- The range and alignment checks of an address, which `PciBar::ProgramAddress` and
`PciBusBridge::ProgramBar` both make, with texts of their own. -/
def checkAddress (bar : PciBar β) (addr : GuestAddr) (misaligned : String) : Result Unit :=
  if addr.toNat + bar.size.toNat > 0x100000000 then
    .error { code := .integerOverflow, message := "BAR range exceeds 32-bit address space"
             offset := addr.setWidth 64 }
  else if addr &&& (bar.size - 1) ≠ 0 then
    .error { code := .invalidArgument, message := misaligned, offset := addr.setWidth 64 }
  else
    .ok ()

/-- `PciBar::ProgramAddress`. SOURCE: libs/pci/src/pci_bar.cpp:36-59 -/
def programAddress (bar : PciBar β) (addr : GuestAddr) : Result (PciBar β) :=
  if !bar.isConfigured then
    .error { code := .invalidState, message := "Cannot program unconfigured BAR" }
  else
    match bar.checkAddress addr "BAR address misaligned relative to BAR size" with
    | .error e => .error e
    | .ok () =>
      .ok { bar with
            baseAddress := addr &&& bar.addressMask
            rawValue := (addr &&& bar.addressMask) ||| bar.flags
            isProgrammed := true
            probeMode := false }

/-- `PciBar::Write`.  A failed `ProgramAddress` has changed nothing, and the fields saved for
the rollback are put back as they were.  SOURCE: libs/pci/src/pci_bar.cpp:61-90 -/
def write (bar : PciBar β) (value : U32) : Result (PciBar β) :=
  if !bar.isConfigured then .ok bar
  else if value = 0xFFFFFFFF then .ok { bar with probeMode := true }
  else bar.programAddress (value &&& bar.addressMask)

end PciBar

/-! ## The header -/

/-- `PciConfigHeader`. SOURCE: libs/pci/include/xblob/pci/pci_config_header.hpp:14-57 -/
structure PciConfigHeader (β : Type) where
  rawBytes : U8 → U8
  bars : Fin 6 → PciBar β

namespace PciConfigHeader

variable {β : Type}

/-- The header a device starts from: no register set but the status defaults.
SOURCE: libs/pci/src/pci_config_header.cpp:9-17 -/
def initial : PciConfigHeader β where
  rawBytes := fun offset =>
    let defaultStatus := kPciStatusDevselMedium ||| kPciStatus66MHz
    if offset = kPciStatusOffset then byteOf defaultStatus 0
    else if offset = kPciStatusOffset + 1 then byteOf defaultStatus 1
    else 0
  bars := fun _ => {}

/-- The command register. -/
def command (h : PciConfigHeader β) : U16 :=
  word16 (h.rawBytes kPciCommandOffset) (h.rawBytes (kPciCommandOffset + 1))

/-- The status register. -/
def status (h : PciConfigHeader β) : U16 :=
  word16 (h.rawBytes kPciStatusOffset) (h.rawBytes (kPciStatusOffset + 1))

/-- Whether the command register enables memory space. -/
def isMemorySpaceEnabled (h : PciConfigHeader β) : Bool :=
  h.command &&& kPciCommandMemorySpace ≠ 0

/-- Replacing one base address register. -/
def setBar (h : PciConfigHeader β) (index : Fin 6) (bar : PciBar β) : PciConfigHeader β :=
  { h with bars := Function.update h.bars index bar }

/-- `PciConfigHeader::ConfigureBar`, at an index in range.
SOURCE: libs/pci/src/pci_config_header.cpp:51-60 -/
def configureBar (h : PciConfigHeader β) (index : Fin 6) (size : GuestSize)
    (isIo isPrefetchable : Bool) (device : Option β) : PciConfigHeader β :=
  h.setBar index (.configured (BitVec.ofNat 8 index) size isIo isPrefetchable device)

/-- `PciConfigHeader::ReadRaw`. SOURCE: libs/pci/src/pci_config_header.cpp:112-119 -/
def readRaw (h : PciConfigHeader β) (offset : U8) : PciAccessWidth → U32
  | .byte => (h.rawBytes offset).setWidth 32
  | .word => (word16 (h.rawBytes offset) (h.rawBytes (offset + 1))).setWidth 32
  | .dword => word32 (h.rawBytes offset) (h.rawBytes (offset + 1)) (h.rawBytes (offset + 2))
      (h.rawBytes (offset + 3))

/-- `PciConfigHeader::WriteRaw`. SOURCE: libs/pci/src/pci_config_header.cpp:121-126 -/
def writeRaw (h : PciConfigHeader β) (offset : U8) (width : PciAccessWidth) (value : U32) :
    PciConfigHeader β :=
  { h with
    rawBytes := fun o =>
      if offset.toNat ≤ o.toNat ∧ o.toNat < offset.toNat + width.bytes then
        byteOf value (o.toNat - offset.toNat)
      else h.rawBytes o }

/-- The base address register that an offset belongs to, and the byte of it. -/
def barOf (offset : U8) : Option (Fin 6 × ℕ) :=
  if h : kPciBar0Offset ≤ offset ∧ offset < kPciBar5Offset + 4 then
    some (⟨(offset.toNat - 0x10) / 4, by
      have h' : 0x10 ≤ offset.toNat ∧ offset.toNat < 0x28 := h
      omega⟩, (offset.toNat - 0x10) % 4)
  else none

/-- `PciConfigHeader::Read`. SOURCE: libs/pci/src/pci_config_header.cpp:128-159 -/
def read (h : PciConfigHeader β) (offset : U8) (width : PciAccessWidth) : Result U32 :=
  if offset.toNat + width.bytes > kPciConfigSpaceSize then
    .error { code := .outOfBounds, message := "PCI configuration read out of bounds"
             offset := offset.setWidth 64 }
  else if width = .word ∧ offset.toNat % 2 ≠ 0 then
    .error { code := .invalidArgument, message := "Misaligned 16-bit PCI configuration read"
             offset := offset.setWidth 64 }
  else if width = .dword ∧ offset.toNat % 4 ≠ 0 then
    .error { code := .invalidArgument, message := "Misaligned 32-bit PCI configuration read"
             offset := offset.setWidth 64 }
  else
    match barOf offset with
    | some (i, byteOffset) =>
      let barVal := (h.bars i).read
      if width = .dword ∧ byteOffset = 0 then .ok barVal
      else if width = .word then .ok ((barVal >>> (byteOffset * 8)) &&& 0xFFFF)
      else .ok ((barVal >>> (byteOffset * 8)) &&& 0xFF)
    | none => .ok (h.readRaw offset width)

/-- The register with a word or a byte of it replaced, as a partial write makes it.
SOURCE: libs/pci/src/pci_config_header.cpp:190-192 -/
def merged (bar : PciBar β) (byteOffset : ℕ) (width : PciAccessWidth) (value : U32) : U32 :=
  let mask : U32 := if width = .word then 0xFFFF else 0xFF
  (bar.read &&& ~~~(mask <<< (byteOffset * 8))) ||| ((value &&& mask) <<< (byteOffset * 8))

/-- The bits of the status register that are cleared by writing 1. -/
def w1cMask : U16 := 0xF900

/-- `PciConfigHeader::Write`. SOURCE: libs/pci/src/pci_config_header.cpp:161-231 -/
def write (h : PciConfigHeader β) (offset : U8) (width : PciAccessWidth) (value : U32) :
    Result (PciConfigHeader β) :=
  if offset.toNat + width.bytes > kPciConfigSpaceSize then
    .error { code := .outOfBounds, message := "PCI configuration write out of bounds"
             offset := offset.setWidth 64 }
  else if width = .word ∧ offset.toNat % 2 ≠ 0 then
    .error { code := .invalidArgument, message := "Misaligned 16-bit PCI configuration write"
             offset := offset.setWidth 64 }
  else if width = .dword ∧ offset.toNat % 4 ≠ 0 then
    .error { code := .invalidArgument, message := "Misaligned 32-bit PCI configuration write"
             offset := offset.setWidth 64 }
  else
    match barOf offset with
    | some (i, byteOffset) =>
      let newValue := if width = .dword ∧ byteOffset = 0 then value
        else merged (h.bars i) byteOffset width value
      match (h.bars i).write newValue with
      | .error e => .error e
      | .ok bar => .ok (h.setBar i bar)
    | none =>
      if offset = kPciCommandOffset ∧ width = .word then
        .ok (h.writeRaw kPciCommandOffset width value)
      else if kPciCommandOffset ≤ offset ∧ offset < kPciCommandOffset + 2 then
        .ok (h.writeRaw offset width value)
      else if offset = kPciStatusOffset ∧ width = .word then
        let newVal := h.status &&& ~~~(value.setWidth 16 &&& w1cMask)
        .ok (h.writeRaw kPciStatusOffset width (newVal.setWidth 32))
      else if offset < kPciCommandOffset ∨
          (kPciRevisionIdOffset ≤ offset ∧ offset < kPciCacheLineSizeOffset) ∨
          offset = kPciHeaderTypeOffset ∨
          (kPciSubsystemVendorIdOffset ≤ offset ∧ offset < kPciExpansionRomOffset) then
        .ok h
      else
        .ok (h.writeRaw offset width value)

end PciConfigHeader

end Xblob.Pci
