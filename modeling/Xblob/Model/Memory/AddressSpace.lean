import Xblob.Computation.Fallible
import Xblob.Model.Common

/-!
# Physical memory: RAM banks, MMIO windows and the address space over them

The physical state of the machine is one record: the list of mapped regions, the
contents of the RAM banks they point into, and the state of the devices behind
the MMIO windows.  In the emulator the regions hold pointers to the banks and
callbacks into the devices; here a region names its bank by number, and the
callbacks act on a device state of an arbitrary type `δ`.

A bank is a size and a total map from offsets to bytes.  `Ram::Read8` and
`Ram::Write8` check the offset against the size; the 16- and 32-bit accessors of
the address space go through a raw pointer and do not, relying on `MapRam` having
checked the whole range when the region was made.
-/

set_option autoImplicit false

namespace Xblob.Memory

open Xblob.Computation

/-! ## Permissions -/

/-- `MemoryPermission`, a bit mask over read, write and execute.
SOURCE: libs/memory/include/xblob/memory/permission.hpp:7-15 -/
structure MemoryPermission where
  bits : U8
  deriving DecidableEq, Repr

namespace MemoryPermission

def none : MemoryPermission := ⟨0⟩
def read : MemoryPermission := ⟨1⟩
def write : MemoryPermission := ⟨2⟩
def execute : MemoryPermission := ⟨4⟩
def readWrite : MemoryPermission := ⟨3⟩
def readExecute : MemoryPermission := ⟨5⟩
def all : MemoryPermission := ⟨7⟩

/-- `operator|` on permissions. -/
def union (a b : MemoryPermission) : MemoryPermission := ⟨a.bits ||| b.bits⟩

end MemoryPermission

/-- Whether `perms` grants everything `required` asks for.
SOURCE: libs/memory/include/xblob/memory/permission.hpp:31-34 -/
def hasPermission (perms required : MemoryPermission) : Bool :=
  (perms.bits &&& required.bits) == required.bits

/-! ## RAM banks -/

/-- `Ram`: a bank of `size` bytes.
SOURCE: libs/memory/include/xblob/memory/ram.hpp:15-39 -/
structure Ram where
  size : ℕ
  data : ℕ → U8

def kRamSizeRetail : ℕ := 64 * 1024 * 1024
def kRamSizeDevkit : ℕ := 128 * 1024 * 1024

namespace Ram

/-- `Ram::Create`: a zeroed bank of one of the two sizes the console has.
SOURCE: libs/memory/src/ram.cpp:11-17 -/
def create (sizeBytes : ℕ) : Result Ram :=
  if sizeBytes ≠ kRamSizeRetail ∧ sizeBytes ≠ kRamSizeDevkit then
    .error { code := .invalidCapacity
             message := "Capacidade de RAM física deve ser 64 MiB ou 128 MiB"
             offset := BitVec.ofNat 64 sizeBytes }
  else
    .ok { size := sizeBytes, data := fun _ => 0 }

/-- `Ram::Read8`. SOURCE: libs/memory/src/ram.cpp:19-24 -/
def read8 (r : Ram) (offset : ℕ) : Result U8 :=
  if offset ≥ r.size then
    .error { code := .outOfBounds, message := "Offset além do limite da RAM"
             offset := BitVec.ofNat 64 offset }
  else
    .ok (r.data offset)

/-- Storing one byte through the bank's raw pointer. -/
def poke (r : Ram) (offset : ℕ) (value : U8) : Ram :=
  { r with data := Function.update r.data offset value }

/-- Storing consecutive bytes through the bank's raw pointer. -/
def pokeBytes (r : Ram) (offset : ℕ) : List U8 → Ram
  | [] => r
  | b :: bs => (r.poke offset b).pokeBytes (offset + 1) bs

end Ram

/-! ## Regions -/

/-- `AccessWidth` of an MMIO access.
SOURCE: libs/memory/include/xblob/memory/mmio.hpp:11 -/
inductive AccessWidth where
  | byte | word | dword
  deriving DecidableEq, Repr

/-- `MmioHandler`: the two callbacks of an MMIO window.  Either may be unset.
SOURCE: libs/memory/include/xblob/memory/mmio.hpp:16-19 -/
structure MmioHandler (δ : Type) where
  read : Option (U32 → AccessWidth → EStateM Error δ U32)
  write : Option (U32 → AccessWidth → U32 → EStateM Error δ Unit)

/-- What a region is backed by: a bank and an offset into it, or a device window.
SOURCE: libs/memory/include/xblob/memory/region.hpp:12-25 -/
inductive RegionType (δ : Type) where
  | ram (ram : ℕ) (ramOffset : ℕ)
  | mmio (handler : MmioHandler δ)

/-- `Region`. SOURCE: libs/memory/include/xblob/memory/region.hpp:14-45 -/
structure Region (δ : Type) where
  base : GuestAddr
  size : GuestSize
  permissions : MemoryPermission
  type : RegionType δ

namespace Region

variable {δ : Type}

/-- `Region::end`, one past the last address, in 64 bits. -/
def «end» (r : Region δ) : ℕ := r.base.toNat + r.size.toNat

/-- `Region::ContainsRange`. -/
def containsRange (r : Region δ) (addr : GuestAddr) (len : GuestSize) : Bool :=
  addr.toNat ≥ r.base.toNat && addr.toNat + len.toNat ≤ r.end

/-- `Region::Overlaps`. -/
def overlaps (r : Region δ) (otherBase : GuestAddr) (otherSize : GuestSize) : Bool :=
  r.base.toNat < otherBase.toNat + otherSize.toNat && otherBase.toNat < r.end

end Region

/-- The physical address space together with the banks and devices behind it.
SOURCE: libs/memory/include/xblob/memory/address_space.hpp:15-53 -/
structure AddressSpace (δ : Type) where
  regions : List (Region δ)
  rams : ℕ → Ram
  devices : δ

namespace AddressSpace

variable {δ : Type}

/-! ## Mapping -/

/-- Insertion that keeps the region list sorted by base address, as the
`push_back` and `std::sort` at the end of both mapping functions do. -/
def insertSorted (reg : Region δ) : List (Region δ) → List (Region δ)
  | [] => [reg]
  | r :: rs => if reg.base.toNat < r.base.toNat then reg :: r :: rs else r :: insertSorted reg rs

/-- The checks the two mapping functions share: a non-empty range below 2^32. -/
def checkRange (base : GuestAddr) (size : GuestSize) : Result Unit :=
  if size = 0 then
    .error { code := .invalidArgument, message := "Tamanho de mapeamento não pode ser zero"
             offset := base.setWidth 64 }
  else if base.toNat + size.toNat > 0x100000000 then
    .error { code := .outOfBounds
             message := "Faixa de mapeamento excede o espaço de endereçamento de 32 bits"
             offset := base.setWidth 64 }
  else
    .ok ()

/-- The overlap check the two mapping functions share. -/
def checkOverlap (space : AddressSpace δ) (base : GuestAddr) (size : GuestSize) : Result Unit :=
  if space.regions.any (fun r => r.overlaps base size) then
    .error { code := .regionOverlap, message := "Mapeamento sobrepõe região de memória existente"
             offset := base.setWidth 64 }
  else
    .ok ()

/-- `AddressSpace::MapRam`. SOURCE: libs/memory/src/address_space.cpp:9-49 -/
def mapRam (space : AddressSpace δ) (base : GuestAddr) (size : GuestSize) (ram : ℕ)
    (ramOffset : ℕ) (perms : MemoryPermission := .all) : Result (AddressSpace δ) := do
  checkRange base size
  if ramOffset + size.toNat ≥ 0x10000000000000000 ∨
      ramOffset + size.toNat > (space.rams ram).size then
    .error { code := .outOfBounds
             message := "Faixa de mapeamento excede os limites da RAM física"
             offset := BitVec.ofNat 64 ramOffset }
  else
    space.checkOverlap base size
    .ok { space with
          regions := insertSorted ⟨base, size, perms, .ram ram ramOffset⟩ space.regions }

/-- `AddressSpace::MapMmio`. SOURCE: libs/memory/src/address_space.cpp:51-83 -/
def mapMmio (space : AddressSpace δ) (base : GuestAddr) (size : GuestSize)
    (handler : MmioHandler δ) (perms : MemoryPermission := .readWrite) :
    Result (AddressSpace δ) := do
  checkRange base size
  space.checkOverlap base size
  .ok { space with regions := insertSorted ⟨base, size, perms, .mmio handler⟩ space.regions }

/-! ## Resolution -/

/-- The search of `ResolveRegion` through the region list: the first region that
holds the first byte decides. -/
def resolveIn (addr : GuestAddr) (len : GuestSize) (requiredPerm : MemoryPermission) :
    List (Region δ) → Result (Region δ)
  | [] => .error { code := .unmappedAddress, message := "Endereço não mapeado"
                   offset := addr.setWidth 64 }
  | r :: rs =>
    if r.base.toNat ≤ addr.toNat ∧ addr.toNat < r.end then
      if !r.containsRange addr len then
        .error { code := .outOfBounds, message := "Acesso cruza o limite da região de memória"
                 offset := addr.setWidth 64 }
      else if !hasPermission r.permissions requiredPerm then
        .error { code := .accessViolation
                 message := "Violação de permissão de acesso à memória"
                 offset := addr.setWidth 64 }
      else
        .ok r
    else
      resolveIn addr len requiredPerm rs

/-- `AddressSpace::ResolveRegion` and its twin `ResolveRegionMut`.
SOURCE: libs/memory/src/address_space.cpp:86-141 -/
def resolveRegion (space : AddressSpace δ) (addr : GuestAddr) (len : GuestSize)
    (requiredPerm : MemoryPermission) : Result (Region δ) :=
  if len = 0 then
    .error { code := .invalidArgument, message := "Comprimento de acesso não pode ser zero"
             offset := addr.setWidth 64 }
  else if addr.toNat + len.toNat > 0x100000000 then
    .error { code := .outOfBounds, message := "Acesso ultrapassa o espaço de 32 bits"
             offset := addr.setWidth 64 }
  else
    resolveIn addr len requiredPerm space.regions

/-- The offset into the bank that a guest address in a RAM region names. -/
def ramPos (reg : Region δ) (ramOffset : ℕ) (addr : GuestAddr) : ℕ :=
  ramOffset + (addr.toNat - reg.base.toNat)

/-- Replacing one bank. -/
def setRam (space : AddressSpace δ) (ram : ℕ) (bank : Ram) : AddressSpace δ :=
  { space with rams := Function.update space.rams ram bank }

/-- Running a device callback inside the address space. -/
def onDevices {α : Type} (f : EStateM Error δ α) : EStateM Error (AddressSpace δ) α :=
  zoom AddressSpace.devices (fun d space => { space with devices := d }) f

/-! ## Accessors -/

/-- The error of a read from a window without a read callback. -/
def mmioReadUnset (addr : GuestAddr) : Error :=
  { code := .unsupportedFeature, message := "Operação de leitura MMIO não configurada"
    offset := addr.setWidth 64 }

/-- The error of a write to a window without a write callback. -/
def mmioWriteUnset (addr : GuestAddr) : Error :=
  { code := .unsupportedFeature, message := "Operação de escrita MMIO não configurada"
    offset := addr.setWidth 64 }

/-- The MMIO half of the three read accessors. -/
def readMmio (h : MmioHandler δ) (reg : Region δ) (addr : GuestAddr) (width : AccessWidth) :
    EStateM Error (AddressSpace δ) U32 :=
  match h.read with
  | some read => onDevices (read (addr - reg.base) width)
  | none => throw (mmioReadUnset addr)

/-- The MMIO half of the three write accessors. -/
def writeMmio (h : MmioHandler δ) (reg : Region δ) (addr : GuestAddr) (width : AccessWidth)
    (value : U32) : EStateM Error (AddressSpace δ) Unit :=
  match h.write with
  | some write => onDevices (write (addr - reg.base) width value)
  | none => throw (mmioWriteUnset addr)

/-- `AddressSpace::Read8`. SOURCE: libs/memory/src/address_space.cpp:143-165 -/
def read8 (addr : GuestAddr) : EStateM Error (AddressSpace δ) U8 := do
  let space ← get
  let reg ← ofExcept (space.resolveRegion addr 1 .read)
  match reg.type with
  | .ram ram ramOffset => ofExcept ((space.rams ram).read8 (ramPos reg ramOffset addr))
  | .mmio h =>
    let v ← readMmio h reg addr .byte
    pure ((v &&& 0xff).setWidth 8)

/-- `AddressSpace::Read16`. SOURCE: libs/memory/src/address_space.cpp:167-191 -/
def read16 (addr : GuestAddr) : EStateM Error (AddressSpace δ) U16 := do
  let space ← get
  let reg ← ofExcept (space.resolveRegion addr 2 .read)
  match reg.type with
  | .ram ram ramOffset =>
    let ptr := fun i => (space.rams ram).data (ramPos reg ramOffset addr + i)
    pure (word16 (ptr 0) (ptr 1))
  | .mmio h =>
    let v ← readMmio h reg addr .word
    pure ((v &&& 0xffff).setWidth 16)

/-- `AddressSpace::Read32`. SOURCE: libs/memory/src/address_space.cpp:193-218 -/
def read32 (addr : GuestAddr) : EStateM Error (AddressSpace δ) U32 := do
  let space ← get
  let reg ← ofExcept (space.resolveRegion addr 4 .read)
  match reg.type with
  | .ram ram ramOffset =>
    let ptr := fun i => (space.rams ram).data (ramPos reg ramOffset addr + i)
    pure (word32 (ptr 0) (ptr 1) (ptr 2) (ptr 3))
  | .mmio h => readMmio h reg addr .dword

/-- `AddressSpace::Write8`, whose RAM half is `Ram::Write8` with its bound check.
SOURCE: libs/memory/src/address_space.cpp:220-238, libs/memory/src/ram.cpp:26-32 -/
def write8 (addr : GuestAddr) (value : U8) : EStateM Error (AddressSpace δ) Unit := do
  let space ← get
  let reg ← ofExcept (space.resolveRegion addr 1 .write)
  match reg.type with
  | .ram ram ramOffset =>
    let offset := ramPos reg ramOffset addr
    if offset ≥ (space.rams ram).size then
      throw { code := .outOfBounds, message := "Offset além do limite da RAM"
              offset := BitVec.ofNat 64 offset }
    else
      set (space.setRam ram ((space.rams ram).poke offset value))
  | .mmio h => writeMmio h reg addr .byte (value.setWidth 32)

/-- `AddressSpace::Write16`. SOURCE: libs/memory/src/address_space.cpp:240-261 -/
def write16 (addr : GuestAddr) (value : U16) : EStateM Error (AddressSpace δ) Unit := do
  let space ← get
  let reg ← ofExcept (space.resolveRegion addr 2 .write)
  match reg.type with
  | .ram ram ramOffset =>
    set (space.setRam ram ((space.rams ram).pokeBytes (ramPos reg ramOffset addr)
      [byteOf value 0, byteOf value 1]))
  | .mmio h => writeMmio h reg addr .word (value.setWidth 32)

/-- `AddressSpace::Write32`. SOURCE: libs/memory/src/address_space.cpp:263-286 -/
def write32 (addr : GuestAddr) (value : U32) : EStateM Error (AddressSpace δ) Unit := do
  let space ← get
  let reg ← ofExcept (space.resolveRegion addr 4 .write)
  match reg.type with
  | .ram ram ramOffset =>
    set (space.setRam ram ((space.rams ram).pokeBytes (ramPos reg ramOffset addr)
      [byteOf value 0, byteOf value 1, byteOf value 2, byteOf value 3]))
  | .mmio h => writeMmio h reg addr .dword value

/-- `AddressSpace::Fetch8`: code is never fetched from a device.
SOURCE: libs/memory/src/address_space.cpp:288-301 -/
def fetch8 (addr : GuestAddr) : EStateM Error (AddressSpace δ) U8 := do
  let space ← get
  let reg ← ofExcept (space.resolveRegion addr 1 .execute)
  match reg.type with
  | .ram ram ramOffset => ofExcept ((space.rams ram).read8 (ramPos reg ramOffset addr))
  | .mmio _ =>
    throw { code := .unsupportedFeature, message := "Fetch de instrução não suportado em MMIO"
            offset := addr.setWidth 64 }

/-- `AddressSpace::FetchBytes` into a destination of `n` bytes.
SOURCE: libs/memory/src/address_space.cpp:303-323 -/
def fetchBytes (addr : GuestAddr) (n : ℕ) : EStateM Error (AddressSpace δ) (List U8) := do
  if n = 0 then
    pure []
  else
    let space ← get
    let reg ← ofExcept (space.resolveRegion addr (BitVec.ofNat 32 n) .execute)
    match reg.type with
    | .ram ram ramOffset =>
      pure ((List.range n).map fun i => (space.rams ram).data (ramPos reg ramOffset addr + i))
    | .mmio _ =>
      throw { code := .unsupportedFeature, message := "Fetch de instrução não suportado em MMIO"
              offset := addr.setWidth 64 }

/-- `AddressSpace::ReadBytes` into a destination of `n` bytes.  The length is
truncated to 32 bits for the region lookup, as the source's cast does.
SOURCE: libs/memory/src/address_space.cpp:325-344 -/
def readBytes (addr : GuestAddr) (n : ℕ) : EStateM Error (AddressSpace δ) (List U8) := do
  if n = 0 then
    pure []
  else
    let space ← get
    let reg ← ofExcept (space.resolveRegion addr (BitVec.ofNat 32 n) .read)
    match reg.type with
    | .ram ram ramOffset =>
      pure ((List.range n).map fun i => (space.rams ram).data (ramPos reg ramOffset addr + i))
    | .mmio _ =>
      throw { code := .unsupportedFeature, message := "ReadBytes não suportado em MMIO"
              offset := addr.setWidth 64 }

/-- `AddressSpace::WriteBytes`. SOURCE: libs/memory/src/address_space.cpp:346-366 -/
def writeBytes (addr : GuestAddr) (src : List U8) : EStateM Error (AddressSpace δ) Unit := do
  if src = [] then
    pure ()
  else
    let space ← get
    let reg ← ofExcept (space.resolveRegion addr (BitVec.ofNat 32 src.length) .write)
    match reg.type with
    | .ram ram ramOffset =>
      set (space.setRam ram ((space.rams ram).pokeBytes (ramPos reg ramOffset addr) src))
    | .mmio _ =>
      throw { code := .unsupportedFeature, message := "WriteBytes não suportado em MMIO"
              offset := addr.setWidth 64 }

/-- `AddressSpace::ValidateRange`. SOURCE: libs/memory/src/address_space.cpp:368-378 -/
def validateRange (space : AddressSpace δ) (addr : GuestAddr) (len : GuestSize)
    (requiredPerm : MemoryPermission) : Result Unit := do
  if len = 0 then
    .ok ()
  else
    let _ ← space.resolveRegion addr len requiredPerm
    .ok ()

end AddressSpace

end Xblob.Memory
