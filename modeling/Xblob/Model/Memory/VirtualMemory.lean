import Xblob.Model.Memory.AddressSpace

/-!
# Virtual memory: the two-level page walk behind a translation cache

`VirtualMemory` is a physical address space seen through the IA-32 4 KiB page
tables, with the control registers, the privilege level, the record of the last
page fault and a translation cache keyed by page number.  Every access goes
through `translate`, which may fill the cache or record a fault, so even a read
changes the state.

Accesses that stay inside a page are one physical access; accesses that cross a
page boundary are split into bytes, separately for reads and for writes.
-/

set_option autoImplicit false

namespace Xblob.Memory

open Xblob.Computation

/-! ## Control-register and page-entry bits -/

def kCr0Paging : U32 := 1 <<< 31
def kCr0WriteProtect : U32 := 1 <<< 16

def kPagePresent : U32 := 1 <<< 0
def kPageWritable : U32 := 1 <<< 1
def kPageUser : U32 := 1 <<< 2
def kPageBaseMask : U32 := 0xFFFFF000

def kPageFaultPresent : U32 := 1 <<< 0
def kPageFaultWrite : U32 := 1 <<< 1
def kPageFaultUser : U32 := 1 <<< 2
def kPageFaultInstruction : U32 := 1 <<< 4

/-- Whether any bit of `mask` is set in `v`, the C++ test `v & mask`. -/
def testBits (v mask : U32) : Bool := (v &&& mask) != 0

/-- `VirtualAccessType`.
SOURCE: libs/memory/include/xblob/memory/virtual_memory.hpp:30 -/
inductive VirtualAccessType where
  | read | write | execute
  deriving DecidableEq, Repr

/-- `PageFault`, the architectural record of a failed translation.
SOURCE: libs/memory/include/xblob/memory/virtual_memory.hpp:39-60 -/
structure PageFault where
  faultAddress : GuestAddr
  errorCode : U32
  accessType : VirtualAccessType
  cpl : U8
  deriving DecidableEq, Repr

/-- `TranslationResult`.
SOURCE: libs/memory/include/xblob/memory/virtual_memory.hpp:62-65 -/
structure TranslationResult where
  physicalAddress : GuestAddr
  effectivePermissions : MemoryPermission
  deriving DecidableEq, Repr

/-- `VirtualMemory::TlbEntry`.
SOURCE: libs/memory/include/xblob/memory/virtual_memory.hpp:111-116 -/
structure TlbEntry where
  physicalPage : U32
  effectivePermissions : MemoryPermission
  userAccessible : Bool
  writable : Bool
  deriving DecidableEq, Repr

/-- `VirtualMemory`.
SOURCE: libs/memory/include/xblob/memory/virtual_memory.hpp:67-126 -/
structure VirtualMemory (δ : Type) where
  physicalSpace : AddressSpace δ
  cr0 : U32 := 0
  cr3 : U32 := 0
  cpl : U8 := 0
  lastPageFault : Option PageFault := none
  tlb : U32 → Option TlbEntry := fun _ => none

namespace VirtualMemory

variable {δ : Type}

/-- Whether CR0.PG is set. -/
def isPagingEnabled (vm : VirtualMemory δ) : Bool := testBits vm.cr0 kCr0Paging

/-- Whether CR0.WP is set. -/
def isWriteProtect (vm : VirtualMemory δ) : Bool := testBits vm.cr0 kCr0WriteProtect

/-- `VirtualMemory::InvalidateAll`. SOURCE: libs/memory/src/virtual_memory.cpp:25-27 -/
def invalidateAll (vm : VirtualMemory δ) : VirtualMemory δ :=
  { vm with tlb := fun _ => none }

/-- `VirtualMemory::InvalidateTranslation`.
SOURCE: libs/memory/src/virtual_memory.cpp:20-23 -/
def invalidateTranslation (vm : VirtualMemory δ) (vaddr : GuestAddr) : VirtualMemory δ :=
  { vm with tlb := Function.update vm.tlb (vaddr >>> 12) none }

/-- `VirtualMemory::SetCr0`: the cache is dropped only when paging is switched.
SOURCE: libs/memory/src/virtual_memory.cpp:7-13 -/
def setCr0 (vm : VirtualMemory δ) (cr0 : U32) : VirtualMemory δ :=
  if testBits (vm.cr0 ^^^ cr0) kCr0Paging then
    { vm with cr0 := cr0 }.invalidateAll
  else
    { vm with cr0 := cr0 }

/-- `VirtualMemory::SetCr3`. SOURCE: libs/memory/src/virtual_memory.cpp:15-18 -/
def setCr3 (vm : VirtualMemory δ) (cr3 : U32) : VirtualMemory δ :=
  { vm with cr3 := cr3 }.invalidateAll

/-- `VirtualMemory::SetCpl`. -/
def setCpl (vm : VirtualMemory δ) (cpl : U8) : VirtualMemory δ :=
  { vm with cpl := cpl }

/-! ## Translation -/

/-- `VirtualMemory::RecordFault` followed by the `return Error` that every fault
site of `Translate` has.  SOURCE: libs/memory/src/virtual_memory.cpp:29-37 -/
def fault {α : Type} (vaddr : GuestAddr) (errorCode : U32) (accessType : VirtualAccessType)
    (message : String) : EStateM Error (VirtualMemory δ) α := do
  modify fun vm => { vm with lastPageFault := some ⟨vaddr, errorCode, accessType, vm.cpl⟩ }
  throw { code := .accessViolation, message := message, offset := vaddr.setWidth 64 }

/-- Running a physical access inside the virtual memory. -/
def onPhysical {α : Type} (f : EStateM Error (AddressSpace δ) α) :
    EStateM Error (VirtualMemory δ) α :=
  zoom VirtualMemory.physicalSpace (fun space vm => { vm with physicalSpace := space }) f

/-- The write bit of a fault code. -/
def writeBit (accessType : VirtualAccessType) : U32 :=
  if accessType = .write then kPageFaultWrite else 0

/-- The instruction-fetch bit of a fault code. -/
def fetchBit (accessType : VirtualAccessType) : U32 :=
  if accessType = .execute then kPageFaultInstruction else 0

/-- The user bit of a fault code. -/
def userBit (cpl : U8) : U32 := if cpl = 3 then kPageFaultUser else 0

/-- The privilege and write checks, which the cache hit and the page walk of
`Translate` both make on the same two bits.
SOURCE: libs/memory/src/virtual_memory.cpp:53-78, 131-154 -/
def checkAccess (vaddr : GuestAddr) (accessType : VirtualAccessType)
    (userAccessible writable : Bool) : EStateM Error (VirtualMemory δ) Unit := do
  let vm ← get
  if vm.cpl = 3 then
    if !userAccessible then
      fault vaddr (kPageFaultPresent ||| kPageFaultUser ||| writeBit accessType |||
        fetchBit accessType) accessType "Violação de privilégio (supervisor)"
    else if accessType = .write && !writable then
      fault vaddr (kPageFaultPresent ||| kPageFaultWrite ||| kPageFaultUser) accessType
        "Violação de proteção de escrita em usuário"
  else if accessType = .write && vm.isWriteProtect && !writable then
    fault vaddr (kPageFaultPresent ||| kPageFaultWrite) accessType
      "Violação de proteção de escrita em supervisor"

/-- The address of the page-directory entry of `vaddr`. -/
def pdeAddr (cr3 : U32) (vaddr : GuestAddr) : GuestAddr :=
  (cr3 &&& kPageBaseMask) + ((vaddr >>> 22) &&& 0x3FF) * 4

/-- The address of the page-table entry of `vaddr` under the directory entry `pde`. -/
def pteAddr (pde : U32) (vaddr : GuestAddr) : GuestAddr :=
  (pde &&& kPageBaseMask) + ((vaddr >>> 12) &&& 0x3FF) * 4

/-- The page walk of `Translate`, taken on a cache miss; it fills the cache.
SOURCE: libs/memory/src/virtual_memory.cpp:85-172 -/
def pageWalk (vaddr : GuestAddr) (accessType : VirtualAccessType) :
    EStateM Error (VirtualMemory δ) TranslationResult := do
  let vm ← get
  let pde ← onPhysical (AddressSpace.read32 (pdeAddr vm.cr3 vaddr))
  if !testBits pde kPagePresent then
    fault vaddr (writeBit accessType ||| userBit vm.cpl ||| fetchBit accessType) accessType
      "Entrada de diretório de páginas não presente"
  else
    let pte ← onPhysical (AddressSpace.read32 (pteAddr pde vaddr))
    if !testBits pte kPagePresent then
      fault vaddr (writeBit accessType ||| userBit vm.cpl ||| fetchBit accessType) accessType
        "Entrada de tabela de páginas não presente"
    else
      let userAccessible := testBits pde kPageUser && testBits pte kPageUser
      let writable := testBits pde kPageWritable && testBits pte kPageWritable
      checkAccess vaddr accessType userAccessible writable
      let perms := if writable then
          (MemoryPermission.read.union .execute).union .write
        else
          MemoryPermission.read.union .execute
      let physPage := (pte &&& kPageBaseMask) >>> 12
      modify fun vm => { vm with
        tlb := Function.update vm.tlb (vaddr >>> 12)
          (some ⟨physPage, perms, userAccessible, writable⟩) }
      pure ⟨(physPage <<< 12) ||| (vaddr &&& 0xFFF), perms⟩

/-- `VirtualMemory::Translate`. SOURCE: libs/memory/src/virtual_memory.cpp:39-173 -/
def translate (vaddr : GuestAddr) (accessType : VirtualAccessType) :
    EStateM Error (VirtualMemory δ) TranslationResult := do
  let vm ← get
  if !vm.isPagingEnabled then
    pure ⟨vaddr, .all⟩
  else
    match vm.tlb (vaddr >>> 12) with
    | some entry =>
      checkAccess vaddr accessType entry.userAccessible entry.writable
      pure ⟨(entry.physicalPage <<< 12) ||| (vaddr &&& 0xFFF), entry.effectivePermissions⟩
    | none => pageWalk vaddr accessType

/-! ## Reads -/

/-- `VirtualMemory::Read8`. SOURCE: libs/memory/src/virtual_memory.cpp:175-180 -/
def read8 (vaddr : GuestAddr) : EStateM Error (VirtualMemory δ) U8 := do
  let trans ← translate vaddr .read
  onPhysical (AddressSpace.read8 trans.physicalAddress)

/-- `VirtualMemory::Read16`. SOURCE: libs/memory/src/virtual_memory.cpp:182-196 -/
def read16 (vaddr : GuestAddr) : EStateM Error (VirtualMemory δ) U16 := do
  if (vaddr &&& 0xFFF) ≤ 0xFFE then
    let trans ← translate vaddr .read
    onPhysical (AddressSpace.read16 trans.physicalAddress)
  else
    let b0 ← read8 vaddr
    let b1 ← read8 (vaddr + 1)
    pure (word16 b0 b1)

/-- `VirtualMemory::Read32`. SOURCE: libs/memory/src/virtual_memory.cpp:198-219 -/
def read32 (vaddr : GuestAddr) : EStateM Error (VirtualMemory δ) U32 := do
  if (vaddr &&& 0xFFF) ≤ 0xFFC then
    let trans ← translate vaddr .read
    onPhysical (AddressSpace.read32 trans.physicalAddress)
  else
    let b0 ← read8 vaddr
    let b1 ← read8 (vaddr + 1)
    let b2 ← read8 (vaddr + 2)
    let b3 ← read8 (vaddr + 3)
    pure (word32 b0 b1 b2 b3)

/-- `VirtualMemory::Fetch8`. SOURCE: libs/memory/src/virtual_memory.cpp:272-277 -/
def fetch8 (vaddr : GuestAddr) : EStateM Error (VirtualMemory δ) U8 := do
  let trans ← translate vaddr .execute
  onPhysical (AddressSpace.fetch8 trans.physicalAddress)

/-- `VirtualMemory::ReadBytes` into a destination of `n` bytes, one byte at a time.
SOURCE: libs/memory/src/virtual_memory.cpp:289-297 -/
def readBytes (vaddr : GuestAddr) : ℕ → EStateM Error (VirtualMemory δ) (List U8)
  | 0 => pure []
  | n + 1 => do
    let b ← read8 vaddr
    let bs ← readBytes (vaddr + 1) n
    pure (b :: bs)

/-! ## Writes -/

/-- `VirtualMemory::Write8`. SOURCE: libs/memory/src/virtual_memory.cpp:221-226 -/
def write8 (vaddr : GuestAddr) (value : U8) : EStateM Error (VirtualMemory δ) Unit := do
  let trans ← translate vaddr .write
  onPhysical (AddressSpace.write8 trans.physicalAddress value)

/-- The translations of `n` successive bytes for writing, all made before any byte
is stored. -/
def translateBytes (vaddr : GuestAddr) : ℕ → EStateM Error (VirtualMemory δ) (List GuestAddr)
  | 0 => pure []
  | n + 1 => do
    let trans ← translate vaddr .write
    let rest ← translateBytes (vaddr + 1) n
    pure (trans.physicalAddress :: rest)

/-- The byte-by-byte stores of a split write, at addresses translated before. -/
def storeBytes : List (GuestAddr × U8) → EStateM Error (VirtualMemory δ) Unit
  | [] => pure ()
  | (phys, b) :: rest => do
    onPhysical (AddressSpace.write8 phys b)
    storeBytes rest

/-- `VirtualMemory::Write16`. SOURCE: libs/memory/src/virtual_memory.cpp:228-247 -/
def write16 (vaddr : GuestAddr) (value : U16) : EStateM Error (VirtualMemory δ) Unit := do
  if (vaddr &&& 0xFFF) ≤ 0xFFE then
    let trans ← translate vaddr .write
    onPhysical (AddressSpace.write16 trans.physicalAddress value)
  else
    let phys ← translateBytes vaddr 2
    storeBytes (phys.zip [byteOf value 0, byteOf value 1])

/-- `VirtualMemory::Write32`. SOURCE: libs/memory/src/virtual_memory.cpp:249-268 -/
def write32 (vaddr : GuestAddr) (value : U32) : EStateM Error (VirtualMemory δ) Unit := do
  if (vaddr &&& 0xFFF) ≤ 0xFFC then
    let trans ← translate vaddr .write
    onPhysical (AddressSpace.write32 trans.physicalAddress value)
  else
    let phys ← translateBytes vaddr 4
    storeBytes (phys.zip [byteOf value 0, byteOf value 1, byteOf value 2, byteOf value 3])

/-- The second loop of `WriteBytes`, which translates every address again. -/
def writeEach (vaddr : GuestAddr) : List U8 → EStateM Error (VirtualMemory δ) Unit
  | [] => pure ()
  | b :: bs => do
    write8 vaddr b
    writeEach (vaddr + 1) bs

/-- `VirtualMemory::WriteBytes`: all addresses are translated once for validation,
then every byte is written.  SOURCE: libs/memory/src/virtual_memory.cpp:299-312 -/
def writeBytes (vaddr : GuestAddr) (src : List U8) : EStateM Error (VirtualMemory δ) Unit := do
  let _ ← translateBytes vaddr src.length
  writeEach vaddr src

end VirtualMemory

end Xblob.Memory
