import Xblob.Model.Common

/-!
# Virtual memory of the kernel

The kernel keeps a map of the regions the guest has reserved or committed, by their base
addresses.  State and protection belong to a region as a whole.  A region the guest gives no
base for is placed by a search that starts from a hint and moves past one colliding region
after the other.

The manager and the translation tables of the processor know nothing of each other: nothing
is mapped here, and the address space the source passes along is not used.
-/

set_option autoImplicit false

namespace Xblob.Kernel

/-! ## Constants -/

def kPageNoAccess : U32 := 0x01
def kPageReadWrite : U32 := 0x04

def kMemCommit : U32 := 0x1000
def kMemReserve : U32 := 0x2000
def kMemDecommit : U32 := 0x4000
def kMemRelease : U32 := 0x8000
def kMemFree : U32 := 0x10000
def kMemPrivate : U32 := 0x20000

/-- `MemoryBasicInformation32`.
SOURCE: libs/kernel/include/xblob/kernel/virtual_memory_hle.hpp:39-47 -/
structure MemoryBasicInformation32 where
  baseAddress : U32 := 0
  allocationBase : U32 := 0
  allocationProtect : U32 := 0
  regionSize : U32 := 0
  state : U32 := kMemFree
  protect : U32 := kPageNoAccess
  type : U32 := 0
  deriving DecidableEq, Repr

/-- `VirtualRegion`. SOURCE: libs/kernel/include/xblob/kernel/virtual_memory_hle.hpp:49-56 -/
structure VirtualRegion where
  baseAddress : GuestAddr := 0
  size : U64 := 0
  state : U32 := kMemFree
  protect : U32 := kPageNoAccess
  allocationProtect : U32 := kPageNoAccess
  type : U32 := kMemPrivate
  deriving DecidableEq, Repr

/-- `VirtualMemoryManager`.
SOURCE: libs/kernel/include/xblob/kernel/virtual_memory_hle.hpp:83-86 -/
structure VirtualMemoryManager where
  userBase : GuestAddr
  userLimit : GuestAddr
  nextAutoAddr : GuestAddr
  regions : Std.TreeMap GuestAddr VirtualRegion := ∅

namespace VirtualMemoryManager

def kPageSize : U64 := 4096
def kAllocationGranularity : U64 := 64 * 1024
def kDefaultUserBase : GuestAddr := 0x00010000
def kDefaultUserLimit : GuestAddr := 0xF0000000

/-- The constructor. SOURCE: libs/kernel/src/virtual_memory_hle.cpp:5-6 -/
def new (userBase userLimit : GuestAddr) : VirtualMemoryManager where
  userBase := userBase
  userLimit := userLimit
  nextAutoAddr := userBase

/-- `AlignUp`. SOURCE: libs/kernel/include/xblob/kernel/virtual_memory_hle.hpp:91-93 -/
def alignUp (val align : U64) : U64 := (val + align - 1) &&& ~~~(align - 1)

/-- The end of a region, computed in 32 bits. -/
def regionEnd (rBase : GuestAddr) (region : VirtualRegion) : GuestAddr :=
  rBase + region.size.setWidth 32

/-- `OverlapsExisting`. SOURCE: libs/kernel/src/virtual_memory_hle.cpp:13-25 -/
def overlapsExisting (vm : VirtualMemoryManager) (base : GuestAddr) (size : U64) : Bool :=
  if size = 0 then false
  else
    let «end» := base + size.setWidth 32
    vm.regions.toList.any fun r => decide (base < regionEnd r.1 r.2) && decide («end» > r.1)

/-- The first region, in the order of the map, that the candidate range collides with. -/
def collision (vm : VirtualMemoryManager) (candidate : GuestAddr) (alignedSize : U64) :
    Option (GuestAddr × VirtualRegion) :=
  vm.regions.toList.find? fun r => decide (candidate < regionEnd r.1 r.2) &&
    decide (candidate.setWidth 64 + alignedSize > r.1.setWidth 64)

/-- The loop of `FindFreeRange`, cut off after a number of rounds; `none` when it is cut off.
SOURCE: libs/kernel/src/virtual_memory_hle.cpp:29-43 -/
def findFrom (vm : VirtualMemoryManager) (alignedSize : U64) : ℕ → GuestAddr → Option GuestAddr
  | 0, _ => none
  | fuel + 1, candidate =>
    if candidate.setWidth 64 + alignedSize ≤ vm.userLimit.setWidth 64 then
      match vm.collision candidate alignedSize with
      | some r =>
        vm.findFrom alignedSize fuel
          ((alignUp ((regionEnd r.1 r.2).setWidth 64) kAllocationGranularity).setWidth 32)
      | none => some candidate
    else
      some 0

/-- `FindFreeRange`.  Every candidate is a multiple of the granularity, of which there are 2^16
in 32 bits: a search that takes more rounds than that comes back to a candidate and never
ends, and is `none` here.  SOURCE: libs/kernel/src/virtual_memory_hle.cpp:27-44 -/
def findFreeRange (vm : VirtualMemoryManager) (alignedSize : U64) : Option GuestAddr :=
  vm.findFrom alignedSize 0x10001
    ((alignUp (vm.nextAutoAddr.setWidth 64) kAllocationGranularity).setWidth 32)

/-- The region a reservation or a commit makes. -/
def newRegion (base : GuestAddr) (size : U64) (state protect : U32) : VirtualRegion where
  baseAddress := base
  size := size
  state := state
  protect := protect
  allocationProtect := protect
  type := kMemPrivate

/-- Entering a region into the map and moving the hint. -/
def addRegion (vm : VirtualMemoryManager) (base : GuestAddr) (size : U64) (state protect : U32) :
    VirtualMemoryManager :=
  { vm with
    regions := vm.regions.insert base (newRegion base size state protect)
    nextAutoAddr := if base ≥ vm.nextAutoAddr then base + size.setWidth 32 else vm.nextAutoAddr }

/-- Changing a region in place. -/
def setRegion (vm : VirtualMemoryManager) (base : GuestAddr) (region : VirtualRegion) :
    VirtualMemoryManager :=
  { vm with regions := vm.regions.insert base region }

/-- A refusal with its text. -/
def invalidArgument {α : Type} (message : String) : Result α :=
  .error { code := .invalidArgument, message := message }

/-- Placing a region the guest gives no base for. -/
def allocateAnywhere (vm : VirtualMemoryManager) (alignedSize : U64) (state protect : U32) :
    Option (Result (GuestAddr × VirtualMemoryManager)) :=
  (vm.findFreeRange alignedSize).map fun target =>
    if target = 0 then
      .error { code := .limitReached, message := "Espaço virtual esgotado" }
    else
      .ok (target, vm.addRegion target alignedSize state protect)

/-- The checks on a base the guest gives.
SOURCE: libs/kernel/src/virtual_memory_hle.cpp:55-67 -/
def checkRequested (vm : VirtualMemoryManager) (requestedBase : GuestAddr) (alignedSize : U64) :
    Result Unit :=
  if requestedBase ≠ 0 then
    if requestedBase.setWidth 64 + alignedSize < requestedBase.setWidth 64 ∨
        requestedBase.setWidth 64 + alignedSize > vm.userLimit.setWidth 64 ∨
        requestedBase < vm.userBase then
      .error { code := .outOfBounds
               message := "Faixa de alocação virtual excede limites ou overflow" }
    else if requestedBase.setWidth 64 % kPageSize ≠ 0 then
      invalidArgument "Endereço base solicitado deve ser alinhado por página"
    else
      .ok ()
  else
    .ok ()

/-- `Allocate`, or `none` when its search never ends.
SOURCE: libs/kernel/src/virtual_memory_hle.cpp:46-159 -/
def allocate (vm : VirtualMemoryManager) (requestedBase : GuestAddr) (sizeBytes : U64)
    (allocType protect : U32) : Option (Result (GuestAddr × VirtualMemoryManager)) :=
  if sizeBytes = 0 then
    some (invalidArgument "Tamanho de alocação virtual não pode ser zero")
  else
    let alignedSize := alignUp sizeBytes kPageSize
    match vm.checkRequested requestedBase alignedSize with
    | .error e => some (.error e)
    | .ok () =>
      if allocType &&& kMemReserve ≠ 0 then
        let state := if allocType &&& kMemCommit ≠ 0 then kMemCommit else kMemReserve
        if requestedBase = 0 then
          vm.allocateAnywhere alignedSize state protect
        else if vm.overlapsExisting requestedBase alignedSize then
          some (invalidArgument "Região virtual solicitada colide com mapeamento existente")
        else
          some (.ok (requestedBase, vm.addRegion requestedBase alignedSize state protect))
      else if allocType &&& kMemCommit ≠ 0 then
        if requestedBase = 0 then
          vm.allocateAnywhere alignedSize kMemCommit protect
        else
          match vm.regions[requestedBase]? with
          | some region =>
            if alignedSize > region.size then
              some (.error { code := .limitReached
                             message := "Tamanho de commit excede tamanho da região reservada" })
            else
              some (.ok (requestedBase,
                vm.setRegion requestedBase { region with state := kMemCommit, protect := protect }))
          | none =>
            if vm.overlapsExisting requestedBase alignedSize then
              some (invalidArgument
                "Commit sobrepõe região reservada existente de forma inconsistente")
            else
              some (.ok (requestedBase,
                vm.addRegion requestedBase alignedSize kMemCommit protect))
      else
        some (invalidArgument "Tipo de alocação virtual inválido")

/-- `Free`. SOURCE: libs/kernel/src/virtual_memory_hle.cpp:161-191 -/
def free (vm : VirtualMemoryManager) (base : GuestAddr) (sizeBytes : U64) (freeType : U32) :
    Result VirtualMemoryManager :=
  match vm.regions[base]? with
  | none => invalidArgument "Endereço base não corresponde a uma alocação virtual ativa"
  | some region =>
    if freeType &&& kMemRelease ≠ 0 then
      if sizeBytes ≠ 0 ∧ sizeBytes ≠ region.size then
        invalidArgument "Tamanho deve ser 0 ao liberar região completa (MEM_RELEASE)"
      else
        .ok { vm with regions := vm.regions.erase base }
    else if freeType &&& kMemDecommit ≠ 0 then
      if alignUp sizeBytes kPageSize > region.size then
        .error { code := .outOfBounds
                 message := "Tamanho de descomprometimento excede tamanho da região" }
      else
        .ok (vm.setRegion base { region with state := kMemReserve, protect := kPageNoAccess })
    else
      invalidArgument "Tipo de liberação virtual inválido"

/-- The region that contains an address: the first one, in the order of the map. -/
def regionOf (vm : VirtualMemoryManager) (addr : GuestAddr) :
    Option (GuestAddr × VirtualRegion) :=
  vm.regions.toList.find? fun r => decide (addr ≥ r.1) && decide (addr < regionEnd r.1 r.2)

/-- `Query`, which does not fail. SOURCE: libs/kernel/src/virtual_memory_hle.cpp:193-219 -/
def query (vm : VirtualMemoryManager) (addr : GuestAddr) : MemoryBasicInformation32 :=
  let baseAddress := (addr.setWidth 64 &&& ~~~(kPageSize - 1)).setWidth 32
  match vm.regionOf addr with
  | some (rBase, region) =>
    { baseAddress := baseAddress
      allocationBase := region.baseAddress
      allocationProtect := region.allocationProtect
      regionSize := (region.size - (addr - rBase).setWidth 64).setWidth 32
      state := region.state
      protect := region.protect
      type := region.type }
  | none =>
    { baseAddress := baseAddress
      allocationBase := 0
      allocationProtect := 0
      regionSize := kPageSize.setWidth 32
      state := kMemFree
      protect := kPageNoAccess
      type := 0 }

/-- `Protect`: the old protection. SOURCE: libs/kernel/src/virtual_memory_hle.cpp:221-233 -/
def protect (vm : VirtualMemoryManager) (base : GuestAddr) (sizeBytes : U64) (newProtect : U32) :
    Result (U32 × VirtualMemoryManager) :=
  match vm.regions[base]? with
  | none => invalidArgument "Região virtual não encontrada para proteção"
  | some region =>
    if alignUp sizeBytes kPageSize > region.size then
      .error { code := .outOfBounds, message := "Tamanho excede região virtual existente" }
    else
      .ok (region.protect, vm.setRegion base { region with protect := newProtect })

/-- `IsRangeCommitted`. SOURCE: libs/kernel/src/virtual_memory_hle.cpp:235-247 -/
def isRangeCommitted (vm : VirtualMemoryManager) (base : GuestAddr) (size : U64) : Bool :=
  if size = 0 then true
  else
    let «end» := base + size.setWidth 32
    vm.regions.toList.any fun r => decide (base ≥ r.1) && decide («end» ≤ regionEnd r.1 r.2) &&
      decide (r.2.state = kMemCommit)

end VirtualMemoryManager

end Xblob.Kernel
