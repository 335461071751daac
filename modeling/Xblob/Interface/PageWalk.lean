import Xblob.Computation.KeyedLists
import Xblob.Model.Memory.VirtualMemory

/-!
# The two-level page walk as a function, without a cache

`Translate` is meant to be the IA-32 walk: read the directory entry, read the
table entry, check the access, combine the frame with the page offset.  This file
states that walk as a plain function of the physical memory and of the three
registers that govern it.  It keeps no cache and leaves no state behind, so it is
what the cached translation is compared with.

`VmCall` is the interface a run is made of: the register setters, the two
invalidations, translations, and any other change of physical memory.
-/

set_option autoImplicit false

namespace Xblob.Interface

open Xblob.Computation Xblob.Memory Xblob.Memory.VirtualMemory

/-- The registers a translation depends on. -/
structure PagingRegisters where
  cr0 : U32
  cr3 : U32
  cpl : U8

/-- A failed walk: the error returned and the page fault recorded, if any.  A walk
that cannot read an entry at all fails without recording a fault. -/
structure WalkFailure where
  error : Error
  fault : Option PageFault

/-- A walk that stops with a recorded page fault. -/
def pageFault (regs : PagingRegisters) (vaddr : GuestAddr) (access : VirtualAccessType)
    (code : U32) (message : String) : WalkFailure where
  error := { code := .accessViolation, message := message, offset := vaddr.setWidth 64 }
  fault := some ⟨vaddr, code, access, regs.cpl⟩

/-- The fault code of a missing entry. -/
def notPresentCode (regs : PagingRegisters) (access : VirtualAccessType) : U32 :=
  writeBit access ||| userBit regs.cpl ||| fetchBit access

/-- The translation a present pair of entries describes. -/
def entryOf (pde pte : U32) : TlbEntry where
  physicalPage := (pte &&& kPageBaseMask) >>> 12
  effectivePermissions :=
    if testBits pde kPageWritable && testBits pte kPageWritable then
      (MemoryPermission.read.union .execute).union .write
    else
      MemoryPermission.read.union .execute
  userAccessible := testBits pde kPageUser && testBits pte kPageUser
  writable := testBits pde kPageWritable && testBits pte kPageWritable

variable {δ : Type}

/-- What the two table reads of a walk find. -/
inductive TableRead where
  | unreadable (error : Error)
  | noDirectoryEntry
  | noTableEntry
  | entries (pde pte : U32)

/-- The two table reads of a walk.  The second one sees the memory as the first
one left it. -/
def readTables (space : AddressSpace δ) (cr3 : U32) (vaddr : GuestAddr) : TableRead :=
  match (AddressSpace.read32 (pdeAddr cr3 vaddr)).run space with
  | .error e _ => .unreadable e
  | .ok pde space =>
    if !testBits pde kPagePresent then
      .noDirectoryEntry
    else match (AddressSpace.read32 (pteAddr pde vaddr)).run space with
      | .error e _ => .unreadable e
      | .ok pte _ =>
        if !testBits pte kPagePresent then
          .noTableEntry
        else
          .entries pde pte

/-- The entry the tables describe for a page, if they describe one. -/
def tableEntry (space : AddressSpace δ) (cr3 : U32) (page : U32) : Option TlbEntry :=
  match readTables space cr3 (page <<< 12) with
  | .entries pde pte => some (entryOf pde pte)
  | _ => none

/-- The access rules: user code needs a user page, and a writable one to write;
supervisor code needs a writable page to write only under CR0.WP. -/
def permit (regs : PagingRegisters) (vaddr : GuestAddr) (access : VirtualAccessType)
    (entry : TlbEntry) : Except WalkFailure Unit :=
  if regs.cpl = 3 then
    if !entry.userAccessible then
      .error (pageFault regs vaddr access (kPageFaultPresent ||| kPageFaultUser |||
        writeBit access ||| fetchBit access) "Violação de privilégio (supervisor)")
    else if access = .write && !entry.writable then
      .error (pageFault regs vaddr access (kPageFaultPresent ||| kPageFaultWrite |||
        kPageFaultUser) "Violação de proteção de escrita em usuário")
    else
      .ok ()
  else if access = .write && testBits regs.cr0 kCr0WriteProtect && !entry.writable then
    .error (pageFault regs vaddr access (kPageFaultPresent ||| kPageFaultWrite)
      "Violação de proteção de escrita em supervisor")
  else
    .ok ()

/-- The frame of an entry joined with the page offset of an address. -/
def frameAddr (entry : TlbEntry) (vaddr : GuestAddr) : GuestAddr :=
  (entry.physicalPage <<< 12) ||| (vaddr &&& 0xFFF)

/-- The entry the tables give for an address, or the failure of looking it up. -/
def lookupTables (space : AddressSpace δ) (regs : PagingRegisters) (vaddr : GuestAddr)
    (access : VirtualAccessType) : Except WalkFailure TlbEntry :=
  match readTables space regs.cr3 vaddr with
  | .unreadable e => .error ⟨e, none⟩
  | .noDirectoryEntry =>
    .error (pageFault regs vaddr access (notPresentCode regs access)
      "Entrada de diretório de páginas não presente")
  | .noTableEntry =>
    .error (pageFault regs vaddr access (notPresentCode regs access)
      "Entrada de tabela de páginas não presente")
  | .entries pde pte => .ok (entryOf pde pte)

/-- What becomes of an access once its entry is known: without paging the address is
the physical one, otherwise the access rules decide. -/
def useEntry (regs : PagingRegisters) (vaddr : GuestAddr) (access : VirtualAccessType)
    (entry : Except WalkFailure TlbEntry) : Except WalkFailure TranslationResult :=
  if !testBits regs.cr0 kCr0Paging then
    .ok ⟨vaddr, .all⟩
  else match entry with
    | .error f => .error f
    | .ok entry =>
      match permit regs vaddr access entry with
      | .error f => .error f
      | .ok () => .ok ⟨frameAddr entry vaddr, entry.effectivePermissions⟩

/-- **The walk.** -/
def walk (space : AddressSpace δ) (regs : PagingRegisters) (vaddr : GuestAddr)
    (access : VirtualAccessType) : Except WalkFailure TranslationResult :=
  useEntry regs vaddr access (lookupTables space regs vaddr access)

/-! ## What a translation shows -/

/-- The paging registers of a virtual memory. -/
def regsOf (vm : VirtualMemory δ) : PagingRegisters := ⟨vm.cr0, vm.cr3, vm.cpl⟩

/-- The control register 0 of the registers taken out. -/
@[simp] theorem regsOf_cr0 (vm : VirtualMemory δ) : (regsOf vm).cr0 = vm.cr0 := rfl

/-- The control register 3 of the registers taken out. -/
@[simp] theorem regsOf_cr3 (vm : VirtualMemory δ) : (regsOf vm).cr3 = vm.cr3 := rfl

/-- The privilege level of the registers taken out. -/
@[simp] theorem regsOf_cpl (vm : VirtualMemory δ) : (regsOf vm).cpl = vm.cpl := rfl

/-- What the caller of `Translate` sees: the returned value or error, and the
page-fault record afterwards. -/
def observe (r : EStateM.Result Error (VirtualMemory δ) TranslationResult) :
    Result TranslationResult × Option PageFault :=
  match r with
  | .ok t vm => (.ok t, vm.lastPageFault)
  | .error e vm => (.error e, vm.lastPageFault)

/-- What the caller of a cache-free walk sees, with the record it leaves. -/
def observeWalk (before : Option PageFault) :
    Except WalkFailure TranslationResult → Result TranslationResult × Option PageFault
  | .ok t => (.ok t, before)
  | .error f => (.error f.error, f.fault.or before)

/-! ## Runs -/

/-- One call on a virtual memory.  `memory` stands for any other access that leaves
the physical memory as given. -/
inductive VmCall (δ : Type) where
  | setCr0 (cr0 : U32)
  | setCr3 (cr3 : U32)
  | setCpl (cpl : U8)
  | invalidateTranslation (vaddr : GuestAddr)
  | invalidateAll
  | translate (vaddr : GuestAddr) (access : VirtualAccessType)
  | memory (space : AddressSpace δ)

/-- Whether a call may change physical memory otherwise than by reading tables. -/
def VmCall.storesMemory : VmCall δ → Bool
  | .memory _ => true
  | _ => false

/-- The effect of one call. -/
def VmCall.apply (vm : VirtualMemory δ) : VmCall δ → VirtualMemory δ
  | .setCr0 cr0 => vm.setCr0 cr0
  | .setCr3 cr3 => vm.setCr3 cr3
  | .setCpl cpl => vm.setCpl cpl
  | .invalidateTranslation vaddr => vm.invalidateTranslation vaddr
  | .invalidateAll => vm.invalidateAll
  | .translate vaddr access => stateAfter ((VirtualMemory.translate vaddr access).run vm)
  | .memory space => { vm with physicalSpace := space }

/-- The effect of a sequence of calls. -/
def runCalls (vm : VirtualMemory δ) (calls : List (VmCall δ)) : VirtualMemory δ :=
  calls.foldl VmCall.apply vm

/-- Two physical memories hold the same page directory at `cr3` and the same page
tables below it: every walk through `cr3` reads the same entries. -/
def SameTables (cr3 : U32) (a b : AddressSpace δ) : Prop :=
  ∀ vaddr, readTables a cr3 vaddr = readTables b cr3 vaddr

/-- Along a run of calls from `vm`, no call changes the bytes of the page directory
and page tables in use. -/
def TablesFixed : VirtualMemory δ → List (VmCall δ) → Prop
  | _, [] => True
  | vm, call :: calls =>
    SameTables vm.cr3 vm.physicalSpace (call.apply vm).physicalSpace ∧
      TablesFixed (call.apply vm) calls

end Xblob.Interface
