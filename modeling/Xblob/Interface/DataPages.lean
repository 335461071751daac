import Xblob.Interface.PhysicalMemory
import Xblob.Interface.PageWalk

/-!
# Paging configurations with private data pages

The round trip of virtual memory is stated for configurations in which every page
the processor can reach is backed by RAM of its own.  A *cell* is one byte of one
bank; a virtual address has a cell when its page is mapped and the frame lies in a
RAM region.  `DataPages` says that the page of every mapped address lies inside one
RAM region (or in no region at all, so that accesses fail), that different pages have
different cells, and that no cell of a data page holds a byte of the page tables.

Which page an address is in is decided by the cache first and the tables second, as
the processor does it.
-/

set_option autoImplicit false

namespace Xblob.Interface

open Xblob.Computation Xblob.Memory Xblob.Memory.VirtualMemory

variable {δ : Type}

/-- One byte of one bank. -/
abbrev Cell := ℕ × ℕ

/-- The region that decides an access at `addr`: the first one that holds it. -/
def regionAt (space : AddressSpace δ) (addr : GuestAddr) : Option (Region δ) :=
  space.regions.find? fun r => r.base.toNat ≤ addr.toNat ∧ addr.toNat < r.end

/-- The cell of a physical address. -/
def cellAt (space : AddressSpace δ) (addr : GuestAddr) : Option Cell :=
  match regionAt space addr with
  | none => none
  | some reg =>
    match reg.type with
    | .ram ram ramOffset => some (ram, AddressSpace.ramPos reg ramOffset addr)
    | .mmio _ => none

/-- The entry in force for a page: the cached one, or else the tables' own. -/
def pageEntry (vm : VirtualMemory δ) (page : U32) : Option TlbEntry :=
  (vm.tlb page).or (tableEntry vm.physicalSpace vm.cr3 page)

/-- The physical address of a mapped virtual address. -/
def dataAddr (vm : VirtualMemory δ) (vaddr : GuestAddr) : Option GuestAddr :=
  if testBits vm.cr0 kCr0Paging then
    (pageEntry vm (vaddr >>> 12)).map fun entry => frameAddr entry vaddr
  else
    some vaddr

/-- The cell of a virtual address. -/
def dataCell (vm : VirtualMemory δ) (vaddr : GuestAddr) : Option Cell :=
  (dataAddr vm vaddr).bind (cellAt vm.physicalSpace)

/-- The addresses a page walk reads entries from. -/
inductive TableAddr (space : AddressSpace δ) (cr3 : U32) : GuestAddr → Prop
  | directory (vaddr : GuestAddr) : TableAddr space cr3 (pdeAddr cr3 vaddr)
  | table (vaddr : GuestAddr) (pde : U32)
      (h : outcome ((AddressSpace.read32 (pdeAddr cr3 vaddr)).run space) = .ok pde)
      (hp : testBits pde kPagePresent) : TableAddr space cr3 (pteAddr pde vaddr)

/-- The cells a table entry at `addr` is stored in. -/
def EntryCell (space : AddressSpace δ) (addr : GuestAddr) (c : Cell) : Prop :=
  ∃ reg ram ramOffset, space.resolveRegion addr 4 .read = .ok reg ∧
    reg.type = .ram ram ramOffset ∧ ∃ i < 4, c = (ram, AddressSpace.ramPos reg ramOffset addr + i)

/-- The page of a physical address lies inside one RAM region, or in no region. -/
def PageInRegion (space : AddressSpace δ) (addr : GuestAddr) : Prop :=
  (∃ reg, reg.isRam ∧ ∀ q : GuestAddr, q >>> 12 = addr >>> 12 → regionAt space q = some reg) ∨
    ∀ q : GuestAddr, q >>> 12 = addr >>> 12 → regionAt space q = none

/-- **Private data pages.** -/
structure DataPages (vm : VirtualMemory δ) : Prop where
  /-- Every mapped page lies inside one RAM region, or in none. -/
  inRegion : ∀ vaddr addr, dataAddr vm vaddr = some addr → PageInRegion vm.physicalSpace addr
  /-- Different pages have different cells. -/
  apart : ∀ (v w : GuestAddr) c, dataCell vm v = some c → dataCell vm w = some c → v >>> 12 = w >>> 12
  /-- The tables in use are in RAM, not behind a device. -/
  tablesInRam : testBits vm.cr0 kCr0Paging → ∀ addr, TableAddr vm.physicalSpace vm.cr3 addr →
    vm.physicalSpace.NoDevice addr 4 .read
  /-- No cell of a data page holds a byte of the tables in use. -/
  tablesApart : testBits vm.cr0 kCr0Paging → ∀ addr, TableAddr vm.physicalSpace vm.cr3 addr →
    ∀ c, EntryCell vm.physicalSpace addr c → ∀ v, dataCell vm v ≠ some c

/-- The RAM regions behind the mapped pages grant reading. -/
def Readable (vm : VirtualMemory δ) : Prop :=
  ∀ vaddr addr reg, dataAddr vm vaddr = some addr → regionAt vm.physicalSpace addr = some reg →
    hasPermission reg.permissions .read

/-- What the mapping functions check: a RAM region lies inside its bank. -/
def WellMapped (space : AddressSpace δ) : Prop :=
  ∀ reg ∈ space.regions, ∀ ram ramOffset, reg.type = .ram ram ramOffset →
    ramOffset + reg.size.toNat ≤ (space.rams ram).size

/-! ## Ranges of virtual addresses -/

/-- `w` is one of the `n` addresses from `vaddr` on, counted modulo 2^32. -/
def InRange (vaddr : GuestAddr) (n : ℕ) (w : GuestAddr) : Prop :=
  ∃ i < n, w = vaddr + BitVec.ofNat 32 i

/-- Two ranges of virtual addresses without a common address. -/
def RangesApart (v : GuestAddr) (m : ℕ) (w : GuestAddr) (n : ℕ) : Prop :=
  ∀ a, InRange v m a → ¬ InRange w n a

/-- Every read of a range apart from the `n` addresses from `v` on returns in `vm'`
what it returns in `vm`, value or error. -/
structure ReadsKept (vm vm' : VirtualMemory δ) (v : GuestAddr) (n : ℕ) : Prop where
  read8 : ∀ w, RangesApart v n w 1 →
    outcome ((VirtualMemory.read8 w).run vm') = outcome ((VirtualMemory.read8 w).run vm)
  read16 : ∀ w, RangesApart v n w 2 →
    outcome ((VirtualMemory.read16 w).run vm') = outcome ((VirtualMemory.read16 w).run vm)
  read32 : ∀ w, RangesApart v n w 4 →
    outcome ((VirtualMemory.read32 w).run vm') = outcome ((VirtualMemory.read32 w).run vm)
  readBytes : ∀ w m, RangesApart v n w m →
    outcome ((VirtualMemory.readBytes w m).run vm') = outcome ((VirtualMemory.readBytes w m).run vm)

/-- The bytes a span leaves at its own addresses: byte `i`, or, in a span so long that
it comes around to the same address, the last byte written there. -/
def surviving (bytes : List U8) : List U8 :=
  (List.range bytes.length).map fun i =>
    (bytes[i + 0x100000000 * ((bytes.length - 1 - i) / 0x100000000)]?).getD 0

end Xblob.Interface
