import Xblob.Interface.VirtualRegions

/-!
# Virtual memory page by page

What the guest asks of the manager is about pages: each call names a range of them.  This file
has the record of pages that the calls make, in which a call changes exactly the pages of its
range, and what it means for the manager to answer by that record.  The manager keeps state
and protection by region, so it answers by the record only as long as a call that changes a
region covers all of it.
-/

set_option autoImplicit false

namespace Xblob.Interface

open Xblob.Computation Xblob.Kernel Xblob.Kernel.VirtualMemoryManager

/-- A page of an allocation. -/
structure PageInfo where
  allocation : GuestAddr
  state : U32
  protect : U32
  deriving DecidableEq, Repr

/-- The pages by number; `none` is a free page. -/
abbrev PageRecord := ℕ → Option PageInfo

namespace PageRecord

/-- The page is committed. -/
def Committed (page : Option PageInfo) : Prop := ∃ info, page = some info ∧ info.state = kMemCommit

/-- Changing the pages of a range of bytes that starts and ends at a page. -/
def change (pages : PageRecord) (base size : ℕ) (f : Option PageInfo → Option PageInfo) :
    PageRecord := fun p =>
  if (Span.mk base size).Holds (4096 * p) then f (pages p) else pages p

/-- Giving up an allocation. -/
def release (pages : PageRecord) (base : GuestAddr) : PageRecord := fun p =>
  if (pages p).map PageInfo.allocation = some base then none else pages p

/-- The state a successful allocation of a type gives its pages. -/
def allocatedState (allocType : U32) : U32 :=
  if allocType &&& kMemCommit ≠ 0 then kMemCommit else kMemReserve

/-- A page that is allocated: it stays in the allocation it is in, if it is in one. -/
def allocated (addr : GuestAddr) (allocType protection : U32) (page : Option PageInfo) :
    Option PageInfo :=
  some
    { allocation := (page.map PageInfo.allocation).getD addr
      state := allocatedState allocType
      protect := protection }

/-- A page that was decommitted. -/
def decommitted (info : PageInfo) : PageInfo :=
  { info with state := kMemReserve, protect := kPageNoAccess }

/-- What a call that succeeds with an answer does to the record. -/
def after (pages : PageRecord) (answer : U32) : RegionCall → PageRecord
  | .allocate _ sizeBytes allocType protection =>
    pages.change answer.toNat (alignUp sizeBytes kPageSize).toNat
      (allocated answer allocType protection)
  | .free base sizeBytes freeType =>
    if freeType &&& kMemRelease ≠ 0 then pages.release base
    else pages.change base.toNat (alignUp sizeBytes kPageSize).toNat (Option.map decommitted)
  | .protect base sizeBytes newProtect =>
    pages.change base.toNat (alignUp sizeBytes kPageSize).toNat
      (Option.map fun info => { info with protect := newProtect })

end PageRecord

/-- The manager, and the record of pages its calls make. -/
abbrev PageRun := VirtualMemoryManager × PageRecord

namespace RegionCall

/-- The manager and the record after a call. -/
def recorded (run : PageRun) (c : RegionCall) : PageRun :=
  match c.apply run.1 with
  | some (.ok (answer, vm)) => (vm, run.2.after answer c)
  | _ => run

/-- A call that changes a region covers all of it, or asks for what the region already is; its
size is far enough from the end of 64 bits not to wrap. -/
def CoversRegion (run : PageRun) (c : RegionCall) : Prop :=
  c.sizeBytes.toNat + 2 ^ 32 ≤ 2 ^ 64 ∧
  match c with
  | .allocate requestedBase sizeBytes allocType protection =>
    allocType &&& kMemReserve = 0 → allocType &&& kMemCommit ≠ 0 →
      ∀ region, run.1.regions[requestedBase]? = some region →
        region.size ≤ alignUp sizeBytes kPageSize ∨
          (region.state = kMemCommit ∧ region.protect = protection)
  | .free base sizeBytes freeType =>
    freeType &&& kMemRelease = 0 → freeType &&& kMemDecommit ≠ 0 →
      ∀ region, run.1.regions[base]? = some region →
        region.size ≤ alignUp sizeBytes kPageSize ∨
          (region.state = kMemReserve ∧ region.protect = kPageNoAccess)
  | .protect base sizeBytes newProtect =>
    ∀ region, run.1.regions[base]? = some region →
      region.size ≤ alignUp sizeBytes kPageSize ∨ region.protect = newProtect

end RegionCall

/-- A manager without regions and the record without pages. -/
def pageStart (userBase userLimit : GuestAddr) : PageRun :=
  (VirtualMemoryManager.new userBase userLimit, fun _ => none)

/-- A query tells what the record has of the page. -/
def ReportsPage (info : MemoryBasicInformation32) : Option PageInfo → Prop
  | some page => info.allocationBase = page.allocation ∧ info.state = page.state ∧
      info.protect = page.protect
  | none => info.state = kMemFree

/-- The manager answers by the record. -/
structure PagePrecise (run : PageRun) : Prop where
  query : ∀ addr : GuestAddr, ReportsPage (run.1.query addr) (run.2 (addr.toNat / 4096))
  committed : ∀ addr : GuestAddr, 4096 ∣ addr.toNat → addr.toNat + 4096 < 2 ^ 32 →
    (run.1.isRangeCommitted addr 4096 ↔ PageRecord.Committed (run.2 (addr.toNat / 4096)))
  range : ∀ (base : GuestAddr) (size : U64), base.toNat + size.toNat < 2 ^ 32 →
    run.1.isRangeCommitted base size → ∀ x, (Span.mk base.toNat size.toNat).Holds x →
      PageRecord.Committed (run.2 (x / 4096))
  regionEnd : ∀ (addr base : GuestAddr) (region : VirtualRegion), 4096 ∣ addr.toNat →
    run.1.regions[base]? = some region → (regionSpan base region).Holds addr.toNat →
      (run.1.query addr).baseAddress.toNat + (run.1.query addr).regionSize.toNat =
        (regionSpan base region).stop

end Xblob.Interface
