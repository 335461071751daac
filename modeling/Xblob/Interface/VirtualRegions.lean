import Xblob.Computation.Alignment
import Xblob.Computation.Runs
import Xblob.Computation.Spans
import Xblob.Model.Kernel.VirtualMemoryManager

/-!
# Runs of the virtual memory manager

Calls of the manager one after the other, successful or not, and what is to hold of its map of
regions after any of them.
-/

set_option autoImplicit false

namespace Xblob.Interface

open Xblob.Computation Xblob.Kernel

/-- A call that may change the map of regions. -/
inductive RegionCall where
  | allocate (requestedBase : GuestAddr) (sizeBytes : U64) (allocType protect : U32)
  | free (base : GuestAddr) (sizeBytes : U64) (freeType : U32)
  | protect (base : GuestAddr) (sizeBytes : U64) (newProtect : U32)

namespace RegionCall

/-- The size the call is given. -/
def sizeBytes : RegionCall → U64
  | .allocate _ sizeBytes _ _ | .free _ sizeBytes _ | .protect _ sizeBytes _ => sizeBytes

/-- The call: what it answers and the manager after it; `none` when it does not return. -/
def apply (vm : VirtualMemoryManager) : RegionCall → Option (Result (U32 × VirtualMemoryManager))
  | .allocate requestedBase sizeBytes allocType protection =>
    vm.allocate requestedBase sizeBytes allocType protection
  | .free base sizeBytes freeType =>
    some ((vm.free base sizeBytes freeType).map fun vm' => (0, vm'))
  | .protect base sizeBytes newProtect => some (vm.protect base sizeBytes newProtect)

/-- The manager after a call. -/
def next (vm : VirtualMemoryManager) (c : RegionCall) : VirtualMemoryManager :=
  match c.apply vm with
  | some (.ok (_, vm')) => vm'
  | _ => vm

end RegionCall

/-- The manager of a user range after calls. -/
def managerAfter (userBase userLimit : GuestAddr) (calls : List RegionCall) :
    VirtualMemoryManager :=
  calls.foldl RegionCall.next (VirtualMemoryManager.new userBase userLimit)

/-- The addresses of a region. -/
def regionSpan (base : GuestAddr) (region : VirtualRegion) : Span :=
  ⟨base.toNat, region.size.toNat⟩

/-- What holds of the map of regions. -/
structure RegionsLawful (vm : VirtualMemoryManager) : Prop where
  keyed : ∀ {base : GuestAddr} {region}, vm.regions[base]? = some region →
    region.baseAddress = base
  aligned : ∀ {base : GuestAddr} {region}, vm.regions[base]? = some region →
    4096 ∣ base.toNat ∧ 4096 ∣ region.size.toNat
  nonempty : ∀ {base : GuestAddr} {region}, vm.regions[base]? = some region →
    0 < region.size.toNat
  apart : ∀ {base base' : GuestAddr} {region region'}, vm.regions[base]? = some region →
    vm.regions[base']? = some region' → base ≠ base' →
      (regionSpan base region).Apart (regionSpan base' region')
  inside : ∀ {base : GuestAddr} {region}, vm.regions[base]? = some region →
    (regionSpan base region).Inside
      ⟨vm.userBase.toNat, vm.userLimit.toNat - vm.userBase.toNat⟩

/-- A free place for a number of bytes, at a multiple of the granularity. -/
structure Gap (vm : VirtualMemoryManager) (size : ℕ) (addr : ℕ) : Prop where
  aligned : 65536 ∣ addr
  inside : vm.userBase.toNat ≤ addr ∧ addr + size ≤ vm.userLimit.toNat
  apart : ∀ {base : GuestAddr} {region}, vm.regions[base]? = some region →
    (regionSpan base region).Apart ⟨addr, size⟩

/-- An automatic reservation runs out of space only when there is no free place for it. -/
def FindsGap (vm : VirtualMemoryManager) (sizeBytes : U64) : Prop :=
  ∀ (protect : U32) (e : Error), vm.allocate 0 sizeBytes kMemReserve protect = some (.error e) →
    e.code = .limitReached →
      ∀ addr, ¬ Gap vm (VirtualMemoryManager.alignUp sizeBytes VirtualMemoryManager.kPageSize).toNat
        addr

/-- If there is a free place at all, there is one at or above the hint. -/
def GapAboveHint (vm : VirtualMemoryManager) (size : ℕ) : Prop :=
  (∃ addr, Gap vm size addr) → ∃ addr, roundUp 65536 vm.nextAutoAddr.toNat ≤ addr ∧ Gap vm size addr

/-- No address that is computed from a base and a size, or rounded up to the granularity, wraps
around 32 bits. -/
structure EndsFit (vm : VirtualMemoryManager) : Prop where
  regions : ∀ {base : GuestAddr} {region}, vm.regions[base]? = some region →
    base.toNat + region.size.toNat < 2 ^ 32 ∧
      roundUp 65536 (base.toNat + region.size.toNat) < 2 ^ 32
  hint : roundUp 65536 vm.nextAutoAddr.toNat < 2 ^ 32
  requested : ∀ {base : GuestAddr} {size : U64}, base ≠ 0 →
    vm.checkRequested base size = .ok () → base.toNat + size.toNat < 2 ^ 32
  placed : ∀ {base : GuestAddr} {size : U64} {allocType protect : U32} {addr : GuestAddr} {vm'},
    size.toNat < 2 ^ 32 → vm.allocate base size allocType protect = some (.ok (addr, vm')) →
      addr.toNat + (VirtualMemoryManager.alignUp size VirtualMemoryManager.kPageSize).toNat < 2 ^ 32

/-- A query reports the one region that has the address, or that there is none. -/
def QueryReports (vm : VirtualMemoryManager) (addr : GuestAddr) : Prop :=
  (∃ base region, vm.regions[base]? = some region ∧ (regionSpan base region).Holds addr.toNat ∧
    (∀ (base' : GuestAddr) region', vm.regions[base']? = some region' →
      (regionSpan base' region').Holds addr.toNat → base' = base) ∧
    (vm.query addr).allocationBase = base ∧ (vm.query addr).state = region.state ∧
    (vm.query addr).protect = region.protect ∧
    (vm.query addr).allocationProtect = region.allocationProtect) ∨
  ((∀ (base : GuestAddr) region, vm.regions[base]? = some region →
    ¬ (regionSpan base region).Holds addr.toNat) ∧ (vm.query addr).state = kMemFree)

end Xblob.Interface
