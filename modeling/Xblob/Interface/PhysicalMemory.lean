import Xblob.Model.Memory.AddressSpace

/-!
# Where physical accesses go

Vocabulary for statements about the address space: which regions are RAM, which
part of the state a device access leaves alone, and the one of three ends that a
byte written to a physical address can come to.
-/

set_option autoImplicit false

namespace Xblob.Memory

variable {δ : Type}

/-- Whether a region is backed by RAM. -/
def Region.isRam (r : Region δ) : Bool :=
  match r.type with
  | .ram _ _ => true
  | .mmio _ => false

/-- An address space made of RAM regions only. -/
def AddressSpace.RamOnly (space : AddressSpace δ) : Prop := ∀ r ∈ space.regions, r.isRam

namespace AddressSpace

/-- What a device access does not change: the regions and the banks. -/
def storage (space : AddressSpace δ) : List (Region δ) × (ℕ → Ram) := (space.regions, space.rams)

/-- A resolution that does not end in a device. -/
def NoDevice (space : AddressSpace δ) (addr : GuestAddr) (len : GuestSize)
    (perm : MemoryPermission) : Prop :=
  ∀ reg, space.resolveRegion addr len perm = .ok reg → reg.isRam

/-- Where a byte written to a physical address goes. -/
inductive ByteTarget (δ : Type) where
  | refused (error : Error)
  | cell (ram : ℕ) (offset : ℕ)
  | device (handler : MmioHandler δ) (region : Region δ)

/-- The target of a byte write, decided by the region list and the bank sizes alone. -/
def byteTarget (space : AddressSpace δ) (addr : GuestAddr) : ByteTarget δ :=
  match space.resolveRegion addr 1 .write with
  | .error e => .refused e
  | .ok reg =>
    match reg.type with
    | .ram ram ramOffset =>
      if ramPos reg ramOffset addr ≥ (space.rams ram).size then
        .refused { code := .outOfBounds, message := "Offset além do limite da RAM"
                   offset := BitVec.ofNat 64 (ramPos reg ramOffset addr) }
      else
        .cell ram (ramPos reg ramOffset addr)
    | .mmio h => .device h reg

end AddressSpace

end Xblob.Memory
