import Xblob.Computation.Spans
import Xblob.Interface.DataPages

/-!
# Address spaces built by mapping

An address space starts without regions and gets them by calls of the two mapping functions,
some of which are refused.  This file has what such a space is to look like, and what an
access to it is to come to: one region that has all its bytes, with a window of the bank
behind it, or nothing at all.
-/

set_option autoImplicit false

namespace Xblob.Memory

open Xblob.Computation

variable {δ : Type}

/-- The addresses of a region. -/
def Region.span (r : Region δ) : Span := ⟨r.base.toNat, r.size.toNat⟩

end Xblob.Memory

namespace Xblob.Interface

open Xblob.Computation Xblob.Memory Xblob.Memory.AddressSpace

variable {δ : Type}

/-! ## Mapping -/

/-- A call of one of the mapping functions. -/
inductive MapCall (δ : Type) where
  | mapRam (base : GuestAddr) (size : GuestSize) (ram ramOffset : ℕ) (perms : MemoryPermission)
  | mapMmio (base : GuestAddr) (size : GuestSize) (handler : MmioHandler δ)
      (perms : MemoryPermission)

namespace MapCall

/-- What a call does to a space. -/
def apply (space : AddressSpace δ) : MapCall δ → Result (AddressSpace δ)
  | .mapRam base size ram ramOffset perms => space.mapRam base size ram ramOffset perms
  | .mapMmio base size handler perms => space.mapMmio base size handler perms

/-- The space after a call, refused or not. -/
def next (space : AddressSpace δ) (c : MapCall δ) : AddressSpace δ :=
  match c.apply space with
  | .ok space' => space'
  | .error _ => space

end MapCall

/-- A space without regions, over any banks and devices. -/
def blankSpace (rams : ℕ → Ram) (devices : δ) : AddressSpace δ :=
  { regions := [], rams := rams, devices := devices }

/-- The space after calls of the mapping functions. -/
def spaceAfter (rams : ℕ → Ram) (devices : δ) (calls : List (MapCall δ)) : AddressSpace δ :=
  calls.foldl MapCall.next (blankSpace rams devices)

/-- What mapping keeps of the region list. -/
structure Mapped (space : AddressSpace δ) : Prop where
  sorted : space.regions.Pairwise fun a b => a.base.toNat < b.base.toNat
  nonempty : ∀ r ∈ space.regions, 0 < r.span.size
  apart : space.regions.Pairwise fun a b => a.span.Apart b.span
  below : ∀ r ∈ space.regions, r.span.stop ≤ 0x100000000
  backed : WellMapped space

/-! ## Accesses -/

/-- An access to the address space. -/
inductive Access where
  | read8 (addr : GuestAddr)
  | read16 (addr : GuestAddr)
  | read32 (addr : GuestAddr)
  | fetch8 (addr : GuestAddr)
  | fetchBytes (addr : GuestAddr) (n : ℕ)
  | readBytes (addr : GuestAddr) (n : ℕ)
  | write8 (addr : GuestAddr) (value : U8)
  | write16 (addr : GuestAddr) (value : U16)
  | write32 (addr : GuestAddr) (value : U32)
  | writeBytes (addr : GuestAddr) (src : List U8)

namespace Access

/-- The address of an access. -/
def addr : Access → GuestAddr
  | .read8 addr | .read16 addr | .read32 addr | .fetch8 addr | .fetchBytes addr _
  | .readBytes addr _ | .write8 addr _ | .write16 addr _ | .write32 addr _
  | .writeBytes addr _ => addr

/-- How many bytes the access is about. -/
def width : Access → ℕ
  | .read8 _ | .fetch8 _ | .write8 _ _ => 1
  | .read16 _ | .write16 _ _ => 2
  | .read32 _ | .write32 _ _ => 4
  | .fetchBytes _ n | .readBytes _ n => n
  | .writeBytes _ src => src.length

/-- The addresses of the access. -/
def span (a : Access) : Span := ⟨a.addr.toNat, a.width⟩

/-- The accessor, without the value it returns. -/
def perform : Access → EStateM Error (AddressSpace δ) Unit
  | .read8 addr => do let _ ← AddressSpace.read8 addr
  | .read16 addr => do let _ ← AddressSpace.read16 addr
  | .read32 addr => do let _ ← AddressSpace.read32 addr
  | .fetch8 addr => do let _ ← AddressSpace.fetch8 addr
  | .fetchBytes addr n => do let _ ← AddressSpace.fetchBytes addr n
  | .readBytes addr n => do let _ ← AddressSpace.readBytes addr n
  | .write8 addr value => AddressSpace.write8 addr value
  | .write16 addr value => AddressSpace.write16 addr value
  | .write32 addr value => AddressSpace.write32 addr value
  | .writeBytes addr src => AddressSpace.writeBytes addr src

/-- The position is in the window of the bank that the access names in a RAM region. -/
def InWindow (a : Access) (r : Region δ) (ram pos : ℕ) : Prop :=
  ∃ ramOffset, r.type = .ram ram ramOffset ∧
    (Span.mk (ramPos r ramOffset a.addr) a.width).Holds pos

/-- The access goes to the region: the one with any of its bytes has them all, the window of
the bank lies inside the bank, and outside of the window no bank is changed. -/
structure Reaches (space : AddressSpace δ) (a : Access) (r : Region δ) : Prop where
  mem : r ∈ space.regions
  inside : a.span.Inside r.span
  only : ∀ r' ∈ space.regions, ∀ x, a.span.Holds x → r'.span.Holds x → r' = r
  window : ∀ ram ramOffset, r.type = .ram ram ramOffset →
    ramPos r ramOffset a.addr + a.width ≤ (space.rams ram).size
  regions : (stateAfter (a.perform.run space)).regions = space.regions
  size : ∀ ram, ((stateAfter (a.perform.run space)).rams ram).size = (space.rams ram).size
  outside : ∀ ram pos, ¬ a.InWindow r ram pos →
    ((stateAfter (a.perform.run space)).rams ram).data pos = (space.rams ram).data pos

/-- The access fails and leaves everything as it was. -/
def Refused (space : AddressSpace δ) (a : Access) : Prop :=
  ∃ e, a.perform.run space = .error e space

end Access

end Xblob.Interface
