import Xblob.Computation.Spans
import Xblob.Interface.MappedSpace
import Xblob.Model.Loader.XbeLoader

/-!
# Loads of XBE files

Where a block of guest addresses lies in the banks, what a plan writes, and which plans save
everywhere they write.
-/

set_option autoImplicit false

namespace Xblob.Interface

open Xblob.Computation Xblob.Formats Xblob.Memory Xblob.Loader Xblob.Io

variable {δ : Type}

/-- The addresses of a block. -/
def addrSpan (addr : GuestAddr) (n : ℕ) : Span := ⟨addr.toNat, n⟩

/-- The place in the banks of a block of addresses that may be accessed as a whole. -/
def blockAt (space : AddressSpace δ) (addr : GuestAddr) (n : ℕ) (perm : MemoryPermission) :
    Option Cell :=
  match space.resolveRegion addr (BitVec.ofNat 32 n) perm with
  | .error _ => none
  | .ok reg =>
    match reg.type with
    | .ram ram ramOffset => some (ram, AddressSpace.ramPos reg ramOffset addr)
    | .mmio _ => none

/-- The bytes of a block of a bank. -/
def bytesAt (space : AddressSpace δ) (c : Cell) (n : ℕ) : List U8 :=
  (List.range n).map fun i => (space.rams c.1).data (c.2 + i)

/-- The space with bytes stored in a bank. -/
def storedAt (space : AddressSpace δ) (c : Cell) (bytes : List U8) : AddressSpace δ :=
  space.setRam c.1 ((space.rams c.1).pokeBytes c.2 bytes)

/-- What a section writes lies in the range that is saved for it. -/
def SectionSaved (sec : SectionPlan) : Prop :=
  sec.rawSize.toNat + sec.zeroFillSize.toNat ≤ sec.virtualSize.toNat

/-- Being saved is decidable for a section. -/
instance (sec : SectionPlan) : Decidable (SectionSaved sec) := inferInstanceAs (Decidable (_ ≤ _))

/-- What the sections of a plan write lies in the ranges that are saved for them. -/
def SavesSections (plan : XbeLoadPlan) : Prop := ∀ sec ∈ plan.sections, SectionSaved sec

/-- Being saved is decidable for a plan. -/
instance (plan : XbeLoadPlan) : Decidable (SavesSections plan) :=
  inferInstanceAs (Decidable (∀ _ ∈ _, _))

/-! ## Where a plan puts things -/

/-- The addresses of a section. -/
def sectionSpan (sec : SectionPlan) : Span := ⟨sec.virtualAddress.toNat, sec.virtualSize.toNat⟩

/-- The addresses of the headers. -/
def headersSpan (plan : XbeLoadPlan) : Span := ⟨plan.baseAddress.toNat, plan.headersSize.toNat⟩

/-- The addresses of the image. -/
def planSpan (plan : XbeLoadPlan) : Span := ⟨plan.baseAddress.toNat, plan.imageSize.toNat⟩

/-- The headers and the sections lie one after the other in the image, and the raw bytes and
the zeroes of a section fill it. -/
structure LaidOut (plan : XbeLoadPlan) : Prop where
  below : (planSpan plan).stop ≤ 0x100000000
  headers : (headersSpan plan).Inside (planSpan plan)
  sections : ∀ sec ∈ plan.sections, (sectionSpan sec).Inside (planSpan plan)
  filled : ∀ sec ∈ plan.sections,
    sec.rawSize.toNat + sec.zeroFillSize.toNat = sec.virtualSize.toNat
  apart : ∀ sec ∈ plan.sections, (sectionSpan sec).Apart (headersSpan plan)
  pairwise : plan.sections.Pairwise fun a b => (sectionSpan a).Apart (sectionSpan b)

/-! ## Imports -/

/-- The entries of a thunk section, as the file has them. -/
def sectionEntries (source : ByteSource) (sec : XbeSection) : List (U32 × U32) :=
  match source.readAt (sec.rawAddress.setWidth 64) sec.rawSize.toNat with
  | .ok data => thunkEntries sec data
  | .error _ => []

/-- The imports of the thunk sections: the section, the ordinal and the offset. -/
def importsOf (source : ByteSource) (secs : List XbeSection) : List (XbeSection × U32 × U32) :=
  (secs.filter fun sec => sec.name = ".thunk").flatMap fun sec =>
    (sectionEntries source sec).map fun entry => (sec, entry)

/-- The addresses of the trampoline of an import. -/
def trampolineSpan (thunk : ImportThunkPlan) : Span := addrSpan thunk.thunkAddress 8

/-- The import is planned where its entry says, inside the section the entry is from. -/
structure AtHome (i : XbeSection × U32 × U32) (thunk : ImportThunkPlan) : Prop where
  ordinal : thunk.ordinal = i.2.1
  addr : thunk.thunkAddress = i.1.virtualAddress + i.2.2
  inside : (trampolineSpan thunk).Inside (sectionSpan (planSection i.1))

/-- What a load has written and what it would put back lies in the image. -/
structure Confined (p : XbeLoadPlan) (l : Loading δ) : Prop where
  written : ∀ w ∈ l.written, (addrSpan w.1 w.2.length).Inside (planSpan p)
  patches : ∀ patch ∈ l.patches, (addrSpan patch.addr patch.original.length).Inside (planSpan p)

/-- The image of a file is loaded in place: whether or not the load succeeds, nothing outside
the image is written, and the image ends before the addresses do; the headers and the sections
have no address in common; the trampolines are in their sections and have none in common. -/
structure LoadsInPlace (source : ByteSource) (xbe : XbeInfo) (p : XbeLoadPlan) : Prop where
  confined : ∀ (δ : Type) (space : AddressSpace δ),
    Confined p (stateAfter ((applySteps p source).run { space := space }))
  below : (planSpan p).stop ≤ 0x100000000
  headers : ∀ sec ∈ p.sections, (sectionSpan sec).Apart (headersSpan p)
  sections : p.sections.Pairwise fun a b => (sectionSpan a).Apart (sectionSpan b)
  homes : List.Forall₂ AtHome (importsOf source xbe.sections) p.importThunks
  trampolines : p.importThunks.Pairwise fun a b => (trampolineSpan a).Apart (trampolineSpan b)

/-- The offsets in a thunk section leave room for trampolines, each apart from the others. -/
structure OffsetsFit (source : ByteSource) (sec : XbeSection) : Prop where
  room : ∀ entry ∈ sectionEntries source sec, entry.2.toNat + 8 ≤ sec.virtualSize.toNat
  apart : (sectionEntries source sec).Pairwise fun a b =>
    a.2.toNat + 8 ≤ b.2.toNat ∨ b.2.toNat + 8 ≤ a.2.toNat

/-! ## What a load leaves in memory -/

/-- The place of an address in the banks, if it is in RAM. -/
def cellOf (space : AddressSpace δ) (a : ℕ) : Option Cell :=
  match space.regions.find? fun r => r.span.Holds a with
  | none => none
  | some r =>
    match r.type with
    | .ram ram ramOffset => some (ram, ramOffset + (a - r.base.toNat))
    | .mmio _ => none

/-- Guest memory: the byte of every address in RAM. -/
def guestMemory (space : AddressSpace δ) (a : ℕ) : Option U8 :=
  (cellOf space a).map fun c => (space.rams c.1).data c.2

end Xblob.Interface
