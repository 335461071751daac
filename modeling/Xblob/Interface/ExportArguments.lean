import Xblob.Computation.Lockstep
import Xblob.Computation.Spans
import Xblob.Model.Kernel.Handlers

/-!
# The arguments of an export

An export is registered with a number of parameters, and the dispatcher pops that many words
from the guest's stack.  This file has what it is for an export to keep to them: two memories
that differ only in words further up the stack, which no pointer of the call refers to, are
not told apart.
-/

set_option autoImplicit false

namespace Xblob.Kernel

open Xblob.Computation Xblob.Memory

/-- The addresses that a request reads through a pointer. -/
def GuestRequest.Reads : GuestRequest → GuestAddr → Prop
  | .read8 addr, a => (Span.mk addr.toNat 1).Holds a.toNat
  | .read32 addr, a => (Span.mk addr.toNat 4).Holds a.toNat
  | .readBytes addr n, a => (Span.mk addr.toNat n).Holds a.toNat
  | _, _ => False

end Xblob.Kernel

namespace Xblob.Interface

open Xblob.Computation Xblob.Kernel Xblob.Memory Xblob.Memory.AddressSpace Xblob.Processor

variable {δ α : Type}

/-- Two memories that differ at most in what is mapped at the addresses of `S`. -/
structure AgreeOutside (S : GuestAddr → Prop) (s t : AddressSpace δ) : Prop where
  regions : t.regions = s.regions
  devices : t.devices = s.devices
  sizes : ∀ ram, (t.rams ram).size = (s.rams ram).size
  cells : ∀ reg ∈ s.regions, ∀ ram ramOffset, reg.type = .ram ram ramOffset → ∀ a : GuestAddr,
    reg.base.toNat ≤ a.toNat → a.toNat < reg.end → ¬ S a →
      (t.rams ram).data (ramPos reg ramOffset a) = (s.rams ram).data (ramPos reg ramOffset a)

/-- What was done to the memories `s` and `t` is the same: nothing is mapped, the devices end
alike, and each byte of a bank has been left alone in both or ends alike in both. -/
structure SameEffects (s t s' t' : AddressSpace δ) : Prop where
  regions : s'.regions = s.regions ∧ t'.regions = t.regions
  devices : t'.devices = s'.devices
  sizes : ∀ ram, (s'.rams ram).size = (s.rams ram).size ∧ (t'.rams ram).size = (t.rams ram).size
  cells : ∀ ram pos,
    ((s'.rams ram).data pos = (s.rams ram).data pos ∧
      (t'.rams ram).data pos = (t.rams ram).data pos) ∨
    (t'.rams ram).data pos = (s'.rams ram).data pos

/-- The bytes of the stack words behind the first `n` arguments. -/
def BeyondArguments (esp : U32) (n : ℕ) (a : GuestAddr) : Prop :=
  ∃ i, n ≤ i ∧ (Span.mk (esp.toNat + 4 * (i + 1)) 4).Holds a.toNat

/-- No address of `S` is read through a pointer in the run from `s`. -/
def ReadsAvoid (S : GuestAddr → Prop) (x : Guest α) (s : AddressSpace δ) : Prop :=
  x.Along answer (fun r => ∀ a, GuestRequest.Reads r a → ¬ S a) s

/-- The export keeps to its arguments: memories that differ only in stack words beyond them,
which it does not come to through a pointer, give the same result, context and kernel, or the
same error, and the same is done to them. -/
def KeepsToArguments (e : ExportEntry) : Prop :=
  ∀ (δ : Type) (cpu : CpuContext) (k : KernelState) (S : GuestAddr → Prop)
    (s t : AddressSpace δ), (∀ a, S a → BeyondArguments (cpu.gpr .esp) e.paramCount a) →
    AgreeOutside S s t → ReadsAvoid S (e.handler cpu k) s →
    Lockstep ((e.handler cpu k).run answer) (fun _ => SameEffects s t) (SameEffects s t) s t

end Xblob.Interface
