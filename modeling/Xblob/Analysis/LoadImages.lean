import Xblob.Analysis.LoadExtents

/-!
# What a load leaves in memory

Where no two addresses have one place in the banks, a block that is written is laid over guest
memory and nothing else changes.  A load writes its blocks one after the other, so what it
leaves is the memory it found with the blocks laid over it in that order.
-/

set_option autoImplicit false

namespace Xblob.Analysis

open Xblob.Computation Xblob.Formats Xblob.Interface Xblob.Io Xblob.Loader Xblob.Memory

variable {δ : Type} {origin space space' : AddressSpace δ} {addr : GuestAddr} {n : ℕ}
  {perm : MemoryPermission} {c : Cell}

/-! ## One block -/

/-- The load has come to a memory, over the regions it was begun with. -/
structure Shows (origin : AddressSpace δ) (m : ℕ → Option U8) (l : Loading δ) : Prop where
  regions : l.space.regions = origin.regions
  memory : guestMemory l.space = m

section

variable {m : ℕ → Option U8} {l : Loading δ} {source : ByteSource} {p : XbeLoadPlan}

end

/-! ## The whole load -/

end Xblob.Analysis
