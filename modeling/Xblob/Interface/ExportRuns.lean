import Mathlib.Algebra.Order.Ring.Nat
import Xblob.Computation.Runs
import Xblob.Model.Kernel.ExportRegistry
import Xblob.Model.Kernel.Handlers

/-!
# Kernel exports

Calls of kernel exports: what is counted of them, and the owners of the handles they close.
-/

set_option autoImplicit false

namespace Xblob.Interface

open Xblob.Kernel Xblob.Memory Xblob.Processor Xblob.Vfs

/-!
## Export calls, one after the other

The guest calls exports in any order, from any context and with anything in its memory.  What
a call leaves of the kernel is what its handler returns; a handler that fails or does not
return leaves the kernel as it was.
-/

/-- A call of a registered export. -/
structure ExportCall where
  entry : ExportEntry
  registered : entry ∈ registeredExports
  cpu : CpuContext
  memory : AddressSpace Unit

/-- What the call returns. -/
def ExportCall.result (c : ExportCall) (k : KernelState) :
    EStateM.Result Error (AddressSpace Unit) Returned :=
  ((c.entry.handler c.cpu k).run answer).run c.memory

/-- The kernel after a call. -/
def ExportCall.next (k : KernelState) (c : ExportCall) : KernelState :=
  match c.result k with
  | .ok (some (_, _, k')) _ => k'
  | .ok none _ | .error _ _ => k

/-!
## The accounts of the export registry

A registry records one dispatch after the other.  Beside it stands the number of dispatches of each
ordinal that were not supported, which the registry is to know of those it tracks.
-/

/-- A dispatch, by its outcome, or a reset of the statistics. -/
inductive RegistryCall where
  | success
  | failure
  | unsupported (ordinal : U32) (tid : ThreadId) (eip : GuestAddr) (args : List U32) (name : String)
  | resetStats
  deriving DecidableEq, Repr

/-- A registry, and the number of unsupported dispatches of each ordinal since the last reset. -/
structure CountedRegistry where
  registry : ExportRegistry := {}
  number : U32 → ℕ := fun _ => 0

/-- The registry and the numbers after a call. -/
def RegistryCall.next (s : CountedRegistry) : RegistryCall → CountedRegistry
  | .success => { s with registry := s.registry.recordDispatchSuccess }
  | .failure => { s with registry := s.registry.recordDispatchFailure }
  | .unsupported ordinal tid eip args name =>
    { registry := s.registry.recordUnsupportedExport ordinal tid eip args name
      number := fun o => if o = ordinal then s.number o + 1 else s.number o }
  | .resetStats => { registry := s.registry.resetStats, number := fun _ => 0 }

/-- The accounts are bounded and exact. -/
structure Accounts (s : CountedRegistry) : Prop where
  tracked : s.registry.unsupportedCounts.size ≤ 64
  history : s.registry.unsupportedHistory.length ≤ 32
  totals : s.registry.totalDispatches.toNat = s.registry.successfulDispatches.toNat +
    s.registry.failedDispatches.toNat + s.registry.unsupportedDispatches.toNat
  counts : ∀ ordinal ∈ s.registry.unsupportedCounts,
    (s.registry.getUnsupportedCallCount ordinal).toNat = s.number ordinal

/-- A call finds the accounts right and leaves them right. -/
def AccountsKept (s : CountedRegistry) (call : RegistryCall) : Prop :=
  Accounts s ∧ Accounts (call.next s)

/-- The ordinal of an unsupported dispatch is tracked, or there is room for it. -/
def RoomToTrack (s : CountedRegistry) (call : RegistryCall) : Prop :=
  ∀ ordinal tid eip args name, call = .unsupported ordinal tid eip args name →
    s.registry.unsupportedCounts.size < 64 ∨ ordinal ∈ s.registry.unsupportedCounts

/-- One more dispatch does not overflow the 64-bit number of all of them. -/
def TotalFits (s : CountedRegistry) (call : RegistryCall) : Prop :=
  call ≠ .resetStats → s.registry.totalDispatches.toNat + 1 < 2 ^ 64

/-!
## What `NtClose` closes

The kernel's objects and the open files are kept in two tables, and a handle is a number in
both.  This file has what closing an open file is: the file is closed, the other files stay
open, and no handle of the kernel's table is lost.
-/

/-- The handle of a file that is open: the file system has it. -/
def isOpenFile (k : KernelState) (handle : U32) : Bool :=
  match k.fileServices.vfs with
  | none => false
  | some vfs => (vfs.handleTable.getFile (fromU32 handle)).isOk

/-- A live handle of the kernel's table. -/
def isKernelHandle (k : KernelState) (handle : U32) : Bool := k.hle.handles.isValidHandle handle

/-- Every file that was open still is. -/
def KeepsFiles (k k' : KernelState) : Prop := ∀ f, isOpenFile k f → isOpenFile k' f

/-- Every handle of an event, a mutex, a semaphore, a timer or a thread is still valid. -/
def KeepsKernelHandles (k k' : KernelState) : Prop := ∀ h, isKernelHandle k h → isKernelHandle k' h

/-- `NtClose` of the handle closes its file, and nothing else. -/
structure ClosesFile (k : KernelState) (handle : U32) : Prop where
  status : (k.ntClose handle).1 = kStatusSuccess
  closed : isOpenFile (k.ntClose handle).2 handle = false
  others : ∀ f, f ≠ handle → isOpenFile k f → isOpenFile (k.ntClose handle).2 f
  objects : KeepsKernelHandles k (k.ntClose handle).2

/-- A kernel with a file system and nothing open. -/
def bootedWith (mounts : ByteString → Option VfsVolume) : KernelState :=
  { fileServices := { vfs := some { mounts := mounts } } }

/-- A call of an export; or a new timer, which no export makes. -/
inductive ObjectCall where
  | export (call : ExportCall)
  | allocateTimer (type : TimerType)

namespace ObjectCall

/-- The kernel after a call. -/
def next (k : KernelState) : ObjectCall → KernelState
  | .export call => call.next k
  | .allocateTimer type =>
    { k with hle := { k.hle with handles := (k.hle.handles.allocateTimer type).2 } }

end ObjectCall

/-- The kernel after calls. -/
def kernelAfter (mounts : ByteString → Option VfsVolume) (calls : List ObjectCall) : KernelState :=
  calls.foldl ObjectCall.next (bootedWith mounts)

/-- What `NtClose` is to do with a handle: if it is one of an open file, it closes that file,
and if it is a live handle of the kernel's table, it closes no file. -/
structure RoutesClose (k : KernelState) (handle : U32) : Prop where
  file : isOpenFile k handle → ClosesFile k handle
  object : isKernelHandle k handle → KeepsFiles k (k.ntClose handle).2

end Xblob.Interface
