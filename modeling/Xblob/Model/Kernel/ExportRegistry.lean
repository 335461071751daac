import Std.Data.TreeMap
import Xblob.Model.Kernel.SyncObjects

/-!
# What the export registry records

The registry counts the dispatches of the kernel's exports by their outcome, and for exports that
are not supported it counts them by ordinal and keeps the latest of them.
-/

set_option autoImplicit false

namespace Xblob.Kernel

/-- `UnsupportedExportInfo`, as the registry keeps it.
SOURCE: libs/kernel/include/xblob/kernel/registry.hpp:45-52 -/
structure UnsupportedExportRecord where
  ordinal : U32 := 0
  threadId : ThreadId := kInvalidThreadId
  eip : GuestAddr := 0
  callCount : U64 := 0
  recordedArgs : List U32 := []
  name : String := ""
  deriving DecidableEq, Repr

/-- `ExportRegistry`, less the exports themselves, which nothing here reads.
SOURCE: libs/kernel/include/xblob/kernel/registry.hpp:62-105 -/
structure ExportRegistry where
  unsupportedCounts : Std.TreeMap U32 U64 := ∅
  unsupportedHistory : List UnsupportedExportRecord := []
  lastUnsupported : Option UnsupportedExportRecord := none
  totalDispatches : U64 := 0
  successfulDispatches : U64 := 0
  unsupportedDispatches : U64 := 0
  failedDispatches : U64 := 0

namespace ExportRegistry

def kMaxUnsupportedHistory : ℕ := 32
def kMaxTrackedUnsupportedOrdinals : ℕ := 64

variable (r : ExportRegistry)

/-- `RecordDispatchSuccess`. SOURCE: libs/kernel/src/registry.cpp:78-81 -/
def recordDispatchSuccess : ExportRegistry :=
  { r with
    totalDispatches := r.totalDispatches + 1
    successfulDispatches := r.successfulDispatches + 1 }

/-- `RecordDispatchFailure`. SOURCE: libs/kernel/src/registry.cpp:83-86 -/
def recordDispatchFailure : ExportRegistry :=
  { r with
    totalDispatches := r.totalDispatches + 1
    failedDispatches := r.failedDispatches + 1 }

/-- The counts after the guarded increment: an ordinal is counted if it is tracked or there is room.
SOURCE: libs/kernel/src/registry.cpp:93-96 -/
def countUnsupported (ordinal : U32) : Std.TreeMap U32 U64 :=
  if r.unsupportedCounts.size < kMaxTrackedUnsupportedOrdinals ∨ ordinal ∈ r.unsupportedCounts then
    r.unsupportedCounts.insert ordinal (r.unsupportedCounts.getD ordinal 0 + 1)
  else
    r.unsupportedCounts

/-- The history with one more entry; the oldest makes room.
SOURCE: libs/kernel/src/registry.cpp:108-111 -/
def appendHistory (history : List UnsupportedExportRecord) (info : UnsupportedExportRecord) :
    List UnsupportedExportRecord :=
  (if history.length ≥ kMaxUnsupportedHistory then history.tail else history) ++ [info]

/-- `RecordUnsupportedExport`.  The count of the entry is read with `operator[]`, which enters an
ordinal that is missing with the count 0. SOURCE: libs/kernel/src/registry.cpp:88-112 -/
def recordUnsupportedExport (ordinal : U32) (tid : ThreadId) (eip : GuestAddr) (args : List U32)
    (name : String) : ExportRegistry :=
  let counts := r.countUnsupported ordinal
  let info : UnsupportedExportRecord :=
    { ordinal := ordinal, threadId := tid, eip := eip, callCount := counts.getD ordinal 0
      recordedArgs := args, name := name }
  { r with
    totalDispatches := r.totalDispatches + 1
    unsupportedDispatches := r.unsupportedDispatches + 1
    unsupportedCounts := counts.insertIfNew ordinal 0
    lastUnsupported := some info
    unsupportedHistory := appendHistory r.unsupportedHistory info }

/-- `GetUnsupportedCallCount`. SOURCE: libs/kernel/src/registry.cpp:114-120 -/
def getUnsupportedCallCount (ordinal : U32) : U64 := r.unsupportedCounts.getD ordinal 0

/-- `ResetStats`. SOURCE: libs/kernel/src/registry.cpp:132-140 -/
def resetStats (_ : ExportRegistry) : ExportRegistry := {}

end ExportRegistry

end Xblob.Kernel
