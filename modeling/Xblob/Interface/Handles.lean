import Xblob.Computation.Runs
import Xblob.Model.Kernel.SyncObjects
import Xblob.Model.Vfs.HandleTable

/-!
# Handles over whole runs

A handle should be a name for one object as long as it is open, and for nothing
afterwards.  A run of a handle table is a sequence of allocations and closes, with a
record of what was allocated: the open handles with the objects they were made for, and
the handles closed.  The law says that the open handles are distinct, that each leads to
its object, and that no closed handle is accepted.

Indices and generations are 16 bits wide.  `HasRoom` says when an allocation is not at the
end of them, from the slots the table has.
-/

set_option autoImplicit false

namespace Xblob.Interface

open Xblob.Kernel

/-- How many slots have an index of 16 bits. -/
def indexCount : ℕ := 0x10000

/-- How many objects have a number of 32 bits. -/
def objectCount : ℕ := 0x100000000

/-! ## The kernel's table -/

/-- Allocations and closes on the kernel's table. -/
inductive HandleCall where
  | allocateEvent (manualReset initialState : Bool)
  | allocateMutex (initialOwner : Bool) (ownerTid : ThreadId)
  | allocateSemaphore (initialCount maxCount : I32)
  | allocateTimer (type : TimerType)
  | allocateThreadHandle (tid : ThreadId)
  | closeHandle (handle : GuestHandle)

/-- An object as it is made, or the thread a handle is for. -/
inductive KernelObject where
  | event (e : EventObject)
  | mutex (m : MutexObject)
  | semaphore (s : SemaphoreObject)
  | timer (t : TimerObject)
  | thread (tid : ThreadId)

namespace KernelObject

/-- The kind of the object. -/
def type : KernelObject → HandleType
  | .event _ => .event
  | .mutex _ => .mutex
  | .semaphore _ => .semaphore
  | .timer _ => .timer
  | .thread _ => .thread

/-- The table has the object at the place; a thread's place is its id. -/
def At (t : HandleTable) (place : ℕ) : KernelObject → Prop
  | .event e => t.events[place]? = some e
  | .mutex m => t.mutexes[place]? = some m
  | .semaphore s => t.semaphores[place]? = some s
  | .timer m => t.timers[place]? = some m
  | .thread tid => place = tid.toNat

end KernelObject

/-- The kernel's table and its record: each open handle with the object made for it, and how
many of the kind there were before or the thread's id. -/
structure HandleRun where
  table : HandleTable := {}
  opened : List (GuestHandle × KernelObject × ℕ) := []
  closed : List GuestHandle := []

namespace HandleRun

/-- A handle given out for an object and its place. -/
def issued (r : HandleRun) (result : GuestHandle × HandleTable) (object : KernelObject)
    (place : ℕ) : HandleRun :=
  { r with table := result.2, opened := (result.1, object, place) :: r.opened }

/-- One call. -/
def call (r : HandleRun) : HandleCall → HandleRun
  | .allocateEvent manualReset initialState =>
    r.issued (r.table.allocateEvent manualReset initialState)
      (.event { manualReset := manualReset, signaled := initialState }) r.table.events.length
  | .allocateMutex initialOwner ownerTid =>
    r.issued (r.table.allocateMutex initialOwner ownerTid) (.mutex (.new initialOwner ownerTid))
      r.table.mutexes.length
  | .allocateSemaphore initialCount maxCount =>
    match r.table.allocateSemaphore initialCount maxCount with
    | .error _ => r
    | .ok result =>
      r.issued result (.semaphore (.new initialCount maxCount)) r.table.semaphores.length
  | .allocateTimer type =>
    r.issued (r.table.allocateTimer type) (.timer { type := type }) r.table.timers.length
  | .allocateThreadHandle tid => r.issued (r.table.allocateThreadHandle tid) (.thread tid) tid.toNat
  | .closeHandle handle =>
    match r.table.closeHandle handle with
    | .error _ => r
    | .ok table =>
      { table := table
        opened := r.opened.filter fun entry => entry.1 ≠ handle
        closed := handle :: r.closed }

/-- The law of handles.  The object an open handle leads to is there, as it was made, and no
other open handle leads to it, unless it is a thread. -/
structure Lawful (r : HandleRun) : Prop where
  distinct : (r.opened.map Prod.fst).Nodup
  resolves : ∀ h object place, (h, object, place) ∈ r.opened →
    r.table.getObject h object.type = .ok place ∧ object.At r.table place
  apart : r.opened.Pairwise fun x y => x.2.1.type = y.2.1.type → x.2.1.type ≠ .thread →
    x.2.2 ≠ y.2.2
  gone : ∀ h ∈ r.closed, r.table.isValidHandle h = false

/-- The slot an allocation takes still has a handle to give: a free slot has not gone through
all generations, nor is its next handle the invalid one; a new slot has an index. -/
def SlotRoom (t : HandleTable) : Prop :=
  match t.slots.findIdx? fun s => !s.inUse with
  | some i => ∀ s, t.slots[i]? = some s → s.entry.generation ≠ 1 ∧
      encodeHandle (BitVec.ofNat 16 i) s.entry.generation ≠ kInvalidHandle
  | none => t.slots.length < indexCount

/-- The call is not at the end of slots, generations or objects. -/
def HasRoom (t : HandleTable) : HandleCall → Prop
  | .allocateEvent _ _ => SlotRoom t ∧ t.events.length < objectCount
  | .allocateMutex _ _ => SlotRoom t ∧ t.mutexes.length < objectCount
  | .allocateSemaphore _ _ => SlotRoom t ∧ t.semaphores.length < objectCount
  | .allocateTimer _ => SlotRoom t ∧ t.timers.length < objectCount
  | .allocateThreadHandle _ => SlotRoom t
  | .closeHandle _ => True

/-- Calls made one after the other, each with room. -/
def Runs : List HandleCall → HandleRun → HandleRun → Prop :=
  Computation.Runs call fun r => HasRoom r.table

end HandleRun

/-! ## The table of the file system -/

open Xblob.Vfs

variable {β ι : Type}

/-- Allocations and closes on the file system's table. -/
inductive VfsCall (β ι : Type) where
  | allocateFile (source : Option β) (mode : VfsAccessMode) (info : ι)
  | allocateDir (entries : List VfsDirEntry) (info : ι)
  | close (handle : VfsHandle)

/-- What a handle was made for. -/
inductive VfsObject (β ι : Type) where
  | file (slot : FileSlot β ι)
  | dir (slot : DirSlot ι)

/-- The file system's table and its record. -/
structure VfsRun (β ι : Type) where
  table : VfsHandleTable β ι := {}
  opened : List (VfsHandle × VfsObject β ι) := []
  closed : List VfsHandle := []

namespace VfsRun

/-- A handle given out for a file or a directory. -/
def issued (r : VfsRun β ι) (result : Result (VfsHandle × VfsHandleTable β ι))
    (object : VfsObject β ι) : VfsRun β ι :=
  match result with
  | .error _ => r
  | .ok (handle, table) => { r with table := table, opened := (handle, object) :: r.opened }

/-- One call. -/
def call (r : VfsRun β ι) : VfsCall β ι → VfsRun β ι
  | .allocateFile source mode info =>
    r.issued (r.table.allocateFile source mode info)
      (.file { source := source, position := 0, mode := mode, info := some info })
  | .allocateDir entries info =>
    r.issued (r.table.allocateDir entries info)
      (.dir { entries := entries, enumerationIndex := 0, info := some info })
  | .close handle =>
    match r.table.close handle with
    | .error _ => r
    | .ok table =>
      { table := table
        opened := r.opened.filter fun entry => entry.1 ≠ handle
        closed := handle :: r.closed }

/-- A handle leads to the file or the directory. -/
def Resolves (t : VfsHandleTable β ι) (h : VfsHandle) : VfsObject β ι → Prop
  | .file slot => t.getFile h = .ok slot
  | .dir slot => t.getDir h = .ok slot

/-- The law of handles. -/
structure Lawful (r : VfsRun β ι) : Prop where
  distinct : (r.opened.map Prod.fst).Nodup
  resolves : ∀ h object, (h, object) ∈ r.opened → Resolves r.table h object
  gone : ∀ h ∈ r.closed, (r.table.getType h).isOk = false

/-- The slot an allocation takes still has a handle to give. -/
def SlotRoom (t : VfsHandleTable β ι) : Prop :=
  match t.slots.findIdx? fun s => !s.isOpen with
  | some i => ∀ s, t.slots[i]? = some s → s.generation ≠ 1
  | none => t.slots.length < t.maxHandles → t.slots.length < indexCount

/-- The call is not at the end of slots or generations. -/
def HasRoom (t : VfsHandleTable β ι) : VfsCall β ι → Prop
  | .close _ => True
  | .allocateFile _ _ _ | .allocateDir _ _ => SlotRoom t

/-- Calls made one after the other, each with room. -/
def Runs : List (VfsCall β ι) → VfsRun β ι → VfsRun β ι → Prop :=
  Computation.Runs call fun r => HasRoom r.table

end VfsRun

end Xblob.Interface
