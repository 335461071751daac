import Xblob.Model.Common

/-!
# Kernel objects and their handles

The kernel emulation keeps events, mutexes, semaphores and timers in vectors and gives the
guest handles to them.  A handle packs the index of a slot and the generation of the slot
into 16 bits each; a slot says what kind of object it stands for and which one.  Closing a
handle frees the slot and raises its generation, so that old handles no longer fit.

Objects are never destroyed: a freed slot forgets its object, and the next allocation
appends a new one.
-/

set_option autoImplicit false

namespace Xblob.Kernel

/-- `GuestHandle`. -/
abbrev GuestHandle := U32

/-- `ThreadId`. -/
abbrev ThreadId := U32

/-- A signed 32-bit integer, two's complement. -/
abbrev I32 := BitVec 32

/-- `kInvalidHandle`. SOURCE: libs/kernel/include/xblob/kernel/types.hpp:12 -/
def kInvalidHandle : GuestHandle := 0xFFFFFFFF

/-- `kInvalidThreadId`. SOURCE: libs/kernel/include/xblob/kernel/types.hpp:13 -/
def kInvalidThreadId : ThreadId := 0

def kStatusSuccess : U32 := 0x00000000
def kStatusWaitTimeout : U32 := 0x00000102
def kStatusUnsuccessful : U32 := 0xC0000001
def kStatusAccessViolation : U32 := 0xC0000005
def kStatusInvalidHandle : U32 := 0xC0000008
def kStatusInvalidParameter : U32 := 0xC000000D
def kStatusWait0 : U32 := 0x00000000

/-- `HandleType`. SOURCE: libs/kernel/include/xblob/kernel/types.hpp:25-33 -/
inductive HandleType where
  | none | event | mutex | thread | semaphore | timer | file
  deriving DecidableEq, Repr

/-- `EncodeHandle`. SOURCE: libs/kernel/include/xblob/kernel/types.hpp:49-51 -/
def encodeHandle (index generation : U16) : GuestHandle :=
  (generation.setWidth 32 <<< 16) ||| index.setWidth 32

/-- `GetHandleIndex`. SOURCE: libs/kernel/include/xblob/kernel/types.hpp:53-55 -/
def getHandleIndex (handle : GuestHandle) : U16 := (handle &&& 0xFFFF).setWidth 16

/-- `GetHandleGeneration`. SOURCE: libs/kernel/include/xblob/kernel/types.hpp:57-59 -/
def getHandleGeneration (handle : GuestHandle) : U16 := ((handle >>> 16) &&& 0xFFFF).setWidth 16

/-! ## Waiting threads -/

/-- `AddWaitingThread`, alike for all objects: a thread is entered once.
SOURCE: libs/kernel/src/sync_objects.cpp:28-33 -/
def addWaitingThread (waitingThreads : List ThreadId) (tid : ThreadId) : List ThreadId :=
  if tid ∈ waitingThreads then waitingThreads else waitingThreads ++ [tid]

/-- `RemoveWaitingThread`, alike for all objects.
SOURCE: libs/kernel/src/sync_objects.cpp:35-38 -/
def removeWaitingThread (waitingThreads : List ThreadId) (tid : ThreadId) : List ThreadId :=
  waitingThreads.filter (· ≠ tid)

/-! ## Objects -/

/-- `EventObject`. -/
structure EventObject where
  manualReset : Bool
  signaled : Bool
  waitingThreads : List ThreadId := []
  deriving DecidableEq, Repr

/-- `EventObject::SatisfyWait`. SOURCE: libs/kernel/src/sync_objects.cpp:18-26 -/
def EventObject.satisfyWait (e : EventObject) : Bool × EventObject :=
  if e.signaled then
    (true, if e.manualReset then e else { e with signaled := false })
  else
    (false, e)

/-- `MutexObject`. -/
structure MutexObject where
  ownerTid : ThreadId := kInvalidThreadId
  recursionCount : U32 := 0
  waitingThreads : List ThreadId := []
  deriving DecidableEq, Repr

/-- The constructor. SOURCE: libs/kernel/src/sync_objects.cpp:40-42 -/
def MutexObject.new (initialOwner : Bool) (ownerTid : ThreadId) : MutexObject :=
  { ownerTid := if initialOwner then ownerTid else kInvalidThreadId
    recursionCount := if initialOwner then 1 else 0 }

/-- `MutexObject::is_signaled`. -/
def MutexObject.isSignaled (m : MutexObject) (tid : ThreadId) : Bool :=
  m.recursionCount == 0 || m.ownerTid == tid

/-- `MutexObject::Acquire`, which is also `SatisfyWait`.
SOURCE: libs/kernel/src/sync_objects.cpp:44-55 -/
def MutexObject.acquire (m : MutexObject) (tid : ThreadId) : Bool × MutexObject :=
  if m.recursionCount = 0 then
    (true, { m with ownerTid := tid, recursionCount := 1 })
  else if m.ownerTid = tid then
    (true, { m with recursionCount := m.recursionCount + 1 })
  else
    (false, m)

/-- `MutexObject::Release`. SOURCE: libs/kernel/src/sync_objects.cpp:57-66 -/
def MutexObject.release (m : MutexObject) (tid : ThreadId) : Result MutexObject :=
  if m.ownerTid ≠ tid ∨ m.recursionCount = 0 then
    .error { code := .invalidArgument, message := "Mutant não pertence à thread chamadora" }
  else
    let count := m.recursionCount - 1
    .ok { m with
      recursionCount := count
      ownerTid := if count = 0 then kInvalidThreadId else m.ownerTid }

/-- `SemaphoreObject`. -/
structure SemaphoreObject where
  currentCount : I32 := 0
  maximumCount : I32 := 1
  waitingThreads : List ThreadId := []
  deriving DecidableEq, Repr

/-- The constructor. SOURCE: libs/kernel/src/sync_objects.cpp:85-86 -/
def SemaphoreObject.new (initialCount maximumCount : I32) : SemaphoreObject :=
  { currentCount := initialCount
    maximumCount := if (0 : I32).slt maximumCount then maximumCount else 1 }

/-- `SemaphoreObject::is_signaled`. -/
def SemaphoreObject.isSignaled (s : SemaphoreObject) : Bool := (0 : I32).slt s.currentCount

/-- `SemaphoreObject::Acquire`, which is also `SatisfyWait`.
SOURCE: libs/kernel/src/sync_objects.cpp:88-94 -/
def SemaphoreObject.acquire (s : SemaphoreObject) : Bool × SemaphoreObject :=
  if s.isSignaled then (true, { s with currentCount := s.currentCount - 1 }) else (false, s)

/-- `SemaphoreObject::Release`: the count before, and the object after.
SOURCE: libs/kernel/src/sync_objects.cpp:96-108 -/
def SemaphoreObject.release (s : SemaphoreObject) (releaseCount : I32) :
    Result (I32 × SemaphoreObject) :=
  if releaseCount.sle 0 then
    .error { code := .invalidArgument, message := "Release count deve ser maior que zero" }
  else if s.maximumCount.slt (s.currentCount + releaseCount) then
    .error { code := .limitReached, message := "Limite máximo do semáforo excedido" }
  else
    .ok (s.currentCount, { s with currentCount := s.currentCount + releaseCount })

/-- `TimerType`. SOURCE: libs/kernel/include/xblob/kernel/kernel_time.hpp:25-28 -/
inductive TimerType where
  | notificationTimer | synchronizationTimer
  deriving DecidableEq, Repr

/-- `TimerObject`. -/
structure TimerObject where
  type : TimerType
  signaled : Bool := false
  isActive : Bool := false
  dueCycle : Cycle := 0
  periodMs : U32 := 0
  dpcRoutine : GuestAddr := 0
  dpcContext : U32 := 0
  waitingThreads : List ThreadId := []
  deriving DecidableEq, Repr

/-- `TimerObject::SatisfyWait`. SOURCE: libs/kernel/src/kernel_time.cpp:25-33 -/
def TimerObject.satisfyWait (t : TimerObject) : Bool × TimerObject :=
  if t.signaled then
    (true, if t.type = .synchronizationTimer then { t with signaled := false } else t)
  else
    (false, t)

/-! ## The handle table -/

/-- `HandleEntry`. SOURCE: libs/kernel/include/xblob/kernel/types.hpp:43-47 -/
structure HandleEntry where
  type : HandleType := .none
  generation : U16 := 1
  objectId : U32 := 0
  deriving DecidableEq, Repr

/-- `HandleTable::Slot`. -/
structure Slot where
  entry : HandleEntry := {}
  inUse : Bool := false
  deriving DecidableEq, Repr

/-- `HandleTable`. SOURCE: libs/kernel/include/xblob/kernel/sync_objects.hpp:125-134 -/
structure HandleTable where
  slots : List Slot := []
  events : List EventObject := []
  mutexes : List MutexObject := []
  semaphores : List SemaphoreObject := []
  timers : List TimerObject := []
  deriving DecidableEq, Repr

namespace HandleTable

/-- The slot part of every allocation: the first slot not in use is taken with the
generation it has, else a new one is appended.
SOURCE: libs/kernel/src/sync_objects.cpp:141-157 -/
def allocateSlot (t : HandleTable) (type : HandleType) (objectId : U32) :
    GuestHandle × HandleTable :=
  match t.slots.findIdx? fun s => !s.inUse with
  | some i =>
    (encodeHandle (BitVec.ofNat 16 i) ((t.slots.getD i {}).entry.generation),
      { t with slots := t.slots.modify i fun s =>
          { s with inUse := true, entry := { s.entry with type := type, objectId := objectId } } })
  | none =>
    (encodeHandle (BitVec.ofNat 16 t.slots.length) 1,
      { t with slots := t.slots ++
          [{ entry := { type := type, generation := 1, objectId := objectId }, inUse := true }] })

/-- `AllocateEvent`. SOURCE: libs/kernel/src/sync_objects.cpp:137-157 -/
def allocateEvent (t : HandleTable) (manualReset initialState : Bool) :
    GuestHandle × HandleTable :=
  allocateSlot { t with events := t.events ++ [⟨manualReset, initialState, []⟩] } .event
    (BitVec.ofNat 32 t.events.length)

/-- `AllocateMutex`. SOURCE: libs/kernel/src/sync_objects.cpp:159-179 -/
def allocateMutex (t : HandleTable) (initialOwner : Bool) (ownerTid : ThreadId) :
    GuestHandle × HandleTable :=
  allocateSlot { t with mutexes := t.mutexes ++ [.new initialOwner ownerTid] } .mutex
    (BitVec.ofNat 32 t.mutexes.length)

/-- `AllocateSemaphore`. SOURCE: libs/kernel/src/sync_objects.cpp:181-204 -/
def allocateSemaphore (t : HandleTable) (initialCount maxCount : I32) :
    Result (GuestHandle × HandleTable) :=
  if initialCount.slt 0 ∨ maxCount.sle 0 ∨ maxCount.slt initialCount then
    .error { code := .invalidArgument, message := "Parâmetros de semáforo inválidos" }
  else
    .ok (allocateSlot { t with semaphores := t.semaphores ++ [.new initialCount maxCount] }
      .semaphore (BitVec.ofNat 32 t.semaphores.length))

/-- `AllocateTimer`. SOURCE: libs/kernel/src/sync_objects.cpp:206-226 -/
def allocateTimer (t : HandleTable) (type : TimerType) : GuestHandle × HandleTable :=
  allocateSlot { t with timers := t.timers ++ [{ type := type }] } .timer
    (BitVec.ofNat 32 t.timers.length)

/-- `AllocateThreadHandle`. SOURCE: libs/kernel/src/sync_objects.cpp:228-245 -/
def allocateThreadHandle (t : HandleTable) (tid : ThreadId) : GuestHandle × HandleTable :=
  allocateSlot t .thread tid

/-- `ValidateSlotOnly`: the index of the slot and the slot.
SOURCE: libs/kernel/src/sync_objects.cpp:260-275 -/
def validateSlotOnly (t : HandleTable) (handle : GuestHandle) : Result (ℕ × Slot) :=
  if handle = kInvalidHandle then
    .error { code := .invalidArgument, message := "Handle nulo ou inválido"
             offset := handle.setWidth 64 }
  else
    let idx := (getHandleIndex handle).toNat
    match t.slots[idx]? with
    | none => .error { code := .outOfBounds, message := "Índice de handle fora dos limites"
                       offset := handle.setWidth 64 }
    | some s =>
      if !s.inUse || s.entry.generation != getHandleGeneration handle then
        .error { code := .invalidArgument, message := "Handle stale ou reutilizado"
                 offset := handle.setWidth 64 }
      else
        .ok (idx, s)

/-- `ValidateAndGetSlot`. SOURCE: libs/kernel/src/sync_objects.cpp:247-258 -/
def validateAndGetSlot (t : HandleTable) (handle : GuestHandle) (expectedType : HandleType) :
    Result (ℕ × Slot) :=
  match t.validateSlotOnly handle with
  | .error e => .error e
  | .ok (idx, s) =>
    if s.entry.type ≠ expectedType then
      .error { code := .invalidArgument, message := "Tipo de handle divergente do esperado"
               offset := handle.setWidth 64 }
    else
      .ok (idx, s)

/-- `IsValidHandle`. SOURCE: libs/kernel/src/sync_objects.cpp:277-279 -/
def isValidHandle (t : HandleTable) (handle : GuestHandle) : Bool :=
  (t.validateSlotOnly handle).isOk

/-- `GetThreadId`. SOURCE: libs/kernel/src/sync_objects.cpp:309-314 -/
def getThreadId (t : HandleTable) (handle : GuestHandle) : Result ThreadId :=
  (t.validateAndGetSlot handle .thread).map fun r => r.2.entry.objectId

/-- The object `GetEvent`, `GetMutex`, `GetSemaphore` and `GetTimer` point to: its place in
the vector of its kind. SOURCE: libs/kernel/src/sync_objects.cpp:285-311 -/
def getObject (t : HandleTable) (handle : GuestHandle) (type : HandleType) : Result ℕ :=
  (t.validateAndGetSlot handle type).map fun r => r.2.entry.objectId.toNat

/-- `IsObjectSignaled`. SOURCE: libs/kernel/src/sync_objects.cpp:323-343 -/
def isObjectSignaled (t : HandleTable) (handle : GuestHandle) (tid : ThreadId) : Bool :=
  match t.validateSlotOnly handle with
  | .error _ => false
  | .ok (_, s) =>
    let i := s.entry.objectId.toNat
    match s.entry.type with
    | .event => (t.events[i]?).elim false EventObject.signaled
    | .mutex => (t.mutexes[i]?).elim false fun m => m.isSignaled tid
    | .semaphore => (t.semaphores[i]?).elim false SemaphoreObject.isSignaled
    | .timer => (t.timers[i]?).elim false TimerObject.signaled
    | .thread | .none | .file => false

/-- `SatisfyWait`: whether the object was signaled, and the table after it.
SOURCE: libs/kernel/src/sync_objects.cpp:345-365 -/
def satisfyWait (t : HandleTable) (handle : GuestHandle) (tid : ThreadId) : Bool × HandleTable :=
  match t.validateSlotOnly handle with
  | .error _ => (false, t)
  | .ok (_, s) =>
    let i := s.entry.objectId.toNat
    match s.entry.type with
    | .event =>
      ((t.events[i]?).elim false fun e => e.satisfyWait.1,
        { t with events := t.events.modify i fun e => e.satisfyWait.2 })
    | .mutex =>
      ((t.mutexes[i]?).elim false fun m => (m.acquire tid).1,
        { t with mutexes := t.mutexes.modify i fun m => (m.acquire tid).2 })
    | .semaphore =>
      ((t.semaphores[i]?).elim false fun s => s.acquire.1,
        { t with semaphores := t.semaphores.modify i fun s => s.acquire.2 })
    | .timer =>
      ((t.timers[i]?).elim false fun m => m.satisfyWait.1,
        { t with timers := t.timers.modify i fun m => m.satisfyWait.2 })
    | .thread | .none | .file => (false, t)

/-- `CloseHandle`. SOURCE: libs/kernel/src/sync_objects.cpp:417-427 -/
def closeHandle (t : HandleTable) (handle : GuestHandle) : Result HandleTable :=
  match t.validateSlotOnly handle with
  | .error e => .error e
  | .ok (idx, _) => .ok { t with slots := t.slots.modify idx fun s =>
      { s with
        inUse := false
        entry := { s.entry with type := .none, generation := s.entry.generation + 1 } } }

/-- The waiting threads of the object behind a slot, changed. -/
def changeWaiting (t : HandleTable) (entry : HandleEntry)
    (change : List ThreadId → List ThreadId) : HandleTable :=
  let i := entry.objectId.toNat
  match entry.type with
  | .event => { t with events := t.events.modify i fun e =>
      { e with waitingThreads := change e.waitingThreads } }
  | .mutex => { t with mutexes := t.mutexes.modify i fun m =>
      { m with waitingThreads := change m.waitingThreads } }
  | .semaphore => { t with semaphores := t.semaphores.modify i fun s =>
      { s with waitingThreads := change s.waitingThreads } }
  | .timer => { t with timers := t.timers.modify i fun m =>
      { m with waitingThreads := change m.waitingThreads } }
  | .thread | .none | .file => t

/-- `AddWaitingThread`. SOURCE: libs/kernel/src/sync_objects.cpp:367-390 -/
def addWaitingThread (t : HandleTable) (handle : GuestHandle) (tid : ThreadId) : HandleTable :=
  match t.validateSlotOnly handle with
  | .error _ => t
  | .ok (_, s) => t.changeWaiting s.entry fun l => Kernel.addWaitingThread l tid

/-- `RemoveWaitingThread`. SOURCE: libs/kernel/src/sync_objects.cpp:394-415 -/
def removeWaitingThread (t : HandleTable) (handle : GuestHandle) (tid : ThreadId) : HandleTable :=
  match t.validateSlotOnly handle with
  | .error _ => t
  | .ok (_, s) => t.changeWaiting s.entry fun l => Kernel.removeWaitingThread l tid

end HandleTable

end Xblob.Kernel
