import Mathlib.Algebra.Order.Ring.Int
import Xblob.Computation.Deadlines
import Xblob.Computation.Runs
import Xblob.Model.Kernel.KernelHle
import Xblob.Model.Kernel.KernelTime
import Xblob.Model.Kernel.SyncObjects

/-!
# Kernel times, timers and semaphores

What the times of the kernel, its timers and its semaphores are to be, said on integers.
-/

set_option autoImplicit false

namespace Xblob.Interface

open Xblob.Computation Xblob.Kernel Xblob.Processor

/-!
## Conversions of guest time

Cycles are turned into intervals of a hundred nanoseconds, and intervals into cycles.  This file
has the exact conversions, and what a timer and a delay are to make of them.
-/

section KernelTimes

/-- A kernel with a timer and a running thread, and an interval whose number of cycles fits in 64
bits. -/
structure TimeCalls where
  kernel : KernelHle
  cpu : CpuContext
  timer : GuestHandle
  place : ℕ
  live : kernel.handles.getObject timer .timer = .ok place
  object : TimerObject
  stored : kernel.handles.timers[place]? = some object
  thread : GuestThread
  running : kernel.threads.getThread kernel.threads.currentTid = some thread
  interval : U64
  periodMs : U32
  dpc : GuestAddr
  fits : interval.toInt.natAbs * 733333333 / 10000000 < 0x10000000000000000

namespace TimeCalls

variable (c : TimeCalls)

/-- The cycle count. -/
def cycles : Cycle := c.kernel.time.currentCycle

/-- The system time of the cycle count. -/
def systemTime : ℕ := 126543744000000000 + c.cycles.toNat * 10000000 / 733333333

/-- The cycles of the interval, whatever its sign. -/
def delay : ℕ := c.interval.toInt.natAbs * 733333333 / 10000000

/-- The kernel after `KeSetTimer`. -/
def timerSet : KernelHle := (c.kernel.keSetTimer c.timer c.interval c.periodMs c.dpc).2

/-- The kernel after `NtDelayExecution`. -/
def delayed : KernelHle := (c.kernel.ntDelayExecution c.cpu c.interval).2.2

/-- The conversions are exact, and the timer and the delay are set by them. -/
structure Exact : Prop where
  systemTime : c.kernel.time.querySystemTime.toNat = c.systemTime
  monotone : ∀ t : KernelTime, t.currentCycle ≤ c.cycles →
    t.querySystemTime ≤ c.kernel.time.querySystemTime
  delay : (KernelTime.relative100NsToCycles c.interval).toNat = c.delay
  due : c.timerSet.handles.timers[c.place]?.map TimerObject.dueCycle =
    some (c.cycles + BitVec.ofNat 64 c.delay)
  deadline : (c.delayed.threads.getThread c.kernel.threads.currentTid).map
      (fun t => (t.hasTimeout, t.timeoutCycle)) =
    some (true, c.cycles + BitVec.ofNat 64 c.delay)

/-- The products fit in 64 bits. -/
def ProductsFit : Prop :=
  c.cycles.toNat * 10000000 < 0x10000000000000000 ∧
    c.interval.toInt.natAbs * 733333333 < 0x10000000000000000

end TimeCalls

end KernelTimes

/-!
## Advancing a timer

A timer is advanced to a cycle and counts how often it has expired until then.  To advance it in
two parts is to be the same as to advance it at once.
-/

/-- The cycles from one expiration of a periodic timer to the next. -/
def periodCycles (t : TimerObject) : Cycle :=
  let cycles := KernelTime.millisToCycle (t.periodMs.setWidth 64)
  if cycles = 0 then 1 else cycles

/-- The due cycles of a periodic timer that have passed, as numbers. -/
def expirations (t : TimerObject) (current : Cycle) : ℕ :=
  passed t.dueCycle.toNat (periodCycles t).toNat current.toNat

/-- The due cycle of a timer that has been advanced fits in 64 bits. -/
def AdvanceFits (t : TimerObject) (current : Cycle) : Prop :=
  t.isActive → t.periodMs ≠ 0 →
    t.dueCycle.toNat + expirations t current * (periodCycles t).toNat < 2 ^ 64

/-- Advancing to one cycle and then to another is advancing to the other. -/
structure AdvancesInParts (t : TimerObject) (first second : Cycle) : Prop where
  timer : ((t.advanceToCycle first).2.advanceToCycle second).2 = (t.advanceToCycle second).2
  count : (t.advanceToCycle first).1.toNat + ((t.advanceToCycle first).2.advanceToCycle second).1.toNat =
    (t.advanceToCycle second).1.toNat

/-- A periodic timer that expires is due again in the future, a number of periods later. -/
def DueAhead (t : TimerObject) (current : Cycle) : Prop :=
  t.isActive → t.periodMs ≠ 0 → t.dueCycle ≤ current →
    current < (t.advanceToCycle current).2.dueCycle ∧
      (t.advanceToCycle current).2.dueCycle.toNat % (periodCycles t).toNat =
        t.dueCycle.toNat % (periodCycles t).toNat

/-!
## Semaphores

A semaphore that has been created takes calls that lower its count and calls that raise it.  What
it is to answer is said by the counts as integers.
-/

/-- A semaphore that `AllocateSemaphore` has created. -/
structure CreatedSemaphore where
  initialCount : I32
  maxCount : I32
  table : HandleTable
  handle : GuestHandle
  tableAfter : HandleTable
  created : table.allocateSemaphore initialCount maxCount = .ok (handle, tableAfter)

/-- The object that has been created. -/
def CreatedSemaphore.object (c : CreatedSemaphore) : SemaphoreObject :=
  .new c.initialCount c.maxCount

/-- A call of a semaphore. -/
inductive SemaphoreCall where
  | acquire (tid : ThreadId)
  | satisfyWait (tid : ThreadId)
  | release (releaseCount : I32)
  deriving DecidableEq, Repr

/-- The semaphore after a call; `SatisfyWait` acquires. -/
def SemaphoreCall.next (s : SemaphoreObject) : SemaphoreCall → SemaphoreObject
  | .acquire _ | .satisfyWait _ => s.acquire.2
  | .release releaseCount =>
    match s.release releaseCount with
    | .ok (_, s') => s'
    | .error _ => s

/-- The count is between zero and the maximum. -/
def CountBounded (s : SemaphoreObject) : Prop :=
  0 ≤ s.currentCount.toInt ∧ s.currentCount.toInt ≤ s.maximumCount.toInt

/-- A release succeeds exactly if the count stays within the maximum, and adds to the count then;
one that fails changes nothing. -/
structure ReleaseExact (s : SemaphoreObject) (releaseCount : I32) : Prop where
  succeeds : 0 < releaseCount.toInt → ((s.release releaseCount).isOk ↔
    s.currentCount.toInt + releaseCount.toInt ≤ s.maximumCount.toInt)
  added : (s.release releaseCount).isOk →
    (SemaphoreCall.next s (.release releaseCount)).currentCount.toInt =
      s.currentCount.toInt + releaseCount.toInt
  unchanged : ¬ (s.release releaseCount).isOk →
    SemaphoreCall.next s (.release releaseCount) = s

/-- A call leaves the count bounded, and a release is exact. -/
structure CallSound (s : SemaphoreObject) (call : SemaphoreCall) : Prop where
  before : CountBounded s
  after : CountBounded (call.next s)
  release : ∀ releaseCount, call = .release releaseCount → ReleaseExact s releaseCount

/-- The sum of the count and a number to release is a 32-bit number. -/
def SumFits (s : SemaphoreObject) (call : SemaphoreCall) : Prop :=
  ∀ releaseCount, call = .release releaseCount → 0 < releaseCount.toInt →
    s.currentCount.toInt + releaseCount.toInt < 2 ^ 31

end Xblob.Interface
