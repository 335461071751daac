import Xblob.Model.Kernel.SyncObjects

/-!
# Guest time

The kernel's clock counts cycles.  It reads the machine's scheduler when it is connected to
one, and a counter of its own otherwise.  Timers are set to a cycle and expire when they are
advanced to it.
-/

set_option autoImplicit false

namespace Xblob.Kernel

/-- `kKernelCpuFrequencyHz`. SOURCE: libs/kernel/include/xblob/kernel/kernel_time.hpp:19 -/
def kKernelCpuFrequencyHz : U64 := 733333333

def kCyclesPerMillisecond : U64 := 733333

def kSystemTimeBaseEpoch100Ns : U64 := 126543744000000000

/-- `KernelTime`: the cycle of the scheduler it is connected to, if any, and its own counter.
SOURCE: libs/kernel/include/xblob/kernel/kernel_time.hpp:97-99 -/
structure KernelTime where
  scheduler : Option Cycle := none
  manualCycles : Cycle := 0
  deriving DecidableEq, Repr

namespace KernelTime

/-- `current_cycle`. SOURCE: libs/kernel/src/kernel_time.cpp:81-86 -/
def currentCycle (t : KernelTime) : Cycle := t.scheduler.getD t.manualCycles

/-- `SetCurrentCycle`. SOURCE: libs/kernel/include/xblob/kernel/kernel_time.hpp:74 -/
def setCurrentCycle (t : KernelTime) (cycle : Cycle) : KernelTime :=
  { t with manualCycles := cycle }

/-- `QueryPerformanceCounter`. SOURCE: libs/kernel/src/kernel_time.cpp:88-90 -/
def queryPerformanceCounter (t : KernelTime) : U64 := t.currentCycle

/-- `QuerySystemTime`. SOURCE: libs/kernel/src/kernel_time.cpp:92-96 -/
def querySystemTime (t : KernelTime) : U64 :=
  kSystemTimeBaseEpoch100Ns + t.currentCycle * 10000000 / kKernelCpuFrequencyHz

/-- `QueryTickCount`. SOURCE: libs/kernel/src/kernel_time.cpp:98-100 -/
def queryTickCount (t : KernelTime) : U32 := (t.currentCycle / kCyclesPerMillisecond).setWidth 32

/-- `MillisToCycle`. SOURCE: libs/kernel/include/xblob/kernel/kernel_time.hpp:89-91 -/
def millisToCycle (ms : U64) : Cycle := ms * kCyclesPerMillisecond

/-- `Relative100NsToCycles`, of an interval in two's complement.
SOURCE: libs/kernel/src/kernel_time.cpp:102-106 -/
def relative100NsToCycles (interval : U64) : Cycle :=
  (if interval.slt 0 then -interval else interval) * kKernelCpuFrequencyHz / 10000000

end KernelTime

namespace TimerObject

/-- `TimerObject::Set`. SOURCE: libs/kernel/src/kernel_time.cpp:9-16 -/
def set (t : TimerObject) (dueCycle : Cycle) (periodMs : U32) (dpc : GuestAddr)
    (dpcContext : U32) : TimerObject :=
  { t with
    dueCycle := dueCycle
    periodMs := periodMs
    dpcRoutine := dpc
    dpcContext := dpcContext
    signaled := false
    isActive := true }

/-- `TimerObject::Cancel`: whether it was active. SOURCE: libs/kernel/src/kernel_time.cpp:18-23 -/
def cancel (t : TimerObject) : Bool × TimerObject :=
  (t.isActive, { t with isActive := false, signaled := false })

/-- `TimerObject::AdvanceToCycle`: how often it expired.
SOURCE: libs/kernel/src/kernel_time.cpp:47-69 -/
def advanceToCycle (t : TimerObject) (currentCycle : Cycle) : U64 × TimerObject :=
  if !t.isActive || currentCycle < t.dueCycle then
    (0, t)
  else
    let t := { t with signaled := true }
    if t.periodMs = 0 then
      (1, { t with isActive := false })
    else
      let cycles := KernelTime.millisToCycle (t.periodMs.setWidth 64)
      let periodCycles := if cycles = 0 then 1 else cycles
      let count := (currentCycle - t.dueCycle) / periodCycles + 1
      (count, { t with dueCycle := t.dueCycle + count * periodCycles })

end TimerObject

end Xblob.Kernel
