import Xblob.Model.Cpu.Registers
import Xblob.Model.Kernel.SyncObjects

/-!
# The scheduler of guest threads

Guest threads share one processor.  The scheduler keeps the threads by id, the queue of
those ready to run, and the id of the current one, whose registers are live: they stand in
the processor, and `context` holds what was saved when the thread last gave the processor
up.  Every switch goes through `ScheduleNext`, which takes the head of the queue and loads
its context; when the queue is empty nothing is switched, and the current thread stays
current in whatever state it has.

A function that takes the live context by reference returns the context after it.
-/

set_option autoImplicit false

namespace Xblob.Kernel

open Xblob.Processor

/-- `ThreadState`. SOURCE: libs/kernel/include/xblob/kernel/thread_scheduler.hpp:18-24 -/
inductive ThreadState where
  | ready | running | blocked | suspended | terminated
  deriving DecidableEq, Repr

/-- `GuestThread`. SOURCE: libs/kernel/include/xblob/kernel/thread_scheduler.hpp:26-41 -/
structure GuestThread where
  id : ThreadId := kInvalidThreadId
  state : ThreadState := .ready
  context : CpuContext := {}
  stackBase : GuestAddr := 0
  stackSize : ℕ := 0
  kernelAllocatedStack : Bool := false
  waitHandles : List GuestHandle := []
  waitAll : Bool := false
  hasTimeout : Bool := false
  timeoutCycle : Cycle := 0
  waitStatus : U32 := kStatusSuccess
  exitCode : U32 := 0
  suspendCount : U32 := 0
  priority : U8 := 8

/-- `ThreadScheduler`. SOURCE: libs/kernel/include/xblob/kernel/thread_scheduler.hpp:81-84 -/
structure ThreadScheduler where
  nextTid : ThreadId := 1
  currentTid : ThreadId := kInvalidThreadId
  threads : Std.TreeMap ThreadId GuestThread := ∅
  readyQueue : List ThreadId := []

namespace ThreadScheduler

/-- `current_thread`. SOURCE: libs/kernel/src/thread_scheduler.cpp:44-56 -/
def currentThread (s : ThreadScheduler) : Option GuestThread := s.threads[s.currentTid]?

/-- `GetThread`. SOURCE: libs/kernel/src/thread_scheduler.cpp:58-63 -/
def getThread (s : ThreadScheduler) (tid : ThreadId) : Option GuestThread := s.threads[tid]?

/-- A change to a thread in the table. -/
def modifyThread (s : ThreadScheduler) (tid : ThreadId) (f : GuestThread → GuestThread) :
    ThreadScheduler :=
  { s with threads := s.threads.modify tid f }

/-- `EnqueueReady`. SOURCE: libs/kernel/src/thread_scheduler.cpp:74-78 -/
def enqueueReady (s : ThreadScheduler) (tid : ThreadId) : ThreadScheduler :=
  if s.readyQueue.contains tid then s else { s with readyQueue := s.readyQueue ++ [tid] }

/-- A thread taken out of the queue. -/
def dequeue (s : ThreadScheduler) (tid : ThreadId) : ThreadScheduler :=
  { s with readyQueue := s.readyQueue.filter (· ≠ tid) }

/-- The thread `CreateThread` makes. SOURCE: libs/kernel/src/thread_scheduler.cpp:21-30 -/
def newThread (tid : ThreadId) (entryPoint stackTop stackBase : GuestAddr) (stackSize : ℕ)
    (kernelAllocatedStack : Bool) : GuestThread :=
  { id := tid
    state := .ready
    context := { ({} : CpuContext) with eip := entryPoint }.setGpr .esp stackTop
    stackBase := stackBase
    stackSize := stackSize
    kernelAllocatedStack := kernelAllocatedStack
    priority := 8 }

/-- `CreateThread`: the parameter is not looked at.
SOURCE: libs/kernel/src/thread_scheduler.cpp:16-42 -/
def createThread (s : ThreadScheduler) (entryPoint stackTop : GuestAddr) (_parameter : U32)
    (stackBase : GuestAddr) (stackSize : ℕ) (kernelAllocatedStack : Bool) :
    ThreadId × ThreadScheduler :=
  let tid := s.nextTid
  let s := { s with
    nextTid := tid + 1
    threads := s.threads.insert tid
      (newThread tid entryPoint stackTop stackBase stackSize kernelAllocatedStack) }
  if s.currentTid = kInvalidThreadId then
    (tid, { s with currentTid := tid }.modifyThread tid fun t => { t with state := .running })
  else
    (tid, s.enqueueReady tid)

/-- The recursion of `ScheduleNext` along the queue: threads that are gone, terminated or
suspended are dropped. -/
def scheduleFrom (s : ThreadScheduler) (ctx : CpuContext) :
    List ThreadId → Bool × CpuContext × ThreadScheduler
  | [] => (false, ctx, { s with readyQueue := [] })
  | next :: rest =>
    match s.threads[next]? with
    | none => scheduleFrom s ctx rest
    | some t =>
      if t.state = .terminated ∨ t.state = .suspended then
        scheduleFrom s ctx rest
      else
        (true, t.context,
          { s with currentTid := next, readyQueue := rest }.modifyThread next
            fun t => { t with state := .running })

/-- `ScheduleNext`: whether a thread was switched to, and the live context after it.
SOURCE: libs/kernel/src/thread_scheduler.cpp:207-225 -/
def scheduleNext (s : ThreadScheduler) (ctx : CpuContext) : Bool × CpuContext × ThreadScheduler :=
  scheduleFrom s ctx s.readyQueue

/-- What `Yield` does before it schedules: the current thread gives the processor up.
SOURCE: libs/kernel/src/thread_scheduler.cpp:81-87 -/
def giveUp (s : ThreadScheduler) (ctx : CpuContext) : ThreadScheduler :=
  match s.currentThread with
  | none => s
  | some curr =>
    if curr.state = .running then
      (s.modifyThread s.currentTid fun t =>
        { t with context := ctx, state := .ready }).enqueueReady curr.id
    else
      s.modifyThread s.currentTid fun t => { t with context := ctx }

/-- `Yield`. SOURCE: libs/kernel/src/thread_scheduler.cpp:80-90 -/
def yield (s : ThreadScheduler) (ctx : CpuContext) : CpuContext × ThreadScheduler :=
  ((s.giveUp ctx).scheduleNext ctx).2

/-- What `BlockCurrentWithTimeout` does before it schedules.
SOURCE: libs/kernel/src/thread_scheduler.cpp:108-113 -/
def block (s : ThreadScheduler) (handles : List GuestHandle) (waitAll hasTimeout : Bool)
    (timeoutCycle : Cycle) (ctx : CpuContext) : ThreadScheduler :=
  s.modifyThread s.currentTid fun t =>
    { t with
      context := ctx
      state := .blocked
      waitHandles := handles
      waitAll := waitAll
      hasTimeout := hasTimeout
      timeoutCycle := timeoutCycle }

/-- `BlockCurrentWithTimeout`. SOURCE: libs/kernel/src/thread_scheduler.cpp:100-116 -/
def blockCurrentWithTimeout (s : ThreadScheduler) (handles : List GuestHandle)
    (waitAll hasTimeout : Bool) (timeoutCycle : Cycle) (ctx : CpuContext) :
    Result (CpuContext × ThreadScheduler) :=
  match s.currentThread with
  | none => .error { code := .invalidState, message := "Nenhuma thread ativa para bloquear" }
  | some _ => .ok ((s.block handles waitAll hasTimeout timeoutCycle ctx).scheduleNext ctx).2

/-- The handles `BlockCurrent` waits for. SOURCE: libs/kernel/src/thread_scheduler.cpp:93-96 -/
def handleVector (handle : GuestHandle) : List GuestHandle :=
  if handle ≠ kInvalidHandle then [handle] else []

/-- `BlockCurrent`. SOURCE: libs/kernel/src/thread_scheduler.cpp:92-98 -/
def blockCurrent (s : ThreadScheduler) (handle : GuestHandle) (ctx : CpuContext) :
    Result (CpuContext × ThreadScheduler) :=
  s.blockCurrentWithTimeout (handleVector handle) false false 0 ctx

/-- What a blocked thread is changed to when it is woken. -/
def wakened (waitStatus : U32) (t : GuestThread) : GuestThread :=
  { t with
    state := .ready
    waitHandles := []
    hasTimeout := false
    waitStatus := waitStatus
    context := t.context.setGpr .eax waitStatus }

/-- `Wake`. SOURCE: libs/kernel/src/thread_scheduler.cpp:118-132 -/
def wake (s : ThreadScheduler) (tid : ThreadId) (waitStatus : U32) : Result ThreadScheduler :=
  match s.getThread tid with
  | none => .error { code := .invalidArgument, message := "Thread inválida" }
  | some thread =>
    if thread.state = .blocked then
      .ok ((s.modifyThread tid (wakened waitStatus)).enqueueReady tid)
    else
      .ok s

/-- What `ExitCurrent` does before it schedules.
SOURCE: libs/kernel/src/thread_scheduler.cpp:139-140 -/
def exit (s : ThreadScheduler) (exitCode : U32) : ThreadScheduler :=
  s.modifyThread s.currentTid fun t => { t with state := .terminated, exitCode := exitCode }

/-- `ExitCurrent`. SOURCE: libs/kernel/src/thread_scheduler.cpp:134-143 -/
def exitCurrent (s : ThreadScheduler) (exitCode : U32) (ctx : CpuContext) :
    Result (CpuContext × ThreadScheduler) :=
  match s.currentThread with
  | none => .error { code := .invalidState, message := "Nenhuma thread ativa para encerrar" }
  | some _ => .ok ((s.exit exitCode).scheduleNext ctx).2

/-- `TerminateThread`. SOURCE: libs/kernel/src/thread_scheduler.cpp:145-155 -/
def terminateThread (s : ThreadScheduler) (tid : ThreadId) (exitCode : U32) :
    Result ThreadScheduler :=
  match s.getThread tid with
  | none => .error { code := .invalidArgument, message := "Thread inválida para terminação" }
  | some _ =>
    .ok ((s.modifyThread tid fun t =>
      { t with state := .terminated, exitCode := exitCode }).dequeue tid)

/-- `SuspendThread`: the count before. SOURCE: libs/kernel/src/thread_scheduler.cpp:157-169 -/
def suspendThread (s : ThreadScheduler) (tid : ThreadId) : Result (U32 × ThreadScheduler) :=
  match s.getThread tid with
  | none => .error { code := .invalidArgument, message := "Thread inválida ou terminada" }
  | some thread =>
    if thread.state = .terminated then
      .error { code := .invalidArgument, message := "Thread inválida ou terminada" }
    else
      if thread.state = .ready then
        .ok (thread.suspendCount, (s.modifyThread tid fun t =>
          { t with suspendCount := t.suspendCount + 1, state := .suspended }).dequeue tid)
      else
        .ok (thread.suspendCount, s.modifyThread tid fun t =>
          { t with suspendCount := t.suspendCount + 1 })

/-- `ResumeThread`: the count before. SOURCE: libs/kernel/src/thread_scheduler.cpp:171-185 -/
def resumeThread (s : ThreadScheduler) (tid : ThreadId) : Result (U32 × ThreadScheduler) :=
  match s.getThread tid with
  | none => .error { code := .invalidArgument, message := "Thread inválida ou terminada" }
  | some thread =>
    if thread.state = .terminated then
      .error { code := .invalidArgument, message := "Thread inválida ou terminada" }
    else if thread.suspendCount = 0 then
      .ok (0, s)
    else
      if thread.suspendCount - 1 = 0 ∧ thread.state = .suspended then
        .ok (thread.suspendCount, (s.modifyThread tid fun t =>
          { t with suspendCount := t.suspendCount - 1, state := .ready }).enqueueReady tid)
      else
        .ok (thread.suspendCount, s.modifyThread tid fun t =>
          { t with suspendCount := t.suspendCount - 1 })

/-- A blocked thread whose time is over. -/
def timedOut (currentCycle : Cycle) (t : GuestThread) : Bool :=
  t.state == .blocked && t.hasTimeout && t.timeoutCycle ≤ currentCycle

/-- One turn of the loop of `CheckTimeouts`. -/
def checkTimeout (currentCycle : Cycle) (r : ℕ × HandleTable × ThreadScheduler)
    (tid : ThreadId) : ℕ × HandleTable × ThreadScheduler :=
  let (awakened, handles, s) := r
  match s.getThread tid with
  | none => r
  | some thread =>
    if timedOut currentCycle thread then
      (awakened + 1, thread.waitHandles.foldl (fun hs h => hs.removeWaitingThread h tid) handles,
        (s.modifyThread tid (wakened kStatusWaitTimeout)).enqueueReady tid)
    else
      r

/-- `CheckTimeouts`, in the order of the ids: how many threads were woken, and the handle
table without them. SOURCE: libs/kernel/src/thread_scheduler.cpp:187-205 -/
def checkTimeouts (s : ThreadScheduler) (currentCycle : Cycle) (handles : HandleTable) :
    ℕ × HandleTable × ThreadScheduler :=
  s.threads.keys.foldl (checkTimeout currentCycle) (0, handles, s)

end ThreadScheduler

end Xblob.Kernel
