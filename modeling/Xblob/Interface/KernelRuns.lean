import Xblob.Computation.Fallible
import Xblob.Interface.ExportRuns
import Xblob.Interface.ThreadRuns
import Xblob.Model.Kernel.KernelHle
import Xblob.Model.Machine.KernelTrap
import Xblob.Model.Memory.AddressSpace

/-!
# Runs of the kernel

Steps of the kernel over its threads, and the traps by which guest code calls it.
-/

set_option autoImplicit false

namespace Xblob.Interface

open Xblob.Computation Xblob.Kernel Xblob.Machine Xblob.Memory Xblob.Processor Xblob.Vfs

/-!
## Runs of the kernel

The guest calls exports by their ordinals, and a call ends in the dispatcher, which stores the
result and pops the return address and the arguments.  The host advances timeouts, timers and the
clock.  Between two of these the guest runs, so the live context and the memory that each of them
finds are any.
-/

/-- What the kernel is asked to do. -/
inductive KernelRequest where
  | thunk (ordinal : U32)
  | checkTimeouts (currentCycle : Cycle)
  | allocateTimer (type : TimerType)
  | advanceTimer (handle : GuestHandle) (currentCycle : Cycle)
  | setCurrentCycle (cycle : Cycle)

/-- What the host does to threads, timers and the clock; exports are not called by the host. -/
def KernelRequest.hosted (k : KernelHle) : KernelRequest → KernelHle
  | .thunk _ => k
  | .checkTimeouts currentCycle => k.checkTimeouts currentCycle
  | .allocateTimer type => (k.allocateTimer type).2
  | .advanceTimer handle currentCycle => k.advanceTimer handle currentCycle
  | .setCurrentCycle cycle => { k with time := k.time.setCurrentCycle cycle }

/-- A request, with the live context and the memory it finds. -/
structure KernelStep (δ : Type) where
  request : KernelRequest
  cpu : CpuContext
  space : AddressSpace δ

namespace KernelStep

variable {δ : Type}

/-- The live context, the memory and the kernel after a request, whether it failed or not. -/
def after (s : KernelStep δ) (k : KernelState) : Machine (GuestWithKernel δ) :=
  match s.request with
  | .thunk ordinal => stateAfter ((dispatchThunk ordinal).run ⟨s.cpu, ⟨s.space, k⟩⟩)
  | request => ⟨s.cpu, ⟨s.space, { k with hle := request.hosted k.hle }⟩⟩

/-- The memory that the handler of an export leaves, from which the return address is popped. -/
def left (s : KernelStep δ) (k : KernelState) : AddressSpace δ :=
  match s.request with
  | .thunk ordinal =>
    match findByOrdinal ordinal with
    | some entry => stateAfter (((entry.handler s.cpu k).run answer).run s.space)
    | none => s.space
  | _ => s.space

/-- The kernel after a request. -/
def next (k : KernelState) (s : KernelStep δ) : KernelState := (s.after k).mem.kernel

/-- Requests made one after the other under a guard. -/
def Runs (Guard : KernelState → KernelStep δ → Prop) :
    List (KernelStep δ) → KernelState → KernelState → Prop :=
  Computation.Runs next Guard

end KernelStep

/-! ### The creation of a thread -/

/-- The arguments that `CreateThread` reads: the size of the stack, the entry, the argument, and
where the id goes. -/
def createThreadArgs (cpu : CpuContext) :
    Guest (Result U32 × Result U32 × Result U32 × Result U32) := do
  let stackSize ← Guest.readArg cpu 1
  let startRoutine ← Guest.readArg cpu 2
  let arg ← Guest.readArg cpu 3
  let outId ← Guest.readArg cpu 5
  pure (stackSize, startRoutine, arg, outId)

/-- A call of `CreateThread`, and the requests made before it since the kernel was booted. -/
structure CreateCall (δ : Type) where
  mounts : ByteString → Option VfsVolume
  earlier : List (KernelStep δ)
  cpu : CpuContext
  space : AddressSpace δ

namespace CreateCall

variable {δ : Type} (c : CreateCall δ)

/-- The kernel that the call finds. -/
def kernel : KernelState := c.earlier.foldl KernelStep.next (bootedWith c.mounts)

/-- The call as a request. -/
def step : KernelStep δ := ⟨.thunk 10, c.cpu, c.space⟩

/-- The kernel after the call. -/
def created : KernelState := c.step.next c.kernel

/-- The call returns, and has made a thread for this entry and this argument. -/
structure Creates (entry arg : U32) (tid : ThreadId) (t : GuestThread) : Prop where
  made : ∃ stackSize outId, outcome (((createThreadArgs c.cpu).run answer).run c.space) =
      .ok (stackSize, .ok entry, .ok arg, outId) ∧
    (c.kernel.hle.createThread (optional stackSize) entry arg).1 = some tid
  returns : ∃ handle,
    outcome ((dispatchThunk 10).run ⟨c.cpu, ⟨c.space, c.kernel⟩⟩) = .ok (some handle)
  thread : c.created.hle.threads.getThread tid = some t

end CreateCall

/-! ### The start of a thread -/

section Starts

variable {δ : Type}

/-- The live context starts a thread: at its entry, with the stack pointer in its stack and
the argument where a stdcall routine finds it. -/
structure Starts (m : Machine (GuestWithKernel δ)) (t : GuestThread) (entry arg : U32) : Prop where
  entry : m.ctx.eip = entry
  stack : (m.ctx.gpr .esp - t.stackBase).toNat ≤ t.stackSize
  argument : outcome ((AddressSpace.read32 (m.ctx.gpr .esp + 4)).run m.mem.space) = .ok arg

/-- A thread is not current, and the request makes no other thread with its id. -/
structure NotStarted (tid : ThreadId) (k : KernelState) (s : KernelStep δ) : Prop where
  notCurrent : k.hle.threads.currentTid ≠ tid
  notReplaced : s.request = .thunk 10 → k.hle.threads.nextTid ≠ tid

/-- The thread has this context saved. -/
def Saves (tid : ThreadId) (ctx : CpuContext) (k : KernelState) : Prop :=
  ∃ t, k.hle.threads.getThread tid = some t ∧ t.context = ctx

/-- The first request that leaves a created thread current: the call that creates it, or a later
one with any others between them. -/
inductive FirstSwitch (c : CreateCall δ) (tid : ThreadId) : KernelStep δ → KernelState → Prop
  | atOnce (hcurrent : c.created.hle.threads.currentTid = tid) :
    FirstSwitch c tid c.step c.kernel
  | later {steps : List (KernelStep δ)} {k : KernelState} {s : KernelStep δ}
      (hruns : KernelStep.Runs (NotStarted tid) steps c.created k) (hlast : NotStarted tid k s)
      (hswitch : (s.next k).hle.threads.currentTid = tid) : FirstSwitch c tid s k

/-- The thread is current at once, so that it goes on in the frame of its creator; and the frame
returns to its entry, into its stack and below its argument. -/
structure InFrame (c : CreateCall δ) (tid : ThreadId) (t : GuestThread) (entry arg : U32) :
    Prop where
  current : c.created.hle.threads.currentTid = tid
  returns : outcome ((AddressSpace.read32 (c.cpu.gpr .esp)).run (c.step.left c.kernel)) = .ok entry
  stack : (c.cpu.gpr .esp + 28 - t.stackBase).toNat ≤ t.stackSize
  argument : outcome ((AddressSpace.read32 (c.cpu.gpr .esp + 32)).run
    (c.step.after c.kernel).mem.space) = .ok arg

/-- The top of the stack of a thread. -/
def stackTop (t : GuestThread) : U32 := t.stackBase + BitVec.ofNat 32 t.stackSize

/-- The thread is switched to later, when no return address can be popped from the top of its
stack; and the word above is its argument. -/
structure AboveStack (c : CreateCall δ) (tid : ThreadId) (t : GuestThread) (arg : U32)
    (s : KernelStep δ) (k : KernelState) : Prop where
  notCurrent : c.created.hle.threads.currentTid ≠ tid
  unread : ∀ word, outcome ((AddressSpace.read32 (stackTop t)).run (s.left k)) ≠ .ok word
  argument : outcome ((AddressSpace.read32 (stackTop t + 4)).run (s.after k).mem.space) = .ok arg

end Starts

/-!
## Steps into the kernel

A step on `INT 0x2D` under the trap handler of the session, from any context, any memory and any
state of the kernel, and what is to be left of the context when the step faults.
-/

section KernelTraps

/-- A step of a running processor on `INT 0x2D`, with no interrupt to take first. -/
structure TrapStep (δ : Type) where
  poll : InterruptPoll
  cpu : Cpu
  running : cpu.lifecycle = .running
  quiet : pendingVector poll cpu.context = none
  mem : GuestWithKernel δ
  inst : DecodedInstruction
  stream : InstructionStream (GuestWithKernel δ)
  decodes : decodeAt cpu.context cpu.context.eip mem = .ok inst stream
  id : inst.id = .int
  vector : inst.intVector = 0x2D

namespace TrapStep

variable {δ : Type} (c : TrapStep δ)

/-- The step. -/
def outcome : StepOutcome × Cpu × GuestWithKernel δ :=
  step c.poll (some kernelTrap) c.cpu c.mem

/-- The step reports a fault. -/
def Faults : Prop := c.outcome.1.result = .faulted

/-- The context is the one before the step. -/
structure Intact : Prop where
  eip : c.outcome.2.1.context.eip = c.cpu.context.eip
  gpr : c.outcome.2.1.context.gpr = c.cpu.context.gpr
  eflags : c.outcome.2.1.context.eflags = c.cpu.context.eflags
  segments : c.outcome.2.1.context.segments = c.cpu.context.segments

/-- The ordinal of the export. -/
def ordinal : U32 := c.cpu.context.gpr .eax

/-- The context a handler is called with. -/
def called : CpuContext := { c.cpu.context with eip := c.cpu.context.eip + 2 }

/-- What the handler of an export returns. -/
def handled (entry : ExportEntry) : EStateM.Result Error (AddressSpace δ) Returned :=
  ((entry.handler c.called c.stream.mem.kernel).run answer).run c.stream.mem.space

/-- There is a handler for the ordinal and it does not fail; and if it returns, the return address
is read from the stack it leaves. -/
def Completes : Prop :=
  ∃ entry returned space, findByOrdinal c.ordinal = some entry ∧
    c.handled entry = .ok returned space ∧
    ∀ v ctx kernel, returned = some (v, ctx, kernel) → ∃ retAddr space',
      (AddressSpace.read32 (ctx.gpr .esp)).run space = .ok retAddr space'

end TrapStep

end KernelTraps

end Xblob.Interface
