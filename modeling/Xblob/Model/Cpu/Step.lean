import Xblob.Model.Cpu.Decoder
import Xblob.Model.Cpu.Executor
import Xblob.Model.Memory.VirtualMemory

/-!
# The processor: one step, exceptions and bounded runs

The CPU runs over any memory with the accessors of `GuestMemory`; the two the source
instantiates its templates with are the physical address space and the virtual memory.
Only the latter has a record of its last page fault.

An interrupt source and a trap handler are objects outside the CPU.  A step is given
what the source answers when it is polled, and the handler as a computation on the
machine.
-/

set_option autoImplicit false

namespace Xblob.Processor

open Xblob.Computation Xblob.Memory

/-! ## Memory -/

/-- The accessors the CPU uses, and the page-fault record a memory may have. -/
class GuestMemory (M : Type) where
  fetch8 : GuestAddr → EStateM Error M U8
  read8 : GuestAddr → EStateM Error M U8
  read16 : GuestAddr → EStateM Error M U16
  read32 : GuestAddr → EStateM Error M U32
  write8 : GuestAddr → U8 → EStateM Error M Unit
  write16 : GuestAddr → U16 → EStateM Error M Unit
  write32 : GuestAddr → U32 → EStateM Error M Unit
  lastPageFault : M → Option PageFault

/-- The physical memory of the guest. -/
instance (δ : Type) : GuestMemory (AddressSpace δ) where
  fetch8 := AddressSpace.fetch8
  read8 := AddressSpace.read8
  read16 := AddressSpace.read16
  read32 := AddressSpace.read32
  write8 := AddressSpace.write8
  write16 := AddressSpace.write16
  write32 := AddressSpace.write32
  lastPageFault _ := none

/-- The virtual memory of the guest. -/
instance (δ : Type) : GuestMemory (VirtualMemory δ) where
  fetch8 := VirtualMemory.fetch8
  read8 := VirtualMemory.read8
  read16 := VirtualMemory.read16
  read32 := VirtualMemory.read32
  write8 := VirtualMemory.write8
  write16 := VirtualMemory.write16
  write32 := VirtualMemory.write32
  lastPageFault := VirtualMemory.lastPageFault

/-! ## Running the decoder -/

/-- `InstructionStream`: the memory behind the stream, where it starts and what was taken.
SOURCE: libs/cpu/src/instruction_stream.hpp:14-77 -/
structure InstructionStream (M : Type) where
  mem : M
  eip : GuestAddr
  rawBytes : List U8 := []

/-- An error of memory as a decoding error. -/
def asDecodeError {σ α : Type} (f : EStateM Error σ α) : EStateM DecodeError σ α :=
  EStateM.adaptExcept (fun e => { error := e }) f

variable {M : Type} [GuestMemory M]

/-- `InstructionStream::NextByte`.
SOURCE: libs/cpu/src/instruction_stream.hpp:18-30 -/
def InstructionStream.nextByte : EStateM DecodeError (InstructionStream M) U8 := do
  let s ← get
  if s.rawBytes.length ≥ 15 then
    throw { error := { code := .invalidOpcode
                       message := "Instrução excede limite arquitetural de 15 bytes" } }
  else
    let b ← zoom InstructionStream.mem (fun m s => { s with mem := m })
      (asDecodeError (GuestMemory.fetch8 (s.eip + BitVec.ofNat 32 s.rawBytes.length)))
    modify fun s => { s with rawBytes := s.rawBytes ++ [b] }
    pure b

/-- The decoder's requests, answered by the stream. -/
def InstructionStream.answer :
    (r : StreamRequest) → EStateM DecodeError (InstructionStream M) (streamSig.Answer r)
  | .nextByte => InstructionStream.nextByte
  | .rawBytes => do
    let s ← get
    pure s.rawBytes

/-- Decoding the instruction at `eip`: the result, and the memory as the fetches left it. -/
def decodeAt (ctx : CpuContext) (eip : GuestAddr) (mem : M) :
    EStateM.Result DecodeError (InstructionStream M) DecodedInstruction :=
  ((Decoding.decode ctx eip).run InstructionStream.answer).run { mem := mem, eip := eip }

/-! ## Running the executor -/

/-- The context and the memory an executor works on. -/
structure Machine (M : Type) where
  ctx : CpuContext
  mem : M

/-- `TrapHandler`. SOURCE: libs/cpu/include/xblob/cpu/executor.hpp:19 -/
abbrev TrapHandler (M : Type) := U8 → EStateM Error (Machine M) Bool

/-- A memory access made by the machine. -/
def onMemory {α : Type} (f : EStateM Error M α) : EStateM Error (Machine M) α :=
  zoom Machine.mem (fun m s => { s with mem := m }) f

/-- The executor's requests, answered by the machine. -/
def Machine.answer (trap : Option (TrapHandler M)) :
    (r : ExecRequest) → EStateM Error (Machine M) (execSig.Answer r)
  | .context => do
    let s ← get
    pure s.ctx
  | .setContext ctx => modify fun s => { s with ctx := ctx }
  | .read8 addr => onMemory (GuestMemory.read8 addr)
  | .read16 addr => onMemory (GuestMemory.read16 addr)
  | .read32 addr => onMemory (GuestMemory.read32 addr)
  | .write8 addr value => onMemory (GuestMemory.write8 addr value)
  | .write16 addr value => onMemory (GuestMemory.write16 addr value)
  | .write32 addr value => onMemory (GuestMemory.write32 addr value)
  | .trap vector =>
    match trap with
    | some handler => handler vector
    | none => pure false

/-- Running an executor. -/
def runExec {α : Type} (trap : Option (TrapHandler M)) (x : Exec α) (s : Machine M) :
    EStateM.Result Error (Machine M) α :=
  (x.run (Machine.answer trap)).run s

/-! ## The processor -/

/-- `CpuLifecycle`. SOURCE: libs/cpu/include/xblob/cpu/cpu.hpp:21 -/
inductive CpuLifecycle where
  | running | halted | faulted
  deriving DecidableEq, Repr

/-- `StepResult`. SOURCE: libs/cpu/include/xblob/cpu/cpu.hpp:35 -/
inductive StepResult where
  | ok | halted | faulted
  deriving DecidableEq, Repr

/-- `StepOutcome`. SOURCE: libs/cpu/include/xblob/cpu/cpu.hpp:49-55 -/
structure StepOutcome where
  result : StepResult
  cyclesConsumed : Cycle
  fault : Option Error := none
  exception : Option CpuException := none
  unsupportedForm : Option UnsupportedFormInfo := none
  deriving DecidableEq, Repr

/-- `Cpu`, less the two pointers to outside objects.
SOURCE: libs/cpu/include/xblob/cpu/cpu.hpp:82-137 -/
structure Cpu where
  context : CpuContext := {}
  lifecycle : CpuLifecycle := .running
  lastFault : Option Error := none
  lastException : Option CpuException := none
  lastUnsupported : Option UnsupportedFormInfo := none

/-- `Cpu::Reset`. SOURCE: libs/cpu/src/cpu.cpp:8-14 -/
def Cpu.reset : Cpu := {}

/-- The answer of the interrupt source at a step: nothing pending (or no source), or a
pending interrupt with what `AcknowledgeInterrupt` returns. -/
abbrev InterruptPoll := Option (Option U8)

/-- The interrupt the step takes: only with IF set is the source asked to acknowledge. -/
def pendingVector (poll : InterruptPoll) (ctx : CpuContext) : Option U8 :=
  if ctx.getFlag kFlagIF then poll.join else none

/-- Delivering an interrupt at the boundary of a step.
SOURCE: libs/cpu/src/cpu.cpp:25-41 -/
def deliverInterrupt (trap : Option (TrapHandler M)) (cpu : Cpu) (mem : M) (vector : U8) :
    StepOutcome × Cpu × M :=
  match runExec trap (Exec.deliverGate vector none false cpu.context.eip) ⟨cpu.context, mem⟩ with
  | .error e s =>
    ({ result := .faulted, cyclesConsumed := Cycles.kInt, fault := some e
       exception := cpu.lastException, unsupportedForm := cpu.lastUnsupported },
     { cpu with context := s.ctx, lifecycle := .faulted, lastFault := some e }, s.mem)
  | .ok _ s =>
    ({ result := .ok, cyclesConsumed := Cycles.kInt }, { cpu with context := s.ctx }, s.mem)

/-- The exception a failed decode or execution is reported with: a page fault when the
memory has a record of one, else the exception already recorded, else `fallback`.
SOURCE: libs/cpu/src/cpu.cpp:57-71, 88-104 -/
def classifyFault (cpu : Cpu) (mem : M) (eip : U32) (fallback : CpuException) : CpuException :=
  match GuestMemory.lastPageFault mem with
  | some pf => ⟨.pageFault, some pf.errorCode, eip, pf.faultAddress⟩
  | none => cpu.lastException.getD fallback

/-- The end of a step whose decoding failed. SOURCE: libs/cpu/src/cpu.cpp:47-75 -/
def decodeFailed (cpu : Cpu) (mem : M) (e : DecodeError) : StepOutcome × Cpu × M :=
  let eip := cpu.context.eip
  let cpu := { cpu with lastUnsupported := e.unsupported.or cpu.lastUnsupported }
  if e.error.code = .unsupportedFeature then
    ({ result := .faulted, cyclesConsumed := 0, fault := some e.error
       unsupportedForm := cpu.lastUnsupported },
     { cpu with lifecycle := .faulted, lastFault := some e.error }, mem)
  else
    let fallback : CpuException :=
      if e.error.code = .invalidOpcode then ⟨.invalidOpcode, none, eip, 0⟩
      else ⟨.generalProtection, none, eip, 0⟩
    let ex := classifyFault cpu mem eip fallback
    ({ result := .faulted, cyclesConsumed := 0, fault := some e.error, exception := some ex
       unsupportedForm := cpu.lastUnsupported },
     { cpu with lifecycle := .faulted, lastFault := some e.error, lastException := some ex }, mem)

/-- The end of a step whose execution failed in the state `s`; `startEip` is the EIP the
step began with.  SOURCE: libs/cpu/src/cpu.cpp:80-110 -/
def executeFailed (cpu : Cpu) (startEip : U32) (inst : DecodedInstruction) (s : Machine M)
    (e : Error) : StepOutcome × Cpu × M :=
  let cpu := { cpu with context := s.ctx }
  if e.code = .unsupportedFeature then
    let info : UnsupportedFormInfo := ⟨startEip, [], e.message⟩
    ({ result := .faulted, cyclesConsumed := inst.cycles, fault := some e
       unsupportedForm := some info },
     { cpu with lifecycle := .faulted, lastFault := some e, lastUnsupported := some info }, s.mem)
  else
    let fallback : CpuException :=
      if e.code = .invalidOpcode then ⟨.invalidOpcode, none, startEip, 0⟩
      else ⟨.generalProtection, some (e.offset.setWidth 32), startEip, 0⟩
    let ex := classifyFault cpu s.mem startEip fallback
    ({ result := .faulted, cyclesConsumed := inst.cycles, fault := some e, exception := some ex
       unsupportedForm := cpu.lastUnsupported },
     { cpu with lifecycle := .faulted, lastFault := some e, lastException := some ex }, s.mem)

/-- The end of a step whose instruction raised the exception `ex`.
SOURCE: libs/cpu/src/cpu.cpp:112-133 -/
def exceptionRaised (trap : Option (TrapHandler M)) (cpu : Cpu) (inst : DecodedInstruction)
    (s : Machine M) (ex : CpuException) : StepOutcome × Cpu × M :=
  let cpu := { cpu with context := s.ctx, lastException := some ex }
  let e : Error :=
    { code := .executionFault
      message := if ex.vector = .divideError then "Erro de divisão (#DE)" else "Exceção de CPU"
      offset := ex.faultEip.setWidth 64 }
  let faulted (s : Machine M) : StepOutcome × Cpu × M :=
    ({ result := .faulted, cyclesConsumed := inst.cycles, fault := some e
       exception := some ex },
     { cpu with context := s.ctx, lifecycle := .faulted, lastFault := some e }, s.mem)
  if s.ctx.idtr.limit > 0 then
    match runExec trap (Exec.deliverGate ex.vector.number ex.errorCode false ex.faultEip) s with
    | .ok _ s =>
      ({ result := .ok, cyclesConsumed := inst.cycles }, { cpu with context := s.ctx }, s.mem)
    | .error _ s => faulted s
  else
    faulted s

/-- The commit of a step that raised nothing. SOURCE: libs/cpu/src/cpu.cpp:135-149 -/
def commit (cpu : Cpu) (startEip : U32) (inst : DecodedInstruction) (s : Machine M)
    (r : ExecutionResult) : StepOutcome × Cpu × M :=
  let next := startEip + inst.length.setWidth 32
  if r.halted then
    ({ result := .halted, cyclesConsumed := inst.cycles },
     { cpu with context := { s.ctx with eip := next }, lifecycle := .halted }, s.mem)
  else
    ({ result := .ok, cyclesConsumed := inst.cycles },
     { cpu with context := { s.ctx with eip := if r.branched then r.nextEip else next } }, s.mem)

/-- Decoding and executing one instruction. SOURCE: libs/cpu/src/cpu.cpp:43-149 -/
def stepInstruction (trap : Option (TrapHandler M)) (cpu : Cpu) (mem : M) :
    StepOutcome × Cpu × M :=
  let startEip := cpu.context.eip
  match decodeAt cpu.context startEip mem with
  | .error e stream => decodeFailed cpu stream.mem e
  | .ok inst stream =>
    match runExec trap (Exec.execute inst startEip) ⟨cpu.context, stream.mem⟩ with
    | .error e s => executeFailed cpu startEip inst s e
    | .ok r s =>
      match r.exception with
      | some ex => exceptionRaised trap cpu inst s ex
      | none => commit cpu startEip inst s r

/-- `Cpu::StepGeneric`. SOURCE: libs/cpu/src/cpu.cpp:17-146 -/
def step (poll : InterruptPoll) (trap : Option (TrapHandler M)) (cpu : Cpu) (mem : M) :
    StepOutcome × Cpu × M :=
  match cpu.lifecycle with
  | .halted =>
    ({ result := .halted, cyclesConsumed := 0, exception := cpu.lastException
       unsupportedForm := cpu.lastUnsupported }, cpu, mem)
  | .faulted =>
    ({ result := .faulted, cyclesConsumed := 0, fault := cpu.lastFault
       exception := cpu.lastException, unsupportedForm := cpu.lastUnsupported }, cpu, mem)
  | .running =>
    match pendingVector poll cpu.context with
    | some vector => deliverInterrupt trap cpu mem vector
    | none => stepInstruction trap cpu mem

/-- The error `RaiseException` reports when it cannot deliver the exception. -/
def exceptionFault (ex : CpuException) : Error :=
  if ex.vector = .divideError then
    { code := .executionFault, message := "Erro de divisão (#DE)"
      offset := ex.faultEip.setWidth 64 }
  else if ex.vector = .invalidOpcode then
    { code := .invalidOpcode, message := "Opcode inválido (#UD)"
      offset := ex.faultEip.setWidth 64 }
  else if ex.vector = .pageFault then
    { code := .accessViolation, message := "Falha de página (#PF)", offset := ex.cr2.setWidth 64 }
  else
    { code := .generalProtection, message := "Falha geral de proteção (#GP)"
      offset := ex.faultEip.setWidth 64 }

/-- `Cpu::RaiseException`. SOURCE: libs/cpu/src/cpu.cpp:149-171 -/
def raiseException (trap : Option (TrapHandler M)) (cpu : Cpu) (mem : M) (ex : CpuException) :
    Result Unit × Cpu × M :=
  let faulted (s : Machine M) : Result Unit × Cpu × M :=
    (.error (exceptionFault ex),
     { cpu with context := s.ctx, lifecycle := .faulted, lastException := some ex
                lastFault := some (exceptionFault ex) }, s.mem)
  if cpu.context.idtr.limit > 0 then
    match runExec trap (Exec.deliverGate ex.vector.number ex.errorCode false ex.faultEip)
        ⟨cpu.context, mem⟩ with
    | .ok _ s => (.ok (), { cpu with context := s.ctx, lastException := some ex }, s.mem)
    | .error _ s => faulted s
  else
    faulted ⟨cpu.context, mem⟩

/-! ## Bounded runs -/

/-- `RunStatus`. SOURCE: libs/cpu/include/xblob/cpu/cpu.hpp:57 -/
inductive RunStatus where
  | halted | faulted | budgetExhausted
  deriving DecidableEq, Repr

/-- `RunOutcome`. SOURCE: libs/cpu/include/xblob/cpu/cpu.hpp:71-78 -/
structure RunOutcome where
  status : RunStatus := .halted
  instructionsExecuted : U64 := 0
  cyclesConsumed : Cycle := 0
  fault : Option Error := none
  exception : Option CpuException := none
  unsupportedForm : Option UnsupportedFormInfo := none
  deriving DecidableEq, Repr

/-- The end of the loop: a processor found halted is reported so.
SOURCE: libs/cpu/src/cpu.cpp:200-204 -/
def finishRun (out : RunOutcome) (cpu : Cpu) : RunOutcome :=
  if cpu.lifecycle = .halted then { out with status := .halted } else out

/-- The loop of `RunWithBudgetGeneric`.  The recursion is on what is left of the
instruction budget, `max_instructions - instructions_executed`; `poll` is what the
interrupt source answers before each step.  SOURCE: libs/cpu/src/cpu.cpp:178-198 -/
def runLoop (poll : ℕ → InterruptPoll) (trap : Option (TrapHandler M)) (maxCycles : Cycle) :
    ℕ → RunOutcome → Cpu → M → RunOutcome × Cpu × M
  | 0, out, cpu, mem => (finishRun out cpu, cpu, mem)
  | left + 1, out, cpu, mem =>
    if out.cyclesConsumed < maxCycles then
      let r := step (poll out.instructionsExecuted.toNat) trap cpu mem
      let out := { out with cyclesConsumed := out.cyclesConsumed + r.1.cyclesConsumed }
      match r.1.result with
      | .halted =>
        ({ out with instructionsExecuted := out.instructionsExecuted + 1, status := .halted }, r.2)
      | .faulted =>
        ({ out with status := .faulted, fault := r.1.fault, exception := r.1.exception
                    unsupportedForm := r.1.unsupportedForm }, r.2)
      | .ok =>
        runLoop poll trap maxCycles left
          { out with instructionsExecuted := out.instructionsExecuted + 1 } r.2.1 r.2.2
    else
      (finishRun out cpu, cpu, mem)

/-- `Cpu::RunWithBudgetGeneric`. SOURCE: libs/cpu/src/cpu.cpp:174-205 -/
def runWithBudget (poll : ℕ → InterruptPoll) (trap : Option (TrapHandler M))
    (maxInstructions : U64) (maxCycles : Cycle) (cpu : Cpu) (mem : M) : RunOutcome × Cpu × M :=
  runLoop poll trap maxCycles maxInstructions.toNat { status := .budgetExhausted } cpu mem

end Xblob.Processor
