import Xblob.Model.Cpu.Step

/-!
# The session: host calls and the worker

A session is driven from two sides.  Host calls change its state and queue commands; a worker
thread takes the commands out one by one and, when there are none, executes a slice of the
running guest.  Every call and every round of the worker holds the lock of the session from
its first access to its last, so a run is a sequence of calls and rounds in some order.

The processor, memory, kernel, scheduler, devices and trace of the session are one state `γ`
here, with what the session calls of them.  The wall clock is an input of each round.
-/

set_option autoImplicit false

namespace Xblob.Machine

open Xblob.Processor

/-- `MachineState`. SOURCE: libs/machine/include/xblob/machine/machine_session.hpp:42-49 -/
inductive MachineState where
  | created | prepared | paused | faulted | stopped | running
  deriving DecidableEq, Repr

/-- `StopReasonCode`. SOURCE: libs/machine/include/xblob/machine/execution_types.hpp:14-31 -/
inductive StopReasonCode where
  | none | paused | stepCompleted | halted
  | budgetInstructionsExhausted | budgetCyclesExhausted | budgetWallTimeExhausted
  | budgetEventsExhausted | watchdogTimeout
  | unsupportedOpcode | unsupportedExport | unsupportedGpuMethod | unsupportedFileService
  | cpuException | memoryFault | internalError
  deriving DecidableEq, Repr

/-- `StopReason`. SOURCE: libs/machine/include/xblob/machine/execution_types.hpp:75-84 -/
structure StopReason where
  code : StopReasonCode := .none
  faultEip : GuestAddr := 0
  threadId : U32 := 0
  ordinalOrOpcode : U32 := 0
  count : U64 := 0
  category : String := ""
  symbolOrMnemonic : String := ""
  detail : String := ""
  deriving DecidableEq, Repr

/-- `ExecutionBudgets`, less the limit of events, which nothing reads.
SOURCE: libs/machine/include/xblob/machine/execution_types.hpp:86-92 -/
structure ExecutionBudgets where
  maxInstructions : U64 := BitVec.allOnes 64
  maxCycles : U64 := BitVec.allOnes 64
  maxWallTimeMs : U64 := 0
  chunkInstructions : U32 := 1000
  deriving DecidableEq, Repr

/-- `MachineStepResult`. SOURCE: libs/machine/include/xblob/machine/machine_session.hpp:73-78 -/
structure MachineStepResult where
  state : MachineState := .created
  instructionsExecuted : U64 := 0
  cyclesConsumed : Cycle := 0
  cpuResult : StepResult := .ok
  deriving DecidableEq, Repr

/-- `MachineCommand`, with the members its type uses.  A pause carries the number of the run
it was asked for in, which the source does not keep and nothing here reads.
SOURCE: libs/machine/include/xblob/machine/machine_session.hpp:173-179 -/
inductive MachineCommand where
  | start (budgets : ExecutionBudgets)
  | resume (budgets : ExecutionBudgets)
  | step (instructionBudget : U64)
  | runWithBudget (maxInstructions maxCycles : U64)
  | pause (run : ℕ)
  | stop
  deriving DecidableEq, Repr

/-- `UnsupportedExportInfo`, less the recorded arguments.
SOURCE: libs/kernel/include/xblob/kernel/registry.hpp:45-52 -/
structure UnsupportedExportInfo where
  ordinal : U32
  threadId : U32
  eip : GuestAddr
  callCount : U64
  name : String
  deriving DecidableEq, Repr

/-- What the session calls of the processor, the scheduler, the kernel, the devices and the
trace. -/
structure SessionParts (γ : Type) where
  /-- `cpu_.Step(space_)` -/
  step : γ → StepOutcome × γ
  /-- `scheduler_.StepCycles`, whose result is ignored -/
  stepCycles : Cycle → γ → γ
  currentCycle : γ → Cycle
  /-- `trace_buffer_.RecordInstruction`, at the clock and for the thread of the moment -/
  recordInstruction : GuestAddr → γ → γ
  eip : γ → GuestAddr
  currentThreadId : γ → U32
  lastUnsupportedExport : γ → Option UnsupportedExportInfo
  /-- `ohci_controller_->ProcessFrame`, whose result is ignored -/
  processFrame : γ → γ
  frameCounter : γ → U64
  /-- the reads at the top of the stack that `TakeSnapshotLocked` makes -/
  inspectStack : γ → γ

/-- `MachineSession`.  The last three members are counts that the source does not keep and
nothing here reads: of the instructions executed, of the runs begun by `Start` or `Resume`, and
of the notifications of `cv_done_`.
SOURCE: libs/machine/include/xblob/machine/machine_session.hpp:191-238 -/
structure SessionState (γ : Type) where
  guest : γ
  state : MachineState := .created
  commandQueue : List MachineCommand := []
  pauseRequested : Bool := false
  stopRequested : Bool := false
  activeBudgets : ExecutionBudgets := {}
  totalInstructionsExecuted : U64 := 0
  sessionInstructionsExecuted : U64 := 0
  sessionCyclesConsumed : Cycle := 0
  lastUsbFrameCycle : Cycle := 0
  frameSequence : U64 := 0
  lastStopReason : StopReason := {}
  firstBlocker : Option StopReason := none
  firstBlockerInstructions : U64 := 0
  firstBlockerCycles : Cycle := 0
  lastError : Option Error := none
  steps : ℕ := 0
  runs : ℕ := 0
  notices : ℕ := 0

namespace SessionState

variable {γ : Type} (p : SessionParts γ) (s : SessionState γ)

/-- `state_` is one that `Start`, `Step` and `RunWithBudget` accept. -/
def executable : Bool := s.state == .prepared || s.state == .paused

/-- `last_snapshot_ = TakeSnapshotLocked()`, of which only the reads matter. -/
def takeSnapshot : SessionState γ := { s with guest := p.inspectStack s.guest }

/-- `cv_done_.notify_all()` -/
def notifyDone : SessionState γ := { s with notices := s.notices + 1 }

/-! ## Stop reasons -/

/-- `ToString(ExceptionVector)`. SOURCE: libs/cpu/include/xblob/cpu/exceptions.hpp:28-62 -/
def exceptionName : ExceptionVector → String
  | .divideError => "#DE (Divide Error)"
  | .debug => "#DB (Debug)"
  | .nmi => "NMI"
  | .breakpoint => "#BP (Breakpoint)"
  | .overflow => "#OF (Overflow)"
  | .boundRangeExceeded => "#BR (BOUND Range Exceeded)"
  | .invalidOpcode => "#UD (Invalid Opcode)"
  | .deviceNotAvailable => "#NM (Device Not Available)"
  | .doubleFault => "#DF (Double Fault)"
  | .coprocessorSegmentOverrun => "#MF (Coprocessor Segment Overrun)"
  | .invalidTss => "#TS (Invalid TSS)"
  | .segmentNotPresent => "#NP (Segment Not Present)"
  | .stackSegmentFault => "#SS (Stack Segment Fault)"
  | .generalProtection => "#GP (General Protection Fault)"
  | .pageFault => "#PF (Page Fault)"

/-- The first four bytes of an opcode, little-endian.
SOURCE: libs/machine/src/machine_session.cpp:812-818 -/
def opcodeWord (bytes : List U8) : U32 :=
  (bytes.take 4).foldr (fun b w => (w <<< 8) ||| b.setWidth 32) 0

/-- The reason for a fault. SOURCE: libs/machine/src/machine_session.cpp:796-851 -/
def faultReason (outcome : StepOutcome) : StopReason :=
  match p.lastUnsupportedExport s.guest with
  | some ue =>
    let ordinal := toString ue.ordinal.toNat
    { code := .unsupportedExport, faultEip := ue.eip, threadId := ue.threadId
      ordinalOrOpcode := ue.ordinal, count := ue.callCount, category := "Kernel"
      symbolOrMnemonic := if ue.name = "" then "Ordinal " ++ ordinal else ue.name
      detail := "Export do Kernel HLE não implementado: ordinal " ++ ordinal }
  | none =>
    match outcome.unsupportedForm with
    | some uf =>
      { code := .unsupportedOpcode, faultEip := uf.faultEip
        threadId := p.currentThreadId s.guest
        ordinalOrOpcode := opcodeWord uf.opcodeBytes, count := 1, category := "CPU"
        symbolOrMnemonic := if uf.reason = "" then "UnsupportedOpcode" else uf.reason
        detail := if uf.reason = "" then "Instrução IA-32 não suportada" else uf.reason }
    | none =>
      match outcome.exception with
      | some ex =>
        { code := .cpuException, faultEip := ex.faultEip, threadId := p.currentThreadId s.guest
          ordinalOrOpcode := ex.vector.number.setWidth 32, count := 1
          category := "CPU Exception", symbolOrMnemonic := exceptionName ex.vector
          detail := "Exceção arquitetural de CPU" }
      | none =>
        { code := .memoryFault, faultEip := p.eip s.guest
          threadId := p.currentThreadId s.guest, count := 1, category := "Memory"
          symbolOrMnemonic := "Fault"
          detail := match outcome.fault with
            | some e => e.message
            | none => "Falha de memória" }

/-- `RecordFirstBlockerLocked`. SOURCE: libs/machine/src/machine_session.cpp:856-863 -/
def recordFirstBlocker (reason : StopReason) : SessionState γ :=
  if s.firstBlocker = none ∧ reason.code ≠ .none ∧ reason.code ≠ .paused ∧
      reason.code ≠ .stepCompleted then
    { s with
      firstBlocker := some reason
      firstBlockerInstructions := s.totalInstructionsExecuted
      firstBlockerCycles := p.currentCycle s.guest }
  else
    s

/-- `PopulateFaultStopReasonLocked`. SOURCE: libs/machine/src/machine_session.cpp:796-854 -/
def populateFaultStopReason (outcome : StepOutcome) : SessionState γ :=
  let reason := s.faultReason p outcome
  { s with lastStopReason := reason }.recordFirstBlocker p reason

/-- The reason of a stop at the place the guest is at. -/
def reasonHere (code : StopReasonCode) (opcode : U32) (category symbol detail : String) :
    StopReason :=
  { code := code, faultEip := p.eip s.guest, threadId := p.currentThreadId s.guest
    ordinalOrOpcode := opcode, count := 1, category := category, symbolOrMnemonic := symbol
    detail := detail }

/-! ## Executing instructions -/

/-- One instruction: the processor, the clock and the trace.  The three loops have it in
common. SOURCE: libs/machine/src/machine_session.cpp:513-526, 580-593, 739-750 -/
def executeOne : StepOutcome × SessionState γ :=
  let preEip := p.eip s.guest
  let r := p.step s.guest
  let guest :=
    if r.1.cyclesConsumed > 0 then p.stepCycles r.1.cyclesConsumed r.2 else r.2
  (r.1, { s with
    guest := p.recordInstruction preEip guest
    totalInstructionsExecuted := s.totalInstructionsExecuted + 1
    steps := s.steps + 1 })

/-- The session after HLT. SOURCE: libs/machine/src/machine_session.cpp:529-541 -/
def afterHalt : SessionState γ :=
  { s with
    state := .paused
    lastStopReason := s.reasonHere p .halted 0xF4 "CPU" "HLT" "Instrução HLT executada" }

/-- The session after a fault. SOURCE: libs/machine/src/machine_session.cpp:544-548 -/
def afterFault (message : String) (outcome : StepOutcome) : SessionState γ :=
  { s with
    state := .faulted
    lastError := some { code := .executionFault, message := message }
  }.populateFaultStopReason p outcome

/-- The loop of the commands `Step` and `RunWithBudget`, for the instructions that are left.
Only the latter has a limit of cycles.
SOURCE: libs/machine/src/machine_session.cpp:513-549, 579-616 -/
def commandLoop (within : Cycle → Bool) (message : String) :
    ℕ → MachineStepResult → SessionState γ → MachineStepResult × SessionState γ
  | 0, res, s => (res, s)
  | left + 1, res, s =>
    if within res.cyclesConsumed then
      let r := s.executeOne p
      let res := { res with
        instructionsExecuted := res.instructionsExecuted + 1
        cyclesConsumed := res.cyclesConsumed + r.1.cyclesConsumed
        cpuResult := r.1.result }
      match r.1.result with
      | .halted => (res, r.2.afterHalt p)
      | .faulted => (res, r.2.afterFault p message r.1)
      | .ok => commandLoop within message left res r.2
    else
      (res, s)

/-- A prepared session that has executed a command is paused. -/
def leavePrepared : SessionState γ :=
  if s.state = .prepared then { s with state := .paused } else s

/-- The result of a command, and the end of its handling.
SOURCE: libs/machine/src/machine_session.cpp:559-565, 631-638 -/
def finishCommand (res : MachineStepResult) : Option (Result MachineStepResult) × SessionState γ :=
  (some (.ok { res with state := s.state }), (s.takeSnapshot p).notifyDone)

/-- `Step` and `RunWithBudget` found in a state they cannot be executed in. -/
def rejected : Option (Result MachineStepResult) × SessionState γ :=
  (some (.error { code := .invalidState, message := "Sessão não está em estado executável" }), s)

/-- The last reason with another code and text. -/
def withReason (code : StopReasonCode) (detail : String) : SessionState γ :=
  { s with lastStopReason := { s.lastStopReason with code := code, detail := detail } }

/-- The reason of a step that ended without one.
SOURCE: libs/machine/src/machine_session.cpp:555-558 -/
def reportStep : SessionState γ :=
  if s.lastStopReason.code = .none then
    s.withReason .stepCompleted "Step de instrução concluído"
  else s

/-- The reason of a bounded run that ended without one.
SOURCE: libs/machine/src/machine_session.cpp:623-630 -/
def reportBudget (maxInstructions maxCycles : U64) (res : MachineStepResult) : SessionState γ :=
  if s.lastStopReason.code = .none then
    if res.instructionsExecuted ≥ maxInstructions then
      s.withReason .budgetInstructionsExhausted "Limite de instruções atingido"
    else if res.cyclesConsumed ≥ maxCycles then
      s.withReason .budgetCyclesExhausted "Limite de ciclos atingido"
    else s
  else s

/-- The command `Step`. SOURCE: libs/machine/src/machine_session.cpp:501-566 -/
def executeStep (instructionBudget : U64) : Option (Result MachineStepResult) × SessionState γ :=
  if s.executable then
    let budget := if instructionBudget > 0 then instructionBudget else 1
    let r := commandLoop p (fun _ => true) "Falha de CPU durante o step" budget.toNat
      { state := s.state } s
    r.2.leavePrepared.reportStep.finishCommand p r.1
  else
    s.rejected

/-- The command `RunWithBudget`. SOURCE: libs/machine/src/machine_session.cpp:567-639 -/
def executeRunWithBudget (maxInstructions maxCycles : U64) :
    Option (Result MachineStepResult) × SessionState γ :=
  if s.executable then
    let r := commandLoop p (fun cycles => cycles < maxCycles) "Falha de CPU durante a execução"
      maxInstructions.toNat { state := s.state } s
    (r.2.leavePrepared.reportBudget maxInstructions maxCycles r.1).finishCommand p r.1
  else
    s.rejected

/-- The session ends up in a state, with a code and a text, and those who wait are told.
SOURCE: libs/machine/src/machine_session.cpp:483-486, 493-498, 648-652, 658-662 -/
def endBy (state : MachineState) (code : StopReasonCode) (detail : String) : SessionState γ :=
  (({ s with state := state }.withReason code detail).takeSnapshot p).notifyDone

/-- A pause at the wish of the user. -/
def pauseByUser : SessionState γ := s.endBy p .paused .paused "Execução pausada pelo usuário"

/-- `ExecuteCommandLocked`, with what the promise of the command is given.
SOURCE: libs/machine/src/machine_session.cpp:463-643 -/
def executeCommand : MachineCommand → Option (Result MachineStepResult) × SessionState γ
  | .start budgets =>
    (none, { s with
      activeBudgets := budgets
      sessionInstructionsExecuted := 0
      sessionCyclesConsumed := 0
      lastStopReason := {} }.takeSnapshot p)
  | .resume budgets => (none, { s with activeBudgets := budgets }.takeSnapshot p)
  | .pause _ =>
    if s.state = .running then
      (none, { s.pauseByUser p with pauseRequested := false })
    else
      (none, { s with pauseRequested := false })
  | .stop =>
    (none, { (s.endBy p .stopped .none "Sessão parada") with stopRequested := false })
  | .step instructionBudget => s.executeStep p instructionBudget
  | .runWithBudget maxInstructions maxCycles => s.executeRunWithBudget p maxInstructions maxCycles

/-! ## Slices -/

/-- A slice that does not execute: the run is over for a reason.
SOURCE: libs/machine/src/machine_session.cpp:673-688, 692-706, 710-724 -/
def pausedFor (reason : StopReason) : SessionState γ :=
  ({ s with state := .paused, lastStopReason := reason }.takeSnapshot p).notifyDone

/-- The loop of a slice, for the turns that are left.
SOURCE: libs/machine/src/machine_session.cpp:734-773 -/
def sliceLoop : ℕ → SessionState γ → SessionState γ
  | 0, s => s
  | left + 1, s =>
    if s.pauseRequested || s.stopRequested then
      s
    else
      let r := s.executeOne p
      let s := { r.2 with
        sessionInstructionsExecuted := r.2.sessionInstructionsExecuted + 1
        sessionCyclesConsumed :=
          if r.1.cyclesConsumed > 0 then r.2.sessionCyclesConsumed + r.1.cyclesConsumed
          else r.2.sessionCyclesConsumed }
      match r.1.result with
      | .halted => s.afterHalt p
      | .faulted => s.afterFault p "Falha de CPU durante execução" r.1
      | .ok => sliceLoop left s

/-- `std::min`. -/
def minOf {w : ℕ} (a b : BitVec w) : BitVec w := if b < a then b else a

/-- `slice_limit`. SOURCE: libs/machine/src/machine_session.cpp:728-732 -/
def sliceLimit : U32 :=
  let chunk : U32 :=
    if s.activeBudgets.chunkInstructions > 0 then minOf s.activeBudgets.chunkInstructions 1000
    else 1000
  let remainingInst := s.activeBudgets.maxInstructions - s.sessionInstructionsExecuted
  (minOf (chunk.setWidth 64) remainingInst).setWidth 32

def kUsbFrameCycleInterval : Cycle := 50000

/-- A frame of the USB controller is due.
SOURCE: libs/machine/src/machine_session.cpp:775-777 -/
def usbFrameDue : Bool :=
  p.currentCycle s.guest ≥ s.lastUsbFrameCycle + kUsbFrameCycleInterval

/-- The USB controller at the end of a slice.
SOURCE: libs/machine/src/machine_session.cpp:775-782 -/
def processUsb : SessionState γ :=
  if s.usbFrameDue p then
    { s with
      lastUsbFrameCycle := p.currentCycle s.guest
      guest := p.processFrame s.guest }
  else s

/-- The frame sequence at the end of a slice.
SOURCE: libs/machine/src/machine_session.cpp:784-787 -/
def syncFrame : SessionState γ :=
  if p.frameCounter s.guest > s.frameSequence then
    { s with frameSequence := p.frameCounter s.guest }
  else s

/-- The slice itself, once it is known that there is something to execute.
SOURCE: libs/machine/src/machine_session.cpp:727-794 -/
def executeSlice : SessionState γ :=
  let s := sliceLoop p s.sliceLimit.toNat s
  let s := ((s.processUsb p).syncFrame p).takeSnapshot p
  if s.state ≠ .running then s.notifyDone else s

/-- `ExecuteRunningSliceLocked`; `elapsedMs` is the time since the run was begun.
SOURCE: libs/machine/src/machine_session.cpp:645-794 -/
def executeRunningSlice (elapsedMs : U64) : SessionState γ :=
  if s.pauseRequested then
    { s with pauseRequested := false }.pauseByUser p
  else if s.stopRequested then
    { s with stopRequested := false }.endBy p .stopped .none "Sessão finalizada"
  else if s.activeBudgets.maxWallTimeMs > 0 ∧ elapsedMs ≥ s.activeBudgets.maxWallTimeMs then
    s.pausedFor p (s.reasonHere p .budgetWallTimeExhausted 0 "Watchdog" "WallTime"
      "Watchdog: limite de tempo wall-clock esgotado")
  else if s.sessionInstructionsExecuted ≥ s.activeBudgets.maxInstructions then
    s.pausedFor p (s.reasonHere p .budgetInstructionsExhausted 0 "Budget" "Instructions"
      "Limite de instruções esgotado")
  else if s.sessionCyclesConsumed ≥ s.activeBudgets.maxCycles then
    s.pausedFor p (s.reasonHere p .budgetCyclesExhausted 0 "Budget" "Cycles"
      "Limite de ciclos esgotado")
  else
    s.executeSlice p

/-- The worker finds no command and a guest to run. -/
def runnable : Bool := s.state == .running && !s.pauseRequested && !s.stopRequested

/-- One round of `WorkerLoop`; with nothing to do it waits.
SOURCE: libs/machine/src/machine_session.cpp:438-461 -/
def workerRound (elapsedMs : U64) : SessionState γ :=
  match s.commandQueue with
  | cmd :: rest => ({ s with commandQueue := rest }.executeCommand p cmd).2
  | [] => if s.runnable then s.executeRunningSlice p elapsedMs else s

/-! ## Host calls -/

/-- A command put in the queue. -/
def enqueue (cmd : MachineCommand) : SessionState γ :=
  { s with commandQueue := s.commandQueue ++ [cmd] }

/-- The error of a call made in the wrong state. -/
def invalidState (message : String) : Error := { code := .invalidState, message := message }

/-- `Prepare` and `PrepareMedia`: `load` is what the loader makes of the machine.
SOURCE: libs/machine/src/machine_session.cpp:107-211 -/
def prepare (load : γ → Result Unit × γ) : Result Unit × SessionState γ :=
  if s.state ≠ .created then
    (.error (invalidState "Sessão só pode ser preparada a partir do estado Created"), s)
  else
    match load s.guest with
    | (.error e, guest) => (.error e, { s with guest := guest, lastError := some e })
    | (.ok (), guest) =>
      (.ok (), { s with guest := guest, state := .prepared, lastError := none }.takeSnapshot p)

/-- `Start`. SOURCE: libs/machine/src/machine_session.cpp:213-233 -/
def start (budgets : ExecutionBudgets) : Result Unit × SessionState γ :=
  if !s.executable then
    (.error (invalidState "Sessão não está em estado executável (Prepared ou Paused)"), s)
  else
    (.ok (), { s with
      state := .running
      activeBudgets := budgets
      sessionInstructionsExecuted := 0
      sessionCyclesConsumed := 0
      pauseRequested := false
      stopRequested := false
      runs := s.runs + 1 }.enqueue (.start budgets))

/-- `Resume`. SOURCE: libs/machine/src/machine_session.cpp:235-252 -/
def resume (budgets : ExecutionBudgets) : Result Unit × SessionState γ :=
  if s.state ≠ .paused then
    (.error (invalidState "Sessão só pode ser resumida a partir de Paused"), s)
  else
    (.ok (), { s with
      state := .running
      activeBudgets := budgets
      pauseRequested := false
      stopRequested := false
      runs := s.runs + 1 }.enqueue (.resume budgets))

/-- `Step` and `RunWithBudget` up to the wait for their result.
SOURCE: libs/machine/src/machine_session.cpp:254-301 -/
def request (cmd : MachineCommand) : Result Unit × SessionState γ :=
  if !s.executable then
    (.error (invalidState "Sessão não está em estado executável (Prepared ou Paused)"), s)
  else
    (.ok (), { s with pauseRequested := false, stopRequested := false }.enqueue cmd)

/-- `Pause` up to its wait, which changes nothing.
SOURCE: libs/machine/src/machine_session.cpp:303-329 -/
def pause : Result Unit × SessionState γ :=
  match s.state with
  | .stopped | .faulted =>
    (.error (invalidState "Não é possível pausar uma sessão Faulted ou Stopped"), s)
  | .paused => (.ok (), s)
  | .prepared =>
    (.ok (), { s with
      state := .paused
      lastStopReason := { s.lastStopReason with code := .paused } }.takeSnapshot p)
  | .created | .running => (.ok (), { s with pauseRequested := true }.enqueue (.pause s.runs))

/-- `Stop` up to its wait, which changes nothing.
SOURCE: libs/machine/src/machine_session.cpp:331-346 -/
def stop : Result Unit × SessionState γ :=
  if s.state = .stopped then (.ok (), s)
  else (.ok (), { s with stopRequested := true }.enqueue .stop)

/-- What `WaitCompletion` waits for. SOURCE: libs/machine/src/machine_session.cpp:350-357 -/
def completed : Bool := s.commandQueue.isEmpty && s.state != .running

end SessionState

end Xblob.Machine
