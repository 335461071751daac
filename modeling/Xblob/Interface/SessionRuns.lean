import Mathlib.Algebra.Order.Ring.Nat
import Xblob.Computation.Runs
import Xblob.Model.Machine.SessionLoop

/-!
# Sessions

Calls of a session, the modes they leave it in, and the reasons for which they stop.
-/

set_option autoImplicit false

namespace Xblob.Interface

open Xblob.Computation Xblob.Machine Xblob.Processor

/-!
## Runs of a session

A run is any sequence of host calls and rounds of the worker.  Three properties of runs are
stated here: what the states of the session allow, that a pause is for the run it was asked
for in, and that nobody is left waiting for a completion that has come about.
-/

section SessionRuns

variable {γ : Type}

/-- A host call, or a round of the worker at a time of the wall clock. -/
inductive SessionEvent (γ : Type) where
  | prepare (load : γ → Result Unit × γ)
  | prepareMedia (load : γ → Result Unit × γ)
  | start (budgets : ExecutionBudgets)
  | resume (budgets : ExecutionBudgets)
  | step (instructionBudget : U64)
  | runWithBudget (maxInstructions maxCycles : U64)
  | pause
  | stop
  | round (elapsedMs : U64)

/-- The session after an event. -/
def SessionEvent.next (p : SessionParts γ) (s : SessionState γ) : SessionEvent γ → SessionState γ
  | .prepare load => (s.prepare p load).2
  | .prepareMedia load => (s.prepare p load).2
  | .start budgets => (s.start budgets).2
  | .resume budgets => (s.resume budgets).2
  | .step instructionBudget => (s.request (.step instructionBudget)).2
  | .runWithBudget maxInstructions maxCycles =>
    (s.request (.runWithBudget maxInstructions maxCycles)).2
  | .pause => (s.pause p).2
  | .stop => s.stop.2
  | .round elapsedMs => s.workerRound p elapsedMs

/-- A new session. -/
def newSession (guest : γ) : SessionState γ := { guest := guest }

/-- The session after events. -/
def sessionAfter (p : SessionParts γ) (guest : γ) (events : List (SessionEvent γ)) :
    SessionState γ :=
  events.foldl (SessionEvent.next p) (newSession guest)

/-- A guest that executes one-cycle instructions for ever, with the frames its USB controller
has processed. -/
structure IdlingGuest where
  cycle : Cycle := 0
  frames : U64 := 0
  deriving DecidableEq

/-- The parts of a session whose guest idles. -/
def idlingParts : SessionParts IdlingGuest where
  step guest := ({ result := .ok, cyclesConsumed := 1 }, guest)
  stepCycles cycles guest :=
    { guest with cycle := (checkedAdd guest.cycle cycles).getD guest.cycle }
  currentCycle guest := guest.cycle
  recordInstruction _ guest := guest
  eip _ := 0
  currentThreadId _ := 0
  lastUnsupportedExport _ := none
  processFrame guest := { guest with frames := guest.frames + 1 }
  frameCounter _ := 0
  inspectStack guest := guest

/-- A loader that leaves the guest as it is. -/
def loadNothing (guest : IdlingGuest) : Result Unit × IdlingGuest := (.ok (), guest)

/-! ### The states of a session -/

/-- A round now is a slice. -/
def slices (s : SessionState γ) : Bool := s.commandQueue.isEmpty && s.runnable

/-- The command executes instructions. -/
def executes : MachineCommand → Bool
  | .step _ | .runWithBudget _ _ => true
  | _ => false

/-- The event may execute instructions: it is a round that finds such a command in a prepared
or paused session, or a round that finds a running session and no command. -/
inductive MayExecute (s : SessionState γ) : SessionEvent γ → Prop
  | command {cmd : MachineCommand} {rest : List MachineCommand} (elapsedMs : U64)
      (hqueue : s.commandQueue = cmd :: rest) (hcmd : executes cmd)
      (hstate : s.state = .prepared ∨ s.state = .paused) : MayExecute s (.round elapsedMs)
  | slice (elapsedMs : U64) (hqueue : s.commandQueue = []) (hstate : s.state = .running) :
    MayExecute s (.round elapsedMs)

/-- What the states of a session allow an event to do. -/
structure EventLawful (p : SessionParts γ) (s : SessionState γ) (e : SessionEvent γ) : Prop where
  stopped : s.state = .stopped → (e.next p s).state = .stopped
  faulted : s.state = .faulted → (e.next p s).state = .faulted ∨ (e.next p s).state = .stopped
  executed : (e.next p s).steps ≠ s.steps → MayExecute s e
  bounded : ∀ elapsedMs, e = .round elapsedMs → slices s →
    s.sessionInstructionsExecuted < (e.next p s).sessionInstructionsExecuted →
      (e.next p s).sessionInstructionsExecuted ≤ s.activeBudgets.maxInstructions

/-- The instructions that slices have executed since the latest `Start` that succeeded, after
one more event. -/
def countSlice (p : SessionParts γ) (s : SessionState γ) (count : ℕ) : SessionEvent γ → ℕ
  | .start _ => if s.executable then 0 else count
  | .round elapsedMs =>
    if slices s then count + ((s.workerRound p elapsedMs).steps - s.steps) else count
  | _ => count

/-- The instructions that slices have executed since the latest `Start` that succeeded. -/
def sliceInstructions (p : SessionParts γ) :
    SessionState γ → ℕ → List (SessionEvent γ) → ℕ
  | _, count, [] => count
  | s, count, e :: es => sliceInstructions p (e.next p s) (countSlice p s count e) es

/-! ### Pauses -/

/-- The round would pause the run that is going on, by a command for another one. -/
def PausesOther (s : SessionState γ) : Prop :=
  s.state = .running ∧ ∃ run rest, s.commandQueue = .pause run :: rest ∧ run ≠ s.runs

/-- The commands that will be found before any `Stop`. -/
def beforeStop (queue : List MachineCommand) : List MachineCommand :=
  queue.takeWhile fun cmd => cmd ≠ .stop

/-- The command is a pause. -/
def isPause : MachineCommand → Bool
  | .pause _ => true
  | _ => false

/-- The event begins a run. -/
def begins (s : SessionState γ) : SessionEvent γ → Bool
  | .start _ => s.executable
  | .resume _ => s.state == .paused
  | _ => false

/-- A run is begun only when no pause is waiting that will be found before a `Stop`. -/
def PausesDone (s : SessionState γ) (e : SessionEvent γ) : Prop :=
  begins s e → ∀ cmd ∈ beforeStop s.commandQueue, isPause cmd = false

/-! ### Waiting for completion -/

/-- A session and whether a thread is waiting in `WaitCompletion`. -/
structure WatchedSession (γ : Type) where
  session : SessionState γ
  waiting : Bool := false

/-- An event of the session, or a call of `WaitCompletion` without timeout. -/
inductive WatchedEvent (γ : Type) where
  | event (e : SessionEvent γ)
  | waitCompletion

/-- A thread that waits looks again when it is notified, and leaves when the session has
completed. -/
def WatchedEvent.next (p : SessionParts γ) (w : WatchedSession γ) :
    WatchedEvent γ → WatchedSession γ
  | .event e =>
    let s := e.next p w.session
    { session := s
      waiting := if s.notices = w.session.notices then w.waiting
        else w.waiting && !s.completed }
  | .waitCompletion => { w with waiting := w.waiting || !w.session.completed }

/-- A round that completes the session notifies those who wait. -/
def NoticesCompletion (p : SessionParts γ) (s : SessionState γ) : Prop :=
  ∀ elapsedMs, s.completed = false → (s.workerRound p elapsedMs).completed = true →
    s.notices < (s.workerRound p elapsedMs).notices

/-- The command is one that the state makes something of. -/
def heard (state : MachineState) : MachineCommand → Bool
  | .start _ | .resume _ | .pause _ => state == .running
  | .step _ | .runWithBudget _ _ => state == .prepared || state == .paused || state == .running
  | .stop => true

/-- The last command in the queue is one that the state makes something of. -/
def LastHeard (s : SessionState γ) : Prop :=
  ∀ cmd, s.commandQueue = [cmd] → heard s.state cmd

/-- Every round finds such a command, or none, or more than one. -/
def RoundsHeard (w : WatchedSession γ) : WatchedEvent γ → Prop
  | .event (.round _) => LastHeard w.session
  | _ => True

end SessionRuns

/-!
## Three ways to execute instructions

A prepared session can execute instructions by single steps, by one bounded run, and by slices
after a `Start`.  The machine they leave is the guest, with everything that belongs to it, and
the cycle of the last USB frame, which decides when the controller works next.

A prepared session may have commands in its queue: those of calls made before it was prepared, and
those that its worker has not come to.  The worker executes them first, and `Start` may be
called after any of its rounds.
-/

section SessionModes

variable {γ : Type} (p : SessionParts γ)

/-- The guest after one instruction, its clock and its trace. -/
def oneMore (guest : γ) : γ :=
  let r := p.step guest
  p.recordInstruction (p.eip guest)
    (if r.1.cyclesConsumed > 0 then p.stepCycles r.1.cyclesConsumed r.2 else r.2)

/-- The guest after `k` instructions. -/
def guestAfter (guest : γ) : ℕ → γ
  | 0 => guest
  | k + 1 => oneMore p (guestAfter guest k)

/-- The cycles of `k` instructions. -/
def cyclesAfter (guest : γ) : ℕ → Cycle
  | 0 => 0
  | k + 1 => cyclesAfter guest k + (p.step (guestAfter p guest k)).1.cyclesConsumed

/-- `n` instructions neither fault nor halt, and each begins within the limit of cycles. -/
def GoesThrough (guest : γ) (n : ℕ) (maxCycles : Cycle) : Prop :=
  ∀ k < n, (p.step (guestAfter p guest k)).1.result = .ok ∧ cyclesAfter p guest k < maxCycles

/-- The stack is in memory that can be looked at without a change, after each of `n`
instructions. -/
def StackSilent (guest : γ) (n : ℕ) : Prop :=
  ∀ k ≤ n, p.inspectStack (guestAfter p guest k) = guestAfter p guest k

/-- The clock runs forward, with each instruction and otherwise not at all. -/
structure ClockForward : Prop where
  step : ∀ guest, p.currentCycle guest ≤ p.currentCycle (oneMore p guest)
  frame : ∀ guest, p.currentCycle (p.processFrame guest) = p.currentCycle guest
  stack : ∀ guest, p.currentCycle (p.inspectStack guest) = p.currentCycle guest

/-- A frame of the USB controller is due after `k` instructions, if none has been processed. -/
def FrameDue (guest : γ) (k : ℕ) : Prop :=
  SessionState.kUsbFrameCycleInterval ≤ p.currentCycle (guestAfter p guest k)

/-- The clock moves on with each of `n` instructions. -/
def ClockMoves (guest : γ) (n : ℕ) : Prop :=
  ∀ k < n, p.currentCycle (guestAfter p guest k) < p.currentCycle (guestAfter p guest (k + 1))

/-- The instructions that a command asks for. -/
def asked : MachineCommand → ℕ
  | .step instructionBudget => (if instructionBudget > 0 then instructionBudget else 1).toNat
  | .runWithBudget maxInstructions maxCycles => if maxCycles = 0 then 0 else maxInstructions.toNat
  | _ => 0

/-- The instructions that the commands in a queue ask for before any `Stop`. -/
def waitingInstructions (queue : List MachineCommand) : ℕ := ((beforeStop queue).map asked).sum

/-- No instruction on the way faults or halts: none of the waiting ones, and none of `n` more
after any of them, which all begin within the limit of cycles. -/
structure GoesThroughAll (guest : γ) (waiting n : ℕ) (maxCycles : Cycle) : Prop where
  ok : ∀ k < waiting, (p.step (guestAfter p guest k)).1.result = .ok
  goes : ∀ k ≤ waiting, GoesThrough p (guestAfter p guest k) n maxCycles
  silent : StackSilent p guest (waiting + n)

/-- Rounds of the worker at times of the wall clock. -/
def rounds (times : List U64) (s : SessionState γ) : SessionState γ :=
  times.foldl (fun s time => s.workerRound p time) s

/-- The rounds of the commands that are in the queue. -/
def drained (s : SessionState γ) : SessionState γ :=
  rounds p (List.replicate s.commandQueue.length 0) s

/-- `n` calls of `Step`, each of them executed. -/
def bySteps (s : SessionState γ) : ℕ → SessionState γ
  | 0 => drained p s
  | n + 1 => drained p (SessionEvent.next p (bySteps s n) (.step 1))

/-- One call of `RunWithBudget`, executed. -/
def byBudget (n maxCycles : U64) (s : SessionState γ) : SessionState γ :=
  drained p (SessionEvent.next p s (.runWithBudget n maxCycles))

/-- A call of `Start` after early rounds of the worker, and its rounds after the call. -/
def byStart (early : List U64) (n maxCycles : U64) (chunk : U32) (times : List U64)
    (s : SessionState γ) : SessionState γ :=
  rounds p times (SessionEvent.next p (rounds p early s) (.start
    { maxInstructions := n, maxCycles := maxCycles, chunkInstructions := chunk }))

/-- Two sessions have the same machine. -/
def SameMachine (s s' : SessionState γ) : Prop :=
  s.guest = s'.guest ∧ s.lastUsbFrameCycle = s'.lastUsbFrameCycle

/-- The three ways leave the same machine, whenever `Start` is called. -/
def ModesAgree (n maxCycles : U64) (chunk : U32) (s : SessionState γ) : Prop :=
  SameMachine (bySteps p s n.toNat) (byBudget p n maxCycles s) ∧
    ∀ early times, (byStart p early n maxCycles chunk times s).completed = true →
      SameMachine (byStart p early n maxCycles chunk times s) (byBudget p n maxCycles s)

/-- No command that waits executes an instruction; and a `Stop` waits, or there is nothing to
execute, or no pause waits and no USB frame is due after the instructions. -/
def NothingInTheWay (n : U64) (s : SessionState γ) : Prop :=
  waitingInstructions s.commandQueue = 0 ∧
    (MachineCommand.stop ∈ s.commandQueue ∨ n = 0 ∨
      (∀ cmd ∈ s.commandQueue, isPause cmd = false) ∧ ¬ FrameDue p s.guest n.toNat)

end SessionModes

/-!
## Why the last command stopped

A command that executes instructions ends by itself: at HLT, at a fault, or at one of its limits.
Which of them it is follows from the guest it finds, and so does the reason it is to report.
-/

section StopReasons

variable {γ : Type} (p : SessionParts γ)

/-- How a command ends. -/
inductive CommandEnd (γ : Type) where
  | halted (guest : γ)
  | faulted (guest : γ) (outcome : StepOutcome)
  | instructions
  | cycles

/-- The end of a command that may execute so many more instructions on the guest. -/
def commandEnd (within : Cycle → Bool) : ℕ → Cycle → γ → CommandEnd γ
  | 0, _, _ => .instructions
  | left + 1, cycles, guest =>
    if within cycles then
      match (p.step guest).1.result with
      | .halted => .halted (oneMore p guest)
      | .faulted => .faulted (oneMore p guest) (p.step guest).1
      | .ok => commandEnd within left (cycles + (p.step guest).1.cyclesConsumed) (oneMore p guest)
    else .cycles

/-- The command is ended by the guest and not by a limit. -/
def CommandEnd.byGuest : CommandEnd γ → Bool
  | .halted _ | .faulted _ _ => true
  | .instructions | .cycles => false

/-- The end of a command on a guest. -/
def endOf : MachineCommand → γ → CommandEnd γ
  | .step instructionBudget, guest =>
    commandEnd p (fun _ => true)
      (if instructionBudget > 0 then instructionBudget else 1).toNat 0 guest
  | .runWithBudget maxInstructions maxCycles, guest =>
    commandEnd p (fun cycles => cycles < maxCycles) maxInstructions.toNat 0 guest
  | _, _ => .instructions

/-- The reason of a limit, by the command that has it. -/
def limitReason : MachineCommand → CommandEnd γ → StopReason
  | .step _, _ => { code := .stepCompleted, detail := "Step de instrução concluído" }
  | _, .cycles => { code := .budgetCyclesExhausted, detail := "Limite de ciclos atingido" }
  | _, _ => { code := .budgetInstructionsExhausted, detail := "Limite de instruções atingido" }

/-- The reason of an end. -/
def reasonOf (cmd : MachineCommand) : CommandEnd γ → StopReason
  | .halted guest =>
    (newSession guest).reasonHere p .halted 0xF4 "CPU" "HLT" "Instrução HLT executada"
  | .faulted guest outcome => (newSession guest).faultReason p outcome
  | e => limitReason cmd e

/-- The reason that a command on a guest is to report. -/
def ownReason (cmd : MachineCommand) (guest : γ) : StopReason :=
  reasonOf p cmd (endOf p cmd guest)

/-- The next round executes a command. -/
structure Due (s : SessionState γ) (cmd : MachineCommand) : Prop where
  first : s.commandQueue.head? = some cmd
  executes : executes cmd
  executable : s.executable

/-- The round that executes the command reports the reason of the command. -/
def ReportsOwn (s : SessionState γ) (cmd : MachineCommand) : Prop :=
  ∀ elapsedMs, (s.workerRound p elapsedMs).lastStopReason = ownReason p cmd s.guest

/-- No reason is recorded that keeps the command from recording its own. -/
def RecordFree (s : SessionState γ) (cmd : MachineCommand) : Prop :=
  s.lastStopReason.code = .none ∨ (endOf p cmd s.guest).byGuest ∨
    s.lastStopReason = ownReason p cmd s.guest

end StopReasons

end Xblob.Interface
