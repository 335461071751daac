import Xblob.Analysis.SchedulerClock
import Xblob.Analysis.SessionPauses
import Xblob.Interface.SessionRuns

/-!
# The ways to execute instructions differ by the USB frames

The three loops execute the same instructions.  Only a slice looks at the USB controller when
it ends, so the machines are the same as long as no slice ends with a frame due.  The clock
runs forward and every run ends with a slice, so that is so exactly if no frame is due after
the last instruction.

Commands that wait in the queue of the session are the other difference: a session that was
started rejects those that execute instructions, and a pause ends its run before the first slice.
-/

set_option autoImplicit false

namespace Xblob.Analysis

open Xblob.Computation Xblob.Interface Xblob.Machine Xblob.Machine.SessionState

variable {γ : Type} {p : SessionParts γ} {s : SessionState γ} {guest : γ}

/-! ## One instruction after the other -/

/-- One instruction takes the guest one further. -/
theorem executeOne_guest (p : SessionParts γ) (s : SessionState γ) :
    (s.executeOne p).2.guest = oneMore p s.guest := rfl

/-- The outcome of one instruction is that of the guest. -/
theorem executeOne_outcome (p : SessionParts γ) (s : SessionState γ) :
    (s.executeOne p).1 = (p.step s.guest).1 := rfl

/-- The session is at instruction `k` of the guest, and no frame has been processed. -/
structure Reached (p : SessionParts γ) (guest : γ) (frame : Cycle) (k : ℕ) (s : SessionState γ) :
    Prop where
  guest : s.guest = guestAfter p guest k
  frame : s.lastUsbFrameCycle = frame

variable {frame : Cycle}

/-- The loop of a command executes all its instructions. -/
theorem commandLoop_reached {n k : ℕ} {maxCycles : Cycle} (hgoes : GoesThrough p guest n maxCycles)
    (within : Cycle → Bool) (hwithin : ∀ cycles < maxCycles, within cycles = true)
    (message : String) (left : ℕ) (hleft : k + left = n) (res : MachineStepResult)
    (hcycles : res.cyclesConsumed = cyclesAfter p guest k) (s : SessionState γ)
    (hs : Reached p guest frame k s) :
    Reached p guest frame n (commandLoop p within message left res s).2 ∧
      (commandLoop p within message left res s).2.state = s.state := by
  induction left generalizing k res s with
  | zero =>
    obtain rfl : k = n := hleft
    exact ⟨hs, rfl⟩
  | succ left ih =>
    obtain ⟨hok, hlimit⟩ := hgoes k (by omega)
    have hresult : (s.executeOne p).1.result = .ok := by rw [executeOne_outcome, hs.guest, hok]
    rw [commandLoop, if_pos (hwithin _ (hcycles ▸ hlimit))]
    dsimp only
    rw [hresult]
    apply ih (k := k + 1) (by omega)
    · simp [hcycles, cyclesAfter, executeOne_outcome, hs.guest]
    · refine ⟨?_, hs.frame⟩
      rw [executeOne_guest, hs.guest]
      rfl

/-- What a command does after its loop is no concern of the machine. -/
theorem Reached.finish {n : ℕ} {s' : SessionState γ} (hs : Reached p guest frame n s)
    (hsilent : p.inspectStack (guestAfter p guest n) = guestAfter p guest n)
    (hguest : s'.guest = s.guest) (hframe : s'.lastUsbFrameCycle = s.lastUsbFrameCycle)
    (res : MachineStepResult) : Reached p guest frame n (s'.finishCommand p res).2 := by
  refine ⟨?_, hframe.trans hs.frame⟩
  show p.inspectStack s'.guest = _
  rw [hguest, hs.guest, hsilent]

/-- Leaving the prepared state leaves the machine. -/
theorem leavePrepared_machine (s : SessionState γ) : s.leavePrepared.guest = s.guest ∧
    s.leavePrepared.lastUsbFrameCycle = s.lastUsbFrameCycle := by
  unfold leavePrepared
  split
  · exact ⟨rfl, rfl⟩
  · exact ⟨rfl, rfl⟩

/-- Leaving the prepared state leaves the session executable. -/
theorem leavePrepared_executable (h : s.executable = true) : s.leavePrepared.executable = true := by
  unfold leavePrepared
  split
  · rfl
  · exact h

/-- Reporting a step leaves the machine. -/
theorem reportStep_machine (s : SessionState γ) : s.reportStep.guest = s.guest ∧
    s.reportStep.lastUsbFrameCycle = s.lastUsbFrameCycle := by
  unfold reportStep
  split
  · exact ⟨rfl, rfl⟩
  · exact ⟨rfl, rfl⟩

/-- Reporting a budget leaves the machine. -/
theorem reportBudget_machine (s : SessionState γ) (maxInstructions maxCycles : U64)
    (res : MachineStepResult) :
    (s.reportBudget maxInstructions maxCycles res).guest = s.guest ∧
      (s.reportBudget maxInstructions maxCycles res).lastUsbFrameCycle = s.lastUsbFrameCycle := by
  unfold reportBudget
  split
  · split
    · exact ⟨rfl, rfl⟩
    · split
      · exact ⟨rfl, rfl⟩
      · exact ⟨rfl, rfl⟩
  · exact ⟨rfl, rfl⟩

/-! ## Steps and bounded runs -/

/-- The loop of a command executes some of its instructions: the first one at least, if there is
one and it begins within the limit. -/
theorem commandLoop_some {k : ℕ} (within : Cycle → Bool) (message : String) (left : ℕ)
    (hok : ∀ j < left, (p.step (guestAfter p guest (k + j))).1.result = .ok)
    (res : MachineStepResult) (s : SessionState γ) (hs : Reached p guest frame k s) :
    ∃ e ≤ left, Reached p guest frame (k + e) (commandLoop p within message left res s).2 ∧
      (commandLoop p within message left res s).2.state = s.state ∧
      (left ≠ 0 → within res.cyclesConsumed = true → e ≠ 0) := by
  induction left generalizing k res s with
  | zero => exact ⟨0, Nat.le_refl _, hs, rfl, fun hne => absurd rfl hne⟩
  | succ left ih =>
    by_cases hwithin : within res.cyclesConsumed = true
    · have hresult : (s.executeOne p).1.result = .ok := by
        rw [executeOne_outcome, hs.guest]
        exact hok 0 (Nat.succ_pos _)
      have hnext : Reached p guest frame (k + 1) (s.executeOne p).2 := by
        refine ⟨?_, hs.frame⟩
        rw [executeOne_guest, hs.guest]
        rfl
      have hok' : ∀ j < left, (p.step (guestAfter p guest (k + 1 + j))).1.result = .ok := by
        intro j hj
        rw [show k + 1 + j = k + (j + 1) by omega]
        exact hok (j + 1) (by omega)
      rw [commandLoop, if_pos hwithin]
      dsimp only
      rw [hresult]
      obtain ⟨e, hle, hreached, hstate, -⟩ := ih hok' _ (s.executeOne p).2 hnext
      rw [show k + 1 + e = k + (e + 1) by omega] at hreached
      exact ⟨e + 1, by omega, hreached, hstate, fun _ _ => by omega⟩
    · rw [commandLoop, if_neg hwithin]
      exact ⟨0, Nat.zero_le _, hs, rfl, fun _ h => absurd h hwithin⟩

/-- The end of a command leaves the guest where its loop has left it, and the session ready for
more. -/
theorem Reached.leave {k : ℕ} (hs : Reached p guest frame k s) (hready : s.executable = true)
    (hsilent : p.inspectStack (guestAfter p guest k) = guestAfter p guest k) {s' : SessionState γ}
    (hreported : Reported s.leavePrepared s') (hguest : s'.guest = s.leavePrepared.guest)
    (hframe : s'.lastUsbFrameCycle = s.leavePrepared.lastUsbFrameCycle) (res : MachineStepResult) :
    Reached p guest frame k (s'.finishCommand p res).2 ∧
      (s'.finishCommand p res).2.executable = true := by
  obtain ⟨hguest', hframe'⟩ := leavePrepared_machine s
  refine ⟨hs.finish hsilent (hguest.trans hguest') (hframe.trans hframe') res, ?_⟩
  have hleft := leavePrepared_executable hready
  rw [executable, ← hreported.state] at hleft
  exact hleft

/-- A command in a session that can execute it leads some instructions on, but not more than it
asks for. -/
theorem executes_reached {k : ℕ} {cmd : MachineCommand} (hexecutes : executes cmd = true)
    (hready : s.executable = true) (hs : Reached p guest frame k s)
    (hok : ∀ j < asked cmd, (p.step (guestAfter p guest (k + j))).1.result = .ok)
    (hsilent : ∀ j ≤ asked cmd,
      p.inspectStack (guestAfter p guest (k + j)) = guestAfter p guest (k + j)) :
    ∃ e ≤ asked cmd, (asked cmd ≠ 0 → e ≠ 0) ∧
      Reached p guest frame (k + e) (s.executeCommand p cmd).2 ∧
      (s.executeCommand p cmd).2.executable = true := by
  cases cmd with
  | step budget =>
    obtain ⟨e, hle, hloop, hstate, hmoved⟩ := commandLoop_some (fun _ => true)
      "Falha de CPU durante o step" (asked (.step budget)) hok { state := s.state } s hs
    refine ⟨e, hle, fun hne => hmoved hne rfl, ?_⟩
    have hready' := hready
    rw [executable, ← hstate] at hready'
    have hreport := reportStep_machine (commandLoop p (fun _ => true) "Falha de CPU durante o step"
      (asked (.step budget)) { state := s.state } s).2.leavePrepared
    rw [executeCommand, executeStep, if_pos hready]
    exact hloop.leave hready' (hsilent e hle) (reported_step _) hreport.1 hreport.2 _
  | runWithBudget maxInstructions maxCycles =>
    have hloop : ∃ e ≤ asked (.runWithBudget maxInstructions maxCycles),
        (asked (.runWithBudget maxInstructions maxCycles) ≠ 0 → e ≠ 0) ∧
        Reached p guest frame (k + e) (commandLoop p (fun cycles => cycles < maxCycles)
          "Falha de CPU durante a execução" maxInstructions.toNat { state := s.state } s).2 ∧
        (commandLoop p (fun cycles => cycles < maxCycles) "Falha de CPU durante a execução"
          maxInstructions.toNat { state := s.state } s).2.state = s.state := by
      by_cases hzero : maxCycles = 0
      · -- no instruction begins within a limit of no cycles
        subst hzero
        have hnone : asked (.runWithBudget maxInstructions 0) = 0 := by simp [asked]
        refine ⟨0, Nat.zero_le _, fun hne => absurd hnone hne, ?_⟩
        cases maxInstructions.toNat with
        | zero => exact ⟨hs, rfl⟩
        | succ left =>
          rw [commandLoop, if_neg (by simp)]
          exact ⟨hs, rfl⟩
      · have hasked : asked (.runWithBudget maxInstructions maxCycles) = maxInstructions.toNat :=
          if_neg hzero
        rw [hasked] at hok ⊢
        obtain ⟨e, hle, hloop, hstate, hmoved⟩ := commandLoop_some (fun cycles => cycles < maxCycles)
          "Falha de CPU durante a execução" maxInstructions.toNat hok { state := s.state } s hs
        have hpos : (0 : Cycle) < maxCycles := (BitVec.pos_iff_ne_zero _).2 hzero
        exact ⟨e, hle, fun hne => hmoved hne (decide_eq_true hpos), hloop, hstate⟩
    obtain ⟨e, hle, hmoved, hloop, hstate⟩ := hloop
    refine ⟨e, hle, hmoved, ?_⟩
    have hready' := hready
    rw [executable, ← hstate] at hready'
    have hreport := reportBudget_machine (commandLoop p (fun cycles => cycles < maxCycles)
      "Falha de CPU durante a execução" maxInstructions.toNat { state := s.state } s).2.leavePrepared
      maxInstructions maxCycles (commandLoop p (fun cycles => cycles < maxCycles)
      "Falha de CPU durante a execução" maxInstructions.toNat { state := s.state } s).1
    rw [executeCommand, executeRunWithBudget, if_pos hready]
    exact hloop.leave hready' (hsilent e hle) (reported_budget _ _ _ _) hreport.1 hreport.2 _
  | start budgets => cases hexecutes
  | resume budgets => cases hexecutes
  | pause run => cases hexecutes
  | stop => cases hexecutes

/-- A bounded run executes its instructions. -/
theorem executeRunWithBudget_reached {n maxCycles : U64}
    (hgoes : GoesThrough p guest n.toNat maxCycles) (hsilent : StackSilent p guest n.toNat)
    (hs : Reached p guest frame 0 s) (hready : s.executable = true) :
    Reached p guest frame n.toNat (s.executeRunWithBudget p n maxCycles).2 := by
  obtain ⟨hloop, -⟩ := commandLoop_reached hgoes (fun cycles => cycles < maxCycles)
    (by simp) "Falha de CPU durante a execução" n.toNat (Nat.zero_add _) { state := s.state } rfl s
    hs
  rw [executeRunWithBudget, if_pos hready]
  obtain ⟨hguest, hframe⟩ := leavePrepared_machine (commandLoop p (fun cycles => cycles < maxCycles)
    "Falha de CPU durante a execução" n.toNat { state := s.state } s).2
  obtain ⟨hguest', hframe'⟩ := reportBudget_machine (commandLoop p (fun cycles => cycles < maxCycles)
    "Falha de CPU durante a execução" n.toNat { state := s.state } s).2.leavePrepared n maxCycles
    (commandLoop p (fun cycles => cycles < maxCycles)
      "Falha de CPU durante a execução" n.toNat { state := s.state } s).1
  exact hloop.finish (hsilent _ (Nat.le_refl _)) (hguest'.trans hguest) (hframe'.trans hframe) _

/-! ## Slices -/

/-- A session that runs slices under a budget and has no command to execute. -/
structure Slicing (budgets : ExecutionBudgets) (s : SessionState γ) : Prop where
  state : s.state = .running
  queue : s.commandQueue = []
  pause : s.pauseRequested = false
  stop : s.stopRequested = false
  budgets : s.activeBudgets = budgets

/-- A session within its slices is runnable. -/
theorem Slicing.runnable {budgets : ExecutionBudgets} (h : Slicing budgets s) :
    s.runnable = true := by
  simp [SessionState.runnable, h.state, h.pause, h.stop]

/-- A round of such a session. -/
theorem Slicing.round {budgets : ExecutionBudgets} (h : Slicing budgets s)
    (hwall : budgets.maxWallTimeMs = 0) (elapsedMs : U64) :
    s.workerRound p elapsedMs =
      if s.sessionInstructionsExecuted ≥ budgets.maxInstructions then
        s.pausedFor p (s.reasonHere p .budgetInstructionsExhausted 0 "Budget" "Instructions"
          "Limite de instruções esgotado")
      else if s.sessionCyclesConsumed ≥ budgets.maxCycles then
        s.pausedFor p (s.reasonHere p .budgetCyclesExhausted 0 "Budget" "Cycles"
          "Limite de ciclos esgotado")
      else s.executeSlice p := by
  rw [workerRound, h.queue]
  show (if s.runnable then s.executeRunningSlice p elapsedMs else s) = _
  rw [if_pos h.runnable, executeRunningSlice, if_neg (by simp [h.pause]), if_neg (by simp [h.stop]),
    if_neg (by simp [h.budgets, hwall]), h.budgets]

/-- A session below its budget has instructions left in the slice. -/
theorem sliceLimit_pos (h : s.sessionInstructionsExecuted < s.activeBudgets.maxInstructions) :
    0 < s.sliceLimit.toNat := by
  have hle : s.sessionInstructionsExecuted ≤ s.activeBudgets.maxInstructions := BitVec.le_of_lt h
  have hsub := BitVec.toNat_sub_of_le hle
  have hlt := BitVec.lt_def.1 h
  have hchunk : ∀ chunk : U32, 0 < (if chunk > 0 then minOf chunk 1000 else 1000).toNat ∧
      (if chunk > 0 then minOf chunk 1000 else 1000).toNat ≤ 1000 := by
    intro chunk
    split
    next hpos =>
      unfold minOf
      split
      · decide
      next hnot =>
        exact ⟨hpos, BitVec.not_lt.1 hnot⟩
    · decide
  unfold sliceLimit
  dsimp only
  obtain ⟨hpos, hmax⟩ := hchunk s.activeBudgets.chunkInstructions
  generalize (if s.activeBudgets.chunkInstructions > 0 then
    minOf s.activeBudgets.chunkInstructions 1000 else 1000) = chunk at hpos hmax ⊢
  have hwide : (chunk.setWidth 64).toNat = chunk.toNat := by
    rw [BitVec.toNat_setWidth, Nat.mod_eq_of_lt (by omega)]
  unfold minOf
  split
  next hless =>
    have hless' := BitVec.lt_def.1 hless
    rw [BitVec.toNat_setWidth, Nat.mod_eq_of_lt (by omega)]
    omega
  next =>
    rw [BitVec.toNat_setWidth, hwide, Nat.mod_eq_of_lt (by omega)]
    exact hpos

/-- A slice that leaves the session running has taken all its turns. -/
theorem sliceLoop_running (left : ℕ) (s : SessionState γ) (hpause : s.pauseRequested = false)
    (hstop : s.stopRequested = false) (hrunning : (sliceLoop p left s).state = .running) :
    (sliceLoop p left s).sessionInstructionsExecuted =
      s.sessionInstructionsExecuted + BitVec.ofNat 64 left := by
  induction left generalizing s with
  | zero => exact (BitVec.add_zero _).symm
  | succ left ih =>
    obtain ⟨-, heq⟩ | ⟨-, heq | heq⟩ := sliceLoop_succ (p := p) (s := s) left (by simp [hpause, hstop])
    · rw [heq] at hrunning ⊢
      refine (ih (sliceOne p s) hpause hstop hrunning).trans ?_
      show s.sessionInstructionsExecuted + 1 + BitVec.ofNat 64 left = _
      rw [BitVec.add_assoc, BitVec.ofNat_add, BitVec.add_comm 1]
      rfl
    · rw [heq] at hrunning
      cases hrunning
    · obtain ⟨_, _, _, _, _, hfault⟩ := afterFault_eq p (sliceOne p s)
        "Falha de CPU durante execução" (s.executeOne p).1
      rw [heq, hfault] at hrunning
      cases hrunning

/-- A slice does not touch the frame, and does not turn back the clock. -/
theorem sliceLoop_clock (hclock : ClockForward p) (left : ℕ) (s : SessionState γ) :
    (sliceLoop p left s).lastUsbFrameCycle = s.lastUsbFrameCycle ∧
      p.currentCycle s.guest ≤ p.currentCycle (sliceLoop p left s).guest := by
  induction left generalizing s with
  | zero => exact ⟨rfl, Nat.le_refl _⟩
  | succ left ih =>
    cases hflags : s.pauseRequested || s.stopRequested with
    | true =>
      rw [sliceLoop, if_pos hflags]
      exact ⟨rfl, Nat.le_refl _⟩
    | false =>
      obtain ⟨-, heq⟩ | ⟨-, heq | heq⟩ := sliceLoop_succ (p := p) left hflags
      · rw [heq]
        obtain ⟨hframe, hle⟩ := ih (sliceOne p s)
        exact ⟨hframe, Nat.le_trans (hclock.step s.guest) hle⟩
      · rw [heq]
        exact ⟨rfl, hclock.step s.guest⟩
      · obtain ⟨_, _, _, _, _, hfault⟩ := afterFault_eq p (sliceOne p s)
          "Falha de CPU durante execução" (s.executeOne p).1
        rw [heq, hfault]
        exact ⟨rfl, hclock.step s.guest⟩

/-- A slice executes its instructions. -/
theorem sliceLoop_reached {n k : ℕ} {maxCycles : Cycle} (hgoes : GoesThrough p guest n maxCycles)
    (left : ℕ) (hleft : k + left ≤ n) (s : SessionState γ) (hs : Reached p guest frame k s)
    (hpause : s.pauseRequested = false) (hstop : s.stopRequested = false)
    (hcycles : s.sessionCyclesConsumed = cyclesAfter p guest k) :
    Reached p guest frame (k + left) (sliceLoop p left s) ∧
      (sliceLoop p left s).state = s.state ∧
      (sliceLoop p left s).sessionCyclesConsumed = cyclesAfter p guest (k + left) := by
  induction left generalizing k s with
  | zero => exact ⟨hs, rfl, hcycles⟩
  | succ left ih =>
    obtain ⟨hok, -⟩ := hgoes k (by omega)
    have hresult : (s.executeOne p).1.result = .ok := by rw [executeOne_outcome, hs.guest, hok]
    obtain ⟨-, heq⟩ | ⟨hnot, -⟩ :=
      sliceLoop_succ (p := p) (s := s) left (by simp [hpause, hstop])
    · rw [heq, show k + (left + 1) = k + 1 + left by omega]
      have hguest : (sliceOne p s).guest = guestAfter p guest (k + 1) :=
        congrArg (oneMore p) hs.guest
      have hsum : (sliceOne p s).sessionCyclesConsumed = cyclesAfter p guest (k + 1) := by
        show (if (s.executeOne p).1.cyclesConsumed > 0 then
          s.sessionCyclesConsumed + (s.executeOne p).1.cyclesConsumed
          else s.sessionCyclesConsumed) = _
        rw [executeOne_outcome, hs.guest, hcycles]
        split
        next => rfl
        next hzero =>
          have hnone : (p.step (guestAfter p guest k)).1.cyclesConsumed = 0 := by
            simpa using hzero
          rw [cyclesAfter, hnone]
          exact (BitVec.add_zero _).symm
      exact ih (by omega) (sliceOne p s) ⟨hguest, hs.frame⟩ hpause hstop hsum
    · exact absurd hresult hnot

/-- Synchronising the frame leaves the machine. -/
theorem syncFrame_machine (p : SessionParts γ) (s : SessionState γ) :
    (s.syncFrame p).guest = s.guest ∧ (s.syncFrame p).lastUsbFrameCycle = s.lastUsbFrameCycle := by
  unfold syncFrame
  split
  · exact ⟨rfl, rfl⟩
  · exact ⟨rfl, rfl⟩

/-- A snapshot inspects the stack and no more. -/
theorem takeSnapshot_machine (p : SessionParts γ) (s : SessionState γ) :
    (s.takeSnapshot p).guest = p.inspectStack s.guest ∧
      (s.takeSnapshot p).lastUsbFrameCycle = s.lastUsbFrameCycle := ⟨rfl, rfl⟩

/-- A snapshot leaves the cycles consumed. -/
theorem takeSnapshot_cycles (p : SessionParts γ) (s : SessionState γ) :
    (s.takeSnapshot p).sessionCyclesConsumed = s.sessionCyclesConsumed := rfl

/-- Telling the listeners leaves the machine. -/
theorem told_machine (s : SessionState γ) : (toldUnlessRunning s).guest = s.guest ∧
    (toldUnlessRunning s).lastUsbFrameCycle = s.lastUsbFrameCycle := by
  unfold toldUnlessRunning
  split
  · exact ⟨rfl, rfl⟩
  · exact ⟨rfl, rfl⟩

/-- Telling the listeners leaves the state and the counts. -/
theorem told_counts (s : SessionState γ) : (toldUnlessRunning s).state = s.state ∧
    (toldUnlessRunning s).sessionInstructionsExecuted = s.sessionInstructionsExecuted ∧
    (toldUnlessRunning s).sessionCyclesConsumed = s.sessionCyclesConsumed := by
  unfold toldUnlessRunning
  split
  · exact ⟨rfl, rfl, rfl⟩
  · exact ⟨rfl, rfl, rfl⟩

/-- Synchronising the frame leaves the cycles consumed. -/
theorem syncFrame_cycles (p : SessionParts γ) (s : SessionState γ) :
    (s.syncFrame p).sessionCyclesConsumed = s.sessionCyclesConsumed := by
  unfold syncFrame
  split
  · rfl
  · rfl

/-- Processing USB leaves the cycles consumed. -/
theorem processUsb_cycles (p : SessionParts γ) (s : SessionState γ) :
    (s.processUsb p).sessionCyclesConsumed = s.sessionCyclesConsumed := by
  unfold processUsb
  split
  · rfl
  · rfl

/-- The machine after a slice. -/
theorem executeSlice_machine (p : SessionParts γ) (s : SessionState γ) :
    (s.executeSlice p).guest =
        p.inspectStack ((sliceLoop p s.sliceLimit.toNat s).processUsb p).guest ∧
      (s.executeSlice p).lastUsbFrameCycle =
        ((sliceLoop p s.sliceLimit.toNat s).processUsb p).lastUsbFrameCycle := by
  have hsync := syncFrame_machine p ((sliceLoop p s.sliceLimit.toNat s).processUsb p)
  have htaken := takeSnapshot_machine p (((sliceLoop p s.sliceLimit.toNat s).processUsb p).syncFrame p)
  have htold := told_machine
    ((((sliceLoop p s.sliceLimit.toNat s).processUsb p).syncFrame p).takeSnapshot p)
  rw [executeSlice_eq]
  exact ⟨(htold.1.trans htaken.1).trans (congrArg p.inspectStack hsync.1),
    (htold.2.trans htaken.2).trans hsync.2⟩

/-- The counts after a slice. -/
theorem executeSlice_counts (p : SessionParts γ) (s : SessionState γ) :
    (s.executeSlice p).state = (sliceLoop p s.sliceLimit.toNat s).state ∧
      (s.executeSlice p).sessionInstructionsExecuted =
        (sliceLoop p s.sliceLimit.toNat s).sessionInstructionsExecuted ∧
      (s.executeSlice p).sessionCyclesConsumed =
        (sliceLoop p s.sliceLimit.toNat s).sessionCyclesConsumed := by
  have hend := reported_sliceEnd p (sliceLoop p s.sliceLimit.toNat s)
  have hcycles := (takeSnapshot_cycles p _).trans ((syncFrame_cycles p
    ((sliceLoop p s.sliceLimit.toNat s).processUsb p)).trans (processUsb_cycles p _))
  obtain ⟨hstate, hcount, hcycles'⟩ := told_counts
    ((((sliceLoop p s.sliceLimit.toNat s).processUsb p).syncFrame p).takeSnapshot p)
  rw [executeSlice_eq]
  exact ⟨hstate.trans hend.state, hcount.trans hend.counted, hcycles'.trans hcycles⟩

/-! ## After a frame -/

/-- A frame has been processed, at a cycle that is not past. -/
structure Framed (p : SessionParts γ) (s : SessionState γ) : Prop where
  processed : kUsbFrameCycleInterval ≤ s.lastUsbFrameCycle
  past : s.lastUsbFrameCycle ≤ p.currentCycle s.guest

/-- Inspecting the stack leaves the frame processed. -/
theorem Framed.inspect (hclock : ClockForward p) {s' : SessionState γ} (h : Framed p s)
    (hguest : s'.guest = p.inspectStack s.guest)
    (hframe : s'.lastUsbFrameCycle = s.lastUsbFrameCycle) : Framed p s' := by
  refine ⟨?_, ?_⟩
  · rw [hframe]
    exact h.processed
  · rw [hframe, hguest, hclock.stack]
    exact h.past

/-- A slice after a frame leaves one processed, at a cycle that is not past. -/
theorem framed_executeSlice (hclock : ClockForward p) (h : Framed p s) :
    Framed p (s.executeSlice p) := by
  obtain ⟨hguest, hframe⟩ := executeSlice_machine p s
  obtain ⟨hkept, hforward⟩ := sliceLoop_clock hclock s.sliceLimit.toNat s
  generalize sliceLoop p s.sliceLimit.toNat s = t at hguest hframe hkept hforward
  have hpast : s.lastUsbFrameCycle ≤ p.currentCycle t.guest := Nat.le_trans h.past hforward
  have husb : Framed p (t.processUsb p) := by
    unfold processUsb
    split
    · refine ⟨Nat.le_trans h.processed hpast, ?_⟩
      show p.currentCycle t.guest ≤ p.currentCycle (p.processFrame t.guest)
      rw [hclock.frame]
      exact Nat.le_refl _
    · refine ⟨?_, ?_⟩
      · rw [hkept]
        exact h.processed
      · rw [hkept]
        exact hpast
  exact husb.inspect hclock hguest hframe

/-- A round after a frame leaves one processed, at a cycle that is not past. -/
theorem framed_round (hclock : ClockForward p) (hqueue : s.commandQueue = []) (h : Framed p s)
    (elapsedMs : U64) : Framed p (s.workerRound p elapsedMs) := by
  rw [workerRound, hqueue]
  show Framed p (if s.runnable then s.executeRunningSlice p elapsedMs else s)
  split
  · unfold executeRunningSlice
    split
    · exact h.inspect hclock rfl rfl
    · split
      · exact h.inspect hclock rfl rfl
      · split
        · exact h.inspect hclock rfl rfl
        · split
          · exact h.inspect hclock rfl rfl
          · split
            · exact h.inspect hclock rfl rfl
            · exact framed_executeSlice hclock h
  · exact h

/-- A frame that is due stays due as the guest goes on. -/
theorem FrameDue.mono (hclock : ClockForward p) {k n : ℕ} (hk : k ≤ n) (h : FrameDue p guest k) :
    FrameDue p guest n := by
  induction hk with
  | refl => exact h
  | step _ ih => exact Nat.le_trans ih (hclock.step _)

/-! ## From `Start` to completion -/

/-- The slices of a session that was started are under way, or are done with no frame, or have
processed one. -/
inductive Started (p : SessionParts γ) (guest : γ) (budgets : ExecutionBudgets)
    (s : SessionState γ) : Prop
  | running {k : ℕ} (hslicing : Slicing budgets s) (hreached : Reached p guest 0 k s)
      (hle : k ≤ budgets.maxInstructions.toNat) (hcount : s.sessionInstructionsExecuted.toNat = k)
      (hcycles : s.sessionCyclesConsumed = cyclesAfter p guest k)
      (hquiet : k = 0 ∨ ¬ FrameDue p guest k)
  | done (hreached : Reached p guest 0 budgets.maxInstructions.toNat s) (hqueue : s.commandQueue = [])
      (hstate : s.state ≠ .running)
      (hquiet : budgets.maxInstructions.toNat = 0 ∨
        ¬ FrameDue p guest budgets.maxInstructions.toNat)
  | framed (hqueue : s.commandQueue = []) (hframed : Framed p s)
      (hdue : budgets.maxInstructions.toNat ≠ 0 ∧ FrameDue p guest budgets.maxInstructions.toNat)

/-- A slice of a session with no frame so far. -/
theorem started_slice {budgets : ExecutionBudgets} {k : ℕ} (hclock : ClockForward p)
    (hgoes : GoesThrough p guest budgets.maxInstructions.toNat budgets.maxCycles)
    (hsilent : StackSilent p guest budgets.maxInstructions.toNat) (hslicing : Slicing budgets s)
    (hreached : Reached p guest 0 k s) (hcount : s.sessionInstructionsExecuted.toNat = k)
    (hcycles : s.sessionCyclesConsumed = cyclesAfter p guest k)
    (hless : s.sessionInstructionsExecuted < budgets.maxInstructions) :
    Started p guest budgets (s.executeSlice p) := by
  have hless' : s.sessionInstructionsExecuted < s.activeBudgets.maxInstructions := by
    rw [hslicing.budgets]
    exact hless
  have hlimit := sliceLimit_le hless'
  have hpos := sliceLimit_pos hless'
  rw [hslicing.budgets, hcount] at hlimit
  obtain ⟨hguest, hframe⟩ := executeSlice_machine p s
  obtain ⟨hloop, hstate, hsum⟩ := sliceLoop_reached hgoes s.sliceLimit.toNat hlimit s hreached
    hslicing.pause hslicing.stop hcycles
  have hrunning := hstate.trans hslicing.state
  have htaken := sliceLoop_running s.sliceLimit.toNat s hslicing.pause hslicing.stop hrunning
  have hspec := executeSlice_spec p s hslicing.state hless'
  by_cases hdue : FrameDue p guest (k + s.sliceLimit.toNat)
  · refine .framed (hspec.queue.trans hslicing.queue) ?_ ⟨by omega, FrameDue.mono hclock hlimit hdue⟩
    have husb : (sliceLoop p s.sliceLimit.toNat s).processUsb p =
        { sliceLoop p s.sliceLimit.toNat s with
          lastUsbFrameCycle := p.currentCycle (guestAfter p guest (k + s.sliceLimit.toNat))
          guest := p.processFrame (guestAfter p guest (k + s.sliceLimit.toNat)) } := by
      rw [processUsb, if_pos, hloop.guest]
      simpa [usbFrameDue, hloop.guest, hloop.frame, FrameDue] using hdue
    rw [husb] at hguest hframe
    refine ⟨?_, ?_⟩
    · rw [hframe]
      exact hdue
    · rw [hframe, hguest, hclock.stack, hclock.frame]
      exact Nat.le_refl _
  · have husb : (sliceLoop p s.sliceLimit.toNat s).processUsb p =
        sliceLoop p s.sliceLimit.toNat s := by
      rw [processUsb, if_neg]
      simpa [usbFrameDue, hloop.guest, hloop.frame, FrameDue] using hdue
    rw [husb] at hguest hframe
    obtain ⟨hstate', hcount', hcycles'⟩ := executeSlice_counts p s
    have hkept : Slicing budgets (s.executeSlice p) :=
      ⟨hstate'.trans hrunning, hspec.queue.trans hslicing.queue, hspec.pause.trans hslicing.pause,
        hspec.stop.trans hslicing.stop, hspec.budgets.trans hslicing.budgets⟩
    refine .running hkept ⟨?_, hframe.trans hloop.frame⟩ hlimit ?_ (hcycles'.trans hsum) (.inr hdue)
    · rw [hguest, hloop.guest]
      exact hsilent _ hlimit
    · have hmax := budgets.maxInstructions.isLt
      rw [hcount', htaken, BitVec.toNat_add, BitVec.toNat_ofNat, Nat.add_mod_mod, hcount,
        Nat.mod_eq_of_lt (by omega)]

/-- A round of a session that was started. -/
theorem started_round {budgets : ExecutionBudgets} (hclock : ClockForward p)
    (hwall : budgets.maxWallTimeMs = 0)
    (hgoes : GoesThrough p guest budgets.maxInstructions.toNat budgets.maxCycles)
    (hsilent : StackSilent p guest budgets.maxInstructions.toNat) (h : Started p guest budgets s)
    (elapsedMs : U64) : Started p guest budgets (s.workerRound p elapsedMs) := by
  cases h with
  | @running k hslicing hreached hle hcount hcycles hquiet =>
    rw [hslicing.round hwall]
    split
    next hall =>
      have hk : k = budgets.maxInstructions.toNat := by
        have hge : budgets.maxInstructions.toNat ≤ s.sessionInstructionsExecuted.toNat := hall
        omega
      subst hk
      refine .done ⟨?_, hreached.frame⟩ hslicing.queue (by simp [pausedFor, takeSnapshot, notifyDone]) hquiet
      show p.inspectStack s.guest = _
      rw [hreached.guest]
      exact hsilent _ (Nat.le_refl _)
    next hless =>
      have hlt : s.sessionInstructionsExecuted < budgets.maxInstructions := BitVec.not_le.1 hless
      obtain ⟨-, hlimit⟩ := hgoes k (hcount ▸ BitVec.lt_def.1 hlt)
      rw [← hcycles] at hlimit
      rw [if_neg (BitVec.not_le.2 hlimit)]
      exact started_slice hclock hgoes hsilent hslicing hreached hcount hcycles hlt
  | done hreached hqueue hstate hquiet =>
    have hidle : s.workerRound p elapsedMs = s := by
      rw [workerRound, hqueue]
      exact if_neg (by simp [SessionState.runnable, hstate])
    rw [hidle]
    exact .done hreached hqueue hstate hquiet
  | framed hqueue hframed hdue =>
    refine .framed ?_ (framed_round hclock hqueue hframed elapsedMs) hdue
    cases workerRound_rounds p s elapsedMs with
    | command hcons hround =>
      rw [hqueue] at hcons
      cases hcons
    | slice hnil hrun hround => exact hround.queue.trans hqueue
    | idle hnil hrun hround => exact (congrArg commandQueue hround).trans hqueue

/-- A session paused with no command left is complete. -/
theorem pausedFor_completed (p : SessionParts γ) (hqueue : s.commandQueue = [])
    (reason : StopReason) : (s.pausedFor p reason).completed = true := by
  simp [pausedFor, takeSnapshot, notifyDone, completed, hqueue]

/-- A session that runs slices ends. -/
theorem slicing_ends {budgets : ExecutionBudgets} (hwall : budgets.maxWallTimeMs = 0) (left : ℕ)
    (hleft : budgets.maxInstructions.toNat - s.sessionInstructionsExecuted.toNat ≤ left)
    (h : Slicing budgets s) :
    ∃ times : List U64, (rounds p times s).completed = true := by
  induction left generalizing s with
  | zero =>
    refine ⟨[0], ?_⟩
    have hge : s.sessionInstructionsExecuted ≥ budgets.maxInstructions := by
      show budgets.maxInstructions.toNat ≤ s.sessionInstructionsExecuted.toNat
      omega
    show (s.workerRound p 0).completed = true
    rw [h.round hwall, if_pos hge]
    exact pausedFor_completed p h.queue _
  | succ left ih =>
    have hround := h.round (p := p) hwall 0
    split at hround
    next hge =>
      refine ⟨[0], ?_⟩
      show (s.workerRound p 0).completed = true
      rw [hround]
      exact pausedFor_completed p h.queue _
    next hless =>
      split at hround
      next hcycles =>
        refine ⟨[0], ?_⟩
        show (s.workerRound p 0).completed = true
        rw [hround]
        exact pausedFor_completed p h.queue _
      next hcycles =>
        have hlt : s.sessionInstructionsExecuted < s.activeBudgets.maxInstructions := by
          rw [h.budgets]
          exact BitVec.not_le.1 hless
        have hspec := executeSlice_spec p s h.state hlt
        have hqueue : (s.executeSlice p).commandQueue = [] := hspec.queue.trans h.queue
        by_cases hrunning : (s.executeSlice p).state = .running
        · obtain ⟨hstate, hcount, -⟩ := executeSlice_counts p s
          have htaken := sliceLoop_running s.sliceLimit.toNat s h.pause h.stop
            (hstate.symm.trans hrunning)
          have hpos := sliceLimit_pos hlt
          have hlimit := sliceLimit_le hlt
          have hmax := s.activeBudgets.maxInstructions.isLt
          have hmore : (s.executeSlice p).sessionInstructionsExecuted.toNat =
              s.sessionInstructionsExecuted.toNat + s.sliceLimit.toNat := by
            rw [hcount, htaken, BitVec.toNat_add, BitVec.toNat_ofNat, Nat.add_mod_mod,
              Nat.mod_eq_of_lt (by omega)]
          have hkept : Slicing budgets (s.executeSlice p) :=
            ⟨hrunning, hqueue, hspec.pause.trans h.pause, hspec.stop.trans h.stop,
              hspec.budgets.trans h.budgets⟩
          obtain ⟨times, hdone⟩ := ih (by omega) hkept
          refine ⟨0 :: times, ?_⟩
          rw [← hround] at hdone
          exact hdone
        · refine ⟨[0], ?_⟩
          show (s.workerRound p 0).completed = true
          rw [hround]
          exact (completed_iff _).2 ⟨hqueue, hrunning⟩

/-! ## A prepared session -/

/-- No frame has been processed before the session executes. -/
def Unframed (s : SessionState γ) : Prop :=
  s.state = .created ∨ s.state = .prepared → s.lastUsbFrameCycle = 0

/-- A command leaves no frame processed before the session executes. -/
theorem unframed_command (p : SessionParts γ) (cmd : MachineCommand) (h : Unframed s) :
    Unframed (s.executeCommand p cmd).2 := by
  have hattempted : ∀ s' : SessionState γ, Attempted s s' → Unframed s' := by
    rintro s' (⟨-, rfl⟩ | ⟨-, hhandled⟩)
    · exact h
    · intro hstate
      obtain hends | hends := hhandled.state <;> simp [hends] at hstate
  cases cmd with
  | start budgets => exact h
  | resume budgets => exact h
  | step budget => exact hattempted _ (executeStep_spec p s budget)
  | runWithBudget maxInstructions maxCycles =>
    exact hattempted _ (executeRunWithBudget_spec p s maxInstructions maxCycles)
  | pause run =>
    obtain ⟨-, heq⟩ | ⟨-, heq⟩ := executeCommand_pause p s run
    · rw [heq]
      intro hstate
      simp [pauseByUser, endBy, withReason, takeSnapshot, notifyDone] at hstate
    · rw [heq]
      exact h
  | stop =>
    intro hstate
    simp [executeCommand, endBy, withReason, takeSnapshot, notifyDone] at hstate

/-- A round leaves no frame processed before the session executes. -/
theorem unframed_round (p : SessionParts γ) (elapsedMs : U64) (h : Unframed s) :
    Unframed (s.workerRound p elapsedMs) := by
  cases workerRound_rounds p s elapsedMs with
  | @command cmd rest hqueue hround =>
    rw [hround]
    exact unframed_command p cmd h
  | slice hqueue hrun hround =>
    intro hstate
    obtain ⟨hends, -⟩ | ⟨hends | hends, -⟩ := hround.state <;> simp [hends] at hstate
  | idle hqueue hrun hround =>
    rw [hround]
    exact h

/-- An event leaves no frame processed before the session executes. -/
theorem unframed_next (p : SessionParts γ) (e : SessionEvent γ) (h : Unframed s) :
    Unframed (e.next p s) := by
  have hprepare : ∀ load : γ → Result Unit × γ, Unframed (s.prepare p load).2 := by
    intro load
    unfold prepare
    split
    · exact h
    next hcreated =>
      split
      · exact h
      · exact fun _ => h (.inl (Decidable.not_not.1 hcreated))
  have hrequest : ∀ cmd : MachineCommand, Unframed (s.request cmd).2 := by
    intro cmd
    unfold request
    split
    · exact h
    · exact h
  cases e with
  | prepare load => exact hprepare load
  | prepareMedia load => exact hprepare load
  | start budgets =>
    simp only [SessionEvent.next, SessionState.start]
    split
    · exact h
    · intro hstate
      simp [enqueue] at hstate
  | resume budgets =>
    simp only [SessionEvent.next, SessionState.resume]
    split
    · exact h
    · intro hstate
      simp [enqueue] at hstate
  | step budget => exact hrequest _
  | runWithBudget maxInstructions maxCycles => exact hrequest _
  | pause =>
    simp only [SessionEvent.next, SessionState.pause]
    split
    · exact h
    · exact h
    · exact h
    · intro hstate
      simp [takeSnapshot] at hstate
    · exact h
    · exact h
  | stop =>
    simp only [SessionEvent.next, SessionState.stop]
    split
    · exact h
    · exact h
  | round elapsedMs => exact unframed_round p elapsedMs h

/-- No frame has been processed before a session executes. -/
theorem unframed_sessionAfter (p : SessionParts γ) (guest : γ) (events : List (SessionEvent γ)) :
    Unframed (sessionAfter p guest events) :=
  sessionAfter_invariant (fun _ e h => unframed_next p e h) guest (fun _ => rfl) events

/-- The rounds of a started session take the guest through its instructions. -/
theorem started_rounds {budgets : ExecutionBudgets} (hclock : ClockForward p)
    (hwall : budgets.maxWallTimeMs = 0)
    (hgoes : GoesThrough p guest budgets.maxInstructions.toNat budgets.maxCycles)
    (hsilent : StackSilent p guest budgets.maxInstructions.toNat) (times : List U64)
    (h : Started p guest budgets s) : Started p guest budgets (rounds p times s) := by
  induction times generalizing s with
  | nil => exact h
  | cons time times ih => exact ih (started_round hclock hwall hgoes hsilent h time)

/-! ## The commands that wait -/

/-- Instructions add up. -/
theorem guestAfter_add (p : SessionParts γ) (guest : γ) (k j : ℕ) :
    guestAfter p (guestAfter p guest k) j = guestAfter p guest (k + j) := by
  induction j with
  | zero => rfl
  | succ j ih => exact congrArg (oneMore p) ih

/-- Rounds follow one another. -/
theorem rounds_append (p : SessionParts γ) (before after : List U64) (s : SessionState γ) :
    rounds p (before ++ after) s = rounds p after (rounds p before s) := List.foldl_append

/-- A command in front adds the instructions it asks for. -/
theorem waiting_cons {cmd : MachineCommand} (hcmd : cmd ≠ .stop) (rest : List MachineCommand) :
    waitingInstructions (cmd :: rest) = asked cmd + waitingInstructions rest := by
  simp [waitingInstructions, beforeStop, hcmd]

/-- The commands that execute nothing do not wait for anything either. -/
theorem waiting_append_start (queue : List MachineCommand) (budgets : ExecutionBudgets) :
    waitingInstructions (queue ++ [.start budgets]) = waitingInstructions queue := by
  induction queue with
  | nil => rfl
  | cons cmd rest ih =>
    by_cases hstop : cmd = .stop
    · rw [hstop]
      rfl
    · rw [List.cons_append, waiting_cons hstop, waiting_cons hstop, ih]

/-- A command behind adds at most the instructions it asks for. -/
theorem waiting_append_le (queue : List MachineCommand) (cmd : MachineCommand) :
    waitingInstructions (queue ++ [cmd]) ≤ waitingInstructions queue + asked cmd := by
  induction queue with
  | nil =>
    by_cases hstop : cmd = .stop
    · rw [hstop]
      exact Nat.zero_le _
    · rw [List.nil_append, waiting_cons hstop]
      exact Nat.le_of_eq (Nat.add_comm _ _)
  | cons cmd' rest ih =>
    by_cases hstop : cmd' = .stop
    · rw [hstop]
      exact Nat.zero_le _
    · rw [List.cons_append, waiting_cons hstop, waiting_cons hstop, Nat.add_assoc]
      exact Nat.add_le_add_left ih _

/-- Commands that wait for instructions have a last one that does. -/
theorem exists_last_waiting {queue : List MachineCommand} (h : waitingInstructions queue ≠ 0) :
    ∃ before cmd after, queue = before ++ cmd :: after ∧ MachineCommand.stop ∉ before ∧
      asked cmd ≠ 0 ∧ waitingInstructions after = 0 := by
  induction queue with
  | nil => exact absurd rfl h
  | cons cmd rest ih =>
    have hstop : cmd ≠ .stop := by
      rintro rfl
      exact h rfl
    by_cases hrest : waitingInstructions rest = 0
    · rw [waiting_cons hstop, hrest, Nat.add_zero] at h
      exact ⟨[], cmd, rest, rfl, List.not_mem_nil, h, hrest⟩
    · obtain ⟨before, cmd', after, rfl, hbefore, hasked, hafter⟩ := ih hrest
      refine ⟨cmd :: before, cmd', after, rfl, ?_, hasked, hafter⟩
      rw [List.mem_cons, not_or]
      exact ⟨Ne.symm hstop, hbefore⟩

/-- The session is not running, at instruction `k` of the guest, and the commands that wait do not
lead it beyond a limit. -/
structure Held (p : SessionParts γ) (guest : γ) (limit k : ℕ) (s : SessionState γ) : Prop where
  reached : Reached p guest 0 k s
  still : s.executable = true ∨ s.state = .stopped
  within : s.executable = true → k + waitingInstructions s.commandQueue ≤ limit
  le : k ≤ limit

/-- No instruction up to a limit faults or halts, and the stack can be looked at on the way. -/
structure Plain (p : SessionParts γ) (guest : γ) (limit : ℕ) : Prop where
  ok : ∀ k < limit, (p.step (guestAfter p guest k)).1.result = .ok
  silent : StackSilent p guest limit

/-- A guest that goes plainly up to a limit does so up to a smaller one. -/
theorem Plain.mono {limit limit' : ℕ} (h : Plain p guest limit') (hle : limit ≤ limit') :
    Plain p guest limit :=
  ⟨fun k hk => h.ok k (by omega), fun k hk => h.silent k (by omega)⟩

/-- A session that is held is not running. -/
theorem Held.not_running {limit k : ℕ} (h : Held p guest limit k s) : s.state ≠ .running := by
  intro hrunning
  obtain hready | hstopped := h.still
  · simp [executable, hrunning] at hready
  · rw [hrunning] at hstopped
    cases hstopped

/-- A session held within a limit is held within a larger one. -/
theorem Held.mono {limit limit' k : ℕ} (h : Held p guest limit k s) (hle : limit ≤ limit') :
    Held p guest limit' k s :=
  ⟨h.reached, h.still, fun hready => Nat.le_trans (h.within hready) hle, Nat.le_trans h.le hle⟩

/-- A session that is held where it is has gone on by nothing. -/
theorem Held.nothing_more {k e : ℕ} (h : Held p guest k (k + e) s) : e = 0 := by
  have hle := h.le
  omega

/-- Where no command asks for anything, the session stays at its instruction. -/
theorem Held.tight {limit k : ℕ} (h : Held p guest limit k s)
    (hnone : waitingInstructions s.commandQueue = 0) : Held p guest k k s :=
  ⟨h.reached, h.still, fun _ => by rw [hnone]; exact Nat.le_refl _, Nat.le_refl _⟩

/-- What a round makes of a session that is not running. -/
structure HeldRound (p : SessionParts γ) (guest : γ) (limit k e : ℕ) (s s' : SessionState γ) :
    Prop where
  held : Held p guest limit (k + e) s'
  queue : s'.commandQueue = s.commandQueue.tail
  ready : s'.executable = true ↔ s.executable = true ∧ s.commandQueue.head? ≠ some .stop
  few : e ≤ if s.executable then (s.commandQueue.head?.map asked).getD 0 else 0
  moved : ∀ cmd, s.commandQueue.head? = some cmd → s.executable = true → asked cmd ≠ 0 → e ≠ 0

/-- A command that executes no instruction and does not stop the session. -/
theorem HeldRound.kept {limit k : ℕ} {cmd : MachineCommand} {rest : List MachineCommand}
    (h : Held p guest limit k s) (hqueue : s.commandQueue = cmd :: rest) (hcmd : cmd ≠ .stop)
    (hasked : s.executable = true → asked cmd = 0) {s' : SessionState γ}
    (hreached : Reached p guest 0 k s') (hstate : s'.state = s.state)
    (hqueue' : s'.commandQueue = rest) : HeldRound p guest limit k 0 s s' := by
  have hready : s'.executable = s.executable := by rw [executable, executable, hstate]
  refine ⟨⟨hreached, ?_, ?_, h.le⟩, by rw [hqueue', hqueue]; rfl, ?_, Nat.zero_le _, ?_⟩
  · rw [hready, hstate]
    exact h.still
  · intro hexecutable
    rw [hready] at hexecutable
    have hwithin := h.within hexecutable
    rw [hqueue, waiting_cons hcmd, hasked hexecutable, Nat.zero_add] at hwithin
    rw [hqueue']
    exact hwithin
  · rw [hready, hqueue]
    simp [hcmd]
  · intro cmd' hhead hexecutable hne
    rw [hqueue] at hhead
    cases hhead
    exact absurd (hasked hexecutable) hne

section HeldRounds

variable {limit k : ℕ} {cmd : MachineCommand} {rest : List MachineCommand}

/-- A round with a command takes it out of the queue and executes it. -/
theorem workerRound_cons (hqueue : s.commandQueue = cmd :: rest) (time : U64) :
    s.workerRound p time =
      (({ s with commandQueue := rest } : SessionState γ).executeCommand p cmd).2 := by
  rw [workerRound, hqueue]

/-- A snapshot on the way leaves the session at its instruction. -/
theorem Held.inspected (hplain : Plain p guest limit) (h : Held p guest limit k s)
    {s' : SessionState γ} (hguest : s'.guest = p.inspectStack s.guest)
    (hframe : s'.lastUsbFrameCycle = s.lastUsbFrameCycle) : Reached p guest 0 k s' := by
  refine ⟨?_, hframe.trans h.reached.frame⟩
  rw [hguest, h.reached.guest, hplain.silent k h.le]

/-- A round without commands leaves a session that is not running. -/
theorem heldRound_nil (h : Held p guest limit k s) (hqueue : s.commandQueue = []) (time : U64) :
    HeldRound p guest limit k 0 s (s.workerRound p time) := by
  have hidle : s.workerRound p time = s := by
    rw [workerRound, hqueue]
    exact if_neg (by simp [SessionState.runnable, h.not_running])
  rw [hidle]
  refine ⟨h, by rw [hqueue]; rfl, by simp [hqueue], Nat.zero_le _, ?_⟩
  intro cmd hhead
  rw [hqueue] at hhead
  cases hhead

/-- A command that executes leads a session that can execute it on by some instructions. -/
theorem heldRound_executes (hplain : Plain p guest limit) (h : Held p guest limit k s)
    (hqueue : s.commandQueue = cmd :: rest) (hexecutes : executes cmd = true)
    (hready : s.executable = true) (time : U64) :
    ∃ e, HeldRound p guest limit k e s (s.workerRound p time) := by
  have hstop : cmd ≠ .stop := by
    rintro rfl
    cases hexecutes
  have hwithin := h.within hready
  rw [hqueue, waiting_cons hstop] at hwithin
  have hhere : Reached p guest 0 k ({ s with commandQueue := rest } : SessionState γ) :=
    ⟨h.reached.guest, h.reached.frame⟩
  have hrestReady : ({ s with commandQueue := rest } : SessionState γ).executable = true := hready
  have hrest : (s.workerRound p time).commandQueue = rest := by
    rw [workerRound_cons hqueue, executeCommand_queue]
  obtain ⟨e, hle, hmoved, hreached, hready'⟩ := executes_reached hexecutes hrestReady hhere
    (fun j hj => hplain.ok _ (by omega)) (fun j hj => hplain.silent _ (by omega))
  rw [← workerRound_cons hqueue time] at hreached hready'
  refine ⟨e, ⟨hreached, .inl hready', ?_, by omega⟩, by rw [hrest, hqueue]; rfl, ?_, ?_, ?_⟩
  · intro _
    rw [hrest]
    omega
  · simp [hready', hready, hqueue, hstop]
  · simpa [hready, hqueue] using hle
  · intro cmd' hhead _ hne
    rw [hqueue] at hhead
    cases hhead
    exact hmoved hne

/-- A command that executes is rejected by a session that cannot execute it. -/
theorem heldRound_rejected (h : Held p guest limit k s) (hqueue : s.commandQueue = cmd :: rest)
    (hexecutes : executes cmd = true) (hready : ¬ s.executable = true) (time : U64) :
    HeldRound p guest limit k 0 s (s.workerRound p time) := by
  have hstop : cmd ≠ .stop := by
    rintro rfl
    cases hexecutes
  have hnot : ¬ ({ s with commandQueue := rest } : SessionState γ).executable = true := hready
  have hrejected : s.workerRound p time = { s with commandQueue := rest } := by
    rw [workerRound_cons hqueue]
    cases cmd with
    | step budget =>
      rw [executeCommand, executeStep, if_neg hnot]
      rfl
    | runWithBudget maxInstructions maxCycles =>
      rw [executeCommand, executeRunWithBudget, if_neg hnot]
      rfl
    | start budgets => cases hexecutes
    | resume budgets => cases hexecutes
    | pause run => cases hexecutes
    | stop => cases hexecutes
  rw [hrejected]
  exact .kept h hqueue hstop (fun hexecutable => absurd hexecutable hready)
    ⟨h.reached.guest, h.reached.frame⟩ rfl rfl

/-- A stop ends a session at its instruction. -/
theorem heldRound_stop (hplain : Plain p guest limit) (h : Held p guest limit k s)
    (hqueue : s.commandQueue = .stop :: rest) (time : U64) :
    HeldRound p guest limit k 0 s (s.workerRound p time) := by
  have hrest : (s.workerRound p time).commandQueue = rest := by
    rw [workerRound_cons hqueue, executeCommand_queue]
  have hnot : (s.workerRound p time).executable = false := by
    rw [workerRound_cons hqueue]
    rfl
  refine ⟨⟨?_, ?_, ?_, h.le⟩, by rw [hrest, hqueue]; rfl, ?_, Nat.zero_le _, ?_⟩
  · rw [workerRound_cons hqueue]
    exact h.inspected hplain rfl rfl
  · rw [workerRound_cons hqueue]
    exact .inr rfl
  · intro hready
    rw [hnot] at hready
    cases hready
  · simp [hnot, hqueue]
  · intro cmd' hhead _ hne
    rw [hqueue] at hhead
    cases hhead
    exact absurd rfl hne

/-- A round keeps a session held, by one of its steps. -/
theorem held_round (hplain : Plain p guest limit) (h : Held p guest limit k s) (time : U64) :
    ∃ e, HeldRound p guest limit k e s (s.workerRound p time) := by
  cases hqueue : s.commandQueue with
  | nil => exact ⟨0, heldRound_nil h hqueue time⟩
  | cons cmd rest =>
    by_cases hexecutes : executes cmd = true
    · by_cases hready : s.executable = true
      · exact heldRound_executes hplain h hqueue hexecutes hready time
      · exact ⟨0, heldRound_rejected h hqueue hexecutes hready time⟩
    · refine ⟨0, ?_⟩
      cases cmd with
      | step budget => exact absurd rfl hexecutes
      | runWithBudget maxInstructions maxCycles => exact absurd rfl hexecutes
      | start budgets =>
        rw [workerRound_cons hqueue]
        exact .kept h hqueue (by simp) (fun _ => rfl) (h.inspected hplain rfl rfl) rfl rfl
      | resume budgets =>
        rw [workerRound_cons hqueue]
        exact .kept h hqueue (by simp) (fun _ => rfl) (h.inspected hplain rfl rfl) rfl rfl
      | pause run =>
        have hpaused : s.workerRound p time =
            { s with commandQueue := rest, pauseRequested := false } := by
          rw [workerRound_cons hqueue, executeCommand, if_neg h.not_running]
        rw [hpaused]
        exact .kept h hqueue (by simp) (fun _ => rfl) ⟨h.reached.guest, h.reached.frame⟩ rfl rfl
      | stop => exact heldRound_stop hplain h hqueue time

end HeldRounds

/-- Rounds of a session that is not running take commands out of the queue, and lead it on by no
more than these ask for. -/
theorem held_rounds {limit k : ℕ} (hplain : Plain p guest limit) (h : Held p guest limit k s)
    (times : List U64) : ∃ e, Held p guest limit (k + e) (rounds p times s) ∧
      (rounds p times s).commandQueue = s.commandQueue.drop times.length ∧
      ((rounds p times s).executable = true ↔
        s.executable = true ∧ MachineCommand.stop ∉ s.commandQueue.take times.length) ∧
      (e ≤ if s.executable then waitingInstructions (s.commandQueue.take times.length) else 0) := by
  induction times generalizing s k with
  | nil => exact ⟨0, h, rfl, by simp [rounds], Nat.zero_le _⟩
  | cons time times ih =>
    obtain ⟨e, hround⟩ := held_round hplain h time
    obtain ⟨e', hheld, hqueue, hready, hfew⟩ := ih hround.held
    rw [Nat.add_assoc] at hheld
    refine ⟨e + e', hheld, ?_, ?_, ?_⟩
    · change (rounds p times (s.workerRound p time)).commandQueue = _
      rw [hqueue, hround.queue, List.length_cons, ← List.drop_one, List.drop_drop, Nat.add_comm]
    · refine hready.trans ?_
      rw [hround.ready, hround.queue]
      cases s.commandQueue with
      | nil => simp
      | cons cmd rest =>
        simp only [List.head?_cons, List.tail_cons, List.length_cons, List.take_succ_cons,
          List.mem_cons, not_or, ne_eq, Option.some.injEq, eq_comm, and_assoc]
    · have hfew' := hround.few
      rw [hround.queue] at hfew
      by_cases hexecutable : s.executable = true
      · rw [if_pos hexecutable] at hfew' ⊢
        cases hq : s.commandQueue with
        | nil =>
          simp only [hq, List.head?_nil, Option.map_none, Option.getD_none, List.tail_nil,
            List.take_nil] at hfew hfew' ⊢
          split at hfew <;> simp_all [waitingInstructions, beforeStop]
        | cons cmd rest =>
          rw [hq] at hfew hfew'
          rw [List.length_cons, List.take_succ_cons]
          by_cases hstop : cmd = .stop
          · have hnot : (s.workerRound p time).executable = false := by
              rw [← Bool.not_eq_true, hround.ready, hq, hstop]
              simp
            rw [hnot] at hfew
            subst hstop
            simp only [List.head?_cons, Option.map_some, Option.getD_some, asked] at hfew'
            simp only [Bool.false_eq_true, if_false] at hfew
            omega
          · have hstill : (s.workerRound p time).executable = true := by
              rw [hround.ready, hq]
              exact ⟨hexecutable, by simpa using hstop⟩
            rw [if_pos hstill] at hfew
            rw [waiting_cons hstop]
            exact Nat.add_le_add hfew' hfew
      · have hnot : ¬ (s.workerRound p time).executable = true := by
          rw [hround.ready]
          exact fun h => hexecutable h.1
        rw [if_neg hexecutable] at hfew' ⊢
        rw [if_neg hnot] at hfew
        omega

/-- Rounds of a session where no command asks for anything. -/
theorem held_tight_rounds {k : ℕ} (hplain : Plain p guest k) (h : Held p guest k k s)
    (times : List U64) : Held p guest k k (rounds p times s) := by
  obtain ⟨e, hheld, -⟩ := held_rounds hplain h times
  obtain rfl := hheld.nothing_more
  exact hheld

/-- A session that is not running completes when its queue is empty. -/
theorem held_drained {limit k : ℕ} (hplain : Plain p guest limit) (h : Held p guest limit k s) :
    ∃ e, Held p guest limit (k + e) (drained p s) ∧ (drained p s).commandQueue = [] ∧
      ((drained p s).executable = true ↔
        s.executable = true ∧ MachineCommand.stop ∉ s.commandQueue) ∧
      (e ≤ if s.executable then waitingInstructions s.commandQueue else 0) := by
  obtain ⟨e, hheld, hqueue, hready, hfew⟩ :=
    held_rounds hplain h (List.replicate s.commandQueue.length 0)
  rw [List.length_replicate, List.take_length] at hready hfew
  rw [List.length_replicate, List.drop_length] at hqueue
  exact ⟨e, hheld, hqueue, hready, hfew⟩

/-- Rounds bring a session that is held to its completion. -/
theorem held_ends {limit k : ℕ} (hplain : Plain p guest limit) (h : Held p guest limit k s) :
    ∃ times, (rounds p times s).completed = true := by
  obtain ⟨e, hheld, hqueue, -⟩ := held_drained hplain h
  exact ⟨_, (completed_iff _).2 ⟨hqueue, hheld.not_running⟩⟩

/-! ## From a call of `Start` to its command -/

/-- The command takes a running session out of its run. -/
def interrupts : MachineCommand → Bool
  | .pause _ | .stop => true
  | _ => false

/-- The session was started, and the worker has not come to the command of `Start`. -/
structure Launching (p : SessionParts γ) (guest : γ) (limit : ℕ) (budgets : ExecutionBudgets)
    (k : ℕ) (before : List MachineCommand) (s : SessionState γ) : Prop where
  reached : Reached p guest 0 k s
  state : s.state = .running
  queue : s.commandQueue = before ++ [.start budgets]
  pause : s.pauseRequested = false
  stop : s.stopRequested = false
  within : k + waitingInstructions before ≤ limit

variable {budgets : ExecutionBudgets}

/-- Starting a session that is held and executable launches it. -/
theorem start_launching {limit k : ℕ} (h : Held p guest limit k s) (hready : s.executable = true)
    (budgets : ExecutionBudgets) : Launching p guest limit budgets k s.commandQueue
      (SessionEvent.next p s (.start budgets)) := by
  have hstart : SessionEvent.next p s (.start budgets) = { s with
      state := .running
      activeBudgets := budgets
      sessionInstructionsExecuted := 0
      sessionCyclesConsumed := 0
      pauseRequested := false
      stopRequested := false
      runs := s.runs + 1
      commandQueue := s.commandQueue ++ [.start budgets] } := by
    simp [SessionEvent.next, SessionState.start, hready, enqueue]
  rw [hstart]
  exact ⟨⟨h.reached.guest, h.reached.frame⟩, rfl, rfl, rfl, rfl, h.within hready⟩

/-- Where no command that waits asks for anything, the limit is the instruction itself. -/
theorem Launching.tight {limit k : ℕ} {before : List MachineCommand}
    (h : Launching p guest limit budgets k before s) (hnone : waitingInstructions before = 0) :
    Launching p guest k budgets k before s :=
  ⟨h.reached, h.state, h.queue, h.pause, h.stop, by rw [hnone]; exact Nat.le_refl _⟩

/-- Starting a session that is not executable changes nothing. -/
theorem start_refused (hready : s.executable = false) (budgets : ExecutionBudgets) :
    SessionEvent.next p s (.start budgets) = s := by
  simp [SessionEvent.next, SessionState.start, hready]

/-- A running session goes on past a command that does not interrupt it. -/
theorem Launching.passed {limit k : ℕ} {cmd : MachineCommand} {rest : List MachineCommand}
    (hplain : Plain p guest limit) (h : Launching p guest limit budgets k (cmd :: rest) s)
    (hcmd : interrupts cmd = false) (time : U64) :
    Launching p guest limit budgets k rest (s.workerRound p time) := by
  have hround : s.workerRound p time = (({ s with
      commandQueue := rest ++ [.start budgets] } : SessionState γ).executeCommand p cmd).2 := by
    rw [workerRound, h.queue]
    rfl
  have hnot : ¬ ({ s with commandQueue := rest ++ [.start budgets] } : SessionState γ).executable =
      true := by
    simp [executable, h.state]
  have hstop : cmd ≠ .stop := by
    rintro rfl
    cases hcmd
  have hwithin := h.within
  rw [waiting_cons hstop] at hwithin
  have hinspected : p.inspectStack s.guest = guestAfter p guest k := by
    rw [h.reached.guest, hplain.silent k (by omega)]
  rw [hround]
  cases cmd with
  | start budgets' =>
    exact ⟨⟨hinspected, h.reached.frame⟩, h.state, rfl, h.pause, h.stop, by omega⟩
  | resume budgets' =>
    exact ⟨⟨hinspected, h.reached.frame⟩, h.state, rfl, h.pause, h.stop, by omega⟩
  | step budget =>
    rw [executeCommand, executeStep, if_neg hnot]
    exact ⟨⟨h.reached.guest, h.reached.frame⟩, h.state, rfl, h.pause, h.stop, by omega⟩
  | runWithBudget maxInstructions maxCycles =>
    rw [executeCommand, executeRunWithBudget, if_neg hnot]
    exact ⟨⟨h.reached.guest, h.reached.frame⟩, h.state, rfl, h.pause, h.stop, by omega⟩
  | pause run => cases hcmd
  | stop => cases hcmd

/-- A pause or a `Stop` ends the run before its first slice. -/
theorem Launching.interrupted {limit k : ℕ} {cmd : MachineCommand} {rest : List MachineCommand}
    (hplain : Plain p guest limit) (h : Launching p guest limit budgets k (cmd :: rest) s)
    (hcmd : interrupts cmd = true) (time : U64) :
    Held p guest limit k (s.workerRound p time) := by
  have hround : s.workerRound p time = (({ s with
      commandQueue := rest ++ [.start budgets] } : SessionState γ).executeCommand p cmd).2 := by
    rw [workerRound, h.queue]
    rfl
  have hwithin := h.within
  have hle : k ≤ limit := by omega
  have hinspected : p.inspectStack s.guest = guestAfter p guest k := by
    rw [h.reached.guest, hplain.silent k hle]
  cases cmd with
  | pause run =>
    have hpaused : s.workerRound p time = { ({ s with
        commandQueue := rest ++ [.start budgets] } : SessionState γ).pauseByUser p with
          pauseRequested := false } := by
      rw [hround, executeCommand, if_pos h.state]
    rw [waiting_cons (by simp)] at hwithin
    rw [hpaused]
    refine ⟨⟨hinspected, h.reached.frame⟩, .inl rfl, fun _ => ?_, hle⟩
    change k + waitingInstructions (rest ++ [.start budgets]) ≤ limit
    rw [waiting_append_start]
    omega
  | stop =>
    rw [hround]
    refine ⟨⟨hinspected, h.reached.frame⟩, .inr rfl, fun hready => ?_, hle⟩
    cases hready
  | start budgets' => cases hcmd
  | resume budgets' => cases hcmd
  | step budget => cases hcmd
  | runWithBudget maxInstructions maxCycles => cases hcmd

/-- The command of `Start` itself. -/
theorem Launching.slicing {limit k : ℕ} (hplain : Plain p guest limit)
    (h : Launching p guest limit budgets k [] s) (time : U64) :
    Slicing budgets (s.workerRound p time) ∧ Reached p guest 0 k (s.workerRound p time) ∧
      (s.workerRound p time).sessionInstructionsExecuted = 0 ∧
      (s.workerRound p time).sessionCyclesConsumed = 0 := by
  have hround : s.workerRound p time = ({ s with
      commandQueue := []
      activeBudgets := budgets
      sessionInstructionsExecuted := 0
      sessionCyclesConsumed := 0
      lastStopReason := {} } : SessionState γ).takeSnapshot p := by
    rw [workerRound, h.queue]
    rfl
  have hwithin := h.within
  rw [hround]
  refine ⟨⟨h.state, rfl, h.pause, h.stop, rfl⟩, ⟨?_, h.reached.frame⟩, rfl, rfl⟩
  change p.inspectStack s.guest = _
  rw [h.reached.guest, hplain.silent k (by omega)]

/-- A session that was started completes. -/
theorem launching_ends {limit k : ℕ} (hplain : Plain p guest limit)
    (hwall : budgets.maxWallTimeMs = 0) {before : List MachineCommand}
    (h : Launching p guest limit budgets k before s) :
    ∃ times, (rounds p times s).completed = true := by
  induction before generalizing s with
  | nil =>
    obtain ⟨times, hdone⟩ := slicing_ends (p := p) hwall _ (Nat.le_refl _) (h.slicing hplain 0).1
    exact ⟨0 :: times, hdone⟩
  | cons cmd rest ih =>
    cases hcmd : interrupts cmd with
    | false =>
      obtain ⟨times, hdone⟩ := ih (h.passed hplain hcmd 0)
      exact ⟨0 :: times, hdone⟩
    | true =>
      obtain ⟨times, hdone⟩ := held_ends hplain (h.interrupted hplain hcmd 0)
      exact ⟨0 :: times, hdone⟩

/-- A run that is interrupted executes nothing. -/
theorem interrupted_rounds {k : ℕ} (hplain : Plain p guest k) {before : List MachineCommand}
    (h : Launching p guest k budgets k before s) (hinterrupted : ∃ cmd ∈ before, interrupts cmd = true)
    (times : List U64) (hdone : (rounds p times s).completed = true) :
    Reached p guest 0 k (rounds p times s) := by
  induction times generalizing s before with
  | nil => exact h.reached
  | cons time times ih =>
    cases before with
    | nil =>
      obtain ⟨cmd, hmem, -⟩ := hinterrupted
      cases hmem
    | cons cmd rest =>
      cases hcmd : interrupts cmd with
      | false =>
        refine ih (h.passed hplain hcmd time) ?_ hdone
        obtain ⟨cmd', hmem, hcmd'⟩ := hinterrupted
        obtain rfl | hmem := List.mem_cons.1 hmem
        · rw [hcmd] at hcmd'
          cases hcmd'
        · exact ⟨cmd', hmem, hcmd'⟩
      | true => exact (held_tight_rounds hplain (h.interrupted hplain hcmd time) times).reached

/-- A run that is not interrupted comes to its slices. -/
theorem launching_rounds {limit k : ℕ} (hclock : ClockForward p) (hplain : Plain p guest limit)
    (hwall : budgets.maxWallTimeMs = 0)
    (hgoes : GoesThrough p (guestAfter p guest k) budgets.maxInstructions.toNat budgets.maxCycles)
    (hsilent : StackSilent p (guestAfter p guest k) budgets.maxInstructions.toNat)
    {before : List MachineCommand} (h : Launching p guest limit budgets k before s)
    (hfree : ∀ cmd ∈ before, interrupts cmd = false) (times : List U64)
    (hdone : (rounds p times s).completed = true) :
    Started p (guestAfter p guest k) budgets (rounds p times s) := by
  induction times generalizing s before with
  | nil => exact absurd h.state ((completed_iff _).1 hdone).2
  | cons time times ih =>
    cases before with
    | nil =>
      obtain ⟨hslicing, hreached, hcount, hcycles⟩ := h.slicing hplain time
      refine started_rounds hclock hwall hgoes hsilent times (.running (k := 0) hslicing
        ⟨hreached.guest, hreached.frame⟩ (Nat.zero_le _) ?_ hcycles (.inl rfl))
      rw [hcount]
      rfl
    | cons cmd rest =>
      rw [List.forall_mem_cons] at hfree
      exact ih (h.passed hplain hfree.1 time) hfree.2 hdone

/-! ## The three ways -/

/-- A guest that passes through goes plainly. -/
theorem passes_plain {waiting n : ℕ} {maxCycles : Cycle}
    (h : GoesThroughAll p guest waiting n maxCycles) :
    Plain p guest (waiting + n) := by
  refine ⟨fun k hk => ?_, h.silent⟩
  by_cases hless : k < waiting
  · exact h.ok k hless
  · obtain ⟨hok, -⟩ := h.goes waiting (Nat.le_refl _) (k - waiting) (by omega)
    rw [guestAfter_add, show waiting + (k - waiting) = k by omega] at hok
    exact hok

/-- A guest that passes through has a silent stack from every waiting place on. -/
theorem passes_silent {waiting n : ℕ} {maxCycles : Cycle}
    (h : GoesThroughAll p guest waiting n maxCycles) {k : ℕ} (hk : k ≤ waiting) :
    StackSilent p (guestAfter p guest k) n := by
  intro j hj
  rw [guestAfter_add]
  exact h.silent (k + j) (by omega)

/-- Steps of a session that has no command to execute. -/
theorem bySteps_held {k n : ℕ} (hplain : Plain p guest (k + n))
    (h : Held p guest k k (drained p s)) (hqueue : (drained p s).commandQueue = []) :
    Held p guest (k + if (drained p s).executable then n else 0)
        (k + if (drained p s).executable then n else 0) (bySteps p s n) ∧
      (bySteps p s n).commandQueue = [] ∧
      (bySteps p s n).executable = (drained p s).executable := by
  induction n with
  | zero => exact ⟨by simpa [bySteps] using h, hqueue, rfl⟩
  | succ n ih =>
    obtain ⟨hheld, hempty, hready⟩ := ih (hplain.mono (by omega))
    by_cases hexecutable : (drained p s).executable = true
    · rw [hexecutable] at hready
      rw [if_pos hexecutable] at hheld ⊢
      have hrequest : SessionEvent.next p (bySteps p s n) (.step 1) = { bySteps p s n with
          pauseRequested := false, stopRequested := false, commandQueue := [.step 1] } := by
        simp [SessionEvent.next, request, hready, enqueue, hempty]
      have hasked : Held p guest (k + n + 1) (k + n)
          (SessionEvent.next p (bySteps p s n) (.step 1)) := by
        rw [hrequest]
        exact ⟨⟨hheld.reached.guest, hheld.reached.frame⟩, .inl hready, fun _ => Nat.le_refl _,
          Nat.le_succ _⟩
      obtain ⟨e, hround⟩ := held_round hplain hasked 0
      have hstep : bySteps p s (n + 1) =
          (SessionEvent.next p (bySteps p s n) (.step 1)).workerRound p 0 := by
        rw [bySteps, hrequest]
        rfl
      have hnext : (SessionEvent.next p (bySteps p s n) (.step 1)).executable = true := by
        rw [hrequest]
        exact hready
      have hhead : (SessionEvent.next p (bySteps p s n) (.step 1)).commandQueue = [.step 1] := by
        rw [hrequest]
      obtain rfl : e = 1 := by
        have hmoved := hround.moved (.step 1) (by rw [hhead]; rfl) hnext (by decide)
        have hle := hround.held.le
        omega
      rw [hstep]
      refine ⟨hround.held, by rw [hround.queue, hhead]; rfl, ?_⟩
      rw [hexecutable, hround.ready, hhead]
      exact ⟨hnext, by simp⟩
    · rw [Bool.not_eq_true] at hexecutable
      rw [hexecutable] at hready hheld ⊢
      have hrequest : SessionEvent.next p (bySteps p s n) (.step 1) = bySteps p s n := by
        simp [SessionEvent.next, request, hready]
      have hstep : bySteps p s (n + 1) = bySteps p s n := by
        rw [bySteps, hrequest, drained, hempty]
        rfl
      rw [hstep]
      exact ⟨hheld, hempty, hready⟩

/-- A bounded run, in a session whose queue asks for nothing, comes to its own round with nothing
executed. -/
theorem byBudget_comes {n maxCycles : U64} (hpasses : GoesThroughAll p guest 0 n.toNat maxCycles)
    (h : Held p guest 0 0 s) (hready : s.executable = true) :
    ∃ t : SessionState γ, byBudget p n maxCycles s = t.workerRound p 0 ∧ Reached p guest 0 0 t ∧
      t.commandQueue = [.runWithBudget n maxCycles] ∧
      (t.executable = true ↔ MachineCommand.stop ∉ s.commandQueue) := by
  have hplain := passes_plain hpasses
  rw [Nat.zero_add] at hplain
  have hrequest : SessionEvent.next p s (.runWithBudget n maxCycles) = { s with
      pauseRequested := false, stopRequested := false
      commandQueue := s.commandQueue ++ [.runWithBudget n maxCycles] } := by
    simp [SessionEvent.next, request, hready, enqueue]
  have hnone : waitingInstructions s.commandQueue = 0 := by
    have hwithin := h.within hready
    omega
  have hasked : asked (.runWithBudget n maxCycles) ≤ n.toNat := by
    rw [asked]
    split
    · exact Nat.zero_le _
    · exact Nat.le_refl _
  have hheld : Held p guest n.toNat 0 (SessionEvent.next p s (.runWithBudget n maxCycles)) := by
    rw [hrequest]
    refine ⟨⟨h.reached.guest, h.reached.frame⟩, .inl hready, fun _ => ?_, Nat.zero_le _⟩
    have hle := waiting_append_le s.commandQueue (.runWithBudget n maxCycles)
    change 0 + waitingInstructions (s.commandQueue ++ [.runWithBudget n maxCycles]) ≤ n.toNat
    omega
  obtain ⟨e, hbefore, hqueue, hopen, hfew⟩ :=
    held_rounds hplain hheld (List.replicate s.commandQueue.length 0)
  have hall : (SessionEvent.next p s (.runWithBudget n maxCycles)).commandQueue =
      s.commandQueue ++ [.runWithBudget n maxCycles] := by rw [hrequest]
  have hstill : (SessionEvent.next p s (.runWithBudget n maxCycles)).executable = true := by
    rw [hrequest]
    exact hready
  rw [hall, List.length_replicate] at hqueue hopen hfew
  rw [List.drop_left] at hqueue
  rw [List.take_left, hstill] at hopen hfew
  obtain rfl : e = 0 := by
    rw [if_pos rfl, hnone] at hfew
    omega
  have hlast : byBudget p n maxCycles s =
      (rounds p (List.replicate s.commandQueue.length 0)
        (SessionEvent.next p s (.runWithBudget n maxCycles))).workerRound p 0 := by
    rw [byBudget, drained, hall, List.length_append, List.length_singleton, List.replicate_succ',
      rounds_append]
    rfl
  refine ⟨_, hlast, hbefore.reached, hqueue, hopen.trans ?_⟩
  rw [eq_self, true_and]

/-- A bounded run of a session whose queue asks for nothing. -/
theorem byBudget_reached {n maxCycles : U64} (hpasses : GoesThroughAll p guest 0 n.toNat maxCycles)
    (h : Held p guest 0 0 s) (hready : s.executable = true) :
    Reached p guest 0 (if MachineCommand.stop ∈ s.commandQueue then 0 else n.toNat)
      (byBudget p n maxCycles s) := by
  obtain ⟨t, hlast, hbefore, hqueue, hopen⟩ := byBudget_comes hpasses h hready
  have hreached : Reached p guest 0 0 ({ t with commandQueue := [] } : SessionState γ) :=
    ⟨hbefore.guest, hbefore.frame⟩
  rw [hlast, workerRound_cons hqueue]
  by_cases hstop : MachineCommand.stop ∈ s.commandQueue
  · have hnot : ¬ ({ t with commandQueue := [] } : SessionState γ).executable = true :=
      fun hready' => hopen.1 hready' hstop
    rw [if_pos hstop, executeCommand, executeRunWithBudget, if_neg hnot]
    exact hreached
  · have hready' : ({ t with commandQueue := [] } : SessionState γ).executable = true :=
      hopen.2 hstop
    rw [if_neg hstop]
    exact executeRunWithBudget_reached (hpasses.goes 0 (Nat.le_refl _))
      (passes_silent hpasses (Nat.le_refl _)) hreached hready'

/-- The clock after more instructions is later. -/
theorem clockMoves_less {n : ℕ} (h : ClockMoves p guest n) {j k : ℕ} (hjk : j < k) (hk : k ≤ n) :
    p.currentCycle (guestAfter p guest j) < p.currentCycle (guestAfter p guest k) := by
  induction hjk with
  | refl => exact h j (by omega)
  | @step k _ ih => exact Nat.lt_trans (ih (by omega)) (h k (by omega))

/-- Two machines at different instructions on the way are not the same. -/
theorem clockMoves_apart {n : ℕ} (h : ClockMoves p guest n) {j k : ℕ} (hjk : j < k) (hk : k ≤ n)
    {t t' : SessionState γ} (hj : Reached p guest frame j t) (hk' : Reached p guest frame k t') :
    ¬ SameMachine t t' := by
  rintro ⟨hguest, -⟩
  have hless := clockMoves_less h hjk hk
  rw [← hj.guest, ← hk'.guest, hguest] at hless
  exact absurd hless (Nat.lt_irrefl _)

/-- A machine that has processed a frame is not one that has not. -/
theorem Framed.apart {k : ℕ} {t t' : SessionState γ} (hframed : Framed p t)
    (hk : Reached p guest 0 k t') : ¬ SameMachine t t' := by
  rintro ⟨-, hframe⟩
  have hprocessed := hframed.processed
  rw [hframe, hk.frame] at hprocessed
  exact absurd hprocessed (by decide)

/-- An instruction counted from a later guest. -/
theorem Reached.fromGuest {j k : ℕ} (h : Reached p (guestAfter p guest k) frame j s) :
    Reached p guest frame (k + j) s :=
  ⟨h.guest.trans (guestAfter_add p guest k j), h.frame⟩

/-- Two sessions with the machine of a third have the same. -/
theorem sameMachine_left {a b c : SessionState γ} (h : SameMachine a c) (h' : SameMachine b c) :
    SameMachine a b := ⟨h.1.trans h'.1.symm, h.2.trans h'.2.symm⟩

/-- A count is zero as a number exactly where it is. -/
theorem toNat_eq_zero {n : U64} : n.toNat = 0 ↔ n = 0 := by
  constructor
  · intro h
    exact BitVec.eq_of_toNat_eq h
  · rintro rfl
    rfl

/-- What interrupts a run is a pause or a stop. -/
theorem interrupts_iff (cmd : MachineCommand) :
    interrupts cmd = true ↔ isPause cmd = true ∨ cmd = .stop := by
  cases cmd <;> simp [interrupts, isPause]

/-- Where nothing interrupts, no command does. -/
theorem uninterrupted {queue : List MachineCommand}
    (h : ¬ ∃ cmd ∈ queue, interrupts cmd = true) : ∀ cmd ∈ queue, interrupts cmd = false := by
  intro cmd hmem
  rw [← Bool.not_eq_true]
  exact fun hcmd => h ⟨cmd, hmem, hcmd⟩

/-- Two sessions at the same instruction have the same machine. -/
theorem Reached.sameMachine {k : ℕ} {t t' : SessionState γ} (h : Reached p guest frame k t)
    (h' : Reached p guest frame k t') : SameMachine t t' :=
  ⟨h.guest.trans h'.guest.symm, h.frame.trans h'.frame.symm⟩

section Nothing

variable {n maxCycles : U64}

/-- Steps agree with a run with a budget where no command that waits executes. -/
theorem stepsAgree_of_nothing (hheld : Held p s.guest 0 0 s) (hready : s.executable = true)
    (hpasses : GoesThroughAll p s.guest 0 n.toNat maxCycles) :
    SameMachine (bySteps p s n.toNat) (byBudget p n maxCycles s) := by
  have hplain := passes_plain hpasses
  have hbudget := byBudget_reached hpasses hheld hready
  obtain ⟨e, hdrained, hqueue, hopen, -⟩ := held_drained (hplain.mono (Nat.zero_le _)) hheld
  obtain rfl := hdrained.nothing_more
  have hsteps := (bySteps_held hplain hdrained hqueue).1.reached
  rw [hready] at hopen
  rw [Nat.zero_add] at hsteps
  by_cases hstop : MachineCommand.stop ∈ s.commandQueue
  · rw [if_pos hstop] at hbudget
    rw [if_neg fun hexecutable => (hopen.1 hexecutable).2 hstop] at hsteps
    exact hsteps.sameMachine hbudget
  · rw [if_neg hstop] at hbudget
    rw [if_pos (hopen.2 ⟨rfl, hstop⟩)] at hsteps
    exact hsteps.sameMachine hbudget

/-- A run that is interrupted has nothing to execute where nothing is in the way. -/
theorem nothing_of_interrupts (h : NothingInTheWay p n s) {cmd : MachineCommand}
    (hmem : cmd ∈ s.commandQueue) (hcmd : interrupts cmd = true) :
    MachineCommand.stop ∈ s.commandQueue ∨ n = 0 := by
  obtain hstop | hzero | ⟨hpause, -⟩ := h.2
  · exact .inl hstop
  · exact .inr hzero
  · obtain hispause | rfl := (interrupts_iff cmd).1 hcmd
    · rw [hpause cmd hmem] at hispause
      cases hispause
    · exact .inl hmem

/-- A `Start` agrees with a run with a budget where nothing is in the way. -/
theorem startAgrees_of_nothing (hclock : ClockForward p) (hheld : Held p s.guest 0 0 s)
    (hready : s.executable = true) (hpasses : GoesThroughAll p s.guest 0 n.toNat maxCycles)
    (chunk : U32) (h : NothingInTheWay p n s) (early times : List U64)
    (hdone : (byStart p early n maxCycles chunk times s).completed = true) :
    SameMachine (byStart p early n maxCycles chunk times s) (byBudget p n maxCycles s) := by
  have hplain : Plain p s.guest 0 := (passes_plain hpasses).mono (Nat.zero_le _)
  have hbudget := byBudget_reached hpasses hheld hready
  obtain ⟨e, hearly, hrest, hopen, -⟩ := held_rounds hplain hheld early
  obtain rfl := hearly.nothing_more
  rw [hready] at hopen
  -- a run that executes nothing agrees where nothing is to be executed
  have hnothing : MachineCommand.stop ∈ s.commandQueue ∨ n = 0 →
      Reached p s.guest 0 0 (byStart p early n maxCycles chunk times s) →
      SameMachine (byStart p early n maxCycles chunk times s) (byBudget p n maxCycles s) := by
    intro hnone hreached
    have hzero : (if MachineCommand.stop ∈ s.commandQueue then 0 else n.toNat) = 0 := by
      obtain hstop | rfl := hnone
      · exact if_pos hstop
      · exact ite_self 0
    rw [hzero] at hbudget
    exact hreached.sameMachine hbudget
  by_cases hexecutable : (rounds p early s).executable = true
  · have hlaunch := start_launching hearly hexecutable
      { maxInstructions := n, maxCycles := maxCycles, chunkInstructions := chunk }
    rw [hrest] at hlaunch
    by_cases hinterrupted : ∃ cmd ∈ s.commandQueue.drop early.length, interrupts cmd = true
    · refine hnothing ?_ (interrupted_rounds hplain hlaunch hinterrupted times hdone)
      obtain ⟨cmd, hmem, hcmd⟩ := hinterrupted
      exact nothing_of_interrupts h (List.mem_of_mem_drop hmem) hcmd
    · have hfree := uninterrupted hinterrupted
      have hstop : MachineCommand.stop ∉ s.commandQueue := by
        intro hstop
        rw [← List.take_append_drop early.length s.commandQueue, List.mem_append] at hstop
        obtain hbefore | hafter := hstop
        · exact (hopen.1 hexecutable).2 hbefore
        · exact absurd (hfree _ hafter) (by decide)
      rw [if_neg hstop] at hbudget
      cases launching_rounds hclock hplain rfl (hpasses.goes 0 (Nat.le_refl _))
          (passes_silent hpasses (Nat.le_refl _)) hlaunch hfree times hdone with
      | running hslicing => exact absurd hslicing.state ((completed_iff _).1 hdone).2
      | done hreached hempty hstate _ =>
        exact hreached.sameMachine hbudget
      | framed hempty hframed hdue =>
        obtain hstop' | hzero | ⟨-, hnot⟩ := h.2
        · exact absurd hstop' hstop
        · exact absurd (toNat_eq_zero.2 hzero) hdue.1
        · exact absurd hdue.2 hnot
  · rw [Bool.not_eq_true] at hexecutable
    have hstart : byStart p early n maxCycles chunk times s = rounds p times (rounds p early s) := by
      rw [byStart, start_refused hexecutable]
    refine hnothing (.inl ?_) ?_
    · by_contra hstop
      have hopen' := hopen.2 ⟨rfl, fun hmem => hstop (List.mem_of_mem_take hmem)⟩
      rw [hexecutable] at hopen'
      cases hopen'
    · rw [hstart]
      exact (held_tight_rounds hplain hearly times).reached

/-- The three ways agree where nothing is in the way. -/
theorem modesAgree_of_nothing (hclock : ClockForward p) (hheld : Held p s.guest 0 0 s)
    (hready : s.executable = true) (hpasses : GoesThroughAll p s.guest 0 n.toNat maxCycles)
    (chunk : U32) (h : NothingInTheWay p n s) : ModesAgree p n maxCycles chunk s :=
  ⟨stepsAgree_of_nothing hheld hready hpasses,
    startAgrees_of_nothing hclock hheld hready hpasses chunk h⟩

end Nothing

/-- The rounds of a queue whose last command with instructions to execute is `cmd`: those before
it, its own round, which executes some, and those after it, which execute none. -/
theorem drained_past {limit : ℕ} (hplain : Plain p guest limit) (hheld : Held p guest limit 0 s)
    (hready : s.executable = true) {before after : List MachineCommand} {cmd : MachineCommand}
    (hqueue : s.commandQueue = before ++ cmd :: after) (hbefore : MachineCommand.stop ∉ before)
    (hasked : asked cmd ≠ 0) (hafter : waitingInstructions after = 0) :
    ∃ k e, e ≠ 0 ∧ k + e ≤ limit ∧
      Held p guest limit k (rounds p (List.replicate before.length 0) s) ∧
      (rounds p (List.replicate before.length 0) s).executable = true ∧
      (rounds p (List.replicate before.length 0) s).commandQueue = cmd :: after ∧
      Held p guest (k + e) (k + e) (drained p s) := by
  obtain ⟨k, hearly, hrest, hopen, -⟩ :=
    held_rounds hplain hheld (List.replicate before.length 0)
  rw [Nat.zero_add] at hearly
  rw [hqueue, List.length_replicate] at hrest hopen
  rw [List.drop_left] at hrest
  rw [List.take_left, hready] at hopen
  have hexecutable := hopen.2 ⟨rfl, hbefore⟩
  obtain ⟨e, hround⟩ := held_round hplain hearly 0
  have hmoved : e ≠ 0 := hround.moved cmd (by rw [hrest]; rfl) hexecutable hasked
  have hle := hround.held.le
  have hpassed := hround.held.tight (by rw [hround.queue, hrest]; exact hafter)
  have hdrained : drained p s = rounds p (List.replicate after.length 0)
      ((rounds p (List.replicate before.length 0) s).workerRound p 0) := by
    rw [drained, hqueue, List.length_append, List.length_cons, Nat.add_comm after.length,
      ← Nat.add_assoc, List.replicate_add, List.replicate_succ', rounds_append, rounds_append]
    rfl
  refine ⟨k, e, hmoved, hle, hearly, hexecutable, hrest, ?_⟩
  rw [hdrained]
  exact held_tight_rounds (hplain.mono hle) hpassed _

/-- A waiting command that executes instructions is executed by steps, and rejected after a
`Start`. -/
theorem waiting_differs {n maxCycles : U64} (hclock : ClockForward p)
    (hheld : Held p s.guest (waitingInstructions s.commandQueue) 0 s) (hready : s.executable = true)
    (hpasses : GoesThroughAll p s.guest (waitingInstructions s.commandQueue) n.toNat maxCycles)
    (hmoves : ClockMoves p s.guest (waitingInstructions s.commandQueue + n.toNat)) (chunk : U32)
    (hwaiting : waitingInstructions s.commandQueue ≠ 0) : ¬ ModesAgree p n maxCycles chunk s := by
  obtain ⟨before, cmd, after, hqueue, hbefore, hasked, hafter⟩ := exists_last_waiting hwaiting
  generalize hlimit : waitingInstructions s.commandQueue = limit at hheld hpasses hmoves
  have hplain := passes_plain hpasses
  have hplain' : Plain p s.guest limit := hplain.mono (Nat.le_add_right _ _)
  obtain ⟨k, e, hmoved, hle, hearly, hexecutable, hrest, hend⟩ :=
    drained_past hplain' hheld hready hqueue hbefore hasked hafter
  obtain ⟨_, -, hempty, hopen', -⟩ := held_drained hplain' hheld
  have hsteps := (bySteps_held (hplain.mono (Nat.add_le_add_right hle n.toNat)) hend hempty).1.reached
  -- the session started before that command
  have hcmd : interrupts cmd = false := by
    cases cmd <;> first | rfl | exact absurd rfl hasked
  have hlaunch := (start_launching hearly hexecutable
    { maxInstructions := n, maxCycles := maxCycles, chunkInstructions := chunk })
  rw [hrest] at hlaunch
  have hlaunch' := (hlaunch.passed hplain' hcmd 0).tight hafter
  have hplain'' : Plain p s.guest k := hplain'.mono (by omega)
  obtain ⟨times, hdone⟩ := launching_ends hplain'' rfl hlaunch'
  rintro ⟨hsame, hstart⟩
  have hsame' := sameMachine_left (hstart (List.replicate before.length 0) (0 :: times) hdone) hsame
  by_cases hinterrupted : ∃ cmd ∈ after, interrupts cmd = true
  · have hreached := interrupted_rounds hplain'' hlaunch' hinterrupted times hdone
    refine clockMoves_apart hmoves ?_ ?_ hreached hsteps hsame'
    · omega
    · split <;> omega
  · have hfree := uninterrupted hinterrupted
    have hstop : MachineCommand.stop ∉ s.commandQueue := by
      rw [hqueue, List.mem_append, List.mem_cons, not_or, not_or]
      refine ⟨hbefore, ?_, fun hmem => absurd (hfree _ hmem) (by decide)⟩
      rintro rfl
      cases hcmd
    rw [if_pos (hopen'.2 ⟨hready, hstop⟩)] at hsteps
    cases launching_rounds hclock hplain'' rfl (hpasses.goes k (by omega))
        (passes_silent hpasses (by omega)) hlaunch' hfree times hdone with
    | running hslicing => exact absurd hslicing.state ((completed_iff _).1 hdone).2
    | done hreached _ _ _ =>
      refine clockMoves_apart hmoves (j := k + n.toNat) ?_ ?_ hreached.fromGuest hsteps hsame'
      · omega
      · omega
    | framed _ hframed _ => exact hframed.apart hsteps hsame'

/-- A run that is interrupted, or that ends with a frame due, is not what steps make of the
session. -/
theorem hindered_differs {n maxCycles : U64} (hclock : ClockForward p)
    (hheld : Held p s.guest 0 0 s) (hready : s.executable = true)
    (hpasses : GoesThroughAll p s.guest 0 n.toNat maxCycles)
    (hmoves : s.commandQueue ≠ [] → ClockMoves p s.guest n.toNat) (chunk : U32)
    (hstop : MachineCommand.stop ∉ s.commandQueue) (hn : n ≠ 0)
    (hhindered : (∃ cmd ∈ s.commandQueue, isPause cmd = true) ∨ FrameDue p s.guest n.toNat) :
    ¬ ModesAgree p n maxCycles chunk s := by
  have hplain := passes_plain hpasses
  have hplain₀ : Plain p s.guest 0 := hplain.mono (Nat.zero_le _)
  obtain ⟨e, hdrained, hqueue, hopen, -⟩ := held_drained hplain₀ hheld
  obtain rfl := hdrained.nothing_more
  have hsteps := (bySteps_held hplain hdrained hqueue).1.reached
  rw [if_pos (hopen.2 ⟨hready, hstop⟩), Nat.zero_add] at hsteps
  have hlaunch := start_launching hheld hready
    { maxInstructions := n, maxCycles := maxCycles, chunkInstructions := chunk }
  obtain ⟨times, hdone⟩ := launching_ends hplain₀ rfl hlaunch
  rintro ⟨hsame, hstart⟩
  have hsame' := sameMachine_left (hstart [] times hdone) hsame
  have hpos : 0 < n.toNat := Nat.pos_of_ne_zero fun hzero => hn (toNat_eq_zero.1 hzero)
  by_cases hinterrupted : ∃ cmd ∈ s.commandQueue, interrupts cmd = true
  · have hne : s.commandQueue ≠ [] := by
      obtain ⟨cmd, hmem, -⟩ := hinterrupted
      exact List.ne_nil_of_mem hmem
    exact clockMoves_apart (hmoves hne) hpos (Nat.le_refl _)
      (interrupted_rounds hplain₀ hlaunch hinterrupted times hdone) hsteps hsame'
  · have hfree := uninterrupted hinterrupted
    have hdue : FrameDue p s.guest n.toNat := by
      obtain ⟨cmd, hmem, hpause⟩ | hdue := hhindered
      · exact absurd ⟨cmd, hmem, (interrupts_iff cmd).2 (.inl hpause)⟩ hinterrupted
      · exact hdue
    cases launching_rounds hclock hplain₀ rfl (hpasses.goes 0 (Nat.le_refl _))
        (passes_silent hpasses (Nat.le_refl _)) hlaunch hfree times hdone with
    | running hslicing => exact absurd hslicing.state ((completed_iff _).1 hdone).2
    | done _ _ _ hquiet =>
      obtain hzero | hnot := hquiet
      · exact absurd hzero (Nat.ne_of_gt hpos)
      · exact absurd hdue hnot
    | framed _ hframed _ => exact hframed.apart hsteps hsame'

/-- In every prepared session, the three ways to execute `n` instructions leave the same machine
exactly if nothing is in the way: no command that waits executes an instruction, and either a
`Stop` waits, or there is nothing to execute, or no pause waits and no USB frame is due after the
instructions.  Where commands wait, the clock is to move on with each instruction. -/
theorem modes_agree_iff (hclock : ClockForward p) {events : List (SessionEvent γ)}
    (hprepared : (sessionAfter p guest events).state = .prepared) {n maxCycles : U64}
    (hpasses : GoesThroughAll p (sessionAfter p guest events).guest
      (waitingInstructions (sessionAfter p guest events).commandQueue) n.toNat maxCycles)
    (hmoves : (sessionAfter p guest events).commandQueue ≠ [] →
      ClockMoves p (sessionAfter p guest events).guest
        (waitingInstructions (sessionAfter p guest events).commandQueue + n.toNat)) (chunk : U32) :
    (∀ early, ∃ times,
        (byStart p early n maxCycles chunk times (sessionAfter p guest events)).completed = true) ∧
      (ModesAgree p n maxCycles chunk (sessionAfter p guest events) ↔
        NothingInTheWay p n (sessionAfter p guest events)) := by
  have hframe := unframed_sessionAfter p guest events (.inr hprepared)
  generalize sessionAfter p guest events = s at hprepared hpasses hmoves hframe
  have hready : s.executable = true := by simp [executable, hprepared]
  have hheld : Held p s.guest (waitingInstructions s.commandQueue) 0 s :=
    ⟨⟨rfl, hframe⟩, .inl hready, fun _ => Nat.le_of_eq (Nat.zero_add _), Nat.zero_le _⟩
  refine ⟨?_, ?_⟩
  · intro early
    have hplain : Plain p s.guest (waitingInstructions s.commandQueue) :=
      (passes_plain hpasses).mono (Nat.le_add_right _ _)
    obtain ⟨k, hearly, -⟩ := held_rounds hplain hheld early
    by_cases hexecutable : (rounds p early s).executable = true
    · exact launching_ends hplain rfl (start_launching hearly hexecutable _)
    · rw [Bool.not_eq_true] at hexecutable
      obtain ⟨times, hdone⟩ := held_ends hplain hearly
      refine ⟨times, ?_⟩
      rw [byStart, start_refused hexecutable]
      exact hdone
  · by_cases hwaiting : waitingInstructions s.commandQueue = 0
    · rw [hwaiting] at hheld hpasses hmoves
      rw [Nat.zero_add] at hmoves
      constructor
      · intro hagree
        by_contra hnot
        refine hindered_differs hclock hheld hready hpasses hmoves chunk ?_ ?_ ?_ hagree
        · exact fun hstop => hnot ⟨hwaiting, .inl hstop⟩
        · exact fun hzero => hnot ⟨hwaiting, .inr (.inl hzero)⟩
        · by_contra hneither
          rw [not_or] at hneither
          refine hnot ⟨hwaiting, .inr (.inr ⟨?_, hneither.2⟩)⟩
          intro cmd hmem
          rw [← Bool.not_eq_true]
          exact fun hpause => hneither.1 ⟨cmd, hmem, hpause⟩
      · exact modesAgree_of_nothing hclock hheld hready hpasses chunk
    · have hne : s.commandQueue ≠ [] := by
        intro hqueue
        rw [hqueue] at hwaiting
        exact hwaiting rfl
      refine iff_of_false ?_ fun h => hwaiting h.1
      exact waiting_differs hclock hheld hready hpasses (hmoves hne) chunk hwaiting

/-- The clock of an idling guest runs forward. -/
theorem idling_forward : ClockForward idlingParts where
  step guest := by
    show guest.cycle ≤ (checkedAdd guest.cycle 1).getD guest.cycle
    cases hsum : checkedAdd guest.cycle 1 with
    | none => exact Nat.le_refl _
    | some cycle => exact le_of_checkedAdd hsum
  frame _ := rfl
  stack _ := rfl

/-- The modes agree on the example. -/
theorem idling_modes_agree : ModesAgree idlingParts 3 (BitVec.allOnes 64) 2
    (sessionAfter idlingParts {} [.prepare loadNothing, .runWithBudget 0 5]) := by
  refine (modes_agree_iff idling_forward rfl ⟨?_, ?_, ?_⟩ ?_ 2).2.2 ⟨?_, .inr (.inr ⟨?_, ?_⟩)⟩
  · decide
  · unfold GoesThrough
    decide
  · unfold StackSilent
    decide
  · intro _
    unfold ClockMoves
    decide
  · decide
  · decide
  · unfold FrameDue
    decide

/-- One instruction that takes the clock to the first frame: a slice processes the frame, a
bounded run does not. -/
theorem idling_modes_differ :
    ¬ ModesAgree idlingParts 1 (BitVec.allOnes 64) 1000
        (sessionAfter idlingParts { cycle := 49999 } [.prepare loadNothing]) ∧
      (byBudget idlingParts 1 (BitVec.allOnes 64)
        (sessionAfter idlingParts { cycle := 49999 } [.prepare loadNothing])).guest =
          { cycle := 50000, frames := 0 } ∧
      (byStart idlingParts [] 1 (BitVec.allOnes 64) 1000 [0, 0, 0]
        (sessionAfter idlingParts { cycle := 49999 } [.prepare loadNothing])).guest =
          { cycle := 50000, frames := 1 } := by
  refine ⟨?_, by decide, by decide⟩
  rintro ⟨-, hstart⟩
  obtain ⟨hguest, -⟩ := hstart [] [0, 0, 0] (by decide)
  revert hguest
  decide

end Xblob.Analysis
