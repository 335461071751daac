import Xblob.Interface.SessionRuns

/-!
# What a round of the worker does

One lemma for each command and one for slices; the properties of runs follow from these.
-/

set_option autoImplicit false

namespace Xblob.Analysis

open Xblob.Computation Xblob.Interface Xblob.Machine Xblob.Machine.SessionState

variable {γ : Type} {p : SessionParts γ} {s s' s'' : SessionState γ}

/-! ## What executing leaves alone -/

/-- What the loops that execute instructions do not touch. -/
structure SameControl (s s' : SessionState γ) : Prop where
  queue : s'.commandQueue = s.commandQueue
  pause : s'.pauseRequested = s.pauseRequested
  stop : s'.stopRequested = s.stopRequested
  budgets : s'.activeBudgets = s.activeBudgets
  runs : s'.runs = s.runs

/-- A session is under its own control. -/
theorem SameControl.refl (s : SessionState γ) : SameControl s s := ⟨rfl, rfl, rfl, rfl, rfl⟩

/-- Being under the same control composes. -/
theorem SameControl.trans (h : SameControl s s') (h' : SameControl s' s'') : SameControl s s'' :=
  ⟨h'.queue.trans h.queue, h'.pause.trans h.pause, h'.stop.trans h.stop,
    h'.budgets.trans h.budgets, h'.runs.trans h.runs⟩

/-- Instructions have been executed, and the session goes on, is paused or has faulted. -/
structure Executed (s s' : SessionState γ) : Prop extends SameControl s s' where
  notices : s'.notices = s.notices
  state : s'.state = s.state ∨ s'.state = .paused ∨ s'.state = .faulted

/-- Nothing executed. -/
theorem Executed.refl (s : SessionState γ) : Executed s s := ⟨.refl s, rfl, .inl rfl⟩

/-- Executing composes. -/
theorem Executed.trans (h : Executed s s') (h' : Executed s' s'') : Executed s s'' := by
  refine ⟨h.toSameControl.trans h'.toSameControl, h'.notices.trans h.notices, ?_⟩
  obtain heq | hends := h'.state
  · rw [heq]
    exact h.state
  · exact .inr hends

/-- One instruction is executed. -/
theorem executed_executeOne (p : SessionParts γ) (s : SessionState γ) :
    Executed s (s.executeOne p).2 :=
  ⟨⟨rfl, rfl, rfl, rfl, rfl⟩, rfl, .inl rfl⟩

/-- A halt is the end of an execution. -/
theorem executed_afterHalt (p : SessionParts γ) (s : SessionState γ) : Executed s (s.afterHalt p) :=
  ⟨⟨rfl, rfl, rfl, rfl, rfl⟩, rfl, .inr (.inl rfl)⟩

/-- The first blocker is for the record only. -/
theorem recordFirstBlocker_eq (p : SessionParts γ) (s : SessionState γ) (reason : StopReason) :
    ∃ blocker instructions cycles, s.recordFirstBlocker p reason =
      { s with firstBlocker := blocker, firstBlockerInstructions := instructions
               firstBlockerCycles := cycles } := by
  unfold recordFirstBlocker
  split
  · exact ⟨_, _, _, rfl⟩
  · exact ⟨s.firstBlocker, s.firstBlockerInstructions, s.firstBlockerCycles, rfl⟩

/-- A fault changes the state, the last error and the reasons. -/
theorem afterFault_eq (p : SessionParts γ) (s : SessionState γ) (message : String)
    (outcome : Processor.StepOutcome) :
    ∃ error reason blocker instructions cycles, s.afterFault p message outcome =
      { s with state := .faulted, lastError := error, lastStopReason := reason
               firstBlocker := blocker, firstBlockerInstructions := instructions
               firstBlockerCycles := cycles } := by
  unfold afterFault populateFaultStopReason
  obtain ⟨blocker, instructions, cycles, heq⟩ := recordFirstBlocker_eq p
    { s with
      state := .faulted
      lastError := some { code := .executionFault, message := message }
      lastStopReason := faultReason p
        { s with state := .faulted
                 lastError := some { code := .executionFault, message := message } } outcome }
    (faultReason p
      { s with state := .faulted
               lastError := some { code := .executionFault, message := message } } outcome)
  exact ⟨_, _, blocker, instructions, cycles, heq⟩

/-- A fault is the end of an execution. -/
theorem executed_afterFault (p : SessionParts γ) (s : SessionState γ) (message : String)
    (outcome : Processor.StepOutcome) : Executed s (s.afterFault p message outcome) := by
  obtain ⟨_, _, _, _, _, heq⟩ := afterFault_eq p s message outcome
  rw [heq]
  exact ⟨⟨rfl, rfl, rfl, rfl, rfl⟩, rfl, .inr (.inr rfl)⟩

/-! ## Commands -/

/-- A fault leaves the steps and the count. -/
theorem afterFault_steps (p : SessionParts γ) (s : SessionState γ) (message : String)
    (outcome : Processor.StepOutcome) : (s.afterFault p message outcome).steps = s.steps ∧
      (s.afterFault p message outcome).sessionInstructionsExecuted =
        s.sessionInstructionsExecuted := by
  obtain ⟨_, _, _, _, _, heq⟩ := afterFault_eq p s message outcome
  rw [heq]
  exact ⟨rfl, rfl⟩

/-- The loop of a command does not count for the session. -/
theorem commandLoop_spec (within : Cycle → Bool) (message : String) (left : ℕ)
    (res : MachineStepResult) (s : SessionState γ) :
    Executed s (commandLoop p within message left res s).2 ∧
      (commandLoop p within message left res s).2.sessionInstructionsExecuted =
        s.sessionInstructionsExecuted := by
  induction left generalizing res s with
  | zero => exact ⟨.refl s, rfl⟩
  | succ left ih =>
    have hone := executed_executeOne p s
    unfold commandLoop
    split
    · dsimp only
      split
      · exact ⟨hone.trans (executed_afterHalt p _), rfl⟩
      · exact ⟨hone.trans (executed_afterFault p _ message _), (afterFault_steps p _ message _).2⟩
      · obtain ⟨hexec, hcount⟩ := ih
          { res with
            instructionsExecuted := res.instructionsExecuted + 1
            cyclesConsumed := res.cyclesConsumed + (s.executeOne p).1.cyclesConsumed
            cpuResult := (s.executeOne p).1.result } (s.executeOne p).2
        exact ⟨hone.trans hexec, hcount⟩
    · exact ⟨.refl s, rfl⟩

/-- Leaving the prepared state executes nothing. -/
theorem executed_leavePrepared (s : SessionState γ) : Executed s s.leavePrepared := by
  unfold leavePrepared
  split
  · exact ⟨⟨rfl, rfl, rfl, rfl, rfl⟩, rfl, .inr (.inl rfl)⟩
  · exact .refl s

/-- Leaving the prepared state leaves the count. -/
theorem leavePrepared_counted (s : SessionState γ) :
    s.leavePrepared.sessionInstructionsExecuted = s.sessionInstructionsExecuted := by
  unfold leavePrepared
  split
  · rfl
  · rfl

/-- The state after is not prepared. -/
theorem leavePrepared_state (s : SessionState γ) : s.leavePrepared.state ≠ .prepared := by
  unfold leavePrepared
  split
  · simp
  · assumption

/-- The session with another reason or another guest, but nothing executed. -/
structure Reported (s s' : SessionState γ) : Prop extends SameControl s s' where
  notices : s'.notices = s.notices
  state : s'.state = s.state
  counted : s'.sessionInstructionsExecuted = s.sessionInstructionsExecuted
  steps : s'.steps = s.steps

/-- Nothing reported. -/
theorem Reported.refl (s : SessionState γ) : Reported s s := ⟨.refl s, rfl, rfl, rfl, rfl⟩

/-- Reporting composes. -/
theorem Reported.trans (h : Reported s s') (h' : Reported s' s'') : Reported s s'' :=
  ⟨h.toSameControl.trans h'.toSameControl, h'.notices.trans h.notices, h'.state.trans h.state,
    h'.counted.trans h.counted, h'.steps.trans h.steps⟩

/-- A stop reason is a report. -/
theorem reported_withReason (s : SessionState γ) (code : StopReasonCode) (detail : String) :
    Reported s (s.withReason code detail) :=
  ⟨⟨rfl, rfl, rfl, rfl, rfl⟩, rfl, rfl, rfl, rfl⟩

/-- A snapshot is a report. -/
theorem reported_takeSnapshot (p : SessionParts γ) (s : SessionState γ) :
    Reported s (s.takeSnapshot p) :=
  ⟨⟨rfl, rfl, rfl, rfl, rfl⟩, rfl, rfl, rfl, rfl⟩

/-- A step reported. -/
theorem reported_step (s : SessionState γ) : Reported s s.reportStep := by
  unfold reportStep
  split
  · exact reported_withReason s _ _
  · exact .refl s

/-- A budget reported. -/
theorem reported_budget (s : SessionState γ) (maxInstructions maxCycles : U64)
    (res : MachineStepResult) : Reported s (s.reportBudget maxInstructions maxCycles res) := by
  unfold reportBudget
  split
  · split
    · exact reported_withReason s _ _
    · split
      · exact reported_withReason s _ _
      · exact .refl s
  · exact .refl s

/-- What a command that executes instructions leaves: it is handled in full, and the session
is paused or has faulted. -/
structure Handled (s s' : SessionState γ) : Prop extends SameControl s s' where
  notices : s'.notices = s.notices + 1
  state : s'.state = .paused ∨ s'.state = .faulted
  counted : s'.sessionInstructionsExecuted = s.sessionInstructionsExecuted

/-- The end of both commands, whatever reason is reported. -/
theorem handled_finish (hstate : s.executable = true) (hexec : Executed s s')
    (hcount : s'.sessionInstructionsExecuted = s.sessionInstructionsExecuted)
    (hreported : Reported s'.leavePrepared s'') (res : MachineStepResult) :
    Handled s (s''.finishCommand p res).2 := by
  have hleft := hexec.trans (executed_leavePrepared s')
  have hsame := hleft.toSameControl.trans hreported.toSameControl
  have hends : s''.state = .paused ∨ s''.state = .faulted := by
    rw [hreported.state]
    obtain heq | hends := hleft.state
    · have hne := leavePrepared_state s'
      rw [heq] at hne ⊢
      have hstate' : s.state = .prepared ∨ s.state = .paused := by simpa [executable] using hstate
      exact .inl (hstate'.resolve_left hne)
    · exact hends
  refine ⟨⟨hsame.queue, hsame.pause, hsame.stop, hsame.budgets, hsame.runs⟩, ?_, hends, ?_⟩
  · exact congrArg (· + 1) (hreported.notices.trans hleft.notices)
  · exact hreported.counted.trans ((leavePrepared_counted s').trans hcount)

/-- A command that executes instructions is rejected, or handled in full. -/
def Attempted (s s' : SessionState γ) : Prop :=
  (s.executable = false ∧ s' = s) ∨ (s.executable = true ∧ Handled s s')

/-- A step is attempted. -/
theorem executeStep_spec (p : SessionParts γ) (s : SessionState γ) (budget : U64) :
    Attempted s (s.executeStep p budget).2 := by
  unfold executeStep
  split
  next hstate =>
    obtain ⟨hexec, hcount⟩ := commandLoop_spec (p := p) (fun _ => true)
      "Falha de CPU durante o step" (if budget > 0 then budget else 1).toNat { state := s.state } s
    exact .inr ⟨hstate, handled_finish hstate hexec hcount (reported_step _) _⟩
  next hstate => exact .inl ⟨Bool.eq_false_iff.2 hstate, rfl⟩

/-- A run with a budget is attempted. -/
theorem executeRunWithBudget_spec (p : SessionParts γ) (s : SessionState γ)
    (maxInstructions maxCycles : U64) :
    Attempted s (s.executeRunWithBudget p maxInstructions maxCycles).2 := by
  unfold executeRunWithBudget
  split
  next hstate =>
    obtain ⟨hexec, hcount⟩ := commandLoop_spec (p := p) (fun cycles => cycles < maxCycles)
      "Falha de CPU durante a execução" maxInstructions.toNat { state := s.state } s
    exact .inr ⟨hstate, handled_finish hstate hexec hcount (reported_budget _ _ _ _) _⟩
  next hstate => exact .inl ⟨Bool.eq_false_iff.2 hstate, rfl⟩

/-! ## Slices -/

/-- One turn of a slice, without its end. -/
def sliceOne (p : SessionParts γ) (s : SessionState γ) : SessionState γ :=
  { (s.executeOne p).2 with
    sessionInstructionsExecuted := (s.executeOne p).2.sessionInstructionsExecuted + 1
    sessionCyclesConsumed :=
      if (s.executeOne p).1.cyclesConsumed > 0 then
        (s.executeOne p).2.sessionCyclesConsumed + (s.executeOne p).1.cyclesConsumed
      else (s.executeOne p).2.sessionCyclesConsumed }

/-- A slice goes on after a turn, or ends with a halt or a fault. -/
theorem sliceLoop_succ (left : ℕ) (hflags : (s.pauseRequested || s.stopRequested) = false) :
    ((s.executeOne p).1.result = .ok ∧
      sliceLoop p (left + 1) s = sliceLoop p left (sliceOne p s)) ∨
    ((s.executeOne p).1.result ≠ .ok ∧
      (sliceLoop p (left + 1) s = (sliceOne p s).afterHalt p ∨
        sliceLoop p (left + 1) s =
          (sliceOne p s).afterFault p "Falha de CPU durante execução" (s.executeOne p).1)) := by
  rw [sliceLoop, if_neg (by simp [hflags])]
  dsimp only
  split
  next hresult => exact .inr ⟨by simp [hresult], .inl rfl⟩
  next hresult => exact .inr ⟨by simp [hresult], .inr rfl⟩
  next hresult => exact .inl ⟨hresult, rfl⟩

/-- One instruction of a slice is executed. -/
theorem executed_sliceOne (p : SessionParts γ) (s : SessionState γ) : Executed s (sliceOne p s) :=
  ⟨⟨rfl, rfl, rfl, rfl, rfl⟩, rfl, .inl rfl⟩

/-- A slice counts for the session what it executes. -/
theorem sliceLoop_spec (left : ℕ) (s : SessionState γ) :
    Executed s (sliceLoop p left s) ∧ ∃ n ≤ left,
      (sliceLoop p left s).steps = s.steps + n ∧
      (sliceLoop p left s).sessionInstructionsExecuted =
        s.sessionInstructionsExecuted + BitVec.ofNat 64 n := by
  induction left generalizing s with
  | zero => exact ⟨.refl s, 0, Nat.le_refl 0, rfl, (BitVec.add_zero _).symm⟩
  | succ left ih =>
    cases hflags : s.pauseRequested || s.stopRequested with
    | true =>
      rw [sliceLoop, if_pos hflags]
      exact ⟨.refl s, 0, Nat.zero_le _, rfl, (BitVec.add_zero _).symm⟩
    | false =>
      have hone := executed_sliceOne p s
      obtain ⟨-, heq⟩ | ⟨-, heq | heq⟩ := sliceLoop_succ (p := p) left hflags
      · rw [heq]
        obtain ⟨hexec, n, hn, hsteps, hcount⟩ := ih (sliceOne p s)
        refine ⟨hone.trans hexec, n + 1, Nat.succ_le_succ hn, ?_, ?_⟩
        · refine hsteps.trans ?_
          show s.steps + 1 + n = s.steps + (n + 1)
          omega
        · refine hcount.trans ?_
          show s.sessionInstructionsExecuted + 1 + BitVec.ofNat 64 n = _
          rw [BitVec.add_assoc, BitVec.ofNat_add, BitVec.add_comm 1]
          rfl
      · rw [heq]
        exact ⟨hone.trans (executed_afterHalt p _), 1, Nat.le_add_left 1 left, rfl, rfl⟩
      · rw [heq]
        obtain ⟨hsteps, hcount⟩ := afterFault_steps p (sliceOne p s) "Falha de CPU durante execução"
          (s.executeOne p).1
        exact ⟨hone.trans (executed_afterFault p _ _ _), 1, Nat.le_add_left 1 left, hsteps, hcount⟩

/-- The smaller of two is not above the second. -/
theorem minOf_le_right {w : ℕ} (a b : BitVec w) : (minOf a b).toNat ≤ b.toNat := by
  unfold minOf
  split
  · exact Nat.le_refl _
  next hnot => exact BitVec.not_lt.1 hnot

/-- The turns of a slice are within the budget. -/
theorem sliceLimit_le (h : s.sessionInstructionsExecuted < s.activeBudgets.maxInstructions) :
    s.sessionInstructionsExecuted.toNat + s.sliceLimit.toNat ≤
      s.activeBudgets.maxInstructions.toNat := by
  have hle : s.sessionInstructionsExecuted ≤ s.activeBudgets.maxInstructions := BitVec.le_of_lt h
  have hsub := BitVec.toNat_sub_of_le hle
  have hlimit : s.sliceLimit.toNat ≤
      (s.activeBudgets.maxInstructions - s.sessionInstructionsExecuted).toNat := by
    unfold sliceLimit
    rw [BitVec.toNat_setWidth]
    exact Nat.le_trans (Nat.mod_le _ _) (minOf_le_right _ _)
  rw [BitVec.le_def] at hle
  omega

/-- What a slice leaves. -/
structure Sliced (s s' : SessionState γ) : Prop extends SameControl s s' where
  counted : ∃ n, s'.steps = s.steps + n ∧
    s'.sessionInstructionsExecuted = s.sessionInstructionsExecuted + BitVec.ofNat 64 n ∧
    (n ≠ 0 → s.sessionInstructionsExecuted.toNat + n ≤ s.activeBudgets.maxInstructions.toNat)
  state : (s'.state = .running ∧ s'.notices = s.notices) ∨
    ((s'.state = .paused ∨ s'.state = .faulted) ∧ s'.notices = s.notices + 1)

/-- A pause ends a slice. -/
theorem sliced_pausedFor (p : SessionParts γ) (s : SessionState γ) (reason : StopReason) :
    Sliced s (s.pausedFor p reason) :=
  ⟨⟨rfl, rfl, rfl, rfl, rfl⟩, ⟨0, rfl, (BitVec.add_zero _).symm, fun h => absurd rfl h⟩,
    .inr ⟨.inl rfl, rfl⟩⟩

/-- Processing USB is a report at most. -/
theorem reported_processUsb (p : SessionParts γ) (s : SessionState γ) :
    Reported s (s.processUsb p) := by
  unfold processUsb
  split
  · exact ⟨⟨rfl, rfl, rfl, rfl, rfl⟩, rfl, rfl, rfl, rfl⟩
  · exact .refl s

/-- Synchronising the frame is a report at most. -/
theorem reported_syncFrame (p : SessionParts γ) (s : SessionState γ) :
    Reported s (s.syncFrame p) := by
  unfold syncFrame
  split
  · exact ⟨⟨rfl, rfl, rfl, rfl, rfl⟩, rfl, rfl, rfl, rfl⟩
  · exact .refl s

/-- The devices and the snapshot at the end of a slice are no concern of the session. -/
theorem reported_sliceEnd (p : SessionParts γ) (s : SessionState γ) :
    Reported s (((s.processUsb p).syncFrame p).takeSnapshot p) :=
  ((reported_processUsb p s).trans (reported_syncFrame p _)).trans (reported_takeSnapshot p _)

/-- Those who wait are told unless the session runs on. -/
def toldUnlessRunning (s : SessionState γ) : SessionState γ :=
  if s.state ≠ .running then s.notifyDone else s

/-- A slice is its loop, then USB, the frame and a snapshot, and the listeners are told. -/
theorem executeSlice_eq (p : SessionParts γ) (s : SessionState γ) :
    s.executeSlice p = toldUnlessRunning
      ((((sliceLoop p s.sliceLimit.toNat s).processUsb p).syncFrame p).takeSnapshot p) := rfl

/-- What `n` instructions and the end of their slice leave. -/
theorem sliced_told {n : ℕ} (hstate : s.state = .running) (hexec : Executed s s')
    (hsteps : s'.steps = s.steps + n)
    (hcount : s'.sessionInstructionsExecuted = s.sessionInstructionsExecuted + BitVec.ofNat 64 n)
    (hlimit : s.sessionInstructionsExecuted.toNat + n ≤ s.activeBudgets.maxInstructions.toNat)
    (hend : Reported s' s'') : Sliced s (toldUnlessRunning s'') := by
  have hsame := hexec.toSameControl.trans hend.toSameControl
  have hcounted : ∃ n, s''.steps = s.steps + n ∧
      s''.sessionInstructionsExecuted = s.sessionInstructionsExecuted + BitVec.ofNat 64 n ∧
      (n ≠ 0 → s.sessionInstructionsExecuted.toNat + n ≤ s.activeBudgets.maxInstructions.toNat) :=
    ⟨n, hend.steps.trans hsteps, hend.counted.trans hcount, fun _ => hlimit⟩
  have hstates : s''.state = .running ∨ s''.state = .paused ∨ s''.state = .faulted := by
    rw [hend.state, ← hstate]
    exact hexec.state
  have hnotices := hend.notices.trans hexec.notices
  unfold toldUnlessRunning
  split
  next hne =>
    exact ⟨⟨hsame.queue, hsame.pause, hsame.stop, hsame.budgets, hsame.runs⟩, hcounted,
      .inr ⟨hstates.resolve_left hne, congrArg (· + 1) hnotices⟩⟩
  next heq => exact ⟨hsame, hcounted, .inl ⟨Decidable.not_not.1 heq, hnotices⟩⟩

/-- A slice of a running session below its budget is a slice. -/
theorem executeSlice_spec (p : SessionParts γ) (s : SessionState γ) (hstate : s.state = .running)
    (hbudget : s.sessionInstructionsExecuted < s.activeBudgets.maxInstructions) :
    Sliced s (s.executeSlice p) := by
  obtain ⟨hexec, n, hn, hsteps, hcount⟩ := sliceLoop_spec (p := p) s.sliceLimit.toNat s
  rw [executeSlice_eq]
  refine sliced_told hstate hexec hsteps hcount ?_ (reported_sliceEnd p _)
  have hlimit := sliceLimit_le hbudget
  omega

/-- A slice of a runnable session is a slice. -/
theorem executeRunningSlice_spec (p : SessionParts γ) (s : SessionState γ) (elapsedMs : U64)
    (hrun : s.runnable = true) : Sliced s (s.executeRunningSlice p elapsedMs) := by
  obtain ⟨hstate, hpause, hstop⟩ : s.state = .running ∧ s.pauseRequested = false ∧
      s.stopRequested = false := by simpa [runnable, and_assoc] using hrun
  unfold executeRunningSlice
  rw [if_neg (by simp [hpause]), if_neg (by simp [hstop])]
  split
  · exact sliced_pausedFor p s _
  · split
    · exact sliced_pausedFor p s _
    next hinstructions =>
      split
      · exact sliced_pausedFor p s _
      · exact executeSlice_spec p s hstate (BitVec.not_le.1 hinstructions)

end Xblob.Analysis
