import Xblob.Analysis.SessionModes
import Xblob.Interface.SessionRuns

/-!
# A reason that is recorded stays

A command that ends at HLT or at a fault records its reason.  One that ends at a limit does so only
when no reason is recorded, so it reports its own reason exactly if none is, or the same one.
-/

set_option autoImplicit false

namespace Xblob.Analysis

open Xblob.Computation Xblob.Interface Xblob.Machine Xblob.Machine.SessionState

variable {γ : Type} {p : SessionParts γ} {s : SessionState γ}

/-! ## The loop of a command -/

/-- A fault is a reason on record. -/
theorem faultReason_recorded (p : SessionParts γ) (s : SessionState γ)
    (outcome : Processor.StepOutcome) : (s.faultReason p outcome).code ≠ .none := by
  unfold faultReason
  split
  · simp
  · split
    · simp
    · split <;> simp

/-- A fault records its reason. -/
theorem afterFault_reason (p : SessionParts γ) (s : SessionState γ) (message : String)
    (outcome : Processor.StepOutcome) :
    (s.afterFault p message outcome).lastStopReason = s.faultReason p outcome := by
  unfold afterFault populateFaultStopReason recordFirstBlocker
  dsimp only
  split
  · rfl
  · rfl

/-- What the loop of a command leaves of the reason that was recorded, by its end. -/
inductive LoopEnds (p : SessionParts γ) (within : Cycle → Bool) (left : ℕ) (executed : U64)
    (recorded : StopReason) (out : MachineStepResult × SessionState γ) : CommandEnd γ → Prop
  | halted (guest : γ) (hreason : out.2.lastStopReason =
      (newSession guest).reasonHere p .halted 0xF4 "CPU" "HLT" "Instrução HLT executada") :
    LoopEnds p within left executed recorded out (.halted guest)
  | faulted (guest : γ) (outcome : Processor.StepOutcome)
      (hreason : out.2.lastStopReason = (newSession guest).faultReason p outcome) :
    LoopEnds p within left executed recorded out (.faulted guest outcome)
  | instructions (hkept : out.2.lastStopReason = recorded)
      (hdone : out.1.instructionsExecuted = executed + BitVec.ofNat 64 left) :
    LoopEnds p within left executed recorded out .instructions
  | cycles (hkept : out.2.lastStopReason = recorded) (hover : within out.1.cyclesConsumed = false)
      (done : ℕ) (hless : done < left)
      (hdone : out.1.instructionsExecuted = executed + BitVec.ofNat 64 done) :
    LoopEnds p within left executed recorded out .cycles

/-- An instruction before the others. -/
theorem LoopEnds.later {within : Cycle → Bool} {left : ℕ} {executed : U64} {recorded : StopReason}
    {out : MachineStepResult × SessionState γ} {e : CommandEnd γ}
    (h : LoopEnds p within left (executed + 1) recorded out e) :
    LoopEnds p within (left + 1) executed recorded out e := by
  have hadd : ∀ k : ℕ, executed + 1 + BitVec.ofNat 64 k = executed + BitVec.ofNat 64 (k + 1) := by
    intro k
    rw [BitVec.ofNat_add, BitVec.add_assoc, BitVec.add_comm (BitVec.ofNat 64 k)]
    rfl
  cases h with
  | halted guest hreason => exact .halted guest hreason
  | faulted guest outcome hreason => exact .faulted guest outcome hreason
  | instructions hkept hdone => exact .instructions hkept (hdone.trans (hadd left))
  | cycles hkept hover done hless hdone =>
    exact .cycles hkept hover (done + 1) (Nat.succ_lt_succ hless) (hdone.trans (hadd done))

/-- The loop of a command ends with the reason it came to. -/
theorem commandLoop_ends (p : SessionParts γ) (within : Cycle → Bool) (message : String) (left : ℕ)
    (res : MachineStepResult) (s : SessionState γ) :
    LoopEnds p within left res.instructionsExecuted s.lastStopReason
      (commandLoop p within message left res s)
      (commandEnd p within left res.cyclesConsumed s.guest) := by
  induction left generalizing res s with
  | zero => exact .instructions rfl (BitVec.add_zero _).symm
  | succ left ih =>
    rw [commandLoop, commandEnd]
    by_cases hwithin : within res.cyclesConsumed = true
    · rw [if_pos hwithin, if_pos hwithin]
      dsimp only
      rw [executeOne_outcome]
      cases hresult : (p.step s.guest).1.result with
      | halted => exact .halted _ rfl
      | faulted => exact .faulted _ _ (afterFault_reason p _ message _)
      | ok =>
        dsimp only
        apply LoopEnds.later
        exact ih
          { state := res.state
            instructionsExecuted := res.instructionsExecuted + 1
            cyclesConsumed := res.cyclesConsumed + (p.step s.guest).1.cyclesConsumed }
          (s.executeOne p).2
    · rw [if_neg hwithin, if_neg hwithin]
      exact .cycles rfl (Bool.eq_false_iff.2 hwithin) 0 (Nat.succ_pos left)
        (BitVec.add_zero _).symm

/-! ## The end of a command -/

/-- Leaving the prepared state leaves the reason. -/
theorem leavePrepared_reason (s : SessionState γ) :
    s.leavePrepared.lastStopReason = s.lastStopReason := by
  unfold leavePrepared
  split
  · rfl
  · rfl

/-- Finishing a command leaves the reason. -/
theorem finishCommand_reason (p : SessionParts γ) (s : SessionState γ) (res : MachineStepResult) :
    (s.finishCommand p res).2.lastStopReason = s.lastStopReason := rfl

/-- Reporting a step records it where nothing was on record. -/
theorem reportStep_reason (s : SessionState γ) : s.reportStep.lastStopReason =
    if s.lastStopReason.code = .none then
      { s.lastStopReason with code := .stepCompleted, detail := "Step de instrução concluído" }
    else s.lastStopReason := by
  unfold reportStep
  split
  · rfl
  · rfl

/-- Reporting a budget records what it exhausted where nothing was on record. -/
theorem reportBudget_reason (s : SessionState γ) (maxInstructions maxCycles : U64)
    (res : MachineStepResult) :
    (s.reportBudget maxInstructions maxCycles res).lastStopReason =
      if s.lastStopReason.code = .none then
        if res.instructionsExecuted ≥ maxInstructions then
          { s.lastStopReason with
            code := .budgetInstructionsExhausted, detail := "Limite de instruções atingido" }
        else if res.cyclesConsumed ≥ maxCycles then
          { s.lastStopReason with
            code := .budgetCyclesExhausted, detail := "Limite de ciclos atingido" }
        else s.lastStopReason
      else s.lastStopReason := by
  unfold reportBudget
  split
  · split
    · rfl
    · split
      · rfl
      · rfl
  · rfl

/-- The reason that the round of a command reports. -/
def reported (p : SessionParts γ) (s : SessionState γ) (cmd : MachineCommand) : StopReason :=
  if s.lastStopReason.code = .none ∨ (endOf p cmd s.guest).byGuest then ownReason p cmd s.guest
  else s.lastStopReason

/-- A limit gives its reason where none is recorded; HLT and a fault have given theirs. -/
theorem LoopEnds.reason {within : Cycle → Bool} {left : ℕ} {executed : U64} {recorded : StopReason}
    {out : MachineStepResult × SessionState γ} {e : CommandEnd γ}
    (h : LoopEnds p within left executed recorded out e) (cmd : MachineCommand)
    (hblank : recorded.code = .none → recorded = {}) {filled : StopReason}
    (hfilled : e.byGuest = false → out.2.lastStopReason = {} → filled = limitReason cmd e) :
    (if out.2.lastStopReason.code = .none then filled else out.2.lastStopReason) =
      if recorded.code = .none ∨ e.byGuest then reasonOf p cmd e else recorded := by
  have hlimit : out.2.lastStopReason = recorded → e.byGuest = false →
      reasonOf p cmd e = limitReason cmd e →
      (if out.2.lastStopReason.code = .none then filled else out.2.lastStopReason) =
        if recorded.code = .none ∨ e.byGuest then reasonOf p cmd e else recorded := by
    intro hkept hguest hown
    rw [hkept, hguest, hown]
    by_cases hcode : recorded.code = .none
    · rw [if_pos hcode, if_pos (.inl hcode)]
      exact hfilled hguest (hkept.trans (hblank hcode))
    · rw [if_neg hcode, if_neg (by simpa using hcode)]
  cases h with
  | halted guest hreason =>
    have hrecorded : out.2.lastStopReason.code ≠ .none := by simp [hreason, reasonHere]
    rw [if_neg hrecorded, hreason]
    exact (if_pos (.inr rfl)).symm
  | faulted guest outcome hreason =>
    have hrecorded : out.2.lastStopReason.code ≠ .none := by
      rw [hreason]
      exact faultReason_recorded p _ outcome
    rw [if_neg hrecorded, hreason]
    exact (if_pos (.inr rfl)).symm
  | instructions hkept hdone => exact hlimit hkept rfl rfl
  | cycles hkept hover done hless hdone => exact hlimit hkept rfl rfl

/-- A step records the reason it is to report. -/
theorem executeStep_reason (hready : s.executable = true)
    (hblank : s.lastStopReason.code = .none → s.lastStopReason = {}) (budget : U64) :
    (s.executeStep p budget).2.lastStopReason = reported p s (.step budget) := by
  have hloop := commandLoop_ends p (fun _ => true) "Falha de CPU durante o step"
    (if budget > 0 then budget else 1).toNat { state := s.state } s
  rw [executeStep, if_pos hready, finishCommand_reason, reportStep_reason, leavePrepared_reason,
    reported, ownReason, endOf]
  apply hloop.reason (.step budget) hblank
  intro hguest hnone
  rw [hnone]
  rfl

/-- A run with a budget records the reason it is to report. -/
theorem executeRunWithBudget_reason (hready : s.executable = true)
    (hblank : s.lastStopReason.code = .none → s.lastStopReason = {}) (maxInstructions maxCycles : U64) :
    (s.executeRunWithBudget p maxInstructions maxCycles).2.lastStopReason =
      reported p s (.runWithBudget maxInstructions maxCycles) := by
  have hloop := commandLoop_ends p (fun cycles => cycles < maxCycles)
    "Falha de CPU durante a execução" maxInstructions.toNat { state := s.state } s
  rw [executeRunWithBudget, if_pos hready, finishCommand_reason, reportBudget_reason,
    leavePrepared_reason, reported, ownReason, endOf]
  apply hloop.reason (.runWithBudget maxInstructions maxCycles) hblank
  intro hguest hnone
  rw [hnone]
  generalize commandLoop p (fun cycles => decide (cycles < maxCycles)) _ _ _ s = out at hloop ⊢
  generalize commandEnd p (fun cycles => decide (cycles < maxCycles)) _ _ s.guest = e at hloop hguest ⊢
  cases hloop with
  | halted guest hreason => cases hguest
  | faulted guest outcome hreason => cases hguest
  | instructions hkept hdone =>
    have hall : out.1.instructionsExecuted = maxInstructions := by
      rw [hdone, BitVec.ofNat_toNat, BitVec.setWidth_eq]
      exact BitVec.zero_add _
    rw [if_pos (by rw [hall]; exact BitVec.le_refl _)]
    rfl
  | cycles hkept hover done hless hdone =>
    have hmax := maxInstructions.isLt
    have hcount : out.1.instructionsExecuted = BitVec.ofNat 64 done :=
      hdone.trans (BitVec.zero_add _)
    have hfew : ¬ out.1.instructionsExecuted ≥ maxInstructions := by
      rw [hcount, ge_iff_le, BitVec.not_le, BitVec.lt_def, BitVec.toNat_ofNat,
        Nat.mod_eq_of_lt (by omega)]
      exact hless
    rw [if_neg hfew, if_pos (by simpa using hover)]
    rfl

/-! ## What is recorded between commands -/

/-- No reason is the blank one, except after a stop. -/
def Blank (s : SessionState γ) : Prop :=
  s.state = .stopped ∨ (s.lastStopReason.code = .none → s.lastStopReason = {})

/-- A session with the same reason. -/
theorem Blank.congr {s' : SessionState γ} (h : Blank s)
    (hstopped : s.state = .stopped → s'.state = .stopped)
    (hreason : s'.lastStopReason = s.lastStopReason) : Blank s' := by
  refine h.imp hstopped ?_
  rw [hreason]
  exact id

/-- A session with a reason. -/
theorem blank_of_recorded (h : s.lastStopReason.code ≠ .none) : Blank s :=
  .inr fun hcode => absurd hcode h

/-- An executable session without a reason has an empty record. -/
theorem Blank.of_executable (h : Blank s) (hready : s.executable = true)
    (hcode : s.lastStopReason.code = .none) : s.lastStopReason = {} := by
  obtain hstopped | hblank := h
  · simp [executable, hstopped] at hready
  · exact hblank hcode

/-- The reason of the command itself is one on record. -/
theorem ownReason_recorded (p : SessionParts γ) {cmd : MachineCommand} (guest : γ) :
    (ownReason p cmd guest).code ≠ .none := by
  have hlimit : ∀ e : CommandEnd γ, (limitReason cmd e).code ≠ .none := by
    intro e
    cases cmd <;> cases e <;> simp [limitReason]
  unfold ownReason
  cases endOf p cmd guest with
  | halted guest' => simp [reasonOf, reasonHere]
  | faulted guest' outcome => exact faultReason_recorded p _ outcome
  | instructions => exact hlimit .instructions
  | cycles => exact hlimit .cycles

/-- The reason that is to be reported is one on record. -/
theorem reported_recorded (p : SessionParts γ) (s : SessionState γ) (cmd : MachineCommand) :
    (reported p s cmd).code ≠ .none := by
  unfold reported
  split
  · exact ownReason_recorded p s.guest
  next hnot => exact fun hcode => hnot (.inl hcode)

/-- Ending records the code. -/
theorem endBy_code (p : SessionParts γ) (s : SessionState γ) (state : MachineState)
    (code : StopReasonCode) (detail : String) :
    (s.endBy p state code detail).lastStopReason.code = code := rfl

/-- A pause by the user leaves a full record or none. -/
theorem blank_pauseByUser (p : SessionParts γ) (s : SessionState γ) : Blank (s.pauseByUser p) := by
  apply blank_of_recorded
  rw [pauseByUser, endBy_code]
  simp

/-- A pause for a reason leaves a full record or none. -/
theorem blank_pausedFor (p : SessionParts γ) (s : SessionState γ) {reason : StopReason}
    (h : reason.code ≠ .none) : Blank (s.pausedFor p reason) := blank_of_recorded h

/-- A command leaves a full record or none. -/
theorem blank_command (p : SessionParts γ) (h : Blank s) (cmd : MachineCommand) :
    Blank (s.executeCommand p cmd).2 := by
  cases cmd with
  | start budgets => exact .inr fun _ => rfl
  | resume budgets => exact h.congr id rfl
  | step budget =>
    show Blank (s.executeStep p budget).2
    cases hready : s.executable with
    | false =>
      rw [executeStep, if_neg (by simp [hready])]
      exact h
    | true =>
      apply blank_of_recorded
      rw [executeStep_reason hready (h.of_executable hready)]
      exact reported_recorded p s _
  | runWithBudget maxInstructions maxCycles =>
    show Blank (s.executeRunWithBudget p maxInstructions maxCycles).2
    cases hready : s.executable with
    | false =>
      rw [executeRunWithBudget, if_neg (by simp [hready])]
      exact h
    | true =>
      apply blank_of_recorded
      rw [executeRunWithBudget_reason hready (h.of_executable hready)]
      exact reported_recorded p s _
  | pause run =>
    obtain ⟨-, heq⟩ | ⟨-, heq⟩ := executeCommand_pause p s run
    · rw [heq]
      exact (blank_pauseByUser p s).congr id rfl
    · rw [heq]
      exact h.congr id rfl
  | stop => exact .inl rfl

/-- The loop of a slice leaves a full record or none. -/
theorem blank_sliceLoop (p : SessionParts γ) (left : ℕ) (h : Blank s) :
    Blank (sliceLoop p left s) := by
  induction left generalizing s with
  | zero => exact h
  | succ left ih =>
    cases hflags : s.pauseRequested || s.stopRequested with
    | true =>
      rw [sliceLoop, if_pos hflags]
      exact h
    | false =>
      obtain ⟨-, heq⟩ | ⟨-, heq | heq⟩ := sliceLoop_succ (p := p) left hflags
      · rw [heq]
        apply ih
        exact h.congr id rfl
      · rw [heq]
        exact blank_of_recorded (by simp [afterHalt, reasonHere])
      · rw [heq]
        apply blank_of_recorded
        rw [afterFault_reason]
        exact faultReason_recorded p _ _

/-- Processing USB leaves the reason. -/
theorem processUsb_reason (p : SessionParts γ) (s : SessionState γ) :
    (s.processUsb p).lastStopReason = s.lastStopReason := by
  unfold processUsb
  split
  · rfl
  · rfl

/-- Synchronising the frame leaves the reason. -/
theorem syncFrame_reason (p : SessionParts γ) (s : SessionState γ) :
    (s.syncFrame p).lastStopReason = s.lastStopReason := by
  unfold syncFrame
  split
  · rfl
  · rfl

/-- A snapshot leaves the reason. -/
theorem takeSnapshot_reason (p : SessionParts γ) (s : SessionState γ) :
    (s.takeSnapshot p).lastStopReason = s.lastStopReason := rfl

/-- The end of a slice leaves the reason. -/
theorem sliceEnd_reason (p : SessionParts γ) (s : SessionState γ) :
    (((s.processUsb p).syncFrame p).takeSnapshot p).lastStopReason = s.lastStopReason := by
  rw [takeSnapshot_reason, syncFrame_reason, processUsb_reason]

/-- The end of a slice leaves a full record or none. -/
theorem blank_sliceEnd (p : SessionParts γ) (h : Blank s) :
    Blank (((s.processUsb p).syncFrame p).takeSnapshot p) := by
  have hend := reported_sliceEnd p s
  exact h.congr (fun hstopped => hend.state.trans hstopped) (sliceEnd_reason p s)

/-- Telling the listeners leaves a full record or none. -/
theorem Blank.told (h : Blank s) : Blank (toldUnlessRunning s) := by
  unfold toldUnlessRunning
  split
  · exact h.congr id rfl
  · exact h

/-- A slice leaves a full record or none. -/
theorem blank_executeSlice (p : SessionParts γ) (h : Blank s) : Blank (s.executeSlice p) := by
  rw [executeSlice_eq]
  exact (blank_sliceEnd p (blank_sliceLoop p s.sliceLimit.toNat h)).told

/-- A slice of the worker leaves a full record or none. -/
theorem blank_slice (p : SessionParts γ) (elapsedMs : U64) (h : Blank s) :
    Blank (s.executeRunningSlice p elapsedMs) := by
  unfold executeRunningSlice
  split
  · exact blank_pauseByUser p _
  · split
    · exact .inl rfl
    · split
      · exact blank_pausedFor p s (by simp [reasonHere])
      · split
        · exact blank_pausedFor p s (by simp [reasonHere])
        · split
          · exact blank_pausedFor p s (by simp [reasonHere])
          · exact blank_executeSlice p h

/-- A round leaves a full record or none. -/
theorem blank_round (p : SessionParts γ) (elapsedMs : U64) (h : Blank s) :
    Blank (s.workerRound p elapsedMs) := by
  unfold workerRound
  split
  next cmd rest hqueue =>
    have hrest : Blank { s with commandQueue := rest } := h.congr id rfl
    exact blank_command p hrest cmd
  · split
    · exact blank_slice p elapsedMs h
    · exact h

/-- A host call leaves the reason, or records that of a pause. -/
theorem hostCall_reason (p : SessionParts γ) (s : SessionState γ) (e : SessionEvent γ)
    (hhost : ∀ elapsedMs, e ≠ .round elapsedMs) :
    (e.next p s).lastStopReason = s.lastStopReason ∨ (e.next p s).lastStopReason.code ≠ .none := by
  have hprepare : ∀ load : γ → Result Unit × γ,
      (s.prepare p load).2.lastStopReason = s.lastStopReason := by
    intro load
    unfold prepare
    split
    · rfl
    · split
      · rfl
      · rfl
  have hrequest : ∀ cmd : MachineCommand, (s.request cmd).2.lastStopReason = s.lastStopReason := by
    intro cmd
    unfold request
    split
    · rfl
    · rfl
  cases e with
  | prepare load => exact .inl (hprepare load)
  | prepareMedia load => exact .inl (hprepare load)
  | start budgets =>
    simp only [SessionEvent.next, SessionState.start]
    split
    · exact .inl rfl
    · exact .inl rfl
  | resume budgets =>
    simp only [SessionEvent.next, SessionState.resume]
    split
    · exact .inl rfl
    · exact .inl rfl
  | step budget => exact .inl (hrequest _)
  | runWithBudget maxInstructions maxCycles => exact .inl (hrequest _)
  | pause =>
    simp only [SessionEvent.next, SessionState.pause]
    split
    · exact .inl rfl
    · exact .inl rfl
    · exact .inl rfl
    · exact .inr (by simp [takeSnapshot])
    · exact .inl rfl
    · exact .inl rfl
  | stop =>
    simp only [SessionEvent.next, SessionState.stop]
    split
    · exact .inl rfl
    · exact .inl rfl
  | round elapsedMs => exact absurd rfl (hhost elapsedMs)

/-- An event leaves a full record or none. -/
theorem blank_next (p : SessionParts γ) (s : SessionState γ) (e : SessionEvent γ) (h : Blank s) :
    Blank (e.next p s) := by
  by_cases hround : ∃ elapsedMs, e = .round elapsedMs
  · obtain ⟨elapsedMs, rfl⟩ := hround
    exact blank_round p elapsedMs h
  · have hhost : ∀ elapsedMs, e ≠ .round elapsedMs := by
      intro elapsedMs heq
      exact hround ⟨elapsedMs, heq⟩
    obtain hkept | hpaused := hostCall_reason p s e hhost
    · exact h.congr (eventLawful p s e).stopped hkept
    · exact blank_of_recorded hpaused

/-! ## The reason of a command -/

/-- A round reports the command that is due. -/
theorem due_round {cmd : MachineCommand} (h : Due s cmd) (hblank : Blank s) (elapsedMs : U64) :
    (s.workerRound p elapsedMs).lastStopReason = reported p s cmd := by
  obtain ⟨rest, hqueue⟩ : ∃ rest, s.commandQueue = cmd :: rest := by
    cases hqueue : s.commandQueue with
    | nil =>
      have hfirst := h.first
      simp [hqueue] at hfirst
    | cons first rest =>
      have hfirst := h.first
      rw [hqueue, List.head?_cons, Option.some.injEq] at hfirst
      exact ⟨rest, by rw [hfirst]⟩
  have hnone := hblank.of_executable h.executable
  have hexecutes := h.executes
  rw [workerRound, hqueue]
  cases cmd with
  | step budget =>
    exact executeStep_reason (s := { s with commandQueue := rest }) h.executable hnone budget
  | runWithBudget maxInstructions maxCycles =>
    exact executeRunWithBudget_reason (s := { s with commandQueue := rest }) h.executable hnone
      maxInstructions maxCycles
  | _ => cases hexecutes

/-- After any events there is a full record or none. -/
theorem blank_sessionAfter (p : SessionParts γ) (guest : γ) (events : List (SessionEvent γ)) :
    Blank (sessionAfter p guest events) :=
  sessionAfter_invariant (blank_next p) guest (.inr fun _ => rfl) events

/-- A command reports its own reason exactly where the record is free for it. -/
theorem reported_eq_iff (p : SessionParts γ) (s : SessionState γ) (cmd : MachineCommand) :
    reported p s cmd = ownReason p cmd s.guest ↔ RecordFree p s cmd := by
  unfold reported RecordFree
  split
  next hfree => exact ⟨fun _ => hfree.imp id .inl, fun _ => rfl⟩
  next hnot =>
    constructor
    · intro hsame
      exact .inr (.inr hsame)
    · rintro (hcode | hguest | hsame)
      · exact absurd (.inl hcode) hnot
      · exact absurd (.inr hguest) hnot
      · exact hsame

/-- The record is free where guest and reason are the same. -/
theorem recordFree_congr {s' : SessionState γ} {cmd : MachineCommand} (h : RecordFree p s cmd)
    (hguest : s'.guest = s.guest) (hreason : s'.lastStopReason = s.lastStopReason) :
    RecordFree p s' cmd := by
  unfold RecordFree
  rw [hguest, hreason]
  exact h

/-- A command that is not free reports the reason on record. -/
theorem reported_of_not_free {cmd : MachineCommand} (h : ¬ RecordFree p s cmd) :
    reported p s cmd = s.lastStopReason := by
  unfold reported
  exact if_neg fun hfree => h (hfree.imp id .inl)

/-- Two sessions with the same guest. -/
theorem reported_same_iff {s' : SessionState γ} (hguest : s'.guest = s.guest)
    (cmd : MachineCommand) : reported p s' cmd = reported p s cmd ↔
      (RecordFree p s cmd ∧ RecordFree p s' cmd) ∨ s'.lastStopReason = s.lastStopReason := by
  have hown := reported_eq_iff p s cmd
  have hown' := reported_eq_iff p s' cmd
  rw [hguest] at hown'
  by_cases hfree : RecordFree p s cmd
  · by_cases hfree' : RecordFree p s' cmd
    · rw [hown.2 hfree, hown'.2 hfree']
      exact ⟨fun _ => .inl ⟨hfree, hfree'⟩, fun _ => rfl⟩
    · rw [hown.2 hfree]
      constructor
      · intro hsame
        exact absurd (hown'.1 hsame) hfree'
      · rintro (⟨-, h⟩ | hreason)
        · exact absurd h hfree'
        · exact absurd (recordFree_congr hfree hguest hreason) hfree'
  · rw [reported_of_not_free hfree]
    by_cases hfree' : RecordFree p s' cmd
    · have hdiffer : s'.lastStopReason ≠ s.lastStopReason := by
        intro hreason
        exact hfree (recordFree_congr hfree' hguest.symm hreason.symm)
      rw [hown'.2 hfree']
      constructor
      · intro hsame
        exact absurd (hown.1 ((reported_of_not_free hfree).trans hsame.symm)) hfree
      · rintro (⟨h, -⟩ | hreason)
        · exact absurd h hfree
        · exact absurd hreason hdiffer
    · rw [reported_of_not_free hfree']
      exact ⟨.inr, fun h => h.resolve_left fun hboth => hfree hboth.1⟩

/-- After any history, the command that is due reports its own reason exactly if it ends by itself,
or none is recorded, or the same.  So it reports the same after two histories that reach the same
guest exactly if that is so after both, or the same reason is recorded. -/
theorem reports_own_iff (p : SessionParts γ) (guest : γ) (events : List (SessionEvent γ))
    {cmd : MachineCommand} (hdue : Due (sessionAfter p guest events) cmd) :
    (ReportsOwn p (sessionAfter p guest events) cmd ↔
      RecordFree p (sessionAfter p guest events) cmd) ∧
    ∀ (guest' : γ) (events' : List (SessionEvent γ)),
      Due (sessionAfter p guest' events') cmd →
      (sessionAfter p guest' events').guest = (sessionAfter p guest events).guest →
      ((∀ elapsedMs, ((sessionAfter p guest' events').workerRound p elapsedMs).lastStopReason =
          ((sessionAfter p guest events).workerRound p elapsedMs).lastStopReason) ↔
        (RecordFree p (sessionAfter p guest events) cmd ∧
          RecordFree p (sessionAfter p guest' events') cmd) ∨
        (sessionAfter p guest' events').lastStopReason =
          (sessionAfter p guest events).lastStopReason) := by
  have hround := due_round (p := p) hdue (blank_sessionAfter p guest events)
  refine ⟨?_, ?_⟩
  · unfold ReportsOwn
    simp only [hround, reported_eq_iff]
    exact ⟨fun h => h 0, fun h _ => h⟩
  · intro guest' events' hdue' hguest
    have hround' := due_round (p := p) hdue' (blank_sessionAfter p guest' events')
    simp only [hround, hround', reported_same_iff hguest, forall_const]

/-- The events of a step of a prepared session, up to the round that executes it. -/
theorem reports_own_step :
    (ReportsOwn idlingParts (sessionAfter idlingParts {} [.prepare loadNothing, .step 1]) (.step 1) ↔
      RecordFree idlingParts (sessionAfter idlingParts {} [.prepare loadNothing, .step 1])
        (.step 1)) ∧
      RecordFree idlingParts (sessionAfter idlingParts {} [.prepare loadNothing, .step 1])
        (.step 1) :=
  ⟨(reports_own_iff idlingParts {} [.prepare loadNothing, .step 1] ⟨rfl, rfl, rfl⟩).1, .inl rfl⟩

/-- A bounded run after a step reports the step. -/
theorem budget_after_step :
    Due (sessionAfter idlingParts {}
        [.prepare loadNothing, .step 1, .round 0, .runWithBudget 1 2]) (.runWithBudget 1 2) ∧
      ¬ ReportsOwn idlingParts (sessionAfter idlingParts {}
        [.prepare loadNothing, .step 1, .round 0, .runWithBudget 1 2]) (.runWithBudget 1 2) ∧
      Due (sessionAfter idlingParts { cycle := 1 } [.prepare loadNothing, .runWithBudget 1 2])
        (.runWithBudget 1 2) ∧
      (sessionAfter idlingParts { cycle := 1 } [.prepare loadNothing, .runWithBudget 1 2]).guest =
        (sessionAfter idlingParts {}
          [.prepare loadNothing, .step 1, .round 0, .runWithBudget 1 2]).guest ∧
      (sessionAfter idlingParts { cycle := 1 }
        [.prepare loadNothing, .runWithBudget 1 2, .round 0]).lastStopReason.code =
          .budgetInstructionsExhausted ∧
      (sessionAfter idlingParts {}
        [.prepare loadNothing, .step 1, .round 0, .runWithBudget 1 2, .round 0]).lastStopReason.code =
          .stepCompleted := by
  refine ⟨⟨rfl, rfl, rfl⟩, ?_, ⟨rfl, rfl, rfl⟩, rfl, by decide, by decide⟩
  intro hreports
  have hcode := congrArg StopReason.code (hreports 0)
  revert hcode
  decide

end Xblob.Analysis
