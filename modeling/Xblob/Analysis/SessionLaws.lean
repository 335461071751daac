import Xblob.Analysis.SessionRuns

/-!
# Runs of a session obey its states

Every event is looked at once for what it does to the queue, the state and the counts.  The
count of a session is that of its slices because slices are executed with an empty queue only:
while a `Start` is still in the queue nothing has been counted since the call that put it
there.
-/

set_option autoImplicit false

namespace Xblob.Analysis

open Xblob.Computation Xblob.Interface Xblob.Machine Xblob.Machine.SessionState

variable {γ : Type} {p : SessionParts γ} {s : SessionState γ}

/-! ## Commands -/

section Commands

variable (p s) (cmd : MachineCommand)

/-- A pause is for a running session. -/
theorem executeCommand_pause (run : ℕ) :
    (s.state = .running ∧ (s.executeCommand p (.pause run)).2 =
      { s.pauseByUser p with pauseRequested := false }) ∨
    (s.state ≠ .running ∧ (s.executeCommand p (.pause run)).2 =
      { s with pauseRequested := false }) := by
  by_cases hstate : s.state = .running
  · refine .inl ⟨hstate, ?_⟩
    rw [executeCommand, if_pos hstate]
  · refine .inr ⟨hstate, ?_⟩
    rw [executeCommand, if_neg hstate]

/-- A command leaves the queue. -/
theorem executeCommand_queue : (s.executeCommand p cmd).2.commandQueue = s.commandQueue := by
  cases cmd with
  | start budgets => rfl
  | resume budgets => rfl
  | step budget =>
    obtain ⟨-, heq⟩ | ⟨-, hhandled⟩ := executeStep_spec p s budget
    · exact congrArg commandQueue heq
    · exact hhandled.queue
  | runWithBudget maxInstructions maxCycles =>
    obtain ⟨-, heq⟩ | ⟨-, hhandled⟩ := executeRunWithBudget_spec p s maxInstructions maxCycles
    · exact congrArg commandQueue heq
    · exact hhandled.queue
  | pause run =>
    obtain ⟨-, heq⟩ | ⟨-, heq⟩ := executeCommand_pause p s run
    · rw [heq]
      rfl
    · rw [heq]
  | stop => rfl

/-- A command leaves the number of the run. -/
theorem executeCommand_runs : (s.executeCommand p cmd).2.runs = s.runs := by
  cases cmd with
  | start budgets => rfl
  | resume budgets => rfl
  | step budget =>
    obtain ⟨-, heq⟩ | ⟨-, hhandled⟩ := executeStep_spec p s budget
    · exact congrArg SessionState.runs heq
    · exact hhandled.runs
  | runWithBudget maxInstructions maxCycles =>
    obtain ⟨-, heq⟩ | ⟨-, hhandled⟩ := executeRunWithBudget_spec p s maxInstructions maxCycles
    · exact congrArg SessionState.runs heq
    · exact hhandled.runs
  | pause run =>
    obtain ⟨-, heq⟩ | ⟨-, heq⟩ := executeCommand_pause p s run
    · rw [heq]
      rfl
    · rw [heq]
  | stop => rfl

/-- What a command makes of the state and of the notifications. -/
inductive Answers (state : MachineState) (notices : ℕ) :
    MachineCommand → MachineState → ℕ → Prop
  | start (budgets : ExecutionBudgets) : Answers state notices (.start budgets) state notices
  | resume (budgets : ExecutionBudgets) : Answers state notices (.resume budgets) state notices
  | pauses (run : ℕ) (hstate : state = .running) :
    Answers state notices (.pause run) .paused (notices + 1)
  | unpaused (run : ℕ) (hstate : state ≠ .running) : Answers state notices (.pause run) state notices
  | stop : Answers state notices .stop .stopped (notices + 1)
  | executed {cmd : MachineCommand} {state' : MachineState} (hcmd : executes cmd)
      (hstate : state = .prepared ∨ state = .paused) (hstate' : state' = .paused ∨ state' = .faulted) :
    Answers state notices cmd state' (notices + 1)
  | rejected {cmd : MachineCommand} (hcmd : executes cmd)
      (hstate : ¬ (state = .prepared ∨ state = .paused)) : Answers state notices cmd state notices

/-- A stopped session answers a command stopped. -/
theorem Answers.stopped {state : MachineState} {notices : ℕ} {cmd : MachineCommand}
    {state' : MachineState} {notices' : ℕ} (h : Answers state notices cmd state' notices')
    (hstate : state = .stopped) : state' = .stopped := by
  subst hstate
  cases h with
  | pauses run hrunning => cases hrunning
  | executed hcmd hready => simp at hready
  | _ => rfl

/-- A faulted session answers a command faulted or stopped. -/
theorem Answers.faulted {state : MachineState} {notices : ℕ} {cmd : MachineCommand}
    {state' : MachineState} {notices' : ℕ} (h : Answers state notices cmd state' notices')
    (hstate : state = .faulted) : state' = .faulted ∨ state' = .stopped := by
  subst hstate
  cases h with
  | pauses run hrunning => cases hrunning
  | executed hcmd hready => simp at hready
  | stop => exact .inr rfl
  | _ => exact .inl rfl

/-- An attempt to execute is an answer to a command that executes. -/
theorem answers_attempted {s' : SessionState γ} (hcmd : executes cmd) (h : Attempted s s') :
    Answers s.state s.notices cmd s'.state s'.notices := by
  obtain ⟨hstate, rfl⟩ | ⟨hstate, hhandled⟩ := h
  · apply Answers.rejected hcmd
    simpa [executable] using hstate
  · rw [hhandled.notices]
    apply Answers.executed hcmd _ hhandled.state
    simpa [executable] using hstate

/-- Every command is answered as its state demands. -/
theorem executeCommand_answers : Answers s.state s.notices cmd
    (s.executeCommand p cmd).2.state (s.executeCommand p cmd).2.notices := by
  cases cmd with
  | start budgets => exact .start budgets
  | resume budgets => exact .resume budgets
  | step budget => exact answers_attempted s _ rfl (executeStep_spec p s budget)
  | runWithBudget maxInstructions maxCycles =>
    exact answers_attempted s _ rfl (executeRunWithBudget_spec p s maxInstructions maxCycles)
  | pause run =>
    obtain ⟨hstate, heq⟩ | ⟨hstate, heq⟩ := executeCommand_pause p s run
    · rw [heq]
      exact .pauses run hstate
    · rw [heq]
      exact .unpaused run hstate
  | stop => exact .stop

/-- Only `Start` touches the count of the session. -/
theorem executeCommand_counted :
    (s.executeCommand p cmd).2.sessionInstructionsExecuted = s.sessionInstructionsExecuted ∨
      ∃ budgets, cmd = .start budgets ∧
        (s.executeCommand p cmd).2.sessionInstructionsExecuted = 0 := by
  cases cmd with
  | start budgets => exact .inr ⟨budgets, rfl, rfl⟩
  | resume budgets => exact .inl rfl
  | step budget =>
    obtain ⟨-, heq⟩ | ⟨-, hhandled⟩ := executeStep_spec p s budget
    · exact .inl (congrArg sessionInstructionsExecuted heq)
    · exact .inl hhandled.counted
  | runWithBudget maxInstructions maxCycles =>
    obtain ⟨-, heq⟩ | ⟨-, hhandled⟩ := executeRunWithBudget_spec p s maxInstructions maxCycles
    · exact .inl (congrArg sessionInstructionsExecuted heq)
    · exact .inl hhandled.counted
  | pause run =>
    obtain ⟨-, heq⟩ | ⟨-, heq⟩ := executeCommand_pause p s run
    · rw [heq]
      exact .inl rfl
    · rw [heq]
      exact .inl rfl
  | stop => exact .inl rfl

/-- Only a command that executes instructions, in a state that allows it, executes any. -/
theorem executeCommand_steps (h : (s.executeCommand p cmd).2.steps ≠ s.steps) :
    executes cmd ∧ (s.state = .prepared ∨ s.state = .paused) := by
  cases cmd with
  | start budgets => exact absurd rfl h
  | resume budgets => exact absurd rfl h
  | step budget =>
    obtain ⟨-, heq⟩ | ⟨hstate, -⟩ := executeStep_spec p s budget
    · exact absurd (congrArg SessionState.steps heq) h
    · exact ⟨rfl, by simpa [executable] using hstate⟩
  | runWithBudget maxInstructions maxCycles =>
    obtain ⟨-, heq⟩ | ⟨hstate, -⟩ := executeRunWithBudget_spec p s maxInstructions maxCycles
    · exact absurd (congrArg SessionState.steps heq) h
    · exact ⟨rfl, by simpa [executable] using hstate⟩
  | pause run =>
    obtain ⟨-, heq⟩ | ⟨-, heq⟩ := executeCommand_pause p s run
    · exact absurd (congrArg SessionState.steps heq) h
    · exact absurd (congrArg SessionState.steps heq) h
  | stop => exact absurd rfl h

end Commands

/-! ## Rounds -/

/-- A round executes the first command of the queue, or a slice, or nothing. -/
inductive Rounds (p : SessionParts γ) (s : SessionState γ) (elapsedMs : U64) : Prop
  | command {cmd : MachineCommand} {rest : List MachineCommand} (hqueue : s.commandQueue = cmd :: rest)
      (hround : s.workerRound p elapsedMs = ({ s with commandQueue := rest }.executeCommand p cmd).2)
  | slice (hqueue : s.commandQueue = []) (hrun : s.runnable = true)
      (hround : Sliced s (s.workerRound p elapsedMs))
  | idle (hqueue : s.commandQueue = []) (hrun : s.runnable = false)
      (hround : s.workerRound p elapsedMs = s)

/-- What a round of the worker may do. -/
theorem workerRound_rounds (p : SessionParts γ) (s : SessionState γ) (elapsedMs : U64) :
    Rounds p s elapsedMs := by
  cases hqueue : s.commandQueue with
  | cons cmd rest =>
    refine .command hqueue ?_
    rw [workerRound, hqueue]
  | nil =>
    cases hrun : s.runnable with
    | true =>
      refine .slice hqueue hrun ?_
      have hround : s.workerRound p elapsedMs = s.executeRunningSlice p elapsedMs := by
        rw [workerRound, hqueue]
        exact if_pos hrun
      rw [hround]
      exact executeRunningSlice_spec p s elapsedMs hrun
    | false =>
      refine .idle hqueue hrun ?_
      rw [workerRound, hqueue]
      exact if_neg (by simp [hrun])

/-- A runnable session runs. -/
theorem state_of_runnable (h : s.runnable = true) : s.state = .running := by
  simp only [runnable, Bool.and_eq_true, beq_iff_eq] at h
  exact h.1.1

/-! ## The states -/

/-- A round leaves a stopped session stopped, and a faulted one faulted or stopped. -/
theorem workerRound_ended (p : SessionParts γ) (s : SessionState γ) (elapsedMs : U64) :
    (s.state = .stopped → (s.workerRound p elapsedMs).state = .stopped) ∧
      (s.state = .faulted → (s.workerRound p elapsedMs).state = .faulted ∨
        (s.workerRound p elapsedMs).state = .stopped) := by
  cases workerRound_rounds p s elapsedMs with
  | @command cmd rest hqueue hround =>
    rw [hround]
    have hanswers := executeCommand_answers p { s with commandQueue := rest } cmd
    exact ⟨hanswers.stopped, hanswers.faulted⟩
  | slice hqueue hrun hround =>
    have hstate := state_of_runnable hrun
    rw [hstate]
    simp
  | idle hqueue hrun hround =>
    rw [hround]
    exact ⟨id, .inl⟩

/-- A round that executes was allowed to. -/
theorem workerRound_mayExecute (p : SessionParts γ) (s : SessionState γ) (elapsedMs : U64)
    (h : (s.workerRound p elapsedMs).steps ≠ s.steps) : MayExecute s (.round elapsedMs) := by
  cases workerRound_rounds p s elapsedMs with
  | command hqueue hround =>
    rw [hround] at h
    obtain ⟨hcmd, hstate⟩ := executeCommand_steps p _ _ h
    exact .command elapsedMs hqueue hcmd hstate
  | slice hqueue hrun hround => exact .slice elapsedMs hqueue (state_of_runnable hrun)
  | idle hqueue hrun hround => exact absurd (congrArg SessionState.steps hround) h

/-- A round that executes stays within the budget. -/
theorem workerRound_bounded (p : SessionParts γ) (s : SessionState γ) (elapsedMs : U64)
    (hslice : slices s = true)
    (hmore : s.sessionInstructionsExecuted < (s.workerRound p elapsedMs).sessionInstructionsExecuted) :
    (s.workerRound p elapsedMs).sessionInstructionsExecuted ≤ s.activeBudgets.maxInstructions := by
  obtain ⟨hempty, hrunnable⟩ : s.commandQueue = [] ∧ s.runnable = true := by
    simpa [slices] using hslice
  cases workerRound_rounds p s elapsedMs with
  | command hqueue hround =>
    rw [hqueue] at hempty
    cases hempty
  | slice hqueue hrun hround =>
    obtain ⟨n, -, hcount, hbound⟩ := hround.counted
    have hn : n ≠ 0 := by
      rintro rfl
      rw [hcount] at hmore
      simp at hmore
    have hle := hbound hn
    have hmax := s.activeBudgets.maxInstructions.isLt
    rw [hcount, BitVec.le_def, BitVec.toNat_add, BitVec.toNat_ofNat, Nat.add_mod_mod,
      Nat.mod_eq_of_lt (by omega)]
    exact hle
  | idle hqueue hrun hround =>
    rw [hrunnable] at hrun
    cases hrun

/-- The state a host call leaves, and that it executes nothing. -/
theorem hostCall_spec (p : SessionParts γ) (s : SessionState γ) (e : SessionEvent γ)
    (hhost : ∀ elapsedMs, e ≠ .round elapsedMs) : (e.next p s).steps = s.steps ∧
      (s.state = .stopped → (e.next p s).state = .stopped) ∧
      (s.state = .faulted → (e.next p s).state = .faulted) := by
  have hprepare : ∀ load : γ → Result Unit × γ, (s.prepare p load).2.steps = s.steps ∧
      (s.state = .stopped → (s.prepare p load).2.state = .stopped) ∧
      (s.state = .faulted → (s.prepare p load).2.state = .faulted) := by
    intro load
    unfold prepare
    split
    · exact ⟨rfl, id, id⟩
    next hcreated =>
      have hstate : s.state = .created := Decidable.not_not.1 hcreated
      rw [hstate]
      split
      · simp
      · simp [takeSnapshot]
  cases e with
  | prepare load => exact hprepare load
  | prepareMedia load => exact hprepare load
  | start budgets =>
    simp only [SessionEvent.next, SessionState.start]
    cases hstate : s.executable with
    | false => exact ⟨rfl, id, id⟩
    | true =>
      have hor : s.state = .prepared ∨ s.state = .paused := by simpa [executable] using hstate
      refine ⟨rfl, fun h => ?_, fun h => ?_⟩
      · rw [h] at hor
        simp at hor
      · rw [h] at hor
        simp at hor
  | resume budgets =>
    simp only [SessionEvent.next, SessionState.resume]
    split
    · exact ⟨rfl, id, id⟩
    next hpaused =>
      have hstate : s.state = .paused := Decidable.not_not.1 hpaused
      rw [hstate]
      exact ⟨rfl, by simp, by simp⟩
  | step budget =>
    simp only [SessionEvent.next, SessionState.request]
    split
    · exact ⟨rfl, id, id⟩
    · exact ⟨rfl, id, id⟩
  | runWithBudget maxInstructions maxCycles =>
    simp only [SessionEvent.next, SessionState.request]
    split
    · exact ⟨rfl, id, id⟩
    · exact ⟨rfl, id, id⟩
  | pause =>
    simp only [SessionEvent.next, SessionState.pause]
    split
    · exact ⟨rfl, id, id⟩
    · exact ⟨rfl, id, id⟩
    · exact ⟨rfl, id, id⟩
    next hstate =>
      rw [hstate]
      exact ⟨rfl, by simp, by simp⟩
    · exact ⟨rfl, id, id⟩
    · exact ⟨rfl, id, id⟩
  | stop =>
    simp only [SessionEvent.next, SessionState.stop]
    split
    · exact ⟨rfl, id, id⟩
    · exact ⟨rfl, id, id⟩
  | round elapsedMs => exact absurd rfl (hhost elapsedMs)

/-- Every event is lawful. -/
theorem eventLawful (p : SessionParts γ) (s : SessionState γ) (e : SessionEvent γ) :
    EventLawful p s e := by
  by_cases hround : ∃ elapsedMs, e = .round elapsedMs
  · obtain ⟨elapsedMs, rfl⟩ := hround
    obtain ⟨hstopped, hfaulted⟩ := workerRound_ended p s elapsedMs
    refine ⟨hstopped, hfaulted, workerRound_mayExecute p s elapsedMs, ?_⟩
    intro _ _ hslice hmore
    exact workerRound_bounded p s elapsedMs hslice hmore
  · have hhost : ∀ elapsedMs, e ≠ .round elapsedMs := by
      intro elapsedMs heq
      exact hround ⟨elapsedMs, heq⟩
    obtain ⟨hsteps, hstopped, hfaulted⟩ := hostCall_spec p s e hhost
    refine ⟨hstopped, fun h => .inl (hfaulted h), fun h => absurd hsteps h, ?_⟩
    intro elapsedMs heq
    exact absurd heq (hhost elapsedMs)

/-! ## The count of a session -/

/-- The count is that of the slices, and it is 0 while a `Start` is in the queue. -/
structure Counted (s : SessionState γ) (count : ℕ) : Prop where
  count : s.sessionInstructionsExecuted.toNat = count
  fresh : ∀ budgets, .start budgets ∈ s.commandQueue → s.sessionInstructionsExecuted = 0

/-- A session with the same count and no further `Start` in its queue. -/
theorem Counted.congr {s' : SessionState γ} {count : ℕ} (h : Counted s count)
    (hcount : s'.sessionInstructionsExecuted = s.sessionInstructionsExecuted)
    (hqueue : ∀ budgets, .start budgets ∈ s'.commandQueue → .start budgets ∈ s.commandQueue) :
    Counted s' count := by
  refine ⟨(congrArg BitVec.toNat hcount).trans h.count, ?_⟩
  intro budgets hmem
  rw [hcount]
  exact h.fresh budgets (hqueue budgets hmem)

/-- A command that is not `Start` in the queue. -/
theorem Counted.enqueue {count : ℕ} (h : Counted s count) {cmd : MachineCommand}
    (hcmd : ∀ budgets, cmd ≠ .start budgets) : Counted (s.enqueue cmd) count := by
  refine ⟨h.count, ?_⟩
  intro budgets hmem
  have hor : MachineCommand.start budgets ∈ s.commandQueue ∨ .start budgets = cmd := by
    simpa [SessionState.enqueue] using hmem
  exact h.fresh budgets (hor.resolve_right fun heq => hcmd budgets heq.symm)

/-- A round keeps the slices counted. -/
theorem counted_round {count : ℕ} (h : Counted s count) (elapsedMs : U64) :
    Counted (s.workerRound p elapsedMs) (countSlice p s count (.round elapsedMs)) := by
  cases workerRound_rounds p s elapsedMs with
  | @command cmd rest hqueue hround =>
    have hslices : slices s = false := by simp [slices, hqueue]
    simp only [countSlice, hslices, Bool.false_eq_true, if_false]
    rw [hround]
    have hrest : (({ s with commandQueue := rest } : SessionState γ).executeCommand p cmd).2.commandQueue =
        rest := executeCommand_queue p { s with commandQueue := rest } cmd
    obtain hsame | ⟨budgets, rfl, hzero⟩ :=
      executeCommand_counted p { s with commandQueue := rest } cmd
    · apply h.congr hsame
      intro budgets hmem
      rw [hrest] at hmem
      rw [hqueue]
      exact List.mem_cons_of_mem _ hmem
    · have hcount : count = 0 := by
        rw [← h.count, h.fresh budgets (by simp [hqueue])]
        rfl
      refine ⟨?_, fun _ _ => hzero⟩
      rw [hzero, hcount]
      rfl
  | slice hqueue hrun hround =>
    have hslices : slices s = true := by simp [slices, hqueue, hrun]
    obtain ⟨n, hsteps, hcount, hbound⟩ := hround.counted
    simp only [countSlice, hslices, if_true, hsteps, Nat.add_sub_cancel_left]
    refine ⟨?_, ?_⟩
    · have hmax := s.activeBudgets.maxInstructions.isLt
      have hlt := s.sessionInstructionsExecuted.isLt
      have hsum : s.sessionInstructionsExecuted.toNat + n < 2 ^ 64 := by
        by_cases hn : n = 0
        · omega
        · have hle := hbound hn
          omega
      rw [hcount, BitVec.toNat_add, BitVec.toNat_ofNat, Nat.add_mod_mod, Nat.mod_eq_of_lt hsum,
        h.count]
    · intro budgets hmem
      rw [hround.queue, hqueue] at hmem
      cases hmem
  | idle hqueue hrun hround =>
    have hslices : slices s = false := by simp [slices, hrun]
    simp only [countSlice, hslices, Bool.false_eq_true, if_false]
    rw [hround]
    exact h

/-- Preparing keeps the slices counted. -/
theorem counted_prepare {count : ℕ} (h : Counted s count) (load : γ → Result Unit × γ) :
    Counted (s.prepare p load).2 count := by
  unfold prepare
  split
  · exact h
  · split
    · exact h.congr rfl fun _ hmem => hmem
    · exact h.congr rfl fun _ hmem => hmem

/-- A request that does not start keeps the slices counted. -/
theorem counted_request {count : ℕ} (h : Counted s count) {cmd : MachineCommand}
    (hcmd : ∀ budgets, cmd ≠ .start budgets) : Counted (s.request cmd).2 count := by
  unfold request
  split
  · exact h
  · have hflags : Counted { s with pauseRequested := false, stopRequested := false } count :=
      h.congr rfl fun _ hmem => hmem
    exact hflags.enqueue hcmd

/-- Every event keeps the count. -/
theorem counted_next {count : ℕ} (h : Counted s count) (e : SessionEvent γ) :
    Counted (e.next p s) (countSlice p s count e) := by
  cases e with
  | prepare load => exact counted_prepare h load
  | prepareMedia load => exact counted_prepare h load
  | start budgets =>
    simp only [SessionEvent.next, SessionState.start, countSlice]
    cases s.executable with
    | false => exact h
    | true => exact ⟨rfl, fun _ _ => rfl⟩
  | resume budgets =>
    simp only [SessionEvent.next, SessionState.resume, countSlice]
    split
    · exact h
    · have hflags : Counted { s with
          state := .running, activeBudgets := budgets, pauseRequested := false
          stopRequested := false, runs := s.runs + 1 } count := h.congr rfl fun _ hmem => hmem
      exact hflags.enqueue (by simp)
  | step budget => exact counted_request h (by simp)
  | runWithBudget maxInstructions maxCycles => exact counted_request h (by simp)
  | pause =>
    have hflag : Counted { s with pauseRequested := true } count := h.congr rfl fun _ hmem => hmem
    simp only [SessionEvent.next, SessionState.pause, countSlice]
    split
    · exact h
    · exact h
    · exact h
    · exact h.congr rfl fun _ hmem => hmem
    · exact hflag.enqueue (by simp)
    · exact hflag.enqueue (by simp)
  | stop =>
    simp only [SessionEvent.next, SessionState.stop, countSlice]
    split
    · exact h
    · have hflag : Counted { s with stopRequested := true } count :=
        h.congr rfl fun _ hmem => hmem
      exact hflag.enqueue (by simp)
  | round elapsedMs => exact counted_round h elapsedMs

/-- Every run keeps the count. -/
theorem counted_run {count : ℕ} (events : List (SessionEvent γ)) (h : Counted s count) :
    Counted (events.foldl (SessionEvent.next p) s) (sliceInstructions p s count events) := by
  induction events generalizing s count with
  | nil => exact h
  | cons e events ih => exact ih (counted_next h e)

/-- What a new session has and every event keeps holds after every history. -/
theorem sessionAfter_invariant {I : SessionState γ → Prop}
    (hnext : ∀ (s : SessionState γ) (e : SessionEvent γ), I s → I (e.next p s)) (guest : γ)
    (hnew : I (newSession guest)) (events : List (SessionEvent γ)) :
    I (sessionAfter p guest events) := by
  have hrun : ∀ (events : List (SessionEvent γ)) (s : SessionState γ), I s →
      I (events.foldl (SessionEvent.next p) s) := by
    intro events
    induction events with
    | nil => exact fun _ h => h
    | cons e events ih => exact fun s h => ih _ (hnext s e h)
  exact hrun events _ hnew

/-- In every run, an ended session stays ended, instructions are executed only where the state
allows it, and the count of the session is that of the slices since the latest `Start` and
within the budget. -/
theorem session_states_lawful (p : SessionParts γ) (guest : γ) (events : List (SessionEvent γ)) :
    (sessionAfter p guest events).sessionInstructionsExecuted.toNat =
        sliceInstructions p (newSession guest) 0 events ∧
      ∀ e, EventLawful p (sessionAfter p guest events) e := by
  have hnew : Counted (newSession guest) 0 := ⟨rfl, fun _ _ => rfl⟩
  exact ⟨(counted_run events hnew).count, eventLawful p _⟩

end Xblob.Analysis
