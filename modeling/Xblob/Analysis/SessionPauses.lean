import Xblob.Analysis.SessionLaws

/-!
# Pauses and completions

A pause is a command in the queue, and `Start` and `Resume` clear the request but not the
queue: a pause that is still there when a run begins hits that run.  The completion of a
session is noticed by the command that brings it about, which says nothing when the state it
finds is not one it can be executed in.
-/

set_option autoImplicit false

namespace Xblob.Analysis

open Xblob.Computation Xblob.Interface Xblob.Machine Xblob.Machine.SessionState

variable {γ : Type} {p : SessionParts γ} {s : SessionState γ}

/-! ## Pauses in the queue -/

/-- A command before the stop of a longer queue was so, or is the last one. -/
theorem mem_beforeStop_append {queue : List MachineCommand} {cmd last : MachineCommand}
    (h : cmd ∈ beforeStop (queue ++ [last])) : cmd ∈ beforeStop queue ∨ cmd = last := by
  induction queue with
  | nil =>
    have hmem := List.takeWhile_subset _ h
    exact .inr (List.mem_singleton.1 hmem)
  | cons first queue ih =>
    by_cases hfirst : first = .stop
    · simp [beforeStop, hfirst] at h
    · have hsplit : ∀ rest, beforeStop (first :: rest) = first :: beforeStop rest := by
        intro rest
        simp [beforeStop, hfirst]
      rw [List.cons_append, hsplit] at h
      rw [hsplit]
      obtain rfl | h := List.mem_cons.1 h
      · exact .inl List.mem_cons_self
      · exact (ih h).imp (List.mem_cons_of_mem _) id

/-- The session has ended, or every pause it will come to is for the run that is going on. -/
def PausesCurrent (s : SessionState γ) : Prop :=
  s.state = .stopped ∨ ∀ run, .pause run ∈ beforeStop s.commandQueue → run = s.runs

/-- A session whose pauses are current has none of another run. -/
theorem PausesCurrent.not_pausesOther (h : PausesCurrent s) : ¬ PausesOther s := by
  rintro ⟨hstate, run, rest, hqueue, hrun⟩
  obtain hstopped | hpauses := h
  · rw [hstate] at hstopped
    cases hstopped
  · apply hrun
    apply hpauses
    simp [hqueue, beforeStop]

/-- A session with the same queue in the same run. -/
theorem PausesCurrent.congr {s' : SessionState γ} (h : PausesCurrent s)
    (hstate : s.state = .stopped → s'.state = .stopped) (hqueue : s'.commandQueue = s.commandQueue)
    (hruns : s'.runs = s.runs) : PausesCurrent s' := by
  obtain hstopped | hpauses := h
  · exact .inl (hstate hstopped)
  · right
    rw [hqueue, hruns]
    exact hpauses

/-- A command put in the queue, a pause only for the run that is going on. -/
theorem PausesCurrent.enqueue (h : PausesCurrent s) {cmd : MachineCommand}
    (hcmd : ∀ run, cmd = .pause run → run = s.runs) : PausesCurrent (s.enqueue cmd) := by
  obtain hstopped | hpauses := h
  · exact .inl hstopped
  · right
    intro run hmem
    obtain hmem | heq := mem_beforeStop_append hmem
    · exact hpauses run hmem
    · exact hcmd run heq.symm

/-- A run begun while no pause is waiting. -/
theorem pausesCurrent_begin {s' : SessionState γ} {cmd : MachineCommand}
    (hqueue : s'.commandQueue = s.commandQueue ++ [cmd]) (hcmd : isPause cmd = false)
    (hnone : ∀ cmd ∈ beforeStop s.commandQueue, isPause cmd = false) : PausesCurrent s' := by
  right
  intro run hmem
  rw [hqueue] at hmem
  have hpause : isPause (.pause run) = true := rfl
  obtain hmem | heq := mem_beforeStop_append hmem
  · rw [hnone _ hmem] at hpause
    cases hpause
  · rw [heq, hcmd] at hpause
    cases hpause

/-- A round keeps the pauses current. -/
theorem pausesCurrent_round (h : PausesCurrent s) (elapsedMs : U64) :
    PausesCurrent (s.workerRound p elapsedMs) := by
  have hended := (workerRound_ended p s elapsedMs).1
  cases workerRound_rounds p s elapsedMs with
  | @command cmd rest hqueue hround =>
    obtain hstopped | hpauses := h
    · exact .inl (hended hstopped)
    · by_cases hcmd : cmd = .stop
      · left
        rw [hround, hcmd]
        rfl
      · right
        rw [hround, executeCommand_queue, executeCommand_runs]
        intro run hmem
        apply hpauses
        rw [hqueue]
        have hsplit : beforeStop (cmd :: rest) = cmd :: beforeStop rest := by
          simp [beforeStop, hcmd]
        rw [hsplit]
        exact List.mem_cons_of_mem _ hmem
  | slice hqueue hrun hround => exact h.congr hended hround.queue hround.runs
  | idle hqueue hrun hround =>
    rw [hround]
    exact h

/-- Preparing keeps the pauses current. -/
theorem pausesCurrent_prepare (h : PausesCurrent s) (load : γ → Result Unit × γ) :
    PausesCurrent (s.prepare p load).2 := by
  unfold prepare
  split
  · exact h
  next hcreated =>
    have hstate : s.state ≠ .stopped := by
      rw [Decidable.not_not.1 hcreated]
      simp
    split
    · exact h.congr (fun heq => absurd heq hstate) rfl rfl
    · exact h.congr (fun heq => absurd heq hstate) rfl rfl

/-- A request other than a pause keeps the pauses current. -/
theorem pausesCurrent_request (h : PausesCurrent s) {cmd : MachineCommand}
    (hcmd : ∀ run, cmd ≠ .pause run) : PausesCurrent (s.request cmd).2 := by
  unfold request
  split
  · exact h
  · have hflags : PausesCurrent { s with pauseRequested := false, stopRequested := false } :=
      h.congr id rfl rfl
    exact hflags.enqueue fun run heq => absurd heq (hcmd run)

/-- Every event keeps the pauses those of the run, if the runs it begins find none. -/
theorem pausesCurrent_next (e : SessionEvent γ) (h : PausesCurrent s) (hguard : PausesDone s e) :
    PausesCurrent (e.next p s) := by
  cases e with
  | prepare load => exact pausesCurrent_prepare h load
  | prepareMedia load => exact pausesCurrent_prepare h load
  | start budgets =>
    simp only [SessionEvent.next, SessionState.start]
    cases hstate : s.executable with
    | false => exact h
    | true => exact pausesCurrent_begin rfl rfl (hguard hstate)
  | resume budgets =>
    simp only [SessionEvent.next, SessionState.resume]
    split
    · exact h
    next hpaused =>
      have hbegins : begins s (.resume budgets) = true := by
        simp [begins, Decidable.not_not.1 hpaused]
      exact pausesCurrent_begin rfl rfl (hguard hbegins)
  | step budget => exact pausesCurrent_request h (by simp)
  | runWithBudget maxInstructions maxCycles => exact pausesCurrent_request h (by simp)
  | pause =>
    have hflag : PausesCurrent { s with pauseRequested := true } := h.congr id rfl rfl
    have hqueued : PausesCurrent
        (({ s with pauseRequested := true } : SessionState γ).enqueue (.pause s.runs)) :=
      hflag.enqueue (by simp)
    simp only [SessionEvent.next, SessionState.pause]
    split
    · exact h
    · exact h
    · exact h
    next hstate => exact h.congr (by simp [hstate]) rfl rfl
    · exact hqueued
    · exact hqueued
  | stop =>
    have hflag : PausesCurrent { s with stopRequested := true } := h.congr id rfl rfl
    simp only [SessionEvent.next, SessionState.stop]
    split
    · exact h
    · exact hflag.enqueue (by simp)
  | round elapsedMs => exact pausesCurrent_round h elapsedMs

/-- In a run where every `Start` and `Resume` finds no pause in the queue, no pause hits
another run than the one it was asked for in. -/
theorem pauses_hit_own_run {guest : γ} {events : List (SessionEvent γ)}
    (hruns : Runs (SessionEvent.next p) PausesDone events (newSession guest) s) :
    ¬ PausesOther s := by
  have hnew : PausesCurrent (newSession guest) := by
    right
    intro run hmem
    cases hmem
  exact (hruns.invariant (fun _ e h hguard => pausesCurrent_next e h hguard) hnew).not_pausesOther

/-- A session that is started, paused and resumed, each pause having been executed. -/
theorem resumed_hits_own_run : ¬ PausesOther (sessionAfter idlingParts {}
    [.prepare loadNothing, .start {}, .pause, .round 0, .round 0, .resume {}]) := by
  have hruns : Runs (SessionEvent.next idlingParts) PausesDone
      [.prepare loadNothing, .start {}, .pause, .round 0, .round 0, .resume {}] (newSession {})
      (sessionAfter idlingParts {}
        [.prepare loadNothing, .start {}, .pause, .round 0, .round 0, .resume {}]) := by
    refine .cons ?_ (.cons ?_ (.cons ?_ (.cons ?_ (.cons ?_ (.cons ?_ (.nil _))))))
    all_goals
      unfold PausesDone
      decide
  exact pauses_hit_own_run hruns

/-- A pause asked for before the session is prepared hits the run that is begun after it. -/
theorem early_pause_hits_later_run :
    PausesOther (sessionAfter idlingParts {} [.pause, .prepare loadNothing, .start {}]) ∧
      (sessionAfter idlingParts {}
        [.pause, .prepare loadNothing, .start {}, .round 0]).state = .paused :=
  ⟨⟨rfl, 0, [.start {}], rfl, by decide⟩, rfl⟩

/-! ## Completion -/

/-- A session is complete where no command is left and it does not run. -/
theorem completed_iff (s : SessionState γ) :
    s.completed = true ↔ s.commandQueue = [] ∧ s.state ≠ .running := by
  simp [completed]

/-- A command that leaves the session not running notifies those who wait, if the state made
something of it. -/
theorem Answers.noticed_iff {state : MachineState} {notices : ℕ} {cmd : MachineCommand}
    {state' : MachineState} {notices' : ℕ} (h : Answers state notices cmd state' notices') :
    (state' ≠ .running → notices < notices') ↔ heard state cmd = true := by
  cases h with
  | start budgets => simp [heard]
  | resume budgets => simp [heard]
  | pauses run hstate => simp [heard, hstate]
  | unpaused run hstate => simp [heard, hstate]
  | stop => simp [heard]
  | executed hcmd hstate hstate' =>
    have hheard : heard state cmd = true := by
      cases cmd with
      | step budget => obtain rfl | rfl := hstate <;> rfl
      | runWithBudget maxInstructions maxCycles => obtain rfl | rfl := hstate <;> rfl
      | _ => cases hcmd
    simp [hheard]
  | rejected hcmd hstate =>
    have hheard : heard state cmd = (state == .running) := by
      obtain ⟨hprepared, hpaused⟩ := not_or.1 hstate
      cases cmd with
      | step budget => simp [heard, hprepared, hpaused]
      | runWithBudget maxInstructions maxCycles => simp [heard, hprepared, hpaused]
      | _ => cases hcmd
    simp [hheard]

/-- A round that finds one command completes the session unless it is left running. -/
theorem noticesCompletion_single {cmd : MachineCommand} (hqueue : s.commandQueue = [cmd]) :
    NoticesCompletion p s ↔ heard s.state cmd = true := by
  have hround : ∀ elapsedMs, s.workerRound p elapsedMs =
      (({ s with commandQueue := [] } : SessionState γ).executeCommand p cmd).2 := by
    intro elapsedMs
    rw [workerRound, hqueue]
  have hanswers := executeCommand_answers p { s with commandQueue := [] } cmd
  have hleft := executeCommand_queue p { s with commandQueue := [] } cmd
  have hbefore : s.completed = false := by simp [completed, hqueue]
  rw [← hanswers.noticed_iff]
  unfold NoticesCompletion
  simp only [hround, completed_iff, hleft, hbefore, forall_const, true_and]

/-- A round notices the completion it brings about exactly when the last command is one that
the state it finds makes something of. -/
theorem noticesCompletion_iff (p : SessionParts γ) (s : SessionState γ) :
    NoticesCompletion p s ↔ LastHeard s := by
  cases hqueue : s.commandQueue with
  | nil =>
    have hheard : LastHeard s := by
      intro cmd heq
      rw [hqueue] at heq
      cases heq
    refine iff_of_true ?_ hheard
    intro elapsedMs hbefore hafter
    cases workerRound_rounds p s elapsedMs with
    | command hcons hround =>
      rw [hqueue] at hcons
      cases hcons
    | slice hnil hrun hround =>
      obtain ⟨hrunning, -⟩ | ⟨-, hnotices⟩ := hround.state
      · exact absurd hrunning ((completed_iff _).1 hafter).2
      · omega
    | idle hnil hrun hround =>
      rw [hround, hbefore] at hafter
      cases hafter
  | cons cmd rest =>
    cases rest with
    | nil =>
      rw [noticesCompletion_single hqueue]
      constructor
      · intro hheard cmd' heq
        rw [hqueue] at heq
        cases heq
        exact hheard
      · intro hheard
        exact hheard cmd hqueue
    | cons cmd' rest =>
      have hheard : LastHeard s := by
        intro last heq
        rw [hqueue] at heq
        cases heq
      refine iff_of_true ?_ hheard
      intro elapsedMs _ hafter
      obtain ⟨hempty, -⟩ := (completed_iff _).1 hafter
      rw [workerRound, hqueue, executeCommand_queue] at hempty
      cases hempty

/-- A host call completes nothing. -/
theorem hostCall_completed (p : SessionParts γ) (s : SessionState γ) (e : SessionEvent γ)
    (hhost : ∀ elapsedMs, e ≠ .round elapsedMs) (hbefore : s.completed = false) :
    (e.next p s).completed = false := by
  have hprepare : ∀ load : γ → Result Unit × γ, (s.prepare p load).2.completed = false := by
    intro load
    unfold prepare
    split
    · exact hbefore
    next hcreated =>
      have hstate : s.state = .created := Decidable.not_not.1 hcreated
      split
      · exact hbefore
      · simpa [completed, takeSnapshot, hstate] using hbefore
  have henqueue : ∀ (s : SessionState γ) (cmd : MachineCommand), (s.enqueue cmd).completed = false := by
    intro s cmd
    simp [completed, enqueue]
  cases e with
  | prepare load => exact hprepare load
  | prepareMedia load => exact hprepare load
  | start budgets =>
    simp only [SessionEvent.next, SessionState.start]
    split
    · exact hbefore
    · exact henqueue _ _
  | resume budgets =>
    simp only [SessionEvent.next, SessionState.resume]
    split
    · exact hbefore
    · exact henqueue _ _
  | step budget =>
    simp only [SessionEvent.next, SessionState.request]
    split
    · exact hbefore
    · exact henqueue _ _
  | runWithBudget maxInstructions maxCycles =>
    simp only [SessionEvent.next, SessionState.request]
    split
    · exact hbefore
    · exact henqueue _ _
  | pause =>
    simp only [SessionEvent.next, SessionState.pause]
    split
    · exact hbefore
    · exact hbefore
    · exact hbefore
    next hstate => simpa [completed, takeSnapshot, hstate] using hbefore
    · exact henqueue _ _
    · exact henqueue _ _
  | stop =>
    simp only [SessionEvent.next, SessionState.stop]
    split
    · exact hbefore
    · exact henqueue _ _
  | round elapsedMs => exact absurd rfl (hhost elapsedMs)

/-- Nobody waits for a completion that has come about. -/
def NobodyMissed (w : WatchedSession γ) : Prop := w.waiting = true → w.session.completed = false

/-- An event with its guard misses no waiter. -/
theorem nobodyMissed_next (w : WatchedSession γ) (e : WatchedEvent γ) (h : NobodyMissed w)
    (hguard : RoundsHeard w e) : NobodyMissed (e.next p w) := by
  cases e with
  | waitCompletion =>
    intro hwaiting
    have hor : w.waiting = true ∨ w.session.completed = false := by
      simpa [WatchedEvent.next] using hwaiting
    exact hor.elim h id
  | event e =>
    intro hwaiting
    simp only [WatchedEvent.next] at hwaiting ⊢
    split at hwaiting
    next hsame =>
      have hbefore := h hwaiting
      by_cases hround : ∃ elapsedMs, e = .round elapsedMs
      · obtain ⟨elapsedMs, rfl⟩ := hround
        have hnotices := (noticesCompletion_iff p w.session).2 hguard elapsedMs hbefore
        apply Bool.eq_false_iff.2
        intro hafter
        exact absurd hsame (Nat.ne_of_gt (hnotices hafter))
      · apply hostCall_completed p w.session e _ hbefore
        intro elapsedMs heq
        exact hround ⟨elapsedMs, heq⟩
    next => simpa using (Bool.and_eq_true_iff.1 hwaiting).2

/-- A round notices the completion it brings about exactly when the last command is one that
the state makes something of; where every round is such, nobody is left waiting. -/
theorem completion_noticed (p : SessionParts γ) :
    (∀ s, NoticesCompletion p s ↔ LastHeard s) ∧
      ∀ (guest : γ) (events : List (WatchedEvent γ)) (w : WatchedSession γ),
        Runs (WatchedEvent.next p) RoundsHeard events { session := newSession guest } w →
          ¬ (w.waiting = true ∧ w.session.completed = true) := by
  refine ⟨noticesCompletion_iff p, ?_⟩
  intro guest events w hruns
  have hmissed : NobodyMissed w := by
    apply hruns.invariant nobodyMissed_next
    intro hwaiting
    cases hwaiting
  rintro ⟨hwaiting, hcompleted⟩
  rw [hmissed hwaiting] at hcompleted
  cases hcompleted

/-- A step of a prepared session, waited for: every round is heard, and nobody is left waiting. -/
def stepWaited : List (WatchedEvent IdlingGuest) :=
  [.event (.prepare loadNothing), .event (.step 1), .waitCompletion, .event (.round 0)]

/-- The waiter of the example is told by the step. -/
theorem completion_noticed_step :
    (stepWaited.foldl (WatchedEvent.next idlingParts)
      { session := newSession {} }).waiting = false := by
  have hruns : Runs (WatchedEvent.next idlingParts) RoundsHeard stepWaited
      { session := newSession {} }
      (stepWaited.foldl (WatchedEvent.next idlingParts) { session := newSession {} }) := by
    refine .cons trivial (.cons trivial (.cons trivial (.cons ?_ (.nil _))))
    intro cmd hqueue
    cases hqueue
    decide
  have hcompleted : (stepWaited.foldl (WatchedEvent.next idlingParts)
      { session := newSession {} }).session.completed = true := by decide
  apply Bool.eq_false_iff.2
  intro hwaiting
  exact (completion_noticed idlingParts).2 _ _ _ hruns ⟨hwaiting, hcompleted⟩

/-- A pause found before the session runs completes it and tells nobody. -/
theorem early_pause_leaves_waiting :
    ¬ NoticesCompletion idlingParts (sessionAfter idlingParts {} [.pause]) ∧
      (WatchedEvent.next idlingParts
        (WatchedEvent.next idlingParts { session := sessionAfter idlingParts {} [.pause] }
          .waitCompletion) (.event (.round 0))).waiting = true ∧
      (sessionAfter idlingParts {} [.pause, .round 0]).completed = true := by
  refine ⟨?_, by decide, by decide⟩
  intro hnotices
  have hlt := hnotices 0 (by decide) (by decide)
  revert hlt
  decide

end Xblob.Analysis
