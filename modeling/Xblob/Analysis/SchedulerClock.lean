import Xblob.Computation.Ends
import Xblob.Interface.SchedulerRuns

/-!
# The clock of the scheduler

The clock is moved by `AdvanceCycles`, by every event fired, which sets it to the event's
target, and by the end of a run, which sets it to the target of the run.  The first only
adds.  The other two do not look at the clock, so an event that `AdvanceCycles` has passed
moves it back, and so does the end of a run inside of which the clock has been moved
further than its target.  Where every call is made in time the clock never goes back: it
stays behind the events still to happen and the targets of the runs in progress.
-/

set_option autoImplicit false

namespace Xblob.Analysis

open Xblob.Computation Xblob.Core Xblob.Core.Host Xblob.Interface

variable {κ σ : Type}

/-! ## The queue -/

/-- The entries of a queue in the order of their targets. -/
abbrev ByTarget (queue : List (Event κ)) : Prop :=
  queue.Pairwise fun a b => a.targetCycle ≤ b.targetCycle

/-- An event that is alive is queued. -/
theorem aliveEvents_subset (queue : List (Event κ)) (canceled : Finset EventId) :
    ∀ ev ∈ aliveEvents queue canceled, ev ∈ queue := by
  induction queue generalizing canceled with
  | nil => exact nofun
  | cons top rest ih =>
    intro ev hev
    unfold aliveEvents at hev
    split_ifs at hev
    · exact List.mem_cons_of_mem _ (ih _ ev hev)
    · rcases List.mem_cons.mp hev with rfl | hev
      · exact List.mem_cons_self
      · exact List.mem_cons_of_mem _ (ih _ ev hev)

/-- More marks leave fewer events to happen. -/
theorem aliveEvents_anti (queue : List (Event κ)) {canceled canceled' : Finset EventId}
    (h : canceled ⊆ canceled') :
    ∀ ev ∈ aliveEvents queue canceled', ev ∈ aliveEvents queue canceled := by
  induction queue generalizing canceled canceled' with
  | nil => exact nofun
  | cons top rest ih =>
    intro ev hev
    unfold aliveEvents at hev ⊢
    by_cases hmark : top.id ∈ canceled
    · rw [if_pos (h hmark)] at hev
      rw [if_pos hmark]
      exact ih (Finset.erase_subset_erase _ h) ev hev
    · rw [if_neg hmark]
      by_cases hmark' : top.id ∈ canceled'
      · rw [if_pos hmark'] at hev
        exact List.mem_cons_of_mem _ (ih (Finset.subset_erase.mpr ⟨h, hmark⟩) ev hev)
      · rw [if_neg hmark'] at hev
        rcases List.mem_cons.mp hev with rfl | hev
        · exact List.mem_cons_self
        · exact List.mem_cons_of_mem _ (ih h ev hev)

/-- An event ordered later is not due earlier. -/
theorem gt_target {a b : Event κ} (h : a.gt b = true) : b.targetCycle ≤ a.targetCycle := by
  unfold Event.gt at h
  split_ifs at h with hne
  · exact BitVec.le_of_lt (of_decide_eq_true h)
  · rw [not_not.mp hne]
    exact BitVec.le_refl _

/-- An event not ordered later is not due later. -/
theorem not_gt_target {a b : Event κ} (h : ¬ a.gt b = true) : a.targetCycle ≤ b.targetCycle := by
  unfold Event.gt at h
  split_ifs at h with hne
  · exact BitVec.not_lt.mp (of_decide_eq_false (by simpa using h))
  · rw [not_not.mp hne]
    exact BitVec.le_refl _

/-- A new event takes its place. -/
theorem byTarget_push (ev : Event κ) {queue : List (Event κ)} (h : ByTarget queue) :
    ByTarget (Scheduler.push ev queue) := by
  induction queue with
  | nil => exact List.pairwise_singleton _ _
  | cons top rest ih =>
    obtain ⟨htop, hrest⟩ := List.pairwise_cons.mp h
    unfold Scheduler.push at ih ⊢
    by_cases hgt : ev.gt top = true
    · rw [List.orderedInsert_of_not_le _ _ (by simp [hgt])]
      refine List.pairwise_cons.mpr ⟨?_, ih hrest⟩
      intro e he
      rcases (List.mem_orderedInsert _).mp he with rfl | he
      · exact gt_target hgt
      · exact htop e he
    · rw [List.orderedInsert_cons_of_le _ _ hgt]
      refine List.pairwise_cons.mpr ⟨?_, h⟩
      intro e he
      rcases List.mem_cons.mp he with rfl | he
      · exact not_gt_target hgt
      · exact BitVec.le_trans (not_gt_target hgt) (htop e he)

/-- A new event not before a cycle leaves none before it that was not there. -/
theorem aliveEvents_push {ev : Event κ} {queue : List (Event κ)} {canceled : Finset EventId}
    {cycle : Cycle} (h : ByTarget queue) (hev : cycle ≤ ev.targetCycle)
    (halive : ∀ e ∈ aliveEvents queue canceled, cycle ≤ e.targetCycle) :
    ∀ e ∈ aliveEvents (Scheduler.push ev queue) canceled, cycle ≤ e.targetCycle := by
  induction queue generalizing canceled with
  | nil =>
    intro e he
    have hmem := aliveEvents_subset _ _ e he
    rw [List.mem_singleton.mp hmem]
    exact hev
  | cons top rest ih =>
    obtain ⟨htop, hrest⟩ := List.pairwise_cons.mp h
    unfold Scheduler.push at ih ⊢
    by_cases hgt : ev.gt top = true
    · rw [List.orderedInsert_of_not_le _ _ (by simp [hgt])]
      unfold aliveEvents at halive ⊢
      split_ifs at halive ⊢
      · exact ih hrest halive
      · rw [List.forall_mem_cons] at halive ⊢
        exact ⟨halive.1, ih hrest halive.2⟩
    · -- everything from the new event on is at least as late
      rw [List.orderedInsert_cons_of_le _ _ hgt]
      intro e he
      rcases List.mem_cons.mp (aliveEvents_subset _ _ e he) with rfl | he
      · exact hev
      · apply BitVec.le_trans hev
        rcases List.mem_cons.mp he with rfl | he
        · exact not_gt_target hgt
        · exact BitVec.le_trans (not_gt_target hgt) (htop e he)

/-! ## What the clock stays behind -/

/-- The cycles seen never go down. -/
def Forward (h : Host κ σ) : Prop := (cyclesSeen h).Pairwise (· ≥ ·)

/-- The cycles seen never go down, and the clock is behind the events still to happen and
behind the targets of the runs in progress. -/
structure Steady (runs : List Cycle) (h : Host κ σ) : Prop where
  forward : Forward h
  byTarget : ByTarget h.scheduler.eventQueue
  alive : ∀ ev ∈ aliveEvents h.scheduler.eventQueue h.scheduler.canceledIds,
    h.scheduler.currentCycle ≤ ev.targetCycle
  runs : ∀ targetCycle ∈ runs, h.scheduler.currentCycle ≤ targetCycle

/-- One deed more adds the clock it leaves and the cycle it shows. -/
theorem cyclesSeen_record (h : Host κ σ) (deed : Deed κ) (s : Scheduler κ) :
    cyclesSeen (h.record deed s) = s.currentCycle :: (observedCycle deed ++ cyclesSeen h) := by
  simp [cyclesSeen, Host.record]

/-- A deed that does not move the clock back and shows its callback no cycle outside the
move. -/
theorem Forward.record {h : Host κ σ} (hf : Forward h) {deed : Deed κ} {s : Scheduler κ}
    (hforward : h.scheduler.currentCycle ≤ s.currentCycle)
    (hseen : ∀ c ∈ observedCycle deed, h.scheduler.currentCycle ≤ c ∧ c ≤ s.currentCycle) :
    Forward (h.record deed s) := by
  have hhead : ∀ c ∈ cyclesSeen h, c ≤ h.scheduler.currentCycle := by
    intro c hc
    rcases List.mem_cons.mp hc with rfl | hc
    · exact BitVec.le_refl _
    · exact (List.pairwise_cons.mp hf).1 c hc
  unfold Forward
  rw [cyclesSeen_record, List.pairwise_cons, List.pairwise_append]
  refine ⟨?_, ?_, hf, ?_⟩
  · intro c hc
    rcases List.mem_append.mp hc with hc | hc
    · exact (hseen c hc).2
    · exact BitVec.le_trans (hhead c hc) hforward
  · cases deed <;> simp [observedCycle]
  · intro c hc c' hc'
    exact BitVec.le_trans (hhead c' hc') (hseen c hc).1

/-- A deed of which no callback sees the cycle. -/
theorem Forward.unseen {h : Host κ σ} (hf : Forward h) {deed : Deed κ} {s : Scheduler κ}
    (hforward : h.scheduler.currentCycle ≤ s.currentCycle) (hnone : observedCycle deed = []) :
    Forward (h.record deed s) := by
  refine hf.record hforward ?_
  rw [hnone]
  exact fun c hc => absurd hc List.not_mem_nil

/-- A host that is steady within a run is steady outside of it. -/
theorem Steady.tail {runs : List Cycle} {targetCycle : Cycle} {h : Host κ σ}
    (hs : Steady (targetCycle :: runs) h) : Steady runs h :=
  ⟨hs.forward, hs.byTarget, hs.alive, fun t ht => hs.runs t (List.mem_cons_of_mem _ ht)⟩

/-- A checked sum is not below its first part. -/
theorem le_of_checkedAdd {w : ℕ} {a b c : BitVec w} (h : checkedAdd a b = some c) : a ≤ c := by
  unfold checkedAdd at h
  split_ifs at h with hfits
  cases h
  rw [BitVec.toNat_allOnes] at hfits
  have hsum : a.toNat + b.toNat < 2 ^ w := by
    have := b.isLt
    omega
  rw [BitVec.le_def, BitVec.toNat_add, Nat.mod_eq_of_lt hsum]
  exact Nat.le_add_right _ _

/-! ## The loop, turn by turn -/

section Turns

variable {behave : κ → Cycle → Callback κ σ} {turns : ℕ} {eventsFired maxEvents : U64}
  {targetCycle : Cycle} {h : Host κ σ} {top : Event κ} {rest : List (Event κ)}

/-- A run on an empty queue finishes. -/
theorem runLoop_empty (hq : h.scheduler.eventQueue = []) :
    (runLoop behave (turns + 1) eventsFired targetCycle maxEvents).run h =
      (finishRun targetCycle maxEvents eventsFired).run h := by
  unfold runLoop
  rw [EStateM.run_bind, EStateM.run_get]
  dsimp only
  rw [hq]

/-- A run drops a cancelled event. -/
theorem runLoop_drop (hq : h.scheduler.eventQueue = top :: rest)
    (hcanceled : top.id ∈ h.scheduler.canceledIds) :
    (runLoop behave (turns + 1) eventsFired targetCycle maxEvents).run h =
      (runLoop behave turns eventsFired targetCycle maxEvents).run
        (h.record (.dropped top.id) (h.scheduler.dropCanceled top.id rest)) := by
  rw [runLoop, EStateM.run_bind, EStateM.run_get]
  dsimp only
  rw [hq]
  dsimp only
  rw [if_pos hcanceled, EStateM.run_bind, EStateM.run_set]

/-- A run finishes before an event that is not due. -/
theorem runLoop_late (hq : h.scheduler.eventQueue = top :: rest)
    (hlive : top.id ∉ h.scheduler.canceledIds) (hlate : top.targetCycle > targetCycle) :
    (runLoop behave (turns + 1) eventsFired targetCycle maxEvents).run h =
      (finishRun targetCycle maxEvents eventsFired).run h := by
  unfold runLoop
  rw [EStateM.run_bind, EStateM.run_get]
  dsimp only
  rw [hq]
  dsimp only
  rw [if_neg hlive, if_pos hlate]

/-- A run stops at its event limit. -/
theorem runLoop_limit (hq : h.scheduler.eventQueue = top :: rest)
    (hlive : top.id ∉ h.scheduler.canceledIds) (hdue : ¬ top.targetCycle > targetCycle)
    (hlimit : eventsFired ≥ maxEvents) :
    (runLoop behave (turns + 1) eventsFired targetCycle maxEvents).run h =
      .ok .eventLimitReached h := by
  unfold runLoop
  rw [EStateM.run_bind, EStateM.run_get]
  dsimp only
  rw [hq]
  dsimp only
  rw [if_neg hlive, if_neg hdue, if_pos hlimit]
  rfl

/-- A run fires an event that is due, calls it back and goes on. -/
theorem runLoop_fire (hq : h.scheduler.eventQueue = top :: rest)
    (hlive : top.id ∉ h.scheduler.canceledIds) (hdue : ¬ top.targetCycle > targetCycle)
    (hlimit : ¬ eventsFired ≥ maxEvents) :
    (runLoop behave (turns + 1) eventsFired targetCycle maxEvents).run h =
      (callBack behave (runLoop behave turns 0) top >>= fun _ =>
        runLoop behave turns (eventsFired + 1) targetCycle maxEvents).run
          (h.record (.fired top) (h.scheduler.takeEvent top rest)) := by
  rw [runLoop, EStateM.run_bind, EStateM.run_get]
  dsimp only
  rw [hq]
  dsimp only
  rw [if_neg hlive, if_neg hdue, if_neg hlimit, EStateM.run_bind, EStateM.run_set]

/-- A run ends at its target when no event is left, or none up to the target. -/
theorem finishRun_eq (htop : ∀ top rest, h.scheduler.eventQueue = top :: rest →
    top.id ∉ h.scheduler.canceledIds ∧ top.targetCycle > targetCycle) :
    (finishRun targetCycle maxEvents eventsFired).run h = .ok .targetReached
      (h.record (.reached targetCycle) { h.scheduler with currentCycle := targetCycle }) := by
  have hpurge : h.scheduler.purgeCanceled = h.scheduler := by
    unfold Scheduler.purgeCanceled
    cases hq : h.scheduler.eventQueue with
    | nil =>
      simp only [Scheduler.purge]
      rw [← hq]
    | cons top rest =>
      simp only [Scheduler.purge, if_neg (htop top rest hq).1]
      rw [← hq]
  have hlimit : h.scheduler.overLimit targetCycle maxEvents eventsFired = false := by
    unfold Scheduler.overLimit
    cases hq : h.scheduler.eventQueue with
    | nil => rfl
    | cons top rest =>
      have hlate : ¬ top.targetCycle ≤ targetCycle := BitVec.not_le.mpr (htop top rest hq).2
      simp [hlate]
  unfold finishRun
  rw [EStateM.run_bind, EStateM.run_get]
  dsimp only
  rw [hpurge, hlimit]
  rfl

end Turns

/-! ## The calls -/

/-- An advance that succeeds moves the clock by its cycles. -/
theorem advanceCycles_eq {s s' : Scheduler κ} {delta : Cycle} (h : s.advanceCycles delta = .ok s') :
    ∃ cycle, checkedAdd s.currentCycle delta = some cycle ∧ s' = { s with currentCycle := cycle } := by
  unfold Scheduler.advanceCycles at h
  cases hadd : checkedAdd s.currentCycle delta with
  | none =>
    rw [hadd] at h
    cases h
  | some cycle =>
    rw [hadd] at h
    cases h
    exact ⟨cycle, rfl, rfl⟩

section Calls

variable {runs : List Cycle} {h : Host κ σ}

/-- An advance in time keeps the host steady. -/
theorem advanceCycles_steady (hs : Steady runs h) {delta : Cycle}
    (hin : InTime { runs := runs, call := .advanceCycles delta, before := h.scheduler
                    : MadeCall κ σ }) :
    Ends (advanceCycles delta) h (fun _ => Steady runs) Forward := by
  unfold Host.advanceCycles
  simp only [ends_bind, ends_get]
  cases hadv : h.scheduler.advanceCycles delta with
  | error e => exact hs
  | ok s =>
    obtain ⟨cycle, hadd, rfl⟩ := advanceCycles_eq hadv
    obtain ⟨halive, hruns⟩ := hin cycle hadd
    refine ⟨hs.forward.unseen (le_of_checkedAdd hadd) rfl, hs.byTarget, halive, hruns⟩

/-- Scheduling keeps the host steady. -/
theorem scheduleEvent_steady (hs : Steady runs h) (targetCycle : Cycle) (callback : Option κ) :
    Ends (scheduleEvent targetCycle callback) h (fun _ => Steady runs) Forward := by
  unfold scheduleEvent
  simp only [ends_bind, ends_get]
  split_ifs with hpast
  · exact hs
  · have hev : h.scheduler.currentCycle ≤ targetCycle := BitVec.not_lt.mp hpast
    exact ⟨hs.forward.unseen (BitVec.le_refl _) rfl, byTarget_push _ hs.byTarget,
      aliveEvents_push hs.byTarget hev hs.alive, hs.runs⟩

/-- Scheduling ahead keeps the host steady. -/
theorem scheduleRelative_steady (hs : Steady runs h) (deltaCycles : Cycle)
    (callback : Option κ) :
    Ends (scheduleRelative deltaCycles callback) h (fun _ => Steady runs) Forward := by
  unfold scheduleRelative
  simp only [ends_bind, ends_get]
  cases checkedAdd h.scheduler.currentCycle deltaCycles with
  | none => exact hs
  | some targetCycle => exact scheduleEvent_steady hs targetCycle callback

/-- Cancelling keeps the host steady. -/
theorem cancelEvent_steady (hs : Steady runs h) (id : EventId) :
    Ends (cancelEvent id) h (fun _ => Steady runs) Forward := by
  unfold cancelEvent
  simp only [ends_bind, ends_get]
  by_cases hpending : id ∈ h.scheduler.pendingIds
  · rw [if_neg (not_not.mpr hpending)]
    refine ⟨hs.forward.unseen (BitVec.le_refl _) rfl, hs.byTarget, ?_, hs.runs⟩
    intro ev hev
    exact hs.alive ev (aliveEvents_anti _ (Finset.subset_insert id _) ev hev)
  · rw [if_pos hpending]
    exact hs

variable {loop : Cycle → U64 → EStateM Unfinished (Host κ σ) SchedulerStatus}
  {inRun : List Cycle → Cycle → U64 → Host κ σ → List (MadeCall κ σ)}

/-- A loop keeps the clock behind the targets of all runs in progress, its own the first, if
the calls made inside of it are made in time. -/
def KeepsSteady (loop : Cycle → U64 → EStateM Unfinished (Host κ σ) SchedulerStatus)
    (inRun : List Cycle → Cycle → U64 → Host κ σ → List (MadeCall κ σ)) : Prop :=
  ∀ runs targetCycle maxEvents h, Steady (targetCycle :: runs) h →
    (∀ t ∈ runs, targetCycle ≤ t) →
    (∀ m ∈ inRun (targetCycle :: runs) targetCycle maxEvents h, InTime m) →
    Ends (loop targetCycle maxEvents) h (fun _ => Steady (targetCycle :: runs)) Forward

/-- A run that is started in time, of which all calls are made in time. -/
theorem started_steady (hloop : KeepsSteady loop inRun) (hs : Steady runs h)
    {c : SchedulerCall κ σ} {targetCycle : Cycle} {maxEvents : U64}
    (hstart : startedRun h.scheduler c = some (targetCycle, maxEvents))
    (hclock : h.scheduler.currentCycle ≤ targetCycle)
    (hleast : ∀ t ∈ runs, targetCycle ≤ t) (hin : ∀ m ∈ callsOf inRun runs c h, InTime m) :
    Ends (loop targetCycle maxEvents) h (fun _ => Steady runs) Forward := by
  have hinside : ∀ m ∈ inRun (targetCycle :: runs) targetCycle maxEvents h, InTime m := by
    intro m hm
    apply hin m
    unfold callsOf
    rw [hstart]
    exact List.mem_cons_of_mem _ hm
  have hsteady : Steady (targetCycle :: runs) h :=
    ⟨hs.forward, hs.byTarget, hs.alive, List.forall_mem_cons.mpr ⟨hclock, hs.runs⟩⟩
  exact (hloop runs targetCycle maxEvents h hsteady hleast hinside).mono
    (fun _ _ hs' => hs'.tail) fun _ hs' => hs'

/-- A run whose calls are in time keeps the host steady. -/
theorem checkedRun_steady (hloop : KeepsSteady loop inRun) (hs : Steady runs h)
    (targetCycle : Cycle) (maxEvents : U64)
    (hin : ∀ m ∈ callsOf inRun runs (.runUntil targetCycle maxEvents) h, InTime m) :
    Ends (checkedRun loop targetCycle maxEvents) h (fun _ => Steady runs) Forward := by
  unfold checkedRun
  simp only [ends_bind, ends_get]
  split_ifs with hpast
  · exact hs
  · have hstart : startedRun h.scheduler (.runUntil targetCycle maxEvents : SchedulerCall κ σ) =
        some (targetCycle, maxEvents) := if_neg hpast
    have hself := hin _ List.mem_cons_self
    rw [ends_bind]
    exact started_steady hloop hs hstart (BitVec.not_lt.mp hpast) (hself _ hstart) hin

/-- A step whose calls are in time keeps the host steady. -/
theorem checkedStep_steady (hloop : KeepsSteady loop inRun) (hs : Steady runs h)
    (delta : Cycle) (maxEvents : U64)
    (hin : ∀ m ∈ callsOf inRun runs (.stepCycles delta maxEvents) h, InTime m) :
    Ends (checkedStep loop delta maxEvents) h (fun _ => Steady runs) Forward := by
  unfold checkedStep
  simp only [ends_bind, ends_get]
  cases hadd : checkedAdd h.scheduler.currentCycle delta with
  | none => exact hs
  | some targetCycle =>
    have hclock := le_of_checkedAdd hadd
    have hstart : startedRun h.scheduler (.stepCycles delta maxEvents : SchedulerCall κ σ) =
        some (targetCycle, maxEvents) := by
      simp [startedRun, hadd]
    have hself := hin _ List.mem_cons_self
    unfold checkedRun
    simp only [ends_bind, ends_get]
    rw [if_neg (BitVec.not_lt.mpr hclock), ends_bind]
    exact started_steady hloop hs hstart hclock (hself _ hstart) hin

/-- Every call made in time keeps the clock behind, if the runs it starts do. -/
theorem answer_steady (hloop : KeepsSteady loop inRun) (hs : Steady runs h)
    (c : SchedulerCall κ σ) (hin : ∀ m ∈ callsOf inRun runs c h, InTime m) :
    Ends (answer loop c) h (fun _ => Steady runs) Forward := by
  cases c with
  | advanceCycles delta => exact advanceCycles_steady hs (hin _ List.mem_cons_self)
  | scheduleEvent targetCycle callback => exact scheduleEvent_steady hs targetCycle callback
  | scheduleRelative deltaCycles callback => exact scheduleRelative_steady hs deltaCycles callback
  | cancelEvent id => exact cancelEvent_steady hs id
  | runUntil targetCycle maxEvents => exact checkedRun_steady hloop hs targetCycle maxEvents hin
  | stepCycles delta maxEvents => exact checkedStep_steady hloop hs delta maxEvents hin
  | currentCycle => exact hs
  | pendingEventCount => exact hs
  | outside change => exact ⟨hs.forward, hs.byTarget, hs.alive, hs.runs⟩

/-- A callback whose calls are made in time, by a loop that keeps the clock behind. -/
theorem callBack_steady (behave : κ → Cycle → Callback κ σ) (hloop : KeepsSteady loop inRun)
    (top : Event κ) (hs : Steady runs h)
    (hin : ∀ m ∈ callsInCallback behave loop (callsOf inRun runs) top h, InTime m) :
    Ends (callBack behave loop top) h (fun _ => Steady runs) Forward := by
  unfold callsInCallback at hin
  unfold callBack
  cases hname : top.callback with
  | none => exact hs
  | some name =>
    rw [hname] at hin
    refine Program.ends_of_notes (fun _ hs' => hs'.forward) ?_ _ hs hin
    intro c h' hs' hin'
    exact answer_steady hloop hs' c hin'

end Calls

/-! ## Runs -/

section Turns

variable {runs : List Cycle} {targetCycle : Cycle} {h : Host κ σ}

/-- The end of a run, where no event is left that is due. -/
theorem finishRun_steady (hs : Steady (targetCycle :: runs) h) (hleast : ∀ t ∈ runs, targetCycle ≤ t)
    (htop : ∀ top rest, h.scheduler.eventQueue = top :: rest →
      top.id ∉ h.scheduler.canceledIds ∧ top.targetCycle > targetCycle)
    (maxEvents eventsFired : U64) :
    Ends (finishRun targetCycle maxEvents eventsFired) h
      (fun _ => Steady (targetCycle :: runs)) Forward := by
  unfold Ends
  rw [finishRun_eq htop]
  refine ⟨hs.forward.unseen (hs.runs _ List.mem_cons_self) rfl, hs.byTarget, ?_,
    List.forall_mem_cons.mpr ⟨BitVec.le_refl _, hleast⟩⟩
  intro ev hev
  have hmem : ev ∈ h.scheduler.eventQueue := aliveEvents_subset _ _ ev hev
  change targetCycle ≤ ev.targetCycle
  cases hq : h.scheduler.eventQueue with
  | nil =>
    rw [hq] at hmem
    cases hmem
  | cons top rest =>
    have hlate := BitVec.le_of_lt (htop top rest hq).2
    have hsorted := hs.byTarget
    rw [hq] at hmem hsorted
    rcases List.mem_cons.mp hmem with rfl | hmem
    · exact hlate
    · exact BitVec.le_trans hlate ((List.pairwise_cons.mp hsorted).1 ev hmem)

variable {top : Event κ} {rest : List (Event κ)}

/-- A canceled entry dropped. -/
theorem Steady.dropped (hs : Steady runs h) (hq : h.scheduler.eventQueue = top :: rest)
    (hcanceled : top.id ∈ h.scheduler.canceledIds) :
    Steady runs (h.record (.dropped top.id) (h.scheduler.dropCanceled top.id rest)) := by
  have hsorted := hs.byTarget
  have halive := hs.alive
  rw [hq] at hsorted halive
  unfold aliveEvents at halive
  rw [if_pos hcanceled] at halive
  exact ⟨hs.forward.unseen (BitVec.le_refl _) rfl, (List.pairwise_cons.mp hsorted).2, halive,
    hs.runs⟩

/-- An event that is due taken to be fired: it is live, so it is not behind the clock. -/
theorem Steady.fired (hs : Steady (targetCycle :: runs) h)
    (hq : h.scheduler.eventQueue = top :: rest) (hlive : top.id ∉ h.scheduler.canceledIds)
    (hdue : ¬ top.targetCycle > targetCycle) (hleast : ∀ t ∈ runs, targetCycle ≤ t) :
    Steady (targetCycle :: runs)
      (h.record (.fired top) (h.scheduler.takeEvent top rest)) := by
  have hsorted := hs.byTarget
  have halive := hs.alive
  rw [hq] at hsorted halive
  unfold aliveEvents at halive
  rw [if_neg hlive, List.forall_mem_cons] at halive
  have htarget : top.targetCycle ≤ targetCycle := BitVec.not_lt.mp hdue
  refine ⟨hs.forward.record halive.1 ?_, (List.pairwise_cons.mp hsorted).2, ?_, ?_⟩
  · intro c hc
    rw [List.mem_singleton.mp hc]
    exact ⟨halive.1, BitVec.le_refl _⟩
  · intro ev hev
    exact (List.pairwise_cons.mp hsorted).1 ev (aliveEvents_subset _ _ ev hev)
  · exact List.forall_mem_cons.mpr ⟨htarget, fun t ht => BitVec.le_trans htarget (hleast t ht)⟩

end Turns

/-- The loop keeps the clock behind, turn by turn: the calls of a callback are made in runs
that have fewer turns. -/
theorem runLoop_steady (behave : κ → Cycle → Callback κ σ) (turns : ℕ) (eventsFired : U64) :
    KeepsSteady (runLoop behave turns eventsFired)
      (fun runs => callsInRun behave turns runs eventsFired) := by
  induction turns generalizing eventsFired with
  | zero =>
    intro runs targetCycle maxEvents h hs _ _
    exact hs.forward
  | succ turns ih =>
    intro runs targetCycle maxEvents h hs hleast hin
    unfold runLoop
    simp only [ends_bind, ends_get]
    dsimp only at hin
    unfold callsInRun at hin
    cases hq : h.scheduler.eventQueue with
    | nil =>
      refine finishRun_steady hs hleast ?_ maxEvents eventsFired
      intro top rest htop
      rw [hq] at htop
      cases htop
    | cons top rest =>
      rw [hq] at hin
      dsimp only at hin ⊢
      split_ifs at hin ⊢ with hcanceled hlate hlimit
      · rw [ends_bind, ends_set]
        exact ih eventsFired runs targetCycle maxEvents _ (hs.dropped hq hcanceled) hleast hin
      · refine finishRun_steady hs hleast ?_ maxEvents eventsFired
        intro top' rest' htop
        rw [hq] at htop
        cases htop
        exact ⟨hcanceled, hlate⟩
      · exact hs
      · rw [ends_bind, ends_set, ends_bind]
        rw [List.forall_mem_append] at hin
        obtain ⟨hcalls, hnext⟩ := hin
        have hfired := hs.fired hq hcanceled hlate hleast
        have hcall := callBack_steady behave (ih 0) top hfired hcalls
        unfold Ends at hcall ⊢
        cases hrun : (callBack behave (runLoop behave turns 0) top).run
            (h.record (.fired top) (h.scheduler.takeEvent top rest)) with
        | error e h' =>
          rw [hrun] at hcall
          exact hcall
        | ok a h' =>
          rw [hrun] at hcall hnext
          exact ih (eventsFired + 1) runs targetCycle maxEvents h' hcall hleast hnext

/-- Calls that are in time move the clock forward. -/
theorem makeCalls_steady (behave : κ → Cycle → Callback κ σ) (turns : ℕ)
    (calls : List (SchedulerCall κ σ)) (h : Host κ σ) (hs : Steady [] h)
    (hin : ∀ m ∈ callsMade behave turns calls h, InTime m) :
    Ends (makeCalls behave turns calls) h (fun _ => Forward) Forward := by
  induction calls generalizing h with
  | nil => exact hs.forward
  | cons c cs ih =>
    unfold callsMade at hin
    rw [List.forall_mem_append] at hin
    have hcall := answer_steady (runLoop_steady behave turns 0) hs c hin.1
    have hrest := hin.2
    unfold makeCalls
    rw [ends_bind]
    unfold Ends at hcall ⊢
    cases hrun : (Host.call behave turns c).run h with
    | error e h' =>
      rw [show (answer (runLoop behave turns 0) c).run h = _ from hrun] at hcall
      exact hcall
    | ok a h' =>
      rw [show (answer (runLoop behave turns 0) c).run h = _ from hrun] at hcall
      rw [hrun] at hrest
      exact ih h' hcall hrest

/-- **The clock never goes back in a run in which every call is made in time**, whatever
calls the host and the callbacks make. -/
theorem clock_monotone (behave : κ → Cycle → Callback κ σ) (turns : ℕ) (initialCycle : Cycle)
    (world : σ) (calls : List (SchedulerCall κ σ))
    (hin : ∀ m ∈ callsMade behave turns calls (freshHost initialCycle world), InTime m) :
    (cyclesSeen (hostAfter behave turns initialCycle world calls)).Pairwise (· ≥ ·) := by
  have hfresh : Steady [] (freshHost initialCycle world : Host κ σ) :=
    ⟨List.pairwise_singleton _ _, List.Pairwise.nil, nofun, nofun⟩
  exact (makeCalls_steady behave turns calls _ hfresh hin).stateAfter

/-- Callbacks that do nothing. -/
def idleCallbacks : Unit → Cycle → Callback Unit Unit := fun _ _ => .done ()

/-- Callbacks that move the clock by two cycles and run what is due in the two after them. -/
def busyCallbacks : Unit → Cycle → Callback Unit Unit := fun _ cycle =>
  .ask (.advanceCycles 2) fun _ => .ask (.runUntil (cycle + 4) 8) fun _ => .done ()

/-- The clock is moved towards an event, and the event moves it further: no call passes an
event still to happen or the target of a run. -/
theorem clock_monotone_run :
    firedEvents (hostAfter busyCallbacks 3 0 () [.scheduleEvent 5 (some ()), .advanceCycles 3,
      .runUntil 20 8]) = [{ id := 1, targetCycle := 5, sequence := 0, callback := some () }] ∧
    (cyclesSeen (hostAfter busyCallbacks 3 0 () [.scheduleEvent 5 (some ()), .advanceCycles 3,
      .runUntil 20 8])).Pairwise (· ≥ ·) := by
  refine ⟨by decide +kernel, ?_⟩
  apply clock_monotone
  have hall : ((callsMade busyCallbacks 3 [.scheduleEvent 5 (some ()), .advanceCycles 3,
      .runUntil 20 8] (freshHost 0 ())).all fun m => decide (InTime m)) = true := by
    decide +kernel
  intro m hm
  exact of_decide_eq_true (List.all_eq_true.mp hall m hm)

/-- The clock is moved past an event, and running the event moves it back: the callback is
called with cycle 5 when the clock has shown 10. -/
theorem clock_moves_back :
    cyclesSeen (hostAfter idleCallbacks 3 0 () [.scheduleEvent 5 (some ()), .advanceCycles 10,
      .runUntil 20 8]) = [20, 5, 5, 10, 0, 0] ∧
    ¬ (cyclesSeen (hostAfter idleCallbacks 3 0 () [.scheduleEvent 5 (some ()), .advanceCycles 10,
      .runUntil 20 8])).Pairwise (· ≥ ·) := by
  constructor
  · decide +kernel
  · decide +kernel

end Xblob.Analysis
