import Xblob.Analysis.ThreadSteps

/-!
# Suspended threads

Under `HonoursSuspension` no queued thread is suspended, and so no switch goes to a suspended
one.  Without it a blocked thread that was suspended is woken into the queue.
-/

set_option autoImplicit false

namespace Xblob.Analysis

open Xblob.Kernel Xblob.Kernel.ThreadScheduler Xblob.Processor Xblob.Interface Xblob.Computation

variable {s : ThreadScheduler} {tid : ThreadId}

/-- No queued thread is suspended. -/
def QueuedAwake (s : ThreadScheduler) : Prop :=
  ∀ tid t, s.getThread tid = some t → tid ∈ s.readyQueue → t.suspendCount = 0

/-- The suspend count is a part that scheduling leaves. -/
theorem stable_suspendCount : Stable GuestThread.suspendCount := fun _ _ _ _ _ _ _ _ _ => rfl

/-- Queued threads stay awake where the counts are kept and only such are queued. -/
theorem QueuedAwake.of_retains {s s' : ThreadScheduler} (h : QueuedAwake s)
    (hretains : Retains GuestThread.suspendCount s s')
    (hqueue : ∀ tid t, tid ∈ s'.readyQueue → s.getThread tid = some t →
      tid ∈ s.readyQueue ∨ t.suspendCount = 0) : QueuedAwake s' := by
  intro tid t' hget hmem
  obtain ⟨t, hget', heq⟩ := hretains.before hget
  rw [← heq]
  rcases hqueue tid t hmem hget' with hold | hzero
  · exact h tid t hget' hold
  · exact hzero

/-- Scheduling takes ids out of the queue only, and the one switched to was queued. -/
theorem mem_of_mem_scheduleNext {ctx : CpuContext} (hmem : tid ∈ (s.scheduleNext ctx).2.2.readyQueue) :
    tid ∈ s.readyQueue := by
  have hschedules := scheduleNext_schedules s ctx
  revert hschedules hmem
  generalize s.scheduleNext ctx = r
  intro hmem hschedules
  cases hschedules with
  | idle => cases hmem
  | switch dropped hq =>
    rw [hq]
    exact List.mem_append_right _ (List.mem_cons_of_mem _ hmem)

/-- Preparing a switch that honours suspension keeps the queued threads awake. -/
theorem QueuedAwake.prepares (h : QueuedAwake s) {c : ThreadCall} {s₁ : ThreadScheduler}
    {ctx : CpuContext} (hprep : Prepares s c s₁ ctx) (hc : HonoursSuspension s c) :
    QueuedAwake s₁ := by
  apply h.of_retains (stable_suspendCount.prepares hprep)
  intro tid t hmem hget
  cases hprep with
  | alone => exact .inl hmem
  | yielded hget' hrunning =>
    rcases (mem_enqueueReady _ _ _).mp hmem with hmem | rfl
    · exact .inl hmem
    · rw [hget'] at hget
      cases hget
      exact .inr (hc t hget' hrunning)
  | saved => exact .inl hmem
  | blockedOn => exact .inl hmem
  | blocked => exact .inl hmem
  | exited => exact .inl hmem

/-- Waking a thread that is not suspended. -/
theorem QueuedAwake.wakened (h : QueuedAwake s) {t : GuestThread} (hget : s.getThread tid = some t)
    (hzero : t.suspendCount = 0) (waitStatus : U32) :
    QueuedAwake ((s.modifyThread tid (wakened waitStatus)).enqueueReady tid) := by
  apply h.of_retains (stable_suspendCount.wakened tid waitStatus)
  intro tid' t' hmem hget'
  rcases (mem_enqueueReady _ _ _).mp hmem with hmem | rfl
  · exact .inl hmem
  · rw [hget] at hget'
    cases hget'
    exact .inr hzero

/-- A call that honours suspension queues no suspended thread. -/
theorem QueuedAwake.apply (hids : IdsFit s) (h : QueuedAwake s) {c : ThreadCall}
    (hc : HonoursSuspension s c) : QueuedAwake (c.apply s) := by
  have hacts := apply_acts s c
  revert hacts
  generalize hs' : c.apply s = s'
  intro hacts
  cases hacts with
  | unchanged => exact h
  | scheduled hscheduling =>
    have hawake := h.prepares (scheduling_prepares hids hscheduling) hc
    apply hawake.of_retains (stable_suspendCount.scheduleNext _ _)
    intro tid t hmem _
    exact .inl (mem_of_mem_scheduleNext hmem)
  | @first entryPoint stackTop stackBase parameter stackSize allocated hcurrent =>
    intro tid t hget hmem
    rw [← hs', getThread_createThread] at hget
    split_ifs at hget
    · cases hget
      rfl
    · exact h tid t hget hmem
  | @created entryPoint stackTop stackBase parameter stackSize allocated hcurrent =>
    intro tid t hget hmem
    rw [← hs', getThread_createThread] at hget
    split_ifs at hget with htid
    · cases hget
      rfl
    · rcases (mem_enqueueReady _ _ _).mp hmem with hmem | heq
      · exact h tid t hget hmem
      · exact absurd heq.symm htid
  | woken hget hblocked => exact h.wakened hget (hc _ hget hblocked) _
  | @terminated tid exitCode t hget =>
    apply h.of_retains
    · apply Retains.trans (retains_modifyThread _) retains_dequeue
      intro t
      rfl
    · intro tid' t' hmem _
      exact .inl ((mem_dequeue _ _ _).mp hmem).1
  | @suspended tid t hget hready =>
    intro tid' t' hget' hmem
    obtain ⟨hold, hne⟩ := (mem_dequeue _ _ _).mp hmem
    rw [getThread_dequeue, getThread_modifyThread, if_neg hne.symm] at hget'
    exact h tid' t' hget' hold
  | @counted tid t hget hready hterm =>
    intro tid' t' hget' hmem
    have hne : tid ≠ tid' := by
      rintro rfl
      exact (hc t hget).2 hready hmem
    rw [getThread_modifyThread, if_neg hne] at hget'
    exact h tid' t' hget' hmem
  | @resumed tid t hget hlast hsusp =>
    intro tid' t' hget' hmem
    rw [getThread_enqueueReady, getThread_modifyThread] at hget'
    split_ifs at hget' with htid
    · subst htid
      rw [hget] at hget'
      cases hget'
      exact hlast
    · rcases (mem_enqueueReady _ _ _).mp hmem with hmem | heq
      · exact h tid' t' hget' hmem
      · exact absurd heq.symm htid
  | @uncounted tid t hget hcount =>
    intro tid' t' hget' hmem
    have hne : tid ≠ tid' := by
      rintro rfl
      exact hcount (h tid t hget hmem)
    rw [getThread_modifyThread, if_neg hne] at hget'
    exact h tid' t' hget' hmem
  | timeouts currentCycle handles =>
    have hkept := checkTimeouts_invariant currentCycle (s := s)
      (I := fun s => QueuedAwake s ∧ ∀ tid t, s.getThread tid = some t →
        timedOut currentCycle t = true → t.suspendCount = 0) ?_ handles ⟨h, hc⟩
    · exact hkept.1
    · rintro s tid t ⟨hawake, hzero⟩ hget hout
      refine ⟨hawake.wakened hget (hzero tid t hget hout) _, ?_⟩
      intro tid' t' hget' hout'
      rw [getThread_enqueueReady, getThread_modifyThread] at hget'
      split_ifs at hget' with htid
      · subst htid
        rw [hget] at hget'
        cases hget'
        cases hout'
      · exact hzero tid' t' hget' hout'

/-- A count with room does not wrap to zero. -/
theorem succ_ne_zero {count : U32} (h : count ≠ 0xFFFFFFFF) : count + 1 ≠ 0 := by
  intro hzero
  apply h
  bv_omega

/-- Only `ResumeThread` brings a count above zero back to zero. -/
theorem resumed_of_zero (hids : IdsFit s) {c : ThreadCall} (hc : HonoursSuspension s c)
    {t t' : GuestThread} (hget : s.getThread tid = some t) (hcount : t.suspendCount ≠ 0)
    (hget' : (c.apply s).getThread tid = some t') (hzero : t'.suspendCount = 0) :
    c = .resumeThread tid := by
  have hkept : Retains GuestThread.suspendCount s (c.apply s) → c = .resumeThread tid := by
    intro hretains
    obtain ⟨t'', hget'', heq⟩ := hretains.before hget'
    rw [hget] at hget''
    cases hget''
    exact absurd (heq.trans hzero) hcount
  have hacts := apply_acts s c
  revert hacts hkept hget'
  generalize hs' : c.apply s = s'
  intro hget' hkept hacts
  cases hacts with
  | unchanged => exact hkept (Retains.refl s)
  | scheduled hscheduling =>
    apply hkept
    exact (stable_suspendCount.prepares (scheduling_prepares hids hscheduling)).trans
      (stable_suspendCount.scheduleNext _ _)
  | @first entryPoint stackTop stackBase parameter stackSize allocated hcurrent =>
    rw [← hs', getThread_createThread] at hget'
    split_ifs at hget' with htid
    · subst htid
      rw [hc] at hget
      cases hget
    · rw [hget] at hget'
      cases hget'
      exact absurd hzero hcount
  | @created entryPoint stackTop stackBase parameter stackSize allocated hcurrent =>
    rw [← hs', getThread_createThread] at hget'
    split_ifs at hget' with htid
    · subst htid
      rw [hc] at hget
      cases hget
    · rw [hget] at hget'
      cases hget'
      exact absurd hzero hcount
  | woken => exact hkept (stable_suspendCount.wakened _ _)
  | terminated => exact hkept (retains_modifyThread fun _ => rfl)
  | suspended =>
    rcases modifyThread_cases hget hget' with ⟨rfl, rfl⟩ | ⟨-, rfl⟩
    · exact absurd hzero (succ_ne_zero (hc t hget).1)
    · exact absurd hzero hcount
  | counted =>
    rcases modifyThread_cases hget hget' with ⟨rfl, rfl⟩ | ⟨-, rfl⟩
    · exact absurd hzero (succ_ne_zero (hc t hget).1)
    · exact absurd hzero hcount
  | resumed =>
    rw [getThread_enqueueReady] at hget'
    rcases modifyThread_cases hget hget' with ⟨rfl, -⟩ | ⟨-, rfl⟩
    · rfl
    · exact absurd hzero hcount
  | uncounted =>
    rcases modifyThread_cases hget hget' with ⟨rfl, -⟩ | ⟨-, rfl⟩
    · rfl
    · exact absurd hzero hcount
  | timeouts currentCycle handles => exact hkept (stable_suspendCount.checkTimeouts s _ handles)

/-- A switch goes to a thread of the queue. -/
theorem switchesTo_mem {c : ThreadCall} {s₁ : ThreadScheduler} {ctx : CpuContext}
    (hscheduling : c.scheduling s = some (s₁, ctx)) (hswitch : c.switchesTo s = some tid) :
    tid ∈ s₁.readyQueue := by
  unfold ThreadCall.switchesTo at hswitch
  rw [hscheduling] at hswitch
  dsimp only at hswitch
  have hschedules := scheduleNext_schedules s₁ ctx
  revert hschedules hswitch
  generalize s₁.scheduleNext ctx = r
  intro hswitch hschedules
  cases hschedules with
  | idle => cases hswitch
  | switch dropped hq =>
    cases hswitch
    rw [hq]
    exact List.mem_append_right _ List.mem_cons_self

/-- A call that honours suspension respects suspended threads, where none is queued. -/
theorem QueuedAwake.respects (hids : IdsFit s) (h : QueuedAwake s) {c : ThreadCall}
    (hc : HonoursSuspension s c) : RespectsSuspended s c := by
  refine ⟨?_, ?_⟩
  · intro tid t hswitch hget
    cases hscheduling : c.scheduling s with
    | none =>
      unfold ThreadCall.switchesTo at hswitch
      rw [hscheduling] at hswitch
      cases hswitch
    | some p =>
      obtain ⟨s₁, ctx⟩ := p
      have hprep := scheduling_prepares hids hscheduling
      have hafter : c.apply s = (s₁.scheduleNext ctx).2.2 := apply_scheduling hscheduling
      rw [hafter] at hget
      obtain ⟨t₁, hget₁, heq⟩ := (stable_suspendCount.scheduleNext s₁ ctx).before hget
      rw [← heq]
      exact h.prepares hprep hc tid t₁ hget₁ (switchesTo_mem hscheduling hswitch)
  · intro tid t t' hget hcount hget' hzero
    exact resumed_of_zero hids hc hget hcount hget' hzero

/-- In every run whose calls all honour suspension, no suspended thread is queued, the
current one aside, and the next such call switches to none and ends no suspension but by
`ResumeThread`. -/
theorem suspended_threads_wait (cs : List ThreadCall) (s : ThreadScheduler)
    (hruns : Runs (fun s c => c.apply s) HonoursSuspension cs {} s) :
    SuspendedAside s ∧ ∀ c, HonoursSuspension s c → RespectsSuspended s c := by
  have hinv := hruns.invariant (I := fun s => IdsFit s ∧ QueuedAwake s) ?_ ?_
  · obtain ⟨hids, hawake⟩ := hinv
    refine ⟨?_, ?_⟩
    · intro tid t hget hcount _ hmem
      exact hcount (hawake tid t hget hmem)
    · intro c hc
      exact hawake.respects hids hc
  · rintro s c ⟨hids, hawake⟩ hc
    exact ⟨hids.apply c, hawake.apply hids hc⟩
  · refine ⟨?_, ?_⟩
    · intro tid t hget
      cases hget
    · intro tid t hget
      cases hget

/-- A second thread is suspended and passed over by a yield. -/
theorem suspended_threads_wait_yield :
    SuspendedAside ([.createThread 0x1000 0x8000 0 0x7000 0x1000 true,
      .createThread 0x2000 0x9000 0 0x8000 0x1000 true, .suspendThread 2,
      .yield {}].foldl (fun s c => ThreadCall.apply s c) {}) := by
  apply And.left
  apply suspended_threads_wait [.createThread 0x1000 0x8000 0 0x7000 0x1000 true,
    .createThread 0x2000 0x9000 0 0x8000 0x1000 true, .suspendThread 2, .yield {}]
  refine .cons rfl (.cons rfl (.cons ?_ (.cons ?_ (.nil _))))
  · intro t hget
    cases hget
    refine ⟨by decide, ?_⟩
    intro hready
    exact absurd rfl hready
  · intro t hget _
    cases hget
    rfl

/-- A blocked thread that is suspended and then woken is queued. -/
theorem suspended_thread_queued :
    ¬ (SuspendedAside ([.createThread 0x1000 0x8000 0 0x7000 0x1000 true,
        .createThread 0x2000 0x9000 0 0x8000 0x1000 true, .blockCurrent 0x10000 {},
        .suspendThread 1, .wake 1 0].foldl (fun s c => ThreadCall.apply s c) {})) := by
  intro haside
  generalize hs : [ThreadCall.createThread 0x1000 0x8000 0 0x7000 0x1000 true,
        .createThread 0x2000 0x9000 0 0x8000 0x1000 true, .blockCurrent 0x10000 {},
        .suspendThread 1, .wake 1 0].foldl (fun s c => ThreadCall.apply s c) {} = s at haside
  have hcount : (s.getThread 1).map GuestThread.suspendCount = some 1 := by
    rw [← hs]
    decide
  have hqueue : 1 ∈ s.readyQueue ∧ s.currentTid = 2 := by
    rw [← hs]
    decide
  obtain ⟨t, hget, hone⟩ := Option.map_eq_some_iff.mp hcount
  apply haside 1 t hget _ _ hqueue.1
  · rw [hone]
    decide
  · rw [hqueue.2]
    decide

end Xblob.Analysis
