import Xblob.Analysis.ThreadSteps

/-!
# The ready queue

Under `KeepsQueue` the queue lists the ready threads, each once, and only the current thread
runs.  The current thread may be ready, and then queued, when it blocked with nobody to
switch to and was woken since: if it blocks again behind others it stays queued.
-/

set_option autoImplicit false

namespace Xblob.Analysis

open Xblob.Kernel Xblob.Kernel.ThreadScheduler Xblob.Processor Xblob.Interface Xblob.Computation

variable {s : ThreadScheduler} {tid : ThreadId}

/-- The queue is lawful; no thread has the invalid id; there are no threads as long as none
is current. -/
structure QueueKept (s : ThreadScheduler) : Prop extends QueueLawful s where
  valid : ∀ tid t, s.getThread tid = some t → tid ≠ kInvalidThreadId
  empty : s.currentTid = kInvalidThreadId → ∀ tid, s.getThread tid = none

/-- What a call that schedules leaves to `ScheduleNext`: ready threads are queued, behind the
head all queued threads are ready, and no thread runs. -/
structure Switchable (s : ThreadScheduler) : Prop where
  nodup : s.readyQueue.Nodup
  queued : ∀ tid t, s.getThread tid = some t → t.state = .ready → tid ∈ s.readyQueue
  ready : ∀ tid ∈ s.readyQueue.tail, ∃ t, s.getThread tid = some t ∧ t.state = .ready
  stopped : ∀ tid t, s.getThread tid = some t → t.state ≠ .running

/-- Queueing a thread does not queue it twice. -/
theorem nodup_enqueueReady (h : s.readyQueue.Nodup) (tid : ThreadId) :
    (s.enqueueReady tid).readyQueue.Nodup := by
  unfold enqueueReady
  split_ifs with hmem
  · exact h
  · rw [List.nodup_append]
    refine ⟨h, List.pairwise_singleton _ tid, ?_⟩
    intro a ha b hb heq
    rw [List.mem_singleton.mp hb] at heq
    rw [heq] at ha
    exact hmem (List.contains_iff_mem.mpr ha)

/-- A thread behind the next one is behind the head. -/
theorem mem_tail_of_append {dropped rest : List ThreadId} {next : ThreadId} (h : tid ∈ rest) :
    tid ∈ (dropped ++ next :: rest).tail := by
  cases dropped with
  | nil => exact h
  | cons a dropped => exact List.mem_append_right _ (List.mem_cons_of_mem _ h)

/-- Scheduling makes the queue lawful. -/
theorem Switchable.scheduleNext (h : Switchable s) (ctx : CpuContext) :
    QueueLawful (s.scheduleNext ctx).2.2 := by
  have hschedules := scheduleNext_schedules s ctx
  revert hschedules
  generalize s.scheduleNext ctx = r
  intro hschedules
  cases hschedules with
  | idle hskip =>
    refine ⟨List.nodup_nil, ?_, ?_⟩
    · intro tid
      constructor
      · intro hmem
        cases hmem
      · rintro ⟨t, hget, hready⟩
        rcases hskip tid (h.queued tid t hget hready) t hget with hterm | hsusp
        · rw [hready] at hterm
          cases hterm
        · rw [hready] at hsusp
          cases hsusp
    · intro tid t hget hrunning
      exact absurd hrunning (h.stopped tid t hget)
  | @switch dropped rest next t hq hskip hnext hterm hsusp =>
    have hnodup := h.nodup
    rw [hq, List.nodup_append] at hnodup
    obtain ⟨-, hnodup, -⟩ := hnodup
    obtain ⟨hnot, hrest⟩ := List.nodup_cons.mp hnodup
    refine ⟨hrest, ?_, ?_⟩
    · intro tid
      rw [getThread_switched]
      constructor
      · intro hmem
        have hne : next ≠ tid := by
          rintro rfl
          exact hnot hmem
        rw [if_neg hne]
        apply h.ready
        rw [hq]
        exact mem_tail_of_append hmem
      · rintro ⟨t', hget, hready⟩
        split_ifs at hget with htid
        · obtain ⟨t'', -, rfl⟩ := Option.map_eq_some_iff.mp hget
          cases hready
        · have hmem := h.queued tid t' hget hready
          rw [hq] at hmem
          rcases List.mem_append.mp hmem with hdropped | hmem
          · rcases hskip tid hdropped t' hget with hterm | hsusp
            · rw [hready] at hterm
              cases hterm
            · rw [hready] at hsusp
              cases hsusp
          · rcases List.mem_cons.mp hmem with heq | hmem
            · exact absurd heq.symm htid
            · exact hmem
    · intro tid t' hget hrunning
      rw [getThread_switched] at hget
      split_ifs at hget with htid
      · exact htid.symm
      · exact absurd hrunning (h.stopped tid t' hget)

/-- A lawful queue with no thread running is switchable. -/
theorem switchable_of_lawful (h : QueueLawful s)
    (hstopped : ∀ tid t, s.getThread tid = some t → t.state ≠ .running) : Switchable s := by
  refine ⟨h.nodup, ?_, ?_, hstopped⟩
  · intro tid t hget hready
    exact (h.ready tid).mpr ⟨t, hget, hready⟩
  · intro tid hmem
    exact (h.ready tid).mp (List.mem_of_mem_tail hmem)

/-- A change of threads that keeps their states. -/
theorem QueueKept.of_retains {s s' : ThreadScheduler} (h : QueueKept s)
    (hretains : Retains GuestThread.state s s') (hqueue : s'.readyQueue = s.readyQueue)
    (hcurrent : s'.currentTid = s.currentTid) : QueueKept s' := by
  refine ⟨⟨?_, ?_, ?_⟩, ?_, ?_⟩
  · rw [hqueue]
    exact h.nodup
  · intro tid
    rw [hqueue, h.ready]
    have hstates : ∀ s : ThreadScheduler, (∃ t, s.getThread tid = some t ∧ t.state = .ready) ↔
        (s.getThread tid).map GuestThread.state = some .ready :=
      fun s => Option.map_eq_some_iff.symm
    rw [hstates, hstates, hretains tid]
  · intro tid t hget hrunning
    obtain ⟨t', hget', heq⟩ := hretains.before hget
    rw [hcurrent]
    exact h.running tid t' hget' (heq.trans hrunning)
  · intro tid t hget
    obtain ⟨t', hget', -⟩ := hretains.before hget
    exact h.valid tid t' hget'
  · intro hnone tid
    rw [hcurrent] at hnone
    have hmap := hretains tid
    rw [h.empty hnone tid] at hmap
    exact Option.map_eq_none_iff.mp hmap

/-- A thread made ready and queued. -/
theorem QueueKept.readied (h : QueueKept s) {t : GuestThread} {f : GuestThread → GuestThread}
    (hget : s.getThread tid = some t) (hready : ∀ t, (f t).state = .ready) :
    QueueKept ((s.modifyThread tid f).enqueueReady tid) := by
  refine ⟨⟨?_, ?_, ?_⟩, ?_, ?_⟩
  · apply nodup_enqueueReady
    exact h.nodup
  · intro tid'
    rw [mem_enqueueReady, modifyThread_readyQueue, h.ready, getThread_enqueueReady,
      getThread_modifyThread]
    by_cases htid : tid = tid'
    · subst htid
      rw [if_pos rfl, hget]
      exact ⟨fun _ => ⟨f t, rfl, hready t⟩, fun _ => .inr rfl⟩
    · rw [if_neg htid]
      constructor
      · rintro (hold | heq)
        · exact hold
        · exact absurd heq.symm htid
      · exact Or.inl
  · intro tid' t' hget' hrunning
    rw [getThread_enqueueReady] at hget'
    rw [enqueueReady_currentTid]
    rw [getThread_modifyThread] at hget'
    split_ifs at hget' with htid
    · obtain ⟨t'', -, rfl⟩ := Option.map_eq_some_iff.mp hget'
      rw [hready] at hrunning
      cases hrunning
    · exact h.running tid' t' hget' hrunning
  · intro tid' t' hget'
    rw [getThread_enqueueReady, getThread_modifyThread] at hget'
    split_ifs at hget' with htid
    · rw [← htid]
      exact h.valid tid t hget
    · exact h.valid tid' t' hget'
  · intro hnone
    rw [enqueueReady_currentTid] at hnone
    rw [h.empty hnone tid] at hget
    cases hget

/-- A thread put aside and taken out of the queue. -/
theorem QueueKept.aside (h : QueueKept s) {t : GuestThread} {f : GuestThread → GuestThread}
    (hget : s.getThread tid = some t)
    (hstate : ∀ t, (f t).state ≠ .ready ∧ (f t).state ≠ .running) :
    QueueKept ((s.modifyThread tid f).dequeue tid) := by
  refine ⟨⟨h.nodup.filter _, ?_, ?_⟩, ?_, ?_⟩
  · intro tid'
    rw [mem_dequeue, modifyThread_readyQueue, h.ready, getThread_dequeue, getThread_modifyThread]
    by_cases htid : tid = tid'
    · subst htid
      rw [if_pos rfl, hget]
      constructor
      · rintro ⟨-, hne⟩
        exact absurd rfl hne
      · rintro ⟨t', heq, hready⟩
        cases heq
        exact absurd hready (hstate t).1
    · rw [if_neg htid]
      exact ⟨fun hold => hold.1, fun hold => ⟨hold, Ne.symm htid⟩⟩
  · intro tid' t' hget' hrunning
    rw [getThread_dequeue, getThread_modifyThread] at hget'
    split_ifs at hget' with htid
    · obtain ⟨t'', -, rfl⟩ := Option.map_eq_some_iff.mp hget'
      exact absurd hrunning (hstate t'').2
    · exact h.running tid' t' hget' hrunning
  · intro tid' t' hget'
    rw [getThread_dequeue, getThread_modifyThread] at hget'
    split_ifs at hget' with htid
    · rw [← htid]
      exact h.valid tid t hget
    · exact h.valid tid' t' hget'
  · intro hnone
    rw [dequeue_currentTid] at hnone
    rw [h.empty hnone tid] at hget
    cases hget

/-- The current thread leaves the processor, not being queued behind others. -/
theorem QueueKept.leave (h : QueueKept s) {t : GuestThread} {f : GuestThread → GuestThread}
    (hget : s.getThread s.currentTid = some t) (hready : (f t).state ≠ .ready)
    (hrunning : (f t).state ≠ .running) (htail : s.currentTid ∉ s.readyQueue.tail) :
    Switchable (s.modifyThread s.currentTid f) := by
  refine ⟨h.nodup, ?_, ?_, ?_⟩
  · intro tid t' hget' hready'
    rw [getThread_modifyThread] at hget'
    split_ifs at hget' with htid
    · rw [← htid, hget] at hget'
      cases hget'
      exact absurd hready' hready
    · exact (h.ready tid).mpr ⟨t', hget', hready'⟩
  · intro tid hmem
    have hne : s.currentTid ≠ tid := by
      rintro rfl
      exact htail hmem
    rw [getThread_modifyThread, if_neg hne]
    exact (h.ready tid).mp (List.mem_of_mem_tail hmem)
  · intro tid t' hget' hrunning'
    rw [getThread_modifyThread] at hget'
    split_ifs at hget' with htid
    · rw [← htid, hget] at hget'
      cases hget'
      exact hrunning hrunning'
    · exact htid (h.running tid t' hget' hrunning').symm

/-- A call that keeps the queue comes to `ScheduleNext` with a switchable one. -/
theorem QueueKept.prepares (h : QueueKept s) {c : ThreadCall} (hc : KeepsQueue s c)
    {s₁ : ThreadScheduler} {ctx : CpuContext} (hprep : Prepares s c s₁ ctx) : Switchable s₁ := by
  cases hprep with
  | alone hget =>
    apply switchable_of_lawful h.toQueueLawful
    intro tid t hget' hrunning
    rw [h.running tid t hget' hrunning, hget] at hget'
    cases hget'
  | @yielded _ t hget hrunning =>
    have hkept := h.readied (f := fun t => { t with context := ctx, state := .ready }) hget
      (fun _ => rfl)
    apply switchable_of_lawful hkept.toQueueLawful
    intro tid t' hget' hrunning'
    have htid := hkept.running tid t' hget' hrunning'
    rw [enqueueReady_currentTid, modifyThread_currentTid] at htid
    subst htid
    rw [getThread_enqueueReady, getThread_modifyThread_self hget] at hget'
    cases hget'
    cases hrunning'
  | @saved _ t hget hrunning =>
    have hkept : QueueKept (s.modifyThread s.currentTid fun t => { t with context := ctx }) :=
      h.of_retains (retains_modifyThread fun _ => rfl) rfl rfl
    apply switchable_of_lawful hkept.toQueueLawful
    intro tid t' hget' hrunning'
    have htid := hkept.running tid t' hget' hrunning'
    rw [modifyThread_currentTid] at htid
    subst htid
    rw [getThread_modifyThread_self hget] at hget'
    cases hget'
    exact hrunning hrunning'
  | blockedOn hget =>
    apply h.leave hget _ _ hc
    · intro heq
      cases heq
    · intro heq
      cases heq
  | blocked hget =>
    apply h.leave hget _ _ hc
    · intro heq
      cases heq
    · intro heq
      cases heq
  | exited hget =>
    apply h.leave hget _ _ hc
    · intro heq
      cases heq
    · intro heq
      cases heq

/-- Scheduling from a switchable queue. -/
theorem QueueKept.scheduled (h : QueueKept s) {s₁ : ThreadScheduler} (hswitch : Switchable s₁)
    (hretains : Retains GuestThread.id s s₁) (hcurrent : s₁.currentTid = s.currentTid)
    (ctx : CpuContext) : QueueKept (s₁.scheduleNext ctx).2.2 := by
  have hretains' : Retains GuestThread.id s (s₁.scheduleNext ctx).2.2 :=
    hretains.trans (stable_id.scheduleNext s₁ ctx)
  have hvalid : ∀ tid t, (s₁.scheduleNext ctx).2.2.getThread tid = some t →
      tid ≠ kInvalidThreadId := by
    intro tid t hget
    obtain ⟨t', hget', -⟩ := hretains'.before hget
    exact h.valid tid t' hget'
  refine ⟨hswitch.scheduleNext ctx, hvalid, ?_⟩
  intro hnone tid
  have hold : s.currentTid = kInvalidThreadId := by
    have hschedules := scheduleNext_schedules s₁ ctx
    revert hschedules hnone
    generalize s₁.scheduleNext ctx = r
    intro hnone hschedules
    cases hschedules with
    | idle =>
      rw [← hcurrent]
      exact hnone
    | switch dropped hq hskip hnext hterm hsusp =>
      obtain ⟨t', hget', -⟩ := hretains.before hnext
      exact absurd hnone (h.valid _ t' hget')
  have hmap := hretains' tid
  rw [h.empty hold tid] at hmap
  exact Option.map_eq_none_iff.mp hmap

/-- Preparing a switch leaves the running thread. -/
theorem prepares_currentTid {c : ThreadCall} {s₁ : ThreadScheduler} {ctx : CpuContext}
    (hprep : Prepares s c s₁ ctx) : s₁.currentTid = s.currentTid := by
  cases hprep with
  | yielded =>
    rw [enqueueReady_currentTid]
    rfl
  | alone => rfl
  | saved => rfl
  | blockedOn => rfl
  | blocked => rfl
  | exited => rfl

/-- The first thread runs. -/
theorem QueueKept.first (h : QueueKept s) (hcurrent : s.currentTid = kInvalidThreadId)
    (htid : s.nextTid ≠ kInvalidThreadId) {s' : ThreadScheduler} (new : GuestThread)
    (hnew : new.state = .running)
    (hget : ∀ tid, s'.getThread tid = if s.nextTid = tid then some new else s.getThread tid)
    (hqueue : s'.readyQueue = s.readyQueue) (hcurrent' : s'.currentTid = s.nextTid) :
    QueueKept s' := by
  have hnone := h.empty hcurrent
  refine ⟨⟨?_, ?_, ?_⟩, ?_, ?_⟩
  · rw [hqueue]
    exact h.nodup
  · intro tid
    rw [hqueue, h.ready, hget, hnone]
    constructor
    · rintro ⟨t, heq, -⟩
      cases heq
    · rintro ⟨t, heq, hready⟩
      split_ifs at heq
      cases heq
      rw [hnew] at hready
      cases hready
  · intro tid t hget' hrunning
    rw [hget, hnone] at hget'
    split_ifs at hget' with heq
    rw [hcurrent']
    exact heq.symm
  · intro tid t hget'
    rw [hget, hnone] at hget'
    split_ifs at hget' with heq
    rw [← heq]
    exact htid
  · intro hinvalid
    rw [hcurrent'] at hinvalid
    exact absurd hinvalid htid

/-- A new thread is ready and queued. -/
theorem QueueKept.created (h : QueueKept s) (htid : s.nextTid ≠ kInvalidThreadId)
    (hcurrent : s.currentTid ≠ kInvalidThreadId) {s' : ThreadScheduler} (new : GuestThread)
    (hnew : new.state = .ready)
    (hget : ∀ tid, s'.getThread tid = if s.nextTid = tid then some new else s.getThread tid)
    (hqueue : s'.readyQueue = (s.enqueueReady s.nextTid).readyQueue)
    (hcurrent' : s'.currentTid = s.currentTid) : QueueKept s' := by
  refine ⟨⟨?_, ?_, ?_⟩, ?_, ?_⟩
  · rw [hqueue]
    exact nodup_enqueueReady h.nodup _
  · intro tid
    rw [hqueue, mem_enqueueReady, h.ready, hget]
    by_cases heq : s.nextTid = tid
    · rw [if_pos heq]
      exact ⟨fun _ => ⟨new, rfl, hnew⟩, fun _ => .inr heq.symm⟩
    · rw [if_neg heq]
      constructor
      · rintro (hold | heq')
        · exact hold
        · exact absurd heq'.symm heq
      · exact Or.inl
  · intro tid t hget' hrunning
    rw [hget] at hget'
    split_ifs at hget'
    · cases hget'
      rw [hnew] at hrunning
      cases hrunning
    · rw [hcurrent']
      exact h.running tid t hget' hrunning
  · intro tid t hget'
    rw [hget] at hget'
    split_ifs at hget' with heq
    · rw [← heq]
      exact htid
    · exact h.valid tid t hget'
  · intro hinvalid
    rw [hcurrent'] at hinvalid
    exact absurd hinvalid hcurrent

/-- A call that keeps the queue. -/
theorem QueueKept.apply (hids : IdsFit s) (h : QueueKept s) {c : ThreadCall}
    (hc : KeepsQueue s c) : QueueKept (c.apply s) := by
  have hacts := apply_acts s c
  revert hacts
  generalize hs' : c.apply s = s'
  intro hacts
  cases hacts with
  | unchanged => exact h
  | scheduled hscheduling =>
    have hprep := scheduling_prepares hids hscheduling
    exact h.scheduled (h.prepares hc hprep) (stable_id.prepares hprep) (prepares_currentTid hprep) _
  | @first entryPoint stackTop stackBase parameter stackSize allocated hcurrent =>
    apply h.first hcurrent hc
      { newThread s.nextTid entryPoint stackTop stackBase stackSize allocated with
        state := .running } rfl
    · intro tid
      rw [getThread_modifyThread]
      split_ifs with htid
      · subst htid
        exact congrArg (Option.map _) ((getThread_entered s _ _).trans (if_pos rfl))
      · exact (getThread_entered s _ tid).trans (if_neg htid)
    · rfl
    · rfl
  | @created entryPoint stackTop stackBase parameter stackSize allocated hcurrent =>
    apply h.created hc hcurrent
      (newThread s.nextTid entryPoint stackTop stackBase stackSize allocated) rfl
    · intro tid
      rw [getThread_enqueueReady, getThread_entered]
    · unfold enqueueReady entered
      split_ifs
      · rfl
      · rfl
    · rw [enqueueReady_currentTid]
      rfl
  | woken hget hblocked => exact h.readied hget fun _ => rfl
  | terminated hget =>
    apply h.aside hget
    intro t
    constructor
    · intro heq
      cases heq
    · intro heq
      cases heq
  | suspended hget hready =>
    apply h.aside hget
    intro t
    constructor
    · intro heq
      cases heq
    · intro heq
      cases heq
  | counted => exact h.of_retains (retains_modifyThread fun _ => rfl) rfl rfl
  | resumed hget => exact h.readied hget fun _ => rfl
  | uncounted => exact h.of_retains (retains_modifyThread fun _ => rfl) rfl rfl
  | timeouts currentCycle handles =>
    apply checkTimeouts_invariant currentCycle _ handles h
    intro s tid t hkept hget _
    exact hkept.readied hget fun _ => rfl

/-- In every run whose calls all keep the queue, it lists the ready threads, each once, and
only the current thread runs. -/
theorem ready_queue_lawful (cs : List ThreadCall) (s : ThreadScheduler)
    (hruns : Runs (fun s c => c.apply s) KeepsQueue cs {} s) : QueueLawful s := by
  have hinv := hruns.invariant (I := fun s => IdsFit s ∧ QueueKept s) ?_ ?_
  · exact hinv.2.toQueueLawful
  · rintro s c ⟨hids, hkept⟩ hc
    exact ⟨hids.apply c, hkept.apply hids hc⟩
  · refine ⟨?_, ⟨List.nodup_nil, ?_, ?_⟩, ?_, ?_⟩
    · intro tid t hget
      cases hget
    · intro tid
      constructor
      · intro hmem
        cases hmem
      · rintro ⟨t, hget, -⟩
        cases hget
    · intro tid t hget
      cases hget
    · intro tid t hget
      cases hget
    · intro _ tid
      rfl

/-- A lone thread blocks, is woken while still current, and blocks again. -/
theorem ready_queue_lawful_alone :
    QueueLawful ([.createThread 0x1000 0x8000 0 0x7000 0x1000 true, .blockCurrent 0x10000 {},
      .wake 1 0, .blockCurrent 0x10000 {}].foldl (fun s c => ThreadCall.apply s c) {}) := by
  apply ready_queue_lawful [.createThread 0x1000 0x8000 0 0x7000 0x1000 true,
    .blockCurrent 0x10000 {}, .wake 1 0, .blockCurrent 0x10000 {}]
  refine .cons ?_ (.cons ?_ (.cons trivial (.cons ?_ (.nil _))))
  · change (1 : U32) ≠ 0
    decide
  · intro hmem
    cases hmem
  · intro hmem
    cases hmem

/-- A lone thread blocks, a second one is created, the first is woken while still current and
blocks again: it stays queued. -/
theorem blocked_thread_queued :
    ¬ QueueLawful ([.createThread 0x1000 0x8000 0 0x7000 0x1000 true, .blockCurrent 0x10000 {},
      .createThread 0x2000 0x9000 0 0x8000 0x1000 true, .wake 1 0,
      .blockCurrent 0x10000 {}].foldl (fun s c => ThreadCall.apply s c) {}) := by
  intro hlaw
  generalize hs : [ThreadCall.createThread 0x1000 0x8000 0 0x7000 0x1000 true,
    .blockCurrent 0x10000 {}, .createThread 0x2000 0x9000 0 0x8000 0x1000 true, .wake 1 0,
    .blockCurrent 0x10000 {}].foldl (fun s c => ThreadCall.apply s c) {} = s at hlaw
  have hqueue : 1 ∈ s.readyQueue := by
    rw [← hs]
    decide
  have hstate : (s.getThread 1).map GuestThread.state = some .blocked := by
    rw [← hs]
    decide
  obtain ⟨t, hget, hready⟩ := (hlaw.ready 1).mp hqueue
  rw [hget, Option.map_some, hready] at hstate
  cases hstate

end Xblob.Analysis
