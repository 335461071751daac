import Xblob.Interface.ThreadRuns

/-!
# What the operations of the thread scheduler do

The operations change threads in the table, put ids into the queue and take them out, and
schedule.  One lemma for each of these says what is found in the table and in the queue
afterwards; the invariants of the scheduler are proved from these.
-/

set_option autoImplicit false

namespace Xblob.Analysis

open Xblob.Kernel Xblob.Kernel.ThreadScheduler Xblob.Processor Xblob.Interface

variable {s : ThreadScheduler} {tid : ThreadId}

/-- The threads after one is modified. -/
@[simp] theorem getThread_modifyThread (s : ThreadScheduler) (tid tid' : ThreadId)
    (f : GuestThread → GuestThread) : (s.modifyThread tid f).getThread tid' =
      if tid = tid' then (s.getThread tid').map f else s.getThread tid' := by
  unfold modifyThread getThread
  rw [Std.TreeMap.getElem?_modify]
  by_cases heq : tid = tid'
  · subst heq
    simp
  · simp [heq]

/-- A modified thread is read back. -/
theorem getThread_modifyThread_self {t : GuestThread} (h : s.getThread tid = some t)
    (f : GuestThread → GuestThread) : (s.modifyThread tid f).getThread tid = some (f t) := by
  rw [getThread_modifyThread, if_pos rfl, h]
  rfl

/-- A thread after a modification is the modified one, or an old one. -/
theorem modifyThread_cases {tid' : ThreadId} {t t' : GuestThread} {f : GuestThread → GuestThread}
    (hget : s.getThread tid = some t) (hget' : (s.modifyThread tid' f).getThread tid = some t') :
    tid' = tid ∧ t' = f t ∨ tid' ≠ tid ∧ t' = t := by
  rw [getThread_modifyThread, hget] at hget'
  split_ifs at hget' with htid
  · cases hget'
    exact .inl ⟨htid, rfl⟩
  · cases hget'
    exact .inr ⟨htid, rfl⟩

/-- Modifying a thread leaves the queue. -/
@[simp] theorem modifyThread_readyQueue (s : ThreadScheduler) (tid : ThreadId)
    (f : GuestThread → GuestThread) : (s.modifyThread tid f).readyQueue = s.readyQueue := rfl

/-- Modifying a thread leaves the running one. -/
@[simp] theorem modifyThread_currentTid (s : ThreadScheduler) (tid : ThreadId)
    (f : GuestThread → GuestThread) : (s.modifyThread tid f).currentTid = s.currentTid := rfl

/-- Queueing a thread leaves the threads. -/
@[simp] theorem getThread_enqueueReady (s : ThreadScheduler) (tid tid' : ThreadId) :
    (s.enqueueReady tid).getThread tid' = s.getThread tid' := by
  unfold enqueueReady
  split_ifs
  · rfl
  · rfl

/-- Queueing a thread leaves the running one. -/
@[simp] theorem enqueueReady_currentTid (s : ThreadScheduler) (tid : ThreadId) :
    (s.enqueueReady tid).currentTid = s.currentTid := by
  unfold enqueueReady
  split_ifs
  · rfl
  · rfl

/-- Queueing a thread adds it. -/
theorem mem_enqueueReady (s : ThreadScheduler) (tid tid' : ThreadId) :
    tid' ∈ (s.enqueueReady tid).readyQueue ↔ tid' ∈ s.readyQueue ∨ tid' = tid := by
  unfold enqueueReady
  split_ifs with hmem
  · constructor
    · exact Or.inl
    · rintro (h | rfl)
      · exact h
      · exact List.contains_iff_mem.mp hmem
  · simp

/-- Taking a thread off the queue leaves the threads. -/
@[simp] theorem getThread_dequeue (s : ThreadScheduler) (tid tid' : ThreadId) :
    (s.dequeue tid).getThread tid' = s.getThread tid' := rfl

/-- Taking a thread off the queue leaves the running one. -/
@[simp] theorem dequeue_currentTid (s : ThreadScheduler) (tid : ThreadId) :
    (s.dequeue tid).currentTid = s.currentTid := rfl

/-- Taking a thread off the queue removes it. -/
theorem mem_dequeue (s : ThreadScheduler) (tid tid' : ThreadId) :
    tid' ∈ (s.dequeue tid).readyQueue ↔ tid' ∈ s.readyQueue ∧ tid' ≠ tid := by
  unfold dequeue
  simp

/-- A queued id that `ScheduleNext` drops. -/
def Skipped (s : ThreadScheduler) (tid : ThreadId) : Prop :=
  ∀ t, s.getThread tid = some t → t.state = .terminated ∨ t.state = .suspended

/-- The scheduler after a switch to a thread, with the rest of the queue. -/
def switched (s : ThreadScheduler) (next : ThreadId) (rest : List ThreadId) : ThreadScheduler :=
  { s with currentTid := next, readyQueue := rest }.modifyThread next
    fun t => { t with state := .running }

/-- The threads after a switch. -/
theorem getThread_switched (s : ThreadScheduler) (next : ThreadId) (rest : List ThreadId)
    (tid : ThreadId) : (switched s next rest).getThread tid =
      if next = tid then (s.getThread tid).map fun t => { t with state := .running }
      else s.getThread tid := by
  unfold switched
  rw [getThread_modifyThread]
  rfl

/-- Scheduling finds nothing, or drops some of the queue and switches to the next. -/
inductive Schedules (s : ThreadScheduler) (ctx : CpuContext) (q : List ThreadId) :
    Bool × CpuContext × ThreadScheduler → Prop
  | idle (hskip : ∀ tid ∈ q, Skipped s tid) :
    Schedules s ctx q (false, ctx, { s with readyQueue := [] })
  | switch (dropped : List ThreadId) {rest : List ThreadId} {next : ThreadId} {t : GuestThread}
      (hq : q = dropped ++ next :: rest) (hskip : ∀ tid ∈ dropped, Skipped s tid)
      (hnext : s.getThread next = some t) (hterm : t.state ≠ .terminated)
      (hsusp : t.state ≠ .suspended) :
    Schedules s ctx q (true, t.context, switched s next rest)

/-- A queued thread that is dropped is scheduled past. -/
theorem Schedules.skip {ctx : CpuContext} {q : List ThreadId}
    {r : Bool × CpuContext × ThreadScheduler} (htid : Skipped s tid) (h : Schedules s ctx q r) :
    Schedules s ctx (tid :: q) r := by
  cases h with
  | idle hskip =>
    apply Schedules.idle
    intro tid' hmem
    rcases List.mem_cons.mp hmem with rfl | hmem
    · exact htid
    · exact hskip tid' hmem
  | @switch dropped rest next t hq hskip hnext hterm hsusp =>
    refine Schedules.switch (tid :: dropped) ?_ ?_ hnext hterm hsusp
    · rw [hq]
      rfl
    · intro tid' hmem
      rcases List.mem_cons.mp hmem with rfl | hmem
      · exact htid
      · exact hskip tid' hmem

/-- Scheduling from a queue drops what it skips and switches to the next. -/
theorem scheduleFrom_schedules (s : ThreadScheduler) (ctx : CpuContext) (q : List ThreadId) :
    Schedules s ctx q (scheduleFrom s ctx q) := by
  induction q with
  | nil =>
    apply Schedules.idle
    intro tid hmem
    cases hmem
  | cons next rest ih =>
    unfold scheduleFrom
    cases hget : s.threads[next]? with
    | none =>
      apply Schedules.skip _ ih
      intro t ht
      rw [getThread, hget] at ht
      cases ht
    | some t =>
      dsimp only
      by_cases hskip : t.state = .terminated ∨ t.state = .suspended
      · rw [if_pos hskip]
        apply Schedules.skip _ ih
        intro t' ht'
        rw [getThread, hget] at ht'
        cases ht'
        exact hskip
      · rw [if_neg hskip]
        obtain ⟨hterm, hsusp⟩ := not_or.mp hskip
        apply Schedules.switch [] rfl _ hget hterm hsusp
        intro tid hmem
        cases hmem

/-- Scheduling drops what it skips and switches to the next. -/
theorem scheduleNext_schedules (s : ThreadScheduler) (ctx : CpuContext) :
    Schedules s ctx s.readyQueue (s.scheduleNext ctx) := scheduleFrom_schedules s ctx s.readyQueue

/-- Threads are kept under their ids. -/
def IdsFit (s : ThreadScheduler) : Prop := ∀ tid t, s.getThread tid = some t → t.id = tid

/-- What every wake-up keeps, `CheckTimeouts` keeps. -/
theorem checkTimeouts_invariant {I : ThreadScheduler → Prop} (currentCycle : Cycle)
    (hstep : ∀ s tid t, I s → s.getThread tid = some t → timedOut currentCycle t = true →
      I ((s.modifyThread tid (wakened kStatusWaitTimeout)).enqueueReady tid))
    (handles : HandleTable) (hs : I s) : I (s.checkTimeouts currentCycle handles).2.2 := by
  unfold checkTimeouts
  have hfold : ∀ (l : List ThreadId) (r : ℕ × HandleTable × ThreadScheduler), I r.2.2 →
      I (l.foldl (checkTimeout currentCycle) r).2.2 := by
    intro l
    induction l with
    | nil =>
      intro r hr
      exact hr
    | cons tid l ih =>
      intro r hr
      apply ih
      unfold checkTimeout
      obtain ⟨awakened, hs, s⟩ := r
      dsimp only
      cases hget : s.getThread tid with
      | none => exact hr
      | some t =>
        dsimp only
        split_ifs with hout
        · exact hstep s tid t hr hget hout
        · exact hr
  exact hfold _ _ hs

/-- With what a call comes to `ScheduleNext`. -/
inductive Prepares (s : ThreadScheduler) : ThreadCall → ThreadScheduler → CpuContext → Prop
  | alone {ctx : CpuContext} (hget : s.getThread s.currentTid = none) :
    Prepares s (.yield ctx) s ctx
  | yielded {ctx : CpuContext} {t : GuestThread} (hget : s.getThread s.currentTid = some t)
      (hrunning : t.state = .running) :
    Prepares s (.yield ctx) ((s.modifyThread s.currentTid fun t =>
      { t with context := ctx, state := .ready }).enqueueReady s.currentTid) ctx
  | saved {ctx : CpuContext} {t : GuestThread} (hget : s.getThread s.currentTid = some t)
      (hrunning : t.state ≠ .running) :
    Prepares s (.yield ctx) (s.modifyThread s.currentTid fun t => { t with context := ctx }) ctx
  | blockedOn {handle : GuestHandle} {ctx : CpuContext} {t : GuestThread}
      (hget : s.getThread s.currentTid = some t) :
    Prepares s (.blockCurrent handle ctx) (s.block (handleVector handle) false false 0 ctx) ctx
  | blocked {handles : List GuestHandle} {waitAll hasTimeout : Bool} {timeoutCycle : Cycle}
      {ctx : CpuContext} {t : GuestThread} (hget : s.getThread s.currentTid = some t) :
    Prepares s (.blockCurrentWithTimeout handles waitAll hasTimeout timeoutCycle ctx)
      (s.block handles waitAll hasTimeout timeoutCycle ctx) ctx
  | exited {exitCode : U32} {ctx : CpuContext} {t : GuestThread}
      (hget : s.getThread s.currentTid = some t) :
    Prepares s (.exitCurrent exitCode ctx) (s.exit exitCode) ctx

/-- A call that schedules has prepared the switch. -/
theorem scheduling_prepares (hids : IdsFit s) {c : ThreadCall} {s₁ : ThreadScheduler}
    {ctx : CpuContext} (h : c.scheduling s = some (s₁, ctx)) : Prepares s c s₁ ctx := by
  cases c with
  | yield ctx' =>
    cases h
    unfold giveUp
    cases hget : s.currentThread with
    | none => exact Prepares.alone hget
    | some t =>
      dsimp only
      split_ifs with hrunning
      · rw [hids _ t hget]
        exact Prepares.yielded hget hrunning
      · exact Prepares.saved hget hrunning
  | blockCurrent handle ctx' =>
    unfold ThreadCall.scheduling at h
    obtain ⟨t, hget, heq⟩ := Option.map_eq_some_iff.mp h
    cases heq
    exact Prepares.blockedOn hget
  | blockCurrentWithTimeout handles waitAll hasTimeout timeoutCycle ctx' =>
    unfold ThreadCall.scheduling at h
    obtain ⟨t, hget, heq⟩ := Option.map_eq_some_iff.mp h
    cases heq
    exact Prepares.blocked hget
  | exitCurrent exitCode ctx' =>
    unfold ThreadCall.scheduling at h
    obtain ⟨t, hget, heq⟩ := Option.map_eq_some_iff.mp h
    cases heq
    exact Prepares.exited hget
  | createThread _ _ _ _ _ _ => cases h
  | wake _ _ => cases h
  | terminateThread _ _ => cases h
  | suspendThread _ => cases h
  | resumeThread _ => cases h
  | checkTimeouts _ _ => cases h

/-- A thread entered into the table. -/
def entered (s : ThreadScheduler) (t : GuestThread) : ThreadScheduler :=
  { s with nextTid := s.nextTid + 1, threads := s.threads.insert s.nextTid t }

/-- The threads after one is entered. -/
theorem getThread_entered (s : ThreadScheduler) (t : GuestThread) (tid : ThreadId) :
    (entered s t).getThread tid = if s.nextTid = tid then some t else s.getThread tid := by
  unfold entered getThread
  rw [Std.TreeMap.getElem?_insert]
  simp

/-- What a call makes of the scheduler. -/
inductive Acts (s : ThreadScheduler) : ThreadCall → ThreadScheduler → Prop
  | unchanged {c : ThreadCall} (hno : c.scheduling s = none) : Acts s c s
  | first {entryPoint stackTop stackBase : GuestAddr} {parameter : U32} {stackSize : ℕ}
      {allocated : Bool} (hcurrent : s.currentTid = kInvalidThreadId) :
    Acts s (.createThread entryPoint stackTop parameter stackBase stackSize allocated)
      ({ entered s (newThread s.nextTid entryPoint stackTop stackBase stackSize allocated) with
        currentTid := s.nextTid }.modifyThread s.nextTid fun t => { t with state := .running })
  | created {entryPoint stackTop stackBase : GuestAddr} {parameter : U32} {stackSize : ℕ}
      {allocated : Bool} (hcurrent : s.currentTid ≠ kInvalidThreadId) :
    Acts s (.createThread entryPoint stackTop parameter stackBase stackSize allocated)
      ((entered s (newThread s.nextTid entryPoint stackTop stackBase stackSize
        allocated)).enqueueReady s.nextTid)
  | scheduled {c : ThreadCall} {s₁ : ThreadScheduler} {ctx : CpuContext}
      (hscheduling : c.scheduling s = some (s₁, ctx)) : Acts s c (s₁.scheduleNext ctx).2.2
  | woken {tid : ThreadId} {waitStatus : U32} {t : GuestThread} (hget : s.getThread tid = some t)
      (hblocked : t.state = .blocked) :
    Acts s (.wake tid waitStatus) ((s.modifyThread tid (wakened waitStatus)).enqueueReady tid)
  | terminated {tid : ThreadId} {exitCode : U32} {t : GuestThread}
      (hget : s.getThread tid = some t) :
    Acts s (.terminateThread tid exitCode) ((s.modifyThread tid fun t =>
      { t with state := .terminated, exitCode := exitCode }).dequeue tid)
  | suspended {tid : ThreadId} {t : GuestThread} (hget : s.getThread tid = some t)
      (hready : t.state = .ready) :
    Acts s (.suspendThread tid) ((s.modifyThread tid fun t =>
      { t with suspendCount := t.suspendCount + 1, state := .suspended }).dequeue tid)
  | counted {tid : ThreadId} {t : GuestThread} (hget : s.getThread tid = some t)
      (hready : t.state ≠ .ready) (hterm : t.state ≠ .terminated) :
    Acts s (.suspendThread tid)
      (s.modifyThread tid fun t => { t with suspendCount := t.suspendCount + 1 })
  | resumed {tid : ThreadId} {t : GuestThread} (hget : s.getThread tid = some t)
      (hlast : t.suspendCount - 1 = 0) (hsusp : t.state = .suspended) :
    Acts s (.resumeThread tid) ((s.modifyThread tid fun t =>
      { t with suspendCount := t.suspendCount - 1, state := .ready }).enqueueReady tid)
  | uncounted {tid : ThreadId} {t : GuestThread} (hget : s.getThread tid = some t)
      (hcount : t.suspendCount ≠ 0) :
    Acts s (.resumeThread tid)
      (s.modifyThread tid fun t => { t with suspendCount := t.suspendCount - 1 })
  | timeouts (currentCycle : Cycle) (handles : HandleTable) :
    Acts s (.checkTimeouts currentCycle handles) (s.checkTimeouts currentCycle handles).2.2

/-- What every call does. -/
theorem apply_acts (s : ThreadScheduler) (c : ThreadCall) : Acts s c (c.apply s) := by
  cases c with
  | createThread entryPoint stackTop parameter stackBase stackSize allocated =>
    unfold ThreadCall.apply createThread
    dsimp only
    by_cases hcurrent : s.currentTid = kInvalidThreadId
    · rw [if_pos hcurrent]
      exact Acts.first hcurrent
    · rw [if_neg hcurrent]
      exact Acts.created hcurrent
  | yield ctx => exact Acts.scheduled rfl
  | blockCurrent handle ctx =>
    unfold ThreadCall.apply blockCurrent blockCurrentWithTimeout
    dsimp only
    cases hcurr : s.currentThread with
    | none => exact Acts.unchanged (by simp [ThreadCall.scheduling, hcurr])
    | some t => exact Acts.scheduled (c := _) (by simp [ThreadCall.scheduling, hcurr])
  | blockCurrentWithTimeout handles waitAll hasTimeout timeoutCycle ctx =>
    unfold ThreadCall.apply blockCurrentWithTimeout
    dsimp only
    cases hcurr : s.currentThread with
    | none => exact Acts.unchanged (by simp [ThreadCall.scheduling, hcurr])
    | some t => exact Acts.scheduled (c := _) (by simp [ThreadCall.scheduling, hcurr])
  | wake tid waitStatus =>
    unfold ThreadCall.apply wake
    dsimp only
    cases hget : s.getThread tid with
    | none => exact Acts.unchanged rfl
    | some t =>
      dsimp only
      split_ifs with hblocked
      · exact Acts.woken hget hblocked
      · exact Acts.unchanged rfl
  | exitCurrent exitCode ctx =>
    unfold ThreadCall.apply exitCurrent
    dsimp only
    cases hcurr : s.currentThread with
    | none => exact Acts.unchanged (by simp [ThreadCall.scheduling, hcurr])
    | some t => exact Acts.scheduled (c := _) (by simp [ThreadCall.scheduling, hcurr])
  | terminateThread tid exitCode =>
    unfold ThreadCall.apply terminateThread
    dsimp only
    cases hget : s.getThread tid with
    | none => exact Acts.unchanged rfl
    | some t => exact Acts.terminated hget
  | suspendThread tid =>
    unfold ThreadCall.apply suspendThread
    dsimp only
    cases hget : s.getThread tid with
    | none => exact Acts.unchanged rfl
    | some t =>
      dsimp only
      split_ifs with hterm hready
      · exact Acts.unchanged rfl
      · exact Acts.suspended hget hready
      · exact Acts.counted hget hready hterm
  | resumeThread tid =>
    unfold ThreadCall.apply resumeThread
    dsimp only
    cases hget : s.getThread tid with
    | none => exact Acts.unchanged rfl
    | some t =>
      dsimp only
      split_ifs with hterm hcount hlast
      · exact Acts.unchanged rfl
      · exact Acts.unchanged rfl
      · exact Acts.resumed hget hlast.1 hlast.2
      · exact Acts.uncounted hget hcount
  | checkTimeouts currentCycle handles => exact Acts.timeouts currentCycle handles

/-- A call that schedules prepares, then switches. -/
theorem apply_scheduling {c : ThreadCall} {s₁ : ThreadScheduler} {ctx : CpuContext}
    (h : c.scheduling s = some (s₁, ctx)) : c.apply s = (s₁.scheduleNext ctx).2.2 := by
  have hacts := apply_acts s c
  revert hacts
  generalize c.apply s = s'
  intro hacts
  cases hacts with
  | unchanged hno =>
    rw [hno] at h
    cases h
  | scheduled hscheduling =>
    rw [hscheduling] at h
    cases h
    rfl
  | first => cases h
  | created => cases h
  | woken => cases h
  | terminated => cases h
  | suspended => cases h
  | counted => cases h
  | resumed => cases h
  | uncounted => cases h
  | timeouts => cases h

/-! ## What scheduling leaves alone -/

variable {α : Type} {field : GuestThread → α}

/-- The part of a thread that is neither its context, its state, its wait nor its exit code. -/
def Stable (field : GuestThread → α) : Prop :=
  ∀ (t : GuestThread) (ctx : CpuContext) (state : ThreadState) (handles : List GuestHandle)
    (waitAll hasTimeout : Bool) (timeoutCycle : Cycle) (waitStatus exitCode : U32),
    field { t with
      context := ctx
      state := state
      waitHandles := handles
      waitAll := waitAll
      hasTimeout := hasTimeout
      timeoutCycle := timeoutCycle
      waitStatus := waitStatus
      exitCode := exitCode } = field t

/-- The threads of two schedulers agree on a part. -/
def Retains (field : GuestThread → α) (s s' : ThreadScheduler) : Prop :=
  ∀ tid, (s'.getThread tid).map field = (s.getThread tid).map field

/-- A scheduler retains what it has. -/
theorem Retains.refl (s : ThreadScheduler) : Retains field s s := fun _ => rfl

/-- Retaining composes. -/
theorem Retains.trans {s₁ s₂ s₃ : ThreadScheduler} (h : Retains field s₁ s₂) (h' : Retains field s₂ s₃) :
    Retains field s₁ s₃ := fun tid => (h' tid).trans (h tid)

/-- A part of a thread after was its part before. -/
theorem Retains.before {s s' : ThreadScheduler} (h : Retains field s s') {t' : GuestThread}
    (hget : s'.getThread tid = some t') : ∃ t, s.getThread tid = some t ∧ field t = field t' := by
  have hmap := h tid
  rw [hget] at hmap
  exact Option.map_eq_some_iff.mp hmap.symm

/-- A modification that leaves a part retains it. -/
theorem retains_modifyThread {f : GuestThread → GuestThread} (hf : ∀ t, field (f t) = field t) :
    Retains field s (s.modifyThread tid f) := by
  intro tid'
  rw [getThread_modifyThread]
  split_ifs
  · cases s.getThread tid' with
    | none => rfl
    | some t => exact congrArg some (hf t)
  · rfl

/-- Queueing a thread retains every part. -/
theorem retains_enqueueReady : Retains field s (s.enqueueReady tid) := by
  intro tid'
  rw [getThread_enqueueReady]

/-- Taking a thread off the queue retains every part. -/
theorem retains_dequeue : Retains field s (s.dequeue tid) := by
  intro tid'
  rw [getThread_dequeue]

/-- Preparing a switch retains a stable part. -/
theorem Stable.prepares (hfield : Stable field) {c : ThreadCall} {s₁ : ThreadScheduler}
    {ctx : CpuContext} (h : Prepares s c s₁ ctx) : Retains field s s₁ := by
  cases h with
  | alone => exact Retains.refl s
  | yielded =>
    apply Retains.trans (retains_modifyThread _) retains_enqueueReady
    intro t
    exact hfield t _ _ _ _ _ _ _ _
  | saved =>
    apply retains_modifyThread
    intro t
    exact hfield t _ _ _ _ _ _ _ _
  | blockedOn =>
    apply retains_modifyThread
    intro t
    exact hfield t _ _ _ _ _ _ _ _
  | blocked =>
    apply retains_modifyThread
    intro t
    exact hfield t _ _ _ _ _ _ _ _
  | exited =>
    apply retains_modifyThread
    intro t
    exact hfield t _ _ _ _ _ _ _ _

/-- Scheduling retains a stable part. -/
theorem Stable.scheduleNext (hfield : Stable field) (s : ThreadScheduler) (ctx : CpuContext) :
    Retains field s (s.scheduleNext ctx).2.2 := by
  have hschedules := scheduleNext_schedules s ctx
  revert hschedules
  generalize s.scheduleNext ctx = r
  intro hschedules
  cases hschedules with
  | idle => exact Retains.refl s
  | @switch dropped rest next t hq hskip hnext hterm hsusp =>
    intro tid
    change ((switched s next rest).getThread tid).map field = _
    rw [getThread_switched]
    split_ifs
    · cases s.getThread tid with
      | none => rfl
      | some t => exact congrArg some (hfield t _ _ _ _ _ _ _ _)
    · rfl

/-- Waking a thread retains a stable part. -/
theorem Stable.wakened (hfield : Stable field) (tid : ThreadId) (waitStatus : U32) :
    Retains field s ((s.modifyThread tid (wakened waitStatus)).enqueueReady tid) := by
  apply Retains.trans (retains_modifyThread _) retains_enqueueReady
  intro t
  exact hfield t _ _ _ _ _ _ _ _

/-- Checking the timeouts retains a stable part. -/
theorem Stable.checkTimeouts (hfield : Stable field) (s : ThreadScheduler) (currentCycle : Cycle)
    (handles : HandleTable) : Retains field s (s.checkTimeouts currentCycle handles).2.2 := by
  apply checkTimeouts_invariant currentCycle (I := Retains field s) _ handles (Retains.refl s)
  intro s' tid t hretains _ _
  exact hretains.trans (hfield.wakened tid _)

/-- Creating a thread enters it, and leaves the others alone. -/
theorem getThread_createThread (s : ThreadScheduler) (entryPoint stackTop parameter stackBase : U32)
    (stackSize : ℕ) (allocated : Bool) (tid : ThreadId) :
    (ThreadCall.apply s (.createThread entryPoint stackTop parameter stackBase stackSize
      allocated)).getThread tid =
      if s.nextTid = tid then
        some { newThread tid entryPoint stackTop stackBase stackSize allocated with
          state := if s.currentTid = kInvalidThreadId then .running else .ready }
      else s.getThread tid := by
  unfold ThreadCall.apply createThread
  dsimp only
  have hentered : ∀ t : GuestThread, ThreadScheduler.getThread
      { s with nextTid := s.nextTid + 1, threads := s.threads.insert s.nextTid t } tid =
        if s.nextTid = tid then some t else s.getThread tid :=
    fun t => getThread_entered s t tid
  by_cases hcurrent : s.currentTid = kInvalidThreadId
  · rw [if_pos hcurrent, if_pos hcurrent]
    dsimp only
    rw [getThread_modifyThread]
    by_cases htid : s.nextTid = tid
    · subst htid
      rw [if_pos rfl, if_pos rfl]
      exact congrArg (Option.map _) ((hentered _).trans (if_pos rfl))
    · rw [if_neg htid, if_neg htid]
      exact (hentered _).trans (if_neg htid)
  · rw [if_neg hcurrent, if_neg hcurrent]
    dsimp only
    rw [getThread_enqueueReady, hentered]
    by_cases htid : s.nextTid = tid
    · subst htid
      rw [if_pos rfl, if_pos rfl]
      rfl
    · rw [if_neg htid, if_neg htid]

/-- The id is a stable part. -/
theorem stable_id : Stable GuestThread.id := fun _ _ _ _ _ _ _ _ _ => rfl

/-- Threads are kept under their ids where the ids are retained. -/
theorem IdsFit.of_retains {s s' : ThreadScheduler} (hids : IdsFit s)
    (h : Retains GuestThread.id s s') : IdsFit s' := by
  intro tid t' hget
  obtain ⟨t, hget', heq⟩ := h.before hget
  rw [← heq]
  exact hids tid t hget'

/-- Threads stay under their ids. -/
theorem IdsFit.apply (hids : IdsFit s) (c : ThreadCall) : IdsFit (c.apply s) := by
  have hacts := apply_acts s c
  revert hacts
  generalize hs' : c.apply s = s'
  intro hacts
  cases hacts with
  | unchanged => exact hids
  | scheduled hscheduling =>
    apply hids.of_retains
    exact (stable_id.prepares (scheduling_prepares hids hscheduling)).trans
      (stable_id.scheduleNext _ _)
  | @first entryPoint stackTop stackBase parameter stackSize allocated hcurrent =>
    intro tid t hget
    rw [← hs', getThread_createThread] at hget
    split_ifs at hget
    · cases hget
      rfl
    · exact hids tid t hget
  | @created entryPoint stackTop stackBase parameter stackSize allocated hcurrent =>
    intro tid t hget
    rw [← hs', getThread_createThread] at hget
    split_ifs at hget
    · cases hget
      rfl
    · exact hids tid t hget
  | woken => exact hids.of_retains (stable_id.wakened _ _)
  | terminated => exact hids.of_retains (retains_modifyThread fun _ => rfl)
  | suspended => exact hids.of_retains (retains_modifyThread fun _ => rfl)
  | counted => exact hids.of_retains (retains_modifyThread fun _ => rfl)
  | resumed =>
    apply hids.of_retains
    apply Retains.trans (retains_modifyThread _) retains_enqueueReady
    intro t
    rfl
  | uncounted => exact hids.of_retains (retains_modifyThread fun _ => rfl)
  | timeouts currentCycle handles => exact hids.of_retains (stable_id.checkTimeouts s _ handles)

end Xblob.Analysis
