import Xblob.Analysis.KernelSteps

/-!
# Where a created thread starts

A thread that was never current keeps the context it was created with, since only the
current thread's context is saved and only blocked threads are woken.  The argument is nowhere in
it; and the call that switches to the thread pops a return address and arguments of its own from
the stack of the thread, so that it does not even start at its entry.
-/

set_option autoImplicit false

namespace Xblob.Analysis

open Xblob.Computation Xblob.Interface Xblob.Kernel Xblob.Kernel.ThreadScheduler Xblob.Machine
open Xblob.Memory Xblob.Processor

variable {New : Prop} {s : ThreadScheduler} {tid : ThreadId} {ctx : CpuContext}

/-- The thread is not current, has its first context, and waits for nothing. -/
structure Unstarted (tid : ThreadId) (ctx : CpuContext) (s : ThreadScheduler) : Prop where
  notCurrent : s.currentTid ≠ tid
  saved : ∃ t, s.getThread tid = some t ∧ t.context = ctx ∧ t.state ≠ .blocked

/-- A thread stays unstarted where it is not switched to and kept as it is. -/
theorem Unstarted.of_getThread {s s' : ThreadScheduler} (h : Unstarted tid ctx s)
    (hcurrent : s'.currentTid ≠ tid) (hget : s'.getThread tid = s.getThread tid) :
    Unstarted tid ctx s' := by
  refine ⟨hcurrent, ?_⟩
  rw [hget]
  exact h.saved

/-- A change of a thread that keeps the context, and blocks none. -/
theorem Unstarted.modifyThread (h : Unstarted tid ctx s) (tid' : ThreadId)
    {f : GuestThread → GuestThread}
    (hf : ∀ t, (f t).context = t.context ∧ (t.state ≠ .blocked → (f t).state ≠ .blocked)) :
    Unstarted tid ctx (s.modifyThread tid' f) := by
  obtain ⟨t, hget, hctx, hstate⟩ := h.saved
  refine ⟨h.notCurrent, ?_⟩
  rw [getThread_modifyThread, hget]
  split_ifs
  · exact ⟨f t, rfl, (hf t).1.trans hctx, (hf t).2 hstate⟩
  · exact ⟨t, rfl, hctx, hstate⟩

/-- A change that puts a thread in a state it does not wait in, and keeps its context. -/
theorem Unstarted.put (h : Unstarted tid ctx s) (tid' : ThreadId) {f : GuestThread → GuestThread}
    {state : ThreadState} (hctx : ∀ t, (f t).context = t.context) (hstate : ∀ t, (f t).state = state)
    (hne : state ≠ .blocked) : Unstarted tid ctx (s.modifyThread tid' f) := by
  apply h.modifyThread
  intro t
  refine ⟨hctx t, fun _ => ?_⟩
  rw [hstate]
  exact hne

/-- Queueing a thread leaves one unstarted. -/
theorem Unstarted.enqueueReady (h : Unstarted tid ctx s) (tid' : ThreadId) :
    Unstarted tid ctx (s.enqueueReady tid') := by
  apply h.of_getThread
  · rw [enqueueReady_currentTid]
    exact h.notCurrent
  · rw [getThread_enqueueReady]

/-- Taking a thread off the queue leaves one unstarted. -/
theorem Unstarted.dequeue (h : Unstarted tid ctx s) (tid' : ThreadId) :
    Unstarted tid ctx (s.dequeue tid') := by
  apply h.of_getThread
  · exact h.notCurrent
  · rw [getThread_dequeue]

/-- Waking another thread, which is blocked. -/
theorem Unstarted.wakened (h : Unstarted tid ctx s) {tid' : ThreadId} {t : GuestThread}
    (hget : s.getThread tid' = some t) (hblocked : t.state = .blocked) (waitStatus : U32) :
    Unstarted tid ctx ((s.modifyThread tid' (wakened waitStatus)).enqueueReady tid') := by
  apply Unstarted.enqueueReady
  have hne : tid' ≠ tid := by
    rintro rfl
    obtain ⟨t', hget', -, hstate⟩ := h.saved
    rw [hget] at hget'
    cases hget'
    exact hstate hblocked
  apply h.of_getThread
  · exact h.notCurrent
  · rw [getThread_modifyThread, if_neg hne]

/-- Calls that do not schedule leave the thread as it is. -/
theorem Unstarted.tends (h : Unstarted tid ctx s) {c : ThreadCall} (hc : Tends c) :
    Unstarted tid ctx (c.apply s) := by
  have hacts := apply_acts s c
  revert hacts
  generalize c.apply s = s'
  intro hacts
  cases hacts with
  | unchanged => exact h
  | woken hget hblocked => exact h.wakened hget hblocked _
  | terminated =>
    apply Unstarted.dequeue
    exact h.put _ (fun _ => rfl) (fun _ => rfl) (by decide)
  | suspended =>
    apply Unstarted.dequeue
    exact h.put _ (fun _ => rfl) (fun _ => rfl) (by decide)
  | counted =>
    apply h.modifyThread
    intro t
    exact ⟨rfl, id⟩
  | resumed =>
    apply Unstarted.enqueueReady
    exact h.put _ (fun _ => rfl) (fun _ => rfl) (by decide)
  | uncounted =>
    apply h.modifyThread
    intro t
    exact ⟨rfl, id⟩
  | timeouts currentCycle handles =>
    apply checkTimeouts_invariant currentCycle _ handles h
    intro s tid' t hkept hget hout
    apply hkept.wakened hget
    unfold timedOut at hout
    simp only [Bool.and_eq_true, beq_iff_eq] at hout
    exact hout.1.1
  | scheduled hscheduling =>
    cases c with
    | yield => cases hc
    | blockCurrent => cases hc
    | blockCurrentWithTimeout => cases hc
    | exitCurrent => cases hc
    | createThread => cases hc
    | wake => cases hscheduling
    | terminateThread => cases hscheduling
    | suspendThread => cases hscheduling
    | resumeThread => cases hscheduling
    | checkTimeouts => cases hscheduling
  | first => cases hc
  | created => cases hc

/-- A call that schedules comes to it with all but the current thread as they were. -/
theorem scheduling_others {c : ThreadCall} {s₁ : ThreadScheduler} {cpu : CpuContext}
    (h : c.scheduling s = some (s₁, cpu)) (hne : s.currentTid ≠ tid) :
    s₁.currentTid = s.currentTid ∧ s₁.getThread tid = s.getThread tid := by
  have hblock : ∀ f : GuestThread → GuestThread,
      (s.modifyThread s.currentTid f).getThread tid = s.getThread tid := by
    intro f
    rw [getThread_modifyThread, if_neg hne]
  cases c with
  | yield ctx' =>
    cases h
    unfold giveUp
    split
    · exact ⟨rfl, rfl⟩
    · split_ifs
      · rw [enqueueReady_currentTid, getThread_enqueueReady, hblock]
        exact ⟨rfl, rfl⟩
      · rw [hblock]
        exact ⟨rfl, rfl⟩
  | blockCurrent handle ctx' =>
    obtain ⟨t, -, heq⟩ := Option.map_eq_some_iff.mp h
    cases heq
    exact ⟨rfl, hblock _⟩
  | blockCurrentWithTimeout handles waitAll hasTimeout timeoutCycle ctx' =>
    obtain ⟨t, -, heq⟩ := Option.map_eq_some_iff.mp h
    cases heq
    exact ⟨rfl, hblock _⟩
  | exitCurrent exitCode ctx' =>
    obtain ⟨t, -, heq⟩ := Option.map_eq_some_iff.mp h
    cases heq
    exact ⟨rfl, hblock _⟩
  | createThread _ _ _ _ _ _ => cases h
  | wake _ _ => cases h
  | terminateThread _ _ => cases h
  | suspendThread _ => cases h
  | resumeThread _ => cases h
  | checkTimeouts _ _ => cases h

/-- Scheduling leaves the thread as it is, or switches to it and loads its first context. -/
theorem Unstarted.scheduleNext (h : Unstarted tid ctx s) (cpu : CpuContext) :
    Unstarted tid ctx (s.scheduleNext cpu).2.2 ∨
      (s.scheduleNext cpu).2.2.currentTid = tid ∧ (s.scheduleNext cpu).2.1 = ctx := by
  have hschedules := scheduleNext_schedules s cpu
  revert hschedules
  generalize s.scheduleNext cpu = r
  intro hschedules
  cases hschedules with
  | idle => exact .inl (h.of_getThread h.notCurrent rfl)
  | @switch dropped rest next t hq hskip hnext hterm hsusp =>
    by_cases heq : next = tid
    · subst heq
      obtain ⟨t', hget, hctx, -⟩ := h.saved
      rw [hnext] at hget
      cases hget
      exact .inr ⟨rfl, hctx⟩
    · refine .inl (h.of_getThread heq ?_)
      change (switched s next rest).getThread tid = _
      rw [getThread_switched, if_neg heq]

/-- Calls that only tend to the threads leave one unstarted. -/
theorem Unstarted.runs_tends (cs : List ThreadCall) (hcs : ∀ c ∈ cs, Tends c)
    (h : Unstarted tid ctx s) : Unstarted tid ctx (cs.foldl (fun s c => c.apply s) s) := by
  induction cs generalizing s with
  | nil => exact h
  | cons c cs ih =>
    apply ih
    · intro c' hmem
      exact hcs c' (List.mem_cons_of_mem c hmem)
    · exact h.tends (hcs c List.mem_cons_self)

/-- Creating another thread. -/
theorem Unstarted.createThread (h : Unstarted tid ctx s) (hne : s.nextTid ≠ tid)
    (entryPoint stackTop parameter stackBase : U32) (stackSize : ℕ) (allocated : Bool) :
    Unstarted tid ctx (ThreadCall.apply s
      (.createThread entryPoint stackTop parameter stackBase stackSize allocated)) := by
  apply h.of_getThread
  · have hacts := apply_acts s
      (.createThread entryPoint stackTop parameter stackBase stackSize allocated)
    revert hacts
    generalize ThreadCall.apply s _ = s'
    intro hacts
    cases hacts with
    | unchanged => exact h.notCurrent
    | first => exact hne
    | created =>
      rw [enqueueReady_currentTid]
      exact h.notCurrent
    | scheduled hscheduling => cases hscheduling
  · rw [getThread_createThread, if_neg hne]

/-- What an operation that drives the scheduler leaves: the thread as it is, or made current
with its first context. -/
theorem Unstarted.drives {s' : ThreadScheduler} {cpu cpu' : CpuContext}
    (h : Unstarted tid ctx s) (hdrives : Drives New s cpu s' cpu') (hnew : New → s.nextTid ≠ tid) :
    Unstarted tid ctx s' ∨ s'.currentTid = tid ∧ cpu' = ctx := by
  cases hdrives with
  | tends cs htends => exact .inl (h.runs_tends cs htends)
  | creates new entryPoint stackTop parameter stackBase stackSize allocated =>
    exact .inl (h.createThread (hnew new) _ _ _ _ _ _)
  | @schedules c s₁ hscheduling =>
    obtain ⟨hcurrent, hget⟩ := scheduling_others hscheduling h.notCurrent
    have hprepared : Unstarted tid ctx s₁ := by
      apply h.of_getThread _ hget
      rw [hcurrent]
      exact h.notCurrent
    exact hprepared.scheduleNext cpu

/-- The id of a created thread is the next one. -/
theorem createThread_fst (s : ThreadScheduler) (entryPoint stackTop parameter stackBase : U32)
    (stackSize : ℕ) (allocated : Bool) :
    (s.createThread entryPoint stackTop parameter stackBase stackSize allocated).1 = s.nextTid := by
  unfold ThreadScheduler.createThread
  dsimp only
  split_ifs
  · rfl
  · rfl

section Creation

variable {k k' : KernelHle} {requested : Option U32} {entry arg : U32} {t : GuestThread}

/-- The stack of the new thread, and the call of the scheduler that enters it. -/
theorem createThread_call (hcreate : k.createThread requested entry arg = (some tid, k')) :
    tid = k.threads.nextTid ∧ ∃ base heap,
      k.heap.allocate ((KernelHle.stackSize requested).setWidth 64) = .ok (base, heap) ∧
      k'.threads = ThreadCall.apply k.threads (.createThread entry
        (base + KernelHle.stackSize requested) arg base (KernelHle.stackSize requested).toNat
        true) := by
  unfold KernelHle.createThread at hcreate
  dsimp only at hcreate
  cases halloc : k.heap.allocate ((KernelHle.stackSize requested).setWidth 64) with
  | error e =>
    rw [halloc] at hcreate
    cases hcreate
  | ok r =>
    obtain ⟨base, heap⟩ := r
    rw [halloc] at hcreate
    obtain ⟨htid, rfl⟩ := Prod.mk.inj hcreate
    rw [createThread_fst] at htid
    exact ⟨(Option.some.inj htid).symm, base, heap, rfl, rfl⟩

/-- The new thread: its entry, its stack pointer and the size of its stack. -/
theorem createThread_thread (hin : InPlace k.heap)
    (hcreate : k.createThread requested entry arg = (some tid, k'))
    (ht : k'.threads.getThread tid = some t) :
    t.context.eip = entry ∧ t.context.gpr .esp = stackTop t ∧ t.stackSize ≤ 0x1000000 ∧
      t.state ≠ .blocked := by
  obtain ⟨rfl, base, heap, halloc, hthreads⟩ := createThread_call hcreate
  rw [hthreads, getThread_createThread, if_pos rfl] at ht
  obtain rfl := Option.some.inj ht
  refine ⟨rfl, ?_, hin.allocated_le halloc, ?_⟩
  · change Function.update (fun _ => (0 : U32)) Reg32.esp (base + KernelHle.stackSize requested)
      Reg32.esp = base + BitVec.ofNat 32 (KernelHle.stackSize requested).toNat
    rw [Function.update_self, BitVec.ofNat_toNat, BitVec.setWidth_eq]
  · intro heq
    dsimp only at heq
    split_ifs at heq

end Creation

/-! ## Requests -/

section Requests

variable {δ : Type} {k : KernelState} {step : KernelStep δ}

/-- What the host does. -/
theorem Unstarted.hosted {k : KernelHle} (h : Unstarted tid ctx k.threads)
    (request : KernelRequest) : Unstarted tid ctx (request.hosted k).threads := by
  cases request with
  | thunk ordinal => exact h
  | checkTimeouts currentCycle => exact h.tends (c := .checkTimeouts currentCycle k.handles) trivial
  | allocateTimer type => exact h
  | advanceTimer handle currentCycle =>
    unfold KernelRequest.hosted KernelHle.advanceTimer
    dsimp only
    split
    · exact h
    · exact h
  | setCurrentCycle cycle => exact h

/-- What a request leaves of the thread: as it is, or current with its first context handed to
the dispatcher. -/
theorem Unstarted.next (h : Unstarted tid ctx k.hle.threads) (hguard : NotStarted tid k step) :
    Unstarted tid ctx (step.next k).hle.threads ∨ (step.next k).hle.threads.currentTid = tid ∧
      ∃ entry v, HandlerReturns step k entry v ctx (step.next k) := by
  obtain hkept | hhosted | ⟨entry, v, ctx', hreturns⟩ := next_cases step k
  · rw [hkept]
    exact .inl h
  · rw [hhosted]
    exact .inl (h.hosted step.request)
  · obtain hsame | hdrives := hreturns.drives
    · left
      rw [hsame]
      exact h
    · have hnew : entry.ordinal = 10 → k.hle.threads.nextTid ≠ tid := by
        intro hordinal
        apply hguard.notReplaced
        rw [hreturns.request, hordinal]
      obtain h' | ⟨hcurrent, rfl⟩ := h.drives hdrives hnew
      · exact .inl h'
      · exact .inr ⟨hcurrent, entry, v, hreturns⟩

end Requests

/-! ## The call that creates the thread -/

section Call

variable {δ : Type} {c : CreateCall δ} {entry arg : U32} {t : GuestThread}

/-- An access whose failure is an answer is always answered. -/
theorem attempt_answers {ε σ α : Type} (f : EStateM ε σ α) (s : σ) :
    ∃ r s', (attempt f).run s = .ok r s' := by
  simp only [attempt, EStateM.run]
  cases f s with
  | ok a s' => exact ⟨.ok a, s', rfl⟩
  | error e s' => exact ⟨.error e, s', rfl⟩

/-- The handler, once its arguments are read. -/
theorem createThread_handler (cpu : CpuContext) (k : KernelState) :
    Handlers.createThread cpu k = (createThreadArgs cpu >>= fun args =>
      match args.2.1, args.2.2.1 with
      | .ok startRoutine, .ok arg =>
        match k.hle.createThread (optional args.1) startRoutine arg with
        | (none, hle) => returnedBy cpu k (kInvalidHandle, hle)
        | (some tid, hle) =>
          if (optional args.2.2.2).getD 0 ≠ 0 then do
            let _ ← Guest.write32 ((optional args.2.2.2).getD 0) tid
            returnedBy cpu k (hle.openThread tid)
          else
            returnedBy cpu k (hle.openThread tid)
      | _, _ =>
        Program.fail
          { code := .invalidArgument, message := "Argumentos inválidos para CreateThread" }) :=
  rfl

/-- The handler makes the thread and returns a handle of it, in the context of its caller. -/
theorem createCall_returns (hc : c.Creates entry arg tid t) : ∃ requested hle thunk v,
    c.kernel.hle.createThread requested entry arg = (some tid, hle) ∧ thunk.paramCount = 6 ∧
      HandlerReturns c.step c.kernel thunk v c.cpu
        { c.kernel with hle := (hle.openThread tid).2 } := by
  obtain ⟨stackSize, outId, hargs, hmade⟩ := hc.made
  have hfind : findByOrdinal 10 = some ⟨10, "CreateThread", 6, Handlers.createThread⟩ := by
    simp [findByOrdinal, registeredExports]
  have hrun : ∃ v space', (((Handlers.createThread c.cpu c.kernel).run answer).run c.space) =
      .ok (some (v, c.cpu, { c.kernel with
        hle := ((c.kernel.hle.createThread (optional stackSize) entry arg).2.openThread tid).2 }))
        space' := by
    rw [createThread_handler, Program.run_bind, EStateM.run_bind, eq_ok_of_outcome hargs]
    dsimp only
    have hcreate : c.kernel.hle.createThread (optional stackSize) entry arg =
        (some tid, (c.kernel.hle.createThread (optional stackSize) entry arg).2) :=
      Prod.ext hmade rfl
    rw [hcreate]
    dsimp only
    split
    · obtain ⟨r, space', hwrite⟩ := attempt_answers
        (AddressSpace.write32 ((optional outId).getD 0) tid) (stateAfter
          (((createThreadArgs c.cpu).run answer).run c.space))
      have hask : (Guest.write32 ((optional outId).getD 0) tid).run (answer (δ := δ)) =
          attempt (AddressSpace.write32 ((optional outId).getD 0) tid) :=
        Program.run_request (S := guestSignature) (.write32 _ _)
      rw [Program.run_bind, EStateM.run_bind, hask, hwrite]
      exact ⟨_, _, rfl⟩
    · exact ⟨_, _, rfl⟩
  obtain ⟨v, space', hrun⟩ := hrun
  exact ⟨optional stackSize, _, _, v, Prod.ext hmade rfl, rfl,
    handlerReturns_of_run ⟨10, "CreateThread", 6, Handlers.createThread⟩ hfind hrun⟩

/-- A created thread that is not current is unstarted. -/
theorem created_unstarted (hc : c.Creates entry arg tid t)
    (hlater : c.created.hle.threads.currentTid ≠ tid) :
    t.context.eip = entry ∧ t.context.gpr .esp = stackTop t ∧ t.stackSize ≤ 0x1000000 ∧
      Unstarted tid t.context c.created.hle.threads := by
  obtain ⟨requested, hle, thunk, v, hcreate, -, hreturns⟩ := createCall_returns hc
  have hcreated : c.created.hle.threads = hle.threads := by
    unfold CreateCall.created
    rw [hreturns.next]
    rfl
  have hget := hc.thread
  rw [hcreated] at hget hlater ⊢
  obtain ⟨heip, hesp, hsize, hstate⟩ := createThread_thread (CreateCall.inPlace c) hcreate hget
  exact ⟨heip, hesp, hsize, hlater, t, hget, rfl, hstate⟩

/-- A thread that is current at once goes on in the frame of its creator. -/
theorem starts_atOnce (hc : c.Creates entry arg tid t)
    (hcurrent : c.created.hle.threads.currentTid = tid) :
    Starts (c.step.after c.kernel) t entry arg ↔ InFrame c tid t entry arg := by
  obtain ⟨requested, hle, thunk, v, -, hparams, hreturns⟩ := createCall_returns hc
  obtain ⟨handle, hreturned⟩ := hc.returns
  have hafter := hreturns.after
  rw [hparams] at hafter
  cases hread : (AddressSpace.read32 (c.cpu.gpr .esp)).run (c.step.left c.kernel) with
  | error e space =>
    -- the call would fail
    have hhandled : ((thunk.handler c.cpu c.kernel).run answer).run c.space = _ := hreturns.run
    have hrun := dispatch_registered c.cpu ⟨c.space, c.kernel⟩ hreturns.found
    dsimp only at hrun
    rw [hhandled] at hrun
    dsimp only at hrun
    rw [hread] at hrun
    have hordinal : thunk.ordinal = 10 := (KernelRequest.thunk.inj hreturns.request).symm
    rw [← hordinal, hrun] at hreturned
    cases hreturned
  | ok retAddr space =>
    rw [hread] at hafter
    dsimp only at hafter
    have hesp : (c.step.after c.kernel).ctx.gpr .esp = c.cpu.gpr .esp + 28 := by
      rw [hafter]
      simp [CpuContext.setGpr, BitVec.add_assoc]
    have heip : (c.step.after c.kernel).ctx.eip = retAddr := by rw [hafter]
    constructor
    · intro hstarts
      refine ⟨hcurrent, ?_, ?_, ?_⟩
      · rw [hread, ← hstarts.entry, heip]
        rfl
      · rw [← hesp]
        exact hstarts.stack
      · have hargument := hstarts.argument
        rw [hesp, BitVec.add_assoc] at hargument
        exact hargument
    · intro hframe
      refine ⟨?_, ?_, ?_⟩
      · have hreturn := hframe.returns
        rw [hread] at hreturn
        rw [heip]
        exact Except.ok.inj hreturn
      · rw [hesp]
        exact hframe.stack
      · rw [hesp, BitVec.add_assoc]
        exact hframe.argument

/-- No export pops more than eight arguments. -/
theorem paramCount_le {e : ExportEntry} (he : e ∈ registeredExports) : e.paramCount ≤ 8 := by
  have hall : ∀ e ∈ registeredExports, e.paramCount ≤ 8 := by simp [registeredExports]
  exact hall e he

/-- A thread that is switched to by a call: the call pops a word from the top of its stack, which
leaves the stack pointer above the stack, or fails for want of such a word. -/
theorem starts_switched {k : KernelState} {step : KernelStep δ} {thunk : ExportEntry} {v : U32}
    {kernel : KernelState} (hentry : t.context.eip = entry)
    (hesp : t.context.gpr .esp = stackTop t) (hsize : t.stackSize ≤ 0x1000000)
    (hreturns : HandlerReturns step k thunk v t.context kernel) :
    Starts (step.after k) t entry arg ↔
      (∀ word, outcome ((AddressSpace.read32 (stackTop t)).run (step.left k)) ≠ .ok word) ∧
        outcome ((AddressSpace.read32 (stackTop t + 4)).run (step.after k).mem.space) = .ok arg := by
  have hafter := hreturns.after
  rw [hesp] at hafter
  cases hread : (AddressSpace.read32 (stackTop t)).run (step.left k) with
  | error e space =>
    rw [hread] at hafter
    dsimp only at hafter
    have hsame : (step.after k).ctx.gpr .esp = stackTop t := by
      rw [hafter, ← hesp]
      simp [CpuContext.setGpr]
    constructor
    · intro hstarts
      refine ⟨?_, ?_⟩
      · intro word hword
        cases hword
      · rw [← hsame]
        exact hstarts.argument
    · rintro ⟨-, hargument⟩
      refine ⟨?_, ?_, ?_⟩
      · rw [hafter]
        exact hentry
      · rw [hsame]
        unfold stackTop
        rw [BitVec.add_comm, BitVec.add_sub_cancel, BitVec.toNat_ofNat]
        exact Nat.mod_le _ _
      · rw [hsame]
        exact hargument
  | ok retAddr space =>
    rw [hread] at hafter
    dsimp only at hafter
    constructor
    · intro hstarts
      have hstack := hstarts.stack
      have hparams := paramCount_le hreturns.registered
      have habove : ((step.after k).ctx.gpr .esp - t.stackBase).toNat =
          t.stackSize + (4 + thunk.paramCount * 4) := by
        have hoffset : (step.after k).ctx.gpr .esp - t.stackBase =
            BitVec.ofNat 32 (t.stackSize + (4 + thunk.paramCount * 4)) := by
          rw [hafter]
          simp only [CpuContext.setGpr, Function.update_self, stackTop, BitVec.ofNat_add]
          grind
        rw [hoffset, BitVec.toNat_ofNat, Nat.mod_eq_of_lt (by omega)]
      omega
    · rintro ⟨hunread, -⟩
      exact absurd rfl (hunread retAddr)

/-- Until it is current a created thread stays unstarted. -/
theorem created_runs (hc : c.Creates entry arg tid t) {steps : List (KernelStep δ)}
    {k : KernelState} (hruns : KernelStep.Runs (NotStarted tid) steps c.created k)
    (hcurrent : k.hle.threads.currentTid ≠ tid) : Unstarted tid t.context k.hle.threads := by
  have hlater : c.created.hle.threads.currentTid ≠ tid := by
    cases hruns with
    | nil => exact hcurrent
    | cons hguard => exact hguard.notCurrent
  obtain ⟨-, -, -, hunstarted⟩ := created_unstarted hc hlater
  have hinv : k.hle.threads.currentTid = tid ∨ Unstarted tid t.context k.hle.threads := by
    refine hruns.invariant (I := fun k => k.hle.threads.currentTid = tid ∨
      Unstarted tid t.context k.hle.threads) ?_ (.inr hunstarted)
    rintro k step (hcurr | h) hguard
    · exact absurd hcurr hguard.notCurrent
    · obtain h' | ⟨hcurr, -⟩ := h.next hguard
      · exact .inr h'
      · exact .inl hcurr
  exact hinv.resolve_left hcurrent

end Call

/-- A created thread keeps its first context until it is current; and it starts then exactly with
words that are in memory by chance, since nothing puts its argument there and the call that
switches to it pops from its stack. -/
theorem created_thread_starts {δ : Type} {c : CreateCall δ} {entry arg : U32} {tid : ThreadId}
    {t : GuestThread} (hc : c.Creates entry arg tid t) :
    (∀ (steps : List (KernelStep δ)) (k : KernelState),
      KernelStep.Runs (NotStarted tid) steps c.created k → k.hle.threads.currentTid ≠ tid →
        Saves tid t.context k) ∧
    ∀ (step : KernelStep δ) (k : KernelState), FirstSwitch c tid step k →
      (Starts (step.after k) t entry arg ↔
        InFrame c tid t entry arg ∨ AboveStack c tid t arg step k) := by
  refine ⟨?_, ?_⟩
  · intro steps k hruns hcurrent
    obtain ⟨t', hget, hctx, -⟩ := (created_runs hc hruns hcurrent).saved
    exact ⟨t', hget, hctx⟩
  · intro step k hfirst
    cases hfirst with
    | atOnce hcurrent =>
      rw [starts_atOnce hc hcurrent]
      constructor
      · exact .inl
      · rintro (hframe | habove)
        · exact hframe
        · exact absurd hcurrent habove.notCurrent
    | later hruns hlast hswitch =>
      have hlater : c.created.hle.threads.currentTid ≠ tid := by
        cases hruns with
        | nil => exact hlast.notCurrent
        | cons hguard => exact hguard.notCurrent
      obtain ⟨heip, hesp, hsize, -⟩ := created_unstarted hc hlater
      obtain h | ⟨-, thunk, v, hreturns⟩ :=
        (created_runs hc hruns hlast.notCurrent).next hlast
      · exact absurd hswitch h.notCurrent
      · rw [starts_switched heip hesp hsize hreturns]
        constructor
        · rintro ⟨hunread, hargument⟩
          exact .inr ⟨hlater, hunread, hargument⟩
        · rintro (hframe | habove)
          · exact absurd hframe.current hlater
          · exact ⟨habove.unread, habove.argument⟩

/-! ## Two threads -/

/-- A page with the frame of a caller of `CreateThread`: entry 0x2000, and the argument. -/
def callerFrame (arg : U32) : Ram :=
  (Ram.poke { size := 0x1000, data := fun _ => 0 } 0x10D 0x20).pokeBytes 0x110
    [byteOf arg 0, byteOf arg 1, byteOf arg 2, byteOf arg 3]

/-- The frame of the caller, and blank RAM from an address on. -/
def threadMemory (arg : U32) (base : GuestAddr) (size : GuestSize) : AddressSpace Unit where
  regions :=
    [{ base := 0, size := 0x1000, permissions := .all, type := .ram 0 0 },
     { base := base, size := size, permissions := .all, type := .ram 1 0 }]
  rams := fun bank =>
    if bank = 0 then callerFrame arg else { size := size.toNat, data := fun _ => 0 }
  devices := ()

/-- The context of the caller. -/
def callerContext : CpuContext := ({} : CpuContext).setGpr .esp 0x100

/-- The second of two calls of `CreateThread`, with no thread before them. -/
def secondCall (space : AddressSpace Unit) : CreateCall Unit where
  mounts := fun _ => none
  earlier := [⟨.thunk 10, callerContext, space⟩]
  cpu := callerContext
  space := space

/-- `KeYieldExecution`. -/
def yieldStep (space : AddressSpace Unit) : KernelStep Unit := ⟨.thunk 55, callerContext, space⟩

/-- Memory for a second thread with argument 0, with a hole of four bytes on top of its stack. -/
def holeMemory : AddressSpace Unit := threadMemory 0 0x10020004 0x1000

/-- The second thread starts when the first yields, and the yield fails. -/
theorem created_thread_starts_zero : ∃ t,
    (secondCall holeMemory).Creates 0x2000 0 2 t ∧
      Starts ((yieldStep holeMemory).after (secondCall holeMemory).created) t 0x2000 0 := by
  obtain ⟨t, ht⟩ : ∃ t, (secondCall holeMemory).created.hle.threads.getThread 2 = some t :=
    Option.isSome_iff_exists.mp (by decide +kernel)
  have htop : stackTop t = 0x10020000 := by
    have hmap : ((secondCall holeMemory).created.hle.threads.getThread 2).map stackTop =
        some 0x10020000 := by decide +kernel
    rw [ht] at hmap
    exact Option.some.inj hmap
  have hcreates : (secondCall holeMemory).Creates 0x2000 0 2 t :=
    ⟨⟨.ok 0, .ok 0, by decide +kernel, by decide +kernel⟩, ⟨0x10001, by decide +kernel⟩, ht⟩
  have hlast : NotStarted 2 (secondCall holeMemory).created (yieldStep holeMemory) := by
    refine ⟨by decide +kernel, ?_⟩
    intro heq
    cases heq
  refine ⟨t, hcreates, ?_⟩
  rw [(created_thread_starts hcreates).2 _ _ (.later (.nil _) hlast (by decide +kernel))]
  refine .inr ⟨by decide +kernel, ?_, ?_⟩
  · have hunread : (outcome ((AddressSpace.read32 (0x10020000 : U32)).run
        ((yieldStep holeMemory).left (secondCall holeMemory).created))).toOption = none := by
      decide +kernel
    rw [htop]
    intro word hword
    rw [hword] at hunread
    cases hunread
  · rw [htop]
    decide +kernel

/-- Memory for a second thread with argument 0x1234, without a hole. -/
def wholeMemory : AddressSpace Unit := threadMemory 0x1234 0x10000000 0x1000000

/-- When the first thread yields, the second goes on at the word on top of its stack. -/
theorem created_thread_without_argument : ∃ t,
    (secondCall wholeMemory).Creates 0x2000 0x1234 2 t ∧
      FirstSwitch (secondCall wholeMemory) 2 (yieldStep wholeMemory)
        (secondCall wholeMemory).created ∧
      ¬ Starts ((yieldStep wholeMemory).after (secondCall wholeMemory).created) t 0x2000 0x1234 := by
  obtain ⟨t, ht⟩ : ∃ t, (secondCall wholeMemory).created.hle.threads.getThread 2 = some t :=
    Option.isSome_iff_exists.mp (by decide +kernel)
  have hlast : NotStarted 2 (secondCall wholeMemory).created (yieldStep wholeMemory) := by
    refine ⟨by decide +kernel, ?_⟩
    intro heq
    cases heq
  refine ⟨t, ⟨⟨.ok 0, .ok 0, by decide +kernel, by decide +kernel⟩, ⟨0x10001, by decide +kernel⟩, ht⟩,
    .later (.nil _) hlast (by decide +kernel), ?_⟩
  intro hstarts
  have heip : ((yieldStep wholeMemory).after (secondCall wholeMemory).created).ctx.eip = 0 := by
    decide +kernel
  have hentry := hstarts.entry
  rw [heip] at hentry
  cases hentry

end Xblob.Analysis
