import Xblob.Analysis.SchedulerFiring

/-!
# Runs with a limit on their events

A run that stops at its limit leaves the scheduler as it is, and the next call goes on from
there.  The two runs, with the limit and without, go through the same points: the limit
decides only where the calls are cut.  A cut costs something in one case: the next call
refuses a target behind the clock, and the clock can be beyond the target at a cut when a
callback has moved it there.  The run without a limit does not look, and goes on.
-/

set_option autoImplicit false

namespace Xblob.Analysis

open Xblob.Computation Xblob.Core Xblob.Core.Host Xblob.Interface

variable {κ σ : Type} {behave : κ → Cycle → Callback κ σ}

/-! ## More turns -/

/-- A checked run covers one with a shorter loop. -/
theorem covers_checkedRun {loop loop' : Cycle → U64 → EStateM Unfinished (Host κ σ) SchedulerStatus}
    (hloop : ∀ t m, Covers (loop t m) (loop' t m)) (targetCycle : Cycle) (maxEvents : U64) :
    Covers (checkedRun loop targetCycle maxEvents) (checkedRun loop' targetCycle maxEvents) := by
  unfold checkedRun
  apply (covers_refl _).bind
  intro h
  by_cases hpast : targetCycle < h.scheduler.currentCycle
  · rw [if_pos hpast, if_pos hpast]
    exact covers_refl _
  · rw [if_neg hpast, if_neg hpast]
    exact (hloop targetCycle maxEvents).bind fun _ => covers_refl _

/-- The answers to a callback cover those with a shorter loop. -/
theorem covers_answer {loop loop' : Cycle → U64 → EStateM Unfinished (Host κ σ) SchedulerStatus}
    (hloop : ∀ t m, Covers (loop t m) (loop' t m)) (c : SchedulerCall κ σ) :
    Covers (answer loop c) (answer loop' c) := by
  cases c with
  | runUntil targetCycle maxEvents => exact covers_checkedRun hloop targetCycle maxEvents
  | stepCycles delta maxEvents =>
    apply (covers_refl _).bind
    intro h
    cases checkedAdd h.scheduler.currentCycle delta with
    | none => exact covers_refl _
    | some targetCycle => exact covers_checkedRun hloop targetCycle maxEvents
  | _ => exact covers_refl _

/-- A callback covers one with a shorter loop. -/
theorem covers_callBack {loop loop' : Cycle → U64 → EStateM Unfinished (Host κ σ) SchedulerStatus}
    (hloop : ∀ t m, Covers (loop t m) (loop' t m)) (ev : Event κ) :
    Covers (callBack behave loop ev) (callBack behave loop' ev) := by
  unfold callBack
  cases ev.callback with
  | none => exact covers_refl _
  | some name => exact Program.covers_run (covers_answer hloop) _

/-- A run that returns, returns the same with one turn more. -/
theorem covers_runLoop_succ (turns : ℕ) (eventsFired : U64) (targetCycle : Cycle)
    (maxEvents : U64) :
    Covers (runLoop behave turns eventsFired targetCycle maxEvents)
      (runLoop behave (turns + 1) eventsFired targetCycle maxEvents) := by
  induction turns generalizing eventsFired targetCycle maxEvents with
  | zero => exact fun _ _ _ hr => nomatch hr
  | succ turns ih =>
    intro h status h' hr
    cases hq : h.scheduler.eventQueue with
    | nil =>
      rw [runLoop_empty hq] at hr ⊢
      exact hr
    | cons top rest =>
      by_cases hcanceled : top.id ∈ h.scheduler.canceledIds
      · rw [runLoop_drop hq hcanceled] at hr ⊢
        exact ih _ _ _ _ _ _ hr
      · by_cases hlate : top.targetCycle > targetCycle
        · rw [runLoop_late hq hcanceled hlate] at hr ⊢
          exact hr
        · by_cases hlimit : eventsFired ≥ maxEvents
          · rw [runLoop_limit hq hcanceled hlate hlimit] at hr ⊢
            exact hr
          · rw [runLoop_fire hq hcanceled hlate hlimit] at hr ⊢
            have hcall : Covers (callBack behave (runLoop behave turns 0) top)
                (callBack behave (runLoop behave (turns + 1) 0) top) :=
              covers_callBack (fun t m => ih 0 t m) top
            exact hcall.bind (fun _ => ih _ _ _) _ _ _ hr

/-- A loop with more turns covers one with fewer. -/
theorem covers_runLoop {turns turns' : ℕ} (hle : turns ≤ turns') (eventsFired : U64)
    (targetCycle : Cycle) (maxEvents : U64) :
    Covers (runLoop behave turns eventsFired targetCycle maxEvents)
      (runLoop behave turns' eventsFired targetCycle maxEvents) := by
  induction hle with
  | refl => exact covers_refl _
  | step _ ih => exact ih.trans (covers_runLoop_succ _ _ _ _)

/-- What `RunUntil` returns does not depend on the turns it is given. -/
theorem returns_unique {targetCycle : Cycle} {maxEvents : U64} {h h₁ h₂ : Host κ σ}
    {r₁ r₂ : Result SchedulerStatus} (hr₁ : Returns behave targetCycle maxEvents h r₁ h₁)
    (hr₂ : Returns behave targetCycle maxEvents h r₂ h₂) : r₁ = r₂ ∧ h₁ = h₂ := by
  obtain ⟨turns₁, hr₁⟩ := hr₁
  obtain ⟨turns₂, hr₂⟩ := hr₂
  have hmore : ∀ turns, turns ≤ max turns₁ turns₂ →
      Covers (runUntil behave turns targetCycle maxEvents)
        (runUntil behave (max turns₁ turns₂) targetCycle maxEvents) := by
    intro turns hle
    exact covers_checkedRun (fun t m => covers_runLoop hle 0 t m) targetCycle maxEvents
  have hsame := (hmore turns₁ (Nat.le_max_left _ _) _ _ _ hr₁).symm.trans
    (hmore turns₂ (Nat.le_max_right _ _) _ _ _ hr₂)
  cases hsame
  exact ⟨rfl, rfl⟩

/-! ## The points of a run -/

/-- Passing events composes. -/
theorem Passes.trans {targetCycle : Cycle} {m n : ℕ} {h₁ h₂ h₃ : Host κ σ}
    (h : Passes behave targetCycle m h₁ h₂) (h' : Passes behave targetCycle n h₂ h₃) :
    Passes behave targetCycle (m + n) h₁ h₃ := by
  induction h with
  | here h =>
    rw [Nat.zero_add]
    exact h'
  | dropped hq hcanceled _ ih => exact .dropped hq hcanceled (ih h')
  | fired hq hlive hdue hcall _ ih =>
    rw [Nat.add_right_comm]
    exact .fired hq hlive hdue hcall (ih h')

/-- Without an event fired, the clock stands. -/
theorem Passes.clock {targetCycle : Cycle} {h p : Host κ σ} {n : ℕ}
    (hp : Passes behave targetCycle n h p) (hn : n = 0) :
    p.scheduler.currentCycle = h.scheduler.currentCycle := by
  induction hp with
  | here h => rfl
  | dropped _ _ _ ih => exact ih hn
  | fired _ _ _ _ _ _ => cases hn

/-- A run that fires more than `m` events, or is about to, passes a point where it has fired
`m` and the next is due. -/
theorem Passes.split {targetCycle : Cycle} {m n k : ℕ} {h q : Host κ σ}
    (hq : Passes behave targetCycle k h q) (hk : k = m + n) (hdue : NextDue targetCycle q) :
    ∃ p, Passes behave targetCycle m h p ∧ NextDue targetCycle p ∧
      Passes behave targetCycle n p q := by
  induction hq generalizing m with
  | here h =>
    obtain ⟨rfl, rfl⟩ : m = 0 ∧ n = 0 := by omega
    exact ⟨h, .here h, hdue, .here h⟩
  | dropped hq hcanceled _ ih =>
    obtain ⟨p, hmp, hp, hpq⟩ := ih hk hdue
    exact ⟨p, .dropped hq hcanceled hmp, hp, hpq⟩
  | @fired k turns h h₁ h' top rest hq hlive hdue' hcall hnext ih =>
    cases m with
    | zero =>
      refine ⟨h, .here h, ⟨top, rest, hq, hlive, hdue'⟩, ?_⟩
      obtain rfl : n = k + 1 := by omega
      exact .fired hq hlive hdue' hcall hnext
    | succ m =>
      obtain ⟨p, hmp, hp, hpq⟩ := ih (m := m) (by omega) hdue
      exact ⟨p, .fired hq hlive hdue' hcall hmp, hp, hpq⟩

/-- A count below another counts one more. -/
theorem toNat_succ_below {x y : U64} (h : x < y) : (x + 1).toNat = x.toNat + 1 := by
  rw [BitVec.lt_def] at h
  have := y.isLt
  rw [BitVec.toNat_add, Nat.mod_eq_of_lt]
  · rfl
  · change x.toNat + 1 < _
    omega

/-- A run with a limit stops at the point where it has fired as many events. -/
theorem runLoop_interrupted {targetCycle : Cycle} {maxEvents eventsFired : U64} {n : ℕ}
    {h p : Host κ σ} (hp : Passes behave targetCycle n h p) (hdue : NextDue targetCycle p)
    (hn : eventsFired.toNat + n = maxEvents.toNat) :
    ∃ turns, (runLoop behave turns eventsFired targetCycle maxEvents).run h =
      .ok .eventLimitReached p := by
  induction hp generalizing eventsFired with
  | here h =>
    obtain ⟨top, rest, hq, hlive, hle⟩ := hdue
    refine ⟨1, runLoop_limit hq hlive (BitVec.not_lt.mpr hle) ?_⟩
    rw [ge_iff_le, BitVec.le_def]
    omega
  | dropped hq hcanceled _ ih =>
    obtain ⟨turns, hrun⟩ := ih hdue hn
    refine ⟨turns + 1, ?_⟩
    rw [runLoop_drop hq hcanceled]
    exact hrun
  | @fired n turns₁ h h₁ h' top rest hq hlive hle hcall hnext ih =>
    have hlt : eventsFired < maxEvents := by
      rw [BitVec.lt_def]
      omega
    have hcount : (eventsFired + 1).toNat + n = maxEvents.toNat := by
      rw [toNat_succ_below hlt]
      omega
    obtain ⟨turns₂, hrun⟩ := ih hdue hcount
    refine ⟨max turns₁ turns₂ + 1, ?_⟩
    have hlimit : ¬ eventsFired ≥ maxEvents := BitVec.not_le.mpr hlt
    have hcall' : (callBack behave (runLoop behave (max turns₁ turns₂) 0) top).run
        (h.record (.fired top) (h.scheduler.takeEvent top rest)) = .ok () h₁ :=
      covers_callBack (fun t m => covers_runLoop (Nat.le_max_left _ _) 0 t m) top _ _ _ hcall
    rw [runLoop_fire hq hlive (BitVec.not_lt.mpr hle) hlimit, EStateM.run_bind, hcall']
    exact covers_runLoop (Nat.le_max_right _ _) _ _ _ _ _ _ hrun

/-- How a run with a limit follows one that reaches its target: to the target, or to a point
where the limit is used up, from where the other goes on. -/
inductive Follows (behave : κ → Cycle → Callback κ σ) (targetCycle : Cycle) (maxEvents : U64)
    (turns : ℕ) (eventsFired : U64) (h h' : Host κ σ) : Prop
  | reached (hrun : (runLoop behave turns eventsFired targetCycle maxEvents).run h =
      .ok .targetReached h')
  | cut (p : Host κ σ) (turns' : ℕ) (fired : U64)
      (hrun : (runLoop behave turns eventsFired targetCycle maxEvents).run h =
        .ok .eventLimitReached p)
      (hpasses : Passes behave targetCycle (maxEvents.toNat - eventsFired.toNat) h p)
      (hdue : NextDue targetCycle p)
      (hfewer : turns' ≤ turns ∧ (eventsFired < maxEvents → turns' < turns))
      (hrest : (runLoop behave turns' fired targetCycle kUnlimitedEvents).run p =
        .ok .targetReached h')

/-- A run without a limit is followed by one with a limit. -/
theorem runLoop_follows {targetCycle : Cycle} {maxEvents : U64} (turns : ℕ)
    {eventsFired fired : U64} {h h' : Host κ σ}
    (hrun : (runLoop behave turns fired targetCycle kUnlimitedEvents).run h =
      .ok .targetReached h') :
    Follows behave targetCycle maxEvents turns eventsFired h h' := by
  induction turns generalizing eventsFired fired h with
  | zero => cases hrun
  | succ turns ih =>
    have hrun' := hrun
    cases hq : h.scheduler.eventQueue with
    | nil =>
      have htop : ∀ top rest, h.scheduler.eventQueue = top :: rest →
          top.id ∉ h.scheduler.canceledIds ∧ top.targetCycle > targetCycle := by
        intro top rest hcons
        rw [hq] at hcons
        cases hcons
      rw [runLoop_empty hq, finishRun_eq htop] at hrun
      apply Follows.reached
      rw [runLoop_empty hq, finishRun_eq htop]
      exact hrun
    | cons top rest =>
      by_cases hcanceled : top.id ∈ h.scheduler.canceledIds
      · rw [runLoop_drop hq hcanceled] at hrun
        have hfollows : Follows behave targetCycle maxEvents turns eventsFired _ h' := ih hrun
        cases hfollows with
        | reached hlim =>
          apply Follows.reached
          rw [runLoop_drop hq hcanceled]
          exact hlim
        | cut p turns' fired' hlim hpasses hdue hfewer hrest =>
          refine .cut p turns' fired' ?_ (.dropped hq hcanceled hpasses) hdue ?_ hrest
          · rw [runLoop_drop hq hcanceled]
            exact hlim
          · omega
      · by_cases hlate : top.targetCycle > targetCycle
        · have htop : ∀ top' rest', h.scheduler.eventQueue = top' :: rest' →
              top'.id ∉ h.scheduler.canceledIds ∧ top'.targetCycle > targetCycle := by
            intro top' rest' hcons
            rw [hq] at hcons
            cases hcons
            exact ⟨hcanceled, hlate⟩
          rw [runLoop_late hq hcanceled hlate, finishRun_eq htop] at hrun
          apply Follows.reached
          rw [runLoop_late hq hcanceled hlate, finishRun_eq htop]
          exact hrun
        · -- the event is due: without a limit it is fired, with one it may have to wait
          have hgoes : ¬ fired ≥ kUnlimitedEvents := by
            intro hlimit
            rw [runLoop_limit hq hcanceled hlate hlimit] at hrun
            cases hrun
          by_cases hlimit : eventsFired ≥ maxEvents
          · refine .cut h (turns + 1) fired (runLoop_limit hq hcanceled hlate hlimit) ?_
              ⟨top, rest, hq, hcanceled, BitVec.not_lt.mp hlate⟩ ⟨Nat.le_refl _, ?_⟩ hrun'
            · have hzero : maxEvents.toNat - eventsFired.toNat = 0 := by
                rw [ge_iff_le, BitVec.le_def] at hlimit
                omega
              rw [hzero]
              exact .here h
            · intro hlt
              exact absurd hlimit (BitVec.not_le.mpr hlt)
          · have hlt : eventsFired < maxEvents := BitVec.not_le.mp hlimit
            rw [runLoop_fire hq hcanceled hlate hgoes, EStateM.run_bind] at hrun
            cases hcall : (callBack behave (runLoop behave turns 0) top).run
                (h.record (.fired top) (h.scheduler.takeEvent top rest)) with
            | error e h₁ =>
              rw [hcall] at hrun
              cases hrun
            | ok u h₁ =>
              rw [hcall] at hrun
              have hlimited : ∀ {status h₂},
                  (runLoop behave turns (eventsFired + 1) targetCycle maxEvents).run h₁ =
                    .ok status h₂ →
                  (runLoop behave (turns + 1) eventsFired targetCycle maxEvents).run h =
                    .ok status h₂ := by
                intro status h₂ hr
                rw [runLoop_fire hq hcanceled hlate hlimit, EStateM.run_bind, hcall]
                exact hr
              have hfollows : Follows behave targetCycle maxEvents turns (eventsFired + 1) h₁ h' :=
                ih hrun
              cases hfollows with
              | reached hlim => exact .reached (hlimited hlim)
              | cut p turns' fired' hlim hpasses hdue hfewer hrest =>
                refine .cut p turns' fired' (hlimited hlim) ?_ hdue ?_ hrest
                · have hcount : maxEvents.toNat - eventsFired.toNat =
                      maxEvents.toNat - (eventsFired + 1).toNat + 1 := by
                    rw [toNat_succ_below hlt]
                    rw [BitVec.lt_def] at hlt
                    omega
                  rw [hcount]
                  exact .fired hq hcanceled (BitVec.not_lt.mp hlate) hcall hpasses
                · omega

/-! ## Splitting -/

/-- `RunUntil` accepts its target and runs its loop. -/
theorem returns_of_runLoop {targetCycle : Cycle} {maxEvents : U64} {turns : ℕ} {h h' : Host κ σ}
    {status : SchedulerStatus} (hclock : h.scheduler.currentCycle ≤ targetCycle)
    (hrun : (runLoop behave turns 0 targetCycle maxEvents).run h = .ok status h') :
    Returns behave targetCycle maxEvents h (.ok status) h' := by
  refine ⟨turns, ?_⟩
  unfold runUntil checkedRun
  rw [EStateM.run_bind, EStateM.run_get]
  dsimp only
  rw [if_neg (BitVec.not_lt.mpr hclock), EStateM.run_bind, hrun]
  rfl

/-- A run that returns has a loop that does. -/
theorem runLoop_of_returns {targetCycle : Cycle} {maxEvents : U64} {h h' : Host κ σ}
    {status : SchedulerStatus} (hr : Returns behave targetCycle maxEvents h (.ok status) h') :
    h.scheduler.currentCycle ≤ targetCycle ∧
      ∃ turns, (runLoop behave turns 0 targetCycle maxEvents).run h = .ok status h' := by
  obtain ⟨turns, hrun⟩ := hr
  unfold runUntil checkedRun at hrun
  rw [EStateM.run_bind, EStateM.run_get] at hrun
  dsimp only at hrun
  by_cases hpast : targetCycle < h.scheduler.currentCycle
  · rw [if_pos hpast] at hrun
    cases hrun
  · rw [if_neg hpast, EStateM.run_bind] at hrun
    refine ⟨BitVec.not_lt.mp hpast, turns, ?_⟩
    cases hloop : (runLoop behave turns 0 targetCycle maxEvents).run h with
    | error e h₁ =>
      rw [hloop] at hrun
      cases hrun
    | ok s h₁ =>
      rw [hloop] at hrun
      cases hrun
      rfl

/-- Interrupted in time only, the repetition reaches the target where the single run does. -/
theorem repeated_of_inTime {targetCycle : Cycle} {maxEvents : U64} (hpos : 0 < maxEvents)
    (turns : ℕ) {fired : U64} {h h' : Host κ σ} (hclock : h.scheduler.currentCycle ≤ targetCycle)
    (hrun : (runLoop behave turns fired targetCycle kUnlimitedEvents).run h =
      .ok .targetReached h')
    (hin : InterruptedInTime behave targetCycle maxEvents h) :
    Repeated behave targetCycle maxEvents h h' := by
  -- the turns that the single run has left go down with every call
  induction turns using Nat.strong_induction_on generalizing fired h with
  | _ turns ih =>
    have hfollows : Follows behave targetCycle maxEvents turns 0 h h' := runLoop_follows turns hrun
    cases hfollows with
    | reached hlim => exact .last (returns_of_runLoop hclock hlim)
    | cut p turns' fired' hlim hpasses hdue hfewer hrest =>
      have hzero : maxEvents.toNat - (0 : U64).toNat = maxEvents.toNat := rfl
      rw [hzero] at hpasses
      refine .again (returns_of_runLoop hclock hlim) (ih turns' (hfewer.2 hpos) ?_ hrest ?_)
      · refine hin 1 p ?_ hdue
        rw [Nat.one_mul]
        exact hpasses
      · intro j q hq hnext
        refine hin (j + 1) q ?_ hnext
        rw [Nat.add_mul, Nat.one_mul, Nat.add_comm]
        exact Passes.trans hpasses hq

/-- A repetition that reaches the target has been interrupted in time only. -/
theorem inTime_of_repeated {targetCycle : Cycle} {maxEvents : U64} {h h' : Host κ σ}
    (hrep : Repeated behave targetCycle maxEvents h h') :
    InterruptedInTime behave targetCycle maxEvents h := by
  have hcut : ∀ {h p : Host κ σ}, h.scheduler.currentCycle ≤ targetCycle →
      Passes behave targetCycle maxEvents.toNat h p → NextDue targetCycle p →
      Returns behave targetCycle maxEvents h (.ok .eventLimitReached) p := by
    intro h p hle hp hdue
    have hzero : (0 : U64).toNat + maxEvents.toNat = maxEvents.toNat := Nat.zero_add _
    obtain ⟨turns, hrun⟩ := runLoop_interrupted hp hdue hzero
    exact returns_of_runLoop hle hrun
  induction hrep with
  | @last h h' hlast =>
    intro j q hq hdue
    cases j with
    | zero =>
      rw [Passes.clock hq (Nat.zero_mul _)]
      exact (runLoop_of_returns hlast).1
    | succ j =>
      obtain ⟨p, hp, hpdue, -⟩ := Passes.split (m := maxEvents.toNat) (n := j * maxEvents.toNat) hq
        (by rw [Nat.add_mul, Nat.one_mul, Nat.add_comm]) hdue
      have hstop := hcut (runLoop_of_returns hlast).1 hp hpdue
      cases (returns_unique hlast hstop).1
  | @again h h₁ h' hfirst hrest ih =>
    intro j q hq hdue
    cases j with
    | zero =>
      rw [Passes.clock hq (Nat.zero_mul _)]
      exact (runLoop_of_returns hfirst).1
    | succ j =>
      obtain ⟨p, hp, hpdue, hpq⟩ := Passes.split (m := maxEvents.toNat) (n := j * maxEvents.toNat)
        hq (by rw [Nat.add_mul, Nat.one_mul, Nat.add_comm]) hdue
      have hstop := hcut (runLoop_of_returns hfirst).1 hp hpdue
      obtain ⟨-, rfl⟩ := returns_unique hfirst hstop
      exact ih j q hpq hdue

/-- **Splitting a run by its events.**  Where a run without a limit reaches its target,
repeating it with a limit ends in the same scheduler, with the same events fired, exactly if
it is interrupted only while the clock is not beyond the target. -/
theorem event_limit_splitting (behave : κ → Cycle → Callback κ σ) (h h' : Host κ σ)
    (targetCycle : Cycle) (k : U64) (hpos : 0 < k)
    (hrun : Returns behave targetCycle kUnlimitedEvents h (.ok .targetReached) h') :
    Repeated behave targetCycle k h h' ↔ InterruptedInTime behave targetCycle k h := by
  constructor
  · exact inTime_of_repeated
  · intro hin
    obtain ⟨hclock, turns, hloop⟩ := runLoop_of_returns hrun
    exact repeated_of_inTime hpos turns hclock hloop hin

/-- Callbacks that leave the clock alone interrupt every run in time. -/
theorem inTime_of_leavesClock
    (hbehave : ∀ name cycle, (behave name cycle).Within LeavesClock fun _ => True)
    {targetCycle : Cycle} (k : U64) {h : Host κ σ} (hclock : h.scheduler.currentCycle ≤ targetCycle) :
    InterruptedInTime behave targetCycle k h := by
  intro j p hp hnext
  clear hnext
  generalize j * k.toNat = n at hp
  induction hp with
  | here h => exact hclock
  | dropped _ _ _ ih => exact ih hclock
  | @fired n turns h h₁ h' top rest hq hlive hdue hcall hnext ih =>
    apply ih
    have hkept : Ends (callBack behave (runLoop behave turns 0) top)
        (h.record (.fired top) (h.scheduler.takeEvent top rest))
        (fun _ h₂ => h₂.scheduler.currentCycle ≤ targetCycle)
        fun h₂ => h₂.scheduler.currentCycle ≤ targetCycle := by
      unfold callBack
      cases top.callback with
      | none => exact hdue
      | some name =>
        refine Program.Within.ends ?_ (hbehave name top.targetCycle) hdue
        intro c hc h₂ hle
        exact answer_leavesClock hc hle (fun _ => hle) (fun _ _ _ => hle) fun _ _ => hle
    exact hkept.ok hcall

/-- Two events, run one at a time. -/
theorem event_limit_splitting_run :
    ∃ h', Returns idleCallbacks 9 kUnlimitedEvents
        (hostAfter idleCallbacks 3 0 () [.scheduleEvent 5 (some ()), .scheduleEvent 5 (some ())])
        (.ok .targetReached) h' ∧
      Repeated idleCallbacks 9 1
        (hostAfter idleCallbacks 3 0 () [.scheduleEvent 5 (some ()), .scheduleEvent 5 (some ())])
        h' := by
  have hrun : outcome ((runUntil idleCallbacks 3 9 kUnlimitedEvents).run (hostAfter idleCallbacks 3 0
      () [.scheduleEvent 5 (some ()), .scheduleEvent 5 (some ())])) = .ok (.ok .targetReached) := by
    decide +kernel
  refine ⟨_, ⟨3, eq_ok_of_outcome hrun⟩, ?_⟩
  rw [event_limit_splitting idleCallbacks _ _ 9 1 (by decide) ⟨3, eq_ok_of_outcome hrun⟩]
  apply inTime_of_leavesClock
  · intro _ _
    trivial
  · decide +kernel

/-- A callback that moves the clock by ten cycles. -/
def hastyCallback : Unit → Cycle → Callback Unit Unit := fun _ _ =>
  .ask (.advanceCycles 10) fun _ => .done ()

/-- Two events at cycle 0, the first with a callback that moves the clock. -/
def hastyHost : Host Unit Unit :=
  hostAfter hastyCallback 3 0 () [.scheduleEvent 0 (some ()), .scheduleEvent 0 none]

/-- A run to cycle 5 reaches its target; cut after the first event it is refused, since the
clock is at cycle 10 by then. -/
theorem event_limit_split_refused :
    ∃ h', Returns hastyCallback 5 kUnlimitedEvents hastyHost (.ok .targetReached) h' ∧
      ¬ Repeated hastyCallback 5 1 hastyHost h' := by
  have hrun : outcome ((runUntil hastyCallback 3 5 kUnlimitedEvents).run hastyHost) =
      .ok (.ok .targetReached) := by
    decide +kernel
  have hfirst : outcome ((runUntil hastyCallback 2 5 1).run hastyHost) =
      .ok (.ok .eventLimitReached) := by
    decide +kernel
  have hlate : ¬ (stateAfter ((runUntil hastyCallback 2 5 1).run hastyHost)).scheduler.currentCycle ≤
      5 := by
    decide +kernel
  refine ⟨_, ⟨3, eq_ok_of_outcome hrun⟩, ?_⟩
  intro hrep
  cases hrep with
  | last hlast => cases (returns_unique hlast ⟨2, eq_ok_of_outcome hfirst⟩).1
  | again hfirst' hrest =>
    obtain ⟨-, rfl⟩ := returns_unique hfirst' ⟨2, eq_ok_of_outcome hfirst⟩
    cases hrest with
    | last hnext => exact hlate (runLoop_of_returns hnext).1
    | again hnext _ => exact hlate (runLoop_of_returns hnext).1

end Xblob.Analysis
