import Xblob.Analysis.ThreadSteps
import Xblob.Interface.KernelObjects

/-!
# Where the conversions of guest time are exact

The products wrap at 64 bits long before the quotients would.  A quotient of a product that has
wrapped is always too small.
-/

set_option autoImplicit false

namespace Xblob.Analysis

open Xblob.Interface Xblob.Kernel Xblob.Kernel.ThreadScheduler Xblob.Processor

/-- A product that wraps loses more than the division makes up for. -/
theorem wrapped_quotient_iff {product modulus divisor : ℕ} (hpos : 0 < divisor)
    (hle : divisor ≤ modulus) : product % modulus / divisor = product / divisor ↔ product < modulus := by
  constructor
  · intro h
    by_contra hwraps
    have hwraps : modulus ≤ product := Nat.le_of_not_lt hwraps
    have hless : product % modulus + divisor ≤ product := by
      have hmod := Nat.mod_lt product (Nat.lt_of_lt_of_le hpos hle)
      have hsplit := Nat.div_add_mod product modulus
      have hquotient : 1 ≤ product / modulus := Nat.div_pos hwraps (Nat.lt_of_lt_of_le hpos hle)
      have hmul : modulus * 1 ≤ modulus * (product / modulus) := Nat.mul_le_mul_left _ hquotient
      omega
    have hquotient := Nat.div_le_div_right (c := divisor) hless
    rw [Nat.add_div_right _ hpos] at hquotient
    omega
  · intro h
    rw [Nat.mod_eq_of_lt h]

/-! ## The conversions -/

/-- The system time as the code computes it, at 64 bits. -/
theorem querySystemTime_toNat (t : KernelTime) : t.querySystemTime.toNat =
    126543744000000000 + t.currentCycle.toNat * 10000000 % 0x10000000000000000 / 733333333 := by
  have hwrapped : t.currentCycle.toNat * 10000000 % 0x10000000000000000 < 0x10000000000000000 :=
    Nat.mod_lt _ (by decide)
  unfold KernelTime.querySystemTime kSystemTimeBaseEpoch100Ns kKernelCpuFrequencyHz
  rw [BitVec.toNat_add, BitVec.toNat_udiv, BitVec.toNat_mul]
  change (126543744000000000 + t.currentCycle.toNat * 10000000 % 0x10000000000000000 / 733333333) %
    0x10000000000000000 = _
  omega

/-- The system time is exact exactly where the product fits. -/
theorem systemTime_iff (t : KernelTime) :
    t.querySystemTime.toNat = 126543744000000000 + t.currentCycle.toNat * 10000000 / 733333333 ↔
      t.currentCycle.toNat * 10000000 < 0x10000000000000000 := by
  rw [querySystemTime_toNat, Nat.add_left_cancel_iff, wrapped_quotient_iff (by omega) (by omega)]

/-- While the product fits, later is not less. -/
theorem systemTime_monotone {t t' : KernelTime} (hle : t.currentCycle ≤ t'.currentCycle)
    (hfits : t'.currentCycle.toNat * 10000000 < 0x10000000000000000) :
    t.querySystemTime ≤ t'.querySystemTime := by
  have hproducts : t.currentCycle.toNat * 10000000 ≤ t'.currentCycle.toNat * 10000000 :=
    Nat.mul_le_mul_right _ hle
  rw [BitVec.le_def, (systemTime_iff t').2 hfits,
    (systemTime_iff t).2 (Nat.lt_of_le_of_lt hproducts hfits)]
  exact Nat.add_le_add_left (Nat.div_le_div_right hproducts) _

/-- The magnitude of an interval. -/
theorem magnitude_toNat (interval : U64) :
    (if interval.slt 0 then -interval else interval).toNat = interval.toInt.natAbs := by
  have hsign := BitVec.slt_zero_iff_msb_cond (x := interval)
  have hmsb := BitVec.msb_eq_decide interval
  have hint := BitVec.toInt_eq_toNat_cond interval
  have hlt : interval.toNat < 2 ^ 64 := interval.isLt
  by_cases hneg : interval.slt 0 = true
  · rw [hsign.1 hneg] at hmsb
    have hge := of_decide_eq_true hmsb.symm
    rw [if_pos hneg, BitVec.toNat_neg]
    omega
  · have hsmall : ¬ 2 ^ (64 - 1) ≤ interval.toNat := by
      intro hge
      exact hneg (hsign.2 (hmsb.trans (decide_eq_true hge)))
    rw [if_neg hneg]
    omega

/-- A relative interval as the code computes it, at 64 bits. -/
theorem relative_toNat (interval : U64) : (KernelTime.relative100NsToCycles interval).toNat =
    interval.toInt.natAbs * 733333333 % 0x10000000000000000 / 10000000 := by
  unfold KernelTime.relative100NsToCycles kKernelCpuFrequencyHz
  rw [BitVec.toNat_udiv, BitVec.toNat_mul, magnitude_toNat]
  rfl

/-- A relative interval is exact exactly where the product fits. -/
theorem relative_iff (interval : U64) : (KernelTime.relative100NsToCycles interval).toNat =
    interval.toInt.natAbs * 733333333 / 10000000 ↔
      interval.toInt.natAbs * 733333333 < 0x10000000000000000 := by
  rw [relative_toNat, wrapped_quotient_iff (by omega) (by omega)]

/-! ## The timer and the delay -/

/-- What scheduling does not change about a thread. -/
theorem getThread_scheduleNext {α : Type} {field : GuestThread → α}
    (hfield : ∀ t, field { t with state := .running } = field t) (s : ThreadScheduler)
    (ctx : CpuContext) (tid : ThreadId) :
    ((s.scheduleNext ctx).2.2.getThread tid).map field = (s.getThread tid).map field := by
  have hschedules := scheduleNext_schedules s ctx
  revert hschedules
  generalize s.scheduleNext ctx = r
  intro hschedules
  cases hschedules with
  | idle => rfl
  | @switch dropped rest next t hq hskip hnext hterm hsusp =>
    change ((switched s next rest).getThread tid).map field = _
    rw [getThread_switched]
    split_ifs
    · cases s.getThread tid with
      | none => rfl
      | some t => exact congrArg some (hfield t)
    · rfl

section Calls

variable (c : TimeCalls)

/-- A timer set is due after its interval. -/
theorem timerSet_due : c.timerSet.handles.timers[c.place]?.map TimerObject.dueCycle =
    some (c.cycles + KernelTime.relative100NsToCycles c.interval) := by
  unfold TimeCalls.timerSet KernelHle.keSetTimer
  rw [c.live]
  simp [KernelHle.modifyTimer, List.getElem?_modify_eq, c.stored, TimerObject.set, TimeCalls.cycles]

/-- A thread delayed has its deadline after its interval. -/
theorem delayed_deadline : (c.delayed.threads.getThread c.kernel.threads.currentTid).map
    (fun t => (t.hasTimeout, t.timeoutCycle)) =
      some (true, c.cycles + KernelTime.relative100NsToCycles c.interval) := by
  have hcurrent : c.kernel.threads.currentThread = some c.thread := c.running
  unfold TimeCalls.delayed KernelHle.ntDelayExecution ThreadScheduler.blockCurrentWithTimeout
  rw [hcurrent]
  dsimp only
  rw [getThread_scheduleNext (fun _ => rfl)]
  unfold ThreadScheduler.block
  rw [getThread_modifyThread_self c.running]
  rfl

/-- A sum of cycles decides its second part. -/
theorem add_eq_iff (a b : U64) {n : ℕ} (hn : n < 0x10000000000000000) :
    a + b = a + BitVec.ofNat 64 n ↔ b.toNat = n := by
  rw [BitVec.add_right_inj]
  constructor
  · intro h
    rw [h, BitVec.toNat_ofNat]
    omega
  · intro h
    apply BitVec.eq_of_toNat_eq
    rw [BitVec.toNat_ofNat]
    omega

/-- The conversions of guest time are exact exactly where their products fit in 64 bits. -/
theorem kernel_time_exact_iff : c.Exact ↔ c.ProductsFit := by
  constructor
  · intro h
    exact ⟨(systemTime_iff _).1 h.systemTime, (relative_iff _).1 h.delay⟩
  · rintro ⟨hcycles, hinterval⟩
    have hdelay : (KernelTime.relative100NsToCycles c.interval).toNat = c.delay :=
      (relative_iff _).2 hinterval
    have hsum := (add_eq_iff c.cycles (KernelTime.relative100NsToCycles c.interval) c.fits).2 hdelay
    exact
      { systemTime := (systemTime_iff _).2 hcycles
        monotone := fun t hle => systemTime_monotone hle hcycles
        delay := hdelay
        due := by rw [timerSet_due, hsum]; rfl
        deadline := by rw [delayed_deadline, hsum]; rfl }

end Calls

/-! ## A delay of an hour -/

/-- A timer and a thread. -/
def oneTimer : KernelHle where
  handles := (({} : HandleTable).allocateTimer .notificationTimer).2
  threads := (({} : ThreadScheduler).createThread 0x1000 0x8000 0 0x7000 0x1000 true).2

/-- The first thread, which runs. -/
def firstThread : GuestThread :=
  { newThread 1 0x1000 0x8000 0x7000 0x1000 true with state := .running }

/-- The thread of the example runs. -/
theorem oneTimer_running :
    oneTimer.threads.getThread oneTimer.threads.currentTid = some firstThread := by
  change ThreadScheduler.getThread
    (({ nextTid := 2, currentTid := 1, threads := _ } : ThreadScheduler).modifyThread 1 _) 1 = _
  rw [getThread_modifyThread, if_pos rfl]
  simp [ThreadScheduler.getThread, firstThread]

/-- A timer set to an hour from now, and a delay of an hour. -/
def hourCalls : TimeCalls where
  kernel := oneTimer
  cpu := {}
  timer := 0x10000
  place := 0
  live := rfl
  object := { type := .notificationTimer }
  stored := rfl
  thread := firstThread
  running := oneTimer_running
  interval := BitVec.ofInt 64 (-36000000000)
  periodMs := 0
  dpc := 0
  fits := by decide +kernel

/-- An hour is taken for eighteen minutes. -/
theorem hour_not_exact : hourCalls.delay = 2639999998800 ∧
    (KernelTime.relative100NsToCycles hourCalls.interval).toNat = 795325591429 ∧
      ¬ hourCalls.Exact := by
  have hdelay : hourCalls.delay = 2639999998800 := by decide +kernel
  have hcode : (KernelTime.relative100NsToCycles hourCalls.interval).toNat = 795325591429 := by
    decide +kernel
  refine ⟨hdelay, hcode, fun h => ?_⟩
  have hexact := h.delay
  rw [hdelay, hcode] at hexact
  cases hexact

end Xblob.Analysis
