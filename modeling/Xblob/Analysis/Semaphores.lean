import Xblob.Interface.KernelObjects

/-!
# A semaphore stays within its bounds unless a sum overflows

The count and the number to release are added as signed 32-bit numbers before the sum is compared
with the maximum.  A sum that does not fit is negative, and passes.
-/

set_option autoImplicit false

namespace Xblob.Analysis

open Xblob.Computation Xblob.Interface Xblob.Kernel

variable {s : SemaphoreObject}

/-- The range of a signed 32-bit number. -/
theorem toInt_range (v : I32) : -2 ^ 31 ≤ v.toInt ∧ v.toInt < 2 ^ 31 :=
  ⟨BitVec.le_toInt v, BitVec.toInt_lt⟩

/-! ## Calls -/

/-- An acquisition takes one from a positive count, or changes nothing. -/
theorem acquire_cases (s : SemaphoreObject) :
    (0 < s.currentCount.toInt ∧ s.acquire = (true, { s with currentCount := s.currentCount - 1 })) ∨
      (¬ 0 < s.currentCount.toInt ∧ s.acquire = (false, s)) := by
  have hsignaled : s.isSignaled = decide (0 < s.currentCount.toInt) := rfl
  unfold SemaphoreObject.acquire
  rw [hsignaled]
  by_cases hpos : 0 < s.currentCount.toInt
  · exact .inl ⟨hpos, if_pos (by simpa using hpos)⟩
  · exact .inr ⟨hpos, if_neg (by simpa using hpos)⟩

/-- What a release can do: it fails because nothing is released or because of the limit, or it adds
to the count. -/
theorem release_cases (s : SemaphoreObject) (n : I32) :
    (¬ 0 < n.toInt ∧ ∃ e, s.release n = .error e) ∨
    (0 < n.toInt ∧ s.maximumCount.toInt < (s.currentCount + n).toInt ∧ ∃ e, s.release n = .error e) ∨
    (0 < n.toInt ∧ (s.currentCount + n).toInt ≤ s.maximumCount.toInt ∧
      s.release n = .ok (s.currentCount, { s with currentCount := s.currentCount + n })) := by
  have hnothing : n.sle 0 = decide (n.toInt ≤ 0) := rfl
  have hlimit : s.maximumCount.slt (s.currentCount + n) =
      decide (s.maximumCount.toInt < (s.currentCount + n).toInt) := rfl
  unfold SemaphoreObject.release
  rw [hnothing, hlimit]
  by_cases hpos : 0 < n.toInt
  · rw [if_neg (by simpa using hpos)]
    by_cases hover : s.maximumCount.toInt < (s.currentCount + n).toInt
    · rw [if_pos (by simpa using hover)]
      exact .inr (.inl ⟨hpos, hover, _, rfl⟩)
    · rw [if_neg (by simpa using hover)]
      exact .inr (.inr ⟨hpos, Int.not_lt.1 hover, rfl⟩)
  · rw [if_pos (by simpa using hpos)]
    exact .inl ⟨hpos, _, rfl⟩

/-- The sum of two counts, where it fits. -/
theorem toInt_sum {a n : I32} (ha : 0 ≤ a.toInt) (hn : 0 < n.toInt) (hfits : a.toInt + n.toInt < 2 ^ 31) :
    (a + n).toInt = a.toInt + n.toInt := by
  rw [BitVec.toInt_add, Int.bmod_eq_of_le (by omega) (by omega)]

/-- The sum of two counts, where it does not fit, is negative. -/
theorem toInt_sum_neg {a n : I32} (hover : 2 ^ 31 ≤ a.toInt + n.toInt) : (a + n).toInt < 0 := by
  have ha := toInt_range a
  have hn := toInt_range n
  rw [BitVec.toInt_add, ← Int.sub_bmod_right, Int.bmod_eq_of_le (by omega) (by omega)]
  omega

/-- A call of a semaphore within its bounds is sound, if no sum overflows. -/
theorem callSound_of_fits (hbounded : CountBounded s) {call : SemaphoreCall} (hfits : SumFits s call) :
    CallSound s call := by
  obtain ⟨hnonneg, hmax⟩ := hbounded
  have hacquire : CountBounded s.acquire.2 := by
    obtain ⟨hpos, heq⟩ | ⟨-, heq⟩ := acquire_cases s
    · have hless : (s.currentCount - 1).toInt = s.currentCount.toInt - 1 := by
        have hrange := toInt_range s.currentCount
        rw [BitVec.toInt_sub, show (1 : I32).toInt = 1 from rfl,
          Int.bmod_eq_of_le (by omega) (by omega)]
      rw [heq]
      refine ⟨?_, ?_⟩
      · show 0 ≤ (s.currentCount - 1).toInt
        omega
      · show (s.currentCount - 1).toInt ≤ s.maximumCount.toInt
        omega
    · rw [heq]
      exact ⟨hnonneg, hmax⟩
  cases call with
  | acquire tid => exact ⟨⟨hnonneg, hmax⟩, hacquire, nofun⟩
  | satisfyWait tid => exact ⟨⟨hnonneg, hmax⟩, hacquire, nofun⟩
  | release n =>
    have hexact : ReleaseExact s n ∧ CountBounded (SemaphoreCall.next s (.release n)) := by
      obtain ⟨hnone, e, heq⟩ | ⟨hpos, hover, e, heq⟩ | ⟨hpos, hle, heq⟩ := release_cases s n
      · have hnext : SemaphoreCall.next s (.release n) = s := by simp [SemaphoreCall.next, heq]
        refine ⟨⟨fun hpos => absurd hpos hnone, ?_, fun _ => hnext⟩, ?_⟩
        · simp [heq, Except.isOk, Except.toBool]
        · rw [hnext]
          exact ⟨hnonneg, hmax⟩
      · have hnext : SemaphoreCall.next s (.release n) = s := by simp [SemaphoreCall.next, heq]
        rw [toInt_sum hnonneg hpos (hfits n rfl hpos)] at hover
        refine ⟨⟨fun _ => ?_, ?_, fun _ => hnext⟩, ?_⟩
        · simp only [heq, Except.isOk, Except.toBool]
          simpa using hover
        · simp [heq, Except.isOk, Except.toBool]
        · rw [hnext]
          exact ⟨hnonneg, hmax⟩
      · have hsum := toInt_sum hnonneg hpos (hfits n rfl hpos)
        have hnext : SemaphoreCall.next s (.release n) =
            { s with currentCount := s.currentCount + n } := by simp [SemaphoreCall.next, heq]
        rw [hsum] at hle
        refine ⟨⟨fun _ => ?_, fun _ => ?_, ?_⟩, ?_⟩
        · simp only [heq, Except.isOk, Except.toBool]
          simpa using hle
        · rw [hnext]
          exact hsum
        · simp [heq, Except.isOk, Except.toBool]
        · rw [hnext]
          refine ⟨?_, ?_⟩
          · show 0 ≤ (s.currentCount + n).toInt
            omega
          · show (s.currentCount + n).toInt ≤ s.maximumCount.toInt
            omega
    refine ⟨⟨hnonneg, hmax⟩, hexact.2, ?_⟩
    rintro _ ⟨⟩
    exact hexact.1

/-- A sound call adds nothing that overflows. -/
theorem fits_of_callSound {call : SemaphoreCall} (h : CallSound s call) : SumFits s call := by
  rintro n rfl hpos
  by_contra hover
  have hnegative := toInt_sum_neg (Int.not_lt.1 hover)
  have hmax := toInt_range s.maximumCount
  obtain ⟨hnonneg, hle⟩ := h.before
  have hsucceeds := (h.release n rfl).succeeds hpos
  obtain ⟨hnone, -⟩ | ⟨-, hlimit, -⟩ | ⟨-, -, heq⟩ := release_cases s n
  · exact hnone hpos
  · omega
  · rw [heq] at hsucceeds
    have hsum := hsucceeds.1 rfl
    omega

/-! ## Runs -/

/-- A semaphore is created within its bounds. -/
theorem created_bounded (c : CreatedSemaphore) :
    CountBounded c.object ∧ c.tableAfter.semaphores = c.table.semaphores ++ [c.object] := by
  have hcreated := c.created
  have hcheck : (c.initialCount.slt 0 ∨ c.maxCount.sle 0 ∨ c.maxCount.slt c.initialCount) ↔
      (c.initialCount.toInt < 0 ∨ c.maxCount.toInt ≤ 0 ∨ c.maxCount.toInt < c.initialCount.toInt) := by
    simp [BitVec.slt, BitVec.sle]
  unfold HandleTable.allocateSemaphore at hcreated
  by_cases hbad : c.initialCount.slt 0 ∨ c.maxCount.sle 0 ∨ c.maxCount.slt c.initialCount
  · rw [if_pos hbad] at hcreated
    cases hcreated
  · rw [if_neg hbad] at hcreated
    rw [hcheck] at hbad
    have hmax : c.object.maximumCount = c.maxCount := by
      have hpos : (0 : I32).slt c.maxCount = true := by
        simp only [BitVec.slt, decide_eq_true_eq]
        show 0 < c.maxCount.toInt
        omega
      exact if_pos hpos
    refine ⟨⟨?_, ?_⟩, ?_⟩
    · show 0 ≤ c.initialCount.toInt
      omega
    · rw [hmax]
      show c.initialCount.toInt ≤ c.maxCount.toInt
      omega
    · have htable : _ = c.tableAfter := congrArg Prod.snd (Except.ok.inj hcreated)
      rw [← htable]
      unfold HandleTable.allocateSlot
      split
      · rfl
      · rfl

/-- A run of calls of a created semaphore is sound exactly if no sum of the count and a number to
release overflows in it. -/
theorem semaphore_bounds_iff (c : CreatedSemaphore) (calls : List SemaphoreCall) (s : SemaphoreObject) :
    CountBounded c.object ∧
      (Runs SemaphoreCall.next CallSound calls c.object s ↔
        Runs SemaphoreCall.next SumFits calls c.object s) := by
  have hbounded := (created_bounded c).1
  refine ⟨hbounded, ?_, ?_⟩
  · intro hruns
    exact hruns.under (I := fun _ => True) trivial fun _ _ _ hsound => ⟨fits_of_callSound hsound, trivial⟩
  · intro hruns
    refine hruns.under hbounded fun s call hs hfits => ?_
    have hsound := callSound_of_fits hs hfits
    exact ⟨hsound, hsound.after⟩

/-- A semaphore with the greatest maximum and a count of 1. -/
def fullSemaphore : CreatedSemaphore where
  initialCount := 1
  maxCount := 0x7FFFFFFF
  table := {}
  handle := 0x00010000
  tableAfter := (HandleTable.allocateSlot
    { semaphores := [.new 1 0x7FFFFFFF] } .semaphore 0).2
  created := rfl

/-- A release that overflows is accepted, and the count is negative. -/
theorem release_overflows :
    (fullSemaphore.object.release 0x7FFFFFFF).isOk = true ∧
      (SemaphoreCall.next fullSemaphore.object (.release 0x7FFFFFFF)).currentCount.toInt = -2 ^ 31 ∧
      ¬ Runs SemaphoreCall.next CallSound [.release 0x7FFFFFFF] fullSemaphore.object
        (SemaphoreCall.next fullSemaphore.object (.release 0x7FFFFFFF)) := by
  refine ⟨by decide, by decide, ?_⟩
  rintro (_ | ⟨hsound, -⟩)
  have hnonneg := hsound.after.1
  revert hnonneg
  decide

end Xblob.Analysis
