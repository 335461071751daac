import Xblob.Interface.KernelObjects

/-!
# A timer can be advanced in parts

An advance of a periodic timer takes all the due cycles that have passed, and leaves the first one
that has not.
-/

set_option autoImplicit false

namespace Xblob.Analysis

open Xblob.Computation Xblob.Interface Xblob.Kernel

variable {t : TimerObject} {current : Cycle}

/-- A period takes a cycle at least. -/
theorem periodCycles_pos (t : TimerObject) : 0 < (periodCycles t).toNat := by
  unfold periodCycles
  dsimp only
  split
  · decide
  next hcycles => exact Nat.pos_of_ne_zero fun hzero => hcycles (BitVec.eq_of_toNat_eq hzero)

/-- A timer that is due in the future, or not active, is left alone. -/
theorem advance_early (h : t.isActive = false ∨ current < t.dueCycle) :
    t.advanceToCycle current = (0, t) := by
  unfold TimerObject.advanceToCycle
  exact if_pos (by simpa using h)

/-- A timer without period expires once. -/
theorem advance_oneShot (hactive : t.isActive = true) (hdue : t.dueCycle ≤ current)
    (hperiod : t.periodMs = 0) :
    t.advanceToCycle current = (1, { t with signaled := true, isActive := false }) := by
  have hnot : ¬(!t.isActive || current < t.dueCycle) = true := by
    simpa [hactive] using hdue
  unfold TimerObject.advanceToCycle
  rw [if_neg hnot]
  exact if_pos hperiod

/-- What an advance makes of a periodic timer that is due. -/
theorem advance_periodic (hactive : t.isActive = true) (hdue : t.dueCycle ≤ current)
    (hperiod : t.periodMs ≠ 0) (hfits : AdvanceFits t current) :
    (t.advanceToCycle current).1.toNat = expirations t current ∧
      (t.advanceToCycle current).2 = { t with
        signaled := true
        dueCycle := BitVec.ofNat 64
          (t.dueCycle.toNat + expirations t current * (periodCycles t).toNat) } := by
  have hpos := periodCycles_pos t
  have hbound := hfits hactive hperiod
  have hle : t.dueCycle.toNat ≤ current.toNat := hdue
  have hexpired : expirations t current =
      (current.toNat - t.dueCycle.toNat) / (periodCycles t).toNat + 1 :=
    if_neg (Nat.not_lt.2 hle)
  have hnot : ¬(!t.isActive || current < t.dueCycle) = true := by
    simpa [hactive] using hdue
  have hadvance : t.advanceToCycle current =
      ((current - t.dueCycle) / periodCycles t + 1, { t with
        signaled := true
        dueCycle := t.dueCycle + ((current - t.dueCycle) / periodCycles t + 1) * periodCycles t }) := by
    unfold TimerObject.advanceToCycle
    rw [if_neg hnot]
    exact if_neg hperiod
  have hmany : expirations t current ≤ expirations t current * (periodCycles t).toNat :=
    Nat.le_mul_of_pos_right _ hpos
  have hcount : ((current - t.dueCycle) / periodCycles t + 1).toNat = expirations t current := by
    have hone : (1 : U64).toNat = 1 := rfl
    rw [BitVec.toNat_add, BitVec.toNat_udiv, BitVec.toNat_sub_of_le hdue, hone, ← hexpired,
      Nat.mod_eq_of_lt (by omega)]
  have hnext : t.dueCycle + ((current - t.dueCycle) / periodCycles t + 1) * periodCycles t =
      BitVec.ofNat 64 (t.dueCycle.toNat + expirations t current * (periodCycles t).toNat) := by
    apply BitVec.eq_of_toNat_eq
    rw [BitVec.toNat_add, BitVec.toNat_mul, hcount, BitVec.toNat_ofNat, Nat.add_mod_mod]
  rw [hadvance]
  refine ⟨hcount, ?_⟩
  rw [hnext]

/-- A timer whose advance fits is due ahead. -/
theorem dueAhead (hfits : AdvanceFits t current) : DueAhead t current := by
  intro hactive hperiod hdue
  obtain ⟨-, hafter⟩ := advance_periodic hactive hdue hperiod hfits
  have hbound := hfits hactive hperiod
  have hnext : (t.advanceToCycle current).2.dueCycle.toNat =
      t.dueCycle.toNat + expirations t current * (periodCycles t).toNat := by
    rw [hafter, BitVec.toNat_ofNat, Nat.mod_eq_of_lt hbound]
  refine ⟨?_, ?_⟩
  · show current.toNat < (t.advanceToCycle current).2.dueCycle.toNat
    rw [hnext]
    exact lt_due_add_passed (periodCycles_pos t)
  · rw [hnext, Nat.add_mul_mod_self_right]

/-- An earlier advance fits where a later one does. -/
theorem advanceFits_earlier {first : Cycle} (h : AdvanceFits t current) (hle : first ≤ current) :
    AdvanceFits t first := by
  intro hactive hperiod
  have hbound := h hactive hperiod
  have hmore : expirations t first ≤ expirations t current := by
    have hle' : first.toNat ≤ current.toNat := hle
    have hadd : expirations t first +
        passed (t.dueCycle.toNat + expirations t first * (periodCycles t).toNat)
          (periodCycles t).toNat current.toNat = expirations t current :=
      passed_add (periodCycles_pos t) hle'
    omega
  have hmul := Nat.mul_le_mul_right (periodCycles t).toNat hmore
  omega

/-- A periodic timer that is due at the first cycle. -/
theorem advancesInParts_periodic {first second : Cycle} (hactive : t.isActive = true)
    (hperiod : t.periodMs ≠ 0) (hdue : t.dueCycle ≤ first) (hle : first ≤ second)
    (hfits : AdvanceFits t second) : AdvancesInParts t first second := by
  have hle' : first.toNat ≤ second.toNat := hle
  obtain ⟨hcount, hafter⟩ := advance_periodic hactive hdue hperiod (advanceFits_earlier hfits hle)
  obtain ⟨hcount', hafter'⟩ := advance_periodic hactive (BitVec.le_trans hdue hle) hperiod hfits
  have hbound := advanceFits_earlier hfits hle hactive hperiod
  have hbound' := hfits hactive hperiod
  have hnext : (t.advanceToCycle first).2.dueCycle.toNat =
      t.dueCycle.toNat + expirations t first * (periodCycles t).toNat := by
    rw [hafter, BitVec.toNat_ofNat, Nat.mod_eq_of_lt hbound]
  have hperiod' : periodCycles (t.advanceToCycle first).2 = periodCycles t := by
    rw [hafter]
    rfl
  have hadd : expirations t first + expirations (t.advanceToCycle first).2 second =
      expirations t second := by
    unfold expirations
    rw [hperiod', hnext]
    exact passed_add (periodCycles_pos t) hle'
  by_cases hagain : (t.advanceToCycle first).2.dueCycle ≤ second
  · have hfits' : AdvanceFits (t.advanceToCycle first).2 second := by
      intro _ _
      rw [hperiod', hnext, Nat.add_assoc, ← Nat.add_mul, hadd]
      exact hbound'
    have hactive' : (t.advanceToCycle first).2.isActive = true := by
      rw [hafter]
      exact hactive
    have hperiodic : (t.advanceToCycle first).2.periodMs ≠ 0 := by
      rw [hafter]
      exact hperiod
    obtain ⟨hcount₂, hafter₂⟩ := advance_periodic hactive' hagain hperiodic hfits'
    refine ⟨?_, ?_⟩
    · rw [hafter₂, hperiod', hnext, Nat.add_assoc, ← Nat.add_mul, hadd, hafter', hafter]
    · rw [hcount, hcount₂, hcount', hadd]
  · have hearly := BitVec.not_le.1 hagain
    have hnone : expirations (t.advanceToCycle first).2 second = 0 := if_pos hearly
    rw [hnone, Nat.add_zero] at hadd
    refine ⟨?_, ?_⟩
    · rw [advance_early (.inr hearly), hafter, hafter', hadd]
    · rw [advance_early (.inr hearly), hcount, hcount', hadd]
      rfl

/-- An advance to a cycle can be made in two parts, and leaves a periodic timer that expires due in
the future, a number of periods later. -/
theorem timer_advances_in_parts (t : TimerObject) {first second : Cycle} (hle : first ≤ second)
    (hfits : AdvanceFits t second) :
    AdvancesInParts t first second ∧ DueAhead t first ∧ DueAhead t second := by
  refine ⟨?_, dueAhead (advanceFits_earlier hfits hle), dueAhead hfits⟩
  by_cases hearly : t.isActive = false ∨ first < t.dueCycle
  · have hfirst := advance_early hearly
    refine ⟨?_, ?_⟩
    · rw [hfirst]
    · rw [hfirst]
      exact Nat.zero_add _
  · rw [not_or, Bool.not_eq_false, BitVec.not_lt] at hearly
    obtain ⟨hactive, hdue⟩ := hearly
    by_cases hperiod : t.periodMs = 0
    · have hfirst := advance_oneShot hactive hdue hperiod
      have hsecond := advance_oneShot hactive (BitVec.le_trans hdue hle) hperiod
      refine ⟨?_, ?_⟩
      · rw [hfirst, hsecond, advance_early (.inl rfl)]
      · rw [hfirst, hsecond, advance_early (.inl rfl)]
        rfl
    · exact advancesInParts_periodic hactive hperiod hdue hle hfits

/-- A timer with a period of one millisecond that expires three times on the way. -/
theorem millisecond_timer_advances_in_parts :
    AdvancesInParts { type := .notificationTimer, isActive := true, dueCycle := 100, periodMs := 1 }
      733433 2000000 :=
  (timer_advances_in_parts _ (by decide) (by unfold AdvanceFits; decide)).1

end Xblob.Analysis
