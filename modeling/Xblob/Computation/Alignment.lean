import Mathlib.Data.Nat.Bitwise
import Mathlib.Tactic.Common

/-!
# Rounding to a power of two

Rounding up to a multiple of a number, and how masking does it on bit vectors when the number
is a power of two.
-/

set_option autoImplicit false

namespace Xblob.Computation

/-- The least multiple of `a` that is not below `x`. -/
def roundUp (a x : ℕ) : ℕ := (x + (a - 1)) / a * a

section RoundUp

variable {a x y : ℕ}

/-- What is rounded up is a multiple. -/
theorem dvd_roundUp : a ∣ roundUp a x := Dvd.intro_left _ rfl

/-- Rounding up does not go below the value. -/
theorem le_roundUp (ha : 0 < a) : x ≤ roundUp a x := by
  have hdiv := Nat.div_add_mod (x + (a - 1)) a
  have hmod := Nat.mod_lt (x + (a - 1)) ha
  rw [Nat.mul_comm] at hdiv
  unfold roundUp
  omega

/-- Rounding up adds less than one multiple. -/
theorem roundUp_lt (ha : 0 < a) : roundUp a x < x + a := by
  have hdiv := Nat.div_mul_le_self (x + (a - 1)) a
  unfold roundUp
  omega

/-- Every multiple from the value on is at or above the rounded value. -/
theorem roundUp_le (ha : 0 < a) (hxy : x ≤ y) (hy : a ∣ y) : roundUp a x ≤ y := by
  obtain ⟨k, rfl⟩ := hy
  have hk : (x + (a - 1)) / a ≤ k := by
    apply Nat.le_of_lt_succ
    rw [Nat.div_lt_iff_lt_mul ha, Nat.succ_mul, Nat.mul_comm k a]
    omega
  rw [Nat.mul_comm a k]
  exact Nat.mul_le_mul_right a hk

end RoundUp

section Masks

variable {w : ℕ}

/-- A power of two that a word holds has its exponent below the width. -/
theorem lt_width_of_toNat_eq {a : BitVec w} {k : ℕ} (ha : a.toNat = 2 ^ k) : k < w := by
  have hlt := a.isLt
  rw [ha] at hlt
  exact (Nat.pow_lt_pow_iff_right (by omega)).mp hlt

/-- The predecessor of a power of two, as a number: the mask of the bits below it. -/
theorem toNat_pred {a : BitVec w} {k : ℕ} (ha : a.toNat = 2 ^ k) :
    (a - 1).toNat = 2 ^ k - 1 := by
  have hkw := lt_width_of_toNat_eq ha
  have hone : (1#w).toNat = 1 := by
    rw [BitVec.toNat_ofNat]
    exact Nat.mod_eq_of_lt (Nat.one_lt_two_pow (by omega))
  have hle : 1#w ≤ a := by
    rw [BitVec.le_def, hone, ha]
    exact Nat.two_pow_pos k
  change (a - 1#w).toNat = _
  rw [BitVec.toNat_sub_of_le hle, hone, ha]

/-- Clearing the bits below a power of two. -/
theorem toNat_and_not_pred (x a : BitVec w) {k : ℕ} (ha : a.toNat = 2 ^ k) :
    (x &&& ~~~(a - 1)).toNat = x.toNat / 2 ^ k * 2 ^ k := by
  have hkw := lt_width_of_toNat_eq ha
  apply Nat.eq_of_testBit_eq
  intro i
  rw [BitVec.toNat_and, Nat.testBit_and, BitVec.toNat_not, toNat_pred ha, ← Nat.shiftRight_eq_div_pow,
    ← Nat.shiftLeft_eq, Nat.testBit_shiftLeft]
  have hmask : 2 ^ w - 1 - (2 ^ k - 1) = 2 ^ w - (2 ^ k - 1 + 1) := by omega
  have hlow : 2 ^ k - 1 < 2 ^ w :=
    lt_of_le_of_lt (Nat.sub_le _ _) (Nat.pow_lt_pow_right (by omega) hkw)
  rw [hmask, Nat.testBit_two_pow_sub_succ hlow, Nat.testBit_two_pow_sub_one]
  by_cases hik : i < k
  · simp [hik, Nat.not_le.mpr hik]
  · have hki : k ≤ i := Nat.le_of_not_lt hik
    rw [Nat.testBit_shiftRight, Nat.add_sub_cancel' hki]
    by_cases hiw : i < w
    · simp [hik, hki, hiw]
    · have hx : x.toNat.testBit i = false := BitVec.testBit_toNat x ▸ BitVec.getLsbD_of_ge x i (by omega)
      simp [hx]

/-- Rounding up by a mask, when the sum does not wrap. -/
theorem toNat_roundUp (x a : BitVec w) {k : ℕ} (ha : a.toNat = 2 ^ k)
    (hx : x.toNat + (2 ^ k - 1) < 2 ^ w) :
    ((x + (a - 1)) &&& ~~~(a - 1)).toNat = roundUp (2 ^ k) x.toNat := by
  rw [toNat_and_not_pred _ _ ha, BitVec.toNat_add, toNat_pred ha, Nat.mod_eq_of_lt hx]
  rfl

/-- The usual test for a power of two. -/
theorem exists_eq_two_pow {a : BitVec w} (hne : a ≠ 0) (h : a &&& (a - 1) = 0) :
    ∃ k, a.toNat = 2 ^ k := by
  have hpos : a.toNat ≠ 0 := fun h0 => hne (BitVec.eq_of_toNat_eq (by simpa using h0))
  have hw : 1 < 2 ^ w := by
    have hlt := a.isLt
    omega
  have hone : (1#w).toNat = 1 := by
    rw [BitVec.toNat_ofNat]
    exact Nat.mod_eq_of_lt hw
  have hle : 1#w ≤ a := by
    rw [BitVec.le_def, hone]
    omega
  have hpred : (a - 1).toNat = a.toNat - 1 := by
    change (a - 1#w).toNat = _
    rw [BitVec.toNat_sub_of_le hle, hone]
  have hmask : a.toNat &&& (a.toNat - 1) = 0 := by
    rw [← hpred, ← BitVec.toNat_and, h]
    simp
  exact (Nat.and_sub_one_eq_zero_iff_isPowerOfTwo hpos).mp hmask

end Masks

end Xblob.Computation
