import Mathlib.Algebra.Order.Ring.Nat
import Mathlib.Tactic.Ring

/-!
# Numbers in limbs

A number of several words, with the lowest word first, and the law of columns that are added one
after the other: what the columns leave and the carry out of the last one make up the sum.
-/

set_option autoImplicit false

namespace Xblob.Computation

variable {w : ℕ}

/-- The number that is given by its limbs, the lowest one first. -/
def limbValue : List (BitVec w) → ℕ
  | [] => 0
  | limb :: limbs => limb.toNat + 2 ^ w * limbValue limbs

/-- A number of `n` limbs is below the base to the power `n`. -/
theorem limbValue_lt (limbs : List (BitVec w)) : limbValue limbs < 2 ^ (w * limbs.length) := by
  induction limbs with
  | nil => simp [limbValue]
  | cons limb limbs ih =>
    have hlimb := limb.isLt
    have hstep : 2 ^ w * (limbValue limbs + 1) ≤ 2 ^ w * 2 ^ (w * limbs.length) :=
      Nat.mul_le_mul_left _ ih
    have hpow : 2 ^ (w * (limbs.length + 1)) = 2 ^ w * 2 ^ (w * limbs.length) := by ring
    rw [limbValue, List.length_cons, hpow]
    rw [Nat.mul_add, Nat.mul_one] at hstep
    omega

/-- A column: two limbs that are added, and the limb that stands under them. -/
structure Column (w : ℕ) where
  upper : BitVec w
  lower : BitVec w
  under : BitVec w

/-- Columns that are added from a carry in to a carry out. -/
inductive Ripples : ℕ → List (Column w) → ℕ → Prop
  | nil (carry : ℕ) : Ripples carry [] carry
  | cons {carry carry' carry'' : ℕ} {column : Column w} {columns : List (Column w)}
      (hcolumn : column.under.toNat + 2 ^ w * carry' =
        column.upper.toNat + column.lower.toNat + carry)
      (hcolumns : Ripples carry' columns carry'') : Ripples carry (column :: columns) carry''

/-- A carry chain adds: the column sums with the last carry are the sum of the two numbers. -/
theorem Ripples.value {carry carry' : ℕ} {columns : List (Column w)}
    (h : Ripples carry columns carry') :
    limbValue (columns.map Column.under) + 2 ^ (w * columns.length) * carry' =
      limbValue (columns.map Column.upper) + limbValue (columns.map Column.lower) + carry := by
  induction h with
  | nil => simp [limbValue]
  | @cons carry carry₁ carry₂ column columns hcolumn hcolumns ih =>
    simp only [List.map_cons, List.length_cons, limbValue]
    calc column.under.toNat + 2 ^ w * limbValue (columns.map Column.under) +
          2 ^ (w * (columns.length + 1)) * carry₂
        = column.under.toNat + 2 ^ w * (limbValue (columns.map Column.under) +
            2 ^ (w * columns.length) * carry₂) := by ring
      _ = column.under.toNat + 2 ^ w * (limbValue (columns.map Column.upper) +
            limbValue (columns.map Column.lower) + carry₁) := by rw [ih]
      _ = (column.under.toNat + 2 ^ w * carry₁) + 2 ^ w * (limbValue (columns.map Column.upper) +
            limbValue (columns.map Column.lower)) := by ring
      _ = (column.upper.toNat + column.lower.toNat + carry) +
            2 ^ w * (limbValue (columns.map Column.upper) +
              limbValue (columns.map Column.lower)) := by rw [hcolumn]
      _ = column.upper.toNat + 2 ^ w * limbValue (columns.map Column.upper) +
            (column.lower.toNat + 2 ^ w * limbValue (columns.map Column.lower)) + carry := by ring

/-- A number below a bound and a multiple of the bound, as a remainder and a comparison. -/
theorem remainder_of_split {bound part total : ℕ} {carry : Bool} (hpart : part < bound)
    (h : part + bound * carry.toNat = total) :
    part = total % bound ∧ (carry = true ↔ bound ≤ total) := by
  cases carry with
  | false =>
    simp only [Bool.toNat_false, Nat.mul_zero, Nat.add_zero] at h
    subst h
    exact ⟨(Nat.mod_eq_of_lt hpart).symm, by simpa using hpart⟩
  | true =>
    simp only [Bool.toNat_true, Nat.mul_one] at h
    subst h
    refine ⟨?_, by simp⟩
    rw [Nat.add_mod_right, Nat.mod_eq_of_lt hpart]

end Xblob.Computation
