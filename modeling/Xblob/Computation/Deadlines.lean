import Mathlib.Data.Nat.Basic
import Mathlib.Order.Basic

/-!
# Periodic deadlines

A deadline that comes back after every period.  The deadlines that have passed are counted by one
division, and the count can be taken in parts.
-/

set_option autoImplicit false

namespace Xblob.Computation

/-- How many of the deadlines `due`, `due + period`, `due + 2 * period`, … have passed. -/
def passed (due period now : ℕ) : ℕ := if now < due then 0 else (now - due) / period + 1

variable {due period now : ℕ}

/-- The deadlines that have passed are the first ones, up to the present. -/
theorem lt_passed_iff (hperiod : 0 < period) (k : ℕ) :
    k < passed due period now ↔ due + k * period ≤ now := by
  unfold passed
  split
  next hearly =>
    constructor
    · intro h
      omega
    · intro h
      have hnext : due ≤ due + k * period := Nat.le_add_right _ _
      omega
  next hdue =>
    rw [Nat.lt_succ_iff, Nat.le_div_iff_mul_le hperiod]
    omega

/-- The first deadline that has not passed is in the future. -/
theorem lt_due_add_passed (hperiod : 0 < period) :
    now < due + passed due period now * period := by
  apply Nat.lt_of_not_le
  intro h
  exact Nat.lt_irrefl _ ((lt_passed_iff hperiod _).2 h)

/-- The deadlines that have passed later are those that have passed now and, from the next one on,
those that pass until then. -/
theorem passed_add {later : ℕ} (hperiod : 0 < period) (hlater : now ≤ later) :
    passed due period now + passed (due + passed due period now * period) period later =
      passed due period later := by
  apply eq_of_forall_lt_iff
  intro k
  rw [lt_passed_iff hperiod]
  by_cases hk : k < passed due period now
  · have hpassed := (lt_passed_iff hperiod k).1 hk
    constructor
    · intro _
      exact Nat.le_trans hpassed hlater
    · intro _
      exact Nat.lt_of_lt_of_le hk (Nat.le_add_right _ _)
  · obtain ⟨j, rfl⟩ := Nat.exists_eq_add_of_le (Nat.le_of_not_lt hk)
    rw [Nat.add_lt_add_iff_left, lt_passed_iff hperiod, Nat.add_mul, Nat.add_assoc]

end Xblob.Computation
