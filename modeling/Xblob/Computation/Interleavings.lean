import Mathlib.Algebra.Order.Ring.Nat
import Mathlib.Data.Set.Function

/-!
# Interleaved bits

The bits of two numbers are taken in turn, from the lowest, into one; when one number has no bits
left, those of the other follow.  Two numbers of given widths are told apart by it, and every number
of both widths together comes about.
-/

set_option autoImplicit false

namespace Xblob.Computation

/-- The lowest `a` bits of `x` and `b` bits of `y` in turn. -/
def interleave : ℕ → ℕ → ℕ → ℕ → ℕ
  | 0, 0, _, _ => 0
  | a + 1, 0, x, y => x % 2 + 2 * interleave a 0 (x / 2) (y / 2)
  | 0, b + 1, x, y => y % 2 + 2 * interleave 0 b (x / 2) (y / 2)
  | a + 1, b + 1, x, y => x % 2 + 2 * (y % 2 + 2 * interleave a b (x / 2) (y / 2))

/-- Interleaved bits fit in the bits of both coordinates. -/
theorem interleave_lt (a b x y : ℕ) : interleave a b x y < 2 ^ (a + b) := by
  induction a, b, x, y using interleave.induct with
  | case1 x y => simp [interleave]
  | case2 a x y ih =>
    have hpow : 2 ^ (a.succ + 0) = 2 ^ (a + 0) * 2 := pow_succ 2 a
    rw [interleave, hpow]
    omega
  | case3 b x y ih =>
    have hpow : 2 ^ (0 + b.succ) = 2 ^ (0 + b) * 2 := pow_succ 2 (0 + b)
    rw [interleave, hpow]
    omega
  | case4 a b x y ih =>
    have hpow : 2 ^ (a.succ + b.succ) = 2 ^ (a + b) * 4 := by
      rw [show a.succ + b.succ = a + b + 2 by omega, pow_add]
      rfl
    rw [interleave, hpow]
    omega

/-- Two numbers are told apart by their interleaved bits. -/
theorem interleave_inj {a b x y x' y' : ℕ} (hx : x < 2 ^ a) (hy : y < 2 ^ b) (hx' : x' < 2 ^ a)
    (hy' : y' < 2 ^ b) (h : interleave a b x y = interleave a b x' y') : x = x' ∧ y = y' := by
  induction a, b, x, y using interleave.induct generalizing x' y' with
  | case1 x y =>
    rw [pow_zero] at hx hy hx' hy'
    omega
  | case2 a x y ih =>
    rw [pow_succ] at hx hx'
    rw [pow_zero] at hy hy' ih
    rw [interleave, interleave] at h
    have htail := ih (by omega) (by omega) (by omega) (by omega)
      (show interleave a 0 (x / 2) (y / 2) = interleave a 0 (x' / 2) (y' / 2) by omega)
    omega
  | case3 b x y ih =>
    rw [pow_succ] at hy hy'
    rw [pow_zero] at hx hx' ih
    rw [interleave, interleave] at h
    have htail := ih (by omega) (by omega) (by omega) (by omega)
      (show interleave 0 b (x / 2) (y / 2) = interleave 0 b (x' / 2) (y' / 2) by omega)
    omega
  | case4 a b x y ih =>
    rw [pow_succ] at hx hx' hy hy'
    rw [interleave, interleave] at h
    have htail := ih (by omega) (by omega) (by omega) (by omega)
      (show interleave a b (x / 2) (y / 2) = interleave a b (x' / 2) (y' / 2) by omega)
    omega

/-- Every number of the widths together is of interleaved bits. -/
theorem exists_interleave (a b : ℕ) {n : ℕ} (hn : n < 2 ^ (a + b)) :
    ∃ x < 2 ^ a, ∃ y < 2 ^ b, interleave a b x y = n := by
  induction a generalizing b n with
  | zero =>
    induction b generalizing n with
    | zero =>
      obtain rfl : n = 0 := by simpa using hn
      exact ⟨0, by simp, 0, by simp, by rw [interleave]⟩
    | succ b ih =>
      rw [← Nat.add_assoc, pow_succ] at hn
      obtain ⟨x, hx, y, hy, heq⟩ := ih (n := n / 2) (by omega)
      obtain rfl : x = 0 := by simpa using hx
      refine ⟨0, hx, 2 * y + n % 2, ?_, ?_⟩
      · rw [pow_succ]
        omega
      · rw [interleave, show (2 * y + n % 2) / 2 = y by omega, Nat.zero_div, heq]
        omega
  | succ a ih =>
    cases b with
    | zero =>
      rw [Nat.add_zero, pow_succ] at hn
      obtain ⟨x, hx, y, hy, heq⟩ := ih 0 (n := n / 2) (by rw [Nat.add_zero]; omega)
      obtain rfl : y = 0 := by simpa using hy
      refine ⟨2 * x + n % 2, ?_, 0, hy, ?_⟩
      · rw [pow_succ]
        omega
      · rw [interleave, show (2 * x + n % 2) / 2 = x by omega, Nat.zero_div, heq]
        omega
    | succ b =>
      rw [show a + 1 + (b + 1) = a + b + 1 + 1 by omega, pow_succ, pow_succ] at hn
      obtain ⟨x, hx, y, hy, heq⟩ := ih b (n := n / 2 / 2) (by omega)
      refine ⟨2 * x + n % 2, ?_, 2 * y + n / 2 % 2, ?_, ?_⟩
      · rw [pow_succ]
        omega
      · rw [pow_succ]
        omega
      · rw [interleave, show (2 * x + n % 2) / 2 = x by omega,
          show (2 * y + n / 2 % 2) / 2 = y by omega, heq]
        omega

/-- Pairs of numbers below two powers of two are one-to-one with the numbers below their product. -/
theorem interleave_bijOn (a b : ℕ) :
    Set.BijOn (fun p : ℕ × ℕ => interleave a b p.1 p.2) {p | p.1 < 2 ^ a ∧ p.2 < 2 ^ b}
      {n | n < 2 ^ (a + b)} := by
  refine ⟨?_, ?_, ?_⟩
  · rintro ⟨x, y⟩ -
    exact interleave_lt a b x y
  · rintro ⟨x, y⟩ ⟨hx, hy⟩ ⟨x', y'⟩ ⟨hx', hy'⟩ h
    obtain ⟨rfl, rfl⟩ := interleave_inj hx hy hx' hy' h
    rfl
  · rintro n hn
    obtain ⟨x, hx, y, hy, heq⟩ := exists_interleave a b hn
    exact ⟨(x, y), ⟨hx, hy⟩, heq⟩

end Xblob.Computation
