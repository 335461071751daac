import Mathlib.Logic.Function.Iterate
import Mathlib.Tactic.Common

/-!
# Shifts and rotates of a word, one bit at a time

A shift by several places is the one-bit operation done that many times.  The word after
the iteration has a closed form, and the carry is the bit that the last of the one-bit
operations moves out.
-/

set_option autoImplicit false

namespace Xblob.Computation

/-- The shifts and rotates of a word. -/
inductive BitShift where
  | left | right | arithmetic | rotateLeft | rotateRight
  deriving DecidableEq, Repr

namespace BitShift

variable {w : ℕ}

/-- The word moved by `n` places. -/
def moved : BitShift → ℕ → BitVec w → BitVec w
  | .left, n, v => v <<< n
  | .right, n, v => v >>> n
  | .arithmetic, n, v => v.sshiftRight n
  | .rotateLeft, n, v => v.rotateLeft n
  | .rotateRight, n, v => v.rotateRight n

/-- The bit a move by one place takes out of the word: the top bit to the left, the bottom
bit to the right. -/
def leaving : BitShift → BitVec w → Bool
  | .left, v | .rotateLeft, v => v.msb
  | .right, v | .arithmetic, v | .rotateRight, v => v.getLsbD 0

/-- One bit: the word, and the bit that left it. -/
def once (op : BitShift) (s : BitVec w × Bool) : BitVec w × Bool :=
  (op.moved 1 s.1, op.leaving s.1)

/-- The one-bit operation, `n` times. -/
def iterated (op : BitShift) (n : ℕ) (s : BitVec w × Bool) : BitVec w × Bool := op.once^[n] s

/-- The bit at `i` of a word rotated right is the bit `n + i` of the word, around the width. -/
theorem getLsbD_rotateRight_mod (v : BitVec w) (n i : ℕ) :
    (v.rotateRight n).getLsbD i = (decide (i < w) && v.getLsbD ((n + i) % w)) := by
  rw [BitVec.getLsbD_rotateRight]
  by_cases hi : i < w
  · have hn : n % w < w := Nat.mod_lt n (Nat.zero_lt_of_lt hi)
    have hsum : (n + i) % w = (n % w + i) % w := by
      rw [Nat.mod_add_mod]
    by_cases hin : i < w - n % w
    · have hlt : n % w + i < w := by omega
      simp [hi, hin, hsum, Nat.mod_eq_of_lt hlt]
    · have hge : (n % w + i) % w = i - (w - n % w) := by
        rw [Nat.mod_eq_sub_mod (by omega), Nat.mod_eq_of_lt (by omega)]
        omega
      simp [hi, hin, hsum, hge]
  · have hin : ¬ i < w - n % w := by omega
    simp [hi, hin]

/-- Rotations to the left add up. -/
theorem rotateLeft_add (v : BitVec w) (m n : ℕ) :
    v.rotateLeft (m + n) = (v.rotateLeft m).rotateLeft n := by
  apply BitVec.eq_of_getMsbD_eq
  intro i hi
  have hmod : (n + i) % w < w := Nat.mod_lt _ (Nat.zero_lt_of_lt hi)
  simp only [BitVec.getMsbD_rotateLeft, hmod, decide_true, Bool.true_and, Nat.add_mod_mod,
    Nat.add_assoc]

/-- Rotations to the right add up. -/
theorem rotateRight_add (v : BitVec w) (m n : ℕ) :
    v.rotateRight (m + n) = (v.rotateRight m).rotateRight n := by
  apply BitVec.eq_of_getLsbD_eq
  intro i hi
  have hmod : (n + i) % w < w := Nat.mod_lt _ (Nat.zero_lt_of_lt hi)
  simp only [getLsbD_rotateRight_mod, hmod, decide_true, Bool.true_and, Nat.add_mod_mod,
    Nat.add_assoc]

/-- Moving on by one place. -/
theorem moved_succ (op : BitShift) (n : ℕ) (v : BitVec w) :
    op.moved (n + 1) v = op.moved 1 (op.moved n v) := by
  cases op with
  | left => exact BitVec.shiftLeft_add v n 1
  | right => exact BitVec.shiftRight_add v n 1
  | arithmetic => exact BitVec.sshiftRight_add
  | rotateLeft => exact rotateLeft_add v n 1
  | rotateRight => exact rotateRight_add v n 1

/-- No step leaves the word and the carry as they are. -/
@[simp] theorem iterated_zero (op : BitShift) (s : BitVec w × Bool) : op.iterated 0 s = s := rfl

/-- A move by nothing is the word itself. -/
theorem moved_zero (op : BitShift) (v : BitVec w) : op.moved 0 v = v := by
  cases op with
  | left => simp [moved]
  | right => simp [moved]
  | arithmetic => simp [moved]
  | rotateLeft =>
    apply BitVec.eq_of_getMsbD_eq
    intro i hi
    simp [moved, BitVec.getMsbD_rotateLeft, hi, Nat.mod_eq_of_lt hi]
  | rotateRight =>
    apply BitVec.eq_of_getLsbD_eq
    intro i hi
    simp [moved, hi]

/-- The word of the iteration is the word moved at once. -/
theorem iterated_fst (op : BitShift) (n : ℕ) (s : BitVec w × Bool) :
    (op.iterated n s).1 = op.moved n s.1 := by
  induction n with
  | zero => rw [iterated_zero, moved_zero]
  | succ n ih =>
    unfold iterated at ih ⊢
    rw [Function.iterate_succ_apply', moved_succ, ← ih]
    rfl

/-- The carry of the iteration is the bit that the last one-bit operation moves out. -/
theorem iterated_snd (op : BitShift) (n : ℕ) (s : BitVec w × Bool) :
    (op.iterated (n + 1) s).2 = op.leaving (op.moved n s.1) := by
  rw [← iterated_fst]
  unfold iterated
  rw [Function.iterate_succ_apply']
  rfl

/-- The top bit comes in at the bottom when a word rotates left by one. -/
theorem rotateLeft_one_bottom (v : BitVec w) : (v.rotateLeft 1).getLsbD 0 = v.msb := by
  rw [BitVec.getLsbD_rotateLeft, BitVec.msb_eq_getLsbD_last]
  obtain _ | _ | w := w
  · simp
  · simp
  · simp

/-- The bottom bit comes in at the top when a word rotates right by one. -/
theorem rotateRight_one_top (v : BitVec w) : (v.rotateRight 1).msb = v.getLsbD 0 := by
  rw [BitVec.msb_eq_getLsbD_last, getLsbD_rotateRight_mod]
  cases w with
  | zero => simp
  | succ w => simp [Nat.add_comm 1 w]

/-- The bit a rotate to the left takes out is the bottom bit of the word it leaves. -/
theorem leaving_rotateLeft (v : BitVec w) (n : ℕ) :
    leaving .rotateLeft (moved .rotateLeft n v) = (moved .rotateLeft (n + 1) v).getLsbD 0 := by
  rw [moved_succ]
  exact (rotateLeft_one_bottom _).symm

/-- The bit a rotate to the right takes out is the top bit of the word it leaves. -/
theorem leaving_rotateRight (v : BitVec w) (n : ℕ) :
    leaving .rotateRight (moved .rotateRight n v) = (moved .rotateRight (n + 1) v).msb := by
  rw [moved_succ]
  exact (rotateRight_one_top _).symm

end BitShift

end Xblob.Computation
