import Xblob.Analysis.ExecutorRuns
import Xblob.Analysis.FlagBits
import Xblob.Interface.Arithmetic

/-!
# Comparisons and conditions

SF and OF together give the order of signed numbers: a difference that fits has its own sign, and
one that does not fit has the other.
-/

set_option autoImplicit false

namespace Xblob.Analysis

open Xblob.Interface Xblob.Processor Xblob.Processor.Exec

/-! ## Signed order -/

section Signed

variable {w : ℕ} {a b : BitVec w}

/-- A difference that does not fit has the wrong sign. -/
theorem overflow_sign (h : BitVec.ssubOverflow a b = true) :
    ((a - b).msb = true ↔ ¬ a.toInt < b.toInt) := by
  rw [BitVec.ssubOverflow_eq] at h
  have ha := BitVec.msb_eq_toInt (x := a)
  have hb := BitVec.msb_eq_toInt (x := b)
  simp only [Bool.or_eq_true, Bool.and_eq_true, Bool.not_eq_true'] at h
  rcases h with ⟨⟨hamsb, hbmsb⟩, hmsb⟩ | ⟨⟨hamsb, hbmsb⟩, hmsb⟩
  · rw [hamsb] at ha
    rw [hbmsb] at hb
    have hnonneg : ¬ a.toInt < 0 := of_decide_eq_false ha.symm
    have hneg : b.toInt < 0 := of_decide_eq_true hb.symm
    simp only [hmsb, true_iff]
    omega
  · rw [hamsb] at ha
    rw [hbmsb] at hb
    have hneg : a.toInt < 0 := of_decide_eq_true ha.symm
    have hnonneg : ¬ b.toInt < 0 := of_decide_eq_false hb.symm
    simp only [hmsb, Bool.false_eq_true, false_iff, not_not]
    omega

/-- Sign and overflow differ exactly where the first operand is below the second, signed. -/
theorem less_iff : ((a - b).msb != BitVec.ssubOverflow a b) = true ↔ a.toInt < b.toInt := by
  by_cases h : BitVec.ssubOverflow a b = true
  · have hsign := overflow_sign h
    rw [h, bne_iff_ne, Ne, hsign, not_not]
  · have hdiff := BitVec.toInt_sub_of_not_ssubOverflow h
    rw [Bool.not_eq_true] at h
    rw [h, bne_iff_ne, Ne, Bool.not_eq_false, BitVec.msb_eq_toInt, hdiff, decide_eq_true_iff]
    omega

/-- The overflow flag of a subtraction tells that the signed difference does not fit. -/
theorem ssubOverflow_iff : BitVec.ssubOverflow a b = true ↔ ¬ FitsSigned w (a.toInt - b.toInt) := by
  have hofInt : BitVec.ofInt w (a.toInt - b.toInt) = a - b := by
    apply BitVec.eq_of_toInt_eq
    rw [BitVec.toInt_ofInt, BitVec.toInt_sub]
  unfold FitsSigned
  rw [hofInt]
  constructor
  · intro h hfits
    have hlt := BitVec.toInt_lt (x := a - b)
    have hle := BitVec.le_toInt (a - b)
    unfold BitVec.ssubOverflow at h
    rw [hfits] at hlt hle
    simp only [Bool.or_eq_true, decide_eq_true_iff] at h
    rcases h with h | h
    · exact absurd hlt (Int.not_lt.2 h)
    · exact absurd h (Int.not_lt.2 hle)
  · intro h
    by_contra hover
    exact h (BitVec.toInt_sub_of_not_ssubOverflow hover)

/-- OF as it is computed from sign bits. -/
theorem overflow_bits :
    ((a.msb != b.msb) && (a.msb != (a - b).msb)) = BitVec.ssubOverflow a b := by
  rw [BitVec.ssubOverflow_eq]
  cases a.msb <;> cases b.msb <;> cases (a - b).msb <;> rfl

end Signed

/-! ## Conditions -/

/-- The flags of a comparison, read by the conditions. -/
theorem comparesAs {w : ℕ} {a b : BitVec w} {eflags : U32} {pf : Bool}
    (h : ShowsFlags eflags (decide (a < b)) pf (a - b == 0) (a - b).msb (BitVec.ssubOverflow a b)) :
    ComparesAs a b fun cond => evaluateCondition cond eflags := by
  obtain ⟨hcf, -, hzf, hsf, hof⟩ := h
  have hzero : (a - b == 0) = true ↔ a = b := by
    rw [beq_iff_eq]
    exact BitVec.sub_eq_iff_eq_add.trans (by simp)
  have hbelow : decide (a < b) = true ↔ a.toNat < b.toNat := decide_eq_true_iff
  have hequal : a = b ↔ a.toInt = b.toInt := ⟨congrArg _, BitVec.eq_of_toInt_eq⟩
  have hequal' : a = b ↔ a.toNat = b.toNat := ⟨congrArg _, BitVec.eq_of_toNat_eq⟩
  unfold evaluateCondition
  dsimp only
  rw [hcf, hzf, hsf, hof]
  refine ⟨hbelow, ?_, less_iff, ?_, hzero, ssubOverflow_iff, rfl, ?_, ?_, ?_, rfl, rfl⟩
  · rw [Bool.or_eq_true, hbelow, hzero, hequal']
    omega
  · rw [Bool.or_eq_true, less_iff, hzero, hequal]
    omega
  · rw [Bool.not_or]
  · cases (a - b).msb <;> cases BitVec.ssubOverflow a b <;> rfl
  · cases (a - b).msb <;> cases BitVec.ssubOverflow a b <;> cases a - b == 0 <;> rfl

/-- The flags of a dword subtraction. -/
theorem subFlags (a b eflags : U32) :
    ShowsFlags (calculateSubFlags a b eflags) (decide (a < b)) (calculateParity (lowByte (a - b)))
      (a - b == 0) (a - b).msb (BitVec.ssubOverflow a b) := by
  have hovf : signBit ((a ^^^ b) &&& (a ^^^ (a - b))) =
      ((a.msb != b.msb) && (a.msb != (a - b).msb)) := by
    rw [topBit, BitVec.msb_and, BitVec.msb_xor, BitVec.msb_xor]
  rw [← overflow_bits, ← hovf, ← topBit (a - b)]
  exact assembled_shows ..

/-- The flags of a byte subtraction. -/
theorem subFlags8 (a b : U8) (eflags : U32) :
    ShowsFlags (calculateSubFlags8 a b eflags) (decide (a < b)) (calculateParity (a - b))
      (a - b == 0) (a - b).msb (BitVec.ssubOverflow a b) := by
  have hmsb : ∀ v : U8, ((v &&& 0x80) != 0) = v.msb := fun v => by
    rw [BitVec.msb_eq_getLsbD_last]
    exact and_twoPow_ne v (i := 7) (by decide)
  have hovf : (((a ^^^ b) &&& (a ^^^ (a - b)) &&& 0x80) != 0) =
      ((a.msb != b.msb) && (a.msb != (a - b).msb)) := by
    rw [hmsb, BitVec.msb_and, BitVec.msb_xor, BitVec.msb_xor]
  rw [← overflow_bits, ← hovf, ← hmsb (a - b)]
  exact assembled_shows ..

/-! ## CMP -/

variable {M : Type} [GuestMemory M]

/-- An instruction of two operands, once they are read. -/
theorem execute_alu (r : AluRun M) {result : AluResult}
    (hid : r.inst.id ∈ [InstructionId.add, .adc, .sub, .sbb, .cmp])
    (hresult : aluResult r.inst.id r.a r.b r.before.ctx.eflags = some result) :
    r.execute = runExec r.trap (commitAlu r.inst result) r.read := by
  have hctx : r.read.ctx = r.before.ctx :=
    (readOperand_ctx r.readsSecond).trans (readOperand_ctx r.readsFirst)
  have hexecute : execute r.inst r.eip = executeAlu r.inst := by
    unfold execute
    simp only [List.mem_cons, List.not_mem_nil, or_false] at hid
    rcases hid with hid | hid | hid | hid | hid <;> rw [hid]
  have halu : ¬ (r.inst.id = .inc ∨ r.inst.id = .dec) := by
    simp only [List.mem_cons, List.not_mem_nil, or_false] at hid
    rcases hid with hid | hid | hid | hid | hid <;> rw [hid] <;> simp
  unfold AluRun.execute
  rw [hexecute, executeAlu, if_neg halu, exec_bind_of_ok r.readsFirst,
    exec_bind_of_ok r.readsSecond]
  have hcontext : runExec r.trap context r.read = .ok r.before.ctx r.read := by
    rw [← hctx]
    rfl
  rw [exec_bind_of_ok hcontext, hresult]

/-- CMP EAX, ECX, for any two numbers and any flags. -/
def compareRegisters (mem : M) (a b eflags : U32) : Comparison M where
  inst := { id := .cmp, op1 := .makeReg .eax, op2 := .makeReg .ecx }
  eip := 0
  trap := none
  before := ⟨{ gpr := fun reg => if reg = .eax then a else b, eflags := eflags }, mem⟩
  a := a
  b := b
  middle := _
  read := _
  readsFirst := rfl
  readsSecond := rfl
  compares := rfl

/-- Every condition that follows CMP is true exactly as its operands compare, and so is every
condition on the flags of two bytes. -/
theorem compare_and_branch :
    (∀ c : Comparison M, c.BranchesRight) ∧
      ∀ (a b : U8) (eflags : U32),
        ComparesAs a b fun cond => evaluateCondition cond (calculateSubFlags8 a b eflags) := by
  refine ⟨fun c => ?_, fun a b eflags => comparesAs (subFlags8 a b eflags)⟩
  have hresult : aluResult c.inst.id c.a c.b c.before.ctx.eflags =
      some ⟨c.a - c.b, calculateSubFlags c.a c.b c.before.ctx.eflags, false⟩ := by
    rw [c.compares]
    rfl
  have hexecute := execute_alu c.toAluRun (by simp [c.compares]) hresult
  exact ⟨_, hexecute, comparesAs ((subFlags c.a c.b _).setEflags _)⟩

end Xblob.Analysis
