import Xblob.Model.Cpu.Registers

/-!
# Flags as bits

Each flag is one bit of EFLAGS.  Setting one leaves the others as they were, and the
reserved bit, which every change forces, is none of them.
-/

set_option autoImplicit false

namespace Xblob.Analysis

open Xblob.Processor

/-- Testing a word against a power of two tests a bit. -/
theorem and_twoPow_ne {w : ℕ} (x : BitVec w) {i : ℕ} (hi : i < w) :
    ((x &&& BitVec.twoPow w i) != 0) = x.getLsbD i := by
  have hne : BitVec.twoPow w i ≠ 0 := by
    intro h
    have hbit := BitVec.getLsbD_twoPow (w := w) i i
    rw [h] at hbit
    simp [hi] at hbit
  rw [BitVec.and_twoPow]
  cases x.getLsbD i with
  | true => simpa using hne
  | false => simp

/-- The test of the lowest bit. -/
theorem bottomBit (x : U32) : ((x &&& 1) != 0) = x.getLsbD 0 :=
  and_twoPow_ne x (i := 0) (by decide)

/-- The sign bit is the top bit. -/
theorem topBit (x : U32) : signBit x = x.msb := by
  rw [BitVec.msb_eq_getLsbD_last]
  exact and_twoPow_ne x (i := 31) (by decide)

/-- The test of bit 7 is that of the top bit of the byte. -/
theorem byteTopBit (x : U32) : ((x &&& 0x80) != 0) = (x.setWidth 8).msb := by
  rw [BitVec.msb_eq_getLsbD_last, BitVec.getLsbD_setWidth]
  exact and_twoPow_ne x (i := 7) (by decide)

/-- The bit of EFLAGS a flag stands at. -/
abbrev FlagAt (mask : U32) (i : ℕ) : Prop := mask = BitVec.twoPow 32 i ∧ i < 32 ∧ i ≠ 1

/-- The carry flag is bit 0. -/
theorem flagAt_cf : FlagAt kFlagCF 0 := by decide
/-- The parity flag is bit 2. -/
theorem flagAt_pf : FlagAt kFlagPF 2 := by decide
/-- The zero flag is bit 6. -/
theorem flagAt_zf : FlagAt kFlagZF 6 := by decide
/-- The sign flag is bit 7. -/
theorem flagAt_sf : FlagAt kFlagSF 7 := by decide
/-- The overflow flag is bit 11. -/
theorem flagAt_of : FlagAt kFlagOF 11 := by decide

variable {ctx : CpuContext} {mask mask' : U32} {i j : ℕ}

/-- A flag of the context is its bit of EFLAGS. -/
theorem FlagAt.getFlag (h : FlagAt mask i) : ctx.getFlag mask = ctx.eflags.getLsbD i := by
  obtain ⟨rfl, hi, -⟩ := h
  exact and_twoPow_ne _ hi

/-- The bits of EFLAGS after a flag is set. -/
theorem FlagAt.setFlag_bit (h : FlagAt mask i) (v : Bool) (hj : j ≠ 1) :
    (ctx.setFlag mask v).eflags.getLsbD j = if i = j then v else ctx.eflags.getLsbD j := by
  obtain ⟨rfl, hi, -⟩ := h
  have hreserved : kFlagReserved1.getLsbD j = false := by
    rw [show kFlagReserved1 = BitVec.twoPow 32 1 from rfl, BitVec.getLsbD_twoPow]
    simpa using hj.symm
  unfold CpuContext.setFlag
  rw [BitVec.getLsbD_or, hreserved, Bool.or_false]
  cases v with
  | true =>
    rw [if_pos rfl, BitVec.getLsbD_or, BitVec.getLsbD_twoPow]
    by_cases hij : i = j
    · subst hij
      simp [hi]
    · simp [hij]
  | false =>
    rw [if_neg (by decide), BitVec.getLsbD_and, BitVec.getLsbD_not, BitVec.getLsbD_twoPow]
    by_cases hij : i = j
    · subst hij
      simp [hi]
    · by_cases hlt : j < 32
      · simp [hij, hlt]
      · simp [hij, BitVec.getLsbD_of_ge _ _ (Nat.not_lt.1 hlt)]

/-- A flag that was set last. -/
theorem FlagAt.getFlag_setFlag (h : FlagAt mask i) (v : Bool) :
    (ctx.setFlag mask v).getFlag mask = v := by
  rw [h.getFlag, h.setFlag_bit v h.2.2, if_pos rfl]

/-- A flag beside the one that was set last. -/
theorem FlagAt.getFlag_setFlag_ne (h : FlagAt mask i) (h' : FlagAt mask' j) (hne : i ≠ j)
    (v : Bool) : (ctx.setFlag mask v).getFlag mask' = ctx.getFlag mask' := by
  rw [h'.getFlag, h.setFlag_bit v h'.2.2, if_neg hne, h'.getFlag]

/-! ## Flags computed together -/

/-- A flag set under a condition, bit by bit. -/
theorem flagIf_bit (h : FlagAt mask i) (c : Bool) (j : ℕ) :
    (flagIf c mask).getLsbD j = (c && decide (i = j)) := by
  obtain ⟨rfl, hi, -⟩ := h
  unfold flagIf
  cases c with
  | true => simp [BitVec.getLsbD_twoPow, hi]
  | false => simp

/-- The auxiliary flag is bit 4. -/
theorem flagAt_af : FlagAt kFlagAF 4 := by decide

/-- The bits of EFLAGS that the arithmetic flags of a result replace. -/
theorem assembleFlags_bit (current : U32) (cf pf af zf sf ovf : Bool) (hj : j ≠ 1)
    (hcleared : kArithmeticFlagsMask.getLsbD j = true) :
    (assembleFlags kArithmeticFlagsMask current cf pf af zf sf ovf).getLsbD j =
      (cf && decide (0 = j) || pf && decide (2 = j) || af && decide (4 = j) ||
        zf && decide (6 = j) || sf && decide (7 = j) || ovf && decide (11 = j)) := by
  have hreserved : kFlagReserved1.getLsbD j = false := by
    rw [show kFlagReserved1 = BitVec.twoPow 32 1 from rfl, BitVec.getLsbD_twoPow]
    simpa using hj.symm
  unfold assembleFlags
  simp only [BitVec.getLsbD_or, BitVec.getLsbD_and, BitVec.getLsbD_not, hcleared, hreserved,
    flagIf_bit flagAt_cf, flagIf_bit flagAt_pf, flagIf_bit flagAt_af, flagIf_bit flagAt_zf,
    flagIf_bit flagAt_sf, flagIf_bit flagAt_of, Bool.not_true, Bool.and_false, Bool.false_or]

/-- EFLAGS are stored bit by bit, except for the reserved bit 1. -/
theorem setEflags_bit (ctx : CpuContext) (v : U32) (hj : j ≠ 1) :
    (ctx.setEflags v).eflags.getLsbD j = v.getLsbD j := by
  have hreserved : kFlagReserved1.getLsbD j = false := by
    rw [show kFlagReserved1 = BitVec.twoPow 32 1 from rfl, BitVec.getLsbD_twoPow]
    simpa using hj.symm
  unfold CpuContext.setEflags
  rw [BitVec.getLsbD_or, hreserved, Bool.or_false]

/-- The five flags that conditions are made of, in a word. -/
structure ShowsFlags (eflags : U32) (cf pf zf sf ovf : Bool) : Prop where
  carry : ((eflags &&& kFlagCF) != 0) = cf
  parity : ((eflags &&& kFlagPF) != 0) = pf
  zero : ((eflags &&& kFlagZF) != 0) = zf
  sign : ((eflags &&& kFlagSF) != 0) = sf
  overflow : ((eflags &&& kFlagOF) != 0) = ovf

/-- A flag tested is its bit. -/
theorem flagAt_bit {eflags : U32} (h : FlagAt mask i) :
    ((eflags &&& mask) != 0) = eflags.getLsbD i := by
  obtain ⟨rfl, hi, -⟩ := h
  exact and_twoPow_ne _ hi

/-- A flag that stands in a word stands in EFLAGS once the word is stored. -/
theorem setEflags_flag {eflags : U32} (h : FlagAt mask i) :
    (((ctx.setEflags eflags).eflags &&& mask) != 0) = ((eflags &&& mask) != 0) := by
  rw [flagAt_bit h, flagAt_bit h, setEflags_bit ctx eflags h.2.2]

/-- Flags that are shown are shown when they are stored. -/
theorem ShowsFlags.setEflags {eflags : U32} {cf pf zf sf ovf : Bool}
    (h : ShowsFlags eflags cf pf zf sf ovf) (ctx : CpuContext) :
    ShowsFlags (ctx.setEflags eflags).eflags cf pf zf sf ovf where
  carry := (setEflags_flag flagAt_cf).trans h.carry
  parity := (setEflags_flag flagAt_pf).trans h.parity
  zero := (setEflags_flag flagAt_zf).trans h.zero
  sign := (setEflags_flag flagAt_sf).trans h.sign
  overflow := (setEflags_flag flagAt_of).trans h.overflow

/-- The flags put together show what they were put together from. -/
theorem assembled_shows (current : U32) (cf pf af zf sf ovf : Bool) :
    ShowsFlags (assembleFlags kArithmeticFlagsMask current cf pf af zf sf ovf) cf pf zf sf ovf := by
  refine ⟨?_, ?_, ?_, ?_, ?_⟩
  · rw [flagAt_bit flagAt_cf, assembleFlags_bit _ _ _ _ _ _ _ (by decide) (by decide)]
    simp
  · rw [flagAt_bit flagAt_pf, assembleFlags_bit _ _ _ _ _ _ _ (by decide) (by decide)]
    simp
  · rw [flagAt_bit flagAt_zf, assembleFlags_bit _ _ _ _ _ _ _ (by decide) (by decide)]
    simp
  · rw [flagAt_bit flagAt_sf, assembleFlags_bit _ _ _ _ _ _ _ (by decide) (by decide)]
    simp
  · rw [flagAt_bit flagAt_of, assembleFlags_bit _ _ _ _ _ _ _ (by decide) (by decide)]
    simp

/-- SF, ZF and PF after the flags of a logical result are stored. -/
theorem logicFlags (ctx : CpuContext) (res : U32) :
    (ctx.setEflags (calculateLogicFlags res ctx.eflags)).getFlag kFlagSF = signBit res ∧
      (ctx.setEflags (calculateLogicFlags res ctx.eflags)).getFlag kFlagZF = (res == 0) ∧
      (ctx.setEflags (calculateLogicFlags res ctx.eflags)).getFlag kFlagPF =
        calculateParity (lowByte res) := by
  obtain ⟨-, hpf, hzf, hsf, -⟩ := (assembled_shows ctx.eflags false (calculateParity (lowByte res))
    false (res == 0) (signBit res) false).setEflags ctx
  exact ⟨hsf, hzf, hpf⟩

end Xblob.Analysis
