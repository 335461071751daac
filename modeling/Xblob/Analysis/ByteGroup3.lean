import Mathlib.Tactic.Linarith
import Xblob.Analysis.Divisions
import Xblob.Analysis.Shifts
import Xblob.Interface.Arithmetic

/-!
# The byte forms of Group 3

The decoder marks the byte forms, and of the executors only MUL looks at the mark.  TEST
takes SF from bit 31, IMUL multiplies EAX, and the divisions divide EDX:EAX.  What is
proved is where this comes to the same.
-/

set_option autoImplicit false

namespace Xblob.Analysis

open Xblob.Computation Xblob.Memory Xblob.Interface Xblob.Processor Xblob.Processor.Exec

/-! ## The decoded instruction -/

section Decoded

variable {M : Type} [GuestMemory M]

/-- The forms of opcode F6. -/
inductive ByteForm (inst : DecodedInstruction) (mask : U8) : ℕ → Prop
  | test (hid : inst.id = .test) (hmask : inst.op2 = .makeImm (mask.setWidth 32) 1) :
      ByteForm inst mask 0
  | mul (hid : inst.id = .mul) (hsize : inst.dataSize = 1) : ByteForm inst mask 4
  | imul (hid : inst.id = .imul) (hop2 : inst.op2.kind = .none) (hop3 : inst.op3.kind = .none) :
      ByteForm inst mask 5
  | div (hid : inst.id = .div) : ByteForm inst mask 6
  | idiv (hid : inst.id = .idiv) : ByteForm inst mask 7

/-- The immediate of a byte TEST is the byte after the operand. -/
theorem testImmediate_taken {s s' : InstructionStream M} {op : Operand}
    (h : decoding (Decoding.testImmediate true) s = .ok op s') :
    ∃ imm, s'.rawBytes = s.rawBytes ++ [imm] ∧ op = .makeImm (imm.setWidth 32) 1 := by
  obtain ⟨imm, s₁, hnext, h⟩ := decoding_bind_ok h
  cases h
  exact ⟨imm, (nextByte_taken hnext).2, rfl⟩

/-- A byte of Group 3 decodes to the form its register field names. -/
theorem decodeGroup3_found {s s' : InstructionStream M} {eip : GuestAddr} {ctx : CpuContext}
    {o : Option DecodedInstruction}
    (h : decoding (Decoding.decodeGroup3 0xF6 eip ctx) s = .ok o s') :
    ∃ inst modrm after, o = some inst ∧ s'.rawBytes = s.rawBytes ++ modrm :: after ∧
      ByteForm inst (s'.rawBytes.getLastD 0) (regField modrm).toNat := by
  obtain ⟨⟨op1, reg⟩, s₁, hmodrm, h⟩ := decoding_bind_ok (x := Decoding.parseModRm ctx 1) h
  obtain ⟨modrm, after, hraw, rfl, -⟩ := parseModRm_taken hmodrm
  dsimp only at h
  generalize hreg : (regField modrm).toNat = reg at h
  split at h
  · obtain ⟨op2, s₂, himm, h⟩ := decoding_bind_ok h
    obtain ⟨imm, hraw₂, rfl⟩ := testImmediate_taken himm
    obtain ⟨length, ho, rfl⟩ := decoding_found h
    refine ⟨_, modrm, after ++ [imm], ho, by simp [hraw₂, hraw], ?_⟩
    rw [hreg]
    exact .test rfl (by simp [hraw₂])
  · obtain ⟨length, ho, rfl⟩ := decoding_found h
    refine ⟨_, modrm, after, ho, hraw, ?_⟩
    rw [hreg]
    exact .mul rfl rfl
  · obtain ⟨length, ho, rfl⟩ := decoding_found h
    refine ⟨_, modrm, after, ho, hraw, ?_⟩
    rw [hreg]
    exact .imul rfl rfl rfl
  · obtain ⟨length, ho, rfl⟩ := decoding_found h
    refine ⟨_, modrm, after, ho, hraw, ?_⟩
    rw [hreg]
    exact .div rfl
  · obtain ⟨length, ho, rfl⟩ := decoding_found h
    refine ⟨_, modrm, after, ho, hraw, ?_⟩
    rw [hreg]
    exact .idiv rfl
  · exact (unsupported_fails h).elim

/-- What an instruction of opcode F6 decodes to. -/
theorem byteRun_form (r : ByteRun M) : ByteForm r.inst r.mask r.reg := by
  obtain ⟨px, inst₀, s₁, after, hraw, hbytes, hfirst, hinst⟩ :=
    decoded_recognised r.toDecoded r.group3
  have hshape : ∃ next, Decoding.firstOf (alternatives 0xF6 r.ctx.eip r.ctx) =
      Decoding.decodeGroup3 0xF6 r.ctx.eip r.ctx >>= next ∧
        ∀ inst, next (some inst) = pure (some inst) :=
    ⟨_, rfl, fun _ => rfl⟩
  obtain ⟨next, heq, hnext⟩ := hshape
  rw [heq] at hfirst
  obtain ⟨o, s₂, hgroup, hrest⟩ := decoding_bind_ok hfirst
  obtain ⟨inst, modrm, after', ho, hraw', hform⟩ := decodeGroup3_found hgroup
  rw [ho, hnext] at hrest
  obtain ⟨hsome, hend⟩ := decoding_pure_ok hrest
  cases hsome
  rw [hend] at hraw
  have hafter : after = modrm :: after' := List.append_cancel_left (hraw.symm.trans hraw')
  have hreg : r.reg = (regField modrm).toNat := by
    unfold ByteRun.reg
    rw [hbytes, hafter]
    rfl
  have hmask : r.mask = s₂.rawBytes.getLastD 0 := by
    unfold ByteRun.mask
    rw [hend]
  rw [hreg, hmask, hinst]
  generalize (regField modrm).toNat = reg at hform ⊢
  cases hform with
  | test hid hop2 => exact .test hid hop2
  | mul hid hsize => exact .mul hid hsize
  | imul hid hop2 hop3 => exact .imul hid hop2 hop3
  | div hid => exact .div hid
  | idiv hid => exact .idiv hid

end Decoded

/-! ## Registers in parts -/

/-- AL is EAX modulo 256. -/
theorem al_toNat (ctx : CpuContext) : (ctx.getGpr8 0).toNat = (ctx.gpr .eax).toNat % 0x100 := by
  unfold CpuContext.getGpr8
  rw [if_pos (by decide), lowMask]
  simp [Reg32.ofIndex]

/-- AH is the second byte of EAX. -/
theorem ah_toNat (ctx : CpuContext) :
    (ctx.getGpr8 4).toNat = (ctx.gpr .eax).toNat / 0x100 % 0x100 := by
  unfold CpuContext.getGpr8
  rw [if_neg (by decide), lowMask]
  simp [Reg32.ofIndex, Nat.shiftRight_eq_div_pow]

/-- AX is EAX modulo 65536. -/
theorem ax_toNat (ctx : CpuContext) :
    (ctx.getGpr16 .eax).toNat = (ctx.gpr .eax).toNat % 0x10000 := by
  unfold CpuContext.getGpr16
  rw [BitVec.toNat_setWidth, BitVec.toNat_and, show (0xFFFF : U32).toNat = 2 ^ 16 - 1 from rfl,
    Nat.and_two_pow_sub_one_eq_mod]
  omega

/-- CF and OF are both set to the overflow. -/
theorem setOverflow_flags (b : Bool) (ctx : CpuContext) :
    (setOverflow b ctx).getFlag kFlagCF = b ∧ (setOverflow b ctx).getFlag kFlagOF = b := by
  unfold setOverflow
  constructor
  · rw [flagAt_of.getFlag_setFlag_ne flagAt_cf (by decide), flagAt_cf.getFlag_setFlag]
  · rw [flagAt_of.getFlag_setFlag]

/-- The overflow flags touch no register. -/
theorem setOverflow_gpr (b : Bool) (ctx : CpuContext) (reg : Reg32) :
    (setOverflow b ctx).gpr reg = ctx.gpr reg := rfl

/-- A dword with its low half replaced. -/
theorem replaceLow_toNat (g : U32) (v : U16) :
    ((g &&& ~~~(0xFFFF : U32)) ||| v.setWidth 32).toNat =
      g.toNat / 0x10000 * 0x10000 + v.toNat := by
  have hhigh : g &&& ~~~(0xFFFF : U32) = (g >>> 16) <<< 16 := by
    apply BitVec.eq_of_getLsbD_eq
    intro i hi
    have hmask : (0xFFFF : U32).getLsbD i = decide (i < 16) := by
      rw [show (0xFFFF : U32) = (BitVec.allOnes 16).setWidth 32 from rfl, BitVec.getLsbD_setWidth,
        BitVec.getLsbD_allOnes]
      simp [hi]
    rw [BitVec.getLsbD_and, BitVec.getLsbD_not, hmask, BitVec.getLsbD_shiftLeft,
      BitVec.getLsbD_ushiftRight]
    by_cases hlow : i < 16
    · simp [hlow]
    · simp [hlow, hi, show 16 + (i - 16) = i by omega]
  have hv : v.toNat < 2 ^ 16 := v.isLt
  have hg : g.toNat < 2 ^ 32 := g.isLt
  rw [hhigh, BitVec.toNat_or, BitVec.toNat_shiftLeft, BitVec.toNat_ushiftRight,
    BitVec.toNat_setWidth, Nat.shiftLeft_eq, Nat.shiftRight_eq_div_pow,
    Nat.mod_eq_of_lt (show g.toNat / 2 ^ 16 * 2 ^ 16 < 2 ^ 32 by omega),
    Nat.mod_eq_of_lt (show v.toNat < 2 ^ 32 by omega), ← Nat.shiftLeft_eq,
    ← Nat.shiftLeft_add_eq_or_of_lt hv, Nat.shiftLeft_eq]
  omega

/-- Storing AX keeps the upper half of EAX. -/
theorem setGpr16_ax (ctx : CpuContext) (v : U16) :
    ((ctx.setGpr16 .eax v).gpr .eax).toNat = (ctx.gpr .eax).toNat / 0x10000 * 0x10000 + v.toNat := by
  have hgpr : (ctx.setGpr16 .eax v).gpr .eax =
      (ctx.gpr .eax &&& ~~~(0xFFFF : U32)) ||| v.setWidth 32 := by
    change Function.update ctx.gpr .eax _ .eax = _
    exact Function.update_self ..
  rw [hgpr, replaceLow_toNat]

/-! ## TEST -/

section Runs

variable {M : Type} [GuestMemory M] (r : ByteRun M)

/-- Reading the operand leaves the context. -/
theorem sourceRead_ctx : r.sourceRead.ctx = r.ctx := readOperand_ctx r.readsSource

/-- The immediate operand reads as its mask. -/
theorem maskOperand (mask : U8) (trap : Option (TrapHandler M)) (s : Machine M) :
    runExec trap (readOperand (.makeImm (mask.setWidth 32) 1)) s = .ok (mask.setWidth 32) s := by
  have hmask : (mask.setWidth 32 : U32) &&& 0xFF = mask.setWidth 32 := by
    rw [lowMask, setWidth_back]
  unfold readOperand Operand.makeImm
  dsimp only
  rw [if_pos rfl, hmask]
  rfl

/-- TEST leaves the flags of the conjunction, taken as a dword. -/
theorem run_test (hid : r.inst.id = .test) (hop2 : r.inst.op2 = .makeImm (r.mask.setWidth 32) 1) :
    r.result = {} ∧ r.final.ctx =
      r.ctx.setEflags (calculateLogicFlags ((r.src &&& r.mask).setWidth 32) r.ctx.eflags) := by
  have hruns := r.runs
  unfold Decoded.execute execute at hruns
  rw [hid] at hruns
  dsimp only at hruns
  unfold executeAlu at hruns
  rw [if_neg (by rw [hid]; decide), exec_bind_of_ok r.readsSource, hop2,
    exec_bind_of_ok (maskOperand r.mask r.trap r.sourceRead), hid] at hruns
  obtain ⟨hresult, hfinal⟩ := EStateM.Result.ok.inj hruns
  rw [BitVec.setWidth_and, ← sourceRead_ctx r]
  exact ⟨hresult.symm, (congrArg Machine.ctx hfinal).symm⟩

/-- TEST shows the result of the mask exactly where bit 7 of the result is clear. -/
theorem test_iff (hform : ByteForm r.inst r.mask 0) :
    r.Kept ∧ (r.result.exception = none ∧ ShowsResult (r.src &&& r.mask) r.final.ctx) ↔
      (r.src &&& r.mask).msb = false := by
  cases hform with
  | test hid hop2 =>
    obtain ⟨hresult, hfinal⟩ := run_test r hid hop2
    obtain ⟨hsf, hzf, hpf⟩ := logicFlags r.ctx ((r.src &&& r.mask).setWidth 32)
    rw [← hfinal] at hsf hzf hpf
    have hsign : r.final.ctx.getFlag kFlagSF = false := by
      rw [hsf, topBit, BitVec.msb_eq_getLsbD_last]
      simp
    constructor
    · intro h
      rw [← h.2.2.sign, hsign]
    · intro h
      refine ⟨⟨?_, ?_⟩, by rw [hresult], ⟨?_, ?_, ?_⟩⟩
      · rw [hfinal]
        rfl
      · rw [hfinal]
        rfl
      · rw [hsign, h]
      · rw [hzf, Bool.eq_iff_iff, beq_iff_eq, beq_iff_eq]
        exact ⟨fun h => by rw [← setWidth_back (r.src &&& r.mask), h]; rfl, fun h => by rw [h]; rfl⟩
      · rw [hpf, calculateParity_eq, lowByte, lowMask, setWidth_back]
        simp

/-! ## MUL -/

/-- The high byte of a word is zero exactly if the word is its low byte. -/
theorem highByte_zero (v : U16) : ((v >>> 8) != 0) = (v != (v.setWidth 8).setWidth 16) := by
  have hv : v.toNat < 2 ^ 16 := v.isLt
  rw [Bool.eq_iff_iff, bne_iff_ne, bne_iff_ne, not_iff_not]
  constructor
  · intro h
    have hzero := congrArg BitVec.toNat h
    rw [BitVec.toNat_ushiftRight, Nat.shiftRight_eq_div_pow] at hzero
    change v.toNat / 2 ^ 8 = 0 at hzero
    apply BitVec.eq_of_toNat_eq
    rw [BitVec.toNat_setWidth, BitVec.toNat_setWidth]
    omega
  · intro h
    have hlow := congrArg BitVec.toNat h
    rw [BitVec.toNat_setWidth, BitVec.toNat_setWidth] at hlow
    apply BitVec.eq_of_toNat_eq
    rw [BitVec.toNat_ushiftRight, Nat.shiftRight_eq_div_pow]
    change v.toNat / 2 ^ 8 = 0
    omega

/-- A byte MUL stores the product in AX and sets the overflow flags. -/
theorem run_mul (hid : r.inst.id = .mul) (hsize : r.inst.dataSize = 1) :
    r.result = {} ∧ r.final.ctx = setOverflow ((r.unsignedProduct >>> 8) != 0)
      (r.ctx.setGpr16 .eax r.unsignedProduct) := by
  have hruns := r.runs
  unfold Decoded.execute execute at hruns
  rw [hid] at hruns
  dsimp only at hruns
  unfold executeMulDiv at hruns
  rw [hid] at hruns
  dsimp only at hruns
  rw [exec_bind_of_ok r.readsSource, hsize] at hruns
  obtain ⟨hresult, hfinal⟩ := EStateM.Result.ok.inj hruns
  refine ⟨hresult.symm, (congrArg Machine.ctx hfinal).symm.trans ?_⟩
  change mulContext 1 (r.src.setWidth 32) r.sourceRead.ctx = _
  unfold mulContext
  rw [if_pos rfl, sourceRead_ctx, lowMask, setWidth_back]
  simp only [ByteRun.unsignedProduct, ByteRun.al, BitVec.setWidth_setWidth_of_le _ (show 16 ≤ 32 by decide)]

/-- A byte MUL does what it is to do, always. -/
theorem mul_operates (hform : ByteForm r.inst r.mask 4) :
    r.Kept ∧ r.Product r.unsignedProduct
      (r.unsignedProduct != (r.unsignedProduct.setWidth 8).setWidth 16) := by
  cases hform with
  | mul hid hsize =>
    obtain ⟨hresult, hfinal⟩ := run_mul r hid hsize
    have heax : (r.final.ctx.gpr .eax).toNat =
        r.eax.toNat / 0x10000 * 0x10000 + r.unsignedProduct.toNat := by
      rw [hfinal]
      exact setGpr16_ax r.ctx r.unsignedProduct
    have hproduct : r.unsignedProduct.toNat < 2 ^ 16 := r.unsignedProduct.isLt
    refine ⟨⟨?_, ?_⟩, ⟨by rw [hresult], ?_, ?_, ?_⟩⟩
    · rw [heax]
      omega
    · rw [hfinal]
      rfl
    · apply BitVec.eq_of_toNat_eq
      rw [ax_toNat, heax]
      omega
    · rw [hfinal, (setOverflow_flags _ _).1, highByte_zero]
    · rw [hfinal, (setOverflow_flags _ _).2, highByte_zero]

/-! ## IMUL -/

/-- The overflow test of the dword product is the signed range of a dword. -/
theorem fits_dword (p : U64) :
    productOverflows p = !decide (-0x80000000 ≤ p.toInt ∧ p.toInt < 0x80000000) := by
  have hp := BitVec.toInt_eq_toNat_cond p
  have hlow := BitVec.toInt_eq_toNat_cond (p.setWidth 32)
  have hlt : p.toNat < 2 ^ 64 := p.isLt
  rw [BitVec.toNat_setWidth] at hlow
  unfold productOverflows
  rw [Bool.eq_iff_iff, bne_iff_ne, Bool.not_eq_true', decide_eq_false_iff_not, not_iff_not,
    ← BitVec.toInt_inj, BitVec.toInt_signExtend_of_le (by decide)]
  omega

/-- The sign extension test of the byte product is the signed range of a byte. -/
theorem fits_byte (p : U16) :
    (p != (p.setWidth 8).signExtend 16) = !decide (-128 ≤ p.toInt ∧ p.toInt < 128) := by
  have hp := BitVec.toInt_eq_toNat_cond p
  have hlow := BitVec.toInt_eq_toNat_cond (p.setWidth 8)
  have hlt : p.toNat < 2 ^ 16 := p.isLt
  rw [BitVec.toNat_setWidth] at hlow
  rw [Bool.eq_iff_iff, bne_iff_ne, Bool.not_eq_true', decide_eq_false_iff_not, not_iff_not,
    ← BitVec.toInt_inj, BitVec.toInt_signExtend_of_le (by decide)]
  omega

/-- A byte read as a dword is not negative. -/
theorem unsignedByte_toInt (b : U8) : ((b.setWidth 32 : U32)).toInt = b.toNat := by
  have hb : b.toNat < 2 ^ 8 := b.isLt
  rw [BitVec.toInt_eq_toNat_cond, BitVec.toNat_setWidth]
  omega

/-- The dword product of EAX and the operand, as integers. -/
theorem wideProduct_toInt :
    (signedProduct r.eax (r.src.setWidth 32)).toInt = r.wideProduct := by
  have hsrc : r.src.toNat < 2 ^ 8 := r.src.isLt
  have heax := BitVec.toInt_eq_toNat_cond r.eax
  have hlt : r.eax.toNat < 2 ^ 32 := r.eax.isLt
  have hlow : -0x80000000 ≤ r.eax.toInt := by omega
  have hhigh : r.eax.toInt < 0x80000000 := by omega
  unfold signedProduct ByteRun.wideProduct
  rw [BitVec.toInt_mul, BitVec.toInt_signExtend_of_le (by decide),
    BitVec.toInt_signExtend_of_le (by decide), unsignedByte_toInt]
  have hsrc' : (r.src.toNat : ℤ) < 256 := by omega
  have hpos : (0 : ℤ) ≤ r.src.toNat := Int.natCast_nonneg _
  have hmin : -0x80000000 * 256 ≤ r.eax.toInt * r.src.toNat := by nlinarith
  have hmax : r.eax.toInt * r.src.toNat ≤ 0x80000000 * 256 := by nlinarith
  apply Int.bmod_eq_of_le <;> omega

/-- One-operand IMUL leaves the dword product in EDX:EAX. -/
theorem run_imul (hid : r.inst.id = .imul) (hop2 : r.inst.op2.kind = .none)
    (hop3 : r.inst.op3.kind = .none) :
    r.result = {} ∧ r.final.ctx =
      setOverflow (productOverflows (signedProduct r.eax (r.src.setWidth 32)))
        ((r.ctx.setGpr .eax ((signedProduct r.eax (r.src.setWidth 32)).setWidth 32)).setGpr .edx
          ((signedProduct r.eax (r.src.setWidth 32) >>> 32).setWidth 32)) := by
  have hruns := r.runs
  unfold Decoded.execute execute at hruns
  rw [hid] at hruns
  dsimp only at hruns
  unfold executeMulDiv at hruns
  rw [hid] at hruns
  dsimp only at hruns
  unfold executeImul at hruns
  rw [if_neg (not_not_intro hop3), if_neg (not_not_intro hop2), exec_bind_of_ok r.readsSource] at hruns
  obtain ⟨hresult, hfinal⟩ := EStateM.Result.ok.inj hruns
  refine ⟨hresult.symm, (congrArg Machine.ctx hfinal).symm.trans ?_⟩
  rw [ByteRun.eax, ← sourceRead_ctx r]

/-- Both halves stored are read back. -/
theorem gpr_setGpr_pair (ctx : CpuContext) (a d : U32) :
    ((ctx.setGpr .eax a).setGpr .edx d).gpr .eax = a ∧
      ((ctx.setGpr .eax a).setGpr .edx d).gpr .edx = d := by
  constructor
  · change Function.update (Function.update ctx.gpr .eax a) .edx d .eax = a
    rw [Function.update_of_ne (by decide), Function.update_self]
  · change Function.update (Function.update ctx.gpr .eax a) .edx d .edx = d
    rw [Function.update_self]

/-- A byte IMUL does what it is to do exactly where the dword IMUL leaves the byte product in
EAX and keeps EDX. -/
theorem imul_iff (hform : ByteForm r.inst r.mask 5) :
    r.Kept ∧ r.Product r.signedProduct
      (r.signedProduct != (r.signedProduct.setWidth 8).signExtend 16) ↔ r.ImulAgrees := by
  cases hform with
  | imul hid hop2 hop3 =>
    obtain ⟨hresult, hfinal⟩ := run_imul r hid hop2 hop3
    have hwide := wideProduct_toInt r
    generalize signedProduct r.eax (r.src.setWidth 32) = p at hfinal hwide
    obtain ⟨hgprA, hgprD⟩ := gpr_setGpr_pair r.ctx (p.setWidth 32) ((p >>> 32).setWidth 32)
    have hcond := BitVec.toInt_eq_toNat_cond p
    have hlt : p.toNat < 2 ^ 64 := p.isLt
    have heax : (r.final.ctx.gpr .eax).toNat = p.toNat % 0x100000000 := by
      rw [hfinal, setOverflow_gpr, hgprA, BitVec.toNat_setWidth]
    have hedx : (r.final.ctx.gpr .edx).toNat = p.toNat / 0x100000000 := by
      rw [hfinal, setOverflow_gpr, hgprD, BitVec.toNat_setWidth, BitVec.toNat_ushiftRight,
        Nat.shiftRight_eq_div_pow]
      omega
    have hproduct : r.signedProduct.toNat < 2 ^ 16 := r.signedProduct.isLt
    have hflags : r.final.ctx.getFlag kFlagCF = productOverflows p ∧
        r.final.ctx.getFlag kFlagOF = productOverflows p := by
      rw [hfinal]
      exact setOverflow_flags _ _
    rw [fits_dword, hwide] at hflags
    rw [hwide] at hcond
    have hedx' : (r.final.ctx.gpr .edx).toNat < 2 ^ 32 := (r.final.ctx.gpr .edx).isLt
    have heax' : r.eax.toNat < 2 ^ 32 := r.eax.isLt
    constructor
    · rintro ⟨⟨hupper, hkept⟩, -, hax, hcarry, -⟩
      have hax' := congrArg BitVec.toNat hax
      rw [ax_toNat, heax] at hax'
      rw [heax] at hupper
      rw [hkept] at hedx
      constructor
      · unfold ByteRun.withAx
        omega
      · omega
      · rw [hflags.1, fits_byte] at hcarry
        exact decide_eq_decide.1 (Bool.not_inj hcarry)
    · rintro ⟨hlow, hhigh, hover⟩
      unfold ByteRun.withAx at hlow
      refine ⟨⟨?_, ?_⟩, by rw [hresult], ?_, ?_, ?_⟩
      · rw [heax]
        omega
      · apply BitVec.eq_of_toNat_eq
        omega
      · apply BitVec.eq_of_toNat_eq
        rw [ax_toNat, heax]
        omega
      · rw [hflags.1, fits_byte, decide_eq_decide.2 hover]
      · rw [hflags.2, fits_byte, decide_eq_decide.2 hover]

/-! ## DIV and IDIV -/

/-- A division leaves its results in EAX and EDX, or raises the divide error and leaves the
context as it was. -/
def Committed (division : Option (U32 × U32)) : Prop :=
  (division = none → r.result.exception.map CpuException.vector = some .divideError ∧
    r.final.ctx = r.ctx) ∧
  ∀ quotient remainder, division = some (quotient, remainder) → r.result.exception = none ∧
    r.final.ctx = (r.ctx.setGpr .eax quotient).setGpr .edx remainder

/-- A division that runs has committed its quotient and remainder, or reported. -/
theorem committed_of_run {division : Option (U32 × U32)} {eip : U32}
    (h : runExec r.trap (commitDivision eip division) r.sourceRead = .ok r.result r.final) :
    Committed r division := by
  cases division with
  | none =>
    obtain ⟨hresult, hfinal⟩ := EStateM.Result.ok.inj h
    refine ⟨fun _ => ⟨?_, ?_⟩, fun _ _ h => by cases h⟩
    · rw [← hresult]
      rfl
    · rw [← hfinal, sourceRead_ctx]
  | some qr =>
    obtain ⟨hresult, hfinal⟩ := EStateM.Result.ok.inj h
    refine ⟨fun h => (by cases h), fun quotient remainder h => ?_⟩
    cases h
    refine ⟨by rw [← hresult], ?_⟩
    rw [← sourceRead_ctx r]
    exact (congrArg Machine.ctx hfinal).symm

/-- A byte DIV commits the dword division. -/
theorem run_div (hid : r.inst.id = .div) :
    Committed r (unsignedDivide (dividend r.ctx) (r.src.setWidth 32)) :=
  committed_of_run r ((execute_div r.readsSource hid).symm.trans r.runs)

/-- A byte IDIV commits the dword division. -/
theorem run_idiv (hid : r.inst.id = .idiv) :
    Committed r (signedDivide (dividend r.ctx) (r.src.setWidth 32)) :=
  committed_of_run r ((execute_idiv r.readsSource hid).symm.trans r.runs)

/-- A division into AL and AH, in terms of what was committed to EAX and EDX. -/
theorem division_iff {fits : Bool} {q8 m8 : U8} {division : Option (U32 × U32)}
    (hcommitted : Committed r division) :
    r.Kept ∧ r.Division fits q8 m8 ↔
      if fits then
        ∃ quotient, division = some (quotient, r.edx) ∧
          (quotient.toNat : ℤ) = r.withAx (m8.toNat * 0x100 + q8.toNat)
      else division = none := by
  have hq8 : q8.toNat < 2 ^ 8 := q8.isLt
  have hm8 : m8.toNat < 2 ^ 8 := m8.isLt
  have heax : r.eax.toNat < 2 ^ 32 := r.eax.isLt
  unfold ByteRun.Division ByteRun.withAx
  cases division with
  | none =>
    obtain ⟨hraises, hctx⟩ := hcommitted.1 rfl
    cases fits with
    | true =>
      rw [if_pos rfl, if_pos rfl]
      constructor
      · rintro ⟨-, hnone, -⟩
        rw [hnone] at hraises
        cases hraises
      · rintro ⟨_, h, -⟩
        cases h
    | false =>
      rw [if_neg (by decide), if_neg (by decide)]
      refine ⟨fun _ => rfl, fun _ => ⟨⟨?_, ?_⟩, hraises⟩⟩
      · rw [hctx]
        rfl
      · rw [hctx]
        rfl
  | some qr =>
    obtain ⟨quotient, remainder⟩ := qr
    obtain ⟨hnone, hctx⟩ := hcommitted.2 quotient remainder rfl
    obtain ⟨hgprA, hgprD⟩ := gpr_setGpr_pair r.ctx quotient remainder
    rw [← hctx] at hgprA hgprD
    have hquotient : quotient.toNat < 2 ^ 32 := quotient.isLt
    cases fits with
    | true =>
      rw [if_pos rfl, if_pos rfl]
      constructor
      · rintro ⟨⟨hupper, hedx⟩, -, hal, hah⟩
        have hal' := congrArg BitVec.toNat hal
        have hah' := congrArg BitVec.toNat hah
        rw [al_toNat, hgprA] at hal'
        rw [ah_toNat, hgprA] at hah'
        rw [hgprA] at hupper
        rw [hgprD] at hedx
        exact ⟨quotient, by rw [hedx], by omega⟩
      · rintro ⟨quotient', h, hvalue⟩
        cases h
        refine ⟨⟨?_, hgprD⟩, hnone, ?_, ?_⟩
        · rw [hgprA]
          omega
        · apply BitVec.eq_of_toNat_eq
          rw [al_toNat, hgprA]
          omega
        · apply BitVec.eq_of_toNat_eq
          rw [ah_toNat, hgprA]
          omega
    | false =>
      rw [if_neg (by decide), if_neg (by decide)]
      constructor
      · rintro ⟨-, hraises⟩
        rw [hnone] at hraises
        cases hraises
      · intro h
        cases h

/-- The widened operand is zero exactly where the byte is. -/
theorem src_eq_zero : r.src.setWidth 32 = (0 : U32) ↔ r.src = 0 := by
  constructor
  · intro h
    rw [← setWidth_back r.src, h]
    rfl
  · intro h
    rw [h]
    rfl

/-- Widening keeps the value of the operand. -/
theorem src_toNat (w : ℕ) (hw : 8 ≤ w) : (r.src.setWidth w).toNat = r.src.toNat := by
  have hpow : 2 ^ 8 ≤ 2 ^ w := Nat.pow_le_pow_right (by decide) hw
  rw [BitVec.toNat_setWidth, Nat.mod_eq_of_lt (Nat.lt_of_lt_of_le r.src.isLt hpow)]

/-- The quotient and remainder of the dword DIV. -/
theorem unsignedDivide_iff (hsrc : r.src ≠ 0) :
    unsignedDivide (dividend r.ctx) (r.src.setWidth 32) =
      if 0x100000000 ≤ r.wideDividend / r.src.toNat then none
      else some (BitVec.ofNat 32 (r.wideDividend / r.src.toNat),
        BitVec.ofNat 32 (r.wideDividend % r.src.toNat)) := by
  have hwide : (dividend r.ctx).toNat = r.wideDividend := dividend_toNat r.ctx
  rw [unsignedDivide_eq _ (mt (src_eq_zero r).1 hsrc), hwide, src_toNat r 32 (by decide)]

/-- A dword with AX replaced is a dword. -/
theorem withAx_range (v : ℤ) : 0 ≤ r.withAx v ∧ r.withAx v < 0x100000000 := by
  have heax : r.eax.toNat < 2 ^ 32 := r.eax.isLt
  unfold ByteRun.withAx
  omega

/-- The quotient and the remainder DIV has to give, as numbers. -/
theorem unsignedBytes (hfits : r.unsignedFits = true) : r.src ≠ 0 ∧
    (BitVec.ofNat 8 (r.ax.toNat / r.src.toNat)).toNat = r.ax.toNat / r.src.toNat ∧
    (BitVec.ofNat 8 (r.ax.toNat % r.src.toNat)).toNat = r.ax.toNat % r.src.toNat := by
  obtain ⟨hsrc, hquotient⟩ := of_decide_eq_true hfits
  have hlt : r.src.toNat < 2 ^ 8 := r.src.isLt
  have hpos : 0 < r.src.toNat := Nat.pos_of_ne_zero fun h => hsrc (BitVec.eq_of_toNat_eq h)
  have hremainder := Nat.mod_lt r.ax.toNat hpos
  refine ⟨hsrc, ?_, ?_⟩
  · rw [BitVec.toNat_ofNat, Nat.mod_eq_of_lt hquotient]
  · rw [BitVec.toNat_ofNat, Nat.mod_eq_of_lt (by omega)]

/-- A byte DIV does what it is to do exactly where the dword division agrees with it. -/
theorem div_iff (hform : ByteForm r.inst r.mask 6) :
    r.Kept ∧ r.Division r.unsignedFits (BitVec.ofNat 8 (r.ax.toNat / r.src.toNat))
      (BitVec.ofNat 8 (r.ax.toNat % r.src.toNat)) ↔ r.DivAgrees := by
  cases hform with
  | div hid =>
    rw [division_iff r (run_div r hid)]
    unfold ByteRun.DivAgrees
    cases hfits : r.unsignedFits with
    | true =>
      rw [if_pos rfl, if_pos rfl]
      obtain ⟨hsrc, hq, hm⟩ := unsignedBytes r hfits
      have hlt : r.src.toNat < 2 ^ 8 := r.src.isLt
      have hedx : r.edx.toNat < 2 ^ 32 := r.edx.isLt
      have hrange := withAx_range r
        (r.ax.toNat % r.src.toNat * 0x100 + r.ax.toNat / r.src.toNat : ℤ)
      rw [unsignedDivide_iff r hsrc, hq, hm]
      push_cast
      constructor
      · rintro ⟨quotient, hdivision, hvalue⟩
        split at hdivision
        · cases hdivision
        · rename_i hquotient
          obtain ⟨rfl, hremainder⟩ := Prod.mk.inj (Option.some.inj hdivision)
          have hremainder := congrArg BitVec.toNat hremainder
          rw [BitVec.toNat_ofNat] at hremainder hvalue
          have hmod : r.wideDividend % r.src.toNat < 2 ^ 32 := by
            have := Nat.mod_lt r.wideDividend
              (Nat.pos_of_ne_zero fun h => hsrc (BitVec.eq_of_toNat_eq h))
            omega
          rw [Nat.mod_eq_of_lt hmod] at hremainder
          rw [Nat.mod_eq_of_lt (by omega)] at hvalue
          exact ⟨by exact_mod_cast hvalue, hremainder⟩
      · rintro ⟨hvalue, hremainder⟩
        have hquotient : r.wideDividend / r.src.toNat < 0x100000000 := by
          rw [← hvalue] at hrange
          exact_mod_cast hrange.2
        rw [if_neg (by omega)]
        refine ⟨_, congrArg some (Prod.ext rfl ?_), ?_⟩
        · rw [hremainder]
          simp
        · rw [BitVec.toNat_ofNat, Nat.mod_eq_of_lt hquotient]
          exact_mod_cast hvalue
    | false =>
      rw [if_neg (by decide), if_neg (by decide)]
      by_cases hsrc : r.src = 0
      · refine ⟨fun _ h => absurd hsrc h, fun _ => ?_⟩
        unfold unsignedDivide
        rw [if_pos ((src_eq_zero r).2 hsrc)]
      · rw [unsignedDivide_iff r hsrc]
        constructor
        · intro h _
          split at h
          · assumption
          · cases h
        · intro h
          rw [if_pos (h hsrc)]

/-- EDX and EAX together, as a signed number. -/
theorem dividend_toInt : (dividend r.ctx).toInt = r.signedWideDividend := signed_dividend r.ctx

/-- The quotient and remainder of the dword IDIV. -/
theorem signedDivide_iff (hsrc : r.src ≠ 0) :
    signedDivide (dividend r.ctx) (r.src.setWidth 32) =
      if -0x80000000 ≤ r.signedWideDividend.tdiv r.src.toNat ∧
          r.signedWideDividend.tdiv r.src.toNat < 0x80000000 then
        some (BitVec.ofInt 32 (r.signedWideDividend.tdiv r.src.toNat),
          BitVec.ofInt 32 (r.signedWideDividend.tmod r.src.toNat))
      else none := by
  rw [signedDivide_eq _ (mt (src_eq_zero r).1 hsrc), dividend_toInt, unsignedByte_toInt]

/-- The quotient and the remainder IDIV has to give, as numbers. -/
theorem signedBytes :
    (((BitVec.ofInt 8 r.signedQuotient).toNat : ℕ) : ℤ) = r.signedQuotient % 0x100 ∧
      (((BitVec.ofInt 8 r.signedRemainder).toNat : ℕ) : ℤ) = r.signedRemainder % 0x100 := by
  rw [BitVec.toNat_ofInt, BitVec.toNat_ofInt]
  omega

/-- A dword of an integer is the integer modulo the size of a dword. -/
theorem ofInt_toNat (v : ℤ) : (((BitVec.ofInt 32 v).toNat : ℕ) : ℤ) = v % 0x100000000 := by
  rw [BitVec.toNat_ofInt]
  omega

/-- A byte IDIV does what it is to do exactly where the dword division agrees with it. -/
theorem idiv_iff (hform : ByteForm r.inst r.mask 7) :
    r.Kept ∧ r.Division r.signedFits (BitVec.ofInt 8 r.signedQuotient)
      (BitVec.ofInt 8 r.signedRemainder) ↔ r.IdivAgrees := by
  cases hform with
  | idiv hid =>
    obtain ⟨hq, hm⟩ := signedBytes r
    rw [division_iff r (run_idiv r hid)]
    unfold ByteRun.IdivAgrees
    dsimp only
    cases hfits : r.signedFits with
    | true =>
      obtain ⟨hsrc, -⟩ := of_decide_eq_true hfits
      have hedx : r.edx.toNat < 2 ^ 32 := r.edx.isLt
      rw [if_pos rfl, if_pos rfl, signedDivide_iff r hsrc, hq, hm]
      constructor
      · rintro ⟨quotient, hdivision, hvalue⟩
        split at hdivision
        · rename_i hquotient
          obtain ⟨rfl, hremainder⟩ := Prod.mk.inj (Option.some.inj hdivision)
          rw [ofInt_toNat] at hvalue
          refine ⟨hquotient, hvalue, ?_⟩
          rw [← hremainder, ofInt_toNat]
        · cases hdivision
      · rintro ⟨hquotient, hvalue, hremainder⟩
        rw [if_pos hquotient]
        refine ⟨_, congrArg some (Prod.ext rfl ?_), ?_⟩
        · apply BitVec.eq_of_toNat_eq
          have h := ofInt_toNat (r.signedWideDividend.tmod r.src.toNat)
          rw [hremainder] at h
          exact_mod_cast h
        · rw [ofInt_toNat, hvalue]
    | false =>
      rw [if_neg (by decide), if_neg (by decide)]
      by_cases hsrc : r.src = 0
      · refine ⟨fun _ h => absurd hsrc h, fun _ => ?_⟩
        unfold signedDivide
        rw [if_pos ((src_eq_zero r).2 hsrc)]
      · rw [signedDivide_iff r hsrc]
        constructor
        · intro h _ hquotient
          rw [if_pos hquotient] at h
          cases h
        · intro h
          rw [if_neg (h hsrc)]

/-! ## The forms together -/

/-- An instruction of opcode F6 has byte semantics exactly where the dword arithmetic gives the
same. -/
theorem byteGroup3_iff : r.ByteSemantics ↔ r.Agrees := by
  have hform := byteRun_form r
  have hboth : r.ByteSemantics ↔ r.Kept ∧ r.Operates :=
    ⟨fun h => ⟨h.kept, h.operates⟩, fun h => ⟨h.1, h.2⟩⟩
  rw [hboth]
  unfold ByteRun.Operates ByteRun.Agrees
  generalize hreg : r.reg = reg at hform
  cases hform with
  | test hid hop2 => exact test_iff r (.test hid hop2)
  | mul hid hsize => exact ⟨fun _ => trivial, fun _ => mul_operates r (.mul hid hsize)⟩
  | imul hid hop2 hop3 => exact imul_iff r (.imul hid hop2 hop3)
  | div hid => exact div_iff r (.div hid)
  | idiv hid => exact idiv_iff r (.idiv hid)

end Runs

/-! ## DIV BL -/

/-- The code of DIV BL decodes to a byte division. -/
theorem divByte_decodes :
    outcome (decodeAt (codeContext tenByThree) 0x100 (codeSpace [0xF6, 0xF3])) =
      .ok { id := .div, length := 2, cycles := 10, dataSize := 1, op1 := .makeReg8 3 } := by
  decide +kernel

/-- `DIV BL`. -/
def divByte : Decoded (AddressSpace Unit) :=
  decodedCode [0xF6, 0xF3] tenByThree _ divByte_decodes

/-- `DIV BL` with ten in AX and three in BL: the remainder goes to EDX. -/
theorem div_byte_clobbers_edx :
    ∃ r : ByteRun (AddressSpace Unit), r.mem = codeSpace [0xF6, 0xF3] ∧ r.ax = 10 ∧ r.src = 3 ∧
      r.edx = 0 ∧ r.final.ctx.gpr .edx = 1 ∧ ¬ r.ByteSemantics := by
  have hop : divByte.bytes.head? = some 0xF6 := by decide +kernel
  have hsource : outcome (runExec none (readOperand divByte.inst.op1) divByte.machine) = .ok 3 := by
    decide +kernel
  have hrun : outcome (divByte.execute none) = .ok {} := by decide +kernel
  have hedx : (stateAfter (divByte.execute none)).ctx.gpr .edx = 1 := by decide +kernel
  have hax : divByte.ctx.getGpr16 .eax = 10 := by decide +kernel
  let r : ByteRun (AddressSpace Unit) :=
    { toDecoded := divByte
      group3 := hop
      trap := none
      src := 3
      sourceRead := stateAfter (runExec none (readOperand divByte.inst.op1) divByte.machine)
      readsSource := eq_ok_of_outcome hsource
      result := {}
      final := stateAfter (divByte.execute none)
      runs := eq_ok_of_outcome hrun }
  refine ⟨r, rfl, hax, rfl, rfl, hedx, fun h => ?_⟩
  have hkept := h.kept.edx
  rw [show r.final.ctx.gpr .edx = 1 from hedx] at hkept
  cases hkept

end Xblob.Analysis
