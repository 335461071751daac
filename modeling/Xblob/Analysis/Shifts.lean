import Xblob.Analysis.ExecutorRuns
import Xblob.Analysis.FlagBits
import Xblob.Interface.Arithmetic

/-!
# Shifts and rotates are their one-bit iteration

The executor computes each of the ten operation and width pairs by a formula of its own.
Every formula is the closed form of the iteration, with one exception: a byte rotated by a
number of whole turns is left alone together with CF, where the iteration sets CF to the
bit that went round last.
-/

set_option autoImplicit false

namespace Xblob.Analysis

open Xblob.Computation Xblob.Computation.BitShift Xblob.Memory Xblob.Interface Xblob.Processor
  Xblob.Processor.Exec

/-! ## Bits -/

/-- The low byte masked is the byte widened. -/
theorem lowMask (x : U32) : x &&& 0xFF = (x.setWidth 8).setWidth 32 := by
  apply BitVec.eq_of_toNat_eq
  rw [BitVec.toNat_and, BitVec.toNat_setWidth, BitVec.toNat_setWidth]
  rw [show (0xFF : U32).toNat = 2 ^ 8 - 1 from rfl, Nat.and_two_pow_sub_one_eq_mod]
  omega

/-- A byte widened and cut is itself. -/
theorem setWidth_back (b : U8) : (b.setWidth 32 : U32).setWidth 8 = b := by
  simp

/-- The outcome is a shift with the given result and carry, whatever it does to OF. -/
def Computes (o : ShiftOutcome) (result : U32) (cf updateArithFlags : Bool) : Prop :=
  ∃ ovf, o = .shifted result cf ovf updateArithFlags

/-- A shift computes a result and a carry that are equal to its own. -/
theorem computes_shifted {result result' : U32} {cf cf' ovf updateArithFlags : Bool}
    (hresult : result = result') (hcf : cf = cf') :
    Computes (.shifted result cf ovf updateArithFlags) result' cf' updateArithFlags := by
  rw [hresult, hcf]
  exact ⟨ovf, rfl⟩

variable {n : ℕ} {raw : U32}

section Byte

variable (b : U8)

/-- Eight less the count, for counts up to eight. -/
theorem eight_sub_toNat (hraw : raw.toNat = n) (hn : n ≤ 8) : (8 - raw : U32).toNat = 8 - n := by
  rw [BitVec.toNat_sub_of_le (by rw [BitVec.le_def, hraw]; exact hn), hraw]
  rfl

/-- The count against eight, as numbers. -/
theorem raw_le_eight (hraw : raw.toNat = n) : raw ≤ 8 ↔ n ≤ 8 := by
  rw [BitVec.le_def, hraw]
  rfl

/-- The count below eight, as numbers. -/
theorem raw_lt_eight (hraw : raw.toNat = n) : raw < 8 ↔ n < 8 := by
  rw [BitVec.lt_def, hraw]
  rfl

/-- One less than the count. -/
theorem pred_toNat (hraw : raw.toNat = n + 1) : (raw - 1 : U32).toNat = n := by
  rw [BitVec.toNat_sub_of_le (by rw [BitVec.le_def, hraw]; exact Nat.le_add_left 1 n), hraw]
  rfl

/-- The carry of a byte shift: nothing is left of the byte beyond eight places. -/
theorem carryOut (hraw : raw.toNat = n) (x : U32) :
    decide (raw ≤ 8 ∧ (x &&& 1) ≠ 0) = (decide (n ≤ 8) && x.getLsbD 0) := by
  rw [← bottomBit, Bool.decide_and, decide_eq_decide.2 (raw_le_eight hraw)]
  congr 1
  rw [Bool.eq_iff_iff, decide_eq_true_iff, bne_iff_ne]

/-- A byte SHL is the iterated shift. -/
theorem shift8_shl (hraw : raw.toNat = n + 1) :
    Computes (shift8 .shl (b.setWidth 32) raw) ((moved .left (n + 1) b).setWidth 32)
      (leaving .left (moved .left n b)) true := by
  unfold shift8
  apply computes_shifted
  · by_cases h : n + 1 < 8
    · rw [if_pos ((raw_lt_eight hraw).2 h), lowMask, BitVec.shiftLeft_eq', hraw,
        BitVec.setWidth_shiftLeft_of_le (by decide), setWidth_back]
      rfl
    · rw [if_neg (mt (raw_lt_eight hraw).1 h), moved, BitVec.shiftLeft_eq_zero (by omega)]
      rfl
  · rw [carryOut hraw]
    by_cases h : n + 1 ≤ 8
    · rw [BitVec.ushiftRight_eq', eight_sub_toNat hraw h, leaving, BitVec.msb_eq_getLsbD_last]
      have hbit : n ≤ 7 ∧ 7 - n < 32 ∧ 8 - (n + 1) = 7 - n := by omega
      simp [moved, h, hbit, show ¬ 7 < n by omega,
        BitVec.getLsbD_eq_getElem (show 7 - n < 8 by omega)]
    · simp [h, leaving, moved, BitVec.shiftLeft_eq_zero (show 8 ≤ n by omega)]

/-- A byte SHR is the iterated shift. -/
theorem shift8_shr (hraw : raw.toNat = n + 1) :
    Computes (shift8 .shr (b.setWidth 32) raw) ((moved .right (n + 1) b).setWidth 32)
      (leaving .right (moved .right n b)) true := by
  unfold shift8
  apply computes_shifted
  · by_cases h : n + 1 < 8
    · rw [if_pos ((raw_lt_eight hraw).2 h), BitVec.ushiftRight_eq', hraw]
      apply BitVec.eq_of_toNat_eq
      simp [moved]
    · rw [if_neg (mt (raw_lt_eight hraw).1 h), moved, BitVec.ushiftRight_eq_zero (by omega)]
      rfl
  · rw [carryOut hraw, BitVec.ushiftRight_eq', pred_toNat hraw]
    by_cases h : n + 1 ≤ 8
    · simp [leaving, moved, h, show n < 32 by omega]
    · simp [h, leaving, moved, BitVec.ushiftRight_eq_zero (show 8 ≤ n by omega)]

/-- The byte as `int8_t`, shifted. -/
theorem sar_bit (k i : ℕ) (hi : i < 8) :
    ((b.signExtend 32 : U32).sshiftRight k).getLsbD i = (b.sshiftRight k).getLsbD i := by
  rw [BitVec.getLsbD_sshiftRight, BitVec.getLsbD_sshiftRight, BitVec.msb_signExtend,
    BitVec.getLsbD_signExtend]
  by_cases h8 : k + i < 8
  · simp [h8, show k + i < 32 by omega, show ¬ 32 ≤ i by omega, show ¬ 8 ≤ i by omega]
  · by_cases h32 : k + i < 32
    · simp [h8, h32, show ¬ 32 ≤ i by omega, show ¬ 8 ≤ i by omega]
    · simp [h8, h32, show ¬ 32 ≤ i by omega, show ¬ 8 ≤ i by omega]

/-- A byte shifted arithmetically at 32 bits is so at 8. -/
theorem sar_byte (k : ℕ) :
    ((b.signExtend 32 : U32).sshiftRight k).setWidth 8 = b.sshiftRight k := by
  apply BitVec.eq_of_getLsbD_eq
  intro i hi
  rw [BitVec.getLsbD_setWidth, sar_bit b k i hi]
  simp [hi]

/-- Beyond the byte only its sign is left. -/
theorem sar_sign {k : ℕ} (hk : 7 ≤ k) : b.sshiftRight k = if b.msb then 0xFF else 0 := by
  apply BitVec.eq_of_getLsbD_eq
  intro i hi
  rw [BitVec.getLsbD_sshiftRight]
  by_cases hlast : k + i < 8
  · have hi0 : i = 0 ∧ k = 7 := by omega
    obtain ⟨rfl, rfl⟩ := hi0
    rw [BitVec.msb_eq_getLsbD_last]
    cases b.getLsbD 7 <;> simp
  · cases b.msb with
    | true =>
      have hones : (0xFF : U8).getLsbD i = true := by
        rw [show (0xFF : U8) = BitVec.allOnes 8 from rfl, BitVec.getLsbD_allOnes]
        exact decide_eq_true hi
      rw [if_pos rfl, hones, if_neg hlast]
      simp [hi]
    | false => simp [hlast]

/-- A byte SAR is the iterated shift. -/
theorem shift8_sar (hraw : raw.toNat = n + 1) :
    Computes (shift8 .sar (b.setWidth 32) raw) ((moved .arithmetic (n + 1) b).setWidth 32)
      (leaving .arithmetic (moved .arithmetic n b)) true := by
  unfold shift8
  dsimp only
  rw [byteTopBit, setWidth_back]
  apply computes_shifted
  · rw [lowMask]
    by_cases h : n + 1 < 8
    · rw [if_pos ((raw_lt_eight hraw).2 h), hraw, sar_byte]
      rfl
    · rw [if_neg (mt (raw_lt_eight hraw).1 h), moved, sar_sign b (by omega)]
      cases b.msb <;> rfl
  · by_cases h : n + 1 ≤ 8
    · rw [if_pos ((raw_le_eight hraw).2 h), pred_toNat hraw, bottomBit, sar_bit b n 0 (by decide)]
      rfl
    · rw [if_neg (mt (raw_le_eight hraw).1 h), leaving, moved, sar_sign b (by omega)]
      cases b.msb <;> rfl

/-- A byte shifted right at 32 bits is so at 8. -/
theorem ushiftRight_byte (k : ℕ) : ((b.setWidth 32 : U32) >>> k).setWidth 8 = b >>> k := by
  apply BitVec.eq_of_toNat_eq
  have hlt : b.toNat >>> k < 2 ^ 8 := Nat.lt_of_le_of_lt (Nat.shiftRight_le _ _) b.isLt
  have hb : b.toNat < 2 ^ 32 := by omega
  rw [BitVec.toNat_setWidth, BitVec.toNat_ushiftRight, BitVec.toNat_setWidth,
    Nat.mod_eq_of_lt hb, Nat.mod_eq_of_lt hlt, BitVec.toNat_ushiftRight]

/-- A byte shifted left at 32 bits is so at 8. -/
theorem shiftLeft_byte (k : ℕ) : ((b.setWidth 32 : U32) <<< k).setWidth 8 = b <<< k := by
  rw [BitVec.setWidth_shiftLeft_of_le (by decide), setWidth_back]

/-- The count of a byte rotate, which leaves out whole turns. -/
theorem turn_toNat (hraw : raw.toNat = n) : (raw % 8 : U32).toNat = n % 8 := by
  rw [BitVec.toNat_umod, hraw]
  rfl

/-- The count is a whole turn of a byte, as numbers. -/
theorem turn_eq_zero (hraw : raw.toNat = n) : raw % 8 = 0 ↔ n % 8 = 0 := by
  rw [← turn_toNat hraw]
  exact ⟨fun h => by rw [h]; rfl, fun h => BitVec.eq_of_toNat_eq h⟩

/-- A byte ROL by no whole turn is the iterated rotation. -/
theorem shift8_rol (hraw : raw.toNat = n + 1) (hturn : (n + 1) % 8 ≠ 0) :
    Computes (shift8 .rol (b.setWidth 32) raw) ((moved .rotateLeft (n + 1) b).setWidth 32)
      (leaving .rotateLeft (moved .rotateLeft n b)) false := by
  have hcnt := turn_toNat hraw
  have hword : ((b.setWidth 32 <<< (raw % 8)) ||| (b.setWidth 32 >>> (8 - raw % 8)) : U32) &&& 0xFF =
      (moved .rotateLeft (n + 1) b).setWidth 32 := by
    rw [lowMask, BitVec.setWidth_or, BitVec.shiftLeft_eq', BitVec.ushiftRight_eq', hcnt,
      eight_sub_toNat hcnt (by omega), shiftLeft_byte, ushiftRight_byte, moved,
      BitVec.rotateLeft_def]
  unfold shift8
  dsimp only
  rw [if_neg (mt (turn_eq_zero hraw).1 hturn), hword]
  apply computes_shifted rfl
  rw [bottomBit, leaving_rotateLeft]
  simp

/-- A byte ROR by no whole turn is the iterated rotation. -/
theorem shift8_ror (hraw : raw.toNat = n + 1) (hturn : (n + 1) % 8 ≠ 0) :
    Computes (shift8 .ror (b.setWidth 32) raw) ((moved .rotateRight (n + 1) b).setWidth 32)
      (leaving .rotateRight (moved .rotateRight n b)) false := by
  have hcnt := turn_toNat hraw
  have hword : ((b.setWidth 32 >>> (raw % 8)) ||| (b.setWidth 32 <<< (8 - raw % 8)) : U32) &&& 0xFF =
      (moved .rotateRight (n + 1) b).setWidth 32 := by
    rw [lowMask, BitVec.setWidth_or, BitVec.shiftLeft_eq', BitVec.ushiftRight_eq', hcnt,
      eight_sub_toNat hcnt (by omega), shiftLeft_byte, ushiftRight_byte, moved,
      BitVec.rotateRight_def]
  unfold shift8
  dsimp only
  rw [if_neg (mt (turn_eq_zero hraw).1 hturn), hword]
  apply computes_shifted rfl
  rw [bottomBit, leaving_rotateRight, BitVec.msb_eq_getLsbD_last]
  simp

/-- A byte rotated by whole turns is left alone. -/
theorem shift8_turned (hraw : raw.toNat = n) (hturn : n % 8 = 0) (val : U32) :
    shift8 .rol val raw = .unchanged ∧ shift8 .ror val raw = .unchanged := by
  have hcnt := (turn_eq_zero hraw).2 hturn
  unfold shift8
  exact ⟨if_pos hcnt, if_pos hcnt⟩

end Byte

/-! ## Dwords -/

section Dword

variable (v : U32)

/-- The bits left over by a count below 32. -/
theorem width_sub_toNat (hraw : raw.toNat = n) (hn : n ≤ 32) :
    (32 - raw : U32).toNat = 32 - n := by
  rw [BitVec.toNat_sub_of_le (by rw [BitVec.le_def, hraw]; exact hn), hraw]
  rfl

/-- A dword SHL is the iterated shift. -/
theorem shift32_shl (hraw : raw.toNat = n + 1) (hn : n + 1 < 32) :
    Computes (shift32 .shl v raw) ((moved .left (n + 1) v).setWidth 32)
      (leaving .left (moved .left n v)) true := by
  unfold shift32
  apply computes_shifted
  · rw [BitVec.shiftLeft_eq', hraw, BitVec.setWidth_eq]
    rfl
  · rw [bottomBit, BitVec.ushiftRight_eq', width_sub_toNat hraw (by omega), leaving,
      BitVec.msb_eq_getLsbD_last]
    simp [moved, show 32 - (n + 1) = 31 - n by omega, show ¬ 31 < n by omega,
      BitVec.getLsbD_eq_getElem (show 31 - n < 32 by omega)]

/-- A dword SHR is the iterated shift. -/
theorem shift32_shr (hraw : raw.toNat = n + 1) :
    Computes (shift32 .shr v raw) ((moved .right (n + 1) v).setWidth 32)
      (leaving .right (moved .right n v)) true := by
  unfold shift32
  apply computes_shifted
  · rw [BitVec.ushiftRight_eq', hraw, BitVec.setWidth_eq]
    rfl
  · rw [bottomBit, BitVec.ushiftRight_eq', pred_toNat hraw]
    rfl

/-- A dword SAR is the iterated shift. -/
theorem shift32_sar (hraw : raw.toNat = n + 1) :
    Computes (shift32 .sar v raw) ((moved .arithmetic (n + 1) v).setWidth 32)
      (leaving .arithmetic (moved .arithmetic n v)) true := by
  unfold shift32
  apply computes_shifted
  · rw [hraw, BitVec.setWidth_eq]
    rfl
  · rw [bottomBit, pred_toNat hraw]
    rfl

/-- A count below 32 is no whole turn of a dword. -/
theorem wholeTurn_toNat (hraw : raw.toNat = n + 1) (hn : n + 1 < 32) :
    (raw % 32 : U32) = raw ∧ ¬ raw = 0 := by
  constructor
  · apply BitVec.eq_of_toNat_eq
    rw [BitVec.toNat_umod, hraw]
    exact Nat.mod_eq_of_lt hn
  · intro h
    rw [h] at hraw
    cases hraw

/-- A dword ROL is the iterated rotation. -/
theorem shift32_rol (hraw : raw.toNat = n + 1) (hn : n + 1 < 32) :
    Computes (shift32 .rol v raw) ((moved .rotateLeft (n + 1) v).setWidth 32)
      (leaving .rotateLeft (moved .rotateLeft n v)) false := by
  obtain ⟨hcnt, hne⟩ := wholeTurn_toNat hraw hn
  have hword : (v <<< raw) ||| (v >>> (32 - raw)) = moved .rotateLeft (n + 1) v := by
    rw [BitVec.shiftLeft_eq', BitVec.ushiftRight_eq', hraw, width_sub_toNat hraw (by omega), moved,
      BitVec.rotateLeft_def, Nat.mod_eq_of_lt hn]
  unfold shift32
  dsimp only
  rw [hcnt, if_neg hne, hword]
  apply computes_shifted (BitVec.setWidth_eq _).symm
  rw [bottomBit, leaving_rotateLeft]

/-- A dword ROR is the iterated rotation. -/
theorem shift32_ror (hraw : raw.toNat = n + 1) (hn : n + 1 < 32) :
    Computes (shift32 .ror v raw) ((moved .rotateRight (n + 1) v).setWidth 32)
      (leaving .rotateRight (moved .rotateRight n v)) false := by
  obtain ⟨hcnt, hne⟩ := wholeTurn_toNat hraw hn
  have hword : (v >>> raw) ||| (v <<< (32 - raw)) = moved .rotateRight (n + 1) v := by
    rw [BitVec.shiftLeft_eq', BitVec.ushiftRight_eq', hraw, width_sub_toNat hraw (by omega), moved,
      BitVec.rotateRight_def, Nat.mod_eq_of_lt hn]
  unfold shift32
  dsimp only
  rw [hcnt, if_neg hne, hword]
  apply computes_shifted (BitVec.setWidth_eq _).symm
  rw [bottomBit, leaving_rotateRight, BitVec.msb_eq_getLsbD_last]
  simp

end Dword

/-! ## Every formula, in one statement -/

/-- The operand width that a size in bytes stands for. -/
def WidthOf (size : U8) (w : ℕ) : Prop := size = 1 ∧ w = 8 ∨ size = 4 ∧ w = 32

/-- The switch of the executor. -/
def shiftSwitch (size : U8) (id : InstructionId) (val raw : U32) : ShiftOutcome :=
  if size = 1 then shift8 id (val &&& 0xFF) raw else shift32 id val raw

/-- Whether an operation rotates. -/
def rotates : BitShift → Bool
  | .rotateLeft | .rotateRight => true
  | _ => false

/-- The five shifts and their operations. -/
theorem shiftOf_cases {id : InstructionId} {op : BitShift} (h : shiftOf id = some op) :
    id = .shl ∧ op = .left ∨ id = .shr ∧ op = .right ∨ id = .sar ∧ op = .arithmetic ∨
      id = .rol ∧ op = .rotateLeft ∨ id = .ror ∧ op = .rotateRight := by
  cases id <;> cases h <;> simp

/-- A shift that is not a byte turning whole computes the closed form of the iteration. -/
theorem shiftSwitch_computes {size : U8} {w : ℕ} (hw : WidthOf size w) {id : InstructionId}
    {op : BitShift} (hop : shiftOf id = some op) (val : U32) (hraw : raw.toNat = n + 1)
    (hn : n + 1 < 32) (hturn : ¬ (size = 1 ∧ rotates op = true ∧ (n + 1) % 8 = 0)) :
    Computes (shiftSwitch size id val raw) ((moved op (n + 1) (val.setWidth w)).setWidth 32)
      (leaving op (moved op n (val.setWidth w))) !rotates op := by
  unfold shiftSwitch
  obtain ⟨rfl, rfl⟩ | ⟨rfl, rfl⟩ := hw
  · rw [if_pos rfl, lowMask]
    obtain ⟨rfl, rfl⟩ | ⟨rfl, rfl⟩ | ⟨rfl, rfl⟩ | ⟨rfl, rfl⟩ | ⟨rfl, rfl⟩ := shiftOf_cases hop
    · exact shift8_shl _ hraw
    · exact shift8_shr _ hraw
    · exact shift8_sar _ hraw
    · exact shift8_rol _ hraw fun h => hturn ⟨rfl, rfl, h⟩
    · exact shift8_ror _ hraw fun h => hturn ⟨rfl, rfl, h⟩
  · rw [if_neg (by decide), show (val.setWidth 32 : U32) = val from BitVec.setWidth_eq val]
    obtain ⟨rfl, rfl⟩ | ⟨rfl, rfl⟩ | ⟨rfl, rfl⟩ | ⟨rfl, rfl⟩ | ⟨rfl, rfl⟩ := shiftOf_cases hop
    · exact shift32_shl _ hraw hn
    · exact shift32_shr _ hraw
    · exact shift32_sar _ hraw
    · exact shift32_rol _ hraw hn
    · exact shift32_ror _ hraw hn

/-- A byte that turns whole is left unchanged. -/
theorem shiftSwitch_turned {id : InstructionId} {op : BitShift} (hop : shiftOf id = some op)
    (hrot : rotates op = true) (val : U32) (hraw : raw.toNat = n) (hturn : n % 8 = 0) :
    shiftSwitch 1 id val raw = .unchanged := by
  unfold shiftSwitch
  rw [if_pos rfl]
  obtain ⟨rfl, rfl⟩ | ⟨rfl, rfl⟩ | ⟨rfl, rfl⟩ | ⟨rfl, rfl⟩ | ⟨rfl, rfl⟩ := shiftOf_cases hop
  · cases hrot
  · cases hrot
  · cases hrot
  · exact (shift8_turned hraw hturn _).1
  · exact (shift8_turned hraw hturn _).2

/-- Whole turns leave a word as it is. -/
theorem moved_turned {w : ℕ} {op : BitShift} (hrot : rotates op = true) (hturn : n % w = 0)
    (v : BitVec w) : moved op n v = v := by
  cases op with
  | left => cases hrot
  | right => cases hrot
  | arithmetic => cases hrot
  | rotateLeft =>
    calc moved .rotateLeft n v = v.rotateLeft (n % w) := BitVec.rotateLeft_mod_eq_rotateLeft.symm
      _ = moved .rotateLeft 0 v := by rw [hturn]; rfl
      _ = v := moved_zero .rotateLeft v
  | rotateRight =>
    calc moved .rotateRight n v = v.rotateRight (n % w) :=
          BitVec.rotateRight_mod_eq_rotateRight.symm
      _ = moved .rotateRight 0 v := by rw [hturn]; rfl
      _ = v := moved_zero .rotateRight v

/-! ## Flags -/

/-- The parity computed is that of the ones. -/
theorem calculateParity_eq (b : U8) : calculateParity b = evenOnes b := by
  unfold calculateParity evenOnes
  have hbits : ∀ i ∈ List.range 8, (((b >>> i) &&& 1) != 0) = b.getLsbD i := by
    intro i _
    have hbit := and_twoPow_ne (b >>> i) (i := 0) (by decide)
    rw [BitVec.getLsbD_ushiftRight, Nat.add_zero] at hbit
    exact hbit
  rw [List.countP_congr fun i hi => by rw [hbits i hi]]

/-- The flags of a shift change EFLAGS only. -/
theorem shiftFlags_eflags (size : U8) (raw result : U32) (cf ovf upd : Bool) (ctx : CpuContext) :
    ∃ eflags, shiftFlags size raw result cf ovf upd ctx = { ctx with eflags := eflags } := by
  unfold shiftFlags
  split_ifs <;> exact ⟨_, rfl⟩

/-- The carry flag of a shift is the bit that left. -/
theorem shiftFlags_carry (size : U8) (raw result : U32) (cf ovf upd : Bool) (ctx : CpuContext) :
    (shiftFlags size raw result cf ovf upd ctx).getFlag kFlagCF = cf := by
  have hctx : ∀ c : CpuContext, c.getFlag kFlagCF = cf →
      (if raw = 1 then c.setFlag kFlagOF ovf else c).getFlag kFlagCF = cf := by
    intro c hc
    split
    · rw [flagAt_of.getFlag_setFlag_ne flagAt_cf (by decide), hc]
    · exact hc
  have hcf := hctx (ctx.setFlag kFlagCF cf) (flagAt_cf.getFlag_setFlag cf)
  unfold shiftFlags
  dsimp only
  split
  · split
    all_goals
      rw [flagAt_pf.getFlag_setFlag_ne flagAt_cf (by decide),
        flagAt_zf.getFlag_setFlag_ne flagAt_cf (by decide),
        flagAt_sf.getFlag_setFlag_ne flagAt_cf (by decide), hcf]
  · exact hcf

/-- SF, ZF and PF, set in this order. -/
theorem showsResult_set {w : ℕ} {r : BitVec w} {sf zf pf : Bool} (ctx : CpuContext)
    (hsf : sf = r.msb) (hzf : zf = (r == 0)) (hpf : pf = evenOnes (r.setWidth 8)) :
    ShowsResult r (((ctx.setFlag kFlagSF sf).setFlag kFlagZF zf).setFlag kFlagPF pf) where
  sign := by
    rw [flagAt_pf.getFlag_setFlag_ne flagAt_sf (by decide),
      flagAt_zf.getFlag_setFlag_ne flagAt_sf (by decide), flagAt_sf.getFlag_setFlag, hsf]
  zero := by
    rw [flagAt_pf.getFlag_setFlag_ne flagAt_zf (by decide), flagAt_zf.getFlag_setFlag, hzf]
  parity := by
    rw [flagAt_pf.getFlag_setFlag, hpf]

/-- The flags of a shift show its result. -/
theorem shiftFlags_shows {size : U8} {w : ℕ} (hw : WidthOf size w) (raw : U32) (r : BitVec w)
    (cf ovf : Bool) (ctx : CpuContext) :
    ShowsResult r (shiftFlags size raw (r.setWidth 32) cf ovf true ctx) := by
  unfold shiftFlags
  dsimp only
  rw [if_pos rfl]
  obtain ⟨rfl, rfl⟩ | ⟨rfl, rfl⟩ := hw
  · rw [if_pos rfl]
    apply showsResult_set
    · rw [byteTopBit, setWidth_back]
    · rw [lowMask, setWidth_back, Bool.eq_iff_iff, beq_iff_eq, beq_iff_eq]
      exact ⟨fun h => by rw [← setWidth_back r, h]; rfl, fun h => by rw [h]; rfl⟩
    · rw [lowByte, lowMask, calculateParity_eq]
      simp
  · rw [if_neg (by decide)]
    apply showsResult_set
    · rw [topBit, BitVec.setWidth_eq]
    · rw [BitVec.setWidth_eq]
    · rw [lowByte, lowMask, calculateParity_eq]
      simp

/-! ## The run of a shift -/

section Run

variable {M : Type} [GuestMemory M]

/-- Every instruction that decodes to a shift has its operation. -/
theorem shiftId_shiftOf {regOp : U8} {id : InstructionId} (h : Decoding.shiftId regOp = some id) :
    ∃ op, shiftOf id = some op := by
  unfold Decoding.shiftId at h
  split at h <;> cases h <;> exact ⟨_, rfl⟩

/-- A ModRM operand has the size it was decoded with. -/
theorem modRmOperand_size (ctx : CpuContext) {size : U8} (hsize : size = 1 ∨ size = 4) (modrm : U8)
    (after : List U8) : (modRmOperand ctx size modrm after).sizeBytes = size := by
  unfold modRmOperand
  obtain rfl | rfl := hsize
  · split <;> rfl
  · split <;> rfl

/-- The Group 2 decoder returns one of the five operations, on a byte or a dword. -/
theorem tryDecodeShift_found {opcode : U8} {eip : GuestAddr} {ctx : CpuContext}
    {s s' : InstructionStream M} {o : Option DecodedInstruction} (hgroup : isGroup2 opcode = true)
    (h : decoding (Decoding.tryDecodeShift opcode eip ctx) s = .ok o s') :
    ∃ inst op, o = some inst ∧ shiftOf inst.id = some op ∧
      (inst.op1.sizeBytes = 1 ∨ inst.op1.sizeBytes = 4) := by
  have hmem : opcode ∈ ([0xC1, 0xC0, 0xD1, 0xD0, 0xD3, 0xD2] : List U8) := by
    unfold isGroup2 at hgroup
    simp only [List.contains_iff_mem, List.mem_cons] at hgroup ⊢
    tauto
  unfold Decoding.tryDecodeShift at h
  rw [if_pos hmem] at h
  obtain ⟨⟨op1, regOp⟩, s₁, hmodrm, h⟩ := decoding_bind_ok h
  obtain ⟨modrm, after, -, -, hop1⟩ := parseModRm_taken hmodrm
  have hsize : op1.sizeBytes = 1 ∨ op1.sizeBytes = 4 := by
    rw [hop1 []]
    split_ifs
    · exact .inl (modRmOperand_size ctx (.inl rfl) _ _)
    · exact .inr (modRmOperand_size ctx (.inr rfl) _ _)
  dsimp only at h
  cases hid : Decoding.shiftId regOp with
  | none =>
    rw [hid] at h
    exact (unsupported_fails h).elim
  | some id =>
    rw [hid] at h
    obtain ⟨op2, s₂, -, h⟩ := decoding_bind_ok h
    obtain ⟨len, s₃, -, h⟩ := decoding_bind_ok h
    cases h
    obtain ⟨op, hop⟩ := shiftId_shiftOf hid
    exact ⟨_, op, rfl, hop, hsize⟩

variable (r : ShiftRun M)

/-- A Group 2 instruction is one of the five operations, on a byte or a dword. -/
theorem shiftRun_form :
    ∃ op, shiftOf r.inst.id = some op ∧ WidthOf r.inst.op1.sizeBytes r.width := by
  obtain ⟨p, inst₀, s₁, after, -, -, hfirst, hinst⟩ := decoded_recognised r.toDecoded r.hasOpcode
  obtain ⟨o, s₂, hshift, hfirst⟩ := decoding_bind_ok hfirst
  obtain ⟨inst, op, rfl, hop, hsize⟩ := tryDecodeShift_found r.group2 hshift
  cases hfirst
  refine ⟨op, by rw [hinst]; exact hop, ?_⟩
  have hsize' : r.inst.op1.sizeBytes = 1 ∨ r.inst.op1.sizeBytes = 4 := by
    rw [hinst]
    exact hsize
  unfold ShiftRun.width
  obtain h | h := hsize'
  · exact .inl ⟨h, by rw [h]; rfl⟩
  · exact .inr ⟨h, by rw [h]; rfl⟩

/-- What is left of the executor once the operands are read. -/
def shiftTail (inst : DecodedInstruction) (val count : U32) : Exec ExecutionResult :=
  if count &&& 0x1F = 0 then
    pure {}
  else
    match shiftSwitch inst.op1.sizeBytes inst.id val (count &&& 0x1F) with
    | .unchanged => pure {}
    | .unknown => fault .invalidOpcode "Operação shift desconhecida"
    | .shifted result cf ovf updateArithFlags => do
      writeOperand inst.op1 result
      modifyContext (shiftFlags inst.op1.sizeBytes (count &&& 0x1F) result cf ovf updateArithFlags)
      pure {}

/-- A shift is executed as one. -/
theorem execute_shift {inst : DecodedInstruction} {op : BitShift}
    (hop : shiftOf inst.id = some op) (eip : U32) : execute inst eip = executeShift inst := by
  unfold execute
  obtain ⟨hid, -⟩ | ⟨hid, -⟩ | ⟨hid, -⟩ | ⟨hid, -⟩ | ⟨hid, -⟩ := shiftOf_cases hop
  all_goals rw [hid]

/-- The rest of a shift after its count was read. -/
theorem shiftRun_tail :
    runExec r.trap (shiftTail r.inst r.value r.count) r.countRead = .ok r.result r.final := by
  obtain ⟨op, hop, -⟩ := shiftRun_form r
  have hruns := r.runs
  unfold Decoded.execute at hruns
  rw [execute_shift hop, executeShift, exec_bind_of_ok r.readsValue,
    exec_bind_of_ok r.readsCount] at hruns
  exact hruns

/-- Reading value and count leaves the context. -/
theorem shiftRun_ctx : r.countRead.ctx = r.ctx := by
  rw [readOperand_ctx r.readsCount, readOperand_ctx r.readsValue]
  rfl

/-- The masked count is below 32. -/
theorem maskedCount_lt : r.maskedCount < 32 := by
  unfold ShiftRun.maskedCount
  rw [BitVec.toNat_and]
  exact Nat.lt_of_le_of_lt Nat.and_le_right (by decide)

variable {r} {op : BitShift}

/-- With a masked count of zero nothing happens. -/
theorem shiftRun_zero (hop : shiftOf r.inst.id = some op)
    (hw : WidthOf r.inst.op1.sizeBytes r.width) (hzero : r.maskedCount = 0) : r.Iterates op := by
  have htail := shiftRun_tail r
  have hraw : r.count &&& 0x1F = 0 := BitVec.eq_of_toNat_eq hzero
  unfold shiftTail at htail
  rw [if_pos hraw] at htail
  obtain ⟨-, hfinal⟩ := exec_pure_ok htail
  have hiter : r.iterated op = (r.operand, r.ctx.getFlag kFlagCF) := by
    unfold ShiftRun.iterated
    rw [hzero, iterated_zero]
  constructor
  · exact hop
  · exact hw.imp And.right And.right
  · refine ⟨r.countRead, r.countRead.ctx.eflags, hfinal, .inr ⟨rfl, ?_⟩⟩
    rw [hiter]
  · rw [hfinal, shiftRun_ctx, hiter]
  · exact fun _ _ h => absurd hzero h
  · exact fun _ => hfinal

/-- A byte that turns whole. -/
def TurnedWhole (r : ShiftRun M) (op : BitShift) : Prop :=
  r.inst.op1.sizeBytes = 1 ∧ rotates op = true ∧ r.maskedCount % 8 = 0

/-- A count that is not zero, and no byte that turns whole: the formula is the iteration. -/
theorem shiftRun_computed (hop : shiftOf r.inst.id = some op)
    (hw : WidthOf r.inst.op1.sizeBytes r.width) (hcount : r.maskedCount ≠ 0)
    (hturn : ¬ TurnedWhole r op) : r.Iterates op := by
  obtain ⟨n, hn : r.maskedCount = n + 1⟩ := Nat.exists_eq_succ_of_ne_zero hcount
  have htail := shiftRun_tail r
  have hraw : (r.count &&& 0x1F).toNat = n + 1 := hn
  have hlt : n + 1 < 32 := by
    rw [← hn]
    exact maskedCount_lt r
  have hne : ¬ r.count &&& 0x1F = 0 := fun h => hcount (congrArg BitVec.toNat h)
  have hturn' : ¬ (r.inst.op1.sizeBytes = 1 ∧ rotates op = true ∧ (n + 1) % 8 = 0) := by
    rw [TurnedWhole, hn] at hturn
    exact hturn
  obtain ⟨ovf, houtcome⟩ := shiftSwitch_computes hw hop r.value hraw hlt hturn'
  have hword : (r.iterated op).1 = moved op (n + 1) r.operand := by
    rw [ShiftRun.iterated, iterated_fst, hn]
  have hcarry : (r.iterated op).2 = leaving op (moved op n r.operand) := by
    rw [ShiftRun.iterated, hn, iterated_snd]
  unfold shiftTail at htail
  rw [if_neg hne, houtcome] at htail
  obtain ⟨_, s, hwrite, htail⟩ := exec_bind_ok htail
  obtain ⟨_, s', hmodify, htail⟩ := exec_bind_ok htail
  cases hmodify
  obtain ⟨-, hfinal⟩ := exec_pure_ok htail
  change runExec _ (writeOperand _ (BitVec.setWidth 32 (moved op (n + 1) r.operand))) _ = _ at hwrite
  have hoperand : r.value.setWidth r.width = r.operand := rfl
  rw [hoperand, ← hword, ← hcarry] at hfinal
  rw [← hword] at hwrite
  constructor
  · exact hop
  · exact hw.imp And.right And.right
  · obtain ⟨eflags, hflags⟩ := shiftFlags_eflags r.inst.op1.sizeBytes (r.count &&& 0x1F)
      ((r.iterated op).1.setWidth 32) (r.iterated op).2 ovf (!rotates op) s.ctx
    exact ⟨s, eflags, by rw [hfinal, hflags], .inl hwrite⟩
  · rw [hfinal]
    exact shiftFlags_carry _ _ _ _ _ _ _
  · intro hleft hright _
    have hrot : rotates op = false := by
      cases op with
      | rotateLeft => exact absurd rfl hleft
      | rotateRight => exact absurd rfl hright
      | _ => rfl
    rw [hfinal, hrot]
    exact shiftFlags_shows hw _ _ _ _ _
  · exact fun h => absurd h hcount

/-- The carry of the iteration when a byte turns whole. -/
theorem iterated_turned (hop : shiftOf r.inst.id = some op)
    (hw : WidthOf r.inst.op1.sizeBytes r.width) (hcount : r.maskedCount ≠ 0)
    (hturn : TurnedWhole r op) :
    r.iterated op = (r.operand, r.turnedBit) := by
  obtain ⟨hsize, hrot, hmod⟩ := hturn
  obtain ⟨n, hn : r.maskedCount = n + 1⟩ := Nat.exists_eq_succ_of_ne_zero hcount
  have hwidth : r.width = 8 := by
    obtain h | h := hw
    · exact h.2
    · rw [hsize] at h
      cases h.1
  have hround : ∀ v : BitVec r.width, moved op (n + 1) v = v := fun v =>
    moved_turned hrot (by rw [hwidth, ← hn]; exact hmod) v
  apply Prod.ext
  · rw [ShiftRun.iterated, iterated_fst, hn]
    exact hround _
  · rw [ShiftRun.iterated, hn, iterated_snd]
    unfold ShiftRun.turnedBit
    obtain ⟨-, rfl⟩ | ⟨-, rfl⟩ | ⟨-, rfl⟩ | ⟨hid, rfl⟩ | ⟨hid, rfl⟩ := shiftOf_cases hop
    · cases hrot
    · cases hrot
    · cases hrot
    · rw [leaving_rotateLeft, hround, if_pos hid]
      simp [ShiftRun.operand, hwidth]
    · rw [leaving_rotateRight, hround, if_neg (by rw [hid]; decide),
        BitVec.msb_eq_getLsbD_last]
      simp [ShiftRun.operand, hwidth]

/-- A byte that turns whole is left alone with the carry. -/
theorem shiftRun_turned (hop : shiftOf r.inst.id = some op)
    (hw : WidthOf r.inst.op1.sizeBytes r.width) (hcount : r.maskedCount ≠ 0)
    (hturn : TurnedWhole r op) : r.Iterates op ↔ r.ctx.getFlag kFlagCF = r.turnedBit := by
  have htail := shiftRun_tail r
  have hne : ¬ r.count &&& 0x1F = 0 := fun h => hcount (congrArg BitVec.toNat h)
  have hiter := iterated_turned hop hw hcount hturn
  unfold shiftTail at htail
  rw [if_neg hne, hturn.1, shiftSwitch_turned hop hturn.2.1 r.value rfl hturn.2.2] at htail
  obtain ⟨-, hfinal⟩ := exec_pure_ok htail
  constructor
  · intro h
    rw [← shiftRun_ctx r, ← hfinal, h.carry, hiter]
  · intro hcf
    constructor
    · exact hop
    · exact hw.imp And.right And.right
    · refine ⟨r.countRead, r.countRead.ctx.eflags, hfinal, .inr ⟨rfl, ?_⟩⟩
      rw [hiter]
    · rw [hfinal, shiftRun_ctx, hiter, hcf]
    · intro hleft hright _
      have hrot := hturn.2.1
      cases op with
      | rotateLeft => exact absurd rfl hleft
      | rotateRight => exact absurd rfl hright
      | _ => cases hrot
    · exact fun h => absurd h hcount

/-- Turning whole, in the words of the code. -/
theorem turnsWhole_iff (hop : shiftOf r.inst.id = some op) :
    r.TurnsWhole ↔ TurnedWhole r op ∧ r.maskedCount ≠ 0 := by
  unfold ShiftRun.TurnsWhole TurnedWhole
  obtain ⟨hid, rfl⟩ | ⟨hid, rfl⟩ | ⟨hid, rfl⟩ | ⟨hid, rfl⟩ | ⟨hid, rfl⟩ := shiftOf_cases hop
  all_goals
    simp only [hid, rotates]
    tauto

/-- **A shift or rotate is its one-bit iteration** exactly when it is not a byte that turns whole
while CF differs from the bit that goes round last. -/
theorem shift_iterates_iff (r : ShiftRun M) :
    (∃ op, r.Iterates op) ↔ (r.TurnsWhole → r.ctx.getFlag kFlagCF = r.turnedBit) := by
  obtain ⟨op, hop, hw⟩ := shiftRun_form r
  have hsame : (∃ op, r.Iterates op) ↔ r.Iterates op := by
    refine ⟨fun ⟨op', h⟩ => ?_, fun h => ⟨op, h⟩⟩
    have hop' := h.operation
    rw [hop] at hop'
    cases hop'
    exact h
  rw [hsame, turnsWhole_iff hop]
  by_cases hzero : r.maskedCount = 0
  · exact ⟨fun _ h => absurd hzero h.2, fun _ => shiftRun_zero hop hw hzero⟩
  · by_cases hturn : TurnedWhole r op
    · rw [shiftRun_turned hop hw hzero hturn]
      exact ⟨fun h _ => h, fun h => h ⟨hturn, hzero⟩⟩
    · exact ⟨fun _ h => absurd h.1 hturn, fun _ => shiftRun_computed hop hw hzero hturn⟩

end Run

/-- The registers with one in AL. -/
def oneInAl : Reg32 → U32 := fun reg => if reg = .eax then 1 else 0

/-- The code of ROL AL, 8 decodes to it. -/
theorem rolEight_decodes :
    outcome (decodeAt (codeContext oneInAl) 0x100 (codeSpace [0xC0, 0xC0, 0x08])) =
      .ok { id := .rol, length := 3, op1 := .makeReg8 0, op2 := .makeImm 8 1 } := by
  decide +kernel

/-- `ROL AL, 8`. -/
def rolEight : Decoded (AddressSpace Unit) :=
  decodedCode [0xC0, 0xC0, 0x08] oneInAl _ rolEight_decodes

/-- `ROL AL, 8` with one in AL: the bit goes all the way round, and CF is not set. -/
theorem rol_eight_keeps_carry :
    ∃ r : ShiftRun (AddressSpace Unit), r.mem = codeSpace [0xC0, 0xC0, 0x08] ∧ r.value = 1 ∧
      r.count = 8 ∧ ¬ ∃ op, r.Iterates op := by
  have hop : rolEight.bytes.head? = some 0xC0 := by decide +kernel
  have hvalue : outcome (runExec none (readOperand rolEight.inst.op1) rolEight.machine) = .ok 1 := by
    decide +kernel
  have hrun : outcome (rolEight.execute none) = .ok {} := by decide +kernel
  let r : ShiftRun (AddressSpace Unit) :=
    { toDecoded := rolEight
      trap := none
      opcode := 0xC0
      group2 := rfl
      hasOpcode := hop
      value := 1
      count := 8
      valueRead := stateAfter (runExec none (readOperand rolEight.inst.op1) rolEight.machine)
      countRead := stateAfter (runExec none (readOperand rolEight.inst.op1) rolEight.machine)
      readsValue := eq_ok_of_outcome hvalue
      readsCount := rfl
      result := {}
      final := stateAfter (rolEight.execute none)
      runs := eq_ok_of_outcome hrun }
  refine ⟨r, rfl, rfl, rfl, fun ⟨op, h⟩ => ?_⟩
  have hop := h.operation
  cases hop
  have hcarry := h.carry
  have hkept : (stateAfter (rolEight.execute none)).ctx.getFlag kFlagCF = false := by
    decide +kernel
  have hcount : r.maskedCount = 8 := by
    change ((8 : U32) &&& 31).toNat = 8
    decide
  have hmoved := iterated_turned (r := r) rfl (.inl ⟨rfl, rfl⟩) (by rw [hcount]; decide)
    ⟨rfl, rfl, by rw [hcount]⟩
  have hbit : r.turnedBit = true := by
    unfold ShiftRun.turnedBit
    rw [if_pos (show r.inst.id = .rol from rfl)]
    change (1 : U32).getLsbD 0 = true
    decide
  rw [show r.final.ctx.getFlag kFlagCF = false from hkept, hmoved, hbit] at hcarry
  cases hcarry

end Xblob.Analysis
