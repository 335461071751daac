import Xblob.Analysis.ExecutorRuns
import Xblob.Analysis.GateDelivery
import Xblob.Interface.Arithmetic

/-!
# Divisions by a dword

The two quotients that do not fit in 32 bits are told apart from the others before anything is
written.  The one quotient of IDIV that does not fit in 64 bits is caught by a guard of its own.
-/

set_option autoImplicit false

namespace Xblob.Analysis

open Xblob.Computation Xblob.Interface Xblob.Memory Xblob.Processor Xblob.Processor.Exec

/-! ## Quotients and remainders -/

/-- EDX and EAX together, as an unsigned number. -/
theorem dividend_toNat (ctx : CpuContext) :
    (dividend ctx).toNat = (ctx.gpr .edx).toNat * 0x100000000 + (ctx.gpr .eax).toNat := by
  have hedx : (ctx.gpr .edx).toNat < 2 ^ 32 := (ctx.gpr .edx).isLt
  have heax : (ctx.gpr .eax).toNat < 2 ^ 32 := (ctx.gpr .eax).isLt
  unfold dividend
  rw [BitVec.toNat_or, BitVec.toNat_shiftLeft, BitVec.toNat_setWidth, BitVec.toNat_setWidth,
    Nat.mod_eq_of_lt (show (ctx.gpr .edx).toNat < 2 ^ 64 by omega),
    Nat.mod_eq_of_lt (show (ctx.gpr .eax).toNat < 2 ^ 64 by omega), Nat.shiftLeft_eq,
    Nat.mod_eq_of_lt (show (ctx.gpr .edx).toNat * 2 ^ 32 < 2 ^ 64 by omega), ← Nat.shiftLeft_eq,
    ← Nat.shiftLeft_add_eq_or_of_lt heax, Nat.shiftLeft_eq]

/-- EDX and EAX together, as a signed number. -/
theorem signed_dividend (ctx : CpuContext) :
    (dividend ctx).toInt = (ctx.gpr .edx).toInt * 0x100000000 + (ctx.gpr .eax).toNat := by
  have hnat := dividend_toNat ctx
  have hwide := BitVec.toInt_eq_toNat_cond (dividend ctx)
  have hedx := BitVec.toInt_eq_toNat_cond (ctx.gpr .edx)
  have hhigh : (ctx.gpr .edx).toNat < 2 ^ 32 := (ctx.gpr .edx).isLt
  have hlow : (ctx.gpr .eax).toNat < 2 ^ 32 := (ctx.gpr .eax).isLt
  omega

/-- The low dword of a qword is that of its signed number. -/
theorem setWidth_ofInt (x : U64) : (x.setWidth 32 : U32) = BitVec.ofInt 32 x.toInt := by
  have hx := BitVec.toInt_eq_toNat_cond x
  have hlt : x.toNat < 2 ^ 64 := x.isLt
  apply BitVec.eq_of_toNat_eq
  rw [BitVec.toNat_setWidth, BitVec.toNat_ofInt]
  omega

/-- The quotient and remainder of DIV. -/
theorem unsignedDivide_eq (dividend : U64) {divisor : U32} (h : divisor ≠ 0) :
    unsignedDivide dividend divisor =
      if 0x100000000 ≤ dividend.toNat / divisor.toNat then none
      else some (BitVec.ofNat 32 (dividend.toNat / divisor.toNat),
        BitVec.ofNat 32 (dividend.toNat % divisor.toNat)) := by
  have hdivisor : (divisor.setWidth 64).toNat = divisor.toNat := by
    have hlt : divisor.toNat < 2 ^ 32 := divisor.isLt
    rw [BitVec.toNat_setWidth]
    omega
  unfold unsignedDivide
  dsimp only
  rw [if_neg h]
  have hquotient : (dividend / divisor.setWidth 64).toNat = dividend.toNat / divisor.toNat := by
    rw [BitVec.toNat_udiv, hdivisor]
  have hremainder : (dividend % divisor.setWidth 64).toNat = dividend.toNat % divisor.toNat := by
    rw [BitVec.toNat_umod, hdivisor]
  have hgt : dividend / divisor.setWidth 64 > 0xFFFFFFFF ↔
      0x100000000 ≤ dividend.toNat / divisor.toNat := by
    rw [gt_iff_lt, BitVec.lt_def, hquotient]
    change 0xFFFFFFFF < _ ↔ _
    omega
  by_cases hbig : 0x100000000 ≤ dividend.toNat / divisor.toNat
  · rw [if_pos hbig, if_pos (hgt.2 hbig)]
  · rw [if_neg hbig, if_neg (mt hgt.1 hbig), ← hquotient, ← hremainder]
    rfl

/-- The divisor keeps its sign at 64 bits. -/
theorem divisor_toInt (divisor : U32) : (divisor.signExtend 64).toInt = divisor.toInt :=
  BitVec.toInt_signExtend_of_le (by decide)

/-- The division that the guard of IDIV is for. -/
theorem guard_iff {dividend : U64} {divisor : U32} :
    dividend = 0x8000000000000000 ∧ divisor = 0xFFFFFFFF ↔
      dividend.toInt = -0x8000000000000000 ∧ divisor.toInt = -1 := by
  constructor
  · rintro ⟨rfl, rfl⟩
    exact ⟨rfl, rfl⟩
  · rintro ⟨hdividend, hdivisor⟩
    exact ⟨BitVec.eq_of_toInt_eq hdividend, BitVec.eq_of_toInt_eq hdivisor⟩

/-- The quotient and remainder of IDIV. -/
theorem signedDivide_eq (dividend : U64) {divisor : U32} (h : divisor ≠ 0) :
    signedDivide dividend divisor =
      if -0x80000000 ≤ dividend.toInt.tdiv divisor.toInt ∧
          dividend.toInt.tdiv divisor.toInt < 0x80000000 then
        some (BitVec.ofInt 32 (dividend.toInt.tdiv divisor.toInt),
          BitVec.ofInt 32 (dividend.toInt.tmod divisor.toInt))
      else none := by
  unfold signedDivide
  dsimp only
  rw [if_neg h]
  by_cases hguard : dividend = 0x8000000000000000 ∧ divisor = 0xFFFFFFFF
  · obtain ⟨hdividend, hdivisor⟩ := guard_iff.1 hguard
    rw [if_pos hguard, hdividend, hdivisor, if_neg (by decide)]
  · rw [if_neg hguard]
    have hne : dividend ≠ BitVec.intMin 64 ∨ divisor.signExtend 64 ≠ -1#64 := by
      by_contra hboth
      rw [not_or, not_not, not_not] at hboth
      refine hguard ⟨hboth.1, ?_⟩
      apply BitVec.eq_of_toInt_eq
      rw [← divisor_toInt, hboth.2]
      rfl
    have hquotient : (dividend.sdiv (divisor.signExtend 64)).toInt =
        dividend.toInt.tdiv divisor.toInt := by
      rw [BitVec.toInt_sdiv_of_ne_or_ne _ _ hne, divisor_toInt]
    have hremainder : (dividend.srem (divisor.signExtend 64)).toInt =
        dividend.toInt.tmod divisor.toInt := by
      rw [BitVec.toInt_srem, divisor_toInt]
    rw [hquotient, setWidth_ofInt, setWidth_ofInt, hquotient, hremainder]
    by_cases hfits : -0x80000000 ≤ dividend.toInt.tdiv divisor.toInt ∧
        dividend.toInt.tdiv divisor.toInt < 0x80000000
    · rw [if_pos hfits, if_neg (by omega)]
    · rw [if_neg hfits, if_pos (by omega)]

/-! ## The host -/

/-- The unsigned division never divides by zero on the host. -/
theorem hostDiv_safe (dividend : U64) (divisor : U32) :
    hostDiv dividend divisor = some (unsignedDivide dividend divisor) := by
  unfold hostDiv
  by_cases h : divisor = 0
  · rw [if_pos h, unsignedDivide, if_pos h]
  · have hpos : 0 < divisor.toNat := by
      rcases Nat.eq_zero_or_pos divisor.toNat with hzero | hpos
      · exact absurd (BitVec.eq_of_toNat_eq hzero) h
      · exact hpos
    have hlt : dividend.toNat < 2 ^ 64 := dividend.isLt
    have hle := Nat.div_le_self dividend.toNat divisor.toNat
    have hquotient : (dividend.toNat : ℤ).tdiv divisor.toNat =
        ((dividend.toNat / divisor.toNat : ℕ) : ℤ) := rfl
    have hremainder : (dividend.toNat : ℤ).tmod divisor.toNat =
        ((dividend.toNat % divisor.toNat : ℕ) : ℤ) := rfl
    have hfits : (divisor.toNat : ℤ) ≠ 0 ∧ 0 ≤ ((dividend.toNat / divisor.toNat : ℕ) : ℤ) ∧
        ((dividend.toNat / divisor.toNat : ℕ) : ℤ) < 0x10000000000000000 :=
      ⟨by omega, Int.natCast_nonneg _, Int.ofNat_lt.2 (Nat.lt_of_le_of_lt hle hlt)⟩
    rw [if_neg h, hostDivide, hquotient, hremainder, if_pos hfits, unsignedDivide_eq dividend h]
    change (if _ then _ else _) = _
    by_cases hbig : 0x100000000 ≤ dividend.toNat / divisor.toNat
    · rw [if_pos hbig, if_pos (by omega)]
    · rw [if_neg hbig, if_neg (by omega), BitVec.ofInt_natCast, BitVec.ofInt_natCast]

/-- A quotient is no larger than its dividend. -/
theorem tdiv_bounds {a b : ℤ} (ha : -0x8000000000000000 ≤ a ∧ a < 0x8000000000000000)
    (hguard : ¬ (a = -0x8000000000000000 ∧ b = -1)) :
    -0x8000000000000000 ≤ a.tdiv b ∧ a.tdiv b < 0x8000000000000000 := by
  have habs : (a.tdiv b).natAbs = a.natAbs / b.natAbs := Int.natAbs_tdiv a b
  by_cases hsmall : a.natAbs < 0x8000000000000000
  · have hle := Nat.div_le_self a.natAbs b.natAbs
    omega
  · have hmin : a = -0x8000000000000000 := by omega
    rcases Nat.lt_or_ge 1 b.natAbs with hb | hb
    · have hlt : a.natAbs / b.natAbs < a.natAbs := Nat.div_lt_self (by omega) hb
      omega
    · rcases (show b = 0 ∨ b = 1 by omega) with rfl | rfl
      · simp
      · rw [Int.tdiv_one]
        omega

/-- The signed division never divides by zero nor overflows on the host. -/
theorem hostIdiv_safe (dividend : U64) (divisor : U32) :
    hostIdiv dividend divisor = some (signedDivide dividend divisor) := by
  unfold hostIdiv
  by_cases h : divisor = 0
  · rw [if_pos h, signedDivide, if_pos h]
  · rw [if_neg h]
    by_cases hguard : dividend = 0x8000000000000000 ∧ divisor = 0xFFFFFFFF
    · rw [if_pos hguard, signedDivide, if_neg h, if_pos hguard]
    · have hne : divisor.toInt ≠ 0 := fun hzero => h (BitVec.eq_of_toInt_eq hzero)
      have hbounds := tdiv_bounds (b := divisor.toInt)
        ⟨BitVec.le_toInt dividend, BitVec.toInt_lt (x := dividend)⟩ (mt guard_iff.2 hguard)
      rw [if_neg hguard, hostDivide, if_pos ⟨hne, hbounds⟩, signedDivide_eq dividend h]
      change (if _ then _ else _) = _
      by_cases hfits : -0x80000000 ≤ dividend.toInt.tdiv divisor.toInt ∧
          dividend.toInt.tdiv divisor.toInt < 0x80000000
      · rw [if_pos hfits, if_neg (by omega)]
      · rw [if_neg hfits, if_pos (by omega)]

/-- Both divisions are safe on the host. -/
theorem host_safe : HostSafe := fun dividend divisor =>
  ⟨hostDiv_safe dividend divisor, hostIdiv_safe dividend divisor⟩

/-- A remainder has the sign of its dividend. -/
theorem sign_remainder (a b : ℤ) : a.tmod b = 0 ∨ (a.tmod b).sign = a.sign := by
  by_cases h : b ∣ a
  · exact .inl (Int.tmod_eq_zero_of_dvd h)
  · right
    rw [Int.sign_tmod, if_neg h]

/-! ## The instructions -/

section Runs

variable {M : Type} [GuestMemory M]

/-- DIV, once its divisor is read. -/
theorem execute_div {d : Decoded M} {trap : Option (TrapHandler M)} {divisor : U32}
    {read : Machine M} (hread : runExec trap (readOperand d.inst.op1) d.machine = .ok divisor read)
    (hid : d.inst.id = .div) : d.execute trap =
      runExec trap (commitDivision d.ctx.eip (unsignedDivide (dividend d.ctx) divisor)) read := by
  have hctx : runExec trap context read = .ok d.ctx read := by
    rw [show d.ctx = read.ctx from (readOperand_ctx hread).symm]
    rfl
  unfold Decoded.execute execute
  rw [hid]
  dsimp only
  unfold executeMulDiv
  rw [hid]
  dsimp only
  rw [exec_bind_of_ok hread, exec_bind_of_ok hctx]

/-- IDIV, once its divisor is read. -/
theorem execute_idiv {d : Decoded M} {trap : Option (TrapHandler M)} {divisor : U32}
    {read : Machine M} (hread : runExec trap (readOperand d.inst.op1) d.machine = .ok divisor read)
    (hid : d.inst.id = .idiv) : d.execute trap =
      runExec trap (commitDivision d.ctx.eip (signedDivide (dividend d.ctx) divisor)) read := by
  have hctx : runExec trap context read = .ok d.ctx read := by
    rw [show d.ctx = read.ctx from (readOperand_ctx hread).symm]
    rfl
  unfold Decoded.execute execute
  rw [hid]
  dsimp only
  unfold executeMulDiv
  rw [hid]
  dsimp only
  rw [exec_bind_of_ok hread, exec_bind_of_ok hctx]

/-- What the two divisions of Group 3 decode to. -/
theorem decodeGroup3_division {s s' : InstructionStream M} {opcode : U8} {eip : GuestAddr}
    {ctx : CpuContext} {o : Option DecodedInstruction}
    (h : decoding (Decoding.decodeGroup3 opcode eip ctx) s = .ok o s') :
    ∃ inst modrm after, o = some inst ∧ s'.rawBytes = s.rawBytes ++ modrm :: after ∧
      ((regField modrm).toNat = 6 → inst.id = .div) ∧
        ((regField modrm).toNat = 7 → inst.id = .idiv) := by
  obtain ⟨⟨op1, reg⟩, s₁, hmodrm, h⟩ := decoding_bind_ok h
  obtain ⟨modrm, after, hraw, rfl, -⟩ := parseModRm_taken hmodrm
  dsimp only at h
  generalize hreg : (regField modrm).toNat = reg at h
  split at h
  · obtain ⟨op2, s₂, himm, h⟩ := decoding_bind_ok h
    obtain ⟨more, hmore⟩ := decoding_extends himm
    obtain ⟨length, ho, rfl⟩ := decoding_found h
    exact ⟨_, modrm, after ++ more, ho, by simp [hmore, hraw], by simp [hreg], by simp [hreg]⟩
  · obtain ⟨length, ho, rfl⟩ := decoding_found h
    exact ⟨_, modrm, after, ho, hraw, by simp [hreg], by simp [hreg]⟩
  · obtain ⟨length, ho, rfl⟩ := decoding_found h
    exact ⟨_, modrm, after, ho, hraw, by simp [hreg], by simp [hreg]⟩
  · obtain ⟨length, ho, rfl⟩ := decoding_found h
    exact ⟨_, modrm, after, ho, hraw, by simp, by simp [hreg]⟩
  · obtain ⟨length, ho, rfl⟩ := decoding_found h
    exact ⟨_, modrm, after, ho, hraw, by simp [hreg], by simp⟩
  · exact (unsupported_fails h).elim

variable (r : DivisionRun M)

/-- The register field tells the division apart. -/
theorem divisionRun_id :
    (r.reg = 6 → r.inst.id = .div) ∧ (r.reg = 7 → r.inst.id = .idiv) := by
  obtain ⟨px, inst₀, s₁, after, hraw, hbytes, hfirst, hinst⟩ :=
    decoded_recognised r.toDecoded r.group3
  have hshape : ∃ next, Decoding.firstOf (alternatives 0xF7 r.ctx.eip r.ctx) =
      Decoding.decodeGroup3 0xF7 r.ctx.eip r.ctx >>= next ∧
        ∀ inst, next (some inst) = pure (some inst) :=
    ⟨_, rfl, fun _ => rfl⟩
  obtain ⟨next, heq, hnext⟩ := hshape
  rw [heq] at hfirst
  obtain ⟨o, s₂, hgroup, hrest⟩ := decoding_bind_ok hfirst
  obtain ⟨inst, modrm, after', ho, hraw', hdiv, hidiv⟩ := decodeGroup3_division hgroup
  rw [ho, hnext] at hrest
  obtain ⟨hsome, hend⟩ := decoding_pure_ok hrest
  cases hsome
  rw [hend] at hraw
  have hafter : after = modrm :: after' := List.append_cancel_left (hraw.symm.trans hraw')
  have hreg : r.reg = (regField modrm).toNat := by
    unfold DivisionRun.reg
    rw [hbytes, hafter]
    rfl
  rw [hreg, hinst]
  exact ⟨hdiv, hidiv⟩

/-- A step whose instruction raises an exception in the context it found. -/
theorem leaves_registers {final : Machine M} {ex : CpuException}
    (hrun : r.execute r.trap = .ok { exception := some ex } final) (hctx : final.ctx = r.ctx) :
    r.LeavesRegisters := by
  rintro cpu hcpu cpu' rfl
  have hstep : stepInstruction r.trap cpu r.mem = exceptionRaised r.trap cpu r.inst final ex := by
    have hexecute : runExec r.trap (execute r.inst r.ctx.eip) ⟨r.ctx, r.stream.mem⟩ =
        .ok { exception := some ex } final := hrun
    unfold stepInstruction
    rw [hcpu]
    dsimp only
    rw [r.decodes]
    dsimp only
    rw [hexecute]
  rw [hstep]
  unfold exceptionRaised
  dsimp only
  by_cases hlimit : final.ctx.idtr.limit > 0
  · rw [if_pos hlimit]
    have hgpr (reg : Reg32) (hreg : reg ≠ .esp) := delivery_gpr
      ⟨ex.vector.number, ex.errorCode, false, ex.faultEip⟩ r.trap final hreg
    unfold Delivery.run at hgpr
    refine ⟨fun hzero => ?_, fun reg hreg => ?_⟩
    · rw [hctx, hzero] at hlimit
      exact absurd hlimit (by decide)
    · have hkept := hgpr reg hreg
      rw [hctx] at hkept
      cases hdeliver : runExec r.trap (deliverGate ex.vector.number ex.errorCode false ex.faultEip)
          final with
      | ok u s =>
        rw [hdeliver] at hkept
        exact hkept
      | error e s =>
        rw [hdeliver] at hkept
        exact hkept
  · rw [if_neg hlimit]
    exact ⟨fun _ => hctx, fun reg _ => congrFun (congrArg CpuContext.gpr hctx) reg⟩

/-- A division gives what it has to if what is committed does. -/
theorem gives_of_committed {division : Option (U32 × U32)} {value : U32 → ℤ}
    {low high dividend divisor : ℤ}
    (hrun : r.execute r.trap = runExec r.trap (commitDivision r.ctx.eip division) r.sourceRead)
    (hnone : ¬ (divisor ≠ 0 ∧ low ≤ dividend.tdiv divisor ∧ dividend.tdiv divisor < high) →
      division = none)
    (hsome : divisor ≠ 0 ∧ low ≤ dividend.tdiv divisor ∧ dividend.tdiv divisor < high →
      ∃ quotient remainder, division = some (quotient, remainder) ∧
        value quotient = dividend.tdiv divisor ∧ value remainder = dividend.tmod divisor) :
    r.Gives value low high dividend divisor := by
  have hctx : r.sourceRead.ctx = r.ctx := readOperand_ctx r.readsDivisor
  unfold DivisionRun.Gives
  split
  next hfits =>
    obtain ⟨quotient, remainder, hdivision, hquotient, hremainder⟩ := hsome hfits
    rw [hdivision] at hrun
    refine ⟨_, hrun, ?_, ?_, ?_, ?_⟩
    · change (r.sourceRead.ctx.setGpr .eax quotient).setGpr .edx remainder = _
      rw [hctx]
      rfl
    · change value quotient * divisor + value remainder = dividend
      rw [hquotient, hremainder, Int.mul_comm]
      exact Int.mul_tdiv_add_tmod dividend divisor
    · change (value remainder).natAbs < divisor.natAbs
      rw [hremainder, Int.natAbs_tmod]
      exact Nat.mod_lt _ (Int.natAbs_pos.2 hfits.1)
    · change value remainder = 0 ∨ (value remainder).sign = dividend.sign
      rw [hremainder]
      exact sign_remainder dividend divisor
  next hfits =>
    rw [hnone hfits] at hrun
    exact ⟨⟨r.sourceRead, hrun, hctx⟩, leaves_registers r hrun hctx⟩

/-- DIV gives quotient and remainder in the unsigned range. -/
theorem div_gives (hid : r.inst.id = .div) :
    r.Gives (fun v => v.toNat) 0 0x100000000 r.dividend r.divisor.toNat := by
  have hquotient : (r.dividend : ℤ).tdiv r.divisor.toNat =
      ((r.dividend / r.divisor.toNat : ℕ) : ℤ) := rfl
  have hremainder : (r.dividend : ℤ).tmod r.divisor.toNat =
      ((r.dividend % r.divisor.toNat : ℕ) : ℤ) := rfl
  have hwide : (dividend r.ctx).toNat = r.dividend := dividend_toNat r.ctx
  have hzero : r.divisor = 0 ↔ r.divisor.toNat = 0 :=
    ⟨fun h => by rw [h]; rfl, fun h => BitVec.eq_of_toNat_eq h⟩
  apply gives_of_committed r (execute_div r.readsDivisor hid)
  · intro hfits
    by_cases h : r.divisor = 0
    · rw [unsignedDivide, if_pos h]
    · rw [unsignedDivide_eq _ h, hwide, if_pos]
      rw [hquotient] at hfits
      by_contra hsmall
      exact hfits ⟨Int.natCast_ne_zero.2 (mt hzero.2 h), Int.natCast_nonneg _,
        Int.ofNat_lt.2 (Nat.lt_of_not_le hsmall)⟩
  · rintro ⟨hne, -, hlt⟩
    have h : r.divisor ≠ 0 := mt hzero.1 (Int.natCast_ne_zero.1 hne)
    rw [hquotient] at hlt
    have hsmall : r.dividend / r.divisor.toNat < 0x100000000 := Int.ofNat_lt.1 hlt
    have hrest : r.dividend % r.divisor.toNat < 0x100000000 :=
      Nat.lt_trans (Nat.mod_lt _ (Nat.pos_of_ne_zero (mt hzero.2 h))) r.divisor.isLt
    refine ⟨_, _, by rw [unsignedDivide_eq _ h, hwide, if_neg (Nat.not_le.2 hsmall)], ?_, ?_⟩
    · rw [hquotient, BitVec.toNat_ofNat, Nat.mod_eq_of_lt hsmall]
    · rw [hremainder, BitVec.toNat_ofNat, Nat.mod_eq_of_lt hrest]

/-- IDIV gives quotient and remainder in the signed range. -/
theorem idiv_gives (hid : r.inst.id = .idiv) :
    r.Gives BitVec.toInt (-0x80000000) 0x80000000 r.signedDividend r.divisor.toInt := by
  have hwide : (dividend r.ctx).toInt = r.signedDividend := signed_dividend r.ctx
  have hzero : r.divisor = 0 ↔ r.divisor.toInt = 0 :=
    ⟨fun h => by rw [h]; rfl, fun h => BitVec.eq_of_toInt_eq h⟩
  apply gives_of_committed r (execute_idiv r.readsDivisor hid)
  · intro hfits
    by_cases h : r.divisor = 0
    · rw [signedDivide, if_pos h]
    · rw [signedDivide_eq _ h, hwide, if_neg]
      exact fun hbounds => hfits ⟨mt hzero.2 h, hbounds⟩
  · rintro ⟨hne, hbounds⟩
    have h : r.divisor ≠ 0 := mt hzero.1 hne
    have hrest : (r.signedDividend.tmod r.divisor.toInt).natAbs < r.divisor.toInt.natAbs := by
      rw [Int.natAbs_tmod]
      exact Nat.mod_lt _ (Int.natAbs_pos.2 hne)
    have hlow : -0x80000000 ≤ r.divisor.toInt := BitVec.le_toInt r.divisor
    have hhigh : r.divisor.toInt < 0x80000000 := BitVec.toInt_lt
    refine ⟨_, _, by rw [signedDivide_eq _ h, hwide, if_pos hbounds], ?_, ?_⟩
    · exact BitVec.toInt_ofInt_eq_self (by decide) hbounds.1 hbounds.2
    · exact BitVec.toInt_ofInt_eq_self (by decide) (by omega) (by omega)

/-- Both divisions do what they are to do. -/
theorem operates : r.Operates where
  div hreg := div_gives r ((divisionRun_id r).1 hreg)
  idiv hreg := idiv_gives r ((divisionRun_id r).2 hreg)

/-- DIV and IDIV divide or raise the divide error, and no division of the host is one without a
result. -/
theorem divisions : (∀ r : DivisionRun M, r.Operates) ∧ HostSafe := ⟨operates, host_safe⟩

end Runs

/-! ## DIV EBX -/

/-- The code of DIV EBX decodes to a dword division. -/
theorem divDword_decodes :
    outcome (decodeAt (codeContext tenByThree) 0x100 (codeSpace [0xF7, 0xF3])) =
      .ok { id := .div, length := 2, cycles := 10, dataSize := 4, op1 := .makeReg .ebx } := by
  decide +kernel

/-- `DIV EBX` with ten in EAX and three in EBX. -/
def divDword : DivisionRun (AddressSpace Unit) where
  toDecoded := decodedCode [0xF7, 0xF3] tenByThree _ divDword_decodes
  group3 := by
    unfold Decoded.HasOpcode
    decide +kernel
  trap := none
  divisor := 3
  sourceRead := _
  readsDivisor := rfl

example : (stateAfter (divDword.execute none)).ctx.gpr .eax = 3 := by decide +kernel

example : (stateAfter (divDword.execute none)).ctx.gpr .edx = 1 := by decide +kernel

end Xblob.Analysis
