import Mathlib.Data.List.Forall2
import Xblob.Analysis.Comparisons
import Xblob.Interface.Arithmetic

/-!
# Chains of carries

Each instruction of a chain adds a column: the limb it leaves and its carry make up the sum of its
operands and of the carry before.  A subtraction is a column read upwards, from the difference and
the lower limb to the upper one.
-/

set_option autoImplicit false

namespace Xblob.Analysis

open Xblob.Computation Xblob.Interface Xblob.Processor Xblob.Processor.Exec

variable {M : Type} [GuestMemory M]

/-! ## One instruction -/

/-- What an instruction with a result leaves. -/
theorem leaves_result (s : LimbStep M) {result : AluResult} {cf pf zf sf ovf : Bool}
    (hid : s.inst.id ∈ [InstructionId.add, .adc, .sub, .sbb, .cmp])
    (hresult : aluResult s.inst.id s.a s.b s.before.ctx.eflags = some result)
    (hwrites : result.writeBack = true) (hflags : ShowsFlags result.newFlags cf pf zf sf ovf) :
    s.Leaves result.outVal ∧ s.carryOut = cf := by
  have hruns := s.completes
  rw [execute_alu s.toAluRun hid hresult, commitAlu, if_pos hwrites] at hruns
  obtain ⟨⟨⟩, written, hwrite, hruns⟩ := exec_bind_ok hruns
  have hfinal : s.final =
      { written with ctx := { written.ctx with eflags := result.newFlags ||| kFlagReserved1 } } :=
    (EStateM.Result.ok.inj hruns).2.symm
  refine ⟨⟨written, _, hwrite, hfinal⟩, ?_⟩
  unfold LimbStep.carryOut
  rw [hfinal]
  exact (hflags.setEflags written.ctx).carry

/-- The carry as a dword. -/
theorem toNat_carry (c : Bool) : ((if c then 1 else 0 : U32)).toNat = c.toNat := by
  cases c <;> rfl

/-- The carry as a qword. -/
theorem toNat_wideCarry (c : Bool) : ((if c then 1 else 0 : U64)).toNat = c.toNat := by
  cases c <;> rfl

/-- A sum of two dwords and a carry, in its low dword and whether it is above the largest one. -/
theorem sum_split (a b : U32) (c : Bool) :
    (a + b + if c then 1 else 0 : U32).toNat + 2 ^ 32 *
        (decide ((a.setWidth 64 + b.setWidth 64 + if c then 1 else 0 : U64) > 0xFFFFFFFF)).toNat =
      a.toNat + b.toNat + c.toNat := by
  have ha := a.isLt
  have hb := b.isLt
  have hc : c.toNat ≤ 1 := Bool.toNat_le c
  have hlow : (a + b + if c then 1 else 0 : U32).toNat = (a.toNat + b.toNat + c.toNat) % 2 ^ 32 := by
    rw [BitVec.toNat_add, BitVec.toNat_add, toNat_carry, Nat.mod_add_mod]
  have hwide : (a.setWidth 64 + b.setWidth 64 + if c then 1 else 0 : U64).toNat =
      a.toNat + b.toNat + c.toNat := by
    rw [BitVec.toNat_add, BitVec.toNat_add, toNat_wideCarry, BitVec.toNat_setWidth,
      BitVec.toNat_setWidth]
    omega
  have habove : (a.setWidth 64 + b.setWidth 64 + if c then 1 else 0 : U64) > 0xFFFFFFFF ↔
      2 ^ 32 ≤ a.toNat + b.toNat + c.toNat := by
    rw [gt_iff_lt, BitVec.lt_def, hwide]
    exact Nat.lt_iff_add_one_le
  rw [hlow, decide_eq_decide.2 habove]
  by_cases h : 2 ^ 32 ≤ a.toNat + b.toNat + c.toNat
  · rw [decide_eq_true h, Bool.toNat_true]
    omega
  · rw [decide_eq_false h, Bool.toNat_false]
    omega

/-- A difference of two dwords and a borrow. -/
theorem difference_split (a b : U32) (c : Bool) :
    a.toNat + 2 ^ 32 *
        (decide ((a.setWidth 64 : U64) < b.setWidth 64 + if c then 1 else 0)).toNat =
      (a - b - if c then 1 else 0 : U32).toNat + b.toNat + c.toNat := by
  have ha := a.isLt
  have hb := b.isLt
  have hc : c.toNat ≤ 1 := Bool.toNat_le c
  have hwide : (b.setWidth 64 + if c then 1 else 0 : U64).toNat = b.toNat + c.toNat := by
    rw [BitVec.toNat_add, toNat_wideCarry, BitVec.toNat_setWidth]
    omega
  have hbelow : (a.setWidth 64 : U64) < b.setWidth 64 + (if c then 1 else 0) ↔
      a.toNat < b.toNat + c.toNat := by
    rw [BitVec.lt_def, hwide, BitVec.toNat_setWidth, Nat.mod_eq_of_lt (by omega)]
  rw [decide_eq_decide.2 hbelow, BitVec.toNat_sub, BitVec.toNat_sub, toNat_carry]
  by_cases h : a.toNat < b.toNat + c.toNat
  · rw [decide_eq_true h, Bool.toNat_true]
    omega
  · rw [decide_eq_false h, Bool.toNat_false]
    omega

/-- The column that an instruction adds. -/
structure Adds (s : LimbStep M) (carry : Bool) (limb : U32) : Prop where
  leaves : s.Leaves limb
  column : limb.toNat + 2 ^ 32 * s.carryOut.toNat = s.a.toNat + s.b.toNat + carry.toNat

/-- ADD adds one limb, without a carry in. -/
theorem add_adds (s : LimbStep M) (hid : s.inst.id = .add) : ∃ limb, Adds s false limb := by
  have hresult : aluResult s.inst.id s.a s.b s.before.ctx.eflags =
      some ⟨s.a + s.b, calculateAddFlags s.a s.b s.before.ctx.eflags, true⟩ := by
    rw [hid]
    rfl
  obtain ⟨hleaves, hcarry⟩ := leaves_result s (by simp [hid]) hresult rfl (assembled_shows ..)
  refine ⟨_, hleaves, ?_⟩
  rw [hcarry]
  have hsplit := sum_split s.a s.b false
  simpa using hsplit

/-- ADC adds one limb and the carry flag. -/
theorem adc_adds (s : LimbStep M) (hid : s.inst.id = .adc) : ∃ limb, Adds s s.carryIn limb := by
  have hresult : aluResult s.inst.id s.a s.b s.before.ctx.eflags =
      some ⟨s.a + s.b + (if s.carryIn then 1 else 0),
        calculateAdcFlags s.a s.b s.carryIn s.before.ctx.eflags, true⟩ := by
    rw [hid]
    rfl
  obtain ⟨hleaves, hcarry⟩ := leaves_result s (by simp [hid]) hresult rfl (assembled_shows ..)
  refine ⟨_, hleaves, ?_⟩
  rw [hcarry]
  exact sum_split s.a s.b s.carryIn

/-- The column that an instruction subtracts. -/
structure TakesAway (s : LimbStep M) (borrow : Bool) (limb : U32) : Prop where
  leaves : s.Leaves limb
  column : s.a.toNat + 2 ^ 32 * s.carryOut.toNat = limb.toNat + s.b.toNat + borrow.toNat

/-- SUB takes away one limb, without a borrow in. -/
theorem sub_takesAway (s : LimbStep M) (hid : s.inst.id = .sub) :
    ∃ limb, TakesAway s false limb := by
  have hresult : aluResult s.inst.id s.a s.b s.before.ctx.eflags =
      some ⟨s.a - s.b, calculateSubFlags s.a s.b s.before.ctx.eflags, true⟩ := by
    rw [hid]
    rfl
  obtain ⟨hleaves, hcarry⟩ := leaves_result s (by simp [hid]) hresult rfl (subFlags ..)
  refine ⟨_, hleaves, ?_⟩
  have hsplit := difference_split s.a s.b false
  have hbelow : (s.a.setWidth 64 : U64) < s.b.setWidth 64 ↔ s.a < s.b := by
    rw [BitVec.lt_def, BitVec.lt_def, BitVec.toNat_setWidth, BitVec.toNat_setWidth,
      Nat.mod_eq_of_lt (by omega), Nat.mod_eq_of_lt (by omega)]
  rw [hcarry, ← decide_eq_decide.2 hbelow]
  simpa using hsplit

/-- SBB takes away one limb and the carry flag. -/
theorem sbb_takesAway (s : LimbStep M) (hid : s.inst.id = .sbb) :
    ∃ limb, TakesAway s s.carryIn limb := by
  have hresult : aluResult s.inst.id s.a s.b s.before.ctx.eflags =
      some ⟨s.a - s.b - (if s.carryIn then 1 else 0),
        calculateSbbFlags s.a s.b s.carryIn s.before.ctx.eflags, true⟩ := by
    rw [hid]
    rfl
  obtain ⟨hleaves, hcarry⟩ := leaves_result s (by simp [hid]) hresult rfl (assembled_shows ..)
  refine ⟨_, hleaves, ?_⟩
  rw [hcarry]
  exact difference_split s.a s.b s.carryIn

/-! ## The chain -/

/-- The carry after instructions that were begun with one. -/
def lastCarry (carry : Bool) (steps : List (LimbStep M)) : Bool :=
  steps.getLast?.elim carry LimbStep.carryOut

/-- The carry behind a chain is that behind the rest, from the carry of the first step. -/
theorem lastCarry_cons (carry : Bool) (s : LimbStep M) (steps : List (LimbStep M)) :
    lastCarry carry (s :: steps) = lastCarry s.carryOut steps := by
  unfold lastCarry
  cases steps with
  | nil => rfl
  | cons s' steps =>
    rw [List.getLast?_cons_cons]
    obtain ⟨last, hlast⟩ : ∃ last, (s' :: steps).getLast? = some last :=
      Option.isSome_iff_exists.1 (by simp)
    rw [hlast]
    rfl

/-- A column for each instruction, one of which stands for it. -/
def IsColumn (stands : LimbStep M → Column 32 → Prop) (s : LimbStep M) (carry : Bool)
    (column : Column 32) : Prop :=
  stands s column ∧ column.under.toNat + 2 ^ 32 * s.carryOut.toNat =
    column.upper.toNat + column.lower.toNat + carry.toNat

/-- The columns of a chain ripple if each instruction adds its own. -/
theorem chained_ripples {id : InstructionId} {stands : LimbStep M → Column 32 → Prop}
    (hstep : ∀ s : LimbStep M, s.inst.id = id → ∃ column, IsColumn stands s s.carryIn column)
    {carry : Bool} {steps : List (LimbStep M)} (h : Chained id carry steps) :
    ∃ columns, List.Forall₂ stands steps columns ∧
      Ripples carry.toNat columns (lastCarry carry steps).toNat := by
  induction steps generalizing carry with
  | nil => exact ⟨[], .nil, .nil _⟩
  | cons s steps ih =>
    obtain ⟨hid, hcarry, hsteps⟩ := h
    obtain ⟨columns, hstand, hripples⟩ := ih hsteps
    obtain ⟨column, hcolumn, hsum⟩ := hstep s hid
    rw [hcarry] at hsum
    rw [lastCarry_cons]
    exact ⟨column :: columns, .cons hcolumn hstand, .cons hsum hripples⟩

/-- The columns of a whole chain, whose first instruction takes no carry. -/
theorem chain_ripples {first next : InstructionId} (stands : LimbStep M → Column 32 → Prop)
    (hfirst : ∀ s : LimbStep M, s.inst.id = first → ∃ column, IsColumn stands s false column)
    (hnext : ∀ s : LimbStep M, s.inst.id = next → ∃ column, IsColumn stands s s.carryIn column)
    (c : CarryChain M first next) :
    ∃ columns, List.Forall₂ stands c.steps columns ∧ Ripples 0 columns c.carry.toNat := by
  obtain ⟨column, hcolumn, hsum⟩ := hfirst c.lowest c.begins
  obtain ⟨columns, hstand, hripples⟩ := chained_ripples hnext c.chained
  have hcarry : c.carry = lastCarry c.lowest.carryOut c.others := by
    unfold CarryChain.carry lastCarry
    rw [List.getLastD_eq_getLast?]
    cases c.others.getLast? with
    | none => rfl
    | some last => rfl
  refine ⟨column :: columns, .cons hcolumn hstand, ?_⟩
  rw [hcarry]
  exact .cons hsum hripples

/-- What the instructions and their columns have in common, as lists. -/
theorem map_columns {stands : LimbStep M → Column 32 → Prop} {f : LimbStep M → U32}
    {g : Column 32 → U32} {steps : List (LimbStep M)} {columns : List (Column 32)}
    (h : List.Forall₂ stands steps columns) (heq : ∀ s column, stands s column → f s = g column) :
    steps.map f = columns.map g := by
  induction h with
  | nil => rfl
  | cons hstands _ ih => rw [List.map_cons, List.map_cons, heq _ _ hstands, ih]

/-- Where every step leaves its limb, the chain leaves the limbs. -/
theorem leaves_limbs {stands : LimbStep M → Column 32 → Prop} {g : Column 32 → U32}
    {steps : List (LimbStep M)} {columns : List (Column 32)}
    (h : List.Forall₂ stands steps columns)
    (hleaves : ∀ s column, stands s column → s.Leaves (g column)) :
    List.Forall₂ LimbStep.Leaves steps (columns.map g) := by
  induction h with
  | nil => exact .nil
  | cons hstands _ ih => exact .cons (hleaves _ _ hstands) ih

/-- A chain that starts with ADD and goes on with ADC adds two numbers. -/
theorem adds_up (c : CarryChain M .add .adc) : AddsUp c := by
  obtain ⟨columns, hstand, hripples⟩ := chain_ripples
    (fun s column => s.Leaves column.under ∧ s.a = column.upper ∧ s.b = column.lower)
    (fun s hid => by
      obtain ⟨limb, hleaves, hcolumn⟩ := add_adds s hid
      exact ⟨⟨s.a, s.b, limb⟩, ⟨hleaves, rfl, rfl⟩, hcolumn⟩)
    (fun s hid => by
      obtain ⟨limb, hleaves, hcolumn⟩ := adc_adds s hid
      exact ⟨⟨s.a, s.b, limb⟩, ⟨hleaves, rfl, rfl⟩, hcolumn⟩) c
  have hvalue := hripples.value
  have hlt := limbValue_lt (columns.map Column.under)
  rw [← map_columns hstand fun _ _ h => h.2.1, ← map_columns hstand fun _ _ h => h.2.2,
    ← hstand.length_eq, Nat.add_zero] at hvalue
  rw [List.length_map, ← hstand.length_eq] at hlt
  obtain ⟨hsum, hcarry⟩ := remainder_of_split hlt hvalue
  exact ⟨⟨_, leaves_limbs hstand fun _ _ h => h.1, hsum⟩, hcarry⟩

/-- A chain that starts with SUB and goes on with SBB subtracts two numbers. -/
theorem subtracts (c : CarryChain M .sub .sbb) : Subtracts c := by
  obtain ⟨columns, hstand, hripples⟩ := chain_ripples
    (fun s column => s.Leaves column.upper ∧ s.a = column.under ∧ s.b = column.lower)
    (fun s hid => by
      obtain ⟨limb, hleaves, hcolumn⟩ := sub_takesAway s hid
      exact ⟨⟨limb, s.b, s.a⟩, ⟨hleaves, rfl, rfl⟩, hcolumn⟩)
    (fun s hid => by
      obtain ⟨limb, hleaves, hcolumn⟩ := sbb_takesAway s hid
      exact ⟨⟨limb, s.b, s.a⟩, ⟨hleaves, rfl, rfl⟩, hcolumn⟩) c
  have hvalue := hripples.value
  have hlt := limbValue_lt (columns.map Column.upper)
  rw [← map_columns hstand fun _ _ h => h.2.1, ← map_columns hstand fun _ _ h => h.2.2,
    ← hstand.length_eq, Nat.add_zero] at hvalue
  rw [List.length_map, ← hstand.length_eq] at hlt
  have hupper : (c.upper : ℤ) + c.bound * c.carry.toNat =
      limbValue (columns.map Column.upper) + c.lower := by exact_mod_cast hvalue
  have hlt' : (limbValue (columns.map Column.upper) : ℤ) < c.bound := by exact_mod_cast hlt
  refine ⟨_, ⟨_, leaves_limbs hstand fun _ _ h => h.1, rfl⟩, ?_, ?_⟩
  · have hdiff : (c.upper : ℤ) - c.lower =
        limbValue (columns.map Column.upper) + c.bound * -(c.carry.toNat : ℤ) := by
      rw [mul_neg]
      omega
    rw [hdiff, Int.add_mul_emod_self_left, Int.emod_eq_of_lt (by omega) hlt']
  · cases hcarry : c.carry with
    | false =>
      rw [hcarry] at hupper
      simp only [Bool.toNat_false, Nat.cast_zero, mul_zero, add_zero] at hupper
      simp only [Bool.false_eq_true, false_iff]
      omega
    | true =>
      rw [hcarry] at hupper
      simp only [Bool.toNat_true, Nat.cast_one, mul_one] at hupper
      simp only [true_iff]
      omega

/-- ADD and ADC add numbers of any length, and SUB and SBB subtract them. -/
theorem carry_chains :
    (∀ c : CarryChain M .add .adc, AddsUp c) ∧ ∀ c : CarryChain M .sub .sbb, Subtracts c :=
  ⟨adds_up, subtracts⟩

/-! ## Chains in registers -/

/-- An instruction on EAX and ECX, which hold two limbs. -/
def inRegisters (id : InstructionId) (mem : M) (a b eflags : U32) : AluRun M where
  inst := { id := id, op1 := .makeReg .eax, op2 := .makeReg .ecx }
  eip := 0
  trap := none
  before := ⟨{ gpr := fun reg => if reg = .eax then a else b, eflags := eflags }, mem⟩
  a := a
  b := b
  middle := _
  read := _
  readsFirst := rfl
  readsSecond := rfl

/-- ADD of EBX to EAX. -/
def addRegisters (mem : M) (a b eflags : U32) : LimbStep M where
  toAluRun := inRegisters .add mem a b eflags
  wide := rfl
  final := _
  completes := rfl

/-- ADC of EBX to EAX. -/
def adcRegisters (mem : M) (a b eflags : U32) : LimbStep M where
  toAluRun := inRegisters .adc mem a b eflags
  wide := rfl
  final := _
  completes := rfl

/-- SUB of EBX from EAX. -/
def subRegisters (mem : M) (a b eflags : U32) : LimbStep M where
  toAluRun := inRegisters .sub mem a b eflags
  wide := rfl
  final := _
  completes := rfl

/-- SBB of EBX from EAX. -/
def sbbRegisters (mem : M) (a b eflags : U32) : LimbStep M where
  toAluRun := inRegisters .sbb mem a b eflags
  wide := rfl
  final := _
  completes := rfl

/-- Two limbs added, with the registers loaded anew in between. -/
def twoLimbsAdded (mem : M) (a₀ b₀ a₁ b₁ : U32) : CarryChain M .add .adc where
  lowest := addRegisters mem a₀ b₀ 0
  others := [adcRegisters mem a₁ b₁ (addRegisters mem a₀ b₀ 0).final.ctx.eflags]
  begins := rfl
  chained := ⟨rfl, rfl, trivial⟩

/-- Two limbs subtracted. -/
def twoLimbsSubtracted (mem : M) (a₀ b₀ a₁ b₁ : U32) : CarryChain M .sub .sbb where
  lowest := subRegisters mem a₀ b₀ 0
  others := [sbbRegisters mem a₁ b₁ (subRegisters mem a₀ b₀ 0).final.ctx.eflags]
  begins := rfl
  chained := ⟨rfl, rfl, trivial⟩

end Xblob.Analysis
