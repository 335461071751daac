import Mathlib.Data.Int.Notation
import Xblob.Computation.BitShifts
import Xblob.Computation.Limbs
import Xblob.Interface.Encodings
import Xblob.Model.Cpu.Step

/-!
# Arithmetic instructions

What the arithmetic instructions are to do with their operands, said on integers and on single
bits.
-/

set_option autoImplicit false

namespace Xblob.Interface

open Xblob.Computation Xblob.Processor

/-!
## Comparisons and conditions

CMP leaves in EFLAGS how its operands compare, and a conditional branch reads it from there.  The
conditions are to hold exactly as the operands compare as unsigned and as signed integers.
-/

/-- An integer has a signed representation of `w` bits. -/
def FitsSigned (w : ℕ) (n : ℤ) : Prop := (BitVec.ofInt w n).toInt = n

/-- The conditions hold as two numbers compare. -/
structure ComparesAs {w : ℕ} (a b : BitVec w) (holds : ConditionCode → Bool) : Prop where
  below : holds .b = true ↔ a.toNat < b.toNat
  belowOrEqual : holds .be = true ↔ a.toNat ≤ b.toNat
  less : holds .l = true ↔ a.toInt < b.toInt
  lessOrEqual : holds .le = true ↔ a.toInt ≤ b.toInt
  zero : holds .z = true ↔ a = b
  overflow : holds .o = true ↔ ¬ FitsSigned w (a.toInt - b.toInt)
  notBelow : holds .nb = !holds .b
  notBelowOrEqual : holds .nbe = !holds .be
  notLess : holds .nl = !holds .l
  notLessOrEqual : holds .nle = !holds .le
  notZero : holds .nz = !holds .z
  notOverflow : holds .no = !holds .o

/-- An arithmetic instruction at a machine where both its operands can be read. -/
structure AluRun (M : Type) [GuestMemory M] where
  inst : DecodedInstruction
  eip : U32
  trap : Option (TrapHandler M)
  before : Machine M
  a : U32
  b : U32
  middle : Machine M
  read : Machine M
  readsFirst : runExec trap (Exec.readOperand inst.op1) before = .ok a middle
  readsSecond : runExec trap (Exec.readOperand inst.op2) middle = .ok b read

/-- Executing the instruction. -/
def AluRun.execute {M : Type} [GuestMemory M] (r : AluRun M) :
    EStateM.Result Error (Machine M) ExecutionResult :=
  runExec r.trap (Exec.execute r.inst r.eip) r.before

/-- CMP with operands that can be read. -/
structure Comparison (M : Type) [GuestMemory M] extends AluRun M where
  compares : inst.id = .cmp

/-- The comparison completes, and then the conditions hold as the operands compare. -/
def Comparison.BranchesRight {M : Type} [GuestMemory M] (c : Comparison M) : Prop :=
  ∃ after, c.execute = .ok {} after ∧
    ComparesAs c.a c.b fun cond => evaluateCondition cond after.ctx.eflags

/-!
## Chains of carries

Numbers of several dwords are added dword by dword: ADD for the lowest, and ADC, which takes the
carry of the one before, for each other.  SUB and SBB subtract in the same way.
-/

section CarryChains

variable (M : Type) [GuestMemory M]

/-- An instruction on two limbs that completes. -/
structure LimbStep extends AluRun M where
  wide : inst.op1.sizeBytes = 4
  final : Machine M
  completes : toAluRun.execute = .ok {} final

variable {M}

/-- The instruction writes a limb to its first operand, and nothing else but EFLAGS. -/
def LimbStep.Leaves (s : LimbStep M) (limb : U32) : Prop :=
  ∃ written eflags, runExec s.trap (Exec.writeOperand s.inst.op1 limb) s.read = .ok () written ∧
    s.final = { written with ctx := { written.ctx with eflags := eflags } }

/-- The carry that the instruction finds. -/
def LimbStep.carryIn (s : LimbStep M) : Bool := s.before.ctx.getFlag kFlagCF

/-- The carry that the instruction leaves. -/
def LimbStep.carryOut (s : LimbStep M) : Bool := s.final.ctx.getFlag kFlagCF

/-- Instructions of one kind, each of which finds the carry that the one before it has left. -/
def Chained (id : InstructionId) : Bool → List (LimbStep M) → Prop
  | _, [] => True
  | carry, s :: steps => s.inst.id = id ∧ s.carryIn = carry ∧ Chained id s.carryOut steps

variable (M)

/-- One instruction for the lowest limbs, and one of another kind for each of the others.  What
is executed in between keeps the carry. -/
structure CarryChain (first next : InstructionId) where
  lowest : LimbStep M
  others : List (LimbStep M)
  begins : lowest.inst.id = first
  chained : Chained next lowest.carryOut others

namespace CarryChain

variable {M} {first next : InstructionId} (c : CarryChain M first next)

/-- The instructions of the chain. -/
def steps : List (LimbStep M) := c.lowest :: c.others

/-- The number whose limbs are the first operands. -/
def upper : ℕ := limbValue (c.steps.map fun s => s.a)

/-- The number whose limbs are the second operands. -/
def lower : ℕ := limbValue (c.steps.map fun s => s.b)

/-- One above the numbers that the limbs can hold. -/
def bound : ℕ := 2 ^ (32 * c.steps.length)

/-- The carry at the end. -/
def carry : Bool := (c.others.getLastD c.lowest).carryOut

/-- The chain leaves the limbs of a number. -/
def LeavesNumber (n : ℕ) : Prop :=
  ∃ limbs : List U32, List.Forall₂ LimbStep.Leaves c.steps limbs ∧ limbValue limbs = n

end CarryChain

variable {M}

/-- ADD and ADC leave the sum, and a carry when it does not fit. -/
def AddsUp (c : CarryChain M .add .adc) : Prop :=
  c.LeavesNumber ((c.upper + c.lower) % c.bound) ∧ (c.carry = true ↔ c.bound ≤ c.upper + c.lower)

/-- SUB and SBB leave the difference, and a borrow when it is negative. -/
def Subtracts (c : CarryChain M .sub .sbb) : Prop :=
  ∃ n : ℕ, c.LeavesNumber n ∧ (n : ℤ) = ((c.upper : ℤ) - c.lower) % c.bound ∧
    (c.carry = true ↔ (c.upper : ℤ) - c.lower < 0)

end CarryChains

/-!
## Shifts and rotates

What a Group 2 instruction has to do is said one bit at a time: the operand and the carry
are those of the one-bit operation, repeated as often as the low five bits of the count say.
-/

section Shifts

/-- The operation an instruction stands for. -/
def shiftOf : InstructionId → Option BitShift
  | .shl => some .left
  | .shr => some .right
  | .sar => some .arithmetic
  | .rol => some .rotateLeft
  | .ror => some .rotateRight
  | _ => none

/-- The Group 2 opcodes: the count is an immediate byte, one, or CL. -/
def isGroup2 (opcode : U8) : Bool := [0xC0, 0xC1, 0xD0, 0xD1, 0xD2, 0xD3].contains opcode

/-- A byte has an even number of set bits. -/
def evenOnes (b : U8) : Bool := (List.range 8).countP b.getLsbD % 2 == 0

/-- SF, ZF and PF show a result. -/
structure ShowsResult {w : ℕ} (r : BitVec w) (ctx : CpuContext) : Prop where
  sign : ctx.getFlag kFlagSF = r.msb
  zero : ctx.getFlag kFlagZF = (r == 0)
  parity : ctx.getFlag kFlagPF = evenOnes (r.setWidth 8)

variable (M : Type) [GuestMemory M]

/-- A Group 2 instruction that was decoded and executed, with the values its operands had. -/
structure ShiftRun extends Decoded M where
  trap : Option (TrapHandler M)
  opcode : U8
  group2 : isGroup2 opcode = true
  hasOpcode : toDecoded.HasOpcode opcode
  value : U32
  count : U32
  valueRead : Machine M
  countRead : Machine M
  readsValue : runExec trap (Exec.readOperand inst.op1) toDecoded.machine = .ok value valueRead
  readsCount : runExec trap (Exec.readOperand inst.op2) valueRead = .ok count countRead
  result : ExecutionResult
  final : Machine M
  runs : toDecoded.execute trap = .ok result final

namespace ShiftRun

variable {M}

/-- The operand's width. -/
def width (r : ShiftRun M) : ℕ := 8 * r.inst.op1.sizeBytes.toNat

/-- The operand's value. -/
def operand (r : ShiftRun M) : BitVec r.width := r.value.setWidth r.width

/-- The masked count. -/
def maskedCount (r : ShiftRun M) : ℕ := (r.count &&& 31).toNat

/-- The operand and the carry after the one-bit operations. -/
def iterated (r : ShiftRun M) (op : BitShift) : BitVec r.width × Bool :=
  op.iterated r.maskedCount (r.operand, r.ctx.getFlag kFlagCF)

/-- At the end the destination holds a value and nothing but flags has changed otherwise: the
value was written, or it is the one that was there. -/
def Holds (r : ShiftRun M) (v : BitVec r.width) : Prop :=
  ∃ s eflags, r.final = { s with ctx := { s.ctx with eflags := eflags } } ∧
    (runExec r.trap (Exec.writeOperand r.inst.op1 (v.setWidth 32)) r.countRead = .ok () s ∨
      s = r.countRead ∧ v = r.operand)

/-- The instruction does what its one-bit operation does, repeated. -/
structure Iterates (r : ShiftRun M) (op : BitShift) : Prop where
  operation : shiftOf r.inst.id = some op
  width : r.width = 8 ∨ r.width = 32
  stored : r.Holds (r.iterated op).1
  carry : r.final.ctx.getFlag kFlagCF = (r.iterated op).2
  flags : op ≠ .rotateLeft → op ≠ .rotateRight → r.maskedCount ≠ 0 →
    ShowsResult (r.iterated op).1 r.final.ctx
  unmoved : r.maskedCount = 0 → r.final = r.countRead

/-- A byte is rotated by a number of whole turns, not zero. -/
def TurnsWhole (r : ShiftRun M) : Prop :=
  r.inst.op1.sizeBytes = 1 ∧ (r.inst.id = .rol ∨ r.inst.id = .ror) ∧
    r.maskedCount ≠ 0 ∧ r.maskedCount % 8 = 0

/-- The bit of a byte that ends up in CF when it turns whole: the bottom bit to the left, the
top bit to the right. -/
def turnedBit (r : ShiftRun M) : Bool :=
  if r.inst.id = .rol then r.value.getLsbD 0 else r.value.getLsbD 7

end ShiftRun

end Shifts

/-!
## Divisions by a dword

DIV and IDIV divide EDX:EAX by a register or a dword of memory.  They are to leave quotient and
remainder, or to raise the divide error, and the divisions that the host makes for them are to be
ones that have a result.
-/

section Divisions

/-! ### What the guest sees -/

variable (M : Type) [GuestMemory M]

/-- An instruction of opcode F7 whose operand can be read. -/
structure DivisionRun extends Decoded M where
  group3 : toDecoded.HasOpcode 0xF7
  trap : Option (TrapHandler M)
  divisor : U32
  sourceRead : Machine M
  readsDivisor :
    runExec trap (Exec.readOperand inst.op1) toDecoded.machine = .ok divisor sourceRead

namespace DivisionRun

variable {M} (r : DivisionRun M)

/-- The reg field of the ModRM byte, which names the operation. -/
def reg : ℕ := (regField (r.bytes.getD 1 0)).toNat

/-- EDX:EAX. -/
def dividend : ℕ := (r.ctx.gpr .edx).toNat * 0x100000000 + (r.ctx.gpr .eax).toNat

/-- EDX:EAX as a signed number. -/
def signedDividend : ℤ := (r.ctx.gpr .edx).toInt * 0x100000000 + (r.ctx.gpr .eax).toNat

/-- The divide error, at the instruction. -/
def divideError : CpuException := ⟨.divideError, none, r.ctx.eip, 0⟩

/-- The registers are those before, but for the quotient in EAX and the remainder in EDX. -/
structure Divided (value : U32 → ℤ) (dividend divisor : ℤ) (final : CpuContext) : Prop where
  registers : final = (r.ctx.setGpr .eax (final.gpr .eax)).setGpr .edx (final.gpr .edx)
  exact : value (final.gpr .eax) * divisor + value (final.gpr .edx) = dividend
  small : (value (final.gpr .edx)).natAbs < divisor.natAbs
  sign : value (final.gpr .edx) = 0 ∨ (value (final.gpr .edx)).sign = dividend.sign

/-- In a step, an exception that no gate takes leaves every register, and one that a gate takes
leaves all but ESP. -/
def LeavesRegisters : Prop :=
  ∀ cpu : Cpu, cpu.context = r.ctx →
    ∀ cpu', (stepInstruction r.trap cpu r.mem).2.1 = cpu' →
      (r.ctx.idtr.limit = 0 → cpu'.context = r.ctx) ∧
        ∀ reg, reg ≠ .esp → cpu'.context.gpr reg = r.ctx.gpr reg

/-- The divide error is raised with the context as it was. -/
structure Raises : Prop where
  raises : ∃ final, r.execute r.trap = .ok { exception := some r.divideError } final ∧
    final.ctx = r.ctx
  step : r.LeavesRegisters

/-- The instruction divides if there is a quotient and it is one of the numbers from `low` up to
`high`; else it raises the divide error. -/
def Gives (value : U32 → ℤ) (low high dividend divisor : ℤ) : Prop :=
  if divisor ≠ 0 ∧ low ≤ dividend.tdiv divisor ∧ dividend.tdiv divisor < high then
    ∃ final, r.execute r.trap = .ok {} final ∧ r.Divided value dividend divisor final.ctx
  else
    r.Raises

/-- DIV divides unsigned numbers, and IDIV signed ones. -/
structure Operates : Prop where
  div : r.reg = 6 → r.Gives (fun v => v.toNat) 0 0x100000000 r.dividend r.divisor.toNat
  idiv : r.reg = 7 →
    r.Gives BitVec.toInt (-0x80000000) 0x80000000 r.signedDividend r.divisor.toInt

end DivisionRun

/-! ### What the host does -/

/-- A division of the host on 64-bit numbers: it has no meaning for the divisor 0, nor where the
quotient is none of these numbers. -/
def hostDivide (low high dividend divisor : ℤ) : Option (ℤ × ℤ) :=
  if divisor ≠ 0 ∧ low ≤ dividend.tdiv divisor ∧ dividend.tdiv divisor < high then
    some (dividend.tdiv divisor, dividend.tmod divisor)
  else none

/-- DIV, by divisions of the host. SOURCE: libs/cpu/src/executor_muldiv.cpp:113-133 -/
def hostDiv (dividend : U64) (divisor : U32) : Option (Option (U32 × U32)) :=
  if divisor = 0 then
    some none
  else do
    let (quotient, remainder) ← hostDivide 0 0x10000000000000000 dividend.toNat divisor.toNat
    if quotient > 0xFFFFFFFF then
      some none
    else
      some (some (BitVec.ofInt 32 quotient, BitVec.ofInt 32 remainder))

/-- IDIV, by divisions of the host. SOURCE: libs/cpu/src/executor_muldiv.cpp:141-178 -/
def hostIdiv (dividend : U64) (divisor : U32) : Option (Option (U32 × U32)) :=
  if divisor = 0 then
    some none
  else if dividend = 0x8000000000000000 ∧ divisor = 0xFFFFFFFF then
    some none
  else do
    let (quotient, remainder) ← hostDivide (-0x8000000000000000) 0x8000000000000000
      dividend.toInt divisor.toInt
    if quotient < -2147483648 ∨ quotient > 2147483647 then
      some none
    else
      some (some (BitVec.ofInt 32 quotient, BitVec.ofInt 32 remainder))

/-- Every division of the host has a result, and the instructions have it from there. -/
def HostSafe : Prop :=
  ∀ dividend divisor, hostDiv dividend divisor = some (Exec.unsignedDivide dividend divisor) ∧
    hostIdiv dividend divisor = some (Exec.signedDivide dividend divisor)

end Divisions

/-!
## The byte forms of Group 3

What the forms of opcode F6 have to do: TEST with an immediate byte, the products of AL with
a byte, and the divisions of AX by one.  All of them leave the upper half of EAX and EDX
alone.
-/

section ByteGroup3

variable (M : Type) [GuestMemory M]

/-- An instruction of opcode F6 that was decoded and executed, with the byte its operand had. -/
structure ByteRun extends Decoded M where
  group3 : toDecoded.HasOpcode 0xF6
  trap : Option (TrapHandler M)
  src : U8
  sourceRead : Machine M
  readsSource :
    runExec trap (Exec.readOperand inst.op1) toDecoded.machine = .ok (src.setWidth 32) sourceRead
  result : ExecutionResult
  final : Machine M
  runs : toDecoded.execute trap = .ok result final

namespace ByteRun

variable {M} (r : ByteRun M)

/-- The reg field of the ModRM byte, which names the operation. -/
def reg : ℕ := (regField (r.bytes.getD 1 0)).toNat

/-- The immediate byte of TEST, the last of the instruction. -/
def mask : U8 := r.stream.rawBytes.getLastD 0

/-- EAX before. -/
def eax : U32 := r.ctx.gpr .eax

/-- EDX before. -/
def edx : U32 := r.ctx.gpr .edx

/-- AL before. -/
def al : U8 := r.ctx.getGpr8 0

/-- AX before. -/
def ax : U16 := r.ctx.getGpr16 .eax

/-- The upper half of EAX and EDX are as they were. -/
structure Kept : Prop where
  upper : (r.final.ctx.gpr .eax).toNat / 0x10000 = r.eax.toNat / 0x10000
  edx : r.final.ctx.gpr .edx = r.edx

/-- AX holds a product, and CF and OF tell whether it needs the high byte. -/
structure Product (product : U16) (needsHigh : Bool) : Prop where
  raises : r.result.exception = none
  ax : r.final.ctx.getGpr16 .eax = product
  carry : r.final.ctx.getFlag kFlagCF = needsHigh
  overflow : r.final.ctx.getFlag kFlagOF = needsHigh

/-- AL and AH hold quotient and remainder, or the divide error is raised: when the divisor is
zero or the quotient does not fit. -/
def Division (fits : Bool) (quotient remainder : U8) : Prop :=
  if fits then
    r.result.exception = none ∧ r.final.ctx.getGpr8 0 = quotient ∧
      r.final.ctx.getGpr8 4 = remainder
  else
    r.result.exception.map CpuException.vector = some .divideError

/-- MUL: AL times the operand, unsigned. -/
def unsignedProduct : U16 := r.al.setWidth 16 * r.src.setWidth 16

/-- IMUL: AL times the operand, signed. -/
def signedProduct : U16 := r.al.signExtend 16 * r.src.signExtend 16

/-- IDIV: the signed quotient, rounded towards zero. -/
def signedQuotient : ℤ := r.ax.toInt.tdiv r.src.toInt

/-- IDIV: the signed remainder. -/
def signedRemainder : ℤ := r.ax.toInt.tmod r.src.toInt

/-- DIV: the divisor is not zero and the quotient fits in a byte. -/
def unsignedFits : Bool := r.src ≠ 0 ∧ r.ax.toNat / r.src.toNat < 256

/-- IDIV: the divisor is not zero and the quotient fits in a signed byte. -/
def signedFits : Bool := r.src ≠ 0 ∧ -128 ≤ r.signedQuotient ∧ r.signedQuotient < 128

/-- What the form has to do. -/
def Operates : Prop :=
  match r.reg with
  | 0 => r.result.exception = none ∧ ShowsResult (r.src &&& r.mask) r.final.ctx
  | 4 => r.Product r.unsignedProduct (r.unsignedProduct != (r.unsignedProduct.setWidth 8).setWidth 16)
  | 5 => r.Product r.signedProduct (r.signedProduct != (r.signedProduct.setWidth 8).signExtend 16)
  | 6 => r.Division r.unsignedFits (BitVec.ofNat 8 (r.ax.toNat / r.src.toNat))
      (BitVec.ofNat 8 (r.ax.toNat % r.src.toNat))
  | 7 => r.Division r.signedFits (BitVec.ofInt 8 r.signedQuotient)
      (BitVec.ofInt 8 r.signedRemainder)
  | _ => False

/-- The instruction has byte semantics. -/
structure ByteSemantics : Prop where
  kept : r.Kept
  operates : r.Operates

/-! ### Where the dword arithmetic gives the same -/

/-- EAX with AX replaced. -/
def withAx (ax : ℤ) : ℤ := r.eax.toNat / 0x10000 * 0x10000 + ax % 0x10000

/-- The signed product of EAX and the operand taken as unsigned. -/
def wideProduct : ℤ := r.eax.toInt * r.src.toNat

/-- EDX:EAX. -/
def wideDividend : ℕ := r.edx.toNat * 0x100000000 + r.eax.toNat

/-- EDX:EAX as a signed number. -/
def signedWideDividend : ℤ := r.edx.toInt * 0x100000000 + r.eax.toNat

/-- The dword IMUL leaves the byte product in EAX and keeps EDX. -/
structure ImulAgrees : Prop where
  low : r.wideProduct % 0x100000000 = r.withAx r.signedProduct.toNat
  high : r.wideProduct / 0x100000000 % 0x100000000 = r.edx.toNat
  overflow : (-0x80000000 ≤ r.wideProduct ∧ r.wideProduct < 0x80000000) ↔
    (-128 ≤ r.signedProduct.toInt ∧ r.signedProduct.toInt < 128)

/-- The dword DIV raises the divide error with the byte DIV, or leaves its quotient and remainder
in EAX and keeps EDX. -/
def DivAgrees : Prop :=
  if r.unsignedFits then
    (r.wideDividend / r.src.toNat : ℕ) =
        r.withAx (r.ax.toNat % r.src.toNat * 0x100 + r.ax.toNat / r.src.toNat) ∧
      r.wideDividend % r.src.toNat = r.edx.toNat
  else
    r.src ≠ 0 → 0x100000000 ≤ r.wideDividend / r.src.toNat

/-- The dword IDIV by the operand taken as unsigned raises the divide error with the byte IDIV, or
leaves its quotient and remainder in EAX and keeps EDX. -/
def IdivAgrees : Prop :=
  let quotient := r.signedWideDividend.tdiv r.src.toNat
  if r.signedFits then
    (-0x80000000 ≤ quotient ∧ quotient < 0x80000000) ∧
      quotient % 0x100000000 =
        r.withAx (r.signedRemainder % 0x100 * 0x100 + r.signedQuotient % 0x100) ∧
      r.signedWideDividend.tmod r.src.toNat % 0x100000000 = r.edx.toNat
  else
    r.src ≠ 0 → ¬ (-0x80000000 ≤ quotient ∧ quotient < 0x80000000)

/-- Where the form does what it has to. -/
def Agrees : Prop :=
  match r.reg with
  | 0 => (r.src &&& r.mask).msb = false
  | 5 => r.ImulAgrees
  | 6 => r.DivAgrees
  | 7 => r.IdivAgrees
  | _ => True

end ByteRun

end ByteGroup3

end Xblob.Interface
