import Xblob.Computation.Program
import Xblob.Model.Cpu.Instruction

/-!
# The instruction executors

An executor works on the context and on guest memory, and memory is a template
parameter of the source: a physical address space or a virtual memory.  The executors
are therefore programs over the requests they make of the two, written in the order in
which the source makes them; what a memory request does is decided where the program
is run.  INT may call a trap handler installed from outside, which is one more request.
-/

set_option autoImplicit false

namespace Xblob.Processor

open Xblob.Computation

/-! ## Requests -/

/-- What an executor asks of the context, of memory and of the trap handler. -/
inductive ExecRequest where
  | context
  | setContext (ctx : CpuContext)
  | read8 (addr : GuestAddr)
  | read16 (addr : GuestAddr)
  | read32 (addr : GuestAddr)
  | write8 (addr : GuestAddr) (value : U8)
  | write16 (addr : GuestAddr) (value : U16)
  | write32 (addr : GuestAddr) (value : U32)
  | trap (vector : U8)

/-- The executor's requests with their answers. -/
abbrev execSig : Signature where
  Request := ExecRequest
  Answer
    | .context => CpuContext
    | .setContext _ => Unit
    | .read8 _ => U8
    | .read16 _ => U16
    | .read32 _ => U32
    | .write8 _ _ => Unit
    | .write16 _ _ => Unit
    | .write32 _ _ => Unit
    | .trap _ => Bool

/-- Executor computations. -/
abbrev Exec := Program execSig Error

namespace Exec

/-- `return Error{...}`. -/
def fault {α : Type} (code : ErrorCode) (message : String) (offset : U64 := 0) : Exec α :=
  .fail { code := code, message := message, offset := offset }

/-- The context, read. -/
def context : Exec CpuContext := Program.request (S := execSig) .context

/-- The context, set. -/
def setContext (ctx : CpuContext) : Exec Unit := Program.request (S := execSig) (.setContext ctx)

/-- A byte read. -/
def read8 (addr : GuestAddr) : Exec U8 := Program.request (S := execSig) (.read8 addr)

/-- A word read. -/
def read16 (addr : GuestAddr) : Exec U16 := Program.request (S := execSig) (.read16 addr)

/-- A dword read. -/
def read32 (addr : GuestAddr) : Exec U32 := Program.request (S := execSig) (.read32 addr)

/-- A byte write. -/
def write8 (addr : GuestAddr) (value : U8) : Exec Unit :=
  Program.request (S := execSig) (.write8 addr value)

/-- A word write. -/
def write16 (addr : GuestAddr) (value : U16) : Exec Unit :=
  Program.request (S := execSig) (.write16 addr value)

/-- A dword write. -/
def write32 (addr : GuestAddr) (value : U32) : Exec Unit :=
  Program.request (S := execSig) (.write32 addr value)

/-- Calling the trap handler; one that is not installed handles nothing. -/
def trap (vector : U8) : Exec Bool := Program.request (S := execSig) (.trap vector)

/-- A change of the context. -/
def modifyContext (f : CpuContext → CpuContext) : Exec Unit := do
  let ctx ← context
  setContext (f ctx)

/-! ## Operands -/

/-- `Operand::Read`. SOURCE: libs/cpu/include/xblob/cpu/operand.hpp:69-112 -/
def readOperand (op : Operand) : Exec U32 :=
  match op.kind with
  | .register => do
    let ctx ← context
    if op.sizeBytes = 1 then
      pure ((ctx.getGpr8 op.reg8).setWidth 32)
    else if op.sizeBytes = 2 then
      pure ((ctx.getGpr16 op.reg).setWidth 32)
    else
      pure (ctx.gpr op.reg)
  | .immediate =>
    if op.sizeBytes = 1 then
      pure (op.immediate &&& 0xFF)
    else if op.sizeBytes = 2 then
      pure (op.immediate &&& 0xFFFF)
    else
      pure op.immediate
  | .memory =>
    if op.sizeBytes = 1 then do
      let v ← read8 op.memAddr
      pure (v.setWidth 32)
    else if op.sizeBytes = 2 then do
      let v ← read16 op.memAddr
      pure (v.setWidth 32)
    else
      read32 op.memAddr
  | .none => fault .invalidArgument "Tentativa de ler operando nulo"

/-- `Operand::Write`. SOURCE: libs/cpu/include/xblob/cpu/operand.hpp:115-142 -/
def writeOperand (op : Operand) (value : U32) : Exec Unit :=
  match op.kind with
  | .register =>
    if op.sizeBytes = 1 then
      modifyContext fun ctx => ctx.setGpr8 op.reg8 ((value &&& 0xFF).setWidth 8)
    else if op.sizeBytes = 2 then
      modifyContext fun ctx => ctx.setGpr16 op.reg ((value &&& 0xFFFF).setWidth 16)
    else
      modifyContext fun ctx => ctx.setGpr op.reg value
  | .memory =>
    if op.sizeBytes = 1 then
      write8 op.memAddr ((value &&& 0xFF).setWidth 8)
    else if op.sizeBytes = 2 then
      write16 op.memAddr ((value &&& 0xFFFF).setWidth 16)
    else
      write32 op.memAddr value
  | .immediate => fault .invalidArgument "Operando não gravável"
  | .none => fault .invalidArgument "Operando não gravável"

/-! ## Data movement and the stack -/

/-- `ExecuteData`. SOURCE: libs/cpu/src/executor_data.cpp:10-34 -/
def executeData (inst : DecodedInstruction) : Exec ExecutionResult :=
  match inst.id with
  | .mov => do
    let val ← readOperand inst.op2
    writeOperand inst.op1 val
    pure {}
  | .lea => do
    writeOperand inst.op1 inst.op2.immediate
    pure {}
  | _ => fault .invalidArgument "Instrução de dados não reconhecida"

/-- The target of CALL and JMP: the decoded one, or the value of the operand. -/
def branchTarget (inst : DecodedInstruction) : Exec U32 :=
  if inst.op1.kind = .immediate then pure inst.branchTarget else readOperand inst.op1

/-- `ExecuteStack`. SOURCE: libs/cpu/src/executor_stack.cpp:10-100 -/
def executeStack (inst : DecodedInstruction) (currentEip : U32) : Exec ExecutionResult := do
  let ctx ← context
  let esp := ctx.gpr .esp
  match inst.id with
  | .push =>
    let val ← readOperand inst.op1
    write32 (esp - 4) val
    modifyContext fun ctx => ctx.setGpr .esp (esp - 4)
    pure {}
  | .pop =>
    let val ← read32 esp
    writeOperand inst.op1 val
    modifyContext fun ctx => ctx.setGpr .esp (esp + 4)
    pure {}
  | .pushf =>
    write32 (esp - 4) ctx.eflags
    modifyContext fun ctx => ctx.setGpr .esp (esp - 4)
    pure {}
  | .popf =>
    let val ← read32 esp
    modifyContext fun ctx => (ctx.setEflags val).setGpr .esp (esp + 4)
    pure {}
  | .call =>
    let target ← branchTarget inst
    write32 (esp - 4) (currentEip + inst.length.setWidth 32)
    modifyContext fun ctx => ctx.setGpr .esp (esp - 4)
    pure { branched := true, nextEip := target }
  | .ret =>
    let ret ← read32 esp
    modifyContext fun ctx => ctx.setGpr .esp (esp + 4 + inst.retPopBytes.setWidth 32)
    pure { branched := true, nextEip := ret }
  | _ => fault .invalidArgument "Instrução de pilha desconhecida"

/-! ## Arithmetic and logic -/

/-- What a two-operand ALU instruction computes: the result, the new flags, and whether
the result is written back. -/
structure AluResult where
  outVal : U32
  newFlags : U32
  writeBack : Bool := true

/-- The switch of `ExecuteAlu`. SOURCE: libs/cpu/src/executor_alu.cpp:55-97 -/
def aluResult (id : InstructionId) (a b eflags : U32) : Option AluResult :=
  let cf : Bool := (eflags &&& kFlagCF) != 0
  let carry : U32 := if cf then 1 else 0
  match id with
  | .add => some ⟨a + b, calculateAddFlags a b eflags, true⟩
  | .adc => some ⟨a + b + carry, calculateAdcFlags a b cf eflags, true⟩
  | .sub => some ⟨a - b, calculateSubFlags a b eflags, true⟩
  | .sbb => some ⟨a - b - carry, calculateSbbFlags a b cf eflags, true⟩
  | .cmp => some ⟨a - b, calculateSubFlags a b eflags, false⟩
  | .and => some ⟨a &&& b, calculateLogicFlags (a &&& b) eflags, true⟩
  | .or => some ⟨a ||| b, calculateLogicFlags (a ||| b) eflags, true⟩
  | .xor => some ⟨a ^^^ b, calculateLogicFlags (a ^^^ b) eflags, true⟩
  | .test => some ⟨a &&& b, calculateLogicFlags (a &&& b) eflags, false⟩
  | _ => none

/-- The INC and DEC half of `ExecuteAlu`. SOURCE: libs/cpu/src/executor_alu.cpp:15-37 -/
def executeIncDec (inst : DecodedInstruction) : Exec ExecutionResult := do
  let a ← readOperand inst.op1
  let ctx ← context
  let outVal := if inst.id = .inc then a + 1 else a - 1
  let newFlags := if inst.id = .inc then calculateIncFlags a ctx.eflags
    else calculateDecFlags a ctx.eflags
  writeOperand inst.op1 outVal
  modifyContext fun ctx => ctx.setEflags newFlags
  pure {}

/-- The write-back and flag update at the end of `ExecuteAlu`. -/
def commitAlu (inst : DecodedInstruction) (r : AluResult) : Exec ExecutionResult :=
  if r.writeBack then do
    writeOperand inst.op1 r.outVal
    modifyContext fun ctx => ctx.setEflags r.newFlags
    pure {}
  else do
    modifyContext fun ctx => ctx.setEflags r.newFlags
    pure {}

/-- `ExecuteAlu`. SOURCE: libs/cpu/src/executor_alu.cpp:11-110 -/
def executeAlu (inst : DecodedInstruction) : Exec ExecutionResult :=
  if inst.id = .inc ∨ inst.id = .dec then
    executeIncDec inst
  else do
    let a ← readOperand inst.op1
    let b ← readOperand inst.op2
    let ctx ← context
    match aluResult inst.id a b ctx.eflags with
    | some r => commitAlu inst r
    | none => fault .invalidArgument "Instrução ALU/Lógica desconhecida"

/-! ## Shifts and rotates -/

/-- What a shift computes: nothing to do, an unknown operation, or a result with the
carry, the overflow flag (kept only for a count of one) and whether SF, ZF and PF follow
the result. -/
inductive ShiftOutcome where
  | unchanged
  | unknown
  | shifted (result : U32) (cf ovf : Bool) (updateArithFlags : Bool)

/-- The byte switch of `ExecuteShift`; `val` is below 256.
SOURCE: libs/cpu/src/executor_shift.cpp:33-92 -/
def shift8 (id : InstructionId) (val rawCount : U32) : ShiftOutcome :=
  let one : Bool := rawCount = 1
  match id with
  | .shl =>
    let cf : Bool := rawCount ≤ 8 ∧ ((val >>> (8 - rawCount)) &&& 1) ≠ 0
    let res := if rawCount < 8 then (val <<< rawCount) &&& 0xFF else 0
    .shifted res cf (one && ((((res >>> 7) &&& 1) != 0) != cf)) true
  | .shr =>
    let cf : Bool := rawCount ≤ 8 ∧ ((val >>> (rawCount - 1)) &&& 1) ≠ 0
    let res := if rawCount < 8 then val >>> rawCount else 0
    .shifted res cf (one && (((val >>> 7) &&& 1) != 0)) true
  | .sar =>
    let sval : U32 := (val.setWidth 8).signExtend 32
    let negative : Bool := (val &&& 0x80) != 0
    let sres : U32 := if rawCount < 8 then sval.sshiftRight rawCount.toNat
      else if negative then 0xFFFFFFFF else 0
    let cf : Bool := if rawCount ≤ 8 then
      ((sval.sshiftRight (rawCount - 1).toNat) &&& 1) != 0 else negative
    .shifted (sres &&& 0xFF) cf false true
  | .rol =>
    let cnt := rawCount % 8
    if cnt = 0 then .unchanged
    else
      let res := ((val <<< cnt) ||| (val >>> (8 - cnt))) &&& 0xFF
      let cf : Bool := (res &&& 1) != 0
      .shifted res cf (one && ((((res >>> 7) &&& 1) != 0) != cf)) false
  | .ror =>
    let cnt := rawCount % 8
    if cnt = 0 then .unchanged
    else
      let res := ((val >>> cnt) ||| (val <<< (8 - cnt))) &&& 0xFF
      let cf : Bool := ((res >>> 7) &&& 1) != 0
      .shifted res cf (one && (((res >>> 7) &&& 1) != ((res >>> 6) &&& 1))) false
  | _ => .unknown

/-- The dword switch of `ExecuteShift`; the masked count is between 1 and 31.
SOURCE: libs/cpu/src/executor_shift.cpp:93-150 -/
def shift32 (id : InstructionId) (val rawCount : U32) : ShiftOutcome :=
  let one : Bool := rawCount = 1
  match id with
  | .shl =>
    let cf : Bool := ((val >>> (32 - rawCount)) &&& 1) != 0
    let result := val <<< rawCount
    .shifted result cf (one && ((((result >>> 31) &&& 1) != 0) != cf)) true
  | .shr =>
    let cf : Bool := ((val >>> (rawCount - 1)) &&& 1) != 0
    .shifted (val >>> rawCount) cf (one && (((val >>> 31) &&& 1) != 0)) true
  | .sar =>
    let cf : Bool := ((val.sshiftRight (rawCount - 1).toNat) &&& 1) != 0
    .shifted (val.sshiftRight rawCount.toNat) cf false true
  | .rol =>
    let cnt := rawCount % 32
    if cnt = 0 then .unchanged
    else
      let result := (val <<< cnt) ||| (val >>> (32 - cnt))
      let cf : Bool := (result &&& 1) != 0
      .shifted result cf (one && ((((result >>> 31) &&& 1) != 0) != cf)) false
  | .ror =>
    let cnt := rawCount % 32
    if cnt = 0 then .unchanged
    else
      let result := (val >>> cnt) ||| (val <<< (32 - cnt))
      let cf : Bool := ((result >>> 31) &&& 1) != 0
      .shifted result cf (one && (((result >>> 31) &&& 1) != ((result >>> 30) &&& 1))) false
  | _ => .unknown

/-- The flag update at the end of `ExecuteShift`.
SOURCE: libs/cpu/src/executor_shift.cpp:157-171 -/
def shiftFlags (size : U8) (rawCount result : U32) (cf ovf updateArithFlags : Bool)
    (ctx : CpuContext) : CpuContext :=
  let ctx := ctx.setFlag kFlagCF cf
  let ctx := if rawCount = 1 then ctx.setFlag kFlagOF ovf else ctx
  if updateArithFlags then
    if size = 1 then
      ((ctx.setFlag kFlagSF ((result &&& 0x80) != 0)).setFlag kFlagZF
        ((result &&& 0xFF) == 0)).setFlag kFlagPF (calculateParity (lowByte result))
    else
      ((ctx.setFlag kFlagSF (signBit result)).setFlag kFlagZF (result == 0)).setFlag kFlagPF
        (calculateParity (lowByte result))
  else
    ctx

/-- `ExecuteShift`. SOURCE: libs/cpu/src/executor_shift.cpp:9-174 -/
def executeShift (inst : DecodedInstruction) : Exec ExecutionResult := do
  let val ← readOperand inst.op1
  let count ← readOperand inst.op2
  let rawCount := count &&& 0x1F
  if rawCount = 0 then
    pure {}
  else
    let size := inst.op1.sizeBytes
    match if size = 1 then shift8 inst.id (val &&& 0xFF) rawCount
        else shift32 inst.id val rawCount with
    | .unchanged => pure {}
    | .unknown => fault .invalidOpcode "Operação shift desconhecida"
    | .shifted result cf ovf updateArithFlags =>
      writeOperand inst.op1 result
      modifyContext (shiftFlags size rawCount result cf ovf updateArithFlags)
      pure {}

/-! ## Multiplication and division -/

/-- Setting CF and OF together, as the multiplications do. -/
def setOverflow (overflow : Bool) (ctx : CpuContext) : CpuContext :=
  (ctx.setFlag kFlagCF overflow).setFlag kFlagOF overflow

/-- The context after MUL. SOURCE: libs/cpu/src/executor_muldiv.cpp:19-34 -/
def mulContext (dataSize : U8) (src : U32) (ctx : CpuContext) : CpuContext :=
  if dataSize = 1 then
    let product : U16 := (ctx.getGpr8 0).setWidth 16 * (src &&& 0xFF).setWidth 16
    setOverflow ((product >>> 8) != 0) (ctx.setGpr16 .eax product)
  else
    let product : U64 := (ctx.gpr .eax).setWidth 64 * src.setWidth 64
    let high : U32 := (product >>> 32).setWidth 32
    setOverflow (high != 0) ((ctx.setGpr .eax (product.setWidth 32)).setGpr .edx high)

/-- The signed 64-bit product of two 32-bit values. -/
def signedProduct (a b : U32) : U64 := a.signExtend 64 * b.signExtend 64

/-- Whether a 64-bit product does not fit in its low 32 bits as a signed value. -/
def productOverflows (product : U64) : Bool :=
  product != (product.setWidth 32).signExtend 64

/-- The two- and three-operand IMUL from its operand values on. -/
def writeProduct (inst : DecodedInstruction) (product : U64) : Exec ExecutionResult := do
  writeOperand inst.op1 (product.setWidth 32)
  modifyContext (setOverflow (productOverflows product))
  pure {}

/-- The IMUL half of `ExecuteMulDiv`. SOURCE: libs/cpu/src/executor_muldiv.cpp:38-103 -/
def executeImul (inst : DecodedInstruction) : Exec ExecutionResult :=
  if inst.op3.kind ≠ .none then do
    let src ← readOperand inst.op2
    let imm ← readOperand inst.op3
    writeProduct inst (signedProduct src imm)
  else if inst.op2.kind ≠ .none then do
    let dst ← readOperand inst.op1
    let src ← readOperand inst.op2
    writeProduct inst (signedProduct dst src)
  else do
    let src ← readOperand inst.op1
    modifyContext fun ctx =>
      let product := signedProduct (ctx.gpr .eax) src
      setOverflow (productOverflows product)
        ((ctx.setGpr .eax (product.setWidth 32)).setGpr .edx ((product >>> 32).setWidth 32))
    pure {}

/-- EDX:EAX. -/
def dividend (ctx : CpuContext) : U64 :=
  ((ctx.gpr .edx).setWidth 64 <<< 32) ||| (ctx.gpr .eax).setWidth 64

/-- What a division gives: quotient and remainder, or a divide error. -/
def unsignedDivide (dividend : U64) (divisor : U32) : Option (U32 × U32) :=
  if divisor = 0 then
    none
  else
    let quotient := dividend / divisor.setWidth 64
    let remainder := dividend % divisor.setWidth 64
    if quotient > 0xFFFFFFFF then none
    else some (quotient.setWidth 32, remainder.setWidth 32)

/-- The signed division of IDIV, with the guard against `INT64_MIN / -1`. -/
def signedDivide (dividend : U64) (divisor : U32) : Option (U32 × U32) :=
  if divisor = 0 then
    none
  else if dividend = 0x8000000000000000 ∧ divisor = 0xFFFFFFFF then
    none
  else
    let quotient := dividend.sdiv (divisor.signExtend 64)
    let remainder := dividend.srem (divisor.signExtend 64)
    if quotient.toInt < -2147483648 ∨ quotient.toInt > 2147483647 then none
    else some (quotient.setWidth 32, remainder.setWidth 32)

/-- The end of DIV and IDIV: the registers are written, or the divide error is returned
as an exception with nothing written.
SOURCE: libs/cpu/src/executor_muldiv.cpp:105-180 -/
def commitDivision (currentEip : U32) : Option (U32 × U32) → Exec ExecutionResult
  | some (quotient, remainder) => do
    modifyContext fun ctx => (ctx.setGpr .eax quotient).setGpr .edx remainder
    pure {}
  | none => pure { exception := some ⟨.divideError, none, currentEip, 0⟩ }

/-- `ExecuteMulDiv`. SOURCE: libs/cpu/src/executor_muldiv.cpp:12-184 -/
def executeMulDiv (inst : DecodedInstruction) (currentEip : U32) : Exec ExecutionResult :=
  match inst.id with
  | .mul => do
    let src ← readOperand inst.op1
    modifyContext (mulContext inst.dataSize src)
    pure {}
  | .imul => executeImul inst
  | .div => do
    let divisor ← readOperand inst.op1
    let ctx ← context
    commitDivision currentEip (unsignedDivide (dividend ctx) divisor)
  | .idiv => do
    let divisor ← readOperand inst.op1
    let ctx ← context
    commitDivision currentEip (signedDivide (dividend ctx) divisor)
  | _ => fault .invalidOpcode "Operação de multiplicação/divisão inválida"

/-! ## Bits and extensions -/

/-- The value BT tests bit `bit_idx` of, shifted down to that bit.
SOURCE: libs/cpu/src/executor_bit_ext.cpp:57-82 -/
def bitTested (inst : DecodedInstruction) (count : U32) : Exec U32 :=
  if inst.op1.kind = .register then do
    let val ← readOperand inst.op1
    pure (val >>> (count % 32))
  else do
    -- the bit offset is signed and reaches words outside the operand
    let wordOffset := count.sshiftRight 5
    let word ← read32 (inst.op1.memAddr + wordOffset * 4)
    pure (word >>> (count &&& 31))

/-- `ExecuteBitExt`. SOURCE: libs/cpu/src/executor_bit_ext.cpp:10-95 -/
def executeBitExt (inst : DecodedInstruction) : Exec ExecutionResult :=
  match inst.id with
  | .movzx => do
    let src ← readOperand inst.op2
    writeOperand inst.op1 (if inst.dataSize = 1 then src &&& 0xFF else src &&& 0xFFFF)
    pure {}
  | .movsx => do
    let src ← readOperand inst.op2
    writeOperand inst.op1 (if inst.dataSize = 1 then (src.setWidth 8).signExtend 32
      else (src.setWidth 16).signExtend 32)
    pure {}
  | .cdq => do
    modifyContext fun ctx =>
      ctx.setGpr .edx (if signBit (ctx.gpr .eax) then 0xFFFFFFFF else 0)
    pure {}
  | .bt => do
    let count ← readOperand inst.op2
    let bit ← bitTested inst count
    modifyContext fun ctx => ctx.setFlag kFlagCF ((bit &&& 1) != 0)
    pure {}
  | .setcc => do
    let ctx ← context
    writeOperand inst.op1 (if evaluateCondition inst.condition ctx.eflags then 1 else 0)
    pure {}
  | _ => fault .invalidOpcode "Operação de bit/extensão desconhecida"

/-! ## String operations -/

/-- The signed stride of a string operation. -/
def stringStep (inst : DecodedInstruction) (ctx : CpuContext) : U32 :=
  if ctx.getFlag kFlagDF then -(inst.dataSize.setWidth 32) else inst.dataSize.setWidth 32

/-- Whether the flags end a repeated comparison. -/
def stopsRepeat (inst : DecodedInstruction) (eflags : U32) : Bool :=
  let zf : Bool := (eflags &&& kFlagZF) != 0
  (inst.rep && !zf) || (inst.repne && zf)

/-- The copy of MOVS. -/
def copyElement (byteForm : Bool) (src dst : GuestAddr) : Exec Unit :=
  if byteForm then do
    let v ← read8 src
    write8 dst v
  else do
    let v ← read32 src
    write32 dst v

/-- The store of STOS. -/
def storeElement (byteForm : Bool) (ctx : CpuContext) (dst : GuestAddr) : Exec Unit :=
  if byteForm then write8 dst (ctx.getGpr8 0) else write32 dst (ctx.gpr .eax)

/-- The load of LODS: the context with the accumulator loaded. -/
def loadElement (byteForm : Bool) (ctx : CpuContext) (src : GuestAddr) : Exec CpuContext :=
  if byteForm then do
    let v ← read8 src
    pure (ctx.setGpr8 0 v)
  else do
    let v ← read32 src
    pure (ctx.setGpr .eax v)

/-- The comparison of CMPS: the new EFLAGS. -/
def compareElements (byteForm : Bool) (ctx : CpuContext) (s1 s2 : GuestAddr) : Exec U32 :=
  if byteForm then do
    let r1 ← read8 s1
    let r2 ← read8 s2
    pure (calculateSubFlags8 r1 r2 ctx.eflags)
  else do
    let r1 ← read32 s1
    let r2 ← read32 s2
    pure (calculateSubFlags r1 r2 ctx.eflags)

/-- The comparison of SCAS: the new EFLAGS. -/
def scanElement (byteForm : Bool) (ctx : CpuContext) (dst : GuestAddr) : Exec U32 :=
  if byteForm then do
    let r ← read8 dst
    pure (calculateSubFlags8 (ctx.getGpr8 0) r ctx.eflags)
  else do
    let r ← read32 dst
    pure (calculateSubFlags (ctx.gpr .eax) r ctx.eflags)

/-- One element of a string operation: whether a repeated comparison ends here.
SOURCE: libs/cpu/src/executor_string.cpp:36-154 -/
def stringElement (inst : DecodedInstruction) (ctx : CpuContext) : Exec Bool :=
  let step := stringStep inst ctx
  let esi := ctx.gpr .esi
  let edi := ctx.gpr .edi
  let byteForm : Bool := inst.dataSize = 1
  match inst.id with
  | .movs => do
    copyElement byteForm esi edi
    setContext ((ctx.setGpr .esi (esi + step)).setGpr .edi (edi + step))
    pure false
  | .stos => do
    storeElement byteForm ctx edi
    setContext (ctx.setGpr .edi (edi + step))
    pure false
  | .lods => do
    let loaded ← loadElement byteForm ctx esi
    setContext (loaded.setGpr .esi (esi + step))
    pure false
  | .cmps => do
    let eflags ← compareElements byteForm ctx esi edi
    setContext (({ ctx with eflags := eflags }.setGpr .esi (esi + step)).setGpr .edi (edi + step))
    pure (stopsRepeat inst eflags)
  | .scas => do
    let eflags ← scanElement byteForm ctx edi
    setContext ({ ctx with eflags := eflags }.setGpr .edi (edi + step))
    pure (stopsRepeat inst eflags)
  | _ => fault .invalidOpcode "Operação de string desconhecida"

/-- The count of a repeated string operation after one element; the instruction is
resumed at its own address while it has elements left.
SOURCE: libs/cpu/src/executor_string.cpp:156-169 -/
def finishElement (inst : DecodedInstruction) (currentEip : U32) (stop : Bool) :
    Exec ExecutionResult := do
  if inst.rep || inst.repne then
    let ctx ← context
    let remaining := ctx.gpr .ecx - 1
    setContext (ctx.setGpr .ecx remaining)
    if remaining > 0 ∧ stop = false then
      pure { branched := true, nextEip := currentEip }
    else
      pure {}
  else
    pure {}

/-- `ExecuteString`. SOURCE: libs/cpu/src/executor_string.cpp:9-171 -/
def executeString (inst : DecodedInstruction) (currentEip : U32) : Exec ExecutionResult := do
  if inst.id = .cld then
    modifyContext fun ctx => ctx.setFlag kFlagDF false
    pure {}
  else if inst.id = .std then
    modifyContext fun ctx => ctx.setFlag kFlagDF true
    pure {}
  else
    let ctx ← context
    if (inst.rep || inst.repne) ∧ ctx.gpr .ecx = 0 then
      pure {}
    else
      let stop ← stringElement inst ctx
      finishElement inst currentEip stop

/-! ## Exchanges -/

/-- `ExecuteAtomic`.  CMPXCHG sets the flags of its comparison before it writes the
destination. SOURCE: libs/cpu/src/executor_atomic.cpp:9-75 -/
def executeAtomic (inst : DecodedInstruction) : Exec ExecutionResult :=
  match inst.id with
  | .xchg => do
    let v1 ← readOperand inst.op1
    let v2 ← readOperand inst.op2
    writeOperand inst.op1 v2
    writeOperand inst.op2 v1
    pure {}
  | .cmpxchg => do
    let dest ← readOperand inst.op1
    let src ← readOperand inst.op2
    let ctx ← context
    if inst.dataSize = 1 then
      let accum := ctx.getGpr8 0
      let destVal : U8 := (dest &&& 0xFF).setWidth 8
      setContext { ctx with eflags := calculateSubFlags8 accum destVal ctx.eflags }
      if accum = destVal then
        writeOperand inst.op1 (src &&& 0xFF)
        pure {}
      else
        modifyContext fun ctx => ctx.setGpr8 0 destVal
        pure {}
    else
      let accum := ctx.gpr .eax
      setContext { ctx with eflags := calculateSubFlags accum dest ctx.eflags }
      if accum = dest then
        writeOperand inst.op1 src
        pure {}
      else
        modifyContext fun ctx => ctx.setGpr .eax dest
        pure {}
  | _ => fault .invalidOpcode "Operação atômica desconhecida"

/-! ## Branches -/

/-- `ExecuteBranch`. SOURCE: libs/cpu/src/executor_branch.cpp:10-39 -/
def executeBranch (inst : DecodedInstruction) : Exec ExecutionResult :=
  match inst.id with
  | .jmp => do
    let target ← branchTarget inst
    pure { branched := true, nextEip := target }
  | .jcc => do
    let ctx ← context
    if evaluateCondition inst.condition ctx.eflags then
      pure { branched := true, nextEip := inst.branchTarget }
    else
      pure {}
  | _ => fault .invalidArgument "Instrução de salto desconhecida"

/-! ## Interrupts -/

/-- The selector error code of a failed delivery. -/
def gateErrorOffset (vector : U8) : U64 := (vector.setWidth 32 * 8 + 2 : U32).setWidth 64

/-- The four words of an IDT gate. -/
structure Gate where
  offsetLow : U16
  selector : U16
  attr : U16
  offsetHigh : U16

namespace Gate

/-- The present bit. -/
def present (g : Gate) : Bool := ((g.attr >>> 15) &&& 1) != 0
/-- The privilege level of the gate. -/
def dpl (g : Gate) : U8 := ((g.attr >>> 13) &&& 3).setWidth 8
/-- Whether it is a system descriptor. -/
def systemDesc (g : Gate) : Bool := ((g.attr >>> 12) &&& 1) == 0
/-- The type of the gate. -/
def gateType (g : Gate) : U8 := ((g.attr >>> 8) &&& 0x0F).setWidth 8
/-- The handler the gate leads to. -/
def targetHandler (g : Gate) : U32 := (g.offsetHigh.setWidth 32 <<< 16) ||| g.offsetLow.setWidth 32

end Gate

/-- The limit check and the four reads of `DeliverGate`.
SOURCE: libs/cpu/src/executor_interrupt.cpp:64-88 -/
def readGate (ctx : CpuContext) (vector : U8) : Exec Gate := do
  let gateOffset : U32 := vector.setWidth 32 * 8
  if gateOffset + 7 > ctx.idtr.limit.setWidth 32 then
    fault .generalProtection "Vetor excede limite da IDTR" (gateErrorOffset vector)
  else
    let gateAddr := ctx.idtr.base + gateOffset
    let offsetLow ← read16 gateAddr
    let selector ← read16 (gateAddr + 2)
    let attr ← read16 (gateAddr + 4)
    let offsetHigh ← read16 (gateAddr + 6)
    pure ⟨offsetLow, selector, attr, offsetHigh⟩

/-- The gate checks of `DeliverGate`.
SOURCE: libs/cpu/src/executor_interrupt.cpp:91-119 -/
def checkGate (ctx : CpuContext) (vector : U8) (isSoftwareInt : Bool) (g : Gate) : Exec Unit :=
  if !g.present then
    fault .segmentNotPresent "Gate de interrupção não presente" (gateErrorOffset vector)
  else if !g.systemDesc then
    fault .generalProtection "Gate de interrupção com bit S != 0" (gateErrorOffset vector)
  else if g.gateType ≠ 0x0E ∧ g.gateType ≠ 0x0F then
    fault .generalProtection "Tipo de gate inválido" (gateErrorOffset vector)
  else if isSoftwareInt ∧ (ctx.segments .cs &&& 3).setWidth 8 > g.dpl then
    fault .generalProtection "Privilégio insuficiente para INT n" (gateErrorOffset vector)
  else
    pure ()

/-- The stack frame of `DeliverGate`: three dwords, or four with an error code.
SOURCE: libs/cpu/src/executor_interrupt.cpp:121-152 -/
def pushFrame (ctx : CpuContext) (errorCode : Option U32) (returnEip : U32) : Exec Unit := do
  let esp := ctx.gpr .esp
  write32 (esp - 4) ctx.eflags
  write32 (esp - 8) ((ctx.segments .cs).setWidth 32)
  write32 (esp - 12) returnEip
  match errorCode with
  | some code => write32 (esp - 16) code
  | none => pure ()

/-- The context `DeliverGate` leaves: an interrupt gate also clears IF and TF.
SOURCE: libs/cpu/src/executor_interrupt.cpp:137, 151-164 -/
def enterGate (g : Gate) (errorCode : Option U32) (ctx : CpuContext) : CpuContext :=
  let esp := ctx.gpr .esp
  let ctx := ctx.setGpr .esp (if errorCode.isSome then esp - 16 else esp - 12)
  let ctx := { ctx.setSegment .cs g.selector with eip := g.targetHandler }
  if g.gateType = 0x0E then
    (ctx.setFlag kFlagIF false).setFlag kFlagTF false
  else
    ctx

/-- `Executor::DeliverGate`. SOURCE: libs/cpu/src/executor_interrupt.cpp:65-167 -/
def deliverGate (vector : U8) (errorCode : Option U32) (isSoftwareInt : Bool)
    (returnEip : U32) : Exec Unit := do
  let ctx ← context
  let g ← readGate ctx vector
  checkGate ctx vector isSoftwareInt g
  pushFrame ctx errorCode returnEip
  setContext (enterGate g errorCode ctx)

/-- `Executor::ExecuteIret`. SOURCE: libs/cpu/src/executor_interrupt.cpp:170-200 -/
def executeIret : Exec Unit := do
  let ctx ← context
  let esp := ctx.gpr .esp
  let eip ← read32 esp
  let cs ← read32 (esp + 4)
  let eflags ← read32 (esp + 8)
  let currentCpl : U8 := (ctx.segments .cs &&& 3).setWidth 8
  let returnRpl : U8 := (cs &&& 3).setWidth 8
  if returnRpl ≠ currentCpl then
    fault .generalProtection "Transição de privilégio em IRET não suportada" (cs.setWidth 64)
  else
    let ctx := { ctx with eip := eip }.setSegment .cs ((cs &&& 0xFFFF).setWidth 16)
    setContext ((ctx.setEflags eflags).setGpr .esp (esp + 12))

/-- The result of an instruction that has set EIP itself. -/
def branchedToEip : Exec ExecutionResult := do
  let ctx ← context
  pure { branched := true, nextEip := ctx.eip }

/-- `ExecuteInterruptInstruction`.
SOURCE: libs/cpu/src/executor_interrupt.cpp:10-60 -/
def executeInterruptInstruction (inst : DecodedInstruction) (currentEip : U32) :
    Exec ExecutionResult :=
  match inst.id with
  | .cli => do
    modifyContext fun ctx => ctx.setFlag kFlagIF false
    pure {}
  | .sti => do
    modifyContext fun ctx => ctx.setFlag kFlagIF true
    pure {}
  | .iret => do
    executeIret
    branchedToEip
  | .int => do
    let handled ← trap inst.intVector
    if handled then
      branchedToEip
    else
      deliverGate inst.intVector none true (currentEip + inst.length.setWidth 32)
      branchedToEip
  | _ => fault .invalidArgument "Instrução de controle/interrupção desconhecida"

/-- `Executor::Execute`. SOURCE: libs/cpu/src/executor_interrupt.cpp:204-276 -/
def execute (inst : DecodedInstruction) (currentEip : U32) : Exec ExecutionResult :=
  match inst.id with
  | .nop => pure {}
  | .hlt => pure { halted := true }
  | .mov | .lea => executeData inst
  | .push | .pop | .pushf | .popf | .call | .ret => executeStack inst currentEip
  | .add | .adc | .sub | .sbb | .cmp | .inc | .dec | .and | .or | .xor | .test => executeAlu inst
  | .shl | .shr | .sar | .rol | .ror => executeShift inst
  | .mul | .imul | .div | .idiv => executeMulDiv inst currentEip
  | .movzx | .movsx | .cdq | .bt | .setcc => executeBitExt inst
  | .movs | .stos | .lods | .cmps | .scas | .cld | .std => executeString inst currentEip
  | .xchg | .cmpxchg => executeAtomic inst
  | .jmp | .jcc => executeBranch inst
  | .cli | .sti | .iret | .int => executeInterruptInstruction inst currentEip
  | .unknown => fault .invalidOpcode "Opcode não suportado para execução"

end Exec

end Xblob.Processor
