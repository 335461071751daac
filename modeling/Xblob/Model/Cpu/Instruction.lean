import Xblob.Model.Cpu.Registers

/-!
# Decoded instructions

The vocabulary the decoder and the executor share: operands, instruction
identifiers, condition codes, exceptions, and the record the one hands to the other.
-/

set_option autoImplicit false

namespace Xblob.Processor

/-! ## Operands -/

/-- `OperandKind`. SOURCE: libs/cpu/include/xblob/cpu/operand.hpp:10-15 -/
inductive OperandKind where
  | none | register | immediate | memory
  deriving DecidableEq, Repr

/-- `Operand`. SOURCE: libs/cpu/include/xblob/cpu/operand.hpp:17-23 -/
structure Operand where
  kind : OperandKind := .none
  reg : Reg32 := .eax
  reg8 : U8 := 0
  immediate : U32 := 0
  memAddr : GuestAddr := 0
  sizeBytes : U8 := 4
  deriving DecidableEq, Repr

namespace Operand

/-- `Operand::MakeReg` and, with size 2, its copy `Operand::MakeReg16`. -/
def makeReg (r : Reg32) (size : U8 := 4) : Operand :=
  { kind := .register, reg := r, reg8 := r.index, sizeBytes := size }

/-- `Operand::MakeReg8`. -/
def makeReg8 (r8 : U8) : Operand :=
  { kind := .register, reg := .ofIndex (r8 &&& 3), reg8 := r8, sizeBytes := 1 }

/-- `Operand::MakeImm`. -/
def makeImm (val : U32) (size : U8 := 4) : Operand :=
  { kind := .immediate, immediate := val, sizeBytes := size }

/-- `Operand::MakeMem`. -/
def makeMem (addr : GuestAddr) (size : U8 := 4) : Operand :=
  { kind := .memory, memAddr := addr, sizeBytes := size }

end Operand

/-! ## Identifiers and conditions -/

/-- `InstructionId`. SOURCE: libs/cpu/include/xblob/cpu/instruction.hpp:9-69 -/
inductive InstructionId where
  | unknown | nop | hlt | mov | lea | push | pop | pushf | popf | call | ret
  | add | adc | sub | sbb | cmp | inc | dec | and | or | xor | test
  | jmp | jcc | cli | sti | iret | int
  | shl | shr | sar | rol | ror
  | mul | imul | div | idiv
  | movzx | movsx | cdq | bt | setcc
  | movs | stos | lods | cmps | scas | cld | std
  | xchg | cmpxchg
  deriving DecidableEq, Repr

/-- `UnsupportedFormInfo`. SOURCE: libs/cpu/include/xblob/cpu/instruction.hpp:73-77 -/
structure UnsupportedFormInfo where
  faultEip : GuestAddr
  opcodeBytes : List U8
  reason : String
  deriving DecidableEq, Repr

/-- `ConditionCode`. SOURCE: libs/cpu/include/xblob/cpu/instruction.hpp:79-96 -/
inductive ConditionCode where
  | o | no | b | nb | z | nz | be | nbe | s | ns | p | np | l | nl | le | nle
  deriving DecidableEq, Repr

/-- The cast of a four-bit field to `ConditionCode`. -/
def ConditionCode.ofIndex (index : U8) : ConditionCode :=
  match index.toNat with
  | 0x0 => .o
  | 0x1 => .no
  | 0x2 => .b
  | 0x3 => .nb
  | 0x4 => .z
  | 0x5 => .nz
  | 0x6 => .be
  | 0x7 => .nbe
  | 0x8 => .s
  | 0x9 => .ns
  | 0xA => .p
  | 0xB => .np
  | 0xC => .l
  | 0xD => .nl
  | 0xE => .le
  | _ => .nle

/-- `EvaluateCondition`. SOURCE: libs/cpu/include/xblob/cpu/instruction.hpp:98-140 -/
def evaluateCondition (cond : ConditionCode) (eflags : U32) : Bool :=
  let cf := (eflags &&& kFlagCF) != 0
  let zf := (eflags &&& kFlagZF) != 0
  let sf := (eflags &&& kFlagSF) != 0
  let ovf := (eflags &&& kFlagOF) != 0
  let pf := (eflags &&& kFlagPF) != 0
  match cond with
  | .o => ovf
  | .no => !ovf
  | .b => cf
  | .nb => !cf
  | .z => zf
  | .nz => !zf
  | .be => cf || zf
  | .nbe => !cf && !zf
  | .s => sf
  | .ns => !sf
  | .p => pf
  | .np => !pf
  | .l => sf != ovf
  | .nl => sf == ovf
  | .le => zf || (sf != ovf)
  | .nle => !zf && (sf == ovf)

/-- `DecodedInstruction`, less the two prefix flags `op_size_override` and
`addr_size_override`, which nothing sets or reads.
SOURCE: libs/cpu/include/xblob/cpu/instruction.hpp:142-159 -/
structure DecodedInstruction where
  id : InstructionId := .unknown
  length : U8 := 0
  cycles : Cycle := 1
  op1 : Operand := {}
  op2 : Operand := {}
  op3 : Operand := {}
  condition : ConditionCode := .z
  branchTarget : U32 := 0
  retPopBytes : U16 := 0
  intVector : U8 := 0
  rep : Bool := false
  repne : Bool := false
  lock : Bool := false
  dataSize : U8 := 4
  deriving DecidableEq, Repr

/-! ## Exceptions and results -/

/-- `ExceptionVector`. SOURCE: libs/cpu/include/xblob/cpu/exceptions.hpp:10-26 -/
inductive ExceptionVector where
  | divideError | debug | nmi | breakpoint | overflow | boundRangeExceeded | invalidOpcode
  | deviceNotAvailable | doubleFault | coprocessorSegmentOverrun | invalidTss
  | segmentNotPresent | stackSegmentFault | generalProtection | pageFault
  deriving DecidableEq, Repr

/-- The number of an exception vector. -/
def ExceptionVector.number : ExceptionVector → U8
  | .divideError => 0
  | .debug => 1
  | .nmi => 2
  | .breakpoint => 3
  | .overflow => 4
  | .boundRangeExceeded => 5
  | .invalidOpcode => 6
  | .deviceNotAvailable => 7
  | .doubleFault => 8
  | .coprocessorSegmentOverrun => 9
  | .invalidTss => 10
  | .segmentNotPresent => 11
  | .stackSegmentFault => 12
  | .generalProtection => 13
  | .pageFault => 14

/-- `CpuException`. SOURCE: libs/cpu/include/xblob/cpu/exceptions.hpp:68-75 -/
structure CpuException where
  vector : ExceptionVector
  errorCode : Option U32
  faultEip : U32
  cr2 : U32
  deriving DecidableEq, Repr

/-- `ExecutionResult`. SOURCE: libs/cpu/include/xblob/cpu/executor.hpp:12-17 -/
structure ExecutionResult where
  halted : Bool := false
  branched : Bool := false
  nextEip : U32 := 0
  exception : Option CpuException := none
  deriving DecidableEq, Repr

/-! ## Cycle costs -/

namespace Cycles

def kNop : Cycle := 1
def kHlt : Cycle := 1
def kMovRegImm : Cycle := 1
def kMovRegReg : Cycle := 1
def kMovMem : Cycle := 2
def kMovEaxMoffs32 : Cycle := 2
def kMovMoffs32Eax : Cycle := 2
def kLea : Cycle := 1
def kPushReg : Cycle := 1
def kPushImm : Cycle := 1
def kPushMem : Cycle := 2
def kPopReg : Cycle := 1
def kPopMem : Cycle := 2
def kPushf : Cycle := 2
def kPopf : Cycle := 2
def kCallRel32 : Cycle := 2
def kCallRm : Cycle := 3
def kRet : Cycle := 2
def kAluRegReg : Cycle := 1
def kAluRegImm : Cycle := 1
def kAluMem : Cycle := 2
def kJmpRel8 : Cycle := 1
def kJmpRel32 : Cycle := 1
def kJmpRm : Cycle := 2
def kJccTaken : Cycle := 1
def kCli : Cycle := 1
def kSti : Cycle := 1
def kIret : Cycle := 4
def kInt : Cycle := 4
def kShiftReg : Cycle := 1
def kShiftMem : Cycle := 2
def kMul : Cycle := 3
def kDiv : Cycle := 10
def kBitExt : Cycle := 1
def kStringOp : Cycle := 2
def kAtomic : Cycle := 2

end Cycles

end Xblob.Processor
