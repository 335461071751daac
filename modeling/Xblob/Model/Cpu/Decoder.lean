import Xblob.Computation.Program
import Xblob.Model.Cpu.Instruction

/-!
# The instruction decoder

The decoder takes its bytes from an instruction stream and never looks at memory
otherwise, so it is written as a program over two requests: the next byte of the
stream, and the bytes taken so far.  The context is only read.

A decoding error may come with the record of an unsupported form, which the source
returns through an out parameter.
-/

set_option autoImplicit false

namespace Xblob.Processor

open Xblob.Computation

/-! ## The instruction stream -/

/-- What the decoder asks of its stream. -/
inductive StreamRequest where
  | nextByte
  | rawBytes
  deriving DecidableEq, Repr

/-- The decoder's requests with their answers. -/
abbrev streamSig : Signature where
  Request := StreamRequest
  Answer
    | .nextByte => U8
    | .rawBytes => List U8

/-- A decoding error, with the unsupported form it reports if it reports one. -/
structure DecodeError where
  error : Error
  unsupported : Option UnsupportedFormInfo := none
  deriving DecidableEq, Repr

/-- Decoding computations. -/
abbrev Decoding := Program streamSig DecodeError

namespace Decoding

/-- A decoding error without further information. -/
def reject {α : Type} (code : ErrorCode) (message : String) (offset : U64 := 0) : Decoding α :=
  .fail { error := { code := code, message := message, offset := offset } }

/-- `InstructionStream::NextByte`. -/
def nextByte : Decoding U8 := Program.request (S := streamSig) .nextByte

/-- `InstructionStream::raw_bytes`. -/
def rawBytes : Decoding (List U8) := Program.request (S := streamSig) .rawBytes

/-- `InstructionStream::length`. -/
def length : Decoding U8 := do
  let bytes ← rawBytes
  pure (BitVec.ofNat 8 bytes.length)

/-- `InstructionStream::ReadImm32`.
SOURCE: libs/cpu/src/instruction_stream.hpp:32-47 -/
def readImm32 : Decoding U32 := do
  let r0 ← nextByte
  let r1 ← nextByte
  let r2 ← nextByte
  let r3 ← nextByte
  pure (word32 r0 r1 r2 r3)

/-- `InstructionStream::ReadImm16`.
SOURCE: libs/cpu/src/instruction_stream.hpp:49-57 -/
def readImm16 : Decoding U16 := do
  let r0 ← nextByte
  let r1 ← nextByte
  pure (word16 r0 r1)

/-- `InstructionStream::ReadImm8` followed by the sign extension to 32 bits that all but
one of its callers make. -/
def readImm8 : Decoding U32 := do
  let r ← nextByte
  pure (r.signExtend 32)

/-- The immediate of a form that comes with a dword and with a sign-extended byte. -/
def readImmediate (wide : Bool) : Decoding U32 := if wide then readImm32 else readImm8

/-- The error of a form that is recognised and not supported: the record of the form and
an error with the same text.  The record is written at eight places of the source. -/
def unsupported {α : Type} (code : ErrorCode) (eip : GuestAddr) (reason : String) :
    Decoding α := do
  let bytes ← rawBytes
  .fail { error := { code := code, message := reason, offset := eip.setWidth 64 }
          unsupported := some ⟨eip, bytes, reason⟩ }

/-- The displacement of a memory operand, by the mod field. -/
def displacement (mod : U8) : Decoding U32 :=
  if mod = 1 then readImm8
  else if mod = 2 then readImm32
  else pure 0

/-- The address of a memory operand with a SIB byte.
SOURCE: libs/cpu/src/instruction_stream.hpp:121-155 -/
def sibAddress (ctx : CpuContext) (mod : U8) : Decoding GuestAddr := do
  let sib ← nextByte
  let scale := (sib >>> 6) &&& 3
  let index := (sib >>> 3) &&& 7
  let base := sib &&& 7
  -- ESP cannot be an index register
  let scaledIndex : U32 := if index ≠ 4 then ctx.gpr (.ofIndex index) * ((1 : U32) <<< scale) else 0
  if base = 5 ∧ mod = 0 then
    let disp ← readImm32
    pure (disp + scaledIndex)
  else
    let disp ← displacement mod
    pure (ctx.gpr (.ofIndex base) + disp + scaledIndex)

/-- `ParseModRm`: the operand and the reg field.
SOURCE: libs/cpu/src/instruction_stream.hpp:80-159 -/
def parseModRm (ctx : CpuContext) (sizeBytes : U8 := 4) : Decoding (Operand × U8) := do
  let modrm ← nextByte
  let mod := (modrm >>> 6) &&& 3
  let reg := (modrm >>> 3) &&& 7
  let rm := modrm &&& 7
  if mod = 3 then
    if sizeBytes = 1 then
      pure (.makeReg8 rm, reg)
    else if sizeBytes = 2 then
      pure (.makeReg (.ofIndex rm) 2, reg)
    else
      pure (.makeReg (.ofIndex rm), reg)
  else if rm ≠ 4 then
    if mod = 0 ∧ rm = 5 then
      let ea ← readImm32
      pure (.makeMem ea sizeBytes, reg)
    else
      let disp ← displacement mod
      pure (.makeMem (ctx.gpr (.ofIndex rm) + disp) sizeBytes, reg)
  else
    let ea ← sibAddress ctx mod
    pure (.makeMem ea sizeBytes, reg)

/-- The last step of every form: the length of what was taken from the stream. -/
def found (inst : DecodedInstruction) : Decoding (Option DecodedInstruction) := do
  let len ← length
  pure (some { inst with length := len })

/-! ## The groups -/

/-- The operation of a Group 2 reg field. -/
def shiftId (regOp : U8) : Option InstructionId :=
  match regOp.toNat with
  | 0 => some .rol
  | 1 => some .ror
  | 4 | 6 => some .shl
  | 5 => some .shr
  | 7 => some .sar
  | _ => none

/-- The count operand of a Group 2 opcode: one, CL or an immediate byte. -/
def shiftCount (opcode : U8) : Decoding Operand :=
  if opcode ∈ [0xD1, 0xD0] then
    pure (.makeImm 1 1)
  else if opcode ∈ [0xD3, 0xD2] then
    pure (.makeReg8 1)
  else do
    let imm ← nextByte
    pure (.makeImm (imm.setWidth 32) 1)

/-- `TryDecodeShift`. SOURCE: libs/cpu/src/decoder_shift.hpp:12-83 -/
def tryDecodeShift (opcode : U8) (eip : GuestAddr) (ctx : CpuContext) :
    Decoding (Option DecodedInstruction) := do
  if opcode ∈ [0xC1, 0xC0, 0xD1, 0xD0, 0xD3, 0xD2] then
    let sizeBytes : U8 := if opcode ∈ [0xC0, 0xD0, 0xD2] then 1 else 4
    let (op1, regOp) ← parseModRm ctx sizeBytes
    match shiftId regOp with
    | some id =>
      let op2 ← shiftCount opcode
      found { id := id, op1 := op1, op2 := op2
              cycles := if op1.kind = .memory then Cycles.kShiftMem else Cycles.kShiftReg }
    | none =>
      unsupported .unsupportedFeature eip
        (if regOp = 2 then "RCL rotation with carry is unsupported"
         else if regOp = 3 then "RCR rotation with carry is unsupported"
         else "Shift group 2 reserved form unsupported")
  else
    pure none

/-- The shape of the five string operations: a byte and a dword opcode. -/
def stringOp (id : InstructionId) (byteForm : Bool) : Decoding (Option DecodedInstruction) :=
  found { id := id, dataSize := if byteForm then 1 else 4, cycles := Cycles.kStringOp }

/-- `TryDecodeString`. SOURCE: libs/cpu/src/decoder_string.hpp:12-78 -/
def tryDecodeString (opcode : U8) : Decoding (Option DecodedInstruction) :=
  if opcode = 0xFC then found { id := .cld, cycles := 1 }
  else if opcode = 0xFD then found { id := .std, cycles := 1 }
  else if opcode = 0xA4 ∨ opcode = 0xA5 then stringOp .movs (opcode = 0xA4)
  else if opcode = 0xA6 ∨ opcode = 0xA7 then stringOp .cmps (opcode = 0xA6)
  else if opcode = 0xAA ∨ opcode = 0xAB then stringOp .stos (opcode = 0xAA)
  else if opcode = 0xAC ∨ opcode = 0xAD then stringOp .lods (opcode = 0xAC)
  else if opcode = 0xAE ∨ opcode = 0xAF then stringOp .scas (opcode = 0xAE)
  else pure none

/-- `TryDecodeMulDiv`: the three-operand IMUL.
SOURCE: libs/cpu/src/decoder_mul_div.hpp:12-46 -/
def tryDecodeMulDiv (opcode : U8) (ctx : CpuContext) : Decoding (Option DecodedInstruction) := do
  if opcode = 0x69 ∨ opcode = 0x6B then
    let (rm, reg) ← parseModRm ctx
    let imm ← readImmediate (opcode = 0x69)
    found { id := .imul, op1 := .makeReg (.ofIndex reg), op2 := rm, op3 := .makeImm imm
            cycles := Cycles.kMul }
  else
    pure none

/-- `TryDecodeBitExt`: CDQ. SOURCE: libs/cpu/src/decoder_bit_ext.hpp:12-24 -/
def tryDecodeBitExt (opcode : U8) : Decoding (Option DecodedInstruction) :=
  if opcode = 0x99 then found { id := .cdq, cycles := Cycles.kBitExt }
  else pure none

/-- The register operand of an 8- or 32-bit form. -/
def regOperand (is8bit : Bool) (reg : U8) : Operand :=
  if is8bit then .makeReg8 reg else .makeReg (.ofIndex reg)

/-- `TryDecodeTwoByteExtended`. SOURCE: libs/cpu/src/decoder_bit_ext.hpp:28-158 -/
def tryDecodeTwoByteExtended (second : U8) (eip : GuestAddr) (ctx : CpuContext) :
    Decoding (Option DecodedInstruction) := do
  if second = 0xB6 ∨ second = 0xB7 then
    let srcSize : U8 := if second = 0xB6 then 1 else 2
    let (rm, reg) ← parseModRm ctx srcSize
    found { id := .movzx, op1 := .makeReg (.ofIndex reg), op2 := rm, dataSize := srcSize
            cycles := Cycles.kBitExt }
  else if second = 0xBE ∨ second = 0xBF then
    let srcSize : U8 := if second = 0xBE then 1 else 2
    let (rm, reg) ← parseModRm ctx srcSize
    found { id := .movsx, op1 := .makeReg (.ofIndex reg), op2 := rm, dataSize := srcSize
            cycles := Cycles.kBitExt }
  else if second = 0xA3 then
    let (rm, reg) ← parseModRm ctx
    found { id := .bt, op1 := rm, op2 := .makeReg (.ofIndex reg), cycles := Cycles.kBitExt }
  else if second = 0xBA then
    let (rm, reg) ← parseModRm ctx
    if reg ≠ 4 then
      unsupported .unsupportedFeature eip s!"0x0F 0xBA group 8 unsupported reg={reg.toNat}"
    else
      -- the one immediate byte that is not sign-extended
      let imm ← nextByte
      found { id := .bt, op1 := rm, op2 := .makeImm (imm.setWidth 32) 1
              cycles := Cycles.kBitExt }
  else if second ≥ 0x90 ∧ second ≤ 0x9F then
    let (rm, _) ← parseModRm ctx 1
    found { id := .setcc, op1 := rm, condition := .ofIndex (second &&& 0x0F)
            cycles := Cycles.kBitExt }
  else if second = 0xAF then
    let (rm, reg) ← parseModRm ctx
    found { id := .imul, op1 := .makeReg (.ofIndex reg), op2 := rm, cycles := Cycles.kMul }
  else if second = 0xB0 ∨ second = 0xB1 then
    let is8bit : Bool := second = 0xB0
    let sizeBytes : U8 := if is8bit then 1 else 4
    let (rm, reg) ← parseModRm ctx sizeBytes
    found { id := .cmpxchg, op1 := rm, op2 := regOperand is8bit reg, dataSize := sizeBytes
            cycles := Cycles.kAtomic }
  else
    pure none

/-- `TryDecodeAtomic`. SOURCE: libs/cpu/src/decoder_atomic.hpp:12-48 -/
def tryDecodeAtomic (opcode : U8) (ctx : CpuContext) : Decoding (Option DecodedInstruction) := do
  if opcode > 0x90 ∧ opcode ≤ 0x97 then
    found { id := .xchg, op1 := .makeReg .eax, op2 := .makeReg (.ofIndex (opcode - 0x90))
            dataSize := 4, cycles := Cycles.kAtomic }
  else if opcode = 0x86 ∨ opcode = 0x87 then
    let is8bit : Bool := opcode = 0x86
    let sizeBytes : U8 := if is8bit then 1 else 4
    let (rm, reg) ← parseModRm ctx sizeBytes
    found { id := .xchg, op1 := rm, op2 := regOperand is8bit reg, dataSize := sizeBytes
            cycles := Cycles.kAtomic }
  else
    pure none

/-- The operand order of a two-operand ALU form. -/
inductive AluForm where
  | rmReg | regRm | eaxImm
  deriving DecidableEq, Repr

/-- `parse_two_op` of `TryDecodeAlu`. SOURCE: libs/cpu/src/decoder_alu.hpp:16-44 -/
def parseTwoOp (ctx : CpuContext) (id : InstructionId) (form : AluForm) :
    Decoding (Option DecodedInstruction) := do
  match form with
  | .eaxImm =>
    let imm ← readImm32
    found { id := id, op1 := .makeReg .eax, op2 := .makeImm imm, cycles := Cycles.kAluRegImm }
  | .rmReg =>
    let (rm, reg) ← parseModRm ctx
    found { id := id, op1 := rm, op2 := .makeReg (.ofIndex reg)
            cycles := if rm.kind = .memory then Cycles.kAluMem else Cycles.kAluRegReg }
  | .regRm =>
    let (rm, reg) ← parseModRm ctx
    found { id := id, op1 := .makeReg (.ofIndex reg), op2 := rm
            cycles := if rm.kind = .memory then Cycles.kAluMem else Cycles.kAluRegReg }

/-- The two-operand opcodes of `TryDecodeAlu`.
SOURCE: libs/cpu/src/decoder_alu.hpp:47-116 -/
def twoOpForm (opcode : U8) : Option (InstructionId × AluForm) :=
  match opcode.toNat with
  | 0x01 => some (.add, .rmReg)
  | 0x03 => some (.add, .regRm)
  | 0x05 => some (.add, .eaxImm)
  | 0x11 => some (.adc, .rmReg)
  | 0x13 => some (.adc, .regRm)
  | 0x15 => some (.adc, .eaxImm)
  | 0x29 => some (.sub, .rmReg)
  | 0x2B => some (.sub, .regRm)
  | 0x2D => some (.sub, .eaxImm)
  | 0x19 => some (.sbb, .rmReg)
  | 0x1B => some (.sbb, .regRm)
  | 0x1D => some (.sbb, .eaxImm)
  | 0x39 => some (.cmp, .rmReg)
  | 0x3B => some (.cmp, .regRm)
  | 0x3D => some (.cmp, .eaxImm)
  | 0x21 => some (.and, .rmReg)
  | 0x23 => some (.and, .regRm)
  | 0x25 => some (.and, .eaxImm)
  | 0x09 => some (.or, .rmReg)
  | 0x0B => some (.or, .regRm)
  | 0x0D => some (.or, .eaxImm)
  | 0x31 => some (.xor, .rmReg)
  | 0x33 => some (.xor, .regRm)
  | 0x35 => some (.xor, .eaxImm)
  | 0x85 => some (.test, .rmReg)
  | 0xA9 => some (.test, .eaxImm)
  | _ => none

/-- The immediate of a Group 3 TEST. -/
def testImmediate (is8bit : Bool) : Decoding Operand :=
  if is8bit then do
    let imm ← nextByte
    pure (.makeImm (imm.setWidth 32) 1)
  else do
    let imm ← readImm32
    pure (.makeImm imm 4)

/-- Group 3 of `TryDecodeAlu`. SOURCE: libs/cpu/src/decoder_alu.hpp:118-175 -/
def decodeGroup3 (opcode : U8) (eip : GuestAddr) (ctx : CpuContext) :
    Decoding (Option DecodedInstruction) := do
  let is8bit : Bool := opcode = 0xF6
  let sizeBytes : U8 := if is8bit then 1 else 4
  let (op1, regOp) ← parseModRm ctx sizeBytes
  match regOp.toNat with
  | 0 =>
    let op2 ← testImmediate is8bit
    found { id := .test, op1 := op1, op2 := op2, dataSize := sizeBytes
            cycles := if op1.kind = .memory then Cycles.kAluMem else Cycles.kAluRegImm }
  | 4 => found { id := .mul, op1 := op1, dataSize := sizeBytes, cycles := Cycles.kMul }
  | 5 => found { id := .imul, op1 := op1, dataSize := sizeBytes, cycles := Cycles.kMul }
  | 6 => found { id := .div, op1 := op1, dataSize := sizeBytes, cycles := Cycles.kDiv }
  | 7 => found { id := .idiv, op1 := op1, dataSize := sizeBytes, cycles := Cycles.kDiv }
  | _ =>
    unsupported .unsupportedFeature eip
      s!"Group 3 opcode 0xF7/F6 unsupported reg={regOp.toNat}"

/-- The operation of a Group 1 reg field. -/
def group1Id (reg : U8) : Option InstructionId :=
  match reg.toNat with
  | 0 => some .add
  | 1 => some .or
  | 2 => some .adc
  | 3 => some .sbb
  | 4 => some .and
  | 5 => some .sub
  | 6 => some .xor
  | 7 => some .cmp
  | _ => none

/-- Group 1 of `TryDecodeAlu`. SOURCE: libs/cpu/src/decoder_alu.hpp:178-230 -/
def decodeGroup1 (opcode : U8) (ctx : CpuContext) : Decoding (Option DecodedInstruction) := do
  let (op1, reg) ← parseModRm ctx
  let imm ← readImmediate (opcode = 0x81)
  match group1Id reg with
  | some id =>
    found { id := id, op1 := op1, op2 := .makeImm imm
            cycles := if op1.kind = .memory then Cycles.kAluMem else Cycles.kAluRegImm }
  | none => reject .invalidOpcode "Opcode 0x81/0x83 reg inválido"

/-- `TryDecodeAlu`. SOURCE: libs/cpu/src/decoder_alu.hpp:12-233 -/
def tryDecodeAlu (opcode : U8) (eip : GuestAddr) (ctx : CpuContext) :
    Decoding (Option DecodedInstruction) :=
  match twoOpForm opcode with
  | some (id, form) => parseTwoOp ctx id form
  | none =>
    if opcode = 0xF7 ∨ opcode = 0xF6 then decodeGroup3 opcode eip ctx
    else if opcode = 0x81 ∨ opcode = 0x83 then decodeGroup1 opcode ctx
    else pure none

/-- `TryDecodeData`. SOURCE: libs/cpu/src/decoder_data.hpp:12-190 -/
def tryDecodeData (opcode : U8) (ctx : CpuContext) : Decoding (Option DecodedInstruction) := do
  if opcode = 0x90 then
    found { id := .nop, cycles := Cycles.kNop }
  else if opcode = 0xF4 then
    found { id := .hlt, cycles := Cycles.kHlt }
  else if opcode ≥ 0xB8 ∧ opcode ≤ 0xBF then
    let imm ← readImm32
    found { id := .mov, op1 := .makeReg (.ofIndex (opcode - 0xB8)), op2 := .makeImm imm
            cycles := Cycles.kMovRegImm }
  else if opcode = 0x89 then
    let (rm, reg) ← parseModRm ctx
    found { id := .mov, op1 := rm, op2 := .makeReg (.ofIndex reg)
            cycles := if rm.kind = .memory then Cycles.kMovMem else Cycles.kMovRegReg }
  else if opcode = 0x8B then
    let (rm, reg) ← parseModRm ctx
    found { id := .mov, op1 := .makeReg (.ofIndex reg), op2 := rm
            cycles := if rm.kind = .memory then Cycles.kMovMem else Cycles.kMovRegReg }
  else if opcode = 0xC7 then
    let (rm, reg) ← parseModRm ctx
    if reg ≠ 0 then
      reject .invalidOpcode "Opcode 0xC7 com reg != 0"
    else
      let imm ← readImm32
      found { id := .mov, op1 := rm, op2 := .makeImm imm
              cycles := if rm.kind = .memory then Cycles.kMovMem else Cycles.kMovRegImm }
  else if opcode = 0xA1 then
    let addr ← readImm32
    found { id := .mov, op1 := .makeReg .eax, op2 := .makeMem addr
            cycles := Cycles.kMovEaxMoffs32 }
  else if opcode = 0xA3 then
    let addr ← readImm32
    found { id := .mov, op1 := .makeMem addr, op2 := .makeReg .eax
            cycles := Cycles.kMovMoffs32Eax }
  else if opcode = 0x8D then
    let (rm, reg) ← parseModRm ctx
    if rm.kind ≠ .memory then
      reject .invalidOpcode "LEA requer operando de memória"
    else
      found { id := .lea, op1 := .makeReg (.ofIndex reg), op2 := .makeImm rm.memAddr
              cycles := Cycles.kLea }
  else if opcode ≥ 0x50 ∧ opcode ≤ 0x57 then
    found { id := .push, op1 := .makeReg (.ofIndex (opcode - 0x50)), cycles := Cycles.kPushReg }
  else if opcode = 0x68 then
    let imm ← readImm32
    found { id := .push, op1 := .makeImm imm, cycles := Cycles.kPushImm }
  else if opcode = 0x6A then
    let imm ← readImm8
    found { id := .push, op1 := .makeImm imm, cycles := Cycles.kPushImm }
  else if opcode ≥ 0x58 ∧ opcode ≤ 0x5F then
    found { id := .pop, op1 := .makeReg (.ofIndex (opcode - 0x58)), cycles := Cycles.kPopReg }
  else if opcode = 0x9C then
    found { id := .pushf, cycles := Cycles.kPushf }
  else if opcode = 0x9D then
    found { id := .popf, cycles := Cycles.kPopf }
  else
    pure none

/-- A relative branch: the target is counted from the end of the instruction. -/
def branch (eip : GuestAddr) (disp : U32) (inst : DecodedInstruction) :
    Decoding (Option DecodedInstruction) := do
  let len ← length
  pure (some { inst with length := len, branchTarget := eip + len.setWidth 32 + disp })

/-- A relative branch that also carries its target as its first operand. -/
def branchImm (eip : GuestAddr) (disp : U32) (inst : DecodedInstruction) :
    Decoding (Option DecodedInstruction) := do
  let len ← length
  let target := eip + len.setWidth 32 + disp
  pure (some { inst with length := len, branchTarget := target, op1 := .makeImm target })

/-- Group 5 of `Decode`. SOURCE: libs/cpu/src/decoder.cpp:246-280 -/
def decodeGroup5 (ctx : CpuContext) : Decoding (Option DecodedInstruction) := do
  let (op1, reg) ← parseModRm ctx
  let isMem : Bool := op1.kind = .memory
  match reg.toNat with
  | 0 => found { id := .inc, op1 := op1
                 cycles := if isMem then Cycles.kAluMem else Cycles.kAluRegReg }
  | 1 => found { id := .dec, op1 := op1
                 cycles := if isMem then Cycles.kAluMem else Cycles.kAluRegReg }
  | 2 => found { id := .call, op1 := op1, cycles := Cycles.kCallRm }
  | 4 => found { id := .jmp, op1 := op1, cycles := Cycles.kJmpRm }
  | 6 => found { id := .push, op1 := op1
                 cycles := if isMem then Cycles.kPushMem else Cycles.kPushReg }
  | _ => reject .invalidOpcode "Opcode 0xFF com reg não suportado"

/-- The two-byte opcodes of `Decode`. SOURCE: libs/cpu/src/decoder.cpp:330-360 -/
def decodeTwoByte (eip : GuestAddr) (ctx : CpuContext) : Decoding (Option DecodedInstruction) := do
  let second ← nextByte
  if second ≥ 0x80 ∧ second ≤ 0x8F then
    let disp ← readImm32
    branch eip disp { id := .jcc, condition := .ofIndex (second - 0x80)
                      cycles := Cycles.kJccTaken }
  else
    match ← tryDecodeTwoByteExtended second eip ctx with
    | some inst => pure (some inst)
    | none => reject .invalidOpcode "Prefixo 0x0F com opcode não suportado"

/-- The forms `Decode` handles itself, after the groups.
SOURCE: libs/cpu/src/decoder.cpp:183-388 -/
def decodeControl (opcode : U8) (eip : GuestAddr) (ctx : CpuContext) :
    Decoding (Option DecodedInstruction) := do
  if opcode = 0xE8 then
    let disp ← readImm32
    branchImm eip disp { id := .call, cycles := Cycles.kCallRel32 }
  else if opcode = 0xC3 then
    found { id := .ret, retPopBytes := 0, cycles := Cycles.kRet }
  else if opcode = 0xC2 then
    let pop ← readImm16
    found { id := .ret, retPopBytes := pop, cycles := Cycles.kRet }
  else if opcode = 0xEB then
    let disp ← readImm8
    branchImm eip disp { id := .jmp, cycles := Cycles.kJmpRel8 }
  else if opcode = 0xE9 then
    let disp ← readImm32
    branchImm eip disp { id := .jmp, cycles := Cycles.kJmpRel32 }
  else if opcode = 0xFF then
    decodeGroup5 ctx
  else if opcode ≥ 0x40 ∧ opcode ≤ 0x47 then
    found { id := .inc, op1 := .makeReg (.ofIndex (opcode - 0x40)), cycles := Cycles.kAluRegReg }
  else if opcode ≥ 0x48 ∧ opcode ≤ 0x4F then
    found { id := .dec, op1 := .makeReg (.ofIndex (opcode - 0x48)), cycles := Cycles.kAluRegReg }
  else if opcode = 0x8F then
    let (rm, reg) ← parseModRm ctx
    if reg ≠ 0 then
      reject .invalidOpcode "Opcode 0x8F com reg != 0"
    else
      found { id := .pop, op1 := rm
              cycles := if rm.kind = .memory then Cycles.kPopMem else Cycles.kPopReg }
  else if opcode ≥ 0x70 ∧ opcode ≤ 0x7F then
    let disp ← readImm8
    branch eip disp { id := .jcc, condition := .ofIndex (opcode - 0x70)
                      cycles := Cycles.kJccTaken }
  else if opcode = 0x0F then
    decodeTwoByte eip ctx
  else if opcode = 0xFA then
    found { id := .cli, cycles := Cycles.kCli }
  else if opcode = 0xFB then
    found { id := .sti, cycles := Cycles.kSti }
  else if opcode = 0xCF then
    found { id := .iret, cycles := Cycles.kIret }
  else if opcode = 0xCD then
    let vec ← nextByte
    found { id := .int, intVector := vec, cycles := Cycles.kInt }
  else
    pure none

/-! ## Prefixes -/

/-- The prefixes seen before the opcode.  Segment overrides are accepted and not kept. -/
structure Prefixes where
  rep : Bool := false
  repne : Bool := false
  lock : Bool := false
  opSize : Bool := false
  addrSize : Bool := false
  deriving DecidableEq, Repr

/-- The prefixes after one more byte, or nothing if the byte is not a prefix. -/
def Prefixes.add (p : Prefixes) (b : U8) : Option Prefixes :=
  if b = 0xF3 then some { p with rep := true }
  else if b = 0xF2 then some { p with repne := true }
  else if b = 0xF0 then some { p with lock := true }
  else if b = 0x66 then some { p with opSize := true }
  else if b = 0x67 then some { p with addrSize := true }
  else if b ∈ [0x2E, 0x36, 0x3E, 0x26, 0x64, 0x65] then some p
  else none

/-- The prefix loop of `Decode`.  The stream refuses a sixteenth byte, so after fifteen
prefixes the next request fails and the loop has no further turn.
SOURCE: libs/cpu/src/decoder.cpp:32-57 -/
def readPrefixes : ℕ → Prefixes → Decoding (U8 × Prefixes)
  | 0, p => do
    let b ← nextByte
    pure (b, p)
  | n + 1, p => do
    let b ← nextByte
    match p.add b with
    | some p => readPrefixes n p
    | none => pure (b, p)

/-- The prefix conflicts of `Decode`. SOURCE: libs/cpu/src/decoder.cpp:59-81 -/
def checkPrefixes (p : Prefixes) (eip : GuestAddr) : Decoding Unit :=
  if p.rep && p.repne then
    unsupported .invalidOpcode eip "Conflicting repeat prefixes (0xF2 and 0xF3 both present)"
  else if p.addrSize then
    unsupported .unsupportedFeature eip "16-bit address-size override prefix (0x67) is unsupported"
  else if p.opSize then
    unsupported .unsupportedFeature eip "16-bit operand-size override prefix (0x66) is unsupported"
  else
    pure ()

/-- The instructions that take a repeat prefix. -/
def isString (id : InstructionId) : Bool := id ∈ [.movs, .stos, .lods, .cmps, .scas]

/-- The instructions that take a LOCK prefix. -/
def isLockable (id : InstructionId) : Bool :=
  id ∈ [.cmpxchg, .xchg, .add, .sub, .and, .or, .xor, .inc, .dec]

/-- `finalize` of `Decode`: the prefixes are attached and checked.
SOURCE: libs/cpu/src/decoder.cpp:83-115 -/
def finalize (p : Prefixes) (eip : GuestAddr) (inst : DecodedInstruction) :
    Decoding DecodedInstruction := do
  if (p.rep || p.repne) && !isString inst.id then
    unsupported .unsupportedFeature eip "Repeat prefix on non-string instruction unsupported"
  else if p.lock && !isLockable inst.id then
    unsupported .invalidOpcode eip "LOCK prefix invalid on specified instruction"
  else
    pure { inst with rep := p.rep, repne := p.repne, lock := p.lock }

/-- The first of the alternatives that recognises the opcode. -/
def firstOf : List (Decoding (Option DecodedInstruction)) → Decoding (Option DecodedInstruction)
  | [] => pure none
  | d :: ds => do
    match ← d with
    | some inst => pure (some inst)
    | none => firstOf ds

/-- `Decoder::Decode`. SOURCE: libs/cpu/src/decoder.cpp:21-391 -/
def decode (ctx : CpuContext) (eip : GuestAddr) : Decoding DecodedInstruction := do
  let (opcode, p) ← readPrefixes 15 {}
  checkPrefixes p eip
  let inst ← firstOf
    [ tryDecodeShift opcode eip ctx,
      tryDecodeString opcode,
      tryDecodeMulDiv opcode ctx,
      tryDecodeBitExt opcode,
      tryDecodeAtomic opcode ctx,
      tryDecodeAlu opcode eip ctx,
      tryDecodeData opcode ctx,
      decodeControl opcode eip ctx ]
  match inst with
  | some inst => finalize p eip inst
  | none =>
    reject .invalidOpcode "Opcode não suportado no subconjunto IA-32" (opcode.setWidth 64)

end Decoding

end Xblob.Processor
