import Xblob.Model.Cpu.Step

/-!
# Decoded instructions

Instructions that were decoded, what their decoding may depend on, and what POP is to do.
-/

set_option autoImplicit false

namespace Xblob.Interface

open Xblob.Computation Xblob.Memory Xblob.Processor Xblob.Processor.Decoding

/-!
## Instruction encodings

The bytes of an instruction as the IA-32 manual reads them: prefixes, the opcode, and for
the opcodes that take one a ModRM byte with its SIB byte and displacement.
-/

section Encodings

/-- The bytes that may stand before an opcode. -/
def isPrefix (b : U8) : Bool :=
  [0xF3, 0xF2, 0xF0, 0x66, 0x67, 0x2E, 0x36, 0x3E, 0x26, 0x64, 0x65].contains b

/-- The bytes of an instruction from its opcode on. -/
def fromOpcode (bytes : List U8) : List U8 := bytes.dropWhile isPrefix

/-! ### The ModRM byte -/

/-- The mod field of a ModRM byte. -/
def modField (modrm : U8) : U8 := (modrm >>> 6) &&& 3

/-- The reg field of a ModRM byte. -/
def regField (modrm : U8) : U8 := (modrm >>> 3) &&& 7

/-- The r/m field of a ModRM byte. -/
def rmField (modrm : U8) : U8 := modrm &&& 7

/-- A 32-bit displacement. -/
def disp32 : List U8 → U32
  | b0 :: b1 :: b2 :: b3 :: _ => word32 b0 b1 b2 b3
  | _ => 0

/-- A sign-extended byte displacement. -/
def disp8 : List U8 → U32
  | b :: _ => b.signExtend 32
  | [] => 0

/-- The displacement that a mod field adds to a base register. -/
def dispOf (mod : U8) (bytes : List U8) : U32 :=
  if mod = 1 then disp8 bytes else if mod = 2 then disp32 bytes else 0

/-- The address given by a SIB byte and what follows it. -/
def sibEffective (ctx : CpuContext) (mod : U8) : List U8 → GuestAddr
  | sib :: bytes =>
    let index := (sib >>> 3) &&& 7
    let base := sib &&& 7
    let scaled : U32 :=
      if index = 4 then 0 else ctx.gpr (.ofIndex index) * ((1 : U32) <<< ((sib >>> 6) &&& 3))
    if base = 5 ∧ mod = 0 then disp32 bytes + scaled
    else ctx.gpr (.ofIndex base) + dispOf mod bytes + scaled
  | [] => 0

/-- The address of a memory operand, from its ModRM byte on. -/
def effectiveAddress (ctx : CpuContext) : List U8 → GuestAddr
  | modrm :: bytes =>
    if rmField modrm = 4 then sibEffective ctx (modField modrm) bytes
    else if modField modrm = 0 ∧ rmField modrm = 5 then disp32 bytes
    else ctx.gpr (.ofIndex (rmField modrm)) + dispOf (modField modrm) bytes
  | [] => 0

/-- The operand is in memory and its address counts from ESP: a SIB byte whose base is ESP.
ESP is never an index. -/
def throughEsp : List U8 → Bool
  | modrm :: sib :: _ => modField modrm ≠ 3 ∧ rmField modrm = 4 ∧ sib &&& 7 = 4
  | _ => false

/-! ### Decoded instructions -/

variable (M : Type) [GuestMemory M]

/-- An instruction decoded at EIP. -/
structure Decoded where
  ctx : CpuContext
  mem : M
  inst : DecodedInstruction
  stream : InstructionStream M
  decodes : decodeAt ctx ctx.eip mem = .ok inst stream

namespace Decoded

variable {M}

/-- The instruction's bytes from the opcode on. -/
def bytes (d : Decoded M) : List U8 := fromOpcode d.stream.rawBytes

/-- The opcode is the given one. -/
def HasOpcode (d : Decoded M) (opcode : U8) : Prop := d.bytes.head? = some opcode

/-- The machine as the executor finds it: the context, and memory after the fetches. -/
def machine (d : Decoded M) : Machine M := ⟨d.ctx, d.stream.mem⟩

/-- Executing the instruction. -/
def execute (d : Decoded M) (trap : Option (TrapHandler M)) :
    EStateM.Result Error (Machine M) ExecutionResult :=
  runExec trap (Exec.execute d.inst d.ctx.eip) d.machine

end Decoded

end Encodings

/-!
## What a decoded instruction depends on

An instruction is its own bytes: the decoder ends whatever memory holds, what it finds has one to
fifteen bytes, and any memory with these bytes gives the same instruction.
-/

section SelfContained

variable {δ : Type}

/-- The stream before its first byte. -/
def startOf (eip : GuestAddr) (mem : AddressSpace δ) : InstructionStream (AddressSpace δ) where
  mem := mem
  eip := eip

/-- The prefix loop, for some turns of it; nothing when these do not end it. -/
def prefixLoop : ℕ → Prefixes → Decoding (Option (U8 × Prefixes))
  | 0, _ => pure none
  | turns + 1, p => do
    let b ← nextByte
    match p.add b with
    | some p => prefixLoop turns p
    | none => pure (some (b, p))

/-- Two memories have the same bytes to be fetched, as many as given from an address on. -/
def SameCode {δ' : Type} (eip : GuestAddr) (n : ℕ) (mem : AddressSpace δ) (mem' : AddressSpace δ') :
    Prop :=
  ∀ i < n, ∃ b, outcome ((AddressSpace.fetch8 (eip + BitVec.ofNat 32 i)).run mem) = .ok b ∧
    outcome ((AddressSpace.fetch8 (eip + BitVec.ofNat 32 i)).run mem') = .ok b

/-- Decoding at an address depends on nothing but the instruction found there. -/
structure DecodesAlone (ctx : CpuContext) (eip : GuestAddr) (mem : AddressSpace δ) : Prop where
  /-- Sixteen turns end the prefix loop, and give what the decoder goes on with. -/
  ends : ∀ turns ≥ 16,
    ((prefixLoop turns {}).run InstructionStream.answer).run (startOf eip mem) =
      (some <$> (readPrefixes 15 {}).run InstructionStream.answer).run (startOf eip mem)
  length : ∀ inst stream, decodeAt ctx eip mem = .ok inst stream →
    1 ≤ inst.length.toNat ∧ inst.length.toNat ≤ 15
  alone : ∀ inst stream, decodeAt ctx eip mem = .ok inst stream →
    ∀ {δ' : Type} (mem' : AddressSpace δ'), SameCode eip inst.length.toNat mem mem' →
      ∃ stream', decodeAt ctx eip mem' = .ok inst stream'

end SelfContained

/-!
## POP

What POP r/m32 has to do with each of its destinations.  ESP is incremented before the
dword is stored: a pop into ESP leaves the popped dword, and a destination whose address
counts from ESP counts from the incremented one.
-/

section Pops

/-- Where a POP stores. -/
inductive PopDestination where
  | register (reg : Reg32)
  | memory (modrm : List U8)

/-- The destination that the bytes of a POP name: `58+r`, or `8F /0`. -/
def popDestination : List U8 → PopDestination
  | opcode :: modrm :: rest =>
    if opcode = 0x8F then
      if modField modrm = 3 then .register (.ofIndex (rmField modrm)) else .memory (modrm :: rest)
    else .register (.ofIndex (opcode - 0x58))
  | [opcode] => .register (.ofIndex (opcode - 0x58))
  | [] => .register .eax

/-- The opcodes of POP r/m32. -/
def isPop (opcode : U8) : Bool :=
  [0x58, 0x59, 0x5A, 0x5B, 0x5C, 0x5D, 0x5E, 0x5F, 0x8F].contains opcode

variable (M : Type) [GuestMemory M]

/-- A successful step over a POP. -/
structure PopStep extends Decoded M where
  opcode : U8
  pop : isPop opcode = true
  hasOpcode : toDecoded.HasOpcode opcode
  poll : InterruptPoll
  trap : Option (TrapHandler M)
  cpu : Cpu
  running : cpu.lifecycle = .running
  quiet : pendingVector poll cpu.context = none
  atContext : cpu.context = ctx
  outcome : StepOutcome
  after : Cpu
  memAfter : M
  steps : step poll trap cpu mem = (outcome, after, memAfter)
  succeeds : outcome.result = .ok

namespace PopStep

variable {M} (p : PopStep M)

/-- The old ESP. -/
def esp : U32 := p.ctx.gpr .esp

/-- The context with ESP incremented and EIP behind the instruction. -/
def incremented : CpuContext :=
  { p.ctx.setGpr .esp (p.esp + 4) with eip := p.ctx.eip + p.inst.length.setWidth 32 }

/-- The popped dword is read at the old ESP. -/
def Pops (dword : U32) (memRead : M) : Prop :=
  (GuestMemory.read32 p.esp).run p.stream.mem = .ok dword memRead

/-- The step leaves the destination with the dword, ESP incremented unless it is the
destination, and no other register changed. -/
def Stores (dword : U32) (memRead : M) : PopDestination → Prop
  | .register reg =>
    p.after.context = p.incremented.setGpr reg dword ∧ p.memAfter = memRead
  | .memory modrm =>
    p.after.context = p.incremented ∧
      (GuestMemory.write32 (effectiveAddress p.incremented modrm) dword).run memRead =
        .ok () p.memAfter

/-- The step is an exact POP. -/
def Exact : Prop :=
  ∃ dword memRead, p.Pops dword memRead ∧ p.Stores dword memRead (popDestination p.bytes)

/-- The destination is neither ESP nor addressed through ESP, or it makes no difference: the
popped dword is the incremented ESP, or storing it four bytes higher has the same effect. -/
def Indifferent : PopDestination → Prop
  | .register reg => reg = .esp → ∀ dword memRead, p.Pops dword memRead → dword = p.esp + 4
  | .memory modrm => throughEsp modrm = true → ∀ dword memRead, p.Pops dword memRead →
      (GuestMemory.write32 (effectiveAddress p.ctx modrm) dword).run memRead =
        (GuestMemory.write32 (effectiveAddress p.ctx modrm + 4) dword).run memRead

end PopStep

end Pops

end Xblob.Interface
