import Xblob.Interface.BudgetRuns
import Xblob.Interface.DataPages
import Xblob.Model.Cpu.Step

/-!
# Repeated string instructions as loops over elements

A repeated string instruction is meant to be a loop: as long as ECX is not zero, one
element is copied, stored, loaded or compared, the index registers advance by the element
size in the direction of DF, and ECX goes down by one; a repeated comparison also ends
with the first element that breaks its condition on ZF.  The processor spreads this loop
over its steps, one element a step.  This file has the loop itself.
-/

set_option autoImplicit false

namespace Xblob.Interface

open Xblob.Computation Xblob.Memory Xblob.Processor

variable {δ : Type}

/-- The string operations. -/
inductive StringOp where
  | movs | stos | lods | scas | cmps
  deriving DecidableEq, Repr

/-- A repeated string instruction: the operation, its width, and whether it repeats while
the comparison differs (REPNE) or while it agrees (REP, REPE). -/
structure RepString where
  op : StringOp
  byteForm : Bool
  repne : Bool
  deriving DecidableEq, Repr

namespace RepString

/-- The first byte of the instruction. -/
def repeatByte (i : RepString) : U8 := if i.repne then 0xF2 else 0xF3

/-- The second byte of the instruction. -/
def opcode (i : RepString) : U8 :=
  match i.op with
  | .movs => if i.byteForm then 0xA4 else 0xA5
  | .cmps => if i.byteForm then 0xA6 else 0xA7
  | .stos => if i.byteForm then 0xAA else 0xAB
  | .lods => if i.byteForm then 0xAC else 0xAD
  | .scas => if i.byteForm then 0xAE else 0xAF

/-- The bytes of one element. -/
def size (i : RepString) : U32 := if i.byteForm then 1 else 4

/-- What the index registers advance by. -/
def stride (i : RepString) (ctx : CpuContext) : U32 :=
  if ctx.getFlag kFlagDF then -i.size else i.size

/-- Reading an element. -/
def load (i : RepString) (addr : GuestAddr) : EStateM Error (AddressSpace δ) U32 :=
  if i.byteForm then do
    let v ← AddressSpace.read8 addr
    pure (v.setWidth 32)
  else
    AddressSpace.read32 addr

/-- Writing an element. -/
def store (i : RepString) (addr : GuestAddr) (v : U32) : EStateM Error (AddressSpace δ) Unit :=
  if i.byteForm then AddressSpace.write8 addr (v.setWidth 8) else AddressSpace.write32 addr v

/-- AL or EAX. -/
def accumulator (i : RepString) (ctx : CpuContext) : U32 :=
  if i.byteForm then (ctx.getGpr8 0).setWidth 32 else ctx.gpr .eax

/-- The context with AL or EAX loaded. -/
def setAccumulator (i : RepString) (ctx : CpuContext) (v : U32) : CpuContext :=
  if i.byteForm then ctx.setGpr8 0 (v.setWidth 8) else ctx.setGpr .eax v

/-- The context with the flags of comparing two elements. -/
def compared (i : RepString) (ctx : CpuContext) (a b : U32) : CpuContext :=
  { ctx with eflags := if i.byteForm
      then calculateSubFlags8 (a.setWidth 8) (b.setWidth 8) ctx.eflags
      else calculateSubFlags a b ctx.eflags }

/-- The context with a register advanced by one element. -/
def advanced (i : RepString) (start : CpuContext) (reg : Reg32) (ctx : CpuContext) : CpuContext :=
  ctx.setGpr reg (ctx.gpr reg + i.stride start)

/-- What an element does, before it is counted. -/
def act (i : RepString) : EStateM Error (Machine (AddressSpace δ)) Unit := do
  let s ← get
  let ctx := s.ctx
  let esi := ctx.gpr .esi
  let edi := ctx.gpr .edi
  match i.op with
  | .movs => do
    let v ← onMemory (i.load esi)
    onMemory (i.store edi v)
    modify fun s => { s with ctx := i.advanced ctx .edi (i.advanced ctx .esi ctx) }
  | .stos => do
    onMemory (i.store edi (i.accumulator ctx))
    modify fun s => { s with ctx := i.advanced ctx .edi ctx }
  | .lods => do
    let v ← onMemory (i.load esi)
    modify fun s => { s with ctx := i.advanced ctx .esi (i.setAccumulator ctx v) }
  | .scas => do
    let v ← onMemory (i.load edi)
    modify fun s =>
      { s with ctx := i.advanced ctx .edi (i.compared ctx (i.accumulator ctx) v) }
  | .cmps => do
    let a ← onMemory (i.load esi)
    let b ← onMemory (i.load edi)
    modify fun s =>
      { s with ctx := i.advanced ctx .edi (i.advanced ctx .esi (i.compared ctx a b)) }

/-- The context with one element counted. -/
def counted (ctx : CpuContext) : CpuContext := ctx.setGpr .ecx (ctx.gpr .ecx - 1)

/-- One element. -/
def element (i : RepString) : EStateM Error (Machine (AddressSpace δ)) Unit := do
  i.act
  modify fun s => { s with ctx := counted s.ctx }

/-- `k` elements. -/
def elements (i : RepString) : ℕ → EStateM Error (Machine (AddressSpace δ)) Unit
  | 0 => pure ()
  | k + 1 => do
    i.elements k
    i.element

/-- Whether the last comparison ends the repetition. -/
def breaks (i : RepString) (ctx : CpuContext) : Bool :=
  (i.op = .scas || i.op = .cmps) && (ctx.getFlag kFlagZF == i.repne)

/-- **The loop**, for a count of `n`. -/
def loop (i : RepString) : ℕ → EStateM Error (Machine (AddressSpace δ)) Unit
  | 0 => pure ()
  | n + 1 => do
    i.element
    let s ← get
    if i.breaks s.ctx then pure () else i.loop n

end RepString

/-- A RAM cell of an access of `len` bytes at `addr`. -/
def AccessCell (space : AddressSpace δ) (addr : GuestAddr) (len : GuestSize)
    (perm : MemoryPermission) (c : Cell) : Prop :=
  ∃ reg ram ramOffset, space.resolveRegion addr len perm = .ok reg ∧
    reg.type = .ram ram ramOffset ∧
    ∃ j < len.toNat, c = (ram, AddressSpace.ramPos reg ramOffset addr + j)

/-- The instruction's two bytes stand at EIP. -/
structure InstructionAt (i : RepString) (eip : GuestAddr) (space : AddressSpace δ) : Prop where
  first : (AddressSpace.fetch8 eip).run space = .ok i.repeatByte space
  second : (AddressSpace.fetch8 (eip + 1)).run space = .ok i.opcode space

/-- No store of the first `n` elements shares a cell with the instruction's bytes. -/
def DestinationApart (i : RepString) (ctx : CpuContext) (space : AddressSpace δ) (n : ℕ) : Prop :=
  i.op = .movs ∨ i.op = .stos → ∀ k < n, ∀ c,
    AccessCell space (ctx.gpr .edi + BitVec.ofNat 32 k * i.stride ctx) i.size .write c →
      ¬ AccessCell space ctx.eip 1 .execute c ∧ ¬ AccessCell space (ctx.eip + 1) 1 .execute c

/-- Stepping the processor goes through the elements one by one: before the last, EIP stays
at the instruction, ECX has gone down by the elements done and no element has broken the
repetition; the last is the one that exhausts ECX or breaks it, and leaves EIP behind the
instruction.  With ECX zero the one step changes EIP alone. -/
def RepeatsElementwise (i : RepString) (trap : Option (TrapHandler (AddressSpace δ))) (cpu : Cpu)
    (space : AddressSpace δ) (final : Machine (AddressSpace δ)) : Prop :=
  let n := (cpu.context.gpr .ecx).toNat
  ∃ m ≤ n,
    (∀ k < m, ∃ s : Machine (AddressSpace δ), (i.elements k).run ⟨cpu.context, space⟩ = .ok () s ∧
      stepped trap k cpu space = ({ cpu with context := s.ctx }, s.mem) ∧
      s.ctx.eip = cpu.context.eip ∧ (s.ctx.gpr .ecx).toNat = n - k ∧
      (0 < k → i.breaks s.ctx = false)) ∧
    (i.elements m).run ⟨cpu.context, space⟩ = .ok () final ∧
    (m = n ∨ 0 < m ∧ i.breaks final.ctx) ∧
    stepped trap (max m 1) cpu space =
      ({ cpu with context := { final.ctx with eip := cpu.context.eip + 2 } }, final.mem)

end Xblob.Interface
