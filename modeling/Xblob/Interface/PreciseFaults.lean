import Xblob.Interface.PhysicalMemory
import Xblob.Model.Cpu.Step

/-!
# Precise faults

A step that faults is to leave the registers and memory as they were.  One instruction
breaks this: CMPXCHG sets the flags of its comparison before it writes its destination,
so a destination that compares equal and refuses the write leaves new flags behind.
This file has the property and the exact description of that case in terms of the state
before the step.
-/

set_option autoImplicit false

namespace Xblob.Interface

open Xblob.Computation Xblob.Memory Xblob.Processor

variable {δ : Type}

/-- With nothing pending and no trap handler, a step that reports a fault leaves every
register and every byte of memory as it was. -/
def FaultsPrecisely (cpu : Cpu) (space : AddressSpace δ) : Prop :=
  ∀ outcome cpu' space', step none none cpu space = (outcome, cpu', space') →
    outcome.result = .faulted → cpu'.context = cpu.context ∧ space' = space

/-- EFLAGS after a comparison of two equal operands. -/
def equalFlags (eflags : U32) : U32 :=
  (eflags &&& ~~~kArithmeticFlagsMask) ||| kFlagReserved1 ||| kFlagPF ||| kFlagZF

/-- AL or EAX, by the operand size. -/
def accumulator (ctx : CpuContext) (size : U8) : U32 :=
  if size = 1 then (ctx.getGpr8 0).setWidth 32 else ctx.gpr .eax

/-- The byte or dword at an address. -/
def valueAt (space : AddressSpace δ) (size : U8) (addr : GuestAddr) : Result U32 :=
  if size = 1 then (outcome ((AddressSpace.read8 addr).run space)).map (BitVec.setWidth 32)
  else outcome ((AddressSpace.read32 addr).run space)

/-- A compare-exchange whose memory destination can be read, equals the accumulator, and
refuses to be written, and whose comparison changes the flags. -/
structure RefusedExchange (ctx : CpuContext) (space : AddressSpace δ)
    (inst : DecodedInstruction) : Prop where
  id : inst.id = .cmpxchg
  memory : inst.op1.kind = .memory
  equal : valueAt space inst.dataSize inst.op1.memAddr = .ok (accumulator ctx inst.dataSize)
  refused : ∃ e, space.resolveRegion inst.op1.memAddr (inst.dataSize.setWidth 32) .write = .error e
  flags : equalFlags ctx.eflags ≠ ctx.eflags

/-- The instruction at EIP is such a compare-exchange. -/
def AtRefusedExchange (ctx : CpuContext) (space : AddressSpace δ) : Prop :=
  ∃ inst stream, decodeAt ctx ctx.eip space = .ok inst stream ∧ RefusedExchange ctx space inst

end Xblob.Interface
