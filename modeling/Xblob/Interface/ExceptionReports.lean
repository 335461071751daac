import Xblob.Interface.DataPages
import Xblob.Model.Cpu.Step

/-!
# Reported exceptions and the history behind them

What a step reports is meant to be a function of the processor's context, the paging
registers and memory.  The processor and its memory keep three records that a step also
reads: the last exception, the last page fault and the translation cache.  None of the
three is cleared when its occasion has passed.

This file has the histories two machines may come from, what is reported for the error
raised in a step, and the states in which the three records hold nothing stale.
-/

set_option autoImplicit false

namespace Xblob.Interface

open Xblob.Computation Xblob.Memory Xblob.Memory.VirtualMemory Xblob.Processor

variable {δ : Type}

/-! ## Histories -/

/-- A processor and its virtual memory. -/
structure System (δ : Type) where
  cpu : Cpu := {}
  vm : VirtualMemory δ

/-- One operation on a processor and its virtual memory.  `setContext` is a host that
writes through the mutable `context()`; `onMemory` is a call on the memory alone. -/
inductive Operation (δ : Type) where
  | step (poll : InterruptPoll) (trap : Option (TrapHandler (VirtualMemory δ)))
  | raiseException (trap : Option (TrapHandler (VirtualMemory δ))) (ex : CpuException)
  | reset
  | setContext (ctx : CpuContext)
  | onMemory (call : VmCall δ)

/-- The effect of one operation. -/
def Operation.apply (s : System δ) : Operation δ → System δ
  | .step poll trap =>
    let r := Processor.step poll trap s.cpu s.vm
    ⟨r.2.1, r.2.2⟩
  | .raiseException trap ex =>
    let r := Processor.raiseException trap s.cpu s.vm ex
    ⟨r.2.1, r.2.2⟩
  | .reset => { s with cpu := Cpu.reset }
  | .setContext ctx => { s with cpu := { s.cpu with context := ctx } }
  | .onMemory call => { s with vm := call.apply s.vm }

/-- A new processor and a new virtual memory over `space`, after a sequence of operations. -/
def history (space : AddressSpace δ) (ops : List (Operation δ)) : System δ :=
  ops.foldl Operation.apply { vm := { physicalSpace := space } }

/-- Two running systems with the same context, paging registers and memory. -/
structure SameVisible (s t : System δ) : Prop where
  context : s.cpu.context = t.cpu.context
  left : s.cpu.lifecycle = .running
  right : t.cpu.lifecycle = .running
  regs : regsOf s.vm = regsOf t.vm
  memory : s.vm.physicalSpace = t.vm.physicalSpace

/-- A trap handler reaches the guest through the context and the physical memory; the
records of the virtual memory are private to it. -/
def throughMemory (handler : TrapHandler (AddressSpace δ)) : TrapHandler (VirtualMemory δ) :=
  fun vector =>
    zoom (fun s => ⟨s.ctx, s.mem.physicalSpace⟩)
      (fun p s => ⟨p.ctx, { s.mem with physicalSpace := p.mem }⟩) (handler vector)

/-- What the next step of a system reports. -/
def report (poll : InterruptPoll) (trap : Option (TrapHandler (AddressSpace δ))) (s : System δ) :
    StepOutcome :=
  (Processor.step poll (trap.map throughMemory) s.cpu s.vm).1

/-! ## The error raised in a step -/

/-- The vector of an error: of the page fault recorded with it, else of its code. -/
def errorVector (e : Error) : Option PageFault → ExceptionVector
  | some _ => .pageFault
  | none => if e.code = .invalidOpcode then .invalidOpcode else .generalProtection

/-- The vector of the error raised in the next step, if one is raised.  Only a page fault
of this very step counts, so the record is empty at its start. -/
def raisedVector (poll : InterruptPoll) (trap : Option (TrapHandler (AddressSpace δ)))
    (ctx : CpuContext) (vm : VirtualMemory δ) : Option ExceptionVector :=
  let vm := { vm with lastPageFault := none }
  let trap := trap.map throughMemory
  match pendingVector poll ctx with
  | some vector =>
    match runExec trap (Exec.deliverGate vector none false ctx.eip) ⟨ctx, vm⟩ with
    | .error e s => some (errorVector e s.mem.lastPageFault)
    | .ok _ _ => none
  | none =>
    match decodeAt ctx ctx.eip vm with
    | .error e stream => some (errorVector e.error stream.mem.lastPageFault)
    | .ok inst stream =>
      match runExec trap (Exec.execute inst ctx.eip) ⟨ctx, stream.mem⟩ with
      | .error e s => some (errorVector e s.mem.lastPageFault)
      | .ok r _ => r.exception.map CpuException.vector

/-- An exception the next step reports is at its EIP and of the error it raised. -/
def ReportsTruly (poll : InterruptPoll) (trap : Option (TrapHandler (AddressSpace δ)))
    (s : System δ) : Prop :=
  ∀ ex, (report poll trap s).exception = some ex →
    ex.faultEip = s.cpu.context.eip ∧ raisedVector poll trap s.cpu.context s.vm = some ex.vector

/-! ## States without stale records -/

/-- The tables in use are in RAM, not behind a device. -/
def TablesInRam (space : AddressSpace δ) (cr3 : U32) : Prop :=
  ∀ addr, TableAddr space cr3 addr → space.NoDevice addr 4 .read

/-- The contexts from which the next step pushes an interrupt frame: for a pending
interrupt, for an exception the instruction raised, or for an INT that no trap handler
took. -/
inductive EntersGate (poll : InterruptPoll) (trap : Option (TrapHandler (AddressSpace δ)))
    (ctx : CpuContext) (vm : VirtualMemory δ) : CpuContext → Prop
  | interrupt (h : pendingVector poll ctx ≠ none) : EntersGate poll trap ctx vm ctx
  | exception {inst : DecodedInstruction} {stream : InstructionStream (VirtualMemory δ)}
      {r : ExecutionResult} {s : Machine (VirtualMemory δ)}
      (hdec : decodeAt ctx ctx.eip vm = .ok inst stream)
      (hrun : runExec (trap.map throughMemory) (Exec.execute inst ctx.eip) ⟨ctx, stream.mem⟩ =
        .ok r s) (hex : r.exception ≠ none) : EntersGate poll trap ctx vm s.ctx
  | untrapped {inst : DecodedInstruction} {stream : InstructionStream (VirtualMemory δ)}
      (hdec : decodeAt ctx ctx.eip vm = .ok inst stream) (hint : inst.id = .int)
      (htrap : trap = none) : EntersGate poll trap ctx vm ctx
  | declined {inst : DecodedInstruction} {stream : InstructionStream (VirtualMemory δ)}
      {handler : TrapHandler (AddressSpace δ)} {space : AddressSpace δ}
      {s : Machine (AddressSpace δ)}
      (hdec : decodeAt ctx ctx.eip vm = .ok inst stream) (hint : inst.id = .int)
      (htrap : trap = some handler)
      (hrun : (handler inst.intVector).run ⟨ctx, space⟩ = .ok false s) :
      EntersGate poll trap ctx vm s.ctx

/-- An interrupt frame below `esp`, three dwords, lies in one page. -/
def FrameInPage (esp : U32) : Prop := 11 ≤ (esp - 1) &&& 0xFFF

/-- Nothing stale is left for the next step to read: no exception and no page fault are
on record, and with paging on the cached translations are the ones of the tables.  The
last three conditions concern paging alone: table walks do not reach a device, the step's
own interrupt frame does not cross into a page whose entry it may just have overwritten,
and a trap handler that declines has not changed the tables either. -/
structure NothingStale (poll : InterruptPoll) (trap : Option (TrapHandler (AddressSpace δ)))
    (s : System δ) : Prop where
  exception : s.cpu.lastException = none
  pageFault : s.vm.lastPageFault = none
  cache : s.vm.isPagingEnabled → CacheSound (tableEntry s.vm.physicalSpace s.vm.cr3) s.vm.tlb
  tables : s.vm.isPagingEnabled → TablesInRam s.vm.physicalSpace s.vm.cr3
  frame : s.vm.isPagingEnabled → ∀ ctx, EntersGate poll trap s.cpu.context s.vm ctx →
    FrameInPage (ctx.gpr .esp)
  declined : s.vm.isPagingEnabled → ∀ handler ∈ trap, ∀ vector space t,
    (handler vector).run ⟨s.cpu.context, space⟩ = .ok false t → t.mem = space

end Xblob.Interface
