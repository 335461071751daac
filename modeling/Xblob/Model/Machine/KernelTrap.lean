import Xblob.Model.Cpu.Step
import Xblob.Model.Kernel.Handlers

/-!
# The trap of the kernel

The session answers `INT 0x2D` itself: the ordinal of an export is in EAX, and the handler of the
export runs on the live context and on guest memory.  What the registry and the trace buffer
record of a call is left out.
-/

set_option autoImplicit false

namespace Xblob.Machine

open Xblob.Computation Xblob.Kernel Xblob.Memory Xblob.Processor

variable {δ : Type}

/-- The memory of the guest and the kernel, which the processor does not see. -/
structure GuestWithKernel (δ : Type) where
  space : AddressSpace δ
  kernel : KernelState

/-- An access of the guest's memory. -/
def onSpace {α : Type} (f : EStateM Error (AddressSpace δ) α) :
    EStateM Error (GuestWithKernel δ) α :=
  zoom GuestWithKernel.space (fun space g => { g with space := space }) f

/-- The memory of the guest, with the kernel beside it. -/
instance (δ : Type) : GuestMemory (GuestWithKernel δ) where
  fetch8 addr := onSpace (AddressSpace.fetch8 addr)
  read8 addr := onSpace (AddressSpace.read8 addr)
  read16 addr := onSpace (AddressSpace.read16 addr)
  read32 addr := onSpace (AddressSpace.read32 addr)
  write8 addr val := onSpace (AddressSpace.write8 addr val)
  write16 addr val := onSpace (AddressSpace.write16 addr val)
  write32 addr val := onSpace (AddressSpace.write32 addr val)
  lastPageFault _ := none

/-- `FindByOrdinal`. SOURCE: libs/kernel/src/registry.cpp:66-72 -/
def findByOrdinal (ordinal : U32) : Option ExportEntry :=
  registeredExports.find? fun e => e.ordinal = ordinal

/-- The arguments recorded of an unsupported call: words of the stack up to the first that cannot be
read. SOURCE: libs/kernel/src/kernel_hle.cpp:41-49 -/
def recordArgs (esp : U32) (i : ℕ) : ℕ → EStateM Error (AddressSpace δ) (List U32)
  | 0 => pure []
  | n + 1 => do
    match ← attempt (AddressSpace.read32 (argAddr esp i)) with
    | .error _ => pure []
    | .ok arg => do
      let args ← recordArgs esp (i + 1) n
      pure (arg :: args)

/-- `DispatchThunk`: the value returned, or `none` if the handler never returns.
SOURCE: libs/kernel/src/kernel_hle.cpp:33-80 -/
def dispatchThunk (ordinal : U32) : EStateM Error (Machine (GuestWithKernel δ)) (Option U32) := do
  let s ← get
  match findByOrdinal ordinal with
  | none => do
    let _ ← onMemory (onSpace (recordArgs (s.ctx.gpr .esp) 0 8))
    throw { code := .unsupportedFeature, message := "Ordinal de kernel não suportado"
            offset := ordinal.setWidth 64 }
  | some entry => do
    let r ← onMemory (onSpace ((entry.handler s.ctx s.mem.kernel).run answer))
    match r with
    | none => pure none
    | some (returnVal, ctx, kernel) => do
      modify fun s => { s with ctx := ctx.setGpr .eax returnVal, mem := { s.mem with kernel } }
      let retAddr ← onMemory (onSpace (AddressSpace.read32 (ctx.gpr .esp)))
      modify fun s =>
        { s with ctx :=
          { s.ctx.setGpr .esp (ctx.gpr .esp + 4 + BitVec.ofNat 32 (entry.paramCount * 4)) with
            eip := retAddr } }
      pure (some returnVal)

/-- The trap handler of the session.  A call that never returns ends no step; it is answered here as
one that was handled. SOURCE: libs/machine/src/machine_session.cpp:48-70 -/
def kernelTrap : TrapHandler (GuestWithKernel δ) := fun vector => do
  if vector = 0x2D then do
    let s ← get
    modify fun s => { s with ctx := { s.ctx with eip := s.ctx.eip + 2 } }
    let _ ← dispatchThunk (s.ctx.gpr .eax)
    pure true
  else
    pure false

end Xblob.Machine
