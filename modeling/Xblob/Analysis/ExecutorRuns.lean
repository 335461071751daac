import Xblob.Analysis.DecodedForms

/-!
# Runs of the executor

Successful runs of an executor's text are taken apart from the front.  What only looks
leaves the context as it was.
-/

set_option autoImplicit false

namespace Xblob.Analysis

open Xblob.Computation Xblob.Memory Xblob.Interface Xblob.Processor Xblob.Processor.Exec

variable {M : Type} [GuestMemory M] {α β : Type} {trap : Option (TrapHandler M)}
  {s s' s'' : Machine M}

/-- A sequence that returns has run its two parts. -/
theorem exec_bind_ok {x : Exec α} {f : α → Exec β} {b : β}
    (h : runExec trap (x >>= f) s = .ok b s'') :
    ∃ a s', runExec trap x s = .ok a s' ∧ runExec trap (f a) s' = .ok b s'' := by
  unfold runExec at h
  rw [Program.run_bind] at h
  exact run_bind_ok h

/-- A sequence goes on from where its first part returns. -/
theorem exec_bind_of_ok {x : Exec α} {f : α → Exec β} {a : α}
    (h : runExec trap x s = .ok a s') : runExec trap (x >>= f) s = runExec trap (f a) s' := by
  unfold runExec at h ⊢
  rw [Program.run_bind, EStateM.run_bind, h]

/-- Returning a value changes nothing. -/
theorem exec_pure_ok {a b : α} (h : runExec trap (pure a) s = .ok b s') : b = a ∧ s' = s := by
  cases h
  exact ⟨rfl, rfl⟩

/-- A change of the context, run. -/
@[simp] theorem exec_modifyContext (f : CpuContext → CpuContext) :
    runExec trap (modifyContext f) s = .ok () { s with ctx := f s.ctx } := rfl

/-- A request that only looks keeps the context. -/
theorem looks_keeps_ctx (r : ExecRequest) (hr : Looks r) (s : Machine M) :
    Keeps Machine.ctx (Machine.answer trap r) s := by
  cases r with
  | context => rfl
  | read8 addr =>
    change Keeps Machine.ctx (onMemory _) s
    unfold Keeps onMemory
    rw [run_zoom]
    split <;> rfl
  | read16 addr =>
    change Keeps Machine.ctx (onMemory _) s
    unfold Keeps onMemory
    rw [run_zoom]
    split <;> rfl
  | read32 addr =>
    change Keeps Machine.ctx (onMemory _) s
    unfold Keeps onMemory
    rw [run_zoom]
    split <;> rfl
  | setContext ctx => exact hr.elim
  | write8 addr v => exact hr.elim
  | write16 addr v => exact hr.elim
  | write32 addr v => exact hr.elim
  | trap vector => exact hr.elim

/-- Reading an operand leaves the context alone. -/
theorem readOperand_ctx {op : Operand} {v : U32} (h : runExec trap (readOperand op) s = .ok v s') :
    s'.ctx = s.ctx :=
  ((looking_readOperand op).keeps looks_keeps_ctx s).ok h

/-! ## Code in a bank -/

/-- A bank of memory with code at address 0x100. -/
def codeSpace (code : List U8) : AddressSpace Unit where
  regions := [⟨0, 0x4000000, .all, .ram 0 0⟩]
  rams := fun _ => ⟨kRamSizeRetail, fun offset => code.getD (offset - 0x100) (0 : U8)⟩
  devices := ()

/-- A context about to execute the code in the bank. -/
def codeContext (gpr : Reg32 → U32) : CpuContext := { gpr := gpr, eip := 0x100 }

/-- The instruction at the head of the code. -/
def decodedCode (code : List U8) (gpr : Reg32 → U32) (inst : DecodedInstruction)
    (h : outcome (decodeAt (codeContext gpr) 0x100 (codeSpace code)) = .ok inst) :
    Decoded (AddressSpace Unit) where
  ctx := codeContext gpr
  mem := codeSpace code
  inst := inst
  stream := stateAfter (decodeAt (codeContext gpr) 0x100 (codeSpace code))
  decodes := eq_ok_of_outcome h

/-- The registers with ten in EAX and three in EBX. -/
def tenByThree : Reg32 → U32 := fun reg => if reg = .eax then 10 else if reg = .ebx then 3 else 0

end Xblob.Analysis
