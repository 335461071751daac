import Xblob.Analysis.ExecutorRuns
import Xblob.Analysis.PreciseFaults
import Xblob.Interface.KernelRuns

/-!
# Steps into the kernel

The trap handler moves EIP before anything can fail, and the dispatcher stores the result before
it reads the return address; nothing takes either back.  What is proved is that a step that
faults never leaves the context as it was: EIP is still past the instruction, or the handler has
switched threads and EAX holds a value that is no ordinal.
-/

set_option autoImplicit false

namespace Xblob.Analysis

open Xblob.Computation Xblob.Interface Xblob.Kernel Xblob.Machine Xblob.Memory Xblob.Processor

variable {δ : Type}

/-! ## What a handler returns -/

/-- Whatever it is answered, what the handler returns is of `P`. -/
def Returns (P : U32 → CpuContext → Prop) (x : Guest Returned) : Prop :=
  x.Within (fun _ => True) fun r => ∀ v ctx kernel, r = some (v, ctx, kernel) → P v ctx

/-- EIP is where it was, or the value is one that threads are switched with, and no ordinal. -/
def Apart (cpu : CpuContext) (v : U32) (ctx : CpuContext) : Prop :=
  ctx.eip = cpu.eip ∨ v = kStatusSuccess ∨ v = kStatusUnsuccessful ∨ v = 1

section Rules

variable {α : Type} {cpu : CpuContext} {k : KernelState}

/-- What a handler returns is what its last part returns. -/
theorem returns_then {P : U32 → CpuContext → Prop} {x : Guest α} {f : α → Guest Returned}
    (hf : ∀ a, Returns P (f a)) : Returns P (x >>= f) :=
  Program.within_then hf

/-- A handler that fails returns nothing. -/
theorem apart_fail (e : Error) : Returns (Apart cpu) (Program.fail e) := trivial

/-- A handler may return nothing. -/
theorem apart_none : Returns (Apart cpu) (pure none) := by
  intro v ctx kernel h
  cases h

/-- A handler that leaves EIP keeps EIP or returns a value of a switch. -/
theorem apart_returned {ctx : CpuContext} (h : ctx.eip = cpu.eip) (r : U32 × KernelState) :
    Returns (Apart cpu) (returned ctx r) := by
  intro v ctx' kernel hr
  cases hr
  exact .inl h

/-- A handler that leaves the context keeps EIP or returns a value of a switch. -/
theorem apart_returnedBy (r : U32 × KernelHle) : Returns (Apart cpu) (returnedBy cpu k r) :=
  apart_returned rfl (r.1, { k with hle := r.2 })

/-- A handler that changes the context keeps EIP, or returns a value of a switch, where its
operation does. -/
theorem apart_returnedHle {r : U32 × CpuContext × KernelHle} (h : Apart cpu r.1 r.2.1) :
    Returns (Apart cpu) (returnedHle k r) := by
  intro v ctx kernel hr
  cases hr
  exact h

end Rules

section Switches

variable (k : KernelHle) (cpu : CpuContext)

/-- A context that is unchanged has its EIP. -/
theorem apart_refl (v : U32) : Apart cpu v cpu := .inl rfl

/-- A delay keeps EIP or returns a value of a switch. -/
theorem ntDelayExecution_apart (interval : U64) :
    Apart cpu (k.ntDelayExecution cpu interval).1 (k.ntDelayExecution cpu interval).2.1 := by
  unfold KernelHle.ntDelayExecution
  dsimp only
  split
  · exact apart_refl cpu _
  · exact .inr (.inl rfl)

/-- A wait for one object keeps EIP or returns a value of a switch. -/
theorem waitForSingleObject_apart (handle : GuestHandle) (timeoutMs : U32) :
    Apart cpu (k.waitForSingleObject cpu handle timeoutMs).1
      (k.waitForSingleObject cpu handle timeoutMs).2.1 := by
  unfold KernelHle.waitForSingleObject
  split
  · exact apart_refl cpu _
  · dsimp only
    split
    · exact apart_refl cpu _
    · split
      · exact apart_refl cpu _
      · exact .inr (.inl rfl)

/-- A wait for several objects keeps EIP or returns a value of a switch. -/
theorem waitForMultipleObjects_apart (handles : List GuestHandle) (waitAll : Bool)
    (timeoutMs : U32) :
    Apart cpu (k.waitForMultipleObjects cpu handles waitAll timeoutMs).1
      (k.waitForMultipleObjects cpu handles waitAll timeoutMs).2.1 := by
  unfold KernelHle.waitForMultipleObjects
  dsimp only
  split
  · exact apart_refl cpu _
  · split
    · exact apart_refl cpu _
    · exact .inr (.inl rfl)

/-- The exit of a thread keeps EIP or returns a value of a switch. -/
theorem exitThread_apart (exitCode : U32) :
    Apart cpu (k.exitThread cpu exitCode).1 (k.exitThread cpu exitCode).2.1 := by
  unfold KernelHle.exitThread
  split
  · exact apart_refl cpu _
  · exact .inr (.inl rfl)

/-- The termination of a thread keeps EIP or returns a value of a switch. -/
theorem ntTerminateThread_apart (handle : Option GuestHandle) (exitCode : U32) :
    Apart cpu (k.ntTerminateThread cpu handle exitCode).1
      (k.ntTerminateThread cpu handle exitCode).2.1 := by
  unfold KernelHle.ntTerminateThread
  split
  · exact exitThread_apart k cpu exitCode
  · split
    · exact exitThread_apart k cpu exitCode
    · split
      · exact apart_refl cpu _
      · exact apart_refl cpu _

end Switches

/-- Every export keeps EIP, or switches threads with a value that is no ordinal.  The text of each
handler is followed through its requests and cases to what it returns. -/
theorem registered_apart {e : ExportEntry} (he : e ∈ registeredExports) (cpu : CpuContext)
    (k : KernelState) : Returns (Apart cpu) (e.handler cpu k) := by
  have hall : ∀ e ∈ registeredExports, Returns (Apart cpu) (e.handler cpu k) := by
    simp only [registeredExports, List.forall_mem_cons, List.not_mem_nil, false_implies,
      implies_true, and_true]
    refine ⟨?_, ?_, ?_, ?_, ?_, ?_, ?_, ?_, ?_, ?_, ?_, ?_, ?_, ?_, ?_, ?_, ?_, ?_, ?_, ?_, ?_, ?_,
      ?_, ?_, ?_, ?_, ?_, ?_, ?_, ?_, ?_, ?_, ?_, ?_, ?_, ?_, ?_, ?_, ?_, ?_, ?_, ?_, ?_, ?_, ?_, ?_,
      ?_, ?_⟩
    all_goals
      repeat' first
        | refine returns_then fun _ => ?_
        | split
        | exact apart_returned rfl _
        | exact apart_returnedBy _
        | exact apart_fail _
        | exact apart_none
        | exact apart_returnedHle (ntDelayExecution_apart _ _ _)
        | exact apart_returnedHle (waitForSingleObject_apart _ _ _ _)
        | exact apart_returnedHle (waitForMultipleObjects_apart _ _ _ _ _)
        | exact apart_returnedHle (exitThread_apart _ _ _)
        | exact apart_returnedHle (ntTerminateThread_apart _ _ _ _)
        | exact apart_returnedHle (.inr (.inr (.inr rfl)))
  exact hall e he

/-- The values of a switch are no ordinals. -/
theorem ordinal_values {e : ExportEntry} (he : e ∈ registeredExports) :
    e.ordinal ≠ kStatusSuccess ∧ e.ordinal ≠ kStatusUnsuccessful ∧ e.ordinal ≠ 1 := by
  have hall : ∀ e ∈ registeredExports,
      e.ordinal ≠ kStatusSuccess ∧ e.ordinal ≠ kStatusUnsuccessful ∧ e.ordinal ≠ 1 := by
    simp [registeredExports, kStatusSuccess, kStatusUnsuccessful]
  exact hall e he

/-! ## The dispatcher -/

/-- An access of memory leaves the context alone, and is that of the memory. -/
theorem run_onSpace {α : Type} (f : EStateM Error (AddressSpace δ) α) (ctx : CpuContext)
    (mem : GuestWithKernel δ) :
    (onMemory (onSpace f)).run ⟨ctx, mem⟩ =
      match f.run mem.space with
      | .ok a space => .ok a ⟨ctx, { mem with space }⟩
      | .error e space => .error e ⟨ctx, { mem with space }⟩ := by
  unfold onMemory onSpace
  rw [run_zoom, run_zoom]
  cases f.run mem.space <;> rfl

section Dispatch

variable (ctx : CpuContext) (mem : GuestWithKernel δ) {ordinal : U32} {entry : ExportEntry}

/-- An ordinal that is not registered. -/
theorem dispatch_unregistered (h : findByOrdinal ordinal = none) :
    ∃ e space, (dispatchThunk ordinal).run ⟨ctx, mem⟩ = .error e ⟨ctx, { mem with space }⟩ := by
  unfold dispatchThunk
  rw [EStateM.run_bind, EStateM.run_get]
  dsimp only
  rw [h]
  dsimp only
  rw [EStateM.run_bind, run_onSpace]
  cases (recordArgs (ctx.gpr .esp) 0 8).run mem.space with
  | ok args space => exact ⟨_, _, rfl⟩
  | error e space => exact ⟨_, _, rfl⟩

/-- A registered ordinal, up to the handler. -/
theorem dispatch_registered (h : findByOrdinal ordinal = some entry) :
    (dispatchThunk ordinal).run ⟨ctx, mem⟩ =
      match ((entry.handler ctx mem.kernel).run answer).run mem.space with
      | .error e space => .error e ⟨ctx, { mem with space }⟩
      | .ok none space => .ok none ⟨ctx, { mem with space }⟩
      | .ok (some (v, ctx', kernel)) space =>
        match (AddressSpace.read32 (ctx'.gpr .esp)).run space with
        | .error e space => .error e ⟨ctx'.setGpr .eax v, ⟨space, kernel⟩⟩
        | .ok retAddr space =>
          .ok (some v) ⟨{ (ctx'.setGpr .eax v).setGpr .esp
            (ctx'.gpr .esp + 4 + BitVec.ofNat 32 (entry.paramCount * 4)) with eip := retAddr },
            ⟨space, kernel⟩⟩ := by
  unfold dispatchThunk
  rw [EStateM.run_bind, EStateM.run_get]
  dsimp only
  rw [h]
  dsimp only
  rw [EStateM.run_bind, run_onSpace]
  generalize ((entry.handler ctx mem.kernel).run answer).run mem.space = r
  rcases r with ⟨_ | ⟨v, ctx', kernel⟩, space⟩ | ⟨e, space⟩
  · rfl
  · dsimp only
    rw [EStateM.run_bind, EStateM.run_modify]
    dsimp only
    rw [EStateM.run_bind, run_onSpace]
    cases (AddressSpace.read32 (ctx'.gpr .esp)).run space <;> rfl
  · rfl

end Dispatch

/-! ## The step -/

section Step

variable (c : TrapStep δ)

/-- How the trap ends. -/
def dispatched : EStateM.Result Error (Machine (GuestWithKernel δ)) (Option U32) :=
  (dispatchThunk c.ordinal).run ⟨c.called, c.stream.mem⟩

/-- The trap handler, by how the dispatch ends. -/
theorem trap_run : (kernelTrap c.inst.intVector).run ⟨c.cpu.context, c.stream.mem⟩ =
    match dispatched c with
    | .ok _ s => .ok true s
    | .error e s => .error e s := by
  have hdispatched : (dispatchThunk (c.cpu.context.gpr .eax)).run
      ⟨{ c.cpu.context with eip := c.cpu.context.eip + 2 }, c.stream.mem⟩ = dispatched c := rfl
  unfold kernelTrap
  rw [c.vector, if_pos rfl, EStateM.run_bind, EStateM.run_get]
  dsimp only
  rw [EStateM.run_bind, EStateM.run_modify]
  dsimp only
  rw [EStateM.run_bind, hdispatched]
  cases dispatched c <;> rfl

/-- What the executor makes of it. -/
theorem exec_run : runExec (some kernelTrap) (Exec.execute c.inst c.cpu.context.eip)
    ⟨c.cpu.context, c.stream.mem⟩ =
      match dispatched c with
      | .ok _ s => .ok { branched := true, nextEip := s.ctx.eip } s
      | .error e s => .error e s := by
  have hexec : Exec.execute c.inst c.cpu.context.eip = (do
      let handled ← Exec.trap c.inst.intVector
      if handled then
        Exec.branchedToEip
      else
        Exec.deliverGate c.inst.intVector none true
          (c.cpu.context.eip + c.inst.length.setWidth 32)
        Exec.branchedToEip) := by
    unfold Exec.execute Exec.executeInterruptInstruction
    rw [c.id]
  rw [hexec]
  have htrap : (Exec.trap c.inst.intVector).run (Machine.answer (some kernelTrap)) =
      kernelTrap (δ := δ) c.inst.intVector :=
    Program.run_request (S := execSig) (.trap c.inst.intVector)
  unfold runExec
  rw [Program.run_bind, EStateM.run_bind, htrap, trap_run]
  cases dispatched c <;> rfl

/-- The step faults when the dispatcher does, with the context the dispatcher left. -/
theorem outcome_of_error {e : Error} {s : Machine (GuestWithKernel δ)}
    (h : dispatched c = .error e s) : c.Faults ∧ c.outcome.2.1.context = s.ctx := by
  have hexec := exec_run c
  rw [h] at hexec
  unfold TrapStep.Faults TrapStep.outcome step
  rw [c.running, c.quiet]
  dsimp only
  unfold stepInstruction
  dsimp only
  rw [c.decodes]
  dsimp only
  rw [hexec]
  obtain ⟨hfaulted, hcontext, -⟩ := executeFailed_leaves c.cpu c.cpu.context.eip c.inst s e
  exact ⟨hfaulted, hcontext⟩

/-- A dispatch that returns does not fault. -/
theorem outcome_of_ok {v : Option U32} {s : Machine (GuestWithKernel δ)}
    (h : dispatched c = .ok v s) : ¬ c.Faults := by
  have hexec := exec_run c
  rw [h] at hexec
  unfold TrapStep.Faults TrapStep.outcome step
  rw [c.running, c.quiet]
  dsimp only
  unfold stepInstruction
  dsimp only
  rw [c.decodes]
  dsimp only
  rw [hexec]
  exact commit_not_faulted _ _ _ _ _

/-- The instruction has a length. -/
theorem called_eip : c.called.eip ≠ c.cpu.context.eip := by
  change c.cpu.context.eip + 2 ≠ c.cpu.context.eip
  intro h
  have hnat := congrArg BitVec.toNat h
  have hlt : c.cpu.context.eip.toNat < 2 ^ 32 := c.cpu.context.eip.isLt
  rw [BitVec.toNat_add] at hnat
  change (c.cpu.context.eip.toNat + 2) % 2 ^ 32 = _ at hnat
  omega

/-- A step that faults has moved EIP or overwritten EAX. -/
theorem not_intact_of_error {e : Error} {s : Machine (GuestWithKernel δ)}
    (h : dispatched c = .error e s) : ¬ c.Intact := by
  obtain ⟨-, hcontext⟩ := outcome_of_error c h
  have hcalled : s.ctx = c.called → ¬ c.Intact := by
    intro hs hintact
    have heip := hintact.eip
    rw [hcontext, hs] at heip
    exact called_eip c heip
  unfold dispatched at h
  cases hfind : findByOrdinal c.ordinal with
  | none =>
    obtain ⟨e', mem', hrun⟩ := dispatch_unregistered c.called c.stream.mem hfind
    rw [hrun] at h
    cases h
    exact hcalled rfl
  | some entry =>
    have hmem : entry ∈ registeredExports := List.mem_of_find?_eq_some hfind
    have hordinal : entry.ordinal = c.ordinal := by
      simpa using List.find?_some hfind
    rw [dispatch_registered _ _ hfind] at h
    cases hhandler : ((entry.handler c.called c.stream.mem.kernel).run answer).run
        c.stream.mem.space with
    | error e' space =>
      rw [hhandler] at h
      cases h
      exact hcalled rfl
    | ok returned space =>
      have hreturns := Program.Within.returns (registered_apart hmem c.called c.stream.mem.kernel)
        hhandler
      rw [hhandler] at h
      rcases returned with _ | ⟨v, ctx, kernel⟩
      · cases h
      · dsimp only at h
        split at h
        · cases h
          intro hintact
          rcases hreturns v ctx kernel rfl with heip | hvalue
          · have hkept := hintact.eip
            rw [hcontext] at hkept
            exact called_eip c (heip.symm.trans hkept)
          · have heax := congrFun hintact.gpr .eax
            rw [hcontext] at heax
            change Function.update ctx.gpr .eax v .eax = c.ordinal at heax
            rw [Function.update_self, ← hordinal] at heax
            obtain ⟨hsuccess, hunsuccessful, hone⟩ := ordinal_values hmem
            rcases hvalue with rfl | rfl | rfl
            · exact hsuccess heax.symm
            · exact hunsuccessful heax.symm
            · exact hone heax.symm
        · cases h

/-- The call completes exactly where its dispatch returns. -/
theorem completes_iff : c.Completes ↔ ∃ v s, dispatched c = .ok v s := by
  unfold TrapStep.Completes TrapStep.handled dispatched
  constructor
  · rintro ⟨entry, returned, space, hfind, hhandler, hread⟩
    rw [dispatch_registered _ _ hfind, hhandler]
    rcases returned with _ | ⟨v, ctx, kernel⟩
    · exact ⟨_, _, rfl⟩
    · obtain ⟨retAddr, space', hread⟩ := hread v ctx kernel rfl
      dsimp only
      rw [hread]
      exact ⟨_, _, rfl⟩
  · rintro ⟨v, s, hrun⟩
    cases hfind : findByOrdinal c.ordinal with
    | none =>
      obtain ⟨e, mem', herror⟩ := dispatch_unregistered c.called c.stream.mem hfind
      rw [herror] at hrun
      cases hrun
    | some entry =>
      rw [dispatch_registered _ _ hfind] at hrun
      cases hhandler : ((entry.handler c.called c.stream.mem.kernel).run answer).run
          c.stream.mem.space with
      | error e space =>
        rw [hhandler] at hrun
        cases hrun
      | ok returned space =>
        refine ⟨entry, returned, space, rfl, hhandler, ?_⟩
        rintro v' ctx kernel rfl
        rw [hhandler] at hrun
        dsimp only at hrun
        cases hread : (AddressSpace.read32 (ctx.gpr .esp)).run space with
        | ok retAddr space' => exact ⟨retAddr, space', rfl⟩
        | error e space' =>
          rw [hread] at hrun
          cases hrun

/-- A step that faults leaves the context intact only where it does not fault. -/
theorem trap_intact_iff : (c.Faults → c.Intact) ↔ c.Completes := by
  rw [completes_iff]
  cases hrun : dispatched c with
  | ok v s => exact ⟨fun _ => ⟨v, s, rfl⟩, fun _ h => absurd h (outcome_of_ok c hrun)⟩
  | error e s =>
    obtain ⟨hfaults, -⟩ := outcome_of_error c hrun
    constructor
    · intro h
      exact absurd (h hfaults) (not_intact_of_error c hrun)
    · rintro ⟨v, s', h⟩
      cases h

end Step

/-! ## An ordinal without a handler -/

/-- The registers with 0xFFFF in EAX, where there is no export. -/
def ordinalFfff : Reg32 → U32 := fun reg => if reg = .eax then 0xFFFF else 0

/-- `INT 0x2D` in a bank of RAM, and a new kernel. -/
def trapMemory : GuestWithKernel Unit where
  space := codeSpace [0xCD, 0x2D]
  kernel := {}

/-- The code of the trap decodes to INT 2D. -/
theorem trap_decodes : outcome (decodeAt (codeContext ordinalFfff) 0x100 trapMemory) =
    .ok { id := .int, length := 2, cycles := Cycles.kInt, intVector := 0x2D } := by
  decide +kernel

/-- The step on an ordinal without a handler. -/
def unregisteredTrap : TrapStep Unit where
  poll := none
  cpu := { context := codeContext ordinalFfff }
  running := rfl
  quiet := rfl
  mem := trapMemory
  inst := { id := .int, length := 2, cycles := Cycles.kInt, intVector := 0x2D }
  stream := stateAfter (decodeAt (codeContext ordinalFfff) 0x100 trapMemory)
  decodes := eq_ok_of_outcome trap_decodes
  id := rfl
  vector := rfl

/-- The step faults with EIP behind the instruction. -/
theorem unregistered_trap_moves : unregisteredTrap.Faults ∧
    unregisteredTrap.outcome.2.1.context.eip = 0x102 ∧
    ¬ (unregisteredTrap.Faults → unregisteredTrap.Intact) := by
  have hfind : findByOrdinal unregisteredTrap.ordinal = none := by
    simp [findByOrdinal, registeredExports, unregisteredTrap, TrapStep.ordinal, codeContext,
      ordinalFfff]
  obtain ⟨e, mem, hrun⟩ := dispatch_unregistered unregisteredTrap.called unregisteredTrap.stream.mem
    hfind
  obtain ⟨hfaults, hcontext⟩ := outcome_of_error unregisteredTrap hrun
  refine ⟨hfaults, ?_, fun h => not_intact_of_error unregisteredTrap hrun (h hfaults)⟩
  rw [hcontext]
  rfl

end Xblob.Analysis
