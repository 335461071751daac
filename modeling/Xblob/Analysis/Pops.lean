import Xblob.Analysis.ExecutorRuns
import Xblob.Interface.Encodings

/-!
# POP and its destinations

The decoder resolves the destination with the old ESP, and the executor stores the dword
before it writes the incremented ESP.  Both come to the same as the right order unless the
destination is ESP itself or is addressed through it.
-/

set_option autoImplicit false

namespace Xblob.Analysis

open Xblob.Computation Xblob.Memory Xblob.Interface Xblob.Processor Xblob.Processor.Exec

/-! ## Addresses through ESP -/

/-- Index 4 alone is ESP. -/
theorem ofIndex_eq_esp {index : U8} (hlt : index.toNat < 8) :
    Reg32.ofIndex index = .esp ↔ index = 4 := by
  have hall : ∀ i : Fin 8, Reg32.ofIndex (BitVec.ofNat 8 i) = .esp ↔ BitVec.ofNat 8 i = (4 : U8) := by
    decide
  have hindex : index = BitVec.ofNat 8 index.toNat := by simp
  rw [hindex]
  exact hall ⟨index.toNat, hlt⟩

/-- A field of three bits is below eight. -/
theorem field_lt (b : U8) : (b &&& 7).toNat < 8 := by
  rw [BitVec.toNat_and]
  exact Nat.lt_of_le_of_lt Nat.and_le_right (by decide)

/-- A register other than ESP, after ESP has changed. -/
theorem gpr_setGpr_esp (ctx : CpuContext) (v : U32) {index : U8} (hlt : index.toNat < 8)
    (hindex : index ≠ 4) : (ctx.setGpr .esp v).gpr (.ofIndex index) = ctx.gpr (.ofIndex index) :=
  Function.update_of_ne (mt (ofIndex_eq_esp hlt).1 hindex) _ _

/-- The base register, set and read back. -/
theorem gpr_setGpr_base (ctx : CpuContext) (v : U32) : (ctx.setGpr .esp v).gpr .esp = v := by
  change Function.update ctx.gpr .esp v .esp = v
  exact Function.update_self ..

/-- ESP moved by four moves the address where it is the base. -/
theorem sibEffective_esp (ctx : CpuContext) (mod sib : U8) (bytes : List U8) :
    sibEffective (ctx.setGpr .esp (ctx.gpr .esp + 4)) mod (sib :: bytes) =
      sibEffective ctx mod (sib :: bytes) + if sib &&& 7 = 4 then 4 else 0 := by
  have hscaled : ∀ c : U32,
      (if (sib >>> 3) &&& 7 = 4 then (0 : U32)
        else (ctx.setGpr .esp (ctx.gpr .esp + 4)).gpr (.ofIndex ((sib >>> 3) &&& 7)) * c) =
      if (sib >>> 3) &&& 7 = 4 then (0 : U32) else ctx.gpr (.ofIndex ((sib >>> 3) &&& 7)) * c := by
    intro c
    split
    · rfl
    · rw [gpr_setGpr_esp ctx _ (field_lt _) ‹_›]
  unfold sibEffective
  dsimp only
  rw [hscaled]
  by_cases hfive : sib &&& 7 = 5 ∧ mod = 0
  · have hbase : ¬ sib &&& 7 = 4 := by
      rw [hfive.1]
      decide
    rw [if_pos hfive, if_pos hfive, if_neg hbase]
    exact (BitVec.add_zero _).symm
  · rw [if_neg hfive, if_neg hfive]
    by_cases hbase : sib &&& 7 = 4
    · rw [if_pos hbase, hbase, show Reg32.ofIndex 4 = .esp from rfl, gpr_setGpr_base]
      ac_rfl
    · rw [if_neg hbase, gpr_setGpr_esp ctx _ (field_lt _) hbase]
      exact (BitVec.add_zero _).symm

/-- Incrementing ESP moves an address by four if it counts from ESP, and not at all if not. -/
theorem effectiveAddress_esp (ctx : CpuContext) {modrm : U8} (hmem : modField modrm ≠ 3)
    (bytes : List U8) :
    effectiveAddress (ctx.setGpr .esp (ctx.gpr .esp + 4)) (modrm :: bytes) =
      effectiveAddress ctx (modrm :: bytes) + if throughEsp (modrm :: bytes) then 4 else 0 := by
  unfold effectiveAddress
  dsimp only
  by_cases hsib : rmField modrm = 4
  · rw [if_pos hsib, if_pos hsib]
    cases bytes with
    | nil => rfl
    | cons sib bytes =>
      have hthrough : throughEsp (modrm :: sib :: bytes) = decide (sib &&& 7 = 4) :=
        decide_eq_decide.2 ⟨fun h => h.2.2, fun h => ⟨hmem, hsib, h⟩⟩
      rw [sibEffective_esp, hthrough]
      simp only [decide_eq_true_eq]
  · have hthrough : throughEsp (modrm :: bytes) = false := by
      cases bytes with
      | nil => rfl
      | cons sib bytes => exact decide_eq_false fun h => hsib h.2.1
    have hbase := gpr_setGpr_esp ctx (ctx.gpr .esp + 4) (field_lt modrm) hsib
    rw [if_neg hsib, if_neg hsib, hthrough, rmField, hbase]
    exact (BitVec.add_zero _).symm

/-! ## The decoded instruction -/

section Step

variable {M : Type} [GuestMemory M]

/-- The operand the decoder makes of a destination: an address counts from the old ESP. -/
def popOperand (ctx : CpuContext) : PopDestination → Operand
  | .register reg => .makeReg reg
  | .memory modrm => .makeMem (effectiveAddress ctx modrm)

/-- A destination in memory has a ModRM byte that says so. -/
def InMemory : PopDestination → Prop
  | .register _ => True
  | .memory modrm => ∃ m rest, modrm = m :: rest ∧ modField m ≠ 3

/-- The destination of POP with a ModRM byte. -/
theorem popDestination_modrm (modrm : U8) (rest : List U8) :
    popDestination (0x8F :: modrm :: rest) =
      if modField modrm = 3 then .register (.ofIndex (rmField modrm)) else .memory (modrm :: rest) :=
  rfl

/-- The alternatives at `58+r`. -/
theorem pop_register {ctx : CpuContext} {eip : GuestAddr} {s s' : InstructionStream M}
    {opcode : U8} {inst₀ : DecodedInstruction} (hop : isPop opcode = true) (hne : opcode ≠ 0x8F)
    (h : decoding (Decoding.firstOf (alternatives opcode eip ctx)) s = .ok (some inst₀) s') :
    inst₀.id = .pop ∧ inst₀.op1 = .makeReg (.ofIndex (opcode - 0x58)) ∧ s' = s := by
  have hshape : ∃ cycles next, Decoding.firstOf (alternatives opcode eip ctx) =
      Decoding.found { id := .pop, op1 := .makeReg (.ofIndex (opcode - 0x58)), cycles := cycles } >>=
        next ∧ ∀ inst, next (some inst) = pure (some inst) := by
    unfold isPop at hop
    simp only [List.contains_iff_mem, List.mem_cons, List.not_mem_nil, or_false] at hop
    obtain rfl | rfl | rfl | rfl | rfl | rfl | rfl | rfl | rfl := hop
    all_goals first
      | exact ⟨_, _, rfl, fun _ => rfl⟩
      | contradiction
  obtain ⟨cycles, next, heq, hnext⟩ := hshape
  rw [heq] at h
  obtain ⟨o, s₁, hfound, hrest⟩ := decoding_bind_ok h
  obtain ⟨length, ho, hs⟩ := decoding_found hfound
  rw [ho, hnext, hs] at hrest
  obtain ⟨hsome, hend⟩ := decoding_pure_ok hrest
  cases hsome
  exact ⟨rfl, rfl, hend⟩

/-- The alternatives at `8F`. -/
theorem pop_modrm {ctx : CpuContext} {eip : GuestAddr} {s s' : InstructionStream M}
    {inst₀ : DecodedInstruction}
    (h : decoding (Decoding.firstOf (alternatives 0x8F eip ctx)) s = .ok (some inst₀) s') :
    ∃ modrm after, s'.rawBytes = s.rawBytes ++ modrm :: after ∧ inst₀.id = .pop ∧
      inst₀.op1 = modRmOperand ctx 4 modrm after := by
  have hshape : ∃ next, Decoding.firstOf (alternatives 0x8F eip ctx) =
      Decoding.decodeControl 0x8F eip ctx >>= next ∧ ∀ inst, next (some inst) = pure (some inst) :=
    ⟨_, rfl, fun _ => rfl⟩
  obtain ⟨next, heq, hnext⟩ := hshape
  rw [heq] at h
  obtain ⟨o, s₁, hcontrol, hrest⟩ := decoding_bind_ok h
  obtain ⟨⟨op1, reg⟩, s₂, hmodrm, hcontrol⟩ :=
    decoding_bind_ok (x := Decoding.parseModRm ctx) hcontrol
  obtain ⟨modrm, after, hraw, -, hop1⟩ := parseModRm_taken hmodrm
  dsimp only at hcontrol
  split at hcontrol
  · cases hcontrol
  · obtain ⟨length, ho, hs⟩ := decoding_found hcontrol
    rw [ho, hnext, hs] at hrest
    obtain ⟨hsome, hend⟩ := decoding_pure_ok hrest
    cases hsome
    refine ⟨modrm, after, by rw [hend, hraw], rfl, ?_⟩
    have hnone := hop1 []
    rw [List.append_nil] at hnone
    exact hnone

variable (p : PopStep M)

/-- The instruction of a step over a POP. -/
theorem popStep_decoded :
    p.inst.id = .pop ∧ p.inst.op1 = popOperand p.ctx (popDestination p.bytes) ∧
      InMemory (popDestination p.bytes) := by
  obtain ⟨px, inst₀, s₁, after, hraw, hbytes, hfirst, hinst⟩ :=
    decoded_recognised p.toDecoded p.hasOpcode
  by_cases hop : p.opcode = 0x8F
  · rw [hop] at hfirst hbytes
    obtain ⟨modrm, rest, hraw', hid, hop1⟩ := pop_modrm hfirst
    have hafter : after = modrm :: rest := List.append_cancel_left (hraw.symm.trans hraw')
    rw [hinst, hbytes, hafter, popDestination_modrm]
    refine ⟨hid, ?_⟩
    dsimp only
    rw [hop1, modRmOperand]
    split
    · exact ⟨rfl, trivial⟩
    · exact ⟨rfl, modrm, rest, rfl, ‹_›⟩
  · obtain ⟨hid, hop1, hend⟩ := pop_register p.pop hop hfirst
    have hafter : after = [] := by
      rw [hend] at hraw
      exact List.append_cancel_left (hraw.symm.trans (List.append_nil _).symm)
    rw [hinst, hbytes, hafter]
    exact ⟨hid, hop1, trivial⟩

/-! ## The executed instruction -/

/-- The POP of the executor. -/
def popBody (op : Operand) : Exec ExecutionResult := do
  let ctx ← context
  let esp := ctx.gpr .esp
  let val ← read32 esp
  writeOperand op val
  modifyContext fun ctx => ctx.setGpr .esp (esp + 4)
  pure {}

/-- POP is executed by its body. -/
theorem execute_pop {inst : DecodedInstruction} (hid : inst.id = .pop) (eip : U32) :
    execute inst eip = popBody inst.op1 := by
  unfold execute executeStack popBody
  rw [hid]

/-- A successful POP has read the dword, stored it, and then moved ESP. -/
theorem popBody_ok {trap : Option (TrapHandler M)} {op : Operand} {s s' : Machine M}
    {r : ExecutionResult} (h : runExec trap (popBody op) s = .ok r s') :
    r = {} ∧ ∃ dword memRead s₂, (GuestMemory.read32 (s.ctx.gpr .esp)).run s.mem = .ok dword memRead ∧
      runExec trap (writeOperand op dword) ⟨s.ctx, memRead⟩ = .ok () s₂ ∧
      s' = { s₂ with ctx := s₂.ctx.setGpr .esp (s.ctx.gpr .esp + 4) } := by
  obtain ⟨ctx, s₀, hctx, h⟩ := exec_bind_ok h
  cases hctx
  obtain ⟨dword, s₁, hread, h⟩ := exec_bind_ok h
  obtain ⟨_, s₂, hwrite, h⟩ := exec_bind_ok h
  obtain ⟨_, s₃, hmodify, h⟩ := exec_bind_ok h
  cases hmodify
  obtain ⟨hr, hend⟩ := exec_pure_ok h
  unfold runExec at hread
  rw [run_read32, onMemory, run_zoom] at hread
  split at hread
  · rename_i a t heq
    cases hread
    exact ⟨hr, dword, t, s₂, heq, hwrite, hend⟩
  · cases hread

/-- A successful step executed the POP and committed it. -/
theorem popStep_executed :
    ∃ s, runExec p.trap (popBody p.inst.op1) p.machine = .ok {} s ∧
      p.after.context = { s.ctx with eip := p.ctx.eip + p.inst.length.setWidth 32 } ∧
      p.memAfter = s.mem := by
  have hstep := p.steps
  have hsucceeds := p.succeeds
  unfold step at hstep
  rw [p.running] at hstep
  dsimp only at hstep
  rw [p.quiet] at hstep
  dsimp only at hstep
  unfold stepInstruction at hstep
  dsimp only at hstep
  rw [p.atContext, p.decodes] at hstep
  dsimp only at hstep
  rw [execute_pop (popStep_decoded p).1] at hstep
  cases hexec : runExec p.trap (popBody p.inst.op1) p.machine with
  | error e s =>
    rw [show runExec p.trap (popBody p.inst.op1) ⟨p.ctx, p.stream.mem⟩ = .error e s from hexec]
      at hstep
    dsimp only at hstep
    unfold executeFailed at hstep
    dsimp only at hstep
    split at hstep
    all_goals
      have hfirst : _ = p.outcome := congrArg Prod.fst hstep
      rw [← hfirst] at hsucceeds
      cases hsucceeds
  | ok r s =>
    obtain ⟨rfl, -⟩ := popBody_ok hexec
    rw [show runExec p.trap (popBody p.inst.op1) ⟨p.ctx, p.stream.mem⟩ = .ok {} s from hexec]
      at hstep
    exact ⟨s, rfl, (congrArg (fun t => t.2.1.context) hstep).symm,
      (congrArg (fun t => t.2.2) hstep).symm⟩

/-! ## The destinations -/

variable {p}

/-- Two registers are set in either order. -/
theorem setGpr_comm (ctx : CpuContext) {a b : Reg32} (hne : a ≠ b) (v w : U32) :
    (ctx.setGpr a v).setGpr b w = (ctx.setGpr b w).setGpr a v := by
  unfold CpuContext.setGpr
  dsimp only
  rw [Function.update_comm hne]

/-- A register set twice has the second value. -/
theorem setGpr_twice (ctx : CpuContext) (a : Reg32) (v w : U32) :
    (ctx.setGpr a v).setGpr a w = ctx.setGpr a w := by
  unfold CpuContext.setGpr
  dsimp only
  rw [Function.update_idem]

/-- A context behind the instruction. -/
def behind (p : PopStep M) (ctx : CpuContext) : CpuContext :=
  { ctx with eip := p.ctx.eip + p.inst.length.setWidth 32 }

/-- **POP is exact** for every destination but ESP and the addresses that count from it; for these
it is exact where the difference cannot be seen. -/
theorem pop_exact_iff (p : PopStep M) : p.Exact ↔ p.Indifferent (popDestination p.bytes) := by
  obtain ⟨s, hexec, hafter, hmem⟩ := popStep_executed p
  obtain ⟨-, hop, hin⟩ := popStep_decoded p
  obtain ⟨-, dword, memRead, s₂, hread, hwrite, rfl⟩ := popBody_ok hexec
  have hpops : p.Pops dword memRead := hread
  have hunique : ∀ {dword' memRead'}, p.Pops dword' memRead' → dword' = dword ∧ memRead' = memRead := by
    intro dword' memRead' h
    have heq := h.symm.trans hpops
    cases heq
    exact ⟨rfl, rfl⟩
  have hexact : p.Exact ↔ p.Stores dword memRead (popDestination p.bytes) := by
    constructor
    · rintro ⟨dword', memRead', h, hstores⟩
      obtain ⟨rfl, rfl⟩ := hunique h
      exact hstores
    · exact fun h => ⟨dword, memRead, hpops, h⟩
  rw [hexact]
  cases hdest : popDestination p.bytes with
  | register reg =>
    rw [hop, hdest] at hwrite
    cases hwrite
    have hleft : p.after.context =
        behind p ((p.ctx.setGpr reg dword).setGpr .esp (p.esp + 4)) := hafter
    have hright : p.incremented.setGpr reg dword =
        behind p ((p.ctx.setGpr .esp (p.esp + 4)).setGpr reg dword) := rfl
    change p.after.context = p.incremented.setGpr reg dword ∧ p.memAfter = memRead ↔ _
    rw [and_iff_left hmem, hleft, hright]
    by_cases hreg : reg = .esp
    · subst hreg
      rw [setGpr_twice, setGpr_twice]
      constructor
      · intro heq _ dword' memRead' hpops'
        rw [(hunique hpops').1]
        have hesp := congrArg (fun c : CpuContext => c.gpr .esp) heq
        change (p.ctx.setGpr .esp (p.esp + 4)).gpr .esp = (p.ctx.setGpr .esp dword).gpr .esp at hesp
        rw [gpr_setGpr_base, gpr_setGpr_base] at hesp
        exact hesp.symm
      · intro h
        rw [h rfl dword memRead hpops]
    · refine ⟨fun _ h => absurd h hreg, fun _ => ?_⟩
      rw [setGpr_comm p.ctx hreg]
  | memory modrm =>
    rw [hdest] at hin
    obtain ⟨m, rest, rfl, hmod⟩ := hin
    rw [hop, hdest] at hwrite
    change runExec p.trap (write32 (effectiveAddress p.ctx (m :: rest)) dword) _ = _ at hwrite
    unfold runExec at hwrite
    rw [run_write32, onMemory, run_zoom] at hwrite
    split at hwrite
    · rename_i u memAfter hstored
      cases hwrite
      have hleft : p.after.context = p.incremented := hafter
      have haddress : effectiveAddress p.incremented (m :: rest) =
          effectiveAddress p.ctx (m :: rest) + if throughEsp (m :: rest) then 4 else 0 :=
        effectiveAddress_esp p.ctx hmod rest
      change p.after.context = p.incremented ∧
        (GuestMemory.write32 (effectiveAddress p.incremented (m :: rest)) dword).run memRead =
          .ok () p.memAfter ↔ _
      rw [and_iff_right hleft, haddress, hmem]
      by_cases hthrough : throughEsp (m :: rest) = true
      · rw [if_pos hthrough]
        constructor
        · intro h _ dword' memRead' hpops'
          obtain ⟨rfl, rfl⟩ := hunique hpops'
          exact hstored.trans h.symm
        · exact fun h => (h hthrough dword memRead hpops).symm.trans hstored
      · refine ⟨fun _ h => absurd h hthrough, fun _ => ?_⟩
        rw [if_neg hthrough]
        have hzero : effectiveAddress p.ctx (m :: rest) + 0 = effectiveAddress p.ctx (m :: rest) :=
          BitVec.add_zero _
        rw [hzero]
        exact hstored
    · cases hwrite

end Step

/-! ## POP ESP -/

/-- The registers with ESP at a dword of zero. -/
def espAtZero : Reg32 → U32 := fun reg => if reg = .esp then 0x200 else 0

/-- The code of POP ESP decodes to it. -/
theorem popEsp_decodes :
    outcome (decodeAt (codeContext espAtZero) 0x100 (codeSpace [0x5C])) =
      .ok { id := .pop, length := 1, op1 := .makeReg .esp } := by
  decide +kernel

/-- `POP ESP`. -/
def popEsp : Decoded (AddressSpace Unit) := decodedCode [0x5C] espAtZero _ popEsp_decodes

/-- `POP ESP` of the dword zero at 0x200 leaves 0x204 in ESP. -/
theorem pop_esp_not_exact :
    ∃ p : PopStep (AddressSpace Unit), p.mem = codeSpace [0x5C] ∧ p.esp = 0x200 ∧
      p.after.context.gpr .esp = 0x204 ∧ ¬ p.Exact := by
  have hop : popEsp.bytes.head? = some 0x5C := by decide +kernel
  have hstep : (step none none { context := popEsp.ctx } popEsp.mem).1.result = .ok := by
    decide +kernel
  have hesp : (step none none { context := popEsp.ctx } popEsp.mem).2.1.context.gpr .esp = 0x204 := by
    decide +kernel
  have hbytes : popDestination popEsp.bytes = .register .esp := by
    have hall : popEsp.bytes = [0x5C] := by decide +kernel
    rw [hall]
    rfl
  have hread : outcome ((GuestMemory.read32 0x200).run popEsp.stream.mem) = .ok 0 := by
    decide +kernel
  let p : PopStep (AddressSpace Unit) :=
    { toDecoded := popEsp
      opcode := 0x5C
      pop := rfl
      hasOpcode := hop
      poll := none
      trap := none
      cpu := { context := popEsp.ctx }
      running := rfl
      quiet := rfl
      atContext := rfl
      outcome := (step none none { context := popEsp.ctx } popEsp.mem).1
      after := (step none none { context := popEsp.ctx } popEsp.mem).2.1
      memAfter := (step none none { context := popEsp.ctx } popEsp.mem).2.2
      steps := rfl
      succeeds := hstep }
  refine ⟨p, rfl, rfl, hesp, ?_⟩
  rintro ⟨dword, memRead, hpops, hstores⟩
  have hdword : (EStateM.Result.ok dword memRead : EStateM.Result Error _ U32) =
      .ok 0 (stateAfter ((GuestMemory.read32 0x200).run popEsp.stream.mem)) :=
    hpops.symm.trans (eq_ok_of_outcome hread)
  cases hdword
  change p.Stores 0 _ (popDestination popEsp.bytes) at hstores
  rw [hbytes] at hstores
  have hleft := congrArg (fun c : CpuContext => c.gpr .esp) hstores.1
  change p.after.context.gpr .esp = (p.incremented.setGpr .esp 0).gpr .esp at hleft
  rw [show p.after.context.gpr .esp = 0x204 from hesp, gpr_setGpr_base] at hleft
  cases hleft

end Xblob.Analysis
