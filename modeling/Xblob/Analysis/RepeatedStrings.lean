import Xblob.Analysis.PreciseFaults
import Xblob.Interface.RepeatedStrings

/-!
# Repeated string instructions run their loop

The processor executes one element of a repeated string instruction a step and leaves EIP
at the instruction while elements are left.  The proof has three parts: the instruction's
bytes decode to the string operation, executing it is one element of the loop, and an
element that is stored away from the instruction leaves its bytes in place, so that the
next step executes the next element.
-/

set_option autoImplicit false

namespace Xblob.Analysis

open Xblob.Computation Xblob.Computation.Program Xblob.Memory Xblob.Memory.AddressSpace
  Xblob.Interface Xblob.Processor Xblob.Processor.Exec

variable {δ : Type}

/-! ## Decoding -/

/-- The instruction the decoder makes of the two bytes. -/
def decodedString (i : RepString) : DecodedInstruction where
  id := match i.op with
    | .movs => .movs
    | .stos => .stos
    | .lods => .lods
    | .scas => .scas
    | .cmps => .cmps
  length := 2
  cycles := Cycles.kStringOp
  dataSize := if i.byteForm then 1 else 4
  rep := !i.repne
  repne := i.repne

/-- A byte of the stream, where it can be fetched. -/
theorem nextByte_ok {eip : GuestAddr} {space : AddressSpace δ} {raw : List U8} {b : U8}
    (hlen : raw.length < 15)
    (h : (AddressSpace.fetch8 (eip + BitVec.ofNat 32 raw.length)).run space = .ok b space) :
    (InstructionStream.nextByte (M := AddressSpace δ)).run ⟨space, eip, raw⟩ =
      .ok b ⟨space, eip, raw ++ [b]⟩ := by
  have hlen' : ¬ raw.length ≥ 15 := by omega
  unfold InstructionStream.nextByte
  simp [hlen', asDecodeError, GuestMemory.fetch8, h]

/-- The two bytes, given to the decoder. -/
theorem decode_asks (i : RepString) (ctx : CpuContext) (eip : GuestAddr) :
    ∃ k : U8 → Decoding DecodedInstruction, Decoding.decode ctx eip = .ask .nextByte k ∧
      ∃ k' : U8 → Decoding DecodedInstruction, k i.repeatByte = .ask .nextByte k' ∧
        k' i.opcode = .ask .rawBytes fun bytes =>
          .done { decodedString i with length := BitVec.ofNat 8 bytes.length } := by
  refine ⟨_, rfl, ?_⟩
  obtain ⟨op, byteForm, repne⟩ := i
  cases repne
  · refine ⟨_, rfl, ?_⟩
    cases op <;> cases byteForm <;> rfl
  · refine ⟨_, rfl, ?_⟩
    cases op <;> cases byteForm <;> rfl

/-- A string instruction in memory decodes. -/
theorem decodeAt_string {i : RepString} {eip : GuestAddr} {space : AddressSpace δ}
    (h : InstructionAt i eip space) (ctx : CpuContext) :
    outcome (decodeAt ctx eip space) = .ok (decodedString i) := by
  obtain ⟨k, hk, k', hk', hdone⟩ := decode_asks i ctx eip
  have hfirst : (InstructionStream.answer (M := AddressSpace δ) .nextByte).run ⟨space, eip, []⟩ =
      .ok i.repeatByte ⟨space, eip, [i.repeatByte]⟩ := by
    apply nextByte_ok (by simp)
    rw [show eip + BitVec.ofNat 32 ([] : List U8).length = eip from BitVec.add_zero eip]
    exact h.first
  have hsecond : (InstructionStream.answer (M := AddressSpace δ) .nextByte).run
      ⟨space, eip, [i.repeatByte]⟩ = .ok i.opcode ⟨space, eip, [i.repeatByte, i.opcode]⟩ :=
    nextByte_ok (by simp) h.second
  unfold decodeAt
  rw [hk, Program.run, EStateM.run_bind, hfirst]
  dsimp only
  rw [hk', Program.run, EStateM.run_bind, hsecond]
  dsimp only
  rw [hdone]
  rfl

/-! ## One element -/

section Element

variable {M : Type} {α β : Type}

/-- A value returned on the memory is returned. -/
theorem onMemory_pure (a : α) : onMemory (pure a : EStateM Error M α) = pure a := rfl

/-- A sequence on the memory is one of the machine. -/
theorem onMemory_bind (f : EStateM Error M α) (g : α → EStateM Error M β) :
    onMemory (f >>= g) = onMemory f >>= fun a => onMemory (g a) := by
  funext s
  change EStateM.run _ s = EStateM.run _ s
  unfold onMemory
  rw [run_zoom, EStateM.run_bind, EStateM.run_bind, run_zoom]
  cases f.run s.mem with
  | ok a m => rfl
  | error e m => rfl

end Element

/-- A byte widened and cut is itself. -/
theorem setWidth_byte (v : U8) : (v.setWidth 32 : U32).setWidth 8 = v := by
  simp

variable (trap : Option (TrapHandler (AddressSpace δ)))

/-- Copying an element, run. -/
theorem run_copyElement (i : RepString) (src dst : GuestAddr) :
    (copyElement i.byteForm src dst).run (Machine.answer trap) =
      (onMemory (i.load src) >>= fun v => onMemory (i.store dst v) :
        EStateM Error (Machine (AddressSpace δ)) Unit) := by
  unfold copyElement RepString.load RepString.store
  cases i.byteForm with
  | true =>
    simp only [if_true, Program.run_bind, run_read8, run_write8, onMemory_bind, onMemory_pure,
      bind_assoc, pure_bind, setWidth_byte]
    rfl
  | false =>
    simp only [Bool.false_eq_true, if_false, Program.run_bind, run_read32, run_write32]
    rfl

/-- Storing an element, run. -/
theorem run_storeElement (i : RepString) (ctx : CpuContext) (dst : GuestAddr) :
    (storeElement i.byteForm ctx dst).run (Machine.answer trap) =
      (onMemory (i.store dst (i.accumulator ctx)) : EStateM Error (Machine (AddressSpace δ)) Unit) := by
  unfold storeElement RepString.store RepString.accumulator
  cases i.byteForm with
  | true =>
    simp only [if_true, run_write8, setWidth_byte]
    rfl
  | false =>
    simp only [Bool.false_eq_true, if_false, run_write32]
    rfl

/-- Loading an element, run. -/
theorem run_loadElement (i : RepString) (ctx : CpuContext) (src : GuestAddr) :
    (loadElement i.byteForm ctx src).run (Machine.answer trap) =
      (onMemory (i.load src) >>= fun v => pure (i.setAccumulator ctx v) :
        EStateM Error (Machine (AddressSpace δ)) CpuContext) := by
  unfold loadElement RepString.load RepString.setAccumulator
  cases i.byteForm with
  | true =>
    simp only [if_true, Program.run_bind, run_read8, run_pure, onMemory_bind, onMemory_pure,
      bind_assoc, pure_bind, setWidth_byte]
    rfl
  | false =>
    simp only [Bool.false_eq_true, if_false, Program.run_bind, run_read32, run_pure]
    rfl

/-- Scanning an element, run. -/
theorem run_scanElement (i : RepString) (ctx : CpuContext) (dst : GuestAddr) :
    (scanElement i.byteForm ctx dst).run (Machine.answer trap) =
      (onMemory (i.load dst) >>= fun v => pure (i.compared ctx (i.accumulator ctx) v).eflags :
        EStateM Error (Machine (AddressSpace δ)) U32) := by
  unfold scanElement RepString.load RepString.compared RepString.accumulator
  cases i.byteForm with
  | true =>
    simp only [if_true, Program.run_bind, run_read8, run_pure, onMemory_bind, onMemory_pure,
      bind_assoc, pure_bind, setWidth_byte]
    rfl
  | false =>
    simp only [Bool.false_eq_true, if_false, Program.run_bind, run_read32, run_pure]
    rfl

/-- Comparing elements, run. -/
theorem run_compareElements (i : RepString) (ctx : CpuContext) (s1 s2 : GuestAddr) :
    (compareElements i.byteForm ctx s1 s2).run (Machine.answer trap) =
      (onMemory (i.load s1) >>= fun a => onMemory (i.load s2) >>= fun b =>
        pure (i.compared ctx a b).eflags : EStateM Error (Machine (AddressSpace δ)) U32) := by
  unfold compareElements RepString.load RepString.compared
  cases i.byteForm with
  | true =>
    simp only [if_true, Program.run_bind, run_read8, run_pure, onMemory_bind, onMemory_pure,
      bind_assoc, pure_bind, setWidth_byte]
    rfl
  | false =>
    simp only [Bool.false_eq_true, if_false, Program.run_bind, run_read32, run_pure]
    rfl

/-- The stride of a decoded instruction. -/
theorem stringStep_decoded (i : RepString) (ctx : CpuContext) :
    stringStep (decodedString i) ctx = i.stride ctx := by
  obtain ⟨op, byteForm, repne⟩ := i
  cases byteForm <;> rfl

/-- The width of a decoded instruction. -/
theorem byteForm_decoded (i : RepString) :
    decide ((decodedString i).dataSize = 1) = i.byteForm := by
  obtain ⟨op, byteForm, repne⟩ := i
  cases byteForm <;> rfl

/-- The stop of a decoded instruction: ZF against its prefix. -/
theorem stopsRepeat_decoded (i : RepString) (ctx : CpuContext) :
    stopsRepeat (decodedString i) ctx.eflags = (ctx.getFlag kFlagZF == i.repne) := by
  obtain ⟨op, byteForm, repne⟩ := i
  unfold stopsRepeat CpuContext.getFlag decodedString
  cases repne <;> simp

/-- A comparing instruction breaks off by ZF and its prefix. -/
theorem breaks_compare {i : RepString} (h : i.op = .scas ∨ i.op = .cmps) (ctx : CpuContext) :
    i.breaks ctx = (ctx.getFlag kFlagZF == i.repne) := by
  unfold RepString.breaks
  rcases h with h | h
  · simp [h]
  · simp [h]

/-- What the executor does for an element, before counting it, is what the loop does. -/
theorem run_stringElement (i : RepString) (s : Machine (AddressSpace δ)) :
    ((stringElement (decodedString i) s.ctx).run (Machine.answer trap)).run s =
      match i.act.run s with
      | .ok _ s' => .ok (i.breaks s'.ctx) s'
      | .error e s' => .error e s' := by
  unfold stringElement RepString.act
  dsimp only
  rw [stringStep_decoded, byteForm_decoded, EStateM.run_bind, EStateM.run_get]
  dsimp only
  cases hop : i.op with
  | movs =>
    have hid : (decodedString i).id = .movs := by simp [decodedString, hop]
    rw [hid]
    simp only [Program.run_bind, run_copyElement, EStateM.run_bind]
    cases (onMemory (i.load (s.ctx.gpr .esi))).run s with
    | error e s₁ => rfl
    | ok v s₁ =>
      dsimp only
      cases (onMemory (i.store (s.ctx.gpr .edi) v)).run s₁ with
      | error e s₂ => rfl
      | ok u s₂ =>
        simp [RepString.advanced, RepString.breaks, hop, CpuContext.setGpr]
  | stos =>
    have hid : (decodedString i).id = .stos := by simp [decodedString, hop]
    rw [hid]
    simp only [Program.run_bind, run_storeElement, EStateM.run_bind]
    cases (onMemory (i.store (s.ctx.gpr .edi) (i.accumulator s.ctx))).run s with
    | error e s₁ => rfl
    | ok u s₁ => simp [RepString.advanced, RepString.breaks, hop, CpuContext.setGpr]
  | lods =>
    have hid : (decodedString i).id = .lods := by simp [decodedString, hop]
    have hesi : ∀ v, (i.setAccumulator s.ctx v).gpr .esi = s.ctx.gpr .esi := by
      intro v
      unfold RepString.setAccumulator
      split_ifs <;> rfl
    rw [hid]
    simp only [Program.run_bind, run_loadElement, EStateM.run_bind]
    cases (onMemory (i.load (s.ctx.gpr .esi))).run s with
    | error e s₁ => rfl
    | ok v s₁ => simp [RepString.advanced, RepString.breaks, hop, hesi]
  | scas =>
    have hid : (decodedString i).id = .scas := by simp [decodedString, hop]
    rw [hid]
    simp only [Program.run_bind, run_scanElement, EStateM.run_bind]
    cases (onMemory (i.load (s.ctx.gpr .edi))).run s with
    | error e s₁ => rfl
    | ok v s₁ =>
      have hstop := stopsRepeat_decoded i (i.compared s.ctx (i.accumulator s.ctx) v)
      exact congrArg₂ EStateM.Result.ok (hstop.trans (breaks_compare (.inl hop) _).symm) rfl
  | cmps =>
    have hid : (decodedString i).id = .cmps := by simp [decodedString, hop]
    rw [hid]
    simp only [Program.run_bind, run_compareElements, EStateM.run_bind]
    cases (onMemory (i.load (s.ctx.gpr .esi))).run s with
    | error e s₁ => rfl
    | ok a s₁ =>
      dsimp only
      cases (onMemory (i.load (s.ctx.gpr .edi))).run s₁ with
      | error e s₂ => rfl
      | ok b s₂ =>
        have hstop := stopsRepeat_decoded i (i.compared s.ctx a b)
        exact congrArg₂ EStateM.Result.ok (hstop.trans (breaks_compare (.inr hop) _).symm) rfl

/-- The result of an executed element: the instruction is resumed while it has elements left. -/
def elementResult (i : RepString) (eip : U32) (ctx : CpuContext) : ExecutionResult :=
  if 0 < ctx.gpr .ecx ∧ i.breaks ctx = false then { branched := true, nextEip := eip } else {}

/-- A decoded instruction has a prefix. -/
theorem repeats_decoded (i : RepString) :
    ((decodedString i).rep || (decodedString i).repne) = true := by
  obtain ⟨op, byteForm, repne⟩ := i
  cases repne <;> rfl

/-- Counting an element. -/
theorem run_finishElement (i : RepString) (s : Machine (AddressSpace δ)) (eip : U32) :
    ((finishElement (decodedString i) eip (i.breaks s.ctx)).run (Machine.answer trap)).run s =
      .ok (elementResult i eip (RepString.counted s.ctx))
        { s with ctx := RepString.counted s.ctx } := by
  have hcount : (RepString.counted s.ctx).gpr .ecx = s.ctx.gpr .ecx - 1 := rfl
  have hbreaks : i.breaks (RepString.counted s.ctx) = i.breaks s.ctx := rfl
  unfold finishElement elementResult
  rw [if_pos (repeats_decoded i), hcount, hbreaks]
  simp only [Program.run_bind, EStateM.run_bind, run_context, run_setContext]
  by_cases hleft : 0 < s.ctx.gpr .ecx - 1 ∧ i.breaks s.ctx = false
  · rw [if_pos hleft, if_pos hleft]
    rfl
  · rw [if_neg hleft, if_neg hleft]
    rfl

/-- The instruction goes to the string executor, past CLD and STD. -/
theorem execute_decoded (i : RepString) (eip : U32) :
    execute (decodedString i) eip = (do
      let ctx ← context
      if ((decodedString i).rep || (decodedString i).repne) ∧ ctx.gpr .ecx = 0 then
        pure {}
      else
        let stop ← stringElement (decodedString i) ctx
        finishElement (decodedString i) eip stop) := by
  obtain ⟨op, byteForm, repne⟩ := i
  cases op <;> rfl

/-- **Executing a repeated string instruction is one element of its loop.** -/
theorem execute_element {i : RepString} {s s' : Machine (AddressSpace δ)}
    (hcount : s.ctx.gpr .ecx ≠ 0) (h : i.element.run s = .ok () s') (eip : U32) :
    runExec trap (execute (decodedString i) eip) s = .ok (elementResult i eip s'.ctx) s' := by
  have hzero : ¬ (((decodedString i).rep || (decodedString i).repne) = true ∧ s.ctx.gpr .ecx = 0) :=
    fun hc => hcount hc.2
  unfold runExec
  rw [execute_decoded]
  simp only [Program.run_bind, EStateM.run_bind, run_context]
  rw [if_neg hzero]
  simp only [Program.run_bind, EStateM.run_bind, run_stringElement]
  unfold RepString.element at h
  rw [EStateM.run_bind] at h
  cases hact : i.act.run s with
  | error e s₁ =>
    rw [hact] at h
    cases h
  | ok u s₁ =>
    rw [hact] at h
    cases h
    exact run_finishElement trap i s₁ eip

/-- With a count of zero nothing is executed. -/
theorem execute_none {i : RepString} {s : Machine (AddressSpace δ)} (hcount : s.ctx.gpr .ecx = 0)
    (eip : U32) : runExec trap (execute (decodedString i) eip) s = .ok {} s := by
  unfold runExec
  rw [execute_decoded]
  simp only [Program.run_bind, EStateM.run_bind, run_context]
  rw [if_pos ⟨repeats_decoded i, hcount⟩]
  rfl

/-! ## What an element leaves alone -/

/-- A memory access that succeeds leaves the context. -/
theorem onMemory_ok {M α : Type} {f : EStateM Error M α} {s s' : Machine M} {a : α}
    (h : (onMemory f).run s = .ok a s') : s'.ctx = s.ctx ∧ f.run s.mem = .ok a s'.mem := by
  unfold onMemory at h
  rw [run_zoom] at h
  cases hf : f.run s.mem with
  | error e m =>
    rw [hf] at h
    cases h
  | ok b m =>
    rw [hf] at h
    cases h
    exact ⟨rfl, rfl⟩

/-- Loading an element leaves the storage. -/
theorem keeps_load (i : RepString) (addr : GuestAddr) (space : AddressSpace δ) :
    Keeps storage (i.load addr) space := by
  unfold RepString.load
  split_ifs
  · refine (keeps_read8 addr space).bind fun v s _ => ?_
    exact (quiet_pure _ s).keeps _
  · exact keeps_read32 addr space

/-- What one element does to memory: it stores one element at EDI, which advances, or it
changes no bank. -/
inductive ElementStore (i : RepString) (s s' : Machine (AddressSpace δ)) : Prop
  | stores (hop : i.op = .movs ∨ i.op = .stos)
      (hedi : s'.ctx.gpr .edi = s.ctx.gpr .edi + i.stride s.ctx)
      (hflags : s'.ctx.eflags = s.ctx.eflags) (mem : AddressSpace δ) (v : U32)
      (hmem : mem.storage = s.mem.storage)
      (hstore : (i.store (s.ctx.gpr .edi) v).run mem = .ok () s'.mem)
  | reads (hop : ¬ (i.op = .movs ∨ i.op = .stos)) (hmem : s'.mem.storage = s.mem.storage)

/-- One element, seen from outside. -/
structure ElementDone (i : RepString) (s s' : Machine (AddressSpace δ)) : Prop where
  eip : s'.ctx.eip = s.ctx.eip
  ecx : s'.ctx.gpr .ecx = s.ctx.gpr .ecx - 1
  store : ElementStore i s s'

/-- Loading into the accumulator leaves EIP. -/
theorem setAccumulator_eip (i : RepString) (ctx : CpuContext) (v : U32) :
    (i.setAccumulator ctx v).eip = ctx.eip := by
  unfold RepString.setAccumulator
  split_ifs <;> rfl

/-- Loading into the accumulator leaves ECX. -/
theorem setAccumulator_ecx (i : RepString) (ctx : CpuContext) (v : U32) :
    (i.setAccumulator ctx v).gpr .ecx = ctx.gpr .ecx := by
  unfold RepString.setAccumulator
  split_ifs <;> rfl

/-- An element that runs is done. -/
theorem element_done {i : RepString} {s s' : Machine (AddressSpace δ)}
    (h : i.element.run s = .ok () s') : ElementDone i s s' := by
  unfold RepString.element at h
  rw [EStateM.run_bind] at h
  cases hact : i.act.run s with
  | error e s₁ =>
    rw [hact] at h
    cases h
  | ok u s₁ =>
    rw [hact] at h
    cases h
    unfold RepString.act at hact
    rw [EStateM.run_bind, EStateM.run_get] at hact
    dsimp only at hact
    cases hop : i.op with
    | movs =>
      simp only [hop, EStateM.run_bind] at hact
      cases hl : (onMemory (i.load (s.ctx.gpr .esi))).run s with
      | error e t => simp [hl] at hact
      | ok v t =>
        simp only [hl] at hact
        cases hst : (onMemory (i.store (s.ctx.gpr .edi) v)).run t with
        | error e t' => simp [hst] at hact
        | ok _ t' =>
          simp only [hst] at hact
          cases hact
          obtain ⟨-, hload⟩ := onMemory_ok hl
          obtain ⟨-, hstore⟩ := onMemory_ok hst
          refine ⟨rfl, rfl, .stores (.inl hop) rfl rfl t.mem v ?_ hstore⟩
          exact (keeps_load i _ s.mem).ok hload
    | stos =>
      simp only [hop, EStateM.run_bind] at hact
      cases hst : (onMemory (i.store (s.ctx.gpr .edi) (i.accumulator s.ctx))).run s with
      | error e t' => simp [hst] at hact
      | ok _ t' =>
        simp only [hst] at hact
        cases hact
        obtain ⟨-, hstore⟩ := onMemory_ok hst
        exact ⟨rfl, rfl, .stores (.inr hop) rfl rfl s.mem _ rfl hstore⟩
    | lods =>
      simp only [hop, EStateM.run_bind] at hact
      cases hl : (onMemory (i.load (s.ctx.gpr .esi))).run s with
      | error e t => simp [hl] at hact
      | ok v t =>
        simp only [hl] at hact
        cases hact
        obtain ⟨-, hload⟩ := onMemory_ok hl
        refine ⟨setAccumulator_eip i _ v, ?_, .reads (by simp [hop]) ((keeps_load i _ s.mem).ok hload)⟩
        change (i.setAccumulator s.ctx v).gpr .ecx - 1 = _
        rw [setAccumulator_ecx]
    | scas =>
      simp only [hop, EStateM.run_bind] at hact
      cases hl : (onMemory (i.load (s.ctx.gpr .edi))).run s with
      | error e t => simp [hl] at hact
      | ok v t =>
        simp only [hl] at hact
        cases hact
        obtain ⟨-, hload⟩ := onMemory_ok hl
        exact ⟨rfl, rfl, .reads (by simp [hop]) ((keeps_load i _ s.mem).ok hload)⟩
    | cmps =>
      simp only [hop, EStateM.run_bind] at hact
      cases hl : (onMemory (i.load (s.ctx.gpr .esi))).run s with
      | error e t => simp [hl] at hact
      | ok a t =>
        simp only [hl] at hact
        cases hl' : (onMemory (i.load (s.ctx.gpr .edi))).run t with
        | error e t' => simp [hl'] at hact
        | ok b t' =>
          simp only [hl'] at hact
          cases hact
          obtain ⟨-, hload⟩ := onMemory_ok hl
          obtain ⟨-, hload'⟩ := onMemory_ok hl'
          refine ⟨rfl, rfl, .reads (by simp [hop]) ?_⟩
          exact ((keeps_load i _ t.mem).ok hload').trans ((keeps_load i _ s.mem).ok hload)

/-! ## The instruction's bytes -/

/-- A store either pokes the bytes of one RAM region or changes no bank. -/
theorem store_effect {i : RepString} {dst : GuestAddr} {v : U32} {mem mem' : AddressSpace δ}
    (h : (i.store dst v).run mem = .ok () mem') :
    mem'.storage = mem.storage ∨ ∃ reg ram off bytes,
      mem.resolveRegion dst i.size .write = .ok reg ∧ reg.type = .ram ram off ∧
      bytes.length = i.size.toNat ∧
      mem' = mem.setRam ram ((mem.rams ram).pokeBytes (ramPos reg off dst) bytes) := by
  unfold RepString.store at h
  unfold RepString.size
  cases hb : i.byteForm with
  | true =>
    rw [hb, if_pos rfl] at h
    rw [if_pos rfl]
    unfold AddressSpace.write8 at h
    rw [EStateM.run_bind, EStateM.run_get] at h
    dsimp only at h
    rw [EStateM.run_bind, run_ofExcept] at h
    cases hr : mem.resolveRegion dst 1 .write with
    | error e =>
      rw [hr] at h
      cases h
    | ok reg =>
      rw [hr] at h
      dsimp only at h
      cases ht : reg.type with
      | ram ram off =>
        rw [ht] at h
        dsimp only at h
        split_ifs at h
        · cases h
        · cases h
          exact .inr ⟨reg, ram, off, [v.setWidth 8], rfl, ht, rfl, rfl⟩
      | mmio handler =>
        rw [ht] at h
        exact .inl ((keeps_writeMmio handler reg dst .byte _ mem).ok h)
  | false =>
    rw [hb, if_neg Bool.false_ne_true] at h
    rw [if_neg Bool.false_ne_true]
    unfold AddressSpace.write32 at h
    rw [EStateM.run_bind, EStateM.run_get] at h
    dsimp only at h
    rw [EStateM.run_bind, run_ofExcept] at h
    cases hr : mem.resolveRegion dst 4 .write with
    | error e =>
      rw [hr] at h
      cases h
    | ok reg =>
      rw [hr] at h
      dsimp only at h
      cases ht : reg.type with
      | ram ram off =>
        rw [ht] at h
        cases h
        exact .inr ⟨reg, ram, off, _, rfl, ht, rfl, rfl⟩
      | mmio handler =>
        rw [ht] at h
        exact .inl ((keeps_writeMmio handler reg dst .dword _ mem).ok h)

/-- A fetched byte: its cell and its value. -/
theorem fetch8_ok_iff {space : AddressSpace δ} {addr : GuestAddr} {b : U8} :
    (AddressSpace.fetch8 addr).run space = .ok b space ↔
      ∃ reg ram off, space.resolveRegion addr 1 .execute = .ok reg ∧ reg.type = .ram ram off ∧
        ramPos reg off addr < (space.rams ram).size ∧
        (space.rams ram).data (ramPos reg off addr) = b := by
  unfold AddressSpace.fetch8
  rw [EStateM.run_bind, EStateM.run_get]
  dsimp only
  rw [EStateM.run_bind, run_ofExcept]
  cases hr : space.resolveRegion addr 1 .execute with
  | error e => simp
  | ok reg =>
    cases ht : reg.type with
    | ram ram off =>
      by_cases hsize : ramPos reg off addr ≥ (space.rams ram).size
      · have hout : ¬ ramPos reg off addr < (space.rams ram).size := Nat.not_lt.mpr hsize
        simp [ht, Ram.read8, hsize, hout]
      · have hin : ramPos reg off addr < (space.rams ram).size := Nat.not_le.mp hsize
        simp [ht, Ram.read8, hsize, hin]
    | mmio handler => simp [ht]

/-- Which cells an access has depends on the regions alone. -/
theorem accessCell_congr {space space' : AddressSpace δ} (h : space'.regions = space.regions)
    (addr : GuestAddr) (len : GuestSize) (perm : MemoryPermission) (c : Cell) :
    AccessCell space' addr len perm c ↔ AccessCell space addr len perm c := by
  unfold AccessCell AddressSpace.resolveRegion
  rw [h]

/-- Storing an element leaves the regions. -/
theorem store_regions {i : RepString} {dst : GuestAddr} {v : U32} {mem mem' : AddressSpace δ}
    (h : (i.store dst v).run mem = .ok () mem') : mem'.regions = mem.regions := by
  rcases store_effect h with hsame | ⟨reg, ram, off, bytes, -, -, -, rfl⟩
  · exact congrArg Prod.fst hsame
  · rfl

/-- Equal storage gives equal code. -/
theorem fetch8_congr {space space' : AddressSpace δ} (h : space'.storage = space.storage)
    {addr : GuestAddr} {b : U8} (hfetch : (AddressSpace.fetch8 addr).run space = .ok b space) :
    (AddressSpace.fetch8 addr).run space' = .ok b space' := by
  have hregions : space'.regions = space.regions := congrArg Prod.fst h
  have hrams : space'.rams = space.rams := congrArg Prod.snd h
  rw [fetch8_ok_iff] at hfetch ⊢
  unfold AddressSpace.resolveRegion at hfetch ⊢
  rw [hregions, hrams]
  exact hfetch

/-- A store leaves a byte of code alone when it has no cell in common with it. -/
theorem fetch8_store {i : RepString} {dst : GuestAddr} {v : U32} {mem mem' : AddressSpace δ}
    (hstore : (i.store dst v).run mem = .ok () mem') {addr : GuestAddr} {b : U8}
    (hapart : ∀ c, AccessCell mem dst i.size .write c → ¬ AccessCell mem addr 1 .execute c)
    (hfetch : (AddressSpace.fetch8 addr).run mem = .ok b mem) :
    (AddressSpace.fetch8 addr).run mem' = .ok b mem' := by
  rcases store_effect hstore with hsame | ⟨reg, ram, off, bytes, hreg, hram, hlen, rfl⟩
  · exact fetch8_congr hsame hfetch
  · rw [fetch8_ok_iff] at hfetch ⊢
    obtain ⟨creg, cram, coff, hcreg, hcram, hsize, hdata⟩ := hfetch
    refine ⟨creg, cram, coff, hcreg, hcram, ?_⟩
    by_cases hbank : cram = ram
    · subst hbank
      have hne : ∀ j < bytes.length, ramPos creg coff addr ≠ ramPos reg off dst + j := by
        intro j hj heq
        rw [hlen] at hj
        refine hapart (cram, ramPos reg off dst + j) ⟨reg, cram, off, hreg, hram, j, hj, rfl⟩ ?_
        exact ⟨creg, cram, coff, hcreg, hcram, 0, by decide, by rw [heq]; rfl⟩
      have hnew : (mem.setRam cram ((mem.rams cram).pokeBytes (ramPos reg off dst) bytes)).rams cram =
          (mem.rams cram).pokeBytes (ramPos reg off dst) bytes := Function.update_self _ _ _
      rw [hnew, pokeBytes_size, pokeBytes_data hne]
      exact ⟨hsize, hdata⟩
    · have hold : (mem.setRam ram ((mem.rams ram).pokeBytes (ramPos reg off dst) bytes)).rams cram =
          mem.rams cram := Function.update_of_ne hbank _ _
      rw [hold]
      exact ⟨hsize, hdata⟩

/-- An element whose store is apart from the instruction leaves the instruction in place. -/
theorem ElementStore.instructionAt {i : RepString} {s s' : Machine (AddressSpace δ)}
    (h : ElementStore i s s') {n : ℕ} (hn : 0 < n) (hapart : DestinationApart i s.ctx s.mem n)
    (hat : InstructionAt i s.ctx.eip s.mem) : InstructionAt i s.ctx.eip s'.mem := by
  cases h with
  | reads hop hmem => exact ⟨fetch8_congr hmem hat.first, fetch8_congr hmem hat.second⟩
  | stores hop hedi hflags mem v hmem hstore =>
    have hregions : mem.regions = s.mem.regions := congrArg Prod.fst hmem
    have hfirst := hapart hop 0 hn
    have haddr : s.ctx.gpr .edi + BitVec.ofNat 32 0 * i.stride s.ctx = s.ctx.gpr .edi := by simp
    rw [haddr] at hfirst
    constructor
    · refine fetch8_store hstore ?_ (fetch8_congr hmem hat.first)
      intro c hc
      rw [accessCell_congr hregions] at hc ⊢
      exact (hfirst c hc).1
    · refine fetch8_store hstore ?_ (fetch8_congr hmem hat.second)
      intro c hc
      rw [accessCell_congr hregions] at hc ⊢
      exact (hfirst c hc).2

/-- The store of an element leaves the regions. -/
theorem ElementStore.regions {i : RepString} {s s' : Machine (AddressSpace δ)}
    (h : ElementStore i s s') : s'.mem.regions = s.mem.regions := by
  cases h with
  | reads hop hmem => exact congrArg Prod.fst hmem
  | stores hop hedi hflags mem v hmem hstore =>
    exact (store_regions hstore).trans (congrArg Prod.fst hmem)

/-- After an element the remaining stores are still apart from the instruction. -/
theorem ElementDone.apart {i : RepString} {s s' : Machine (AddressSpace δ)}
    (h : ElementDone i s s') {n : ℕ} (hapart : DestinationApart i s.ctx s.mem (n + 1)) :
    DestinationApart i s'.ctx s'.mem n := by
  intro hop k hk c hc
  cases hst : h.store with
  | reads hno hmem => exact absurd hop hno
  | stores hop hedi hflags mem v hmem hstore =>
    have hstride : i.stride s'.ctx = i.stride s.ctx := by
      unfold RepString.stride CpuContext.getFlag
      rw [hflags]
    have haddr : s'.ctx.gpr .edi + BitVec.ofNat 32 k * i.stride s'.ctx =
        s.ctx.gpr .edi + BitVec.ofNat 32 (k + 1) * i.stride s.ctx := by
      rw [hstride, hedi, BitVec.ofNat_add, BitVec.add_mul, BitVec.one_mul]
      ac_rfl
    rw [haddr, accessCell_congr h.store.regions] at hc
    rw [h.eip, accessCell_congr h.store.regions, accessCell_congr h.store.regions]
    exact hapart hop (k + 1) (by omega) c hc

/-! ## Steps -/

/-- A step with elements left is one element; EIP stays if the repetition goes on. -/
theorem step_element {cpu : Cpu} (hrun : cpu.lifecycle = .running) {i : RepString}
    {space : AddressSpace δ} (hat : InstructionAt i cpu.context.eip space)
    (hcount : cpu.context.gpr .ecx ≠ 0) {s' : Machine (AddressSpace δ)}
    (h : i.element.run ⟨cpu.context, space⟩ = .ok () s') :
    (step none trap cpu space).2 =
      ({ cpu with
          context := { s'.ctx with
            eip := if 0 < s'.ctx.gpr .ecx ∧ i.breaks s'.ctx = false then cpu.context.eip
              else cpu.context.eip + 2 } }, s'.mem) := by
  have hexec := execute_element trap hcount h cpu.context.eip
  by_cases hgo : 0 < s'.ctx.gpr .ecx ∧ i.breaks s'.ctx = false
  · unfold elementResult at hexec
    rw [if_pos hgo] at hexec
    rw [step_decoded hrun (decodeAt_string hat cpu.context) hexec rfl, if_pos hgo]
    rfl
  · unfold elementResult at hexec
    rw [if_neg hgo] at hexec
    rw [step_decoded hrun (decodeAt_string hat cpu.context) hexec rfl, if_neg hgo]
    rfl

/-- A step with no elements left only passes the instruction. -/
theorem step_none {cpu : Cpu} (hrun : cpu.lifecycle = .running) {i : RepString}
    {space : AddressSpace δ} (hat : InstructionAt i cpu.context.eip space)
    (hcount : cpu.context.gpr .ecx = 0) :
    (step none trap cpu space).2 =
      ({ cpu with context := { cpu.context with eip := cpu.context.eip + 2 } }, space) := by
  have hexec := execute_none trap (i := i) (s := ⟨cpu.context, space⟩) hcount cpu.context.eip
  rw [step_decoded hrun (decodeAt_string hat cpu.context) hexec rfl]
  rfl

/-! ## Whole runs -/

/-- The first element can be taken off in front. -/
theorem elements_succ (i : RepString) (k : ℕ) :
    (i.elements (k + 1) : EStateM Error (Machine (AddressSpace δ)) Unit) =
      i.element >>= fun _ => i.elements k := by
  induction k with
  | zero =>
    change (pure () >>= fun _ => i.element) = i.element >>= fun _ => pure ()
    rw [pure_bind, bind_pure_unit]
  | succ k ih =>
    change (i.elements (k + 1) >>= fun _ => i.element) =
      i.element >>= fun _ => (i.elements k >>= fun _ => i.element)
    rw [ih, bind_assoc]

/-- The first of several elements, taken off. -/
theorem elements_after {i : RepString} {s s' : Machine (AddressSpace δ)}
    (h : i.element.run s = .ok () s') (k : ℕ) :
    (i.elements (k + 1)).run s = (i.elements k).run s' := by
  rw [elements_succ, EStateM.run_bind, h]

/-- The loop, taken apart at its first element. -/
theorem loop_succ_ok {i : RepString} {n : ℕ} {s final : Machine (AddressSpace δ)}
    (h : (i.loop (n + 1)).run s = .ok () final) :
    ∃ s', i.element.run s = .ok () s' ∧
      (i.breaks s'.ctx = true ∧ final = s' ∨
        i.breaks s'.ctx = false ∧ (i.loop n).run s' = .ok () final) := by
  unfold RepString.loop at h
  rw [EStateM.run_bind] at h
  cases hel : i.element.run s with
  | error e s' =>
    rw [hel] at h
    cases h
  | ok u s' =>
    rw [hel] at h
    dsimp only at h
    rw [EStateM.run_bind, EStateM.run_get] at h
    dsimp only at h
    refine ⟨s', rfl, ?_⟩
    by_cases hb : i.breaks s'.ctx = true
    · rw [if_pos hb] at h
      cases h
      exact .inl ⟨hb, rfl⟩
    · rw [if_neg hb] at h
      exact .inr ⟨Bool.eq_false_iff.mpr hb, h⟩

/-- One step ends the instruction when its element is the last. -/
theorem repeats_last {cpu : Cpu} {i : RepString} {space : AddressSpace δ}
    {s' : Machine (AddressSpace δ)} (hel : i.element.run ⟨cpu.context, space⟩ = .ok () s')
    (hpos : 0 < (cpu.context.gpr .ecx).toNat)
    (hlast : 1 = (cpu.context.gpr .ecx).toNat ∨ 0 < 1 ∧ i.breaks s'.ctx = true)
    (hstep : (step none trap cpu space).2 =
      ({ cpu with context := { s'.ctx with eip := cpu.context.eip + 2 } }, s'.mem)) :
    RepeatsElementwise i trap cpu space s' := by
  refine ⟨1, hpos, ?_, ?_, hlast, hstep⟩
  · intro k hk
    obtain rfl : k = 0 := by omega
    exact ⟨⟨cpu.context, space⟩, rfl, rfl, rfl, rfl, fun hk => absurd hk (Nat.lt_irrefl 0)⟩
  · rw [elements_after hel]
    rfl

/-- One element, then the rest of the repetition. -/
theorem repeats_more {cpu : Cpu} {i : RepString} {space : AddressSpace δ}
    {s' final : Machine (AddressSpace δ)} (hel : i.element.run ⟨cpu.context, space⟩ = .ok () s')
    (hdone : ElementDone i ⟨cpu.context, space⟩ s') {n : ℕ}
    (hn : (cpu.context.gpr .ecx).toNat = n + 1) (hleft : (s'.ctx.gpr .ecx).toNat = n) (hpos : 0 < n)
    (hgo : i.breaks s'.ctx = false)
    (hstep : (step none trap cpu space).2 = ({ cpu with context := s'.ctx }, s'.mem))
    (hrest : RepeatsElementwise i trap { cpu with context := s'.ctx } s'.mem final) :
    RepeatsElementwise i trap cpu space final := by
  have hstepped : ∀ k, stepped trap (k + 1) cpu space =
      stepped trap k { cpu with context := s'.ctx } s'.mem := by
    intro k
    change stepped trap k (step none trap cpu space).2.1 (step none trap cpu space).2.2 = _
    rw [hstep]
  obtain ⟨m, hm, hbefore, hlast, hend, hpast⟩ := hrest
  dsimp only at hm hbefore hend hpast
  rw [hleft] at hm hbefore hend
  have hone : 0 < m := by omega
  refine ⟨m + 1, by omega, ?_, ?_, ?_, ?_⟩
  · intro k hk
    cases k with
    | zero =>
      exact ⟨⟨cpu.context, space⟩, rfl, rfl, rfl, rfl, fun hk => absurd hk (Nat.lt_irrefl 0)⟩
    | succ k =>
      obtain ⟨s, hs, hst, heip, hecx, hbr⟩ := hbefore k (by omega)
      refine ⟨s, ?_, ?_, heip.trans hdone.eip, by omega, ?_⟩
      · rw [elements_after hel]
        exact hs
      · rw [hstepped, hst]
      · intro _
        -- before the second element the first is the one that has not broken off
        cases k with
        | zero =>
          cases hs
          exact hgo
        | succ k => exact hbr (Nat.succ_pos k)
  · rw [elements_after hel]
    exact hlast
  · rcases hend with hend | ⟨-, hend⟩
    · left
      omega
    · right
      exact ⟨Nat.succ_pos m, hend⟩
  · have hmax : max (m + 1) 1 = max m 1 + 1 := by omega
    rw [hmax, hstepped, hpast, hdone.eip]

/-- **A repeated string instruction is its loop.**  Where the loop runs to its end on the
state of a running processor, and no store of it touches the instruction, the processor
goes through the elements of the loop one step at a time and ends where the loop ends. -/
theorem repeats_elementwise (i : RepString) (cpu : Cpu) (hrun : cpu.lifecycle = .running)
    (space : AddressSpace δ) (hat : InstructionAt i cpu.context.eip space)
    (hapart : DestinationApart i cpu.context space (cpu.context.gpr .ecx).toNat)
    (final : Machine (AddressSpace δ))
    (hloop : (i.loop (cpu.context.gpr .ecx).toNat).run ⟨cpu.context, space⟩ = .ok () final) :
    RepeatsElementwise i trap cpu space final := by
  generalize hn : (cpu.context.gpr .ecx).toNat = n at hapart hloop
  induction n generalizing cpu space with
  | zero =>
    cases hloop
    have hzero : cpu.context.gpr .ecx = 0 := BitVec.eq_of_toNat_eq hn
    refine ⟨0, Nat.zero_le _, ?_, rfl, .inl hn.symm, step_none trap hrun hat hzero⟩
    intro k hk
    exact absurd hk (Nat.not_lt_zero k)
  | succ n ih =>
    obtain ⟨s', hel, hrest⟩ := loop_succ_ok hloop
    have hdone := element_done hel
    have hcount : cpu.context.gpr .ecx ≠ 0 := by
      intro hzero
      rw [hzero] at hn
      cases hn
    have hleft : (s'.ctx.gpr .ecx).toNat = n := by
      have hone : (1 : U32) ≤ cpu.context.gpr .ecx := by
        rw [BitVec.le_def, hn]
        exact Nat.succ_le_succ (Nat.zero_le n)
      rw [hdone.ecx, BitVec.toNat_sub_of_le hone, hn]
      rfl
    have hstep := step_element trap hrun hat hcount hel
    rcases hrest with ⟨hbr, rfl⟩ | ⟨hgo, hloop⟩
    · rw [if_neg (by simp [hbr])] at hstep
      exact repeats_last trap hel (by omega) (.inr ⟨Nat.one_pos, hbr⟩) hstep
    · by_cases hpos : 0 < n
      · have hcontinue : 0 < s'.ctx.gpr .ecx ∧ i.breaks s'.ctx = false := by
          refine ⟨?_, hgo⟩
          rw [BitVec.lt_def, hleft]
          exact hpos
        rw [if_pos hcontinue] at hstep
        have hsame : { s'.ctx with eip := cpu.context.eip } = s'.ctx := by
          rw [← hdone.eip]
        rw [hsame] at hstep
        refine repeats_more trap hel hdone hn hleft hpos hgo hstep ?_
        apply ih
        · exact hrun
        · change InstructionAt i s'.ctx.eip s'.mem
          rw [hdone.eip]
          exact hdone.store.instructionAt (Nat.succ_pos n) hapart hat
        · exact hleft
        · exact hdone.apart hapart
        · exact hloop
      · obtain rfl : n = 0 := by omega
        have hfinal : final = s' := by
          cases hloop
          rfl
        have hend : ¬ (0 < s'.ctx.gpr .ecx ∧ i.breaks s'.ctx = false) := by
          rintro ⟨hlt, -⟩
          rw [BitVec.lt_def, hleft] at hlt
          exact absurd hlt (Nat.not_lt_zero _)
        rw [if_neg hend] at hstep
        rw [hfinal]
        exact repeats_last trap hel (by omega) (.inl hn.symm) hstep

/-- The cells of an access in a space of one RAM region. -/
theorem accessCell_single {space : AddressSpace δ} {reg : Region δ} {ram off : ℕ}
    (hspace : space.regions = [reg]) (hram : reg.type = .ram ram off) {addr : GuestAddr}
    {len : GuestSize} {perm : MemoryPermission} {c : Cell} (h : AccessCell space addr len perm c) :
    ∃ j < len.toNat, c = (ram, ramPos reg off addr + j) := by
  obtain ⟨reg', ram', off', hres, htype, j, hj, rfl⟩ := h
  have hmem := (resolveRegion_ok hres).1
  rw [hspace, List.mem_singleton] at hmem
  subst hmem
  rw [hram] at htype
  cases htype
  exact ⟨j, hj, rfl⟩

/-- `REP STOSD`. -/
def fillString : RepString := ⟨.stos, false, false⟩

/-- A bank with the instruction at address 0x100. -/
def fillSpace : AddressSpace Unit where
  regions := [⟨0, 0x1000, .all, .ram 0 0⟩]
  rams := fun _ => { size := kRamSizeRetail, data := fun i => [0xF3, 0xAB].getD (i - 0x100) 0 }
  devices := ()

/-- A processor about to fill two double words downwards from 0x200. -/
def fillCpu : Cpu :=
  { context := { ({} : CpuContext) with
      eip := 0x100
      eflags := 0x402
      gpr := fun r => if r = .ecx then 2 else if r = .edi then 0x200 else 0x11223344 } }

/-- The destination of the example lies apart from its code. -/
theorem fillSpace_apart : DestinationApart fillString fillCpu.context fillSpace 2 := by
  intro _ k hk c hc
  obtain ⟨j, hj, rfl⟩ := accessCell_single rfl rfl hc
  have hdst : 0x1FC ≤ (fillCpu.context.gpr .edi +
      BitVec.ofNat 32 k * fillString.stride fillCpu.context).toNat := by
    obtain rfl | rfl : k = 0 ∨ k = 1 := by omega
    · decide
    · decide
  refine ⟨fun hcode => ?_, fun hcode => ?_⟩
  · obtain ⟨j', hj', heq⟩ := accessCell_single rfl rfl hcode
    have hpos := congrArg Prod.snd heq
    simp only [ramPos] at hpos
    have hlen : (1 : GuestSize).toNat = 1 := rfl
    have haddr : fillCpu.context.eip.toNat = 0x100 := rfl
    have hbase : (0 : GuestAddr).toNat = 0 := rfl
    omega
  · obtain ⟨j', hj', heq⟩ := accessCell_single rfl rfl hcode
    have hpos := congrArg Prod.snd heq
    simp only [ramPos] at hpos
    have hlen : (1 : GuestSize).toNat = 1 := rfl
    have haddr : (fillCpu.context.eip + 1).toNat = 0x101 := rfl
    have hbase : (0 : GuestAddr).toNat = 0 := rfl
    omega

/-- Two elements, downwards. -/
theorem repeats_elementwise_fill :
    ∃ final : Machine (AddressSpace Unit), RepeatsElementwise fillString none fillCpu fillSpace final ∧
      final.ctx.gpr .edi = 0x1F8 ∧ (final.mem.rams 0).data 0x1FC = 0x44 := by
  have hloop : outcome ((fillString.loop 2).run ⟨fillCpu.context, fillSpace⟩) = .ok () := by
    decide +kernel
  refine ⟨stateAfter ((fillString.loop 2).run ⟨fillCpu.context, fillSpace⟩), ?_, ?_, ?_⟩
  · refine repeats_elementwise none fillString fillCpu rfl fillSpace ?_ fillSpace_apart _
      (eq_ok_of_outcome hloop)
    constructor
    · rw [fetch8_ok_iff]
      exact ⟨⟨0, 0x1000, .all, .ram 0 0⟩, 0, 0, rfl, rfl, by decide +kernel, by decide +kernel⟩
    · rw [fetch8_ok_iff]
      exact ⟨⟨0, 0x1000, .all, .ram 0 0⟩, 0, 0, rfl, rfl, by decide +kernel, by decide +kernel⟩
  · decide +kernel
  · decide +kernel

end Xblob.Analysis
