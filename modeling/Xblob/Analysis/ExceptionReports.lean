import Xblob.Analysis.CacheTwins
import Xblob.Analysis.PreciseFaults
import Xblob.Analysis.PageAccess

/-!
# A step reports the same from twin machines

The step is followed in two machines whose memories are twins.  Decoding only fetches, so
it leaves twins.  An instruction other than INT stores at most once, and what a store
leaves is enough for the rest of it.  An interrupt frame is three stores; inside one page
all three go through the entry the first one cached.

What remains is the report itself, which also reads the record of the last exception and
that of the last page fault.  Where both are empty before the step, what it reports is
what it raised.
-/

set_option autoImplicit false

namespace Xblob.Analysis

open Xblob.Computation Xblob.Computation.Program Xblob.Memory Xblob.Memory.VirtualMemory
  Xblob.Interface Xblob.Processor Xblob.Processor.Exec

variable {δ : Type} {regs : PagingRegisters}

/-! ## Requests of twin machines -/

/-- Two machines with one context and related memories. -/
structure Alike (P : VirtualMemory δ → VirtualMemory δ → Prop) (s t : Machine (VirtualMemory δ)) :
    Prop where
  ctx : s.ctx = t.ctx
  mem : P s.mem t.mem

/-- Machines alike in one relation are alike in a wider one. -/
theorem Alike.mono {P Q : VirtualMemory δ → VirtualMemory δ → Prop}
    {s t : Machine (VirtualMemory δ)} (h : Alike P s t) (hPQ : ∀ a b, P a b → Q a b) :
    Alike Q s t :=
  ⟨h.ctx, hPQ _ _ h.mem⟩

/-- Machines with twin memories have memories that show the same. -/
theorem Alike.view {s t : Machine (VirtualMemory δ)} (h : Alike (Twins regs) s t) :
    Alike (SameView regs) s t :=
  h.mono fun _ _ => Twins.toSameView

/-- A memory access in lockstep is one of the machines. -/
theorem Alike.onMemory {α : Type} {P Q E : VirtualMemory δ → VirtualMemory δ → Prop}
    {s t : Machine (VirtualMemory δ)} (h : Alike P s t) {f : EStateM Error (VirtualMemory δ) α}
    (hf : Lockstep f (fun _ => Q) E s.mem t.mem) :
    Lockstep (onMemory f) (fun _ => Alike Q) (Alike E) s t :=
  hf.zoom (fun _ _ _ hq => ⟨h.ctx, hq⟩) fun _ _ he => ⟨h.ctx, he⟩

/-- Failing leaves twins, which show the same. -/
theorem lockstep_view {α : Type} {P : VirtualMemory δ → VirtualMemory δ → Prop}
    {f : EStateM Error (VirtualMemory δ) α} {a b : VirtualMemory δ}
    (h : Lockstep f (fun _ => P) (Twins regs) a b) :
    Lockstep f (fun _ => P) (SameView regs) a b :=
  h.mono (fun _ _ _ hp => hp) fun _ _ => Twins.toSameView

/-- A request that stores nothing keeps machines with twin memories in step. -/
theorem lockstep_noStore (trap : Option (TrapHandler (VirtualMemory δ))) (r : ExecRequest)
    (hr : NoStore r) (s t : Machine (VirtualMemory δ)) (h : Alike (Twins regs) s t) :
    Lockstep (Machine.answer trap r) (fun _ => Alike (Twins regs)) (Alike (SameView regs)) s t := by
  cases r with
  | context => exact ⟨h.ctx, h⟩
  | setContext ctx => exact ⟨rfl, rfl, h.mem⟩
  | read8 addr => exact h.onMemory (lockstep_view (lockstep_read8 h.mem addr))
  | read16 addr => exact h.onMemory (lockstep_view (lockstep_read16 h.mem addr))
  | read32 addr => exact h.onMemory (lockstep_view (lockstep_read32 h.mem addr))
  | _ => exact hr.elim

/-- A request of the context keeps machines alike. -/
theorem lockstep_onContext (trap : Option (TrapHandler (VirtualMemory δ))) (r : ExecRequest)
    (hr : OnContext r) (s t : Machine (VirtualMemory δ)) (h : Alike (SameView regs) s t) :
    Lockstep (Machine.answer trap r) (fun _ => Alike (SameView regs)) (Alike (SameView regs)) s t := by
  cases r with
  | context => exact ⟨h.ctx, h⟩
  | setContext ctx => exact ⟨rfl, rfl, h.mem⟩
  | _ => exact hr.elim

/-- The part of a machine that a trap handler reaches. -/
def reached (s : Machine (VirtualMemory δ)) : Machine (AddressSpace δ) :=
  ⟨s.ctx, s.mem.physicalSpace⟩

/-- Machines alike have reached the same. -/
theorem Alike.reached {s t : Machine (VirtualMemory δ)} (h : Alike (SameView regs) s t) :
    reached s = reached t := by
  unfold Analysis.reached
  rw [h.ctx, h.mem.space]

/-- A trap handler cannot tell twin machines apart. -/
theorem lockstep_trap (handler : TrapHandler (AddressSpace δ)) (vector : U8)
    {s t : Machine (VirtualMemory δ)} (h : Alike (SameView regs) s t) :
    Lockstep (throughMemory handler vector)
      (fun handled s' t' => Alike (SameView regs) s' t' ∧ s'.mem.tlb = s.mem.tlb ∧
        t'.mem.tlb = t.mem.tlb ∧ (handler vector).run (reached s) = .ok handled (reached s'))
      (Alike (SameView regs)) s t := by
  have hput : ∀ p : Machine (AddressSpace δ), Alike (SameView regs)
      ⟨p.ctx, { s.mem with physicalSpace := p.mem }⟩ ⟨p.ctx, { t.mem with physicalSpace := p.mem }⟩ :=
    fun p => ⟨rfl, rfl, h.mem.leftRegs, h.mem.rightRegs, h.mem.fault⟩
  unfold Lockstep throughMemory
  rw [run_zoom, run_zoom]
  have hs : (⟨s.ctx, s.mem.physicalSpace⟩ : Machine (AddressSpace δ)) = reached s := rfl
  have ht : (⟨t.ctx, t.mem.physicalSpace⟩ : Machine (AddressSpace δ)) = reached s := h.reached.symm
  simp only [hs, ht]
  cases hr : (handler vector).run (reached s) with
  | ok handled p => exact ⟨rfl, hput p, rfl, rfl, rfl⟩
  | error e p => exact ⟨rfl, hput p⟩

/-- Any request agrees on twin machines. -/
theorem lockstep_any (trap : Option (TrapHandler (AddressSpace δ))) (r : ExecRequest)
    (s t : Machine (VirtualMemory δ)) (h : Alike (Twins regs) s t) :
    Lockstep (Machine.answer (trap.map throughMemory) r) (fun _ => Alike (SameView regs))
      (Alike (SameView regs)) s t := by
  cases r with
  | write8 addr v => exact h.onMemory (lockstep_write8 h.mem addr v)
  | write16 addr v => exact h.onMemory (lockstep_write16 h.mem addr v)
  | write32 addr v => exact h.onMemory (lockstep_write32 h.mem addr v)
  | trap vector =>
    cases trap with
    | none => exact lockstep_pure h.view
    | some handler =>
      exact (lockstep_trap handler vector h.view).mono (fun _ _ _ hq => hq.1) fun _ _ he => he
  | _ =>
    refine (lockstep_noStore _ _ ?_ s t h).mono (fun _ _ _ hq => hq.view) fun _ _ he => he
    trivial

/-! ## Executors of twin machines -/

/-- **An instruction other than INT agrees on twin machines.**  They stay twins unless it
has stored something, and then it raises nothing. -/
theorem lockstep_execute (trap : Option (TrapHandler (AddressSpace δ)))
    {inst : DecodedInstruction} (hxchg : inst.id = .xchg → inst.op2.kind = .register)
    (hint : inst.id ≠ .int) (eip : U32) {s t : Machine (VirtualMemory δ)}
    (h : Alike (Twins regs) s t) :
    Lockstep ((execute inst eip).run (Machine.answer (trap.map throughMemory)))
      (fun r s t => Alike (Twins regs) s t ∨ NoException r ∧ Alike (SameView regs) s t)
      (Alike (SameView regs)) s t :=
  (oneStore_execute hxchg hint eip).lockstep (fun _ _ h => h.view) (lockstep_noStore _)
    (lockstep_any trap) (lockstep_onContext _) h

/-- A computation that only looks agrees on twin machines and leaves them twins. -/
theorem lockstep_looking {α : Type} (trap : Option (TrapHandler (VirtualMemory δ))) {x : Exec α}
    (hx : Looking x) {s t : Machine (VirtualMemory δ)} (h : Alike (Twins regs) s t) :
    Lockstep (x.run (Machine.answer trap)) (fun _ => Alike (Twins regs)) (Alike (SameView regs))
      s t := by
  refine (Within.lockstep hx (fun _ _ h => h.view)
    (fun r hr => lockstep_noStore trap r (looks_noStore r hr)) h).mono ?_ fun _ _ he => he
  exact fun _ _ _ hq => hq.2

/-! ## Interrupt frames -/

/-- Reading a gate only looks. -/
theorem looking_readGate (ctx : CpuContext) (vector : U8) : Looking (readGate ctx vector) := by
  unfold readGate
  dsimp only
  split_ifs
  · trivial
  · refine looking_bind (looking_read16 _) fun offsetLow => ?_
    refine looking_bind (looking_read16 _) fun selector => ?_
    refine looking_bind (looking_read16 _) fun attr => ?_
    exact looking_bind (looking_read16 _) fun offsetHigh => trivial

/-- Checking a gate only looks. -/
theorem looking_checkGate (ctx : CpuContext) (vector : U8) (isSoftwareInt : Bool) (g : Gate) :
    Looking (checkGate ctx vector isSoftwareInt g) := by
  unfold checkGate
  split_ifs <;> trivial

/-- A dword of a frame in one page: `i` bytes below the stack pointer. -/
theorem frame_word {esp : U32} (h : FrameInPage esp) {i : ℕ} (hlo : 4 ≤ i) (hhi : i ≤ 12) :
    ((esp - BitVec.ofNat 32 i) &&& 0xFFF) ≤ 0xFFC ∧
      (esp - BitVec.ofNat 32 i) >>> 12 = (esp - 1) >>> 12 := by
  have hlast : 11 ≤ (esp - 1).toNat % 4096 := by
    rw [← toNat_pageOffset]
    exact h
  have hone : (esp - 1).toNat = (4294967295 + esp.toNat) % 4294967296 := BitVec.toNat_sub esp 1
  have hword : (esp - BitVec.ofNat 32 i).toNat = (4294967296 - i + esp.toNat) % 4294967296 := by
    have hi : i % 2 ^ 32 = i := Nat.mod_eq_of_lt (by omega)
    rw [BitVec.toNat_sub, BitVec.toNat_ofNat, hi]
  have hsub : (esp - BitVec.ofNat 32 i).toNat = (esp - 1).toNat - (i - 1) := by
    have hlt := esp.isLt
    omega
  refine ⟨?_, ?_⟩
  · rw [BitVec.le_def, toNat_pageOffset, hsub]
    change _ ≤ 4092
    omega
  · rw [page_eq_iff, hsub]
    omega

/-- **Twin machines push an interrupt frame alike.**  With paging on the frame lies in one
page, whose entry the first push leaves in both caches. -/
theorem lockstep_pushFrame (trap : Option (TrapHandler (VirtualMemory δ))) (ctx : CpuContext)
    (returnEip : U32) {s t : Machine (VirtualMemory δ)} (h : Alike (Twins regs) s t)
    (hframe : testBits regs.cr0 kCr0Paging → FrameInPage (ctx.gpr .esp)) :
    Lockstep ((pushFrame ctx none returnEip).run (Machine.answer trap))
      (fun _ => Alike (SameView regs)) (Alike (SameView regs)) s t := by
  unfold pushFrame
  simp only [Program.run_bind, run_write32, run_pure]
  by_cases hpg : testBits regs.cr0 kCr0Paging
  · obtain ⟨hin₁, hpage₁⟩ := frame_word (hframe hpg) (i := 4) (by omega) (by omega)
    obtain ⟨hin₂, hpage₂⟩ := frame_word (hframe hpg) (i := 8) (by omega) (by omega)
    obtain ⟨hin₃, hpage₃⟩ := frame_word (hframe hpg) (i := 12) (by omega) (by omega)
    refine (h.onMemory (lockstep_write32_first h.mem hin₁ _)).bind fun _ s t h => ?_
    refine (h.onMemory (h.mem.write32 (hpage₂.trans hpage₁.symm) hin₂ _)).bind fun _ s t h => ?_
    refine (h.onMemory (h.mem.write32 (hpage₃.trans hpage₁.symm) hin₃ _)).bind fun _ s t h => ?_
    exact lockstep_pure (h.mono fun _ _ => CachedAlike.toSameView)
  · have htwins : ∀ s t : Machine (VirtualMemory δ), Alike (SameView regs) s t →
        Alike (Twins regs) s t := fun _ _ h => h.mono fun _ _ hab => hab.twins hpg
    refine (h.onMemory (lockstep_write32 h.mem _ _)).bind fun _ s t h => ?_
    refine (h.onMemory (lockstep_write32 (htwins s t h).mem _ _)).bind fun _ s t h => ?_
    refine (h.onMemory (lockstep_write32 (htwins s t h).mem _ _)).bind fun _ s t h => ?_
    exact lockstep_pure h

/-- **Twin machines enter a gate alike.** -/
theorem lockstep_deliverGate (trap : Option (TrapHandler (VirtualMemory δ))) (vector : U8)
    (isSoftwareInt : Bool) (returnEip : U32) {s t : Machine (VirtualMemory δ)}
    (h : Alike (Twins regs) s t)
    (hframe : testBits regs.cr0 kCr0Paging → FrameInPage (s.ctx.gpr .esp)) :
    Lockstep ((deliverGate vector none isSoftwareInt returnEip).run (Machine.answer trap))
      (fun _ => Alike (SameView regs)) (Alike (SameView regs)) s t := by
  unfold deliverGate
  simp only [Program.run_bind]
  have hctx : Lockstep (context.run (Machine.answer trap))
      (fun ctx s' t' => ctx = s.ctx ∧ Alike (Twins regs) s' t') (Alike (SameView regs)) s t :=
    ⟨h.ctx, rfl, h⟩
  refine hctx.bind fun ctx s' t' hs => ?_
  obtain ⟨rfl, hs⟩ := hs
  refine (lockstep_looking trap (looking_readGate _ vector) hs).bind fun g s₁ t₁ h₁ => ?_
  refine (lockstep_looking trap (looking_checkGate _ vector _ g) h₁).bind fun _ s₂ t₂ h₂ => ?_
  refine (lockstep_pushFrame trap s.ctx returnEip h₂ hframe).bind fun _ s₃ t₃ h₃ => ?_
  exact ⟨rfl, rfl, h₃.mem⟩

/-! ## INT -/

/-- A trap handler that declines leaves twins when it has left the memory alone. -/
theorem twins_declined {handler : TrapHandler (AddressSpace δ)} {vector : U8} {handled : Bool}
    {s t s' t' : Machine (VirtualMemory δ)} (h : Alike (Twins regs) s t)
    (h' : Alike (SameView regs) s' t') (hs : s'.mem.tlb = s.mem.tlb) (ht : t'.mem.tlb = t.mem.tlb)
    (hrun : (handler vector).run (reached s) = .ok handled (reached s'))
    (hkept : testBits regs.cr0 kCr0Paging → ∀ p,
      (handler vector).run (reached s) = .ok handled p → p.mem = s.mem.physicalSpace) :
    Alike (Twins regs) s' t' := by
  by_cases hpg : testBits regs.cr0 kCr0Paging
  · have hmem : s'.mem.physicalSpace = s.mem.physicalSpace := hkept hpg _ hrun
    refine ⟨h'.ctx, h'.mem, ?_, ?_⟩
    · refine h.mem.left.congr (h'.mem.leftRegs.trans h.mem.leftRegs.symm) hs ?_
      rw [hmem]
    · refine h.mem.right.congr (h'.mem.rightRegs.trans h.mem.rightRegs.symm) ht ?_
      rw [← h'.mem.space, hmem, h.mem.space]
  · exact h'.mono fun _ _ hab => hab.twins hpg

/-- **INT agrees on twin machines.** -/
theorem lockstep_executeInt (trap : Option (TrapHandler (AddressSpace δ)))
    {inst : DecodedInstruction} (hint : inst.id = .int) (eip : U32)
    {s t : Machine (VirtualMemory δ)} (h : Alike (Twins regs) s t)
    (hnone : trap = none → testBits regs.cr0 kCr0Paging → FrameInPage (s.ctx.gpr .esp))
    (hsome : ∀ handler, trap = some handler → testBits regs.cr0 kCr0Paging → ∀ p,
      (handler inst.intVector).run (reached s) = .ok false p →
        p.mem = s.mem.physicalSpace ∧ FrameInPage (p.ctx.gpr .esp)) :
    Lockstep ((execute inst eip).run (Machine.answer (trap.map throughMemory)))
      (fun r s t => NoException r ∧ Alike (SameView regs) s t) (Alike (SameView regs)) s t := by
  have hbranch : ∀ s t : Machine (VirtualMemory δ), Alike (SameView regs) s t →
      Lockstep (branchedToEip.run (Machine.answer (trap.map throughMemory)))
        (fun r s t => NoException r ∧ Alike (SameView regs) s t) (Alike (SameView regs)) s t := by
    intro s t h
    refine ⟨?_, rfl, h⟩
    rw [h.ctx]
  have htrap : Lockstep ((Exec.trap inst.intVector).run (Machine.answer (trap.map throughMemory)))
      (fun handled s' t' => Alike (SameView regs) s' t' ∧ (handled = false →
        Alike (Twins regs) s' t' ∧
          (testBits regs.cr0 kCr0Paging → FrameInPage (s'.ctx.gpr .esp))))
      (Alike (SameView regs)) s t := by
    have hrequest : (Exec.trap inst.intVector).run (Machine.answer (trap.map throughMemory)) =
        Machine.answer (trap.map throughMemory) (.trap inst.intVector) := run_request _
    rw [hrequest]
    cases trap with
    | none => exact ⟨rfl, h.view, fun _ => ⟨h, hnone rfl⟩⟩
    | some handler =>
      refine (lockstep_trap handler inst.intVector h.view).mono ?_ fun _ _ he => he
      rintro handled s' t' ⟨h', hs, ht, hrun⟩
      refine ⟨h', ?_⟩
      rintro rfl
      refine ⟨twins_declined h h' hs ht hrun fun hpg p hp => (hsome _ rfl hpg p hp).1, ?_⟩
      exact fun hpg => (hsome _ rfl hpg _ hrun).2
  unfold execute
  rw [hint]
  unfold executeInterruptInstruction
  rw [hint]
  simp only [Program.run_bind]
  refine htrap.bind fun handled s' t' hs => ?_
  cases handled with
  | true => exact hbranch s' t' hs.1
  | false =>
    obtain ⟨htw, hframe⟩ := hs.2 rfl
    simp only [Bool.false_eq_true, if_false, Program.run_bind]
    refine (lockstep_deliverGate _ inst.intVector true _ htw hframe).bind fun _ s₁ t₁ h₁ => ?_
    exact hbranch s₁ t₁ h₁

/-! ## Decoding -/

/-- Two instruction streams at one place, over related memories. -/
structure StreamTwins (regs : PagingRegisters) (s t : InstructionStream (VirtualMemory δ)) :
    Prop where
  eip : s.eip = t.eip
  rawBytes : s.rawBytes = t.rawBytes
  mem : Twins regs s.mem t.mem

/-- Twin streams take the same byte. -/
theorem lockstep_nextByte {s t : InstructionStream (VirtualMemory δ)}
    (h : StreamTwins regs s t) :
    Lockstep InstructionStream.nextByte (fun _ => StreamTwins regs) (StreamTwins regs) s t := by
  obtain ⟨smem, eip, rawBytes⟩ := s
  obtain ⟨tmem, eip', rawBytes'⟩ := t
  obtain ⟨heip, hraw, hmem⟩ := h
  cases heip
  cases hraw
  have hfetch : Lockstep (asDecodeError (VirtualMemory.fetch8 (eip + BitVec.ofNat 32 rawBytes.length)))
      (fun _ => Twins regs) (Twins regs) smem tmem :=
    (lockstep_fetch8 hmem _).adaptExcept _
  have hzoom : Lockstep (zoom InstructionStream.mem (fun m s => { s with mem := m })
      (asDecodeError (VirtualMemory.fetch8 (eip + BitVec.ofNat 32 rawBytes.length))))
      (fun _ => StreamTwins regs) (StreamTwins regs) ⟨smem, eip, rawBytes⟩ ⟨tmem, eip, rawBytes⟩ :=
    hfetch.zoom (fun _ _ _ hq => ⟨rfl, rfl, hq⟩) fun _ _ hq => ⟨rfl, rfl, hq⟩
  unfold Lockstep InstructionStream.nextByte
  rw [EStateM.run_bind, EStateM.run_bind, EStateM.run_get, EStateM.run_get]
  dsimp only
  split_ifs
  · exact ⟨rfl, rfl, rfl, hmem⟩
  · refine hzoom.bind fun b s' t' hs => ?_
    refine ⟨rfl, hs.eip, ?_, hs.mem⟩
    dsimp only
    rw [hs.rawBytes]

/-- **Decoding agrees on twin memories and leaves them twins.** -/
theorem agree_decodeAt (ctx : CpuContext) (eip : GuestAddr) {a b : VirtualMemory δ}
    (h : Twins regs a b) :
    Agree (fun inst s t => ExchangeForm inst ∧ Twins regs s.mem t.mem)
      (fun s t => Twins regs s.mem t.mem) (decodeAt ctx eip a) (decodeAt ctx eip b) := by
  have hanswer : ∀ r, True → ∀ s t : InstructionStream (VirtualMemory δ), StreamTwins regs s t →
      Lockstep (InstructionStream.answer r) (fun _ => StreamTwins regs) (StreamTwins regs) s t := by
    intro r _ s t hst
    cases r with
    | nextByte => exact lockstep_nextByte hst
    | rawBytes => exact ⟨hst.rawBytes, hst⟩
  have hrun := (decode_exchangeForm ctx eip).lockstep (fun _ _ h => h) hanswer
    (⟨rfl, rfl, h⟩ : StreamTwins regs ⟨a, eip, []⟩ ⟨b, eip, []⟩)
  exact hrun.mono (fun _ _ _ hq => ⟨hq.1, hq.2.mem⟩) fun _ _ hq => hq.mem

/-! ## What a step of twin systems reports -/

section Reports

variable {poll : InterruptPoll} {trap : Option (TrapHandler (AddressSpace δ))} {s t : System δ}

/-- Without anything stale the cache is sound. -/
theorem NothingStale.sound (h : NothingStale poll trap s) : Sound s.vm :=
  fun hpg => ⟨h.cache hpg, h.tables hpg⟩

/-- Systems that show the same and have nothing stale have twin memories. -/
theorem SameVisible.twins (hv : SameVisible s t) (hs : NothingStale poll trap s)
    (ht : NothingStale poll trap t) : Twins (regsOf s.vm) s.vm t.vm :=
  ⟨⟨hv.memory, rfl, hv.regs.symm, hs.pageFault.trans ht.pageFault.symm⟩, NothingStale.sound hs,
    NothingStale.sound ht⟩

/-- What a failed decode reports depends on the context and the records alone. -/
theorem decodeFailed_congr {c d : Cpu} {a b : VirtualMemory δ} (hctx : c.context = d.context)
    (hex : c.lastException = d.lastException) (hun : c.lastUnsupported = d.lastUnsupported)
    (hpf : a.lastPageFault = b.lastPageFault) (e : DecodeError) :
    (decodeFailed c a e).1 = (decodeFailed d b e).1 := by
  unfold decodeFailed classifyFault
  simp only [GuestMemory.lastPageFault, hctx, hex, hun, hpf]
  split <;> rfl

/-- What a failed execution reports depends on the records alone. -/
theorem executeFailed_congr {c d : Cpu} {a b : Machine (VirtualMemory δ)}
    (hex : c.lastException = d.lastException) (hun : c.lastUnsupported = d.lastUnsupported)
    (hpf : a.mem.lastPageFault = b.mem.lastPageFault) (eip : U32) (inst : DecodedInstruction)
    (e : Error) : (executeFailed c eip inst a e).1 = (executeFailed d eip inst b e).1 := by
  unfold executeFailed classifyFault
  simp only [GuestMemory.lastPageFault, hex, hun, hpf]
  split <;> rfl

/-- What an interrupt reports from twin systems. -/
theorem deliverInterrupt_alike (hv : SameVisible s t) (hs : NothingStale poll trap s)
    (ht : NothingStale poll trap t) (hun : s.cpu.lastUnsupported = t.cpu.lastUnsupported)
    {vector : U8} (hpending : pendingVector poll s.cpu.context = some vector) :
    (deliverInterrupt (trap.map throughMemory) s.cpu s.vm vector).1 =
      (deliverInterrupt (trap.map throughMemory) t.cpu t.vm vector).1 := by
  have hgate := lockstep_deliverGate (trap.map throughMemory) vector false s.cpu.context.eip
    (⟨rfl, SameVisible.twins hv hs ht⟩ : Alike (Twins (regsOf s.vm)) ⟨s.cpu.context, s.vm⟩
      ⟨s.cpu.context, t.vm⟩) fun hpg => hs.frame hpg _ (.interrupt (by rw [hpending]; nofun))
  unfold deliverInterrupt runExec
  rw [← hv.context]
  obtain ⟨_, a, b, ha, hb, -⟩ | ⟨e, a, b, ha, hb, -⟩ := hgate.cases
  · rw [ha, hb]
  · rw [ha, hb]
    simp only [hs.exception, ht.exception, hun]

/-- What an exception reports from twin machines. -/
theorem exceptionRaised_alike {c d : Cpu} {inst : DecodedInstruction}
    {a b : Machine (VirtualMemory δ)} {ex : CpuException} (h : Alike (Twins regs) a b)
    (hcode : ex.errorCode = none)
    (hframe : testBits regs.cr0 kCr0Paging → FrameInPage (a.ctx.gpr .esp)) :
    (exceptionRaised (trap.map throughMemory) c inst a ex).1 =
      (exceptionRaised (trap.map throughMemory) d inst b ex).1 := by
  have hgate := lockstep_deliverGate (trap.map throughMemory) ex.vector.number false ex.faultEip h
    hframe
  unfold exceptionRaised runExec
  dsimp only
  rw [hcode, ← h.ctx]
  by_cases hlimit : a.ctx.idtr.limit > 0
  · rw [if_pos hlimit, if_pos hlimit]
    obtain ⟨_, a', b', ha, hb, -⟩ | ⟨e, a', b', ha, hb, -⟩ := hgate.cases
    · rw [ha, hb]
    · rw [ha, hb]
  · rw [if_neg hlimit, if_neg hlimit]

/-- The report of a committed instruction depends on its result alone. -/
theorem commit_report (c d : Cpu) (eip : U32) (inst : DecodedInstruction)
    (a b : Machine (VirtualMemory δ)) (r : ExecutionResult) :
    (commit c eip inst a r).1 = (commit d eip inst b r).1 := by
  unfold commit
  dsimp only
  split <;> rfl

/-- Executing a decoded instruction in twin machines. -/
theorem lockstep_instruction (hs : NothingStale poll trap s) {inst : DecodedInstruction}
    {stream : InstructionStream (VirtualMemory δ)} {b : VirtualMemory δ}
    (hdec : decodeAt s.cpu.context s.cpu.context.eip s.vm = .ok inst stream)
    (hform : ExchangeForm inst) (htw : Twins (regsOf s.vm) stream.mem b) :
    Lockstep ((execute inst s.cpu.context.eip).run (Machine.answer (trap.map throughMemory)))
      (fun r a b => (NoException r ∨ Alike (Twins (regsOf s.vm)) a b) ∧
        Alike (SameView (regsOf s.vm)) a b)
      (Alike (SameView (regsOf s.vm))) ⟨s.cpu.context, stream.mem⟩ ⟨s.cpu.context, b⟩ := by
  have hal : Alike (Twins (regsOf s.vm)) ⟨s.cpu.context, stream.mem⟩ ⟨s.cpu.context, b⟩ :=
    ⟨rfl, htw⟩
  by_cases hint : inst.id = .int
  · refine (lockstep_executeInt trap hint _ hal ?_ ?_).mono ?_ fun _ _ he => he
    · exact fun hnone hpg => hs.frame hpg _ (.untrapped hdec hint hnone)
    · intro handler hsome hpg p hrun
      exact ⟨hs.declined hpg handler hsome inst.intVector _ p hrun,
        hs.frame hpg _ (.declined hdec hint hsome hrun)⟩
    · exact fun r a b hq => ⟨.inl hq.1, hq.2⟩
  · refine (lockstep_execute trap hform.xchg hint _ hal).mono ?_ fun _ _ he => he
    rintro r a b (htw | ⟨hnoex, hview⟩)
    · exact ⟨.inr htw, htw.view⟩
    · exact ⟨.inl hnoex, hview⟩

/-- **Twin systems report the same for their next instruction.** -/
theorem stepInstruction_alike (hv : SameVisible s t) (hs : NothingStale poll trap s)
    (ht : NothingStale poll trap t) (hun : s.cpu.lastUnsupported = t.cpu.lastUnsupported) :
    (stepInstruction (trap.map throughMemory) s.cpu s.vm).1 =
      (stepInstruction (trap.map throughMemory) t.cpu t.vm).1 := by
  have hexc : s.cpu.lastException = t.cpu.lastException := hs.exception.trans ht.exception.symm
  have hdecode := agree_decodeAt s.cpu.context s.cpu.context.eip (SameVisible.twins hv hs ht)
  unfold stepInstruction
  dsimp only
  rw [← hv.context]
  obtain ⟨inst, a, b, ha, hb, hform, htw⟩ | ⟨e, a, b, ha, hb, htw⟩ := hdecode.cases
  · rw [ha, hb]
    dsimp only [runExec]
    obtain ⟨r, a', b', ha', hb', hr, -⟩ | ⟨e, a', b', ha', hb', hview⟩ :=
      (lockstep_instruction hs ha hform htw).cases
    · rw [ha', hb']
      dsimp only
      cases hex : r.exception with
      | none => exact commit_report s.cpu t.cpu _ inst a' b' r
      | some ex =>
        rcases hr with hnone | htw'
        · rw [hnone] at hex
          cases hex
        · have hdiv := (raises_execute inst s.cpu.context.eip).returns ha'
          have hcode : ex.errorCode = none := by
            rcases hdiv with hnone | hsome
            · rw [hnone] at hex
              cases hex
            · rw [hsome] at hex
              cases hex
              rfl
          refine exceptionRaised_alike htw' hcode fun hpg => ?_
          exact hs.frame hpg _ (.exception ha ha' (by rw [hex]; nofun))
    · rw [ha', hb']
      exact executeFailed_congr hexc hun hview.mem.fault _ inst e
  · rw [ha, hb]
    exact decodeFailed_congr hv.context hexc hun htw.fault e

/-- **Twin systems report the same.** -/
theorem report_alike (hv : SameVisible s t) (hs : NothingStale poll trap s)
    (ht : NothingStale poll trap t) (hun : s.cpu.lastUnsupported = t.cpu.lastUnsupported) :
    report poll trap s = report poll trap t := by
  unfold report step
  rw [hv.left, hv.right]
  dsimp only
  rw [← hv.context]
  cases hpending : pendingVector poll s.cpu.context with
  | none => exact stepInstruction_alike hv hs ht hun
  | some vector => exact deliverInterrupt_alike hv hs ht hun hpending

end Reports

/-! ## What is reported is what was raised -/

section Truthful

variable {poll : InterruptPoll} {trap : Option (TrapHandler (AddressSpace δ))} {s : System δ}

/-- Without a recorded exception, a fault is classified by the page fault of the step or
by its code. -/
theorem classifyFault_vector {cpu : Cpu} (hex : cpu.lastException = none) (mem : VirtualMemory δ)
    (e : Error) {eip : U32} {fallback : CpuException} (heip : fallback.faultEip = eip)
    (hvec : fallback.vector = if e.code = .invalidOpcode then .invalidOpcode else .generalProtection) :
    (classifyFault cpu mem eip fallback).faultEip = eip ∧
      (classifyFault cpu mem eip fallback).vector = errorVector e mem.lastPageFault := by
  unfold classifyFault errorVector
  simp only [GuestMemory.lastPageFault]
  cases mem.lastPageFault with
  | some pf => exact ⟨rfl, rfl⟩
  | none =>
    rw [hex]
    exact ⟨heip, hvec⟩

/-- A failed decoding faults at the instruction, with the vector of its error. -/
theorem decodeFailed_exception {cpu : Cpu} (hnone : cpu.lastException = none)
    {mem : VirtualMemory δ} {e : DecodeError} {ex : CpuException}
    (hex : (decodeFailed cpu mem e).1.exception = some ex) :
    ex.faultEip = cpu.context.eip ∧ ex.vector = errorVector e.error mem.lastPageFault := by
  unfold decodeFailed at hex
  dsimp only at hex
  split at hex
  · cases hex
  · cases hex
    refine classifyFault_vector hnone mem e.error ?_ ?_
    · split_ifs <;> rfl
    · split_ifs <;> rfl

/-- A failed execution faults at the instruction, with the vector of its error. -/
theorem executeFailed_exception {cpu : Cpu} (hnone : cpu.lastException = none) {eip : U32}
    {inst : DecodedInstruction} {a : Machine (VirtualMemory δ)} {e : Error} {ex : CpuException}
    (hex : (executeFailed cpu eip inst a e).1.exception = some ex) :
    ex.faultEip = eip ∧ ex.vector = errorVector e a.mem.lastPageFault := by
  unfold executeFailed at hex
  dsimp only at hex
  split at hex
  · cases hex
  · cases hex
    refine classifyFault_vector hnone a.mem e ?_ ?_
    · split_ifs <;> rfl
    · split_ifs <;> rfl

/-- A raised exception that is reported is the one raised. -/
theorem exceptionRaised_exception {cpu : Cpu} {inst : DecodedInstruction}
    {a : Machine (VirtualMemory δ)} {raised ex : CpuException}
    (hex : (exceptionRaised (trap.map throughMemory) cpu inst a raised).1.exception = some ex) :
    ex = raised := by
  unfold exceptionRaised at hex
  dsimp only at hex
  split at hex
  · split at hex
    · cases hex
    · cases hex
      rfl
  · cases hex
    rfl

/-- **With nothing stale on record, the report is of this step.** -/
theorem reportsTruly (hrun : s.cpu.lifecycle = .running) (hs : NothingStale poll trap s) :
    ReportsTruly poll trap s := by
  intro ex hex
  have hvm : { s.vm with lastPageFault := none } = s.vm := by
    rw [← hs.pageFault]
  unfold raisedVector
  dsimp only
  rw [hvm]
  unfold report step at hex
  rw [hrun] at hex
  dsimp only at hex
  cases hpending : pendingVector poll s.cpu.context with
  | some vector =>
    -- an interrupt that cannot be delivered is reported with the recorded exception alone
    rw [hpending] at hex
    unfold deliverInterrupt at hex
    dsimp only at hex
    split at hex
    · rw [hs.exception] at hex
      cases hex
    · cases hex
  | none =>
    rw [hpending] at hex
    unfold stepInstruction at hex
    dsimp only at hex ⊢
    cases hdec : decodeAt s.cpu.context s.cpu.context.eip s.vm with
    | error e stream =>
      rw [hdec] at hex
      obtain ⟨heip, hvec⟩ := decodeFailed_exception hs.exception hex
      exact ⟨heip, by rw [hvec]⟩
    | ok inst stream =>
      rw [hdec] at hex
      dsimp only at hex ⊢
      cases hexec : runExec (trap.map throughMemory) (execute inst s.cpu.context.eip)
          ⟨s.cpu.context, stream.mem⟩ with
      | error e a =>
        rw [hexec] at hex
        obtain ⟨heip, hvec⟩ := executeFailed_exception hs.exception hex
        exact ⟨heip, by rw [hvec]⟩
      | ok r a =>
        rw [hexec] at hex
        dsimp only at hex ⊢
        cases hr : r.exception with
        | none =>
          rw [hr] at hex
          unfold commit at hex
          dsimp only at hex
          split at hex
          · cases hex
          · cases hex
        | some raised =>
          rw [hr] at hex
          cases exceptionRaised_exception hex
          refine ⟨?_, rfl⟩
          obtain hnone | hsome := (raises_execute inst s.cpu.context.eip).returns hexec
          · rw [hnone] at hr
            cases hr
          · rw [hsome] at hr
            cases hr
            rfl

end Truthful

/-! ## Histories -/

/-- A running processor has no unsupported form on record: whatever records one stops it. -/
def UnsupportedStops (cpu : Cpu) : Prop := cpu.lifecycle = .running → cpu.lastUnsupported = none

section Histories

variable {cpu : Cpu} (h : UnsupportedStops cpu)

include h

/-- A step that records something unsupported stops the processor. -/
theorem unsupportedStops_step (poll : InterruptPoll)
    (trap : Option (TrapHandler (VirtualMemory δ))) (vm : VirtualMemory δ) :
    UnsupportedStops (step poll trap cpu vm).2.1 := by
  unfold step
  split
  · exact h
  · exact h
  · split
    · unfold deliverInterrupt
      split
      · nofun
      · exact h
    · unfold stepInstruction
      dsimp only
      split
      · unfold decodeFailed
        dsimp only
        split
        · nofun
        · nofun
      · split
        · unfold executeFailed
          dsimp only
          split
          · nofun
          · nofun
        · split
          · unfold exceptionRaised
            dsimp only
            split
            · split
              · exact h
              · nofun
            · nofun
          · unfold commit
            dsimp only
            split
            · nofun
            · exact h

/-- A delivery that records something unsupported stops the processor. -/
theorem unsupportedStops_raiseException (trap : Option (TrapHandler (VirtualMemory δ)))
    (vm : VirtualMemory δ) (ex : CpuException) :
    UnsupportedStops (raiseException trap cpu vm ex).2.1 := by
  unfold raiseException
  dsimp only
  split
  · split
    · exact h
    · nofun
  · nofun

end Histories

/-- An operation that records something unsupported stops the processor. -/
theorem unsupportedStops_apply {s : System δ} (h : UnsupportedStops s.cpu) (op : Operation δ) :
    UnsupportedStops (op.apply s).cpu := by
  cases op with
  | step poll trap => exact unsupportedStops_step h poll trap s.vm
  | raiseException trap ex => exact unsupportedStops_raiseException h trap s.vm ex
  | reset => exact fun _ => rfl
  | setContext ctx => exact h
  | onMemory call => exact h

/-- Through any history, what records something unsupported stops the processor. -/
theorem unsupportedStops_history (space : AddressSpace δ) (ops : List (Operation δ)) :
    UnsupportedStops (history space ops).cpu := by
  have hrun : ∀ (ops : List (Operation δ)) (s : System δ), UnsupportedStops s.cpu →
      UnsupportedStops (ops.foldl Operation.apply s).cpu := by
    intro ops
    induction ops with
    | nil => exact fun s h => h
    | cons op ops ih => exact fun s h => ih _ (unsupportedStops_apply h op)
  exact hrun ops _ fun _ => rfl

/-- **Reports do not depend on the history.**  After any two histories that end with the
same context, registers and memory, both processors running, and leave nothing stale on
record, the next step reports the same from both, and an exception it reports is at its
own EIP and of the error it raised. -/
theorem reports_history_independent (space₁ space₂ : AddressSpace δ)
    (ops₁ ops₂ : List (Operation δ)) (poll : InterruptPoll)
    (trap : Option (TrapHandler (AddressSpace δ)))
    (hv : SameVisible (history space₁ ops₁) (history space₂ ops₂))
    (h₁ : NothingStale poll trap (history space₁ ops₁))
    (h₂ : NothingStale poll trap (history space₂ ops₂)) :
    report poll trap (history space₁ ops₁) = report poll trap (history space₂ ops₂) ∧
      ReportsTruly poll trap (history space₁ ops₁) ∧
      ReportsTruly poll trap (history space₂ ops₂) := by
  have hun : (history space₁ ops₁).cpu.lastUnsupported =
      (history space₂ ops₂).cpu.lastUnsupported := by
    rw [unsupportedStops_history space₁ ops₁ hv.left, unsupportedStops_history space₂ ops₂ hv.right]
  exact ⟨report_alike hv h₁ h₂ hun, reportsTruly hv.left h₁, reportsTruly hv.right h₂⟩

/-- A context at an address, all else as after reset. -/
def contextAt (eip : U32) : CpuContext := { eip := eip }

/-- The example space has no device. -/
theorem pagedSpace_ramOnly : pagedSpace.RamOnly := by
  intro r hr
  cases hr with
  | head => rfl
  | tail _ hr => cases hr

/-- A memory that was only translated through has nothing stale on record, when no page
fault is. -/
theorem nothingStale_calls (calls : List (VmCall Unit))
    (hcalls : ∀ call ∈ calls, call.storesMemory = false) (eip : U32)
    (hfault : (runCalls { physicalSpace := pagedSpace } calls).lastPageFault = none)
    (hspace : (runCalls { physicalSpace := pagedSpace } calls).physicalSpace = pagedSpace)
    (hdec : ∀ inst stream, decodeAt (contextAt eip) eip
      (runCalls { physicalSpace := pagedSpace } calls) ≠ .ok inst stream) :
    NothingStale none none
      ⟨{ context := contextAt eip }, runCalls { physicalSpace := pagedSpace } calls⟩ := by
  have hcoh : Coherent (runCalls { physicalSpace := pagedSpace } calls) :=
    coherent_runCalls (coherent_of_empty rfl) (tablesFixed_ramOnly pagedSpace_ramOnly hcalls)
  refine ⟨rfl, hfault, fun _ => hcoh, fun _ addr _ => ?_, fun _ ctx hgate => ?_, nofun⟩
  · dsimp only
    rw [hspace]
    exact pagedSpace_ramOnly.noDevice _ _ _
  · cases hgate with
    | interrupt h => exact absurd (pendingVector_none _) h
    | exception h => exact absurd h (hdec _ _)
    | untrapped h => exact absurd h (hdec _ _)
    | declined h => exact absurd h (hdec _ _)

/-- Two histories that differ in one cached translation, at a page that is not mapped. -/
theorem page_fault_reported_alike :
    let calls : List (VmCall Unit) := [.setCr3 0x1000, .setCr0 0x80000000]
    let s := history pagedSpace
      ((calls ++ [VmCall.translate 0x3010 .read]).map Operation.onMemory ++ [.setContext (contextAt 0x4000)])
    let t := history pagedSpace (calls.map Operation.onMemory ++ [.setContext (contextAt 0x4000)])
    s.vm.tlb 3 ≠ t.vm.tlb 3 ∧
      (report none none s).exception = some ⟨.pageFault, some 0x10, 0x4000, 0x4000⟩ ∧
      report none none s = report none none t := by
  intro calls s t
  have hdec : ∀ calls : List (VmCall Unit),
      (outcome (decodeAt (contextAt 0x4000) 0x4000
        (runCalls { physicalSpace := pagedSpace } calls))).toOption = none →
      ∀ inst stream, decodeAt (contextAt 0x4000) 0x4000
        (runCalls { physicalSpace := pagedSpace } calls) ≠ .ok inst stream := by
    intro calls hnone inst stream h
    rw [h] at hnone
    cases hnone
  refine ⟨by decide +kernel, by decide +kernel, ?_⟩
  refine (reports_history_independent pagedSpace pagedSpace _ _ none none ?_ ?_ ?_).1
  · exact ⟨rfl, rfl, rfl, rfl, rfl⟩
  · refine nothingStale_calls (calls ++ [VmCall.translate 0x3010 .read]) ?_ 0x4000 ?_ ?_ (hdec _ ?_)
    · decide
    · decide +kernel
    · rfl
    · decide +kernel
  · refine nothingStale_calls calls ?_ 0x4000 ?_ ?_ (hdec _ ?_)
    · decide
    · decide +kernel
    · rfl
    · decide +kernel

/-- A page fault of the past is reported for an invalid opcode of the present: the memory
faulted once while paging was on, and paging is off again. -/
theorem stale_page_fault_reported :
    let s := history pagedSpace [.onMemory (.setCr0 0x80000000), .onMemory (.translate 0 .read),
      .onMemory (.setCr0 0), .setContext (contextAt 0x100)]
    let t := history pagedSpace [.setContext (contextAt 0x100)]
    SameVisible s t ∧ (report none none s).exception.map CpuException.vector = some .pageFault ∧
      (report none none t).exception.map CpuException.vector = some .invalidOpcode ∧
      raisedVector none none s.cpu.context s.vm = some .invalidOpcode ∧
      report none none s ≠ report none none t ∧ ¬ ReportsTruly none none s := by
  intro s t
  have hs : (report none none s).exception.map CpuException.vector = some .pageFault := by
    decide +kernel
  have ht : (report none none t).exception.map CpuException.vector = some .invalidOpcode := by
    decide +kernel
  have hraised : raisedVector none none s.cpu.context s.vm = some .invalidOpcode := by
    decide +kernel
  refine ⟨⟨rfl, rfl, rfl, rfl, rfl⟩, hs, ht, hraised, fun heq => ?_, fun htruly => ?_⟩
  · rw [heq, ht] at hs
    cases hs
  · cases hex : (report none none s).exception with
    | none =>
      rw [hex] at hs
      cases hs
    | some ex =>
      have hvec := (htruly ex hex).2
      rw [hraised] at hvec
      rw [hex, Option.map_some, ← hvec] at hs
      cases hs

end Xblob.Analysis
