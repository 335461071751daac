import Xblob.Analysis.ExecutorShape
import Xblob.Analysis.PhysicalAccess
import Xblob.Interface.PreciseFaults

/-!
# Which faulting steps leave the machine as it was

Over an address space of RAM regions a read changes nothing and a refused write changes
nothing, so a transaction that fails has changed nothing.  Together with the shape of
the executors this settles every instruction but CMPXCHG; for that one the failing case
is followed to its end.
-/

set_option autoImplicit false

namespace Xblob.Analysis

open Xblob.Computation Xblob.Computation.Program Xblob.Memory Xblob.Memory.AddressSpace
  Xblob.Interface Xblob.Processor Xblob.Processor.Exec

variable {δ : Type}

/-! ## RAM -/

/-- The common shape of the writes over RAM: a region is resolved, and what is done with
it fails without effect or not at all. -/
theorem atomic_resolved {space : AddressSpace δ} (hram : space.RamOnly) {addr : GuestAddr}
    {len : GuestSize} {f : AddressSpace δ → Region δ → EStateM Error (AddressSpace δ) Unit}
    (hf : ∀ reg ram off, reg.type = .ram ram off → AtomicOn id (f space reg) space) :
    AtomicOn id (do
      let space ← get
      let reg ← ofExcept (space.resolveRegion addr len .write)
      f space reg) space := by
  refine (quiet_get space).bind_atomicOn fun _ hget => ?_
  cases hget
  refine (quiet_ofExcept _ space).bind_atomicOn fun reg hreg => ?_
  have hres : space.resolveRegion addr len .write = .ok reg := by
    cases hr : space.resolveRegion addr len .write with
    | ok reg' =>
      rw [hr] at hreg
      cases hreg
      rfl
    | error e =>
      rw [hr] at hreg
      cases hreg
  have hisRam := hram.resolved hres
  cases ht : reg.type with
  | ram ram off => exact hf reg ram off ht
  | mmio h => simp [Region.isRam, ht] at hisRam

/-- A byte write is atomic. -/
theorem atomic_write8 {space : AddressSpace δ} (hram : space.RamOnly) (addr : GuestAddr)
    (value : U8) : AtomicOn id (write8 addr value) space := by
  refine atomic_resolved hram fun reg ram off ht => ?_
  rw [ht]
  dsimp only
  split_ifs
  · exact ((quiet_throw _ space).keeps id).atomicOn
  · exact (sure_set _ space).atomicOn id

/-- A word write is atomic. -/
theorem atomic_write16 {space : AddressSpace δ} (hram : space.RamOnly) (addr : GuestAddr)
    (value : U16) : AtomicOn id (write16 addr value) space := by
  refine atomic_resolved hram fun reg ram off ht => ?_
  rw [ht]
  exact (sure_set _ space).atomicOn id

/-- A dword write is atomic. -/
theorem atomic_write32 {space : AddressSpace δ} (hram : space.RamOnly) (addr : GuestAddr)
    (value : U32) : AtomicOn id (write32 addr value) space := by
  refine atomic_resolved hram fun reg ram off ht => ?_
  rw [ht]
  exact (sure_set _ space).atomicOn id

/-! ## The machine over RAM -/

section Machine

variable {M : Type} {α : Type}

/-- A quiet memory access is a quiet one of the machine. -/
theorem quiet_onMemory {f : EStateM Error M α} {s : Machine M} (h : Quiet f s.mem) :
    Quiet (onMemory f) s :=
  h.zoom rfl

/-- An atomic memory access is an atomic one of the machine. -/
theorem atomic_onMemory {f : EStateM Error M α} {s : Machine M} (h : AtomicOn id f s.mem) :
    AtomicOn id (onMemory f) s := by
  refine AtomicOn.zoom h fun m hm => ?_
  have hm' : m = s.mem := hm
  rw [hm']

/-- A memory access that does not fail does not fail in the machine. -/
theorem sure_onMemory {f : EStateM Error M α} {s : Machine M} (h : Sure f s.mem) :
    Sure (onMemory f) s := by
  intro e s' hr
  unfold onMemory at hr
  rw [run_zoom] at hr
  cases hf : f.run s.mem with
  | ok a m => simp [hf] at hr
  | error e' m => exact h e' m hf

variable [GuestMemory M]

/-- Reading the context, run. -/
@[simp] theorem run_context (trap : Option (TrapHandler M)) (s : Machine M) :
    (context.run (Machine.answer trap)).run s = .ok s.ctx s := rfl

/-- Setting the context, run. -/
@[simp] theorem run_setContext (trap : Option (TrapHandler M)) (ctx : CpuContext)
    (s : Machine M) :
    ((setContext ctx).run (Machine.answer trap)).run s = .ok () { s with ctx := ctx } := rfl

/-- A byte read, run. -/
@[simp] theorem run_read8 (trap : Option (TrapHandler M)) (addr : GuestAddr) :
    (Exec.read8 addr).run (Machine.answer trap) = onMemory (GuestMemory.read8 addr) :=
  run_request _

/-- A word read, run. -/
@[simp] theorem run_read16 (trap : Option (TrapHandler M)) (addr : GuestAddr) :
    (Exec.read16 addr).run (Machine.answer trap) = onMemory (GuestMemory.read16 addr) :=
  run_request _

/-- A dword read, run. -/
@[simp] theorem run_read32 (trap : Option (TrapHandler M)) (addr : GuestAddr) :
    (Exec.read32 addr).run (Machine.answer trap) = onMemory (GuestMemory.read32 addr) :=
  run_request _

/-- A byte write, run. -/
@[simp] theorem run_write8 (trap : Option (TrapHandler M)) (addr : GuestAddr) (v : U8) :
    (Exec.write8 addr v).run (Machine.answer trap) = onMemory (GuestMemory.write8 addr v) :=
  run_request _

/-- A dword write, run. -/
@[simp] theorem run_write32 (trap : Option (TrapHandler M)) (addr : GuestAddr) (v : U32) :
    (Exec.write32 addr v).run (Machine.answer trap) = onMemory (GuestMemory.write32 addr v) :=
  run_request _

/-- A trap without a handler is declined. -/
@[simp] theorem run_trap_none (vector : U8) (s : Machine M) :
    ((trap vector).run (Machine.answer none)).run s = .ok false s := rfl

/-- Requests on the context do not fail. -/
theorem sure_answer (trap : Option (TrapHandler M)) (r : ExecRequest) (hr : OnContext r)
    (s : Machine M) : Sure (Machine.answer trap r) s := by
  cases r with
  | context =>
    intro e s' h
    cases h
  | setContext ctx => exact sure_modify _ s
  | _ => exact hr.elim

end Machine

/-- Looking is quiet over RAM. -/
theorem quiet_answer {s : Machine (AddressSpace δ)} (hram : s.mem.RamOnly) (r : ExecRequest)
    (hr : Looks r) : Quiet (Machine.answer none r) s := by
  cases r with
  | context => rfl
  | read8 addr => exact quiet_onMemory (quiet_read8 (hram.noDevice _ _ _))
  | read16 addr => exact quiet_onMemory (quiet_read16 (hram.noDevice _ _ _))
  | read32 addr => exact quiet_onMemory (quiet_read32 (hram.noDevice _ _ _))
  | _ => exact hr.elim

/-- Every request is atomic over RAM when no trap handler is installed. -/
theorem atomic_answer {s : Machine (AddressSpace δ)} (hram : s.mem.RamOnly) (r : ExecRequest) :
    AtomicOn id (Machine.answer none r) s := by
  cases r with
  | context => exact ((quiet_answer hram .context trivial).keeps id).atomicOn
  | setContext ctx => exact (sure_modify _ s).atomicOn id
  | read8 addr => exact ((quiet_answer hram (.read8 addr) trivial).keeps id).atomicOn
  | read16 addr => exact ((quiet_answer hram (.read16 addr) trivial).keeps id).atomicOn
  | read32 addr => exact ((quiet_answer hram (.read32 addr) trivial).keeps id).atomicOn
  | write8 addr v => exact atomic_onMemory (atomic_write8 hram addr v)
  | write16 addr v => exact atomic_onMemory (atomic_write16 hram addr v)
  | write32 addr v => exact atomic_onMemory (atomic_write32 hram addr v)
  | trap vector => exact (sure_pure false s).atomicOn id

/-- A computation that only looks is quiet over RAM. -/
theorem quiet_run {α : Type} {x : Exec α} (hx : Looking x) {s : Machine (AddressSpace δ)}
    (hram : s.mem.RamOnly) : Quiet (x.run (Machine.answer none)) s :=
  hx.quiet fun r hr => quiet_answer hram r hr

/-- A transaction that fails over RAM has changed nothing. -/
theorem atomic_run {α : Type} {x : Exec α} {Q : α → Prop} (hx : Storing x Q)
    {s : Machine (AddressSpace δ)} (hram : s.mem.RamOnly) :
    AtomicOn id (x.run (Machine.answer none)) s :=
  hx.atomic (fun r hr => quiet_answer hram r hr) (atomic_answer hram) (sure_answer none)

/-- Taking the next byte leaves the memory as it was. -/
theorem keeps_nextByte (s : InstructionStream (AddressSpace δ)) :
    Keeps InstructionStream.mem InstructionStream.nextByte s := by
  unfold InstructionStream.nextByte
  refine ((quiet_get s).keeps _).bind fun _ s' hget => ?_
  cases hget
  split_ifs
  · rfl
  · have hfetch := (quiet_fetch8 s.mem (s.eip + BitVec.ofNat 32 s.rawBytes.length)).adaptExcept
      fun e => ({ error := e } : DecodeError)
    refine (keeps_zoom hfetch fun _ => rfl).bind fun b s' _ => ?_
    rfl

/-- Decoding leaves the memory as it was. -/
theorem decodeAt_mem (ctx : CpuContext) (eip : GuestAddr) (space : AddressSpace δ) :
    (stateAfter (decodeAt ctx eip space)).mem = space := by
  refine keeps_run (g := InstructionStream.mem) (t := space) (fun r s hs => ?_) _ rfl
  cases r with
  | rawBytes => rfl
  | nextByte => exact keeps_nextByte s

/-! ## Compare and exchange -/

/-- Two searches of one list find the same region. -/
theorem resolveIn_agree {addr : GuestAddr} {len : GuestSize} {p q : MemoryPermission}
    {regions : List (Region δ)} {r₁ r₂ : Region δ} (h₁ : resolveIn addr len p regions = .ok r₁)
    (h₂ : resolveIn addr len q regions = .ok r₂) : r₁ = r₂ := by
  induction regions with
  | nil => cases h₁
  | cons r rs ih =>
    unfold resolveIn at h₁ h₂
    split_ifs at h₁ h₂ with hin
    · cases h₁
      cases h₂
      rfl
    · exact ih h₁ h₂

/-- Two accesses to one range resolve to one region, whatever they are for. -/
theorem resolveRegion_agree {space : AddressSpace δ} {addr : GuestAddr} {len : GuestSize}
    {p q : MemoryPermission} {r₁ r₂ : Region δ} (h₁ : space.resolveRegion addr len p = .ok r₁)
    (h₂ : space.resolveRegion addr len q = .ok r₂) : r₁ = r₂ := by
  unfold resolveRegion at h₁ h₂
  split_ifs at h₁ h₂
  exact resolveIn_agree h₁ h₂

/-- A dword compared with itself has the flags of equality. -/
theorem calculateSubFlags_self (a eflags : U32) :
    calculateSubFlags a a eflags = equalFlags eflags := by
  have hpar : calculateParity (lowByte 0#32) = true := by decide
  simp [calculateSubFlags, assembleFlags, equalFlags, flagIf, signBit, hpar]

/-- A byte compared with itself has the flags of equality. -/
theorem calculateSubFlags8_self (a : U8) (eflags : U32) :
    calculateSubFlags8 a a eflags = equalFlags eflags := by
  have hpar : calculateParity 0#8 = true := by decide
  simp [calculateSubFlags8, assembleFlags, equalFlags, flagIf, hpar]

/-- A byte widened has itself as its low byte. -/
theorem lowByte_setWidth (v : U8) : ((v.setWidth 32 : U32) &&& 0xFF).setWidth 8 = v := by
  have hmask : (v.setWidth 32 : U32) &&& 0xFF = v.setWidth 32 := by
    apply BitVec.eq_of_toNat_eq
    rw [BitVec.toNat_and]
    exact (Nat.and_two_pow_sub_one_eq_mod _ 8).trans (Nat.mod_eq_of_lt (by bv_omega))
  rw [hmask, BitVec.setWidth_setWidth_of_le v (by omega), BitVec.setWidth_eq]

/-- A byte that can be read is refused a write by its region or not at all. -/
theorem write8_sure {space : AddressSpace δ} {addr : GuestAddr} {v : U8} (hram : space.RamOnly)
    (hread : outcome ((AddressSpace.read8 addr).run space) = .ok v) {reg : Region δ}
    (hreg : space.resolveRegion addr 1#32 .write = .ok reg) (value : U8) :
    Sure (AddressSpace.write8 addr value) space := by
  cases hr : space.resolveRegion addr 1#32 .read with
  | error e => simp [AddressSpace.read8, hr] at hread
  | ok reg' =>
    cases resolveRegion_agree hreg hr
    cases ht : reg.type with
    | mmio h =>
      have hisRam := hram.resolved hreg
      simp [Region.isRam, ht] at hisRam
    | ram ram off =>
      have hsize : ¬ ramPos reg off addr ≥ (space.rams ram).size := by
        intro hge
        simp [AddressSpace.read8, hr, ht, Ram.read8, hge] at hread
      intro e s' hw
      simp [AddressSpace.write8, hreg, ht, hsize] at hw

/-- A dword is refused a write by its region or not at all. -/
theorem write32_sure {space : AddressSpace δ} {addr : GuestAddr} (hram : space.RamOnly)
    {reg : Region δ} (hreg : space.resolveRegion addr 4#32 .write = .ok reg) (value : U32) :
    Sure (AddressSpace.write32 addr value) space := by
  have hisRam := hram.resolved hreg
  cases ht : reg.type with
  | mmio h => simp [Region.isRam, ht] at hisRam
  | ram ram off =>
    intro e s' hw
    simp [AddressSpace.write32, hreg, ht] at hw
/-- Reading a memory operand over RAM. -/
theorem readOperand_memory {op : Operand} (hop : op.kind = .memory) {size : U8}
    (hsize : op.sizeBytes = size) (hwidth : size = 1 ∨ size = 4)
    {s : Machine (AddressSpace δ)} (hram : s.mem.RamOnly) :
    runExec none (readOperand op) s = match valueAt s.mem size op.memAddr with
      | .ok v => .ok v s
      | .error e => .error e s := by
  have hquiet := quiet_run (looking_readOperand op) hram
  have hval : outcome (runExec none (readOperand op) s) = valueAt s.mem size op.memAddr := by
    rcases hwidth with rfl | rfl
    · unfold readOperand valueAt runExec
      rw [hop, hsize]
      simp [onMemory, GuestMemory.read8]
      cases (AddressSpace.read8 op.memAddr).run s.mem <;> rfl
    · unfold readOperand valueAt runExec
      rw [hop, hsize]
      simp [onMemory, GuestMemory.read32]
      cases (AddressSpace.read32 op.memAddr).run s.mem <;> rfl
  rw [← hval]
  cases hr : runExec none (readOperand op) s with
  | ok v s' =>
    cases hquiet.ok hr
    rfl
  | error e s' =>
    cases hquiet.error hr
    rfl

/-- Reading a register operand succeeds and changes nothing. -/
theorem readOperand_register {op : Operand} (hop : op.kind = .register)
    {s : Machine (AddressSpace δ)} (hram : s.mem.RamOnly) :
    ∃ v, runExec none (readOperand op) s = .ok v s := by
  have hset : Committing (readOperand op) fun _ => True := by
    unfold readOperand
    rw [hop]
    refine ⟨trivial, fun ctx => ?_⟩
    dsimp only
    split_ifs <;> trivial
  have hsure := hset.sure (sure_answer none) s
  have hquiet := quiet_run (looking_readOperand op) hram
  cases hr : runExec none (readOperand op) s with
  | ok v s' =>
    cases hquiet.ok hr
    exact ⟨v, rfl⟩
  | error e s' => exact absurd hr (hsure e s')

/-- A write that fails with the resolution of its region and otherwise succeeds. -/
theorem refused_iff {s : Machine (AddressSpace δ)} (addr : GuestAddr) (len : GuestSize)
    {f : EStateM Error (AddressSpace δ) Unit}
    (herr : ∀ e, s.mem.resolveRegion addr len .write = .error e → f.run s.mem = .error e s.mem)
    (hok : ∀ reg, s.mem.resolveRegion addr len .write = .ok reg → Sure f s.mem) :
    (∃ e s', (onMemory f).run s = .error e s') ↔
      ∃ e, s.mem.resolveRegion addr len .write = .error e := by
  cases hreg : s.mem.resolveRegion addr len .write with
  | error e =>
    refine ⟨fun _ => ⟨e, rfl⟩, fun _ => ⟨e, s, ?_⟩⟩
    simp [onMemory, herr e hreg]
  | ok reg =>
    refine ⟨fun h => ?_, nofun⟩
    obtain ⟨e, s', h⟩ := h
    exact absurd h (sure_onMemory (hok reg hreg) e s')

/-- Writing a memory operand that can be read fails exactly when its region refuses it. -/
theorem writeOperand_memory {op : Operand} (hop : op.kind = .memory) {size : U8}
    (hsize : op.sizeBytes = size) (hwidth : size = 1 ∨ size = 4)
    {s : Machine (AddressSpace δ)} (hram : s.mem.RamOnly) {v : U32}
    (hread : valueAt s.mem size op.memAddr = .ok v) (value : U32) :
    (∃ e s', runExec none (writeOperand op value) s = .error e s') ↔
      ∃ e, s.mem.resolveRegion op.memAddr (size.setWidth 32) .write = .error e := by
  rcases hwidth with rfl | rfl
  · have hwrite : runExec none (writeOperand op value) s =
        (onMemory (AddressSpace.write8 op.memAddr ((value &&& 0xFF).setWidth 8))).run s := by
      unfold writeOperand runExec
      rw [hop, hsize]
      exact congrArg (fun f => EStateM.run f s) (run_write8 none op.memAddr _)
    have hbyte : ∃ b, outcome ((AddressSpace.read8 op.memAddr).run s.mem) = .ok b := by
      unfold valueAt at hread
      rw [if_pos rfl] at hread
      cases hr : outcome ((AddressSpace.read8 op.memAddr).run s.mem) with
      | ok b => exact ⟨b, rfl⟩
      | error e =>
        rw [hr] at hread
        cases hread
    obtain ⟨b, hb⟩ := hbyte
    rw [hwrite]
    refine refused_iff _ 1#32 (fun e hreg => ?_) fun reg hreg => write8_sure hram hb hreg _
    simp [AddressSpace.write8, hreg]
  · have hwrite : runExec none (writeOperand op value) s =
        (onMemory (AddressSpace.write32 op.memAddr value)).run s := by
      unfold writeOperand runExec
      rw [hop, hsize]
      exact congrArg (fun f => EStateM.run f s) (run_write32 none op.memAddr _)
    rw [hwrite]
    refine refused_iff _ 4#32 (fun e hreg => ?_) fun reg hreg => write32_sure hram hreg _
    simp [AddressSpace.write32, hreg]

/-- What a compare-exchange does once it has its operands: it sets the flags, then writes
the destination or loads the accumulator. -/
def exchange (inst : DecodedInstruction) (ctx : CpuContext) (flags : U32) (equal : Bool)
    (value : U32) (load : CpuContext → CpuContext) : Exec ExecutionResult := do
  setContext { ctx with eflags := flags }
  if equal then
    writeOperand inst.op1 value
    pure {}
  else
    modifyContext load
    pure {}

/-- CMPXCHG, both widths in one: with the destination's value `dest`, the comparison is with
the accumulator, and an equal one leaves the flags of equality. -/
theorem executeAtomic_cmpxchg {inst : DecodedInstruction} (hid : inst.id = .cmpxchg)
    (hop : inst.op1.kind = .memory) (hsize : inst.op1.sizeBytes = inst.dataSize)
    (hwidth : inst.dataSize = 1 ∨ inst.dataSize = 4) (hsrc : inst.op2.kind = .register)
    {s : Machine (AddressSpace δ)} (hram : s.mem.RamOnly) {dest : U32}
    (hread : valueAt s.mem inst.dataSize inst.op1.memAddr = .ok dest) :
    ∃ flags value load, (dest = accumulator s.ctx inst.dataSize → flags = equalFlags s.ctx.eflags) ∧
      runExec none (executeAtomic inst) s = runExec none (exchange inst s.ctx flags
        (dest = accumulator s.ctx inst.dataSize) value load) s := by
  obtain ⟨src, hsrc⟩ := readOperand_register hsrc hram
  have hdest := readOperand_memory hop hsize hwidth hram
  rw [hread] at hdest
  unfold runExec at hsrc hdest
  rcases hwidth with hw | hw
  · -- the destination is a byte, so masking it loses nothing
    obtain ⟨b, rfl⟩ : ∃ b : U8, dest = b.setWidth 32 := by
      unfold valueAt at hread
      rw [if_pos hw] at hread
      cases hr : outcome ((AddressSpace.read8 inst.op1.memAddr).run s.mem) with
      | ok b =>
        rw [hr] at hread
        cases hread
        exact ⟨b, rfl⟩
      | error e =>
        rw [hr] at hread
        cases hread
    have hacc : b.setWidth 32 = accumulator s.ctx inst.dataSize ↔ s.ctx.getGpr8 0 = b := by
      unfold accumulator
      rw [if_pos hw]
      constructor
      · intro h
        rw [← lowByte_setWidth b, h, lowByte_setWidth]
      · intro h
        rw [h]
    refine ⟨calculateSubFlags8 (s.ctx.getGpr8 0) b s.ctx.eflags, src &&& 0xFF,
      fun ctx => ctx.setGpr8 0 b, fun h => ?_, ?_⟩
    · rw [hacc.1 h, calculateSubFlags8_self]
    · unfold executeAtomic runExec exchange
      rw [hid]
      simp only [Program.run_bind, EStateM.run_bind, hdest, hsrc, run_context, if_pos hw,
        lowByte_setWidth, hacc, decide_eq_true_eq]
  · have hne : inst.dataSize ≠ 1 := by
      rw [hw]
      decide
    have hacc : dest = accumulator s.ctx inst.dataSize ↔ s.ctx.gpr .eax = dest := by
      unfold accumulator
      rw [if_neg hne]
      exact eq_comm
    refine ⟨calculateSubFlags (s.ctx.gpr .eax) dest s.ctx.eflags, src,
      fun ctx => ctx.setGpr .eax dest, fun h => ?_, ?_⟩
    · rw [hacc.1 h, calculateSubFlags_self]
    · unfold executeAtomic runExec exchange
      rw [hid]
      simp only [Program.run_bind, EStateM.run_bind, hdest, hsrc, run_context, if_neg hne,
        hacc, decide_eq_true_eq]

/-- An exchange that compares unequal does not fail. -/
theorem exchange_unequal (inst : DecodedInstruction) (ctx : CpuContext) (flags value : U32)
    (load : CpuContext → CpuContext) (s : Machine (AddressSpace δ)) :
    Sure ((exchange inst ctx flags false value load).run (Machine.answer none)) s := by
  have hset : Committing (exchange inst ctx flags false value load) fun _ => True :=
    ⟨trivial, fun _ => ⟨trivial, fun _ => ⟨trivial, fun _ => trivial⟩⟩⟩
  exact hset.sure (sure_answer none) s

/-- The machine with other flags. -/
def withFlags (s : Machine (AddressSpace δ)) (flags : U32) : Machine (AddressSpace δ) :=
  { s with ctx := { s.ctx with eflags := flags } }

/-- An exchange that compares equal fails with the write of its destination, and leaves the
flags of the comparison behind. -/
theorem exchange_equal {inst : DecodedInstruction} {s : Machine (AddressSpace δ)}
    (hram : s.mem.RamOnly) (flags value : U32) (load : CpuContext → CpuContext) (e : Error)
    (s' : Machine (AddressSpace δ)) :
    runExec none (exchange inst s.ctx flags true value load) s = .error e s' ↔
      s' = withFlags s flags ∧
        runExec none (writeOperand inst.op1 value) s' = .error e s' := by
  have hatomic := atomic_run (storing_writeOperand inst.op1 value) (s := withFlags s flags) hram
  have hset : ((setContext { s.ctx with eflags := flags }).run (Machine.answer none)).run s =
      .ok () (withFlags s flags) := rfl
  unfold runExec exchange
  simp only [Program.run_bind, EStateM.run_bind, hset, if_true]
  cases hw : ((writeOperand inst.op1 value).run (Machine.answer none)).run (withFlags s flags) with
  | ok u s₁ =>
    refine ⟨nofun, fun h => ?_⟩
    obtain ⟨rfl, h⟩ := h
    rw [hw] at h
    cases h
  | error e₁ s₁ =>
    have hs₁ : s₁ = withFlags s flags := hatomic e₁ s₁ hw
    constructor
    · intro h
      cases h
      exact ⟨hs₁, by rw [← hs₁] at hw; exact hw⟩
    · intro h
      obtain ⟨rfl, h⟩ := h
      rw [hw] at h
      cases h
      rfl

/-! ## One instruction -/

/-- An execution that is undone by failing: an error or an exception leaves the machine as
it was. -/
def Undone (x : Exec ExecutionResult) (s : Machine (AddressSpace δ)) : Prop :=
  (∀ e s', runExec none x s = .error e s' → s' = s) ∧
    ∀ r s', runExec none x s = .ok r s' → r.exception ≠ none → s' = s

/-- What looks, makes one change and is then committed is undone on an error. -/
theorem undone_of_storing {x : Exec ExecutionResult} (hx : Storing x NoException)
    {s : Machine (AddressSpace δ)} (hram : s.mem.RamOnly) : Undone x s := by
  refine ⟨fun e s' h => atomic_run hx hram e s' h, fun r s' h hex => ?_⟩
  rcases hx.unchanged_or (fun r hr => quiet_answer hram r hr) h with hs | hnone
  · exact hs
  · exact absurd hnone hex

/-- An execution that ends in an error, as it is to be shown undone. -/
theorem undone_of_error {x : Exec ExecutionResult} {s : Machine (AddressSpace δ)} {e : Error}
    (h : runExec none x s = .error e s) : Undone x s := by
  constructor
  · intro e' s' h'
    rw [h] at h'
    cases h'
    rfl
  · intro r s' h'
    rw [h] at h'
    cases h'

/-- With an empty IDT nothing is delivered. -/
theorem deliverGate_limit_zero {s : Machine (AddressSpace δ)} (hlimit : s.ctx.idtr.limit = 0)
    (vector : U8) (errorCode : Option U32) (software : Bool) (returnEip : U32) :
    ∃ e, runExec none (deliverGate vector errorCode software returnEip) s = .error e s := by
  have hoffset : vector.setWidth 32 * 8 + 7 > (s.ctx.idtr.limit.setWidth 32 : U32) := by
    rw [hlimit]
    bv_omega
  unfold runExec deliverGate readGate
  simp only [Program.run_bind, EStateM.run_bind, run_context, if_pos hoffset]
  exact ⟨_, rfl⟩

/-- INT without an interrupt table is undone. -/
theorem undone_int {inst : DecodedInstruction} (hid : inst.id = .int) (currentEip : U32)
    {s : Machine (AddressSpace δ)} (hlimit : s.ctx.idtr.limit = 0) :
    Undone (execute inst currentEip) s := by
  obtain ⟨e, hgate⟩ := deliverGate_limit_zero hlimit inst.intVector none true
    (currentEip + inst.length.setWidth 32)
  have hrun : runExec none (execute inst currentEip) s = .error e s := by
    unfold execute executeInterruptInstruction
    rw [hid]
    unfold runExec at hgate ⊢
    simp only [Program.run_bind, EStateM.run_bind, run_trap_none, Bool.false_eq_true, if_false,
      hgate]
  exact undone_of_error hrun

/-- A compare-exchange with a register destination is a transaction. -/
theorem storing_cmpxchg_register {inst : DecodedInstruction} (hid : inst.id = .cmpxchg)
    (hop : inst.op1.kind = .register) : Storing (executeAtomic inst) NoException := by
  unfold executeAtomic
  rw [hid]
  refine looking_then (looking_readOperand _) fun dest => ?_
  refine looking_then (looking_readOperand _) fun src => ?_
  refine looking_then looking_context fun ctx => ?_
  split_ifs
  all_goals refine .inr fun _ => ?_
  all_goals dsimp only
  all_goals split_ifs
  · exact (committing_writeRegister hop _).bind fun _ _ => rfl
  · exact committing_modify _ rfl
  · exact (committing_writeRegister hop _).bind fun _ _ => rfl
  · exact committing_modify _ rfl

/-- A compare-exchange raises no exception. -/
theorem returns_executeAtomic {inst : DecodedInstruction} (hid : inst.id = .cmpxchg) :
    (executeAtomic inst).Within (fun _ => True) NoException := by
  unfold executeAtomic
  rw [hid]
  refine within_then fun dest => within_then fun src => within_then fun ctx => ?_
  split_ifs
  all_goals refine within_then fun _ => ?_
  all_goals dsimp only
  all_goals split_ifs
  all_goals exact within_then fun _ => rfl

/-- A compare-exchange with a memory destination is undone by failing, except in the one
case. -/
theorem undone_cmpxchg_memory_iff {inst : DecodedInstruction} (hid : inst.id = .cmpxchg)
    (hform : ExchangeForm inst) (hop : inst.op1.kind = .memory)
    {s : Machine (AddressSpace δ)} (hram : s.mem.RamOnly) :
    Undone (executeAtomic inst) s ↔ ¬ RefusedExchange s.ctx s.mem inst := by
  cases hread : valueAt s.mem inst.dataSize inst.op1.memAddr with
  | error e =>
    have hnot : ¬ RefusedExchange s.ctx s.mem inst := by
      intro h
      rw [h.equal] at hread
      cases hread
    refine iff_of_true ?_ hnot
    have hdest := readOperand_memory hop (hform.size hid) (hform.width hid) hram
    rw [hread] at hdest
    have hrun : runExec none (executeAtomic inst) s = .error e s := by
      unfold executeAtomic
      rw [hid]
      unfold runExec at hdest ⊢
      simp only [Program.run_bind, EStateM.run_bind, hdest]
    exact undone_of_error hrun
  | ok dest =>
    obtain ⟨flags, value, load, hflags, hrun⟩ := executeAtomic_cmpxchg hid hop (hform.size hid)
      (hform.width hid) (hform.source hid) hram hread
    by_cases hacc : dest = accumulator s.ctx inst.dataSize
    · have hvalue := writeOperand_memory hop (hform.size hid) (hform.width hid)
        (s := withFlags s flags) hram hread value
      rw [decide_eq_true hacc] at hrun
      constructor
      · -- were it refused, failing would leave the flags of the comparison
        intro hundone href
        obtain ⟨e, s', hw⟩ := hvalue.2 href.refused
        have hs' : s' = withFlags s flags :=
          atomic_run (storing_writeOperand inst.op1 value) (s := withFlags s flags) hram e s' hw
        rw [hs'] at hw
        have herr := (exchange_equal hram flags value load e _).2 ⟨rfl, hw⟩
        have hback := hundone.1 e _ (hrun.trans herr)
        have heflags : flags = s.ctx.eflags := congrArg (fun t => t.ctx.eflags) hback
        exact href.flags ((hflags hacc).symm.trans heflags)
      · intro hnot
        refine ⟨fun e s' h => ?_, fun r s' h hex => absurd ?_ hex⟩
        · rw [hrun] at h
          obtain ⟨rfl, hw⟩ := (exchange_equal hram flags value load e s').1 h
          by_cases heflags : equalFlags s.ctx.eflags = s.ctx.eflags
          · rw [hflags hacc, heflags]
            rfl
          · refine absurd ?_ hnot
            exact ⟨hid, hop, by rw [hread, hacc], hvalue.1 ⟨e, _, hw⟩, heflags⟩
        · exact (returns_executeAtomic hid).returns h
    · have hnot : ¬ RefusedExchange s.ctx s.mem inst := by
        intro h
        rw [h.equal] at hread
        cases hread
        exact hacc rfl
      refine iff_of_true ?_ hnot
      rw [decide_eq_false hacc] at hrun
      refine ⟨fun e s' h => ?_, fun r s' h hex => absurd ?_ hex⟩
      · rw [hrun] at h
        exact absurd h (exchange_unequal _ _ _ _ _ s e s')
      · exact (returns_executeAtomic hid).returns h

/-- **One instruction.** With an empty IDT, an instruction as the decoder gives it is undone
by failing, except in the one case. -/
theorem undone_execute_iff {inst : DecodedInstruction} (hform : ExchangeForm inst)
    (currentEip : U32) {s : Machine (AddressSpace δ)} (hram : s.mem.RamOnly)
    (hlimit : s.ctx.idtr.limit = 0) :
    Undone (execute inst currentEip) s ↔ ¬ RefusedExchange s.ctx s.mem inst := by
  by_cases hcmp : inst.id = .cmpxchg
  · have hexec : execute inst currentEip = executeAtomic inst := by
      unfold execute
      rw [hcmp]
    rw [hexec]
    rcases hform.destination hcmp with hreg | hmem
    · refine iff_of_true (undone_of_storing (storing_cmpxchg_register hcmp hreg) hram) ?_
      intro h
      rw [h.memory] at hreg
      cases hreg
    · exact undone_cmpxchg_memory_iff hcmp hform hmem hram
  · refine iff_of_true ?_ fun h => hcmp h.id
    by_cases hint : inst.id = .int
    · exact undone_int hint currentEip hlimit
    · exact undone_of_storing (storing_execute hform.xchg hcmp hint currentEip) hram

/-! ## One step -/

/-- What is decoded at EIP has the form of an exchange, and the memory is untouched. -/
theorem decodeAt_ok {ctx : CpuContext} {eip : GuestAddr} {space : AddressSpace δ}
    {inst : DecodedInstruction} {stream : InstructionStream (AddressSpace δ)}
    (h : decodeAt ctx eip space = .ok inst stream) : ExchangeForm inst ∧ stream.mem = space := by
  refine ⟨(decode_exchangeForm ctx eip).returns h, ?_⟩
  have hmem := decodeAt_mem ctx eip space
  rw [h] at hmem
  exact hmem

/-- With no interrupt source nothing is pending. -/
theorem pendingVector_none (ctx : CpuContext) : pendingVector none ctx = none := by
  unfold pendingVector
  split_ifs <;> rfl

/-- A step of a running processor with nothing pending is one instruction. -/
theorem step_running {cpu : Cpu} (hrun : cpu.lifecycle = .running)
    {trap : Option (TrapHandler (AddressSpace δ))} (space : AddressSpace δ) :
    step none trap cpu space = stepInstruction trap cpu space := by
  unfold step
  rw [hrun]
  dsimp only
  rw [pendingVector_none]

/-- A step over an instruction that decodes, executes and raises nothing. -/
theorem step_decoded {cpu : Cpu} (hrun : cpu.lifecycle = .running)
    {trap : Option (TrapHandler (AddressSpace δ))} {space : AddressSpace δ}
    {inst : DecodedInstruction}
    (hdec : outcome (decodeAt cpu.context cpu.context.eip space) = .ok inst)
    {r : ExecutionResult} {s : Machine (AddressSpace δ)}
    (hexec : runExec trap (execute inst cpu.context.eip) ⟨cpu.context, space⟩ = .ok r s)
    (hex : r.exception = none) :
    step none trap cpu space = commit cpu cpu.context.eip inst s r := by
  have hok := eq_ok_of_outcome hdec
  have hmem := decodeAt_mem cpu.context cpu.context.eip space
  rw [step_running hrun]
  unfold stepInstruction
  dsimp only
  rw [hok]
  dsimp only
  rw [hmem, hexec]
  dsimp only
  rw [hex]

/-- A refused compare-exchange fails and leaves something changed. -/
theorem refusedExchange_fails {inst : DecodedInstruction} (hform : ExchangeForm inst)
    (currentEip : U32) {s : Machine (AddressSpace δ)} (hram : s.mem.RamOnly)
    (hlimit : s.ctx.idtr.limit = 0) (href : RefusedExchange s.ctx s.mem inst) :
    ∃ e s', runExec none (execute inst currentEip) s = .error e s' ∧ s' ≠ s := by
  by_contra hnone
  push Not at hnone
  refine (undone_execute_iff hform currentEip hram hlimit).1 ⟨hnone, fun r s' h hex => ?_⟩ href
  have hexec : execute inst currentEip = executeAtomic inst := by
    unfold execute
    rw [href.id]
  rw [hexec] at h
  exact absurd ((returns_executeAtomic href.id).returns h) hex

/-- A failed decoding leaves context and memory. -/
theorem decodeFailed_keeps (cpu : Cpu) (space : AddressSpace δ) (e : DecodeError) :
    (decodeFailed cpu space e).2.1.context = cpu.context ∧
      (decodeFailed cpu space e).2.2 = space := by
  unfold decodeFailed
  dsimp only
  split_ifs <;> exact ⟨rfl, rfl⟩

/-- A failed execution faults, with the context and memory it left. -/
theorem executeFailed_leaves {M : Type} [GuestMemory M] (cpu : Cpu) (startEip : U32)
    (inst : DecodedInstruction) (s : Machine M) (e : Error) :
    (executeFailed cpu startEip inst s e).1.result = .faulted ∧
      (executeFailed cpu startEip inst s e).2.1.context = s.ctx ∧
      (executeFailed cpu startEip inst s e).2.2 = s.mem := by
  unfold executeFailed
  dsimp only
  split_ifs <;> exact ⟨rfl, rfl, rfl⟩

/-- An exception without an interrupt table leaves context and memory. -/
theorem exceptionRaised_leaves (cpu : Cpu) (inst : DecodedInstruction)
    {s : Machine (AddressSpace δ)} (hlimit : s.ctx.idtr.limit = 0) (ex : CpuException) :
    (exceptionRaised none cpu inst s ex).2.1.context = s.ctx ∧
      (exceptionRaised none cpu inst s ex).2.2 = s.mem := by
  have hno : ¬ s.ctx.idtr.limit > 0 := by
    rw [hlimit]
    decide
  unfold exceptionRaised
  dsimp only
  rw [if_neg hno]
  exact ⟨rfl, rfl⟩

/-- An instruction that is committed has not faulted. -/
theorem commit_not_faulted {M : Type} [GuestMemory M] (cpu : Cpu) (startEip : U32)
    (inst : DecodedInstruction) (s : Machine M) (r : ExecutionResult) :
    (commit cpu startEip inst s r).1.result ≠ .faulted := by
  unfold commit
  dsimp only
  split_ifs <;> exact nofun

/-- **Faults are precise except at a refused compare-exchange.**  For every running
processor with an empty IDT and every address space of RAM regions, with no interrupt
pending and no trap handler, a step that reports a fault leaves every register and every
byte of memory as it was, if and only if the instruction at EIP is not a compare-exchange
whose destination can be read, equals the accumulator and refuses the write, with flags
other than those of an equal comparison. -/
theorem faultsPrecisely_iff (cpu : Cpu) (space : AddressSpace δ)
    (hrun : cpu.lifecycle = .running) (hlimit : cpu.context.idtr.limit = 0)
    (hram : space.RamOnly) :
    FaultsPrecisely cpu space ↔ ¬ AtRefusedExchange cpu.context space := by
  constructor
  · rintro hprecise ⟨inst, stream, hdec, href⟩
    obtain ⟨hform, hmem⟩ := decodeAt_ok hdec
    obtain ⟨e, s', hexec, hne⟩ := refusedExchange_fails hform cpu.context.eip
      (s := ⟨cpu.context, space⟩) hram hlimit href
    have hstep : step none none cpu space = executeFailed cpu cpu.context.eip inst s' e := by
      rw [step_running hrun]
      unfold stepInstruction
      dsimp only
      rw [hdec]
      dsimp only
      rw [hmem, hexec]
    have hleft := executeFailed_leaves cpu cpu.context.eip inst s' e
    generalize executeFailed cpu cpu.context.eip inst s' e = t at hstep hleft
    obtain ⟨outcome, cpu', space'⟩ := t
    obtain ⟨hresult, hctx, hspace⟩ := hleft
    dsimp only at hctx hspace
    obtain ⟨hctx', hspace'⟩ := hprecise outcome cpu' space' hstep hresult
    refine hne ?_
    cases s' with
    | mk ctx mem =>
      rw [← hctx', ← hspace', hctx, hspace]
  · intro hnot outcome cpu' space' hstep hresult
    rw [step_running hrun] at hstep
    unfold stepInstruction at hstep
    dsimp only at hstep
    cases hdec : decodeAt cpu.context cpu.context.eip space with
    | error e stream =>
      have hmem := decodeAt_mem cpu.context cpu.context.eip space
      rw [hdec] at hmem hstep
      have hkeep := decodeFailed_keeps cpu stream.mem e
      dsimp only at hstep
      rw [hstep] at hkeep
      exact ⟨hkeep.1, hkeep.2.trans hmem⟩
    | ok inst stream =>
      obtain ⟨hform, hmem⟩ := decodeAt_ok hdec
      have hundone := (undone_execute_iff hform cpu.context.eip (s := ⟨cpu.context, space⟩)
        hram hlimit).2 fun href => hnot ⟨inst, stream, hdec, href⟩
      rw [hdec] at hstep
      dsimp only at hstep
      rw [hmem] at hstep
      cases hexec : runExec none (execute inst cpu.context.eip) ⟨cpu.context, space⟩ with
      | error e s' =>
        cases hundone.1 e s' hexec
        rw [hexec] at hstep
        have hleft := executeFailed_leaves cpu cpu.context.eip inst ⟨cpu.context, space⟩ e
        dsimp only at hstep
        rw [hstep] at hleft
        exact hleft.2
      | ok r s' =>
        rw [hexec] at hstep
        dsimp only at hstep
        cases hex : r.exception with
        | none =>
          rw [hex] at hstep
          have hcommit := commit_not_faulted cpu cpu.context.eip inst s' r
          dsimp only at hstep
          rw [hstep] at hcommit
          exact absurd hresult hcommit
        | some ex =>
          cases hundone.2 r s' hexec (by rw [hex]; exact nofun)
          rw [hex] at hstep
          have hleft := exceptionRaised_leaves cpu inst (s := ⟨cpu.context, space⟩) hlimit ex
          dsimp only at hstep
          rw [hstep] at hleft
          exact hleft

/-! ## The case itself -/

/-- `LOCK`-free `CMPXCHG [0x2000], ECX` at 0x1000, and zeroes elsewhere. -/
def exchangeCode : List U8 := [0x0F, 0xB1, 0x0D, 0x00, 0x20, 0x00, 0x00]

/-- A bank mapped at its own addresses: code, then data that can be read and not written. -/
def readOnlySpace : AddressSpace Unit where
  regions := [⟨0x1000, 0x1000, .readExecute, .ram 0 0x1000⟩, ⟨0x2000, 0x1000, .read, .ram 0 0x2000⟩]
  rams := fun _ => { size := kRamSizeRetail, data := fun i => exchangeCode.getD (i - 0x1000) 0 }
  devices := ()

/-- A processor about to run it, as `Reset` leaves it. -/
def exchangeCpu : Cpu := { context := { eip := 0x1000 } }

/-- The example space has no device. -/
theorem readOnlySpace_ramOnly : readOnlySpace.RamOnly := by
  intro r hr
  simp only [readOnlySpace, List.mem_cons, List.not_mem_nil, or_false] at hr
  rcases hr with rfl | rfl
  · rfl
  · rfl

/-- A refused store in place of the exchange: `MOV [0x2000], EAX`. -/
def storeSpace : AddressSpace Unit :=
  { readOnlySpace with
    rams := fun _ =>
      { size := kRamSizeRetail, data := fun i => [0xA3, 0x00, 0x20].getD (i - 0x1000) (0 : U8) } }

/-- The refused store faults and leaves everything as it was. -/
theorem mov_fault_precise :
    (step none none exchangeCpu storeSpace).1.result = .faulted ∧
      FaultsPrecisely exchangeCpu storeSpace := by
  have hid : (outcome (decodeAt exchangeCpu.context exchangeCpu.context.eip storeSpace)).map
      DecodedInstruction.id = .ok .mov := by
    decide +kernel
  refine ⟨by decide +kernel, ?_⟩
  refine (faultsPrecisely_iff exchangeCpu storeSpace rfl rfl
    fun r hr => readOnlySpace_ramOnly r hr).2 ?_
  rintro ⟨inst, stream, hdec, href⟩
  rw [hdec] at hid
  have hmov : inst.id = .mov := Except.ok.inj hid
  rw [href.id] at hmov
  cases hmov

/-- The step at the refused exchange faults and sets ZF and PF. -/
theorem cmpxchg_fault_keeps_flags :
    (step none none exchangeCpu readOnlySpace).1.result = .faulted ∧
      (step none none exchangeCpu readOnlySpace).2.1.context.eflags = 0x46 ∧
      exchangeCpu.context.eflags = 0x02 ∧ ¬ FaultsPrecisely exchangeCpu readOnlySpace := by
  have hfault : (step none none exchangeCpu readOnlySpace).1.result = .faulted := by
    decide +kernel
  have hflags : (step none none exchangeCpu readOnlySpace).2.1.context.eflags = 0x46 := by
    decide +kernel
  refine ⟨hfault, hflags, rfl, fun hprecise => ?_⟩
  unfold FaultsPrecisely at hprecise
  generalize step none none exchangeCpu readOnlySpace = t at hfault hflags hprecise
  obtain ⟨outcome, cpu', space'⟩ := t
  have hctx := (hprecise outcome cpu' space' rfl hfault).1
  dsimp only at hflags
  rw [hctx] at hflags
  exact absurd hflags (by decide)

end Xblob.Analysis
