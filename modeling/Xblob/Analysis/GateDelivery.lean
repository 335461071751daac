import Xblob.Analysis.ExceptionReports
import Xblob.Analysis.RepeatedStrings
import Xblob.Analysis.SplitWrites
import Xblob.Interface.Interrupts

/-!
# When a failed delivery leaves a trace

Reading and checking the gate changes no byte, and entering it cannot fail: all that a failed
delivery can leave is a torn frame.
-/

set_option autoImplicit false

namespace Xblob.Analysis

open Xblob.Computation Xblob.Computation.Program Xblob.Memory Xblob.Memory.AddressSpace
open Xblob.Processor Xblob.Processor.Exec Xblob.Interface

variable {δ M β : Type} [GuestMemory M]

/-! ## The frame -/

/-- Storing dwords one after the other. -/
def storeWords : List (GuestAddr × U32) → EStateM Error M Unit
  | [] => pure ()
  | (addr, value) :: words => do
    GuestMemory.write32 addr value
    storeWords words

/-! ### Cells -/

/-- The last byte put in a cell is that of the second list, or else of the first. -/
theorem lastPut_append (c : Cell) (before after : List (Cell × U8)) :
    lastPut c (before ++ after) = (lastPut c after).or (lastPut c before) := by
  induction before with
  | nil => simp [lastPut]
  | cons store before ih =>
    obtain ⟨d, b⟩ := store
    simp only [List.cons_append, lastPut, ih, Option.or_assoc]

/-- Nothing put changes no bank. -/
@[simp] theorem putCells_nil (rams : ℕ → Ram) : putCells rams [] = rams := rfl

/-- Bytes that are put into cells after others. -/
theorem putCells_append (rams : ℕ → Ram) (before after : List (Cell × U8)) :
    putCells rams (before ++ after) = putCells (putCells rams before) after := by
  funext ram
  simp only [putCells, Ram.mk.injEq, true_and]
  funext offset
  rw [lastPut_append]
  cases lastPut (ram, offset) after <;> rfl

/-- A byte stored through the pointer of a bank is put into a cell. -/
theorem update_poke (rams : ℕ → Ram) (ram pos : ℕ) (b : U8) :
    Function.update rams ram ((rams ram).poke pos b) = putCells rams [((ram, pos), b)] := by
  funext ram'
  by_cases hram : ram' = ram
  · subst hram
    rw [Function.update_self]
    simp only [putCells, Ram.poke, lastPut, Option.none_or, Prod.mk.injEq, true_and, Ram.mk.injEq]
    funext pos'
    by_cases hpos : pos = pos'
    · rw [hpos, Function.update_self, if_pos rfl, Option.getD_some]
    · rw [Function.update_of_ne (Ne.symm hpos), if_neg hpos, Option.getD_none]
  · rw [Function.update_of_ne hram]
    simp only [putCells, lastPut, Option.none_or, Prod.mk.injEq, Ne.symm hram, false_and, if_false,
      Option.getD_none]

/-- Bytes stored one after the other through the pointer of a bank. -/
theorem update_pokeBytes (rams : ℕ → Ram) (ram pos : ℕ) (b : U8) (bytes : List U8) :
    Function.update rams ram ((rams ram).pokeBytes pos (b :: bytes)) =
      Function.update (putCells rams [((ram, pos), b)]) ram
        ((putCells rams [((ram, pos), b)] ram).pokeBytes (pos + 1) bytes) := by
  rw [← update_poke, Function.update_self, Function.update_idem]
  rfl

/-- A dword stored through the pointer of a bank is put into four cells. -/
theorem update_pokeDword (rams : ℕ → Ram) (ram pos : ℕ) (b₀ b₁ b₂ b₃ : U8) :
    Function.update rams ram ((rams ram).pokeBytes pos [b₀, b₁, b₂, b₃]) = putCells rams
      [((ram, pos), b₀), ((ram, pos + 1), b₁), ((ram, pos + 2), b₂), ((ram, pos + 3), b₃)] := by
  simp only [update_pokeBytes, ← putCells_append]
  rw [Ram.pokeBytes, Function.update_eq_self]
  rfl

/-- The banks are as before exactly when every cell was given the byte it had. -/
theorem putCells_eq_iff {rams : ℕ → Ram} {stored : List (Cell × U8)} : putCells rams stored = rams ↔
    ∀ c b, lastPut c stored = some b → b = (rams c.1).data c.2 := by
  constructor
  · intro h c b hlast
    have hcell := congrArg (fun rams : ℕ → Ram => (rams c.1).data c.2) h
    simpa [putCells, hlast] using hcell
  · intro h
    funext ram
    simp only [putCells]
    congr 1
    funext offset
    cases hlast : lastPut (ram, offset) stored with
    | none => rfl
    | some b => exact h (ram, offset) b hlast

/-! ### Pieces -/

/-- Storing a piece. -/
def storePiece : Piece → EStateM Error (AddressSpace δ) Unit
  | .dword addr value => AddressSpace.write32 addr value
  | .byte addr b => AddressSpace.write8 addr b

/-- Storing pieces one after the other. -/
def storePieces : List Piece → EStateM Error (AddressSpace δ) Unit
  | [] => pure ()
  | p :: ps => do
    storePiece p
    storePieces ps

/-- What a device window does with a dword, by what it answers. -/
theorem writeMmio_run_dword (h : MmioHandler δ) (reg : Region δ) (addr : GuestAddr) (value : U32)
    (space : AddressSpace δ) :
    match deviceTakesDword h reg addr value space.devices with
    | some d => (writeMmio h reg addr .dword value).run space = .ok () { space with devices := d }
    | none => ∃ e d, (writeMmio h reg addr .dword value).run space =
        .error e { space with devices := d } := by
  unfold deviceTakesDword writeMmio
  cases h.write with
  | none => exact ⟨_, space.devices, rfl⟩
  | some write =>
    simp only [onDevices, run_zoom]
    cases (write (addr - reg.base) .dword value).run space.devices with
    | ok u d => rfl
    | error e d => exact ⟨e, d, rfl⟩

/-- A piece is taken or refused as its region says, and a refused piece changes no byte. -/
theorem storePiece_run (space : AddressSpace δ) (p : Piece) :
    match p.taken space with
    | some (cells, d) => (storePiece p).run space =
        .ok () { space with rams := putCells space.rams cells, devices := d }
    | none => ∃ e space', (storePiece p).run space = .error e space' ∧
        space'.rams = space.rams := by
  cases p with
  | dword addr value =>
    simp only [Piece.taken, storePiece, AddressSpace.write32, EStateM.run_bind, EStateM.run_get,
      run_ofExcept]
    cases space.resolveRegion addr 4 .write with
    | error e => exact ⟨e, space, rfl, rfl⟩
    | ok reg =>
      dsimp only
      cases reg.type with
      | ram ram off =>
        simp only [EStateM.run_set, setRam, update_pokeDword]
      | mmio h =>
        have hdev := writeMmio_run_dword h reg addr value space
        dsimp only
        revert hdev
        cases deviceTakesDword h reg addr value space.devices with
        | none =>
          rintro ⟨e, d, hrun⟩
          exact ⟨e, _, hrun, rfl⟩
        | some d => exact id
  | byte addr b =>
    have hwrite := write8_run space addr b
    simp only [Piece.taken, storePiece]
    cases ht : space.byteTarget addr with
    | refused e =>
      rw [ht] at hwrite
      exact ⟨e, space, hwrite, rfl⟩
    | cell ram offset =>
      rw [ht] at hwrite
      simp only [hwrite, setRam, update_poke]
    | device h reg =>
      rw [ht] at hwrite
      have hdev := writeMmio_run h reg addr b space
      dsimp only
      revert hdev
      cases deviceTakes h reg addr b space.devices with
      | none =>
        rintro ⟨e, d, hrun⟩
        exact ⟨e, _, hwrite.trans hrun, rfl⟩
      | some d => exact hwrite.trans

/-- What pieces leave in the banks, up to the one that is refused. -/
theorem storePieces_run (space : AddressSpace δ) (ps : List Piece) :
    match piecesTaken space ps with
    | (stored, some after) => (storePieces ps).run space = .ok () after ∧
        after.rams = putCells space.rams stored
    | (stored, none) => ∃ e after, (storePieces ps).run space = .error e after ∧
        after.rams = putCells space.rams stored := by
  induction ps generalizing space with
  | nil => exact ⟨rfl, rfl⟩
  | cons p ps ih =>
    have hp := storePiece_run space p
    simp only [piecesTaken, storePieces, EStateM.run_bind]
    cases ht : p.taken space with
    | none =>
      rw [ht] at hp
      obtain ⟨e, after, hrun, hrams⟩ := hp
      exact ⟨e, after, by rw [hrun], hrams⟩
    | some taken =>
      obtain ⟨cells, d⟩ := taken
      rw [ht] at hp
      dsimp only at hp ⊢
      rw [hp]
      have hrest := ih { space with rams := putCells space.rams cells, devices := d }
      revert hrest
      cases piecesTaken { space with rams := putCells space.rams cells, devices := d } ps with
      | mk stored after =>
        cases after with
        | none => simp only [putCells_append]; exact id
        | some after => simp only [putCells_append]; exact id

/-! ### Memories -/

/-- The pieces are what the memory stores a dword in, and looking them up changes no byte. -/
structure SoundPieces (m : PiecedMemory δ M) : Prop where
  write : ∀ addr value mem, (GuestMemory.write32 addr value).run mem =
    (do
      let ps ← m.pieces addr value
      zoom m.space m.put (storePieces ps)).run mem
  keeps : ∀ addr value mem, Keeps (fun mem => (m.space mem).rams) (m.pieces addr value) mem
  space_put : ∀ space mem, m.space (m.put space mem) = space

/-- The pieces of a physical write put their bytes where they say. -/
theorem soundPieces_physical : SoundPieces (physicalPieces δ) where
  write addr value space := by
    change (AddressSpace.write32 addr value).run space = _
    simp only [physicalPieces, EStateM.run_bind, EStateM.run_pure, run_zoom, storePieces, storePiece,
      id_eq]
    cases (AddressSpace.write32 addr value).run space <;> rfl
  keeps _ _ _ := rfl
  space_put _ _ := rfl

/-- The byte stores of a split write are its pieces. -/
theorem storeBytes_eq_storePieces (stores : List (GuestAddr × U8)) (vm : VirtualMemory δ) :
    (VirtualMemory.storeBytes stores).run vm = EStateM.run (zoom VirtualMemory.physicalSpace
      (fun space vm => { vm with physicalSpace := space })
      (storePieces (stores.map fun store => .byte store.1 store.2))) vm := by
  induction stores generalizing vm with
  | nil => rfl
  | cons store stores ih =>
    obtain ⟨addr, b⟩ := store
    simp only [VirtualMemory.storeBytes, VirtualMemory.onPhysical, List.map_cons, storePieces,
      storePiece, EStateM.run_bind, run_zoom]
    cases (AddressSpace.write8 addr b).run vm.physicalSpace with
    | error e space => rfl
    | ok u space =>
      dsimp only
      rw [ih, run_zoom]

/-- The pieces of a virtual write put their bytes where they say. -/
theorem soundPieces_virtual : SoundPieces (virtualPieces δ) where
  write vaddr value vm := by
    change (VirtualMemory.write32 vaddr value).run vm = _
    unfold VirtualMemory.write32
    simp only [virtualPieces]
    split_ifs with hpage
    · simp only [EStateM.run_bind]
      cases (VirtualMemory.translate vaddr .write).run vm with
      | error e vm₁ => rfl
      | ok trans vm₁ =>
        simp only [EStateM.run_pure, VirtualMemory.onPhysical, run_zoom, storePieces, storePiece,
          EStateM.run_bind]
        cases (AddressSpace.write32 trans.physicalAddress value).run vm₁.physicalSpace <;> rfl
    · simp only [EStateM.run_bind]
      cases (VirtualMemory.translateBytes vaddr 4).run vm with
      | error e vm₁ => rfl
      | ok phys vm₁ => exact storeBytes_eq_storePieces _ vm₁
  keeps vaddr value vm := by
    have hstorage : Keeps (fun vm => storage vm.physicalSpace)
        ((virtualPieces δ).pieces vaddr value) vm := by
      simp only [virtualPieces]
      split_ifs
      · exact (keeps_translate vm vaddr .write).bind fun _ vm₁ _ => (quiet_pure _ vm₁).keeps _
      · exact (keeps_translateBytes vm vaddr 4).bind fun _ vm₁ _ => (quiet_pure _ vm₁).keeps _
    exact congrArg Prod.snd hstorage
  space_put _ _ := rfl

/-- **What a frame leaves in the banks**, up to the dword that is refused, if one is. -/
theorem storeWords_run {m : PiecedMemory δ M} (hm : SoundPieces m)
    (words : List (GuestAddr × U32)) (mem : M) :
    match m.cutShort words mem with
    | none => ∃ mem', (storeWords words).run mem = .ok () mem'
    | some stored => ∃ e mem', (storeWords words).run mem = .error e mem' ∧
        (m.space mem').rams = putCells (m.space mem).rams stored := by
  induction words generalizing mem with
  | nil => exact ⟨mem, rfl⟩
  | cons word words ih =>
    obtain ⟨addr, value⟩ := word
    simp only [PiecedMemory.cutShort, storeWords, EStateM.run_bind, hm.write addr value mem]
    have hkeeps := hm.keeps addr value mem
    cases hps : (m.pieces addr value).run mem with
    | error e mem' =>
      -- a dword whose pages are missing: no byte of it is stored
      exact ⟨e, mem', rfl, hkeeps.error hps⟩
    | ok ps mem₁ =>
      have hrams : (m.space mem₁).rams = (m.space mem).rams := hkeeps.ok hps
      have hpieces := storePieces_run (m.space mem₁) ps
      dsimp only
      rw [run_zoom]
      revert hpieces
      cases piecesTaken (m.space mem₁) ps with
      | mk stored after =>
        cases after with
        | none =>
          rintro ⟨e, space, hrun, hafter⟩
          rw [hrun]
          exact ⟨e, m.put space mem₁, rfl, by rw [hm.space_put, hafter, hrams]⟩
        | some space =>
          rintro ⟨hrun, hafter⟩
          rw [hrun]
          have hrest := ih (m.put space mem₁)
          dsimp only
          revert hrest
          cases m.cutShort words (m.put space mem₁) with
          | none => exact id
          | some rest =>
            rintro ⟨e, mem', hrest, hbytes⟩
            refine ⟨e, mem', hrest, ?_⟩
            rw [hbytes, hm.space_put, hafter, hrams, putCells_append]

/-- Storing a frame is atomic exactly when it is not torn. -/
theorem atomicOn_storeWords_iff {m : PiecedMemory δ M} (hm : SoundPieces m)
    {words : List (GuestAddr × U32)} {mem : M} :
    AtomicOn (fun mem => (m.space mem).rams) (storeWords words) mem ↔ ¬ TornFrame m words mem := by
  have hrun := storeWords_run hm words mem
  unfold AtomicOn TornFrame
  cases hcut : m.cutShort words mem with
  | none =>
    rw [hcut] at hrun
    obtain ⟨mem', hrun⟩ := hrun
    refine iff_of_true ?_ ?_
    · intro e mem'' h
      rw [hrun] at h
      cases h
    · rintro ⟨stored, h, -⟩
      cases h
  | some stored =>
    rw [hcut] at hrun
    obtain ⟨e, mem', hrun, hbytes⟩ := hrun
    have hkept : (∀ e' mem'', (storeWords words).run mem = .error e' mem'' →
        (m.space mem'').rams = (m.space mem).rams) ↔
        putCells (m.space mem).rams stored = (m.space mem).rams := by
      rw [hrun]
      constructor
      · intro h
        rw [← hbytes]
        exact h e mem' rfl
      · intro h e' mem'' herror
        cases herror
        rw [hbytes, h]
    rw [hkept, putCells_eq_iff]
    constructor
    · rintro h ⟨stored', hstored, c, b, hlast, hne⟩
      cases hstored
      exact hne (h c b hlast)
    · intro h c b hlast
      by_contra hne
      exact h ⟨stored, rfl, c, b, hlast, hne⟩

/-- The pushes of a delivery are the stores of its frame. -/
theorem run_pushFrame (trap : Option (TrapHandler M)) (d : Delivery) (ctx : CpuContext) :
    (pushFrame ctx d.errorCode d.returnEip).run (Machine.answer trap) =
      onMemory (storeWords (d.frame ctx)) := by
  unfold pushFrame Delivery.frame
  cases d.errorCode with
  | none =>
    simp only [Program.run_bind, run_write32, run_pure, Option.map_none, Option.toList_none,
      List.append_nil, storeWords, onMemory_bind, onMemory_pure]
  | some code =>
    simp only [Program.run_bind, run_write32, Option.map_some, Option.toList_some,
      List.cons_append, List.nil_append, storeWords, onMemory_bind, onMemory_pure]
    simp

/-! ## The gate -/

omit [GuestMemory M] in
/-- A memory access that keeps the bytes keeps them in the machine, and the context. -/
theorem keeps_onMemory {α : Type} {bytes : M → β} {f : EStateM Error M α} {s : Machine M}
    (h : Keeps bytes f s.mem) : Keeps (fun s => (s.ctx, bytes s.mem)) (onMemory f) s := by
  unfold Keeps onMemory at *
  rw [run_zoom]
  cases hr : f.run s.mem with
  | ok a mem =>
    rw [hr] at h
    exact congrArg (Prod.mk s.ctx) h
  | error e mem =>
    rw [hr] at h
    exact congrArg (Prod.mk s.ctx) h

/-- Checking a gate is quiet. -/
theorem quiet_checkGate (trap : Option (TrapHandler M)) (ctx : CpuContext) (vector : U8)
    (isSoftwareInt : Bool) (g : Gate) (s : Machine M) :
    Quiet ((checkGate ctx vector isSoftwareInt g).run (Machine.answer trap)) s := by
  unfold checkGate
  split_ifs
  · exact quiet_throw _ s
  · exact quiet_throw _ s
  · exact quiet_throw _ s
  · exact quiet_throw _ s
  · exact quiet_pure _ s

/-- Reading and checking a gate keeps the context and whatever reads keep of memory. -/
theorem keeps_gate {bytes : M → β} (hread : ∀ addr mem, Keeps bytes (GuestMemory.read16 addr) mem)
    (trap : Option (TrapHandler M)) (d : Delivery) (ctx : CpuContext) (s : Machine M) :
    Keeps (fun s => (s.ctx, bytes s.mem)) ((do
      let g ← readGate ctx d.vector
      checkGate ctx d.vector d.isSoftwareInt g : Exec Unit).run (Machine.answer trap)) s := by
  rw [Program.run_bind]
  refine Keeps.bind ?_ fun g s' _ => (quiet_checkGate trap ctx _ _ g s').keeps _
  unfold readGate
  dsimp only
  split_ifs
  · exact (quiet_throw _ s).keeps _
  · simp only [Program.run_bind, run_read16, run_pure]
    refine (keeps_onMemory (hread _ _)).bind fun offsetLow s₁ _ => ?_
    refine (keeps_onMemory (hread _ _)).bind fun selector s₂ _ => ?_
    refine (keeps_onMemory (hread _ _)).bind fun attr s₃ _ => ?_
    refine (keeps_onMemory (hread _ _)).bind fun offsetHigh s₄ _ => ?_
    exact (quiet_pure _ s₄).keeps _

/-- Once the gate is accepted, the delivery fails exactly when its frame does. -/
theorem run_accepted {d : Delivery} {trap : Option (TrapHandler M)} {s : Machine M} {mem : M}
    (h : d.Accepted trap s mem) : ∃ g, d.run trap s =
      match (storeWords (d.frame s.ctx)).run mem with
      | .ok _ mem' => .ok () ⟨enterGate g d.errorCode s.ctx, mem'⟩
      | .error e mem' => .error e ⟨s.ctx, mem'⟩ := by
  unfold Delivery.Accepted runExec at h
  unfold Delivery.run runExec deliverGate
  simp only [Program.run_bind, EStateM.run_bind, run_context] at h ⊢
  cases hread : ((readGate s.ctx d.vector).run (Machine.answer trap)).run s with
  | error e s₁ => simp [hread] at h
  | ok g s₁ =>
    simp only [hread] at h ⊢
    rw [h]
    dsimp only
    refine ⟨g, ?_⟩
    rw [run_pushFrame]
    unfold onMemory
    rw [run_zoom]
    cases (storeWords (d.frame s.ctx)).run mem with
    | ok u mem' => rfl
    | error e mem' => rfl

/-- A delivery whose gate is not accepted fails with what reading the gate left. -/
theorem run_refused {d : Delivery} {trap : Option (TrapHandler M)} {s s₁ : Machine M} {e : Error}
    (h : runExec trap (do
      let g ← readGate s.ctx d.vector
      checkGate s.ctx d.vector d.isSoftwareInt g) s = .error e s₁) : d.run trap s = .error e s₁ := by
  unfold runExec at h
  unfold Delivery.run runExec deliverGate
  simp only [Program.run_bind, EStateM.run_bind, run_context] at h ⊢
  cases hread : ((readGate s.ctx d.vector).run (Machine.answer trap)).run s with
  | error e' s' =>
    rw [hread] at h
    exact h
  | ok g s' =>
    simp only [hread] at h ⊢
    rw [h]

/-- A gate that is entered moves ESP, and no other register for numbers. -/
theorem enterGate_gpr (g : Gate) (errorCode : Option U32) (ctx : CpuContext) {reg : Reg32}
    (hreg : reg ≠ .esp) : (enterGate g errorCode ctx).gpr reg = ctx.gpr reg := by
  unfold enterGate
  dsimp only
  split_ifs <;> exact Function.update_of_ne hreg ..

/-- A delivery moves ESP, and no other register for numbers. -/
theorem delivery_gpr (d : Delivery) (trap : Option (TrapHandler M)) (s : Machine M) {reg : Reg32}
    (hreg : reg ≠ .esp) : (stateAfter (d.run trap s)).ctx.gpr reg = s.ctx.gpr reg := by
  have hread : ∀ (addr : GuestAddr) (mem : M), Keeps (fun _ => ()) (GuestMemory.read16 addr) mem :=
    fun _ _ => rfl
  have hgate := keeps_gate hread trap d s.ctx s
  cases hg : runExec trap (do
      let g ← readGate s.ctx d.vector
      checkGate s.ctx d.vector d.isSoftwareInt g) s with
  | error e₁ s₁ =>
    rw [run_refused hg]
    exact congrFun (congrArg CpuContext.gpr (Prod.mk.inj (hgate.error hg)).1) reg
  | ok u s₁ =>
    have haccepted : d.Accepted trap s s₁.mem := by
      rw [Delivery.Accepted, hg, ← (Prod.mk.inj (hgate.ok hg)).1]
    obtain ⟨g, hrun⟩ := run_accepted haccepted
    rw [hrun]
    cases (storeWords (d.frame s.ctx)).run s₁.mem with
    | ok v mem' => exact enterGate_gpr g d.errorCode s.ctx hreg
    | error e mem' => rfl

/-- **Delivery over any memory** whose reads keep its bytes. -/
theorem atomic_iff {m : PiecedMemory δ M} (hm : SoundPieces m)
    (hread : ∀ addr mem, Keeps (fun mem => (m.space mem).rams) (GuestMemory.read16 addr) mem)
    (d : Delivery) (trap : Option (TrapHandler M)) (s : Machine M) :
    d.Atomic (fun mem => (m.space mem).rams) trap s ↔
      ∀ mem, d.Accepted trap s mem → ¬ TornFrame m (d.frame s.ctx) mem := by
  have hgate := keeps_gate hread trap d s.ctx s
  cases hg : runExec trap (do
      let g ← readGate s.ctx d.vector
      checkGate s.ctx d.vector d.isSoftwareInt g) s with
  | error e₁ s₁ =>
    refine iff_of_true ?_ ?_
    · intro e s' hrun
      rw [run_refused hg] at hrun
      cases hrun
      exact Prod.mk.inj (hgate.error hg)
    · intro mem haccepted
      rw [Delivery.Accepted, hg] at haccepted
      cases haccepted
  | ok u s₁ =>
    obtain ⟨hctx, hbytes⟩ := Prod.mk.inj (hgate.ok hg)
    have haccepted : d.Accepted trap s s₁.mem := by
      rw [Delivery.Accepted, hg, ← hctx]
    have honly : ∀ mem, d.Accepted trap s mem → mem = s₁.mem := by
      intro mem h
      rw [Delivery.Accepted, hg] at h
      cases h
      rfl
    obtain ⟨g, hrun⟩ := run_accepted haccepted
    have hframe : d.Atomic (fun mem => (m.space mem).rams) trap s ↔
        AtomicOn (fun mem => (m.space mem).rams) (storeWords (d.frame s.ctx)) s₁.mem := by
      unfold Delivery.Atomic AtomicOn
      rw [hrun]
      cases hw : (storeWords (d.frame s.ctx)).run s₁.mem with
      | ok v mem' => simp
      | error e mem' =>
        have hbytes' : (m.space s₁.mem).rams = (m.space s.mem).rams := hbytes
        simp [hbytes']
    rw [hframe, atomicOn_storeWords_iff hm]
    constructor
    · intro h mem hmem
      rw [honly mem hmem]
      exact h
    · intro h
      exact h s₁.mem haccepted

/-! ## Both memories -/

/-- Reading a word leaves the banks. -/
theorem rams_read16 (addr : GuestAddr) (space : AddressSpace δ) :
    Keeps AddressSpace.rams (GuestMemory.read16 addr) space :=
  congrArg Prod.snd (keeps_read16 addr space)

/-- A physical access that leaves the storage leaves it under the virtual memory. -/
theorem rams_onPhysical {α : Type} {f : EStateM Error (AddressSpace δ) α} {vm : VirtualMemory δ}
    (h : Keeps storage f vm.physicalSpace) :
    Keeps (fun vm => storage vm.physicalSpace) (VirtualMemory.onPhysical f) vm := by
  unfold Keeps VirtualMemory.onPhysical at *
  rw [run_zoom]
  cases hr : f.run vm.physicalSpace with
  | ok a space => simpa [hr] using h
  | error e space => simpa [hr] using h

/-- Reading a byte through the page tables leaves the storage. -/
theorem rams_virtualRead8 (vaddr : GuestAddr) (vm : VirtualMemory δ) :
    Keeps (fun vm => storage vm.physicalSpace) (VirtualMemory.read8 vaddr) vm :=
  (keeps_translate vm vaddr .read).bind fun _ vm₁ _ => rams_onPhysical (keeps_read8 _ vm₁.physicalSpace)

/-- Reading a word through the page tables leaves the banks. -/
theorem rams_virtualRead16 (vaddr : GuestAddr) (vm : VirtualMemory δ) :
    Keeps (fun vm => vm.physicalSpace.rams) (GuestMemory.read16 vaddr) vm := by
  have hstorage : Keeps (fun vm => storage vm.physicalSpace) (VirtualMemory.read16 vaddr) vm := by
    unfold VirtualMemory.read16
    split_ifs
    · exact (keeps_translate vm vaddr .read).bind fun _ vm₁ _ =>
        rams_onPhysical (keeps_read16 _ vm₁.physicalSpace)
    · refine (rams_virtualRead8 vaddr vm).bind fun b₀ vm₁ _ => ?_
      refine (rams_virtualRead8 (vaddr + 1) vm₁).bind fun b₁ vm₂ _ => ?_
      exact (quiet_pure _ vm₂).keeps _
  exact congrArg Prod.snd hstorage

/-- **A failed delivery** leaves the context and every byte of RAM as they were, unless its gate
is accepted and its frame is torn: over physical and over virtual memory. -/
theorem delivery_atomic_iff (d : Delivery) :
    (∀ (trap : Option (TrapHandler (AddressSpace δ))) (s : Machine (AddressSpace δ)),
      d.Atomic AddressSpace.rams trap s ↔
        ∀ mem, d.Accepted trap s mem → ¬ TornFrame (physicalPieces δ) (d.frame s.ctx) mem) ∧
    ∀ (trap : Option (TrapHandler (VirtualMemory δ))) (s : Machine (VirtualMemory δ)),
      d.Atomic (fun vm => vm.physicalSpace.rams) trap s ↔
        ∀ mem, d.Accepted trap s mem → ¬ TornFrame (virtualPieces δ) (d.frame s.ctx) mem :=
  ⟨atomic_iff soundPieces_physical rams_read16 d, atomic_iff soundPieces_virtual rams_virtualRead16 d⟩

/-- A machine with one RAM region, an interrupt gate for vector 0 in it, and room for one dword
under its stack pointer. -/
def narrowStack : Machine (AddressSpace Unit) where
  ctx := { gpr := fun r => if r = .esp then 0x2004 else 0, idtr := { base := 0x2100, limit := 7 } }
  mem :=
    { regions := [⟨0x2000, 0x1000, .all, .ram 0 0⟩]
      rams := fun _ => ⟨0x1000, fun i => if i = 0x102 then 8 else if i = 0x105 then 0x8E else 0⟩
      devices := () }

/-- An external interrupt through that gate. -/
def narrowDelivery : Delivery where
  vector := 0
  errorCode := none
  isSoftwareInt := false
  returnEip := 0

/-- The delivery at the edge of the narrow stack fails and has stored EFLAGS. -/
theorem narrowDelivery_torn :
    outcome (narrowDelivery.run none narrowStack) =
        .error { code := .unmappedAddress, message := "Endereço não mapeado", offset := 0x1FFC } ∧
      ((stateAfter (narrowDelivery.run none narrowStack)).mem.rams 0).data 0 = 2 := by
  decide +kernel

/-- The delivery at the edge of the narrow stack is refused. -/
theorem narrowDelivery_refused : outcome (narrowDelivery.run none narrowStack) =
    .error { code := .unmappedAddress, message := "Endereço não mapeado", offset := 0x1FFC } :=
  narrowDelivery_torn.1

/-- EFLAGS are stored on the narrow stack nevertheless. -/
theorem narrowDelivery_stored :
    ((stateAfter (narrowDelivery.run none narrowStack)).mem.rams 0).data 0 = 2 :=
  narrowDelivery_torn.2

/-- The first dword of a frame stays in memory when the second is refused. -/
theorem frame_torn_at_region_start :
    ¬ ∀ (d : Delivery) (s : Machine (AddressSpace Unit)), d.Atomic AddressSpace.rams none s := by
  intro hall
  have hkept := (hall narrowDelivery narrowStack _ _
    (eq_error_of_outcome narrowDelivery_refused)).2
  have hbyte := congrArg (fun rams => (rams 0).data 0) hkept
  exact absurd (narrowDelivery_stored.symm.trans hbyte) (by decide)

end Xblob.Analysis
