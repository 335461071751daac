import Xblob.Analysis.FileCalls

/-!
# Reads into guest memory

`ReadFile` checks both ranges for the permission, reads, and only then finds out whether the
addresses lead to RAM.  The file has moved by then.
-/

set_option autoImplicit false

namespace Xblob.Analysis

open Xblob.Computation Xblob.Interface Xblob.Kernel Xblob.Memory Xblob.Memory.AddressSpace Xblob.Vfs

variable {δ : Type}

/-! ## What may be written -/

section Space

variable {space : AddressSpace δ} {addr : GuestAddr}

/-- A word is accepted where writing it succeeds. -/
theorem accepts_iff {v : U32} : AcceptsWord space addr v ↔
    ∃ space', (AddressSpace.write32 addr v).run space = .ok () space' := by
  unfold AcceptsWord AddressSpace.write32
  cases hreg : space.resolveRegion addr 4 .write with
  | error e => simp [show space.resolveRegion addr (4#32) .write = .error e from hreg]
  | ok reg =>
    have hreg' : space.resolveRegion addr (4#32) .write = .ok reg := hreg
    cases htype : reg.type with
    | ram ram ramOffset => simp [hreg', htype]
    | mmio handler =>
      cases hwrite : handler.write with
      | none => simp [hreg', htype, writeMmio, hwrite]
      | some write =>
        simp only [EStateM.run_bind, EStateM.run_get, hreg, run_ofExcept, htype, writeMmio, hwrite,
          onDevices, run_zoom, Option.some.injEq]
        constructor
        · rintro ⟨write', devices, rfl, h⟩
          rw [h]
          exact ⟨_, rfl⟩
        · rintro ⟨space', h⟩
          cases hrun : (write (addr - reg.base) .dword v).run space.devices with
          | ok u devices => exact ⟨write, devices, rfl, by simpa using hrun⟩
          | error e devices =>
            rw [hrun] at h
            cases h

/-- Bytes stored in a bank do not change what is accepted. -/
theorem accepts_stored {v : U32} (c : Cell) (bytes : List U8) :
    AcceptsWord (storedAt space c bytes) addr v ↔ AcceptsWord space addr v := Iff.rfl

/-- An access that resolves also resolves when it is shorter. -/
theorem resolveIn_shorter {len len' : GuestSize} {perm : MemoryPermission}
    {regions : List (Region δ)} {reg : Region δ} (hle : len'.toNat ≤ len.toNat)
    (h : resolveIn addr len perm regions = .ok reg) : resolveIn addr len' perm regions = .ok reg := by
  induction regions with
  | nil => cases h
  | cons r rs ih =>
    unfold resolveIn at h ⊢
    split at h
    next hhere =>
      rw [if_pos hhere]
      split at h
      · cases h
      next hrange =>
        have hrange' : r.containsRange addr len' = true := by
          simp only [Bool.not_eq_true, Bool.not_eq_false', Region.containsRange, Bool.and_eq_true,
            decide_eq_true_eq] at hrange ⊢
          omega
        rw [if_neg (by simp [hrange'])]
        exact h
    next hnot =>
      rw [if_neg hnot]
      exact ih h

/-- The beginning of a block lies where the block does. -/
theorem blockAt_shorter {n m : ℕ} {perm : MemoryPermission} {reg : Region δ} (hn : n < 2 ^ 32)
    (hm : 0 < m) (hle : m ≤ n) (h : space.resolveRegion addr (BitVec.ofNat 32 n) perm = .ok reg) :
    blockAt space addr m perm = blockAt space addr n perm := by
  have hlen : (BitVec.ofNat 32 m).toNat ≤ (BitVec.ofNat 32 n).toNat := by
    rw [BitVec.toNat_ofNat, BitVec.toNat_ofNat, Nat.mod_eq_of_lt hn, Nat.mod_eq_of_lt (by omega)]
    exact hle
  have hzero : BitVec.ofNat 32 m ≠ 0 := by
    intro hzero
    have hzero := congrArg BitVec.toNat hzero
    rw [BitVec.toNat_ofNat, Nat.mod_eq_of_lt (by omega)] at hzero
    exact absurd hzero hm.ne'
  have hshorter : space.resolveRegion addr (BitVec.ofNat 32 m) perm = .ok reg := by
    unfold resolveRegion at h ⊢
    split at h
    · cases h
    · rw [if_neg hzero]
      split at h
      · cases h
      · rw [if_neg (by omega)]
        exact resolveIn_shorter hlen h
  unfold blockAt
  rw [h, hshorter]

/-- A range that was validated is in one region. -/
theorem validateRange_ok {len : GuestSize} {perm : MemoryPermission} (hlen : len ≠ 0)
    (h : space.validateRange addr len perm = .ok ()) :
    ∃ reg, space.resolveRegion addr len perm = .ok reg := by
  unfold AddressSpace.validateRange at h
  rw [if_neg hlen] at h
  cases hreg : space.resolveRegion addr len perm with
  | ok reg => exact ⟨reg, rfl⟩
  | error e =>
    rw [hreg] at h
    cases h

end Space

/-! ## The checks -/

section Calls

variable (c : ReadCall δ)

/-- The rest of the call, once it is past its checks. -/
def readRest (vfs : Vfs) : KernelFileServices.Served :=
  if c.bytesToRead = 0 then do
    let _ ← KernelFileServices.writeOptional c.bytesReadPtr 0
    pure (kNtStatusSuccess, c.services)
  else
    KernelFileServices.readAndHandOver c.services vfs (fromU32 c.handleVal) c.bufferAddr
      c.bytesToRead c.bytesReadPtr

/-- An optional check passes for no pointer or a valid range. -/
theorem validateOptional_ok {α : Type} {space : AddressSpace δ} {addr : GuestAddr} {len : GuestSize}
    {perm : MemoryPermission} {k : Result Unit → Guest α}
    (h : addr = 0 ∨ space.validateRange addr len perm = .ok ()) :
    ((KernelFileServices.validateOptional addr len perm >>= k).run answer).run space =
      ((k (.ok ())).run answer).run space := by
  unfold KernelFileServices.validateOptional
  by_cases hnull : addr = 0
  · rw [if_neg (not_not_intro hnull)]
    rfl
  · rw [if_pos hnull, asked_validateRange, h.resolve_left hnull]

/-- The check of a range that may be empty is the check of the range. -/
theorem validateNonempty_eq {α : Type} {space : AddressSpace δ} {addr : GuestAddr} {len : GuestSize}
    {perm : MemoryPermission} {k : Result Unit → Guest α} :
    ((KernelFileServices.validateNonempty addr len perm >>= k).run answer).run space =
      ((k (space.validateRange addr len perm)).run answer).run space := by
  unfold KernelFileServices.validateNonempty
  by_cases hzero : len = 0
  · rw [if_neg (by rw [hzero]; decide), hzero]
    unfold AddressSpace.validateRange
    rw [if_pos rfl]
    rfl
  · have hpos : len > 0 := BitVec.lt_def.2 (BitVec.toNat_pos_of_ne_zero hzero)
    rw [if_pos hpos, asked_validateRange]

/-- A call is refused by its checks and changes nothing, or goes on. -/
theorem read_checked :
    (¬ c.Checked ∧ c.status ≠ kNtStatusSuccess ∧ c.after = c.services ∧ c.memoryAfter = c.memory) ∨
      (c.Checked ∧ ∃ vfs, c.services.vfs = some vfs ∧
        ((readRest c vfs).run answer).run c.memory = .ok (c.status, c.after) c.memoryAfter) := by
  have hreturns := c.returns
  have hrefused : ∀ {status : U32}, status ≠ kNtStatusSuccess → ¬ c.Checked →
      (((pure (status, c.services) : KernelFileServices.Served).run answer).run c.memory =
        .ok (c.status, c.after) c.memoryAfter) →
      ¬ c.Checked ∧ c.status ≠ kNtStatusSuccess ∧ c.after = c.services ∧
        c.memoryAfter = c.memory := by
    intro status hstatus hnot hrun
    obtain ⟨hvalue, hmemory⟩ := EStateM.Result.ok.inj hrun
    obtain ⟨hstatus', hafter⟩ := Prod.mk.inj hvalue
    exact ⟨hnot, by rw [← hstatus']; exact hstatus, hafter.symm, hmemory.symm⟩
  unfold KernelFileServices.readFile at hreturns
  by_cases hover : c.overlappedPtr = 0
  swap
  · rw [if_pos hover] at hreturns
    exact .inl (hrefused (by decide) (fun h => hover h.synchronous) hreturns)
  rw [if_neg (not_not_intro hover)] at hreturns
  cases hvfs : c.services.vfs with
  | none =>
    rw [hvfs] at hreturns
    refine .inl (hrefused (by decide) (fun h => ?_) hreturns)
    have hsome := h.mounted
    rw [hvfs] at hsome
    cases hsome
  | some vfs =>
    rw [hvfs] at hreturns
    dsimp only at hreturns
    -- The pointer, the buffer and the handle are checked in this order.
    by_cases hptr : c.bytesReadPtr = 0 ∨ c.memory.validateRange c.bytesReadPtr 4 .write = .ok ()
    swap
    · obtain ⟨hnull, hinvalid⟩ := not_or.1 hptr
      unfold KernelFileServices.validateOptional at hreturns
      rw [if_pos hnull, asked_validateRange] at hreturns
      cases hvalid : c.memory.validateRange c.bytesReadPtr 4 .write with
      | ok u => exact absurd hvalid hinvalid
      | error e =>
        rw [hvalid] at hreturns
        exact .inl (hrefused (by decide) (fun h => hptr h.pointer) hreturns)
    rw [validateOptional_ok hptr] at hreturns
    dsimp only at hreturns
    cases hbuffer : c.memory.validateRange c.bufferAddr c.bytesToRead .write with
    | error e =>
      rw [validateNonempty_eq, hbuffer] at hreturns
      refine .inl (hrefused (by decide) (fun h => ?_) hreturns)
      rw [h.buffer] at hbuffer
      cases hbuffer
    | ok u =>
      rw [validateNonempty_eq, hbuffer] at hreturns
      dsimp only at hreturns
      cases hhandle : (fromU32 c.handleVal).isValid with
      | false =>
        rw [hhandle, if_pos (by decide)] at hreturns
        refine .inl (hrefused (by decide) (fun h => ?_) hreturns)
        rw [h.handle] at hhandle
        cases hhandle
      | true =>
        rw [hhandle, if_neg (by decide)] at hreturns
        exact .inr ⟨⟨hover, by rw [hvfs]; rfl, hptr, hbuffer, hhandle⟩, vfs, rfl, hreturns⟩

/-! ## The read -/

variable {vfs : Vfs} {file : FileSlot ByteSource VfsFileInfo} {source : ByteSource}

/-- How many bytes are due. -/
def dueOf (file : FileSlot ByteSource VfsFileInfo) : ℕ :=
  min c.bytesToRead.toNat (Vfs.fileSize file - file.position).toNat

/-- A read through a handle without a file is refused. -/
theorem vfsRead_stale {e : Error} (hfile : vfs.handleTable.getFile (fromU32 c.handleVal) = .error e) :
    vfs.read (fromU32 c.handleVal) c.bytesToRead.toNat = .error e := by
  unfold Vfs.read
  rw [hfile]
  rfl

/-- A read at the end of a file returns nothing. -/
theorem vfsRead_ended (hfile : vfs.handleTable.getFile (fromU32 c.handleVal) = .ok file)
    (hend : ¬ file.position < Vfs.fileSize file) :
    vfs.read (fromU32 c.handleVal) c.bytesToRead.toNat = .ok ([], vfs) := by
  unfold Vfs.read
  rw [hfile]
  change (if _ then _ else _) = _
  rw [if_pos (Or.inl (BitVec.not_lt.1 hend))]

/-- A read within a file reads what is due from its source, and moves the position by it. -/
theorem vfsRead_eq (hfile : vfs.handleTable.getFile (fromU32 c.handleVal) = .ok file)
    (hsource : file.source = some source) (hpos : file.position < Vfs.fileSize file)
    (hnonzero : c.bytesToRead ≠ 0) :
    vfs.read (fromU32 c.handleVal) c.bytesToRead.toNat =
      (source.readAt file.position (dueOf c file)).map fun bytes =>
        (bytes, vfs.setPosition (fromU32 c.handleVal) (file.position + BitVec.ofNat 64 (dueOf c file))) := by
  have hcount : c.bytesToRead.toNat ≠ 0 := fun h => hnonzero (BitVec.eq_of_toNat_eq h)
  have hgo : ¬ (file.position ≥ Vfs.fileSize file ∨ c.bytesToRead.toNat = 0) := by
    rintro (h | h)
    · exact absurd hpos (BitVec.not_lt.2 h)
    · exact hcount h
  unfold Vfs.read
  rw [hfile]
  change (if _ then _ else _) = _
  rw [if_neg hgo, hsource]
  dsimp only
  change (source.readAt file.position (dueOf c file) >>= fun bytes => _) = _
  cases source.readAt file.position (dueOf c file) <;> rfl

/-- What is due of a read within a file is positive, and no more than was asked for. -/
theorem dueOf_range (hpos : file.position < Vfs.fileSize file) (hnonzero : c.bytesToRead ≠ 0) :
    0 < dueOf c file ∧ dueOf c file ≤ c.bytesToRead.toNat ∧ dueOf c file < 2 ^ 32 := by
  have hcount : 0 < c.bytesToRead.toNat := BitVec.toNat_pos_of_ne_zero hnonzero
  have hlt : c.bytesToRead.toNat < 2 ^ 32 := c.bytesToRead.isLt
  have hpos' := BitVec.lt_def.1 hpos
  have hsize : (Vfs.fileSize file).toNat < 2 ^ 64 := (Vfs.fileSize file).isLt
  have hsub : (Vfs.fileSize file - file.position).toNat =
      (Vfs.fileSize file).toNat - file.position.toNat :=
    BitVec.toNat_sub_of_le (BitVec.le_of_lt hpos)
  unfold dueOf
  rw [hsub]
  omega

/-- A position moves. -/
theorem moved_ne (p : U64) {n : ℕ} (hpos : 0 < n) (hlt : n < 2 ^ 32) : p + BitVec.ofNat 64 n ≠ p := by
  intro h
  have h := congrArg BitVec.toNat h
  have hp : p.toNat < 2 ^ 64 := p.isLt
  rw [BitVec.toNat_add, BitVec.toNat_ofNat] at h
  omega

/-- The position before the call is that of the file. -/
theorem before_eq (hvfs : c.services.vfs = some vfs)
    (hfile : vfs.handleTable.getFile (fromU32 c.handleVal) = .ok file) :
    c.before = some file.position := by
  unfold ReadCall.before positionOf
  rw [hvfs]
  simp [hfile, Except.toOption]

/-! ## Reads of no bytes -/

/-- A read of no bytes is atomic exactly where its report can be written. -/
theorem noBytes_iff (hzero : c.bytesToRead = 0)
    (hrest : ((readRest c vfs).run answer).run c.memory = .ok (c.status, c.after) c.memoryAfter) :
    c.Atomic ↔ c.Reportable 0 := by
  unfold readRest at hrest
  rw [if_pos hzero] at hrest
  unfold ReadCall.Reportable
  -- The status is that of success whether or not the zero was written.
  have hend : c.status = kNtStatusSuccess ∧ c.after = c.services ∧
      (c.bytesReadPtr = 0 → c.memoryAfter = c.memory) ∧
      (c.bytesReadPtr ≠ 0 →
        c.memoryAfter = stateAfter ((AddressSpace.write32 c.bytesReadPtr 0).run c.memory)) := by
    by_cases hptr : c.bytesReadPtr = 0
    · rw [asked_writeOptional_null hptr] at hrest
      obtain ⟨hvalue, hmemory⟩ := EStateM.Result.ok.inj hrest
      obtain ⟨hstatus, hafter⟩ := Prod.mk.inj hvalue
      exact ⟨hstatus.symm, hafter.symm, fun _ => hmemory.symm, fun h => absurd hptr h⟩
    · rw [writeOptional_pointer hptr] at hrest
      cases hwrite : (AddressSpace.write32 c.bytesReadPtr 0).run c.memory with
      | ok u space' =>
        rw [asked_write32_ok hwrite] at hrest
        obtain ⟨hvalue, hmemory⟩ := EStateM.Result.ok.inj hrest
        obtain ⟨hstatus, hafter⟩ := Prod.mk.inj hvalue
        exact ⟨hstatus.symm, hafter.symm, fun h => absurd h hptr, fun _ => hmemory.symm⟩
      | error e space' =>
        rw [asked_write32_error hwrite] at hrest
        obtain ⟨hvalue, hmemory⟩ := EStateM.Result.ok.inj hrest
        obtain ⟨hstatus, hafter⟩ := Prod.mk.inj hvalue
        exact ⟨hstatus.symm, hafter.symm, fun h => absurd h hptr, fun _ => hmemory.symm⟩
  obtain ⟨hstatus, hafter, hnull, hwritten⟩ := hend
  unfold ReadCall.Atomic
  rw [if_pos hstatus]
  constructor
  · rintro ⟨bytes, hasked, -, filled, hfilled, hreport⟩
    rw [hzero] at hasked
    have hnil : bytes = [] := List.eq_nil_of_length_eq_zero (Nat.le_zero.1 hasked)
    rw [hnil] at hfilled hreport
    obtain ⟨-, rfl⟩ := EStateM.Result.ok.inj hfilled
    by_cases hptr : c.bytesReadPtr = 0
    · exact .inl hptr
    · rw [if_neg hptr] at hreport
      exact .inr (accepts_iff.2 ⟨_, hreport⟩)
  · intro hreportable
    refine ⟨[], Nat.zero_le _, ?_, c.memory, rfl, ?_⟩
    · unfold ReadCall.afterwards ReadCall.before
      rw [hafter]
      simp
    · by_cases hptr : c.bytesReadPtr = 0
      · rw [if_pos hptr]
        exact hnull hptr
      · rw [if_neg hptr, hwritten hptr]
        obtain ⟨space', hwrite⟩ := accepts_iff.1 (hreportable.resolve_left hptr)
        have hwrite' : (AddressSpace.write32 c.bytesReadPtr 0).run c.memory = .ok () space' := hwrite
        rw [hwrite']
        exact hwrite

/-! ## Reads of bytes -/

/-- A call that fails without having read is atomic. -/
theorem atomic_of_refused (hstatus : c.status ≠ kNtStatusSuccess) (hafter : c.after = c.services)
    (hmemory : c.memoryAfter = c.memory) : c.Atomic := by
  unfold ReadCall.Atomic
  rw [if_neg hstatus]
  refine ⟨?_, .inl hmemory⟩
  unfold ReadCall.afterwards ReadCall.before
  rw [hafter]

/-- An error is not reported as success. -/
theorem mapVfsError_ne {code : ErrorCode} (h : code ≠ .ok) :
    mapVfsErrorToNtStatus code ≠ kNtStatusSuccess := by
  cases code <;> first | exact absurd rfl h | decide

/-- A handle without a file gives an error. -/
theorem getFile_error {table : VfsHandleTable ByteSource VfsFileInfo} {handle : VfsHandle} {e : Error}
    (h : table.getFile handle = .error e) : e.code ≠ .ok := by
  unfold VfsHandleTable.getFile VfsHandleTable.openSlot at h
  split at h
  next e' hopen =>
    cases h
    split at hopen
    · cases hopen
      decide
    · split at hopen
      · cases hopen
        decide
      · split at hopen
        · cases hopen
          decide
        · cases hopen
  next =>
    split at h
    · cases h
      decide
    · cases h

/-- At the end of the file a zero is reported, or not. -/
theorem atomic_of_ended (hrest : ((do
      let _ ← KernelFileServices.writeOptional c.bytesReadPtr 0
      pure (kNtStatusEndOfFile, c.services) : KernelFileServices.Served).run answer).run c.memory =
        .ok (c.status, c.after) c.memoryAfter) : c.Atomic := by
  have hend : c.status = kNtStatusEndOfFile ∧ c.after = c.services ∧
      (c.memoryAfter = c.memory ∨ c.bytesReadPtr ≠ 0 ∧
        c.memoryAfter = stateAfter ((AddressSpace.write32 c.bytesReadPtr 0).run c.memory)) := by
    by_cases hptr : c.bytesReadPtr = 0
    · rw [asked_writeOptional_null hptr] at hrest
      obtain ⟨hvalue, hmemory⟩ := EStateM.Result.ok.inj hrest
      obtain ⟨hstatus, hafter⟩ := Prod.mk.inj hvalue
      exact ⟨hstatus.symm, hafter.symm, .inl hmemory.symm⟩
    · rw [writeOptional_pointer hptr] at hrest
      cases hwrite : (AddressSpace.write32 c.bytesReadPtr 0).run c.memory with
      | ok u space' =>
        rw [asked_write32_ok hwrite] at hrest
        obtain ⟨hvalue, hmemory⟩ := EStateM.Result.ok.inj hrest
        obtain ⟨hstatus, hafter⟩ := Prod.mk.inj hvalue
        exact ⟨hstatus.symm, hafter.symm, .inr ⟨hptr, hmemory.symm⟩⟩
      | error e space' =>
        rw [asked_write32_error hwrite] at hrest
        obtain ⟨hvalue, hmemory⟩ := EStateM.Result.ok.inj hrest
        obtain ⟨hstatus, hafter⟩ := Prod.mk.inj hvalue
        exact ⟨hstatus.symm, hafter.symm, .inr ⟨hptr, hmemory.symm⟩⟩
  obtain ⟨hstatus, hafter, hmemory⟩ := hend
  unfold ReadCall.Atomic
  rw [if_neg (by rw [hstatus]; decide)]
  refine ⟨?_, hmemory.imp_right fun h => ⟨h.1, 0, h.2⟩⟩
  unfold ReadCall.afterwards ReadCall.before
  rw [hafter]

/-- The services after the file has moved past the bytes. -/
def movedPast (vfs : Vfs) (file : FileSlot ByteSource VfsFileInfo) : KernelFileServices :=
  { vfs := some (vfs.setPosition (fromU32 c.handleVal) (file.position + BitVec.ofNat 64 (dueOf c file))) }

/-- The position behind a read. -/
theorem movedPast_position (hfile : vfs.handleTable.getFile (fromU32 c.handleVal) = .ok file) :
    positionOf (movedPast c vfs file) (fromU32 c.handleVal) =
      some (file.position + BitVec.ofNat 64 (dueOf c file)) :=
  positionOf_of_getFile (getFile_setPosition hfile _)

/-- A call that fails after the file has moved is not atomic. -/
theorem not_atomic_of_moved (hvfs : c.services.vfs = some vfs)
    (hfile : vfs.handleTable.getFile (fromU32 c.handleVal) = .ok file)
    (hpos : file.position < Vfs.fileSize file) (hnonzero : c.bytesToRead ≠ 0)
    (hstatus : c.status ≠ kNtStatusSuccess) (hafter : c.after = movedPast c vfs file) :
    ¬ c.Atomic := by
  unfold ReadCall.Atomic
  rw [if_neg hstatus]
  intro h
  have hsame := h.position
  rw [before_eq c hvfs hfile, ReadCall.afterwards, hafter, movedPast_position c hfile,
    Option.some.injEq] at hsame
  obtain ⟨hdue, -, hlt⟩ := dueOf_range c hpos hnonzero
  exact moved_ne _ hdue hlt hsame

/-- The bytes that are due arrive where the buffer is in RAM and their number may be written. -/
theorem supplied_iff (hvfs : c.services.vfs = some vfs)
    (hfile : vfs.handleTable.getFile (fromU32 c.handleVal) = .ok file)
    (hpos : file.position < Vfs.fileSize file) (hnonzero : c.bytesToRead ≠ 0) {bytes : List U8}
    (hlength : bytes.length = dueOf c file)
    (hbuffer : c.memory.validateRange c.bufferAddr c.bytesToRead .write = .ok ())
    (hrest : ((do
      match ← Guest.writeBytes c.bufferAddr bytes with
      | .error _ => pure (kNtStatusInvalidParameter, movedPast c vfs file)
      | .ok () =>
        match ← KernelFileServices.writeOptional c.bytesReadPtr (BitVec.ofNat 32 bytes.length) with
        | .error _ => pure (kNtStatusInvalidParameter, movedPast c vfs file)
        | .ok () => pure (kNtStatusSuccess, movedPast c vfs file) :
          KernelFileServices.Served).run answer).run c.memory =
        .ok (c.status, c.after) c.memoryAfter) :
    c.Atomic ↔ (∃ cell, blockAt c.memory c.bufferAddr c.bytesToRead.toNat .write = some cell) ∧
      c.Reportable (dueOf c file) := by
  obtain ⟨hdue, hasked, hlt⟩ := dueOf_range c hpos hnonzero
  have hsome : bytes ≠ [] := by
    intro h
    rw [h] at hlength
    simp at hlength
    omega
  obtain ⟨reg, hreg⟩ := validateRange_ok hnonzero hbuffer
  have hblock : blockAt c.memory c.bufferAddr bytes.length .write =
      blockAt c.memory c.bufferAddr c.bytesToRead.toNat .write :=
    blockAt_shorter c.bytesToRead.isLt (by omega) (by omega)
      (show c.memory.resolveRegion c.bufferAddr (BitVec.ofNat 32 c.bytesToRead.toNat) .write = .ok reg
        by rw [BitVec.ofNat_toNat, BitVec.setWidth_eq]; exact hreg)
  rcases writeBytes_run c.memory c.bufferAddr hsome with ⟨cell, hcell, hwrite⟩ | ⟨hnone, e, hwrite⟩
  · rw [asked_writeBytes_ok hwrite] at hrest
    dsimp only at hrest
    rw [hblock] at hcell
    have hread : c.after = movedPast c vfs file →
        (if c.bytesReadPtr = 0 then c.memoryAfter = storedAt c.memory cell bytes
          else (AddressSpace.write32 c.bytesReadPtr (BitVec.ofNat 32 bytes.length)).run
            (storedAt c.memory cell bytes) = .ok () c.memoryAfter) → c.BytesRead bytes := by
      intro hafter hreport
      refine ⟨by omega, ?_, _, hwrite, hreport⟩
      rw [before_eq c hvfs hfile, ReadCall.afterwards, hafter, movedPast_position c hfile, hlength]
      rfl
    by_cases hptr : c.bytesReadPtr = 0
    · rw [asked_writeOptional_null hptr] at hrest
      obtain ⟨hvalue, hmemory⟩ := EStateM.Result.ok.inj hrest
      obtain ⟨hstatus, hafter⟩ := Prod.mk.inj hvalue
      refine ⟨fun _ => ⟨⟨cell, hcell⟩, .inl hptr⟩, fun _ => ?_⟩
      unfold ReadCall.Atomic
      rw [if_pos hstatus.symm]
      exact ⟨bytes, hread hafter.symm (by rw [if_pos hptr]; exact hmemory.symm)⟩
    · have haccepts : c.Reportable (dueOf c file) ↔ ∃ space',
          (AddressSpace.write32 c.bytesReadPtr (BitVec.ofNat 32 bytes.length)).run
            (storedAt c.memory cell bytes) = .ok () space' := by
        unfold ReadCall.Reportable
        rw [← accepts_iff, accepts_stored, hlength]
        exact ⟨fun h => h.resolve_left hptr, Or.inr⟩
      rw [writeOptional_pointer hptr] at hrest
      cases hreport : (AddressSpace.write32 c.bytesReadPtr (BitVec.ofNat 32 bytes.length)).run
          (storedAt c.memory cell bytes) with
      | ok u space' =>
        rw [asked_write32_ok hreport] at hrest
        obtain ⟨hvalue, hmemory⟩ := EStateM.Result.ok.inj hrest
        obtain ⟨hstatus, hafter⟩ := Prod.mk.inj hvalue
        refine ⟨fun _ => ⟨⟨cell, hcell⟩, haccepts.2 ⟨_, hreport⟩⟩, fun _ => ?_⟩
        unfold ReadCall.Atomic
        rw [if_pos hstatus.symm]
        refine ⟨bytes, hread hafter.symm ?_⟩
        rw [if_neg hptr, ← hmemory]
        exact hreport
      | error e space' =>
        rw [asked_write32_error hreport] at hrest
        obtain ⟨hvalue, hmemory⟩ := EStateM.Result.ok.inj hrest
        obtain ⟨hstatus, hafter⟩ := Prod.mk.inj hvalue
        refine ⟨fun h => absurd h (not_atomic_of_moved c hvfs hfile hpos hnonzero
          (by rw [← hstatus]; decide) hafter.symm), fun h => ?_⟩
        obtain ⟨space'', hok⟩ := haccepts.1 h.2
        rw [hreport] at hok
        cases hok
  · rw [asked_writeBytes_error hwrite] at hrest
    obtain ⟨hvalue, -⟩ := EStateM.Result.ok.inj hrest
    obtain ⟨hstatus, hafter⟩ := Prod.mk.inj hvalue
    refine ⟨fun h => absurd h (not_atomic_of_moved c hvfs hfile hpos hnonzero
      (by rw [← hstatus]; decide) hafter.symm), fun h => ?_⟩
    obtain ⟨cell, hcell⟩ := h.1
    rw [← hblock, hnone] at hcell
    cases hcell

/-- Where a read of bytes is atomic. -/
theorem bytes_iff (hchecked : c.Checked) (hnonzero : c.bytesToRead ≠ 0)
    (hvfs : c.services.vfs = some vfs)
    (hrest : ((readRest c vfs).run answer).run c.memory = .ok (c.status, c.after) c.memoryAfter) :
    c.Atomic ↔ ∀ due, c.Supplies due →
      (∃ cell, blockAt c.memory c.bufferAddr c.bytesToRead.toNat .write = some cell) ∧
        c.Reportable due := by
  unfold readRest at hrest
  rw [if_neg hnonzero] at hrest
  unfold KernelFileServices.readAndHandOver at hrest
  have hrefused : ∀ {status : U32}, status ≠ kNtStatusSuccess →
      (((pure (status, c.services) : KernelFileServices.Served).run answer).run c.memory =
        .ok (c.status, c.after) c.memoryAfter) → c.Atomic := by
    intro status hstatus hrun
    obtain ⟨hvalue, hmemory⟩ := EStateM.Result.ok.inj hrun
    obtain ⟨hstatus', hafter⟩ := Prod.mk.inj hvalue
    exact atomic_of_refused c (by rw [← hstatus']; exact hstatus) hafter.symm hmemory.symm
  cases hfile : vfs.handleTable.getFile (fromU32 c.handleVal) with
  | error e =>
    rw [vfsRead_stale c hfile] at hrest
    refine ⟨?_, fun _ => hrefused (mapVfsError_ne (getFile_error hfile)) hrest⟩
    rintro - due ⟨vfs', file, source, bytes, hvfs', hfile', -⟩
    rw [hvfs] at hvfs'
    cases hvfs'
    rw [hfile] at hfile'
    cases hfile'
  | ok file =>
    obtain ⟨source, hsource, hfills⟩ := c.sourced vfs file hvfs hfile
    -- What is due is decided by the file.
    have hsupplies : ∀ due, c.Supplies due ↔ file.position < Vfs.fileSize file ∧
        due = dueOf c file ∧ ∃ bytes, source.readAt file.position due = .ok bytes := by
      intro due
      constructor
      · rintro ⟨vfs', file', source', bytes, hvfs', hfile', hsource', hpos, hdue, hread⟩
        rw [hvfs] at hvfs'
        cases hvfs'
        rw [hfile] at hfile'
        cases hfile'
        rw [hsource] at hsource'
        cases hsource'
        exact ⟨hpos, hdue, bytes, hread⟩
      · rintro ⟨hpos, hdue, bytes, hread⟩
        exact ⟨vfs, file, source, bytes, hvfs, hfile, hsource, hpos, hdue, hread⟩
    by_cases hpos : file.position < Vfs.fileSize file
    · rw [vfsRead_eq c hfile hsource hpos hnonzero] at hrest
      cases hread : source.readAt file.position (dueOf c file) with
      | error e =>
        rw [hread] at hrest
        refine ⟨?_, fun _ => hrefused (mapVfsError_ne (hfills.error _ _ _ hread)) hrest⟩
        intro _ due hdue
        obtain ⟨-, rfl, bytes, hok⟩ := (hsupplies due).1 hdue
        rw [hread] at hok
        cases hok
      | ok bytes =>
        have hlength := hfills.length _ _ _ hread
        obtain ⟨hdue, -, -⟩ := dueOf_range c hpos hnonzero
        have hsome : bytes ≠ [] := by
          intro h
          rw [h] at hlength
          simp at hlength
          omega
        rw [hread] at hrest
        change ((if bytes = [] then _ else _ : KernelFileServices.Served).run answer).run _ = _ at hrest
        rw [if_neg hsome] at hrest
        rw [supplied_iff c hvfs hfile hpos hnonzero hlength hchecked.buffer hrest]
        constructor
        · intro h due hdue
          obtain ⟨-, rfl, -⟩ := (hsupplies due).1 hdue
          exact h
        · intro h
          exact h _ ((hsupplies _).2 ⟨hpos, rfl, bytes, hread⟩)
    · rw [vfsRead_ended c hfile hpos] at hrest
      have hservices : ({ vfs := some vfs } : KernelFileServices) = c.services := by
        rw [← hvfs]
      change ((if ([] : List U8) = [] then _ else _ : KernelFileServices.Served).run answer).run _ = _
        at hrest
      rw [if_pos rfl] at hrest
      refine ⟨fun _ due hdue => absurd ((hsupplies due).1 hdue).1 hpos, fun _ => ?_⟩
      rw [hservices] at hrest
      exact atomic_of_ended c hrest

/-- Where a read into guest memory is atomic. -/
theorem file_read_atomic_iff : c.Atomic ↔ c.Agrees := by
  unfold ReadCall.Agrees
  rcases read_checked c with ⟨hnot, hstatus, hafter, hmemory⟩ | ⟨hchecked, vfs, hvfs, hrest⟩
  · exact ⟨fun _ h => absurd h hnot, fun _ => atomic_of_refused c hstatus hafter hmemory⟩
  · by_cases hzero : c.bytesToRead = 0
    · rw [noBytes_iff c hzero hrest]
      exact ⟨fun h _ => ⟨fun _ => h, fun hnonzero => absurd hzero hnonzero⟩,
        fun h => (h hchecked).1 hzero⟩
    · rw [bytes_iff c hchecked hzero hvfs hrest]
      exact ⟨fun h _ => ⟨fun h => absurd h hzero, fun _ => h⟩, fun h => (h hchecked).2 hzero⟩

end Calls

/-! ## A buffer in a device -/

/-- A device with one register, which takes whatever is written. -/
def registerSpace : AddressSpace Unit where
  regions := [⟨0xFD000000, 0x1000, .readWrite, .mmio ⟨none, some fun _ _ _ => pure ()⟩⟩]
  rams := fun _ => ⟨kRamSizeRetail, fun _ => (0 : U8)⟩
  devices := ()

/-- The source of a small file. -/
def zeroBytes : ByteSource := ⟨fun _ n => .ok (List.replicate n 0)⟩

/-- The source of zero bytes fills every read. -/
theorem zeroBytes_fills : Fills zeroBytes := by
  constructor
  · intro offset n bytes h
    cases h
    simp
  · intro offset n e h
    cases h

/-- A small file. -/
def smallFile : FileSlot ByteSource VfsFileInfo where
  source := some zeroBytes
  info := some { size := 4 }

/-- A file system with the small file open. -/
def smallFileOpen : Vfs where
  handleTable := { slots := [{ generation := 1, isOpen := true, type := .file, file := smallFile }] }

/-- The example file has a source that fills every read. -/
theorem smallFile_sourced : ∀ vfs file, some smallFileOpen = some vfs →
    vfs.handleTable.getFile (fromU32 0x10000) = .ok file →
      ∃ source, file.source = some source ∧ Fills source := by
  intro vfs file hvfs hfile
  cases hvfs
  have hsmall : file = smallFile := Except.ok.inj (hfile.symm.trans rfl)
  rw [hsmall]
  exact ⟨zeroBytes, rfl, zeroBytes_fills⟩

/-- A read of four bytes into the device. -/
def readIntoDevice : ReadCall Unit where
  services := { vfs := some smallFileOpen }
  handleVal := 0x10000
  bufferAddr := 0xFD000000
  bytesToRead := 4
  bytesReadPtr := 0
  overlappedPtr := 0
  memory := registerSpace
  sourced := smallFile_sourced
  status := kNtStatusInvalidParameter
  after := { vfs := some (smallFileOpen.setPosition (fromU32 0x10000) 4) }
  memoryAfter := registerSpace
  returns := rfl

/-- A read into a device fails and moves the file. -/
theorem read_into_device_moves : readIntoDevice.status = kNtStatusInvalidParameter ∧
    readIntoDevice.before = some 0 ∧ readIntoDevice.afterwards = some 4 ∧ ¬ readIntoDevice.Atomic := by
  have hbefore : readIntoDevice.before = some 0 := rfl
  have hafter : readIntoDevice.afterwards = some 4 := rfl
  refine ⟨rfl, hbefore, hafter, fun h => ?_⟩
  unfold ReadCall.Atomic at h
  rw [if_neg (by decide)] at h
  have hsame := h.position
  rw [hbefore, hafter] at hsame
  revert hsame
  decide

end Xblob.Analysis
