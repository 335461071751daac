import Xblob.Analysis.BlockAccess
import Xblob.Analysis.CloseRouting
import Xblob.Analysis.RoundTrip
import Xblob.Interface.FileCalls

/-!
# What the file services do to guest memory

A service makes a request, looks at the answer and goes on.  Here are the requests it makes on a
word in RAM, and the position of a file after it was set.
-/

set_option autoImplicit false

namespace Xblob.Analysis

open Xblob.Computation Xblob.Interface Xblob.Kernel Xblob.Memory Xblob.Memory.AddressSpace Xblob.Vfs

variable {δ α : Type} {space : AddressSpace δ} {addr : GuestAddr} {c : Cell}

/-! ## Requests -/

/-- An attempt that succeeds, run. -/
theorem attempt_ok {β : Type} {f : EStateM Error (AddressSpace δ) β} {b : β}
    {space' : AddressSpace δ} (h : f.run space = .ok b space') :
    (attempt f).run space = .ok (.ok b) space' := by
  change attempt f space = _
  simp only [attempt, h]

/-- An attempt that fails, run. -/
theorem attempt_error {β : Type} {f : EStateM Error (AddressSpace δ) β} {e : Error}
    {space' : AddressSpace δ} (h : f.run space = .error e space') :
    (attempt f).run space = .ok (.error e) space' := by
  change attempt f space = _
  simp only [attempt, h]

/-- A service after the answer to its request. -/
theorem run_answered {r : GuestRequest} {k : r.Answer → Guest α} {a : r.Answer}
    {space' : AddressSpace δ} (h : (answer r).run space = .ok a space') :
    ((Guest.ask r >>= k).run answer).run space = ((k a).run answer).run space' := by
  change ((answer r >>= fun a => (k a).run answer).run space) = _
  rw [EStateM.run_bind, h]

/-- A dword read of the guest, run. -/
theorem asked_read32 {k : Result U32 → Guest α} {v : U32} {space' : AddressSpace δ}
    (h : (AddressSpace.read32 addr).run space = .ok v space') :
    ((Guest.read32 addr >>= k).run answer).run space = ((k (.ok v)).run answer).run space' :=
  run_answered (r := .read32 addr) (attempt_ok h)

section Writes

variable {k : Result Unit → Guest α} {space' : AddressSpace δ} {e : Error}

/-- A range check of the guest, run. -/
theorem asked_validateRange (len : GuestSize) (perm : MemoryPermission) :
    ((Guest.validateRange addr len perm >>= k).run answer).run space =
      ((k (space.validateRange addr len perm)).run answer).run space :=
  run_answered (r := .validateRange addr len perm) rfl

/-- A dword write of the guest that succeeds, run. -/
theorem asked_write32_ok {v : U32} (h : (AddressSpace.write32 addr v).run space = .ok () space') :
    ((Guest.write32 addr v >>= k).run answer).run space = ((k (.ok ())).run answer).run space' :=
  run_answered (r := .write32 addr v) (attempt_ok h)

/-- A dword write of the guest that fails, run. -/
theorem asked_write32_error {v : U32}
    (h : (AddressSpace.write32 addr v).run space = .error e space') :
    ((Guest.write32 addr v >>= k).run answer).run space = ((k (.error e)).run answer).run space' :=
  run_answered (r := .write32 addr v) (attempt_error h)

/-- A block write of the guest that succeeds, run. -/
theorem asked_writeBytes_ok {src : List U8}
    (h : (AddressSpace.writeBytes addr src).run space = .ok () space') :
    ((Guest.writeBytes addr src >>= k).run answer).run space = ((k (.ok ())).run answer).run space' :=
  run_answered (r := .writeBytes addr src) (attempt_ok h)

/-- A block write of the guest that fails, run. -/
theorem asked_writeBytes_error {src : List U8}
    (h : (AddressSpace.writeBytes addr src).run space = .error e space') :
    ((Guest.writeBytes addr src >>= k).run answer).run space =
      ((k (.error e)).run answer).run space' :=
  run_answered (r := .writeBytes addr src) (attempt_error h)

/-- Without a pointer nothing is written. -/
theorem asked_writeOptional_null {v : U32} (h : addr = 0) :
    ((KernelFileServices.writeOptional addr v >>= k).run answer).run space =
      ((k (.ok ())).run answer).run space := by
  unfold KernelFileServices.writeOptional
  rw [if_neg (not_not_intro h)]
  rfl

/-- An optional write with a pointer is a write. -/
theorem writeOptional_pointer {v : U32} (h : addr ≠ 0) :
    KernelFileServices.writeOptional addr v = Guest.write32 addr v := by
  unfold KernelFileServices.writeOptional
  rw [if_pos h]

end Writes

/-! ## Words -/

/-- A word in RAM is read. -/
theorem read32_word (h : blockAt space addr 4 .read = some c) :
    (AddressSpace.read32 addr).run space = .ok (wordAt space c) space := by
  obtain ⟨reg, ramOffset, hreg, htype, hpos⟩ := blockAt_some h
  unfold AddressSpace.read32 wordAt
  simp [hreg, htype, hpos]

/-- A word in RAM is written. -/
theorem write32_word (h : blockAt space addr 4 .write = some c) (v : U32) :
    (AddressSpace.write32 addr v).run space = .ok () (storedAt space c (dwordBytes v)) := by
  obtain ⟨reg, ramOffset, hreg, htype, hpos⟩ := blockAt_some h
  unfold AddressSpace.write32 storedAt dwordBytes
  simp [hreg, htype, hpos]

/-- A word is read back. -/
theorem wordAt_stored (space : AddressSpace δ) (c : Cell) (v : U32) :
    wordAt (storedAt space c (dwordBytes v)) c = v := by
  have hdata : ∀ i, i < 4 → ((storedAt space c (dwordBytes v)).rams c.1).data (c.2 + i) =
      (dwordBytes v).getD i 0 := by
    intro i hi
    rw [storedAt_data, if_pos ⟨rfl, by simp [Span.Holds, Span.stop, dwordBytes, hi]⟩,
      Nat.add_sub_cancel_left]
  unfold wordAt
  dsimp only
  rw [hdata 0 (by decide), hdata 1 (by decide), hdata 2 (by decide), hdata 3 (by decide)]
  exact word32_byteOf v

/-- The bytes of a dword put together are the bytes. -/
theorem byteOf_word32 (a b c d : U8) :
    byteOf (word32 a b c d) 0 = a ∧ byteOf (word32 a b c d) 1 = b ∧
      byteOf (word32 a b c d) 2 = c ∧ byteOf (word32 a b c d) 3 = d := by
  refine ⟨?_, ?_, ?_, ?_⟩ <;>
  · apply BitVec.eq_of_getLsbD_eq
    intro i hi
    simp only [word32, byteOf, BitVec.getLsbD_or, BitVec.getLsbD_setWidth, BitVec.getLsbD_shiftLeft,
      BitVec.getLsbD_and, BitVec.getLsbD_ushiftRight]
    interval_cases i <;> simp

/-- Writing the word that is there changes nothing. -/
theorem storedAt_wordAt (space : AddressSpace δ) (c : Cell) :
    storedAt space c (dwordBytes (wordAt space c)) = space := by
  have hbytes : dwordBytes (wordAt space c) = bytesAt space c 4 := by
    unfold dwordBytes wordAt
    dsimp only
    obtain ⟨h0, h1, h2, h3⟩ := byteOf_word32 ((space.rams c.1).data (c.2 + 0))
      ((space.rams c.1).data (c.2 + 1)) ((space.rams c.1).data (c.2 + 2))
      ((space.rams c.1).data (c.2 + 3))
    rw [h0, h1, h2, h3]
    rfl
  rw [hbytes, storedAt_bytesAt]

/-! ## Positions -/

section Positions

variable {vfs : Vfs} {handle : VfsHandle} {file : FileSlot ByteSource VfsFileInfo}

/-- The slot of an open file. -/
theorem getFile_slot (h : vfs.handleTable.getFile handle = .ok file) :
    ∃ s, handle.generation ≠ 0 ∧ vfs.handleTable.slots[handle.index.toNat]? = some s ∧
      s.isOpen = true ∧ s.generation = handle.generation ∧ s.type = .file ∧ s.file = file := by
  unfold VfsHandleTable.getFile at h
  cases hslot : vfs.handleTable.openSlot handle "Handle is stale or closed" with
  | error e =>
    rw [hslot] at h
    cases h
  | ok s =>
    obtain ⟨hvalid, hat, hopen, hgen⟩ := VfsTable.openSlot_ok_iff.1 hslot
    rw [hslot] at h
    dsimp only at h
    split at h
    · cases h
    next htype =>
      exact ⟨s, hvalid, hat, hopen, hgen, not_not.1 htype, Except.ok.inj h⟩

/-- A handle with the generation of its open slot finds the file. -/
theorem getFile_of_slot {s : HandleSlot ByteSource VfsFileInfo} (hvalid : handle.generation ≠ 0)
    (hat : vfs.handleTable.slots[handle.index.toNat]? = some s) (hopen : s.isOpen = true)
    (hgen : s.generation = handle.generation) (htype : s.type = .file) :
    vfs.handleTable.getFile handle = .ok s.file := by
  unfold VfsHandleTable.getFile
  rw [VfsTable.openSlot_ok_iff.2 ⟨hvalid, hat, hopen, hgen⟩]
  dsimp only
  rw [if_neg (not_not_intro htype)]

/-- A handle that finds a file is valid. -/
theorem getFile_isValid (h : vfs.handleTable.getFile handle = .ok file) : handle.isValid = true := by
  obtain ⟨s, hvalid, -⟩ := getFile_slot h
  simpa [VfsHandle.isValid] using hvalid

/-- An open file after its position was set. -/
theorem getFile_setPosition (h : vfs.handleTable.getFile handle = .ok file) (position : U64) :
    (vfs.setPosition handle position).handleTable.getFile handle =
      .ok { file with position := position } := by
  obtain ⟨s, hvalid, hat, hopen, hgen, htype, rfl⟩ := getFile_slot h
  refine getFile_of_slot (s := { s with file := { s.file with position := position } })
    hvalid ?_ hopen hgen htype
  simp [Vfs.setPosition, List.getElem?_modify_eq, hat]

/-- The position of a file that is found. -/
theorem positionOf_of_getFile (h : vfs.handleTable.getFile handle = .ok file) :
    positionOf { vfs := some vfs } handle = some file.position := by
  simp [positionOf, h, Except.toOption]

end Positions

/-- A bank of zeros. -/
def zeroSpace : AddressSpace Unit where
  regions := [⟨0, 0x4000000, .all, .ram 0 0⟩]
  rams := fun _ => ⟨kRamSizeRetail, fun _ => (0 : U8)⟩
  devices := ()

end Xblob.Analysis
