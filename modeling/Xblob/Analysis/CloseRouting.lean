import Xblob.Analysis.Handles
import Xblob.Interface.ExportRuns

/-!
# The object that `NtClose` closes

`NtClose` asks the kernel's table first.  An open file is closed exactly when its handle is no
live handle of that table; the two tables number their objects alike, so the first event and
the first file have the same handle.
-/

set_option autoImplicit false

namespace Xblob.Analysis

open Xblob.Interface Xblob.Kernel Xblob.Memory Xblob.Processor Xblob.Vfs

variable {k : KernelState} {handle : U32}

/-- `FromU32` forgets nothing. -/
theorem toU32_fromU32 (val : U32) : toU32 (fromU32 val) = val := encodeHandle_parts val

/-- Two handle values that unpack alike are the same. -/
theorem fromU32_injective {a b : U32} (h : fromU32 a = fromU32 b) : a = b := by
  rw [← toU32_fromU32 a, h, toU32_fromU32]

/-! ## Open files -/

/-- The slot of an open file. -/
structure FileSlotOf (vfs : Vfs) (handle : U32) (s : HandleSlot ByteSource VfsFileInfo) : Prop where
  valid : (fromU32 handle).generation ≠ 0
  slot : vfs.handleTable.slots[(fromU32 handle).index.toNat]? = some s
  isOpen : s.isOpen = true
  generation : s.generation = (fromU32 handle).generation
  type : s.type = .file

/-- The slot of an open file is found by its handle. -/
theorem FileSlotOf.openSlot {vfs : Vfs} {s : HandleSlot ByteSource VfsFileInfo}
    (hs : FileSlotOf vfs handle s) (stale : String) :
    vfs.handleTable.openSlot (fromU32 handle) stale = .ok s :=
  VfsTable.openSlot_ok_iff.2 ⟨hs.valid, hs.slot, hs.isOpen, hs.generation⟩

/-- A handle is an open file where the file system has its slot. -/
theorem isOpenFile_iff : isOpenFile k handle = true ↔
    ∃ vfs s, k.fileServices.vfs = some vfs ∧ FileSlotOf vfs handle s := by
  unfold isOpenFile
  cases hvfs : k.fileServices.vfs with
  | none => simp
  | some vfs =>
    simp only [VfsHandleTable.getFile]
    cases hslot : vfs.handleTable.openSlot (fromU32 handle) "Handle is stale or closed" with
    | error e =>
      simp only [Except.isOk, Except.toBool, Bool.false_eq_true, false_iff]
      rintro ⟨_, s, heq, hs⟩
      cases heq
      rw [hs.openSlot] at hslot
      cases hslot
    | ok s =>
      obtain ⟨hvalid, hat, hopen, hgen⟩ := VfsTable.openSlot_ok_iff.1 hslot
      dsimp only
      split
      · simp only [Except.isOk, Except.toBool, Bool.false_eq_true, false_iff]
        rintro ⟨_, s', heq, hs⟩
        cases heq
        have hsame := hs.slot
        rw [hat] at hsame
        cases hsame
        exact absurd hs.type ‹s.type ≠ .file›
      · refine ⟨fun _ => ⟨vfs, s, rfl, hvalid, hat, hopen, hgen, ?_⟩, fun _ => rfl⟩
        simpa using ‹¬ s.type ≠ .file›

/-- The file system without the file of a handle. -/
def closedFile (vfs : Vfs) (handle : U32) : Vfs :=
  { vfs with
    handleTable := { vfs.handleTable with
      slots := vfs.handleTable.slots.modify (fromU32 handle).index.toNat fun slot =>
        { slot with
          isOpen := false
          generation := VfsHandleTable.nextGeneration slot.generation
          file := {}
          dir := {} } } }

/-- A closed file is not open. -/
theorem isOpenFile_closedFile (k' : KernelState) (vfs : Vfs)
    (hk' : k'.fileServices.vfs = some (closedFile vfs handle)) : isOpenFile k' handle = false := by
  rw [← Bool.not_eq_true, isOpenFile_iff]
  rintro ⟨_, s, hvfs, hs⟩
  rw [hk'] at hvfs
  cases hvfs
  have hslot : (vfs.handleTable.slots.modify _ _)[(fromU32 handle).index.toNat]? = some s := hs.slot
  rw [List.getElem?_modify_eq] at hslot
  obtain ⟨_, -, rfl⟩ := Option.map_eq_some_iff.1 hslot
  exact absurd hs.isOpen (by simp)

/-- Another file stays open: its slot is another one. -/
theorem FileSlotOf.other {vfs : Vfs} {s s' : HandleSlot ByteSource VfsFileInfo} {other : U32}
    (hs : FileSlotOf vfs handle s) (hs' : FileSlotOf vfs other s') (hne : other ≠ handle) :
    FileSlotOf (closedFile vfs handle) other s' := by
  have hindex : (fromU32 handle).index.toNat ≠ (fromU32 other).index.toNat := by
    intro heq
    apply hne
    apply fromU32_injective
    have hsame := hs'.slot
    rw [← heq, hs.slot] at hsame
    cases hsame
    have hgen := hs'.generation.symm.trans hs.generation
    have hidx := BitVec.eq_of_toNat_eq heq.symm
    exact congrArg₂ VfsHandle.mk hidx hgen
  refine ⟨hs'.valid, ?_, hs'.isOpen, hs'.generation, hs'.type⟩
  rw [← hs'.slot]
  exact List.getElem?_modify_ne _ _ hindex

/-! ## The two ways of `NtClose` -/

/-- A live handle of the kernel's table is closed there, and is live no more. -/
theorem ntClose_kernelHandle (hlive : isKernelHandle k handle = true) :
    (k.ntClose handle).2.fileServices = k.fileServices ∧
      isKernelHandle (k.ntClose handle).2 handle = false := by
  have hvalid : k.hle.handles.isValidHandle handle = true := hlive
  cases hslot : k.hle.handles.validateSlotOnly handle with
  | error e =>
    rw [HandleTable.isValidHandle, hslot] at hvalid
    cases hvalid
  | ok found =>
    obtain ⟨i, s⟩ := found
    obtain ⟨-, hi, hs, -, hgen⟩ := KernelTable.validateSlotOnly_ok_iff.1 hslot
    simp only [KernelState.ntClose, hvalid, if_true, HandleTable.closeHandle, hslot,
      isKernelHandle, true_and]
    rw [← Bool.not_eq_true]
    intro hstill
    -- the slot is free, whatever its new generation
    cases hagain : HandleTable.validateSlotOnly _ handle with
    | error e =>
      rw [HandleTable.isValidHandle, hagain] at hstill
      cases hstill
    | ok found =>
      obtain ⟨j, s'⟩ := found
      obtain ⟨-, hj, hs', huse, -⟩ := KernelTable.validateSlotOnly_ok_iff.1 hagain
      rw [hj, ← hi, List.getElem?_modify_eq, hs] at hs'
      cases hs'
      cases huse

/-- Any other handle is closed by the file services. -/
theorem ntClose_openFile (hlive : isKernelHandle k handle = false) {vfs : Vfs}
    {s : HandleSlot ByteSource VfsFileInfo} (hvfs : k.fileServices.vfs = some vfs)
    (hs : FileSlotOf vfs handle s) :
    k.ntClose handle =
      (kNtStatusSuccess, { k with fileServices := { vfs := some (closedFile vfs handle) } }) := by
  have hvalid : k.hle.handles.isValidHandle handle = false := hlive
  have hgen : (fromU32 handle).isValid = true := by
    simpa [VfsHandle.isValid] using hs.valid
  simp only [KernelState.ntClose, hvalid, Bool.false_eq_true, if_false,
    KernelFileServices.closeHandle, hvfs, hgen, Bool.not_true, Vfs.close, VfsHandleTable.close,
    hs.openSlot, Except.map]
  rfl

/-- An open file that is no kernel handle is closed in the file system. -/
theorem closesFile_of_not_kernelHandle (hopen : isOpenFile k handle = true)
    (hlive : isKernelHandle k handle = false) : ClosesFile k handle := by
  obtain ⟨vfs, s, hvfs, hs⟩ := isOpenFile_iff.1 hopen
  have hclose := ntClose_openFile hlive hvfs hs
  refine ⟨?_, ?_, ?_, ?_⟩
  · rw [hclose]
    rfl
  · rw [hclose]
    exact isOpenFile_closedFile _ vfs rfl
  · intro f hne hf
    obtain ⟨_, s', hvfs', hs'⟩ := isOpenFile_iff.1 hf
    rw [hvfs] at hvfs'
    cases hvfs'
    rw [hclose]
    exact isOpenFile_iff.2 ⟨closedFile vfs handle, s', rfl, hs.other hs' hne⟩
  · intro h hh
    rw [hclose]
    exact hh

/-- In any state, `NtClose` does right by a handle unless both tables have it. -/
theorem routesClose_iff (k : KernelState) (handle : U32) :
    RoutesClose k handle ↔ ¬ (isOpenFile k handle = true ∧ isKernelHandle k handle = true) := by
  constructor
  · rintro hroutes ⟨hopen, hlive⟩
    have hkept := (hroutes.file hopen).objects handle hlive
    rw [(ntClose_kernelHandle hlive).2] at hkept
    cases hkept
  · intro hnot
    refine ⟨fun hopen => ?_, fun hlive f hf => ?_⟩
    · apply closesFile_of_not_kernelHandle hopen
      rw [← Bool.not_eq_true]
      exact fun hlive => hnot ⟨hopen, hlive⟩
    · unfold isOpenFile at hf ⊢
      rw [(ntClose_kernelHandle hlive).1]
      exact hf

/-- **After any export calls `NtClose` closes the right object, for every handle that is not
both of an open file and live in the kernel's table.** -/
theorem ntClose_routes_iff (mounts : ByteString → Option VfsVolume) (calls : List ObjectCall)
    (handle : U32) :
    RoutesClose (kernelAfter mounts calls) handle ↔
      ¬ (isOpenFile (kernelAfter mounts calls) handle = true ∧
        isKernelHandle (kernelAfter mounts calls) handle = true) :=
  routesClose_iff _ handle

/-! ## The first event and the first file -/

/-- A volume on which every path is a file of one byte. -/
def oneFileVolume : VfsVolume where
  queryInfo := fun _ => .ok { size := 1 }
  openFile := fun _ => .ok (some ⟨fun _ n => .ok (List.replicate n 0)⟩)
  listDirectory := fun _ => .ok []

/-- A page with the arguments of a call at address 0 and the path `D:\a` behind them. -/
def argumentPage : AddressSpace Unit where
  regions := [⟨0, 0x1000, .readWrite, .ram 0 0⟩]
  rams := fun _ =>
    { size := 0x1000
      data := fun pos =>
        if pos = 4 then 0x80 else if pos = 12 then 0x40
        else if pos = 0x40 then 0x44 else if pos = 0x41 then 0x3A else if pos = 0x42 then 0x5C
        else if pos = 0x43 then 0x61 else 0 }
  devices := ()

/-- `CreateEvent`, then `NtCreateFile`. -/
def eventThenFile : List ObjectCall :=
  [.export ⟨⟨64, "CreateEvent", 4, Handlers.createEvent⟩, by simp [registeredExports], {},
      argumentPage⟩,
   .export ⟨⟨190, "NtCreateFile", 4, Handlers.ntCreateFile⟩, by simp [registeredExports], {},
      argumentPage⟩]

/-- The event and the file have the handle 0x10000, and `NtClose` of it is not right. -/
theorem event_closed_for_file :
    ¬ RoutesClose (kernelAfter (fun _ => some oneFileVolume) eventThenFile) 0x10000 := by
  rw [routesClose_iff, not_not]
  exact ⟨rfl, rfl⟩

end Xblob.Analysis
