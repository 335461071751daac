import Mathlib.Data.List.Nodup
import Xblob.Analysis.ExportArguments

/-!
# What the handlers ask for

For each handler, the arguments that it asks for are among those that it is registered with.
The proofs follow the text of the handlers: one rule for each request, whatever the answer, and
a case for each branch on it.  `NtQueryDirectoryFile` asks for its seventh argument.
-/

set_option autoImplicit false

namespace Xblob.Analysis

open Xblob.Computation Xblob.Interface Xblob.Kernel Xblob.Memory Xblob.Processor Guest

variable {α β : Type} {esp : U32} {n : ℕ}

/-- Every request of the program is disciplined. -/
def Tame (esp : U32) (n : ℕ) (x : Guest α) : Prop := x.Within (Disciplined esp n) fun _ => True

/-! ## Rules -/

/-- Returning a value asks for nothing. -/
theorem tame_pure (a : α) : Tame esp n (pure a : Guest α) := trivial

/-- Failing asks for nothing. -/
theorem tame_fail (e : Error) : Tame esp n (Program.fail e : Guest α) := trivial

/-- A sequence of parts that keep to the arguments keeps to them. -/
theorem Tame.bind {x : Guest α} {f : α → Guest β} (hx : Tame esp n x) (hf : ∀ a, Tame esp n (f a)) :
    Tame esp n (x >>= f) :=
  Program.Within.bind hx fun a _ => hf a

/-- Reading one of the arguments keeps to them. -/
theorem tame_readArg {cpu : CpuContext} {index : ℕ} {f : Result U32 → Guest β} (hi : index < n)
    (hf : ∀ a, Tame (cpu.gpr .esp) n (f a)) : Tame (cpu.gpr .esp) n (readArg cpu index >>= f) :=
  ⟨⟨rfl, hi⟩, hf⟩

/-- Reading a byte of the guest's choice keeps to the arguments. -/
theorem tame_read8 (addr : GuestAddr) : Tame esp n (read8 addr) := ⟨trivial, fun _ => trivial⟩

/-- Reading a dword of the guest's choice keeps to the arguments. -/
theorem tame_read32 (addr : GuestAddr) : Tame esp n (read32 addr) := ⟨trivial, fun _ => trivial⟩

/-- Writing a byte keeps to the arguments. -/
theorem tame_write8 (addr : GuestAddr) (val : U8) : Tame esp n (write8 addr val) :=
  ⟨trivial, fun _ => trivial⟩

/-- Writing a dword keeps to the arguments. -/
theorem tame_write32 (addr : GuestAddr) (val : U32) : Tame esp n (write32 addr val) :=
  ⟨trivial, fun _ => trivial⟩

/-- Reading a block of the guest's choice keeps to the arguments. -/
theorem tame_readBytes (addr : GuestAddr) {m : ℕ} (hm : m < 0x100000000) :
    Tame esp n (readBytes addr m) :=
  ⟨hm, fun _ => trivial⟩

/-- Writing a block keeps to the arguments. -/
theorem tame_writeBytes (addr : GuestAddr) (src : List U8) : Tame esp n (writeBytes addr src) :=
  ⟨trivial, fun _ => trivial⟩

/-- Checking a range keeps to the arguments. -/
theorem tame_validateRange (addr : GuestAddr) (len : GuestSize) (perm : MemoryPermission) :
    Tame esp n (validateRange addr len perm) :=
  ⟨trivial, fun _ => trivial⟩

/-- Returning a status asks for nothing. -/
theorem tame_returned (cpu : CpuContext) (r : U32 × KernelState) : Tame esp n (returned cpu r) :=
  tame_pure _

/-- Returning a context asks for nothing. -/
theorem tame_returnedHle (k : KernelState) (r : U32 × CpuContext × KernelHle) :
    Tame esp n (returnedHle k r) :=
  tame_pure _

/-- Returning a kernel asks for nothing. -/
theorem tame_returnedBy (cpu : CpuContext) (k : KernelState) (r : U32 × KernelHle) :
    Tame esp n (returnedBy cpu k r) :=
  tame_pure _

/-! ## Loops and copies -/

/-- Reading a string keeps to the arguments. -/
theorem tame_readStringUpTo (tooLong : Error) (m : ℕ) (addr : GuestAddr) :
    Tame esp n (readStringUpTo tooLong m addr) := by
  induction m generalizing addr with
  | zero => exact tame_pure _
  | succ m ih =>
    refine (tame_read8 addr).bind fun c => ?_
    cases c with
    | error e => exact tame_pure _
    | ok c =>
      dsimp only
      split
      · exact tame_pure _
      · refine (ih (addr + 1)).bind fun rest => ?_
        cases rest with
        | error e => exact tame_pure _
        | ok s => exact tame_pure _

/-- Writing words keeps to the arguments. -/
theorem tame_writeWords (words : List (GuestAddr × U32)) : Tame esp n (writeWords words) := by
  induction words with
  | nil => exact tame_pure _
  | cons w words ih => exact (tame_write32 w.1 w.2).bind fun _ => ih

/-- Reading handles keeps to the arguments. -/
theorem tame_readHandles (t : HandleTable) (m : ℕ) (addr : GuestAddr) :
    Tame esp n (Handlers.readHandles t m addr) := by
  induction m generalizing addr with
  | zero => exact tame_pure _
  | succ m ih =>
    refine (tame_read32 addr).bind fun handle => ?_
    cases handle with
    | error e => exact tame_pure _
    | ok handle =>
      dsimp only
      split
      · exact tame_pure _
      · refine (ih (addr + 4)).bind fun rest => ?_
        cases rest with
        | error status => exact tame_pure _
        | ok handles => exact tame_pure _

/-- The copy is never longer than the new size, which is a 32-bit number. -/
theorem tame_copyBlock (heap : GuestHeap) (ptr newPtr newSize : U32) :
    Tame esp n (KernelState.copyBlock heap ptr newPtr newSize) := by
  unfold KernelState.copyBlock
  split
  · exact tame_pure _
  · refine (tame_readBytes ptr ?_).bind fun buffer => ?_
    · exact Nat.lt_of_le_of_lt (Nat.min_le_right _ _) newSize.isLt
    · cases buffer with
      | error e => exact tame_pure _
      | ok buffer => exact (tame_writeBytes newPtr buffer).bind fun _ => tame_pure _

/-- Reallocating keeps to the arguments. -/
theorem tame_rtlReAllocateHeap (k : KernelState) (heapHandle ptr newSize : U32) :
    Tame esp n (k.rtlReAllocateHeap heapHandle ptr newSize) := by
  unfold KernelState.rtlReAllocateHeap
  split
  · exact tame_pure _
  · split
    · exact tame_pure _
    · exact (tame_copyBlock _ ptr _ newSize).bind fun _ => tame_pure _

/-! ## File services -/

section Files

open KernelFileServices

variable (f : KernelFileServices)

/-- An optional check keeps to the arguments. -/
theorem tame_validateOptional (ptr : GuestAddr) (len : GuestSize) (perm : MemoryPermission) :
    Tame esp n (validateOptional ptr len perm) := by
  unfold validateOptional
  split
  · exact tame_validateRange ptr len perm
  · exact tame_pure _

/-- The check of a range that may be empty keeps to the arguments. -/
theorem tame_validateNonempty (addr : GuestAddr) (len : GuestSize) (perm : MemoryPermission) :
    Tame esp n (validateNonempty addr len perm) := by
  unfold validateNonempty
  split
  · exact tame_validateRange addr len perm
  · exact tame_pure _

/-- An optional write keeps to the arguments. -/
theorem tame_writeOptional (ptr : GuestAddr) (val : U32) : Tame esp n (writeOptional ptr val) := by
  unfold writeOptional
  split
  · exact tame_write32 ptr val
  · exact tame_pure _

/-- A request with an answer that the program goes on from in both cases. -/
theorem Tame.then {x : Guest (Result α)} {g : Result α → Guest β} (hx : Tame esp n x)
    (herror : ∀ e, Tame esp n (g (.error e))) (hok : ∀ a, Tame esp n (g (.ok a))) :
    Tame esp n (x >>= g) := by
  refine hx.bind fun r => ?_
  cases r with
  | error e => exact herror e
  | ok a => exact hok a

/-- Opening a file keeps to the arguments. -/
theorem tame_openAndHandOver (vfs : Vfs.Vfs) (path : Vfs.ByteString) (outHandlePtr : GuestAddr) :
    Tame esp n (openAndHandOver vfs path outHandlePtr) := by
  unfold openAndHandOver
  split
  · exact tame_pure _
  · refine (tame_writeOptional outHandlePtr _).then (fun e => ?_) fun _ => tame_pure _
    dsimp only
    split
    · exact tame_pure _
    · exact tame_pure _

/-- The file service that opens keeps to the arguments. -/
theorem tame_createFile (pathPtr desiredAccess disposition outHandlePtr : U32) :
    Tame esp n (f.createFile pathPtr desiredAccess disposition outHandlePtr) := by
  unfold createFile
  split
  · exact tame_pure _
  · refine (tame_validateOptional outHandlePtr 4 .write).then (fun _ => tame_pure _) fun _ => ?_
    refine (tame_readStringUpTo _ 512 pathPtr).then (fun _ => tame_pure _) fun path => ?_
    dsimp only
    split
    · exact tame_pure _
    · exact tame_openAndHandOver _ path outHandlePtr

/-- Reading into the guest keeps to the arguments. -/
theorem tame_readAndHandOver (vfs : Vfs.Vfs) (handle : Vfs.VfsHandle)
    (bufferAddr bytesToRead bytesReadPtr : U32) :
    Tame esp n (readAndHandOver f vfs handle bufferAddr bytesToRead bytesReadPtr) := by
  unfold readAndHandOver
  split
  · exact tame_pure _
  · dsimp only
    split
    · exact (tame_writeOptional bytesReadPtr 0).bind fun _ => tame_pure _
    · refine (tame_writeBytes bufferAddr _).then (fun _ => tame_pure _) fun _ => ?_
      exact (tame_writeOptional bytesReadPtr _).then (fun _ => tame_pure _) fun _ => tame_pure _

/-- The file service that reads keeps to the arguments. -/
theorem tame_readFile (handleVal bufferAddr bytesToRead bytesReadPtr overlappedPtr : U32) :
    Tame esp n (f.readFile handleVal bufferAddr bytesToRead bytesReadPtr overlappedPtr) := by
  unfold readFile
  split
  · exact tame_pure _
  · split
    · exact tame_pure _
    · refine (tame_validateOptional bytesReadPtr 4 .write).then (fun _ => tame_pure _) fun _ => ?_
      refine (tame_validateNonempty bufferAddr bytesToRead .write).then (fun _ => tame_pure _)
        fun _ => ?_
      dsimp only
      split
      · exact tame_pure _
      · split
        · exact (tame_writeOptional bytesReadPtr 0).bind fun _ => tame_pure _
        · exact tame_readAndHandOver f _ _ bufferAddr bytesToRead bytesReadPtr

/-- The file service that writes keeps to the arguments. -/
theorem tame_writeFile (bytesWrittenPtr overlappedPtr : U32) :
    Tame esp n (f.writeFile bytesWrittenPtr overlappedPtr) := by
  unfold writeFile
  split
  · exact tame_pure _
  · split
    · refine (tame_validateRange bytesWrittenPtr 4 .write).then (fun _ => tame_pure _) fun _ => ?_
      exact (tame_write32 bytesWrittenPtr 0).bind fun _ => tame_pure _
    · exact tame_pure _

/-- Seeking keeps to the arguments. -/
theorem tame_seekAndHandOver (vfs : Vfs.Vfs) (handle : Vfs.VfsHandle) (distance : U64)
    (origin : Vfs.VfsSeekOrigin) (highDistancePtr : GuestAddr) :
    Tame esp n (seekAndHandOver f vfs handle distance origin highDistancePtr) := by
  unfold seekAndHandOver
  split
  · exact tame_pure _
  · exact (tame_writeOptional highDistancePtr _).then (fun _ => tame_pure _) fun _ => tame_pure _

/-- The file service that seeks keeps to the arguments. -/
theorem tame_setFilePointer (handleVal distance highDistancePtr moveMethod : U32) :
    Tame esp n (f.setFilePointer handleVal distance highDistancePtr moveMethod) := by
  unfold setFilePointer
  split
  · exact tame_pure _
  · dsimp only
    split
    · exact tame_pure _
    · split
      · exact tame_pure _
      · split
        · exact (tame_read32 highDistancePtr).then (fun _ => tame_pure _) fun _ =>
            tame_seekAndHandOver f _ _ _ _ highDistancePtr
        · exact tame_seekAndHandOver f _ _ _ _ highDistancePtr

/-- The file service that queries keeps to the arguments. -/
theorem tame_queryInformationFile (handleVal infoPtr length : U32) :
    Tame esp n (f.queryInformationFile handleVal infoPtr length) := by
  unfold queryInformationFile
  split
  · exact tame_pure _
  · split
    · exact tame_pure _
    · refine (tame_validateRange infoPtr length .write).then (fun _ => tame_pure _) fun _ => ?_
      dsimp only
      split
      · exact tame_pure _
      · split
        · exact tame_pure _
        · refine (tame_writeWords _).bind fun _ => ?_
          refine (tame_write8 _ _).bind fun _ => ?_
          exact (tame_write8 _ _).bind fun _ => tame_pure _

/-- A device control keeps to the arguments. -/
theorem tame_ioctl (controlCode outBuf outLen bytesReturnedPtr : U32) :
    Tame esp n (ioctl f controlCode outBuf outLen bytesReturnedPtr) := by
  unfold ioctl
  split
  · exact (tame_writeOptional bytesReturnedPtr 0).bind fun _ => tame_pure _
  · split
    · split
      · exact tame_pure _
      · refine (tame_validateRange outBuf 24 .write).then (fun _ => tame_pure _) fun _ => ?_
        refine (tame_writeWords _).bind fun _ => ?_
        exact (tame_writeOptional bytesReturnedPtr 24).bind fun _ => tame_pure _
    · exact (tame_writeOptional bytesReturnedPtr 0).bind fun _ => tame_pure _

/-- The file service of device controls keeps to the arguments. -/
theorem tame_deviceIoControl (handleVal controlCode inBuf inLen outBuf outLen bytesReturnedPtr
    overlappedPtr : U32) :
    Tame esp n (f.deviceIoControl handleVal controlCode inBuf inLen outBuf outLen bytesReturnedPtr
      overlappedPtr) := by
  unfold deviceIoControl
  split
  · exact tame_pure _
  · split
    · exact tame_pure _
    · split
      · exact tame_pure _
      · refine (tame_validateNonempty inBuf inLen .read).then (fun _ => tame_pure _) fun _ => ?_
        refine (tame_validateOptional bytesReturnedPtr 4 .write).then (fun _ => tame_pure _)
          fun _ => ?_
        exact tame_ioctl f controlCode outBuf outLen bytesReturnedPtr

/-- A handler of a file service keeps to the arguments where the service does. -/
theorem tame_served (cpu : CpuContext) (k : KernelState) {service : Served}
    (h : Tame esp n service) : Tame esp n (Handlers.served cpu k service) :=
  h.bind fun _ => tame_pure _

end Files

/-! ## Handlers -/

/-- Whatever it is answered, the handler asks for the first `n` arguments only. -/
def AsksWithin (n : ℕ) (handler : Handler) : Prop :=
  ∀ cpu k, Tame (cpu.gpr .esp) n (handler cpu k)

/-- RtlAllocateHeap asks for its three arguments at most. -/
theorem asks_rtlAllocateHeap : AsksWithin 3 Handlers.rtlAllocateHeap := by
  intro cpu k
  refine tame_readArg (by omega) fun heapHandle => tame_readArg (by omega) fun size => ?_
  split
  · exact tame_returned cpu _
  · exact tame_returned cpu _

/-- RtlFreeHeap asks for its three arguments at most. -/
theorem asks_rtlFreeHeap : AsksWithin 3 Handlers.rtlFreeHeap := by
  intro cpu k
  refine tame_readArg (by omega) fun heapHandle => tame_readArg (by omega) fun ptr => ?_
  split
  · exact tame_returned cpu _
  · exact tame_returned cpu _

/-- RtlReAllocateHeap asks for its four arguments at most. -/
theorem asks_rtlReAllocateHeap : AsksWithin 4 Handlers.rtlReAllocateHeap := by
  intro cpu k
  refine tame_readArg (by omega) fun heapHandle => tame_readArg (by omega) fun ptr => ?_
  refine tame_readArg (by omega) fun newSize => ?_
  split
  · exact (tame_rtlReAllocateHeap k _ _ _).bind fun r => tame_returned cpu r
  · exact tame_returned cpu _

/-- RtlSizeHeap asks for its three arguments at most. -/
theorem asks_rtlSizeHeap : AsksWithin 3 Handlers.rtlSizeHeap := by
  intro cpu k
  refine tame_readArg (by omega) fun heapHandle => tame_readArg (by omega) fun ptr => ?_
  split
  · exact tame_returned cpu _
  · exact tame_returned cpu _

/-- RtlCreateHeap asks for its six arguments at most. -/
theorem asks_rtlCreateHeap : AsksWithin 6 Handlers.rtlCreateHeap := by
  intro cpu k
  refine tame_readArg (by omega) fun base => tame_readArg (by omega) fun reserve => ?_
  exact tame_returned cpu _

/-- RtlDestroyHeap asks for its argument at most. -/
theorem asks_rtlDestroyHeap : AsksWithin 1 Handlers.rtlDestroyHeap := by
  intro cpu k
  refine tame_readArg (by omega) fun heapHandle => ?_
  split
  · exact tame_returned cpu _
  · exact tame_returned cpu _

/-- MmAllocateContiguousMemory asks for its two arguments at most. -/
theorem asks_mmAllocateContiguousMemory : AsksWithin 2 Handlers.mmAllocateContiguousMemory := by
  intro cpu k
  refine tame_readArg (by omega) fun numBytes => ?_
  split
  · split
    · exact tame_pure _
    · exact tame_returned cpu _
  · exact tame_returned cpu _

/-- MmFreeContiguousMemory asks for its argument at most. -/
theorem asks_mmFreeContiguousMemory : AsksWithin 1 Handlers.mmFreeContiguousMemory := by
  intro cpu k
  refine tame_readArg (by omega) fun base => ?_
  split
  · exact tame_returned cpu _
  · exact tame_returned cpu _

/-- MmQueryAddressProtect asks for its argument at most. -/
theorem asks_mmQueryAddressProtect : AsksWithin 1 Handlers.mmQueryAddressProtect := by
  intro cpu k
  refine tame_readArg (by omega) fun base => ?_
  split
  · exact tame_returned cpu _
  · exact tame_returned cpu _

/-- NtAllocateVirtualMemory asks for its five arguments at most. -/
theorem asks_ntAllocateVirtualMemory : AsksWithin 5 Handlers.ntAllocateVirtualMemory := by
  intro cpu k
  refine tame_readArg (by omega) fun basePtr => tame_readArg (by omega) fun sizePtr => ?_
  refine tame_readArg (by omega) fun allocType => tame_readArg (by omega) fun protect => ?_
  split
  · refine (tame_read32 _).bind fun base => (tame_read32 _).bind fun size => ?_
    split
    · split
      · exact tame_pure _
      · exact tame_returned cpu _
      · exact (tame_writeWords _).bind fun _ => tame_returned cpu _
    · exact tame_returned cpu _
  · exact tame_returned cpu _

/-- NtFreeVirtualMemory asks for its three arguments at most. -/
theorem asks_ntFreeVirtualMemory : AsksWithin 3 Handlers.ntFreeVirtualMemory := by
  intro cpu k
  refine tame_readArg (by omega) fun basePtr => tame_readArg (by omega) fun sizePtr => ?_
  refine tame_readArg (by omega) fun freeType => ?_
  split
  · refine (tame_read32 _).bind fun base => (tame_read32 _).bind fun size => ?_
    split
    · exact tame_returned cpu _
    · exact tame_returned cpu _
  · exact tame_returned cpu _

/-- NtQueryVirtualMemory asks for its five arguments at most. -/
theorem asks_ntQueryVirtualMemory : AsksWithin 5 Handlers.ntQueryVirtualMemory := by
  intro cpu k
  refine tame_readArg (by omega) fun base => tame_readArg (by omega) fun infoPtr => ?_
  refine tame_readArg (by omega) fun len => tame_readArg (by omega) fun retLenPtr => ?_
  split
  · split
    · exact tame_returned cpu _
    · refine (tame_writeWords _).bind fun _ => ?_
      split
      · exact (tame_write32 _ 28).bind fun _ => tame_returned cpu _
      · exact tame_returned cpu _
  · exact tame_returned cpu _

/-- NtProtectVirtualMemory asks for its four arguments at most. -/
theorem asks_ntProtectVirtualMemory : AsksWithin 4 Handlers.ntProtectVirtualMemory := by
  intro cpu k
  refine tame_readArg (by omega) fun basePtr => tame_readArg (by omega) fun sizePtr => ?_
  refine tame_readArg (by omega) fun newProt => tame_readArg (by omega) fun oldProtPtr => ?_
  split
  · refine (tame_read32 _).bind fun base => (tame_read32 _).bind fun size => ?_
    split
    · split
      · exact tame_returned cpu _
      · exact (tame_write32 _ _).bind fun _ => tame_returned cpu _
    · exact tame_returned cpu _
  · exact tame_returned cpu _

/-- A handler that returns at once asks for nothing. -/
theorem asks_nothing {handler : Handler} {n : ℕ}
    (h : ∀ cpu k, ∃ r, handler cpu k = pure r) : AsksWithin n handler := by
  intro cpu k
  obtain ⟨r, hr⟩ := h cpu k
  rw [hr]
  exact tame_pure r

/-- KeQuerySystemTime asks for its argument at most. -/
theorem asks_keQuerySystemTime : AsksWithin 1 Handlers.keQuerySystemTime := by
  intro cpu k
  refine tame_readArg (by omega) fun timePtr => ?_
  split
  · split
    · exact tame_returned cpu _
    · refine (tame_write32 _ _).bind fun low => (tame_write32 _ _).bind fun high => ?_
      split
      · exact tame_returned cpu _
      · exact tame_returned cpu _
  · exact tame_returned cpu _

/-- KeSetTimer asks for its four arguments at most. -/
theorem asks_keSetTimer : AsksWithin 4 Handlers.keSetTimer := by
  intro cpu k
  refine tame_readArg (by omega) fun handle => tame_readArg (by omega) fun dueTimePtr => ?_
  refine tame_readArg (by omega) fun periodMs => tame_readArg (by omega) fun dpc => ?_
  split
  · split
    · exact tame_returned cpu _
    · refine (tame_read32 _).bind fun low => (tame_read32 _).bind fun high => ?_
      split
      · exact tame_returnedBy cpu k _
      · exact tame_returned cpu _
  · exact tame_returned cpu _

/-- KeCancelTimer asks for its argument at most. -/
theorem asks_keCancelTimer : AsksWithin 1 Handlers.keCancelTimer := by
  intro cpu k
  refine tame_readArg (by omega) fun handle => ?_
  split
  · exact tame_returnedBy cpu k _
  · exact tame_returned cpu _

/-- NtDelayExecution asks for its two arguments at most. -/
theorem asks_ntDelayExecution : AsksWithin 2 Handlers.ntDelayExecution := by
  intro cpu k
  refine tame_readArg (by omega) fun intervalPtr => ?_
  split
  · split
    · exact tame_returned cpu _
    · refine (tame_read32 _).bind fun low => (tame_read32 _).bind fun high => ?_
      split
      · exact tame_returnedHle k _
      · exact tame_returned cpu _
  · exact tame_returned cpu _

/-- The creation of an event asks for its four arguments at most. -/
theorem asks_createEvent : AsksWithin 4 Handlers.createEvent := by
  intro cpu k
  refine tame_readArg (by omega) fun manual => tame_readArg (by omega) fun initial => ?_
  exact tame_returnedBy cpu k _

/-- An operation on a handle asks for its argument at most. -/
theorem asks_onHandle (f : KernelHle → GuestHandle → U32 × KernelHle) :
    AsksWithin 1 (Handlers.onHandle f) := by
  intro cpu k
  refine tame_readArg (by omega) fun handle => ?_
  split
  · exact tame_returnedBy cpu k _
  · exact tame_returned cpu _

/-- The creation of a mutex asks for its three arguments at most. -/
theorem asks_createMutex : AsksWithin 3 Handlers.createMutex := by
  intro cpu k
  refine tame_readArg (by omega) fun initialOwner => ?_
  exact tame_returnedBy cpu k _

/-- The creation of a semaphore asks for its four arguments at most. -/
theorem asks_createSemaphore : AsksWithin 4 Handlers.createSemaphore := by
  intro cpu k
  refine tame_readArg (by omega) fun initCount => tame_readArg (by omega) fun maxCount => ?_
  split
  · exact tame_returnedBy cpu k _
  · exact tame_returned cpu _

/-- The release of a semaphore asks for its four arguments at most. -/
theorem asks_releaseSemaphore : AsksWithin 4 Handlers.releaseSemaphore := by
  intro cpu k
  refine tame_readArg (by omega) fun handle => tame_readArg (by omega) fun relCount => ?_
  refine tame_readArg (by omega) fun prevPtr => ?_
  split
  · split
    · exact tame_returnedBy cpu k _
    · split
      · exact (tame_write32 _ _).bind fun _ => tame_returnedBy cpu k _
      · exact tame_returnedBy cpu k _
  · exact tame_returned cpu _

/-- The wait for one object asks for its two arguments at most. -/
theorem asks_waitForSingleObject : AsksWithin 2 Handlers.waitForSingleObject := by
  intro cpu k
  refine tame_readArg (by omega) fun handle => tame_readArg (by omega) fun timeout => ?_
  split
  · exact tame_returnedHle k _
  · exact tame_returned cpu _

/-- The wait for several objects asks for its four arguments at most. -/
theorem asks_waitForMultipleObjects : AsksWithin 4 Handlers.waitForMultipleObjects := by
  intro cpu k
  refine tame_readArg (by omega) fun count => tame_readArg (by omega) fun handlesPtr => ?_
  refine tame_readArg (by omega) fun waitAll => tame_readArg (by omega) fun timeout => ?_
  split
  · split
    · exact tame_returned cpu _
    · refine (tame_readHandles _ _ _).bind fun handles => ?_
      split
      · exact tame_returned cpu _
      · exact tame_returnedHle k _
  · exact tame_returned cpu _

/-- DbgPrint asks for its argument at most. -/
theorem asks_dbgPrint : AsksWithin 1 Handlers.dbgPrint := by
  intro cpu k
  refine tame_readArg (by omega) fun strAddr => ?_
  split
  · exact tame_fail _
  · exact (tame_readStringUpTo _ 1024 _).then (fun e => tame_fail e) fun _ => tame_returned cpu _

/-- DbgPrompt asks for its three arguments at most. -/
theorem asks_dbgPrompt : AsksWithin 3 Handlers.dbgPrompt := by
  intro cpu k
  refine tame_readArg (by omega) fun promptPtr => ?_
  split
  · exact (tame_readStringUpTo _ 1024 _).then (fun _ => tame_returned cpu _) fun _ =>
      tame_returned cpu _
  · exact tame_returned cpu _

/-- The creation of a thread asks for its six arguments at most. -/
theorem asks_createThread : AsksWithin 6 Handlers.createThread := by
  intro cpu k
  refine tame_readArg (by omega) fun stackSize => tame_readArg (by omega) fun startRoutine => ?_
  refine tame_readArg (by omega) fun arg => tame_readArg (by omega) fun outId => ?_
  split
  · split
    · exact tame_returnedBy cpu k _
    · split
      · exact (tame_write32 _ _).bind fun _ => tame_returnedBy cpu k _
      · exact tame_returnedBy cpu k _
  · exact tame_fail _

/-- The exit of a thread asks for its argument at most. -/
theorem asks_exitThread : AsksWithin 1 Handlers.exitThread := by
  intro cpu k
  refine tame_readArg (by omega) fun code => ?_
  exact tame_returnedHle k _

/-- NtTerminateThread asks for its two arguments at most. -/
theorem asks_ntTerminateThread : AsksWithin 2 Handlers.ntTerminateThread := by
  intro cpu k
  refine tame_readArg (by omega) fun handle => tame_readArg (by omega) fun code => ?_
  exact tame_returnedHle k _

/-- NtClose asks for its argument at most. -/
theorem asks_ntClose : AsksWithin 1 Handlers.ntClose := by
  intro cpu k
  refine tame_readArg (by omega) fun handle => ?_
  split
  · exact tame_fail _
  · exact tame_returned cpu _

/-- NtCreateFile asks for its four arguments at most. -/
theorem asks_ntCreateFile : AsksWithin 4 Handlers.ntCreateFile := by
  intro cpu k
  refine tame_readArg (by omega) fun outHandle => tame_readArg (by omega) fun access => ?_
  refine tame_readArg (by omega) fun path => tame_readArg (by omega) fun disposition => ?_
  split
  · exact tame_served cpu k (tame_createFile _ _ _ _ _)
  · exact tame_fail _

/-- NtReadFile asks for its five arguments at most. -/
theorem asks_ntReadFile : AsksWithin 5 Handlers.ntReadFile := by
  intro cpu k
  refine tame_readArg (by omega) fun handle => tame_readArg (by omega) fun buf => ?_
  refine tame_readArg (by omega) fun len => tame_readArg (by omega) fun readPtr => ?_
  refine tame_readArg (by omega) fun ovl => ?_
  split
  · exact tame_served cpu k (tame_readFile _ _ _ _ _ _)
  · exact tame_fail _

/-- NtWriteFile asks for its five arguments at most. -/
theorem asks_ntWriteFile : AsksWithin 5 Handlers.ntWriteFile := by
  intro cpu k
  refine tame_readArg (by omega) fun handle => tame_readArg (by omega) fun buf => ?_
  refine tame_readArg (by omega) fun len => tame_readArg (by omega) fun writtenPtr => ?_
  refine tame_readArg (by omega) fun ovl => ?_
  split
  · exact tame_served cpu k (tame_writeFile _ _ _)
  · exact tame_fail _

/-- SetFilePointer asks for its four arguments at most. -/
theorem asks_setFilePointer : AsksWithin 4 Handlers.setFilePointer := by
  intro cpu k
  refine tame_readArg (by omega) fun handle => tame_readArg (by omega) fun dist => ?_
  refine tame_readArg (by omega) fun high => tame_readArg (by omega) fun method => ?_
  split
  · exact tame_served cpu k (tame_setFilePointer _ _ _ _ _)
  · exact tame_fail _

/-- NtDeviceIoControlFile asks for its eight arguments at most. -/
theorem asks_ntDeviceIoControlFile : AsksWithin 8 Handlers.ntDeviceIoControlFile := by
  intro cpu k
  refine tame_readArg (by omega) fun handle => tame_readArg (by omega) fun code => ?_
  refine tame_readArg (by omega) fun inBuf => tame_readArg (by omega) fun inLen => ?_
  refine tame_readArg (by omega) fun outBuf => tame_readArg (by omega) fun outLen => ?_
  refine tame_readArg (by omega) fun retPtr => tame_readArg (by omega) fun ovl => ?_
  split
  · exact tame_served cpu k (tame_deviceIoControl _ _ _ _ _ _ _ _ _)
  · exact tame_fail _

/-- NtQueryInformationFile asks for its five arguments at most. -/
theorem asks_ntQueryInformationFile : AsksWithin 5 Handlers.ntQueryInformationFile := by
  intro cpu k
  refine tame_readArg (by omega) fun handle => tame_readArg (by omega) fun infoPtr => ?_
  refine tame_readArg (by omega) fun len => tame_readArg (by omega) fun infoClass => ?_
  split
  · exact tame_served cpu k (tame_queryInformationFile _ _ _ _)
  · exact tame_fail _

/-- All handlers but one ask for the arguments they are registered with. -/
theorem asksWithin_of_registered {e : ExportEntry} (he : e ∈ registeredExports)
    (hordinal : e.ordinal ≠ 216) : AsksWithin e.paramCount e.handler := by
  have hall : ∀ e ∈ registeredExports, e.ordinal ≠ 216 → AsksWithin e.paramCount e.handler := by
    simp only [registeredExports, List.forall_mem_cons, List.not_mem_nil, false_implies,
      implies_true, and_true]
    exact ⟨fun _ => asks_rtlAllocateHeap, fun _ => asks_rtlFreeHeap,
      fun _ => asks_rtlReAllocateHeap, fun _ => asks_rtlSizeHeap, fun _ => asks_rtlCreateHeap,
      fun _ => asks_rtlDestroyHeap, fun _ => asks_mmAllocateContiguousMemory,
      fun _ => asks_mmFreeContiguousMemory, fun _ => asks_mmQueryAddressProtect,
      fun _ => asks_ntAllocateVirtualMemory, fun _ => asks_ntFreeVirtualMemory,
      fun _ => asks_ntQueryVirtualMemory, fun _ => asks_ntProtectVirtualMemory,
      fun _ => asks_nothing fun _ _ => ⟨_, rfl⟩, fun _ => asks_nothing fun _ _ => ⟨_, rfl⟩,
      fun _ => asks_keQuerySystemTime, fun _ => asks_nothing fun _ _ => ⟨_, rfl⟩,
      fun _ => asks_nothing fun _ _ => ⟨_, rfl⟩, fun _ => asks_keSetTimer,
      fun _ => asks_keCancelTimer, fun _ => asks_ntDelayExecution, fun _ => asks_createEvent,
      fun _ => asks_onHandle _, fun _ => asks_onHandle _, fun _ => asks_onHandle _,
      fun _ => asks_createMutex, fun _ => asks_onHandle _, fun _ => asks_createSemaphore,
      fun _ => asks_releaseSemaphore, fun _ => asks_waitForSingleObject,
      fun _ => asks_waitForMultipleObjects, fun _ => asks_dbgPrint, fun _ => asks_dbgPrompt,
      fun _ => asks_createThread, fun _ => asks_exitThread, fun _ => asks_onHandle _,
      fun _ => asks_onHandle _, fun _ => asks_nothing fun _ _ => ⟨_, rfl⟩,
      fun _ => asks_nothing fun _ _ => ⟨_, rfl⟩, fun _ => asks_ntTerminateThread,
      fun _ => asks_ntClose, fun _ => asks_ntCreateFile, fun _ => asks_ntReadFile,
      fun _ => asks_ntWriteFile, fun _ => asks_setFilePointer,
      fun _ => asks_ntDeviceIoControlFile, fun _ => asks_ntQueryInformationFile,
      fun h => absurd rfl h⟩
  exact hall e he hordinal

/-! ## The seventh argument -/

/-- A page of RAM at address 0 that is zero but for the low byte of the seventh argument of a
call with ESP 0. -/
def stackPage (length : U8) : AddressSpace Unit where
  regions := [⟨0, 0x1000, .readWrite, .ram 0 0⟩]
  rams := fun _ => { size := 0x1000, data := fun pos => if pos = 28 then length else 0 }
  devices := ()

/-- A kernel with a file system without volumes. -/
def withFiles : KernelState := { fileServices := { vfs := some {} } }

/-- Writing words reads nothing. -/
theorem writeWords_reads (words : List (GuestAddr × U32)) :
    (writeWords words).Within (fun r => ∀ a, ¬ GuestRequest.Reads r a) fun _ => True := by
  induction words with
  | nil => trivial
  | cons w words ih => exact ⟨fun _ h => h, fun _ => ih⟩

/-- Writing bytes reads nothing. -/
theorem writeEach_reads (addr : GuestAddr) (bytes : List U8) :
    (KernelFileServices.writeEach addr bytes).Within (fun r => ∀ a, ¬ GuestRequest.Reads r a)
      fun _ => True := by
  induction bytes generalizing addr with
  | nil => trivial
  | cons b bytes ih => exact ⟨fun _ h => h, fun _ => ih (addr + 1)⟩

/-- The directory query reads nothing through a pointer. -/
theorem queryDirectoryFile_reads (f : KernelFileServices) (handleVal outEntryPtr length : U32) :
    (f.queryDirectoryFile handleVal outEntryPtr length).Within
      (fun r => ∀ a, ¬ GuestRequest.Reads r a) fun _ => True := by
  unfold KernelFileServices.queryDirectoryFile
  split
  · trivial
  · split
    · trivial
    · refine ⟨fun _ h => h, fun valid => ?_⟩
      cases valid with
      | error e => trivial
      | ok u =>
        dsimp only [Program.bind]
        split
        · trivial
        · split
          · trivial
          · trivial
          · refine (writeWords_reads _).bind fun _ _ => ?_
            exact (writeEach_reads _ _).bind fun _ _ => trivial

/-- NtQueryDirectoryFile reads nothing of the guest's memory. -/
theorem ntQueryDirectoryFile_reads (cpu : CpuContext) (k : KernelState) :
    (Handlers.ntQueryDirectoryFile cpu k).Within (fun r => ∀ a, ¬ GuestRequest.Reads r a)
      fun _ => True := by
  refine ⟨fun _ h => h, fun (handle : Result U32) => ⟨fun _ h => h, fun (outPtr : Result U32) =>
    ⟨fun _ h => h, fun (len : Result U32) => ?_⟩⟩⟩
  dsimp only [Program.bind]
  split
  · exact (queryDirectoryFile_reads _ _ _ _).bind fun _ _ => trivial
  · trivial

/-- A length of 0 in the seventh argument is too short for an entry. -/
theorem ntQueryDirectoryFile_short :
    ((Handlers.ntQueryDirectoryFile {} withFiles).run answer).run (stackPage 0) =
      .ok (some (kNtStatusInvalidParameter, {}, withFiles)) (stackPage 0) := rfl

/-- A length of 28 is not, and the handle 0 is refused. -/
theorem ntQueryDirectoryFile_long :
    ((Handlers.ntQueryDirectoryFile {} withFiles).run answer).run (stackPage 28) =
      .ok (some (kNtStatusInvalidHandle, {}, withFiles)) (stackPage 28) := rfl

/-- The two stacks of the example differ in one argument. -/
theorem agreeOutside_stackPage (length : U8) :
    AgreeOutside (fun a => (Span.mk 28 4).Holds a.toNat) (stackPage 0) (stackPage length) where
  regions := rfl
  devices := rfl
  sizes := fun _ => rfl
  cells := by
    intro reg hreg ram ramOffset htype a _ _ ha
    simp only [stackPage, List.mem_singleton] at hreg
    subst hreg
    cases htype
    have hpos : 0 + (a.toNat - (0 : GuestAddr).toNat) ≠ 28 := by
      intro h
      have hzero : (0 : GuestAddr).toNat = 0 := rfl
      refine ha ?_
      unfold Span.Holds Span.stop
      dsimp only
      omega
    simp only [stackPage, AddressSpace.ramPos, if_neg hpos]

/-- The directory query tells a length of 0 from one of 28, which are beyond its arguments. -/
theorem not_keepsToArguments_ntQueryDirectoryFile :
    ¬ KeepsToArguments ⟨216, "NtQueryDirectoryFile", 6, Handlers.ntQueryDirectoryFile⟩ := by
  intro h
  have hbeyond : ∀ a : GuestAddr, (Span.mk 28 4).Holds a.toNat → BeyondArguments 0 6 a :=
    fun a ha => ⟨6, Nat.le_refl 6, ha⟩
  have hreads : ReadsAvoid (fun a => (Span.mk 28 4).Holds a.toNat)
      (Handlers.ntQueryDirectoryFile {} withFiles) (stackPage 0) := by
    refine ((ntQueryDirectoryFile_reads {} withFiles).mono ?_ fun _ h => h).along _
    exact fun r hr a ha => absurd ha (hr a)
  have hagree := h Unit {} withFiles _ _ _ hbeyond (agreeOutside_stackPage 28) hreads
  unfold Lockstep at hagree
  dsimp only at hagree
  rw [ntQueryDirectoryFile_short, ntQueryDirectoryFile_long] at hagree
  have hstatus := congrArg (Option.map Prod.fst) hagree.1
  exact absurd hstatus (by decide)

/-- No ordinal is registered twice. -/
theorem registeredExports_nodup : (registeredExports.map ExportEntry.ordinal).Nodup := by
  decide

/-- **An export keeps to its arguments exactly when it is not `NtQueryDirectoryFile`.** -/
theorem export_keeps_to_arguments_iff (e : ExportEntry) (he : e ∈ registeredExports) :
    KeepsToArguments e ↔ e.ordinal ≠ 216 := by
  constructor
  · intro h hordinal
    have hentry : e = ⟨216, "NtQueryDirectoryFile", 6, Handlers.ntQueryDirectoryFile⟩ :=
      List.inj_on_of_nodup_map registeredExports_nodup he (by simp [registeredExports]) hordinal
    rw [hentry] at h
    exact not_keepsToArguments_ntQueryDirectoryFile h
  · intro hordinal
    exact keepsToArguments_of_within (asksWithin_of_registered he hordinal)

/-- `NtClose` keeps to its one argument. -/
theorem ntClose_keeps_to_arguments :
    KeepsToArguments ⟨18, "NtClose", 1, Handlers.ntClose⟩ :=
  (export_keeps_to_arguments_iff _ (by simp [registeredExports])).2 (by decide)

/-- Not every registered export keeps to its arguments. -/
theorem an_export_reads_beyond : ¬ ∀ e ∈ registeredExports, KeepsToArguments e := by
  intro h
  exact not_keepsToArguments_ntQueryDirectoryFile (h _ (by simp [registeredExports]))

end Xblob.Analysis
