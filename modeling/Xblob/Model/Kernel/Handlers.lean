import Xblob.Model.Kernel.KernelState

/-!
# The exports

One handler for each export: the arguments it reads from the stack, in the order of the
source, and what it does with them.  A handler returns a value, the context and the kernel
after it, or fails; or it does not return.
-/

set_option autoImplicit false

namespace Xblob.Kernel

open Xblob.Computation Xblob.Memory Xblob.Processor Guest

/-- What a handler returns; `none` when it never does. -/
abbrev Returned := Option (U32 × CpuContext × KernelState)

/-- `HleHandler`. SOURCE: libs/kernel/include/xblob/kernel/registry.hpp:33 -/
abbrev Handler := CpuContext → KernelState → Guest Returned

/-- A value returned with the context as it was. -/
def returned (cpu : CpuContext) (r : U32 × KernelState) : Guest Returned := pure (some (r.1, cpu, r.2))

/-- A value returned by a part of the kernel that may switch threads. -/
def returnedHle (k : KernelState) (r : U32 × CpuContext × KernelHle) : Guest Returned :=
  pure (some (r.1, r.2.1, { k with hle := r.2.2 }))

/-- A value returned by a part of the kernel, with the context as it was. -/
def returnedBy (cpu : CpuContext) (k : KernelState) (r : U32 × KernelHle) : Guest Returned :=
  pure (some (r.1, cpu, { k with hle := r.2 }))

/-- An argument that may be missing. -/
def optional (r : Result U32) : Option U32 := r.toOption

/-- A flag argument, which is false when it is missing. -/
def flag (r : Result U32) : Bool := (optional r).elim false fun v => v != 0

/-- The two halves of a 64-bit value. -/
def wide (high low : U32) : U64 := (high.setWidth 64 <<< 32) ||| low.setWidth 64

namespace Handlers

/-! ## Memory -/

/-- SOURCE: libs/kernel/src/handlers_memory.cpp:7-23 -/
def rtlAllocateHeap : Handler := fun cpu k => do
  let heapHandle ← readArg cpu 0
  let size ← readArg cpu 2
  match heapHandle, size with
  | .ok heapHandle, .ok size => returned cpu (k.rtlAllocateHeap heapHandle size)
  | _, _ => returned cpu (0, k)

/-- SOURCE: libs/kernel/src/handlers_memory.cpp:26-39 -/
def rtlFreeHeap : Handler := fun cpu k => do
  let heapHandle ← readArg cpu 0
  let ptr ← readArg cpu 2
  match heapHandle, ptr with
  | .ok heapHandle, .ok ptr => returned cpu (k.rtlFreeHeap heapHandle ptr)
  | _, _ => returned cpu (0, k)

/-- SOURCE: libs/kernel/src/handlers_memory.cpp:42-59 -/
def rtlReAllocateHeap : Handler := fun cpu k => do
  let heapHandle ← readArg cpu 0
  let ptr ← readArg cpu 2
  let newSize ← readArg cpu 3
  match heapHandle, ptr, newSize with
  | .ok heapHandle, .ok ptr, .ok newSize => do
    let r ← k.rtlReAllocateHeap heapHandle ptr newSize
    returned cpu r
  | _, _, _ => returned cpu (0, k)

/-- SOURCE: libs/kernel/src/handlers_memory.cpp:62-78 -/
def rtlSizeHeap : Handler := fun cpu k => do
  let heapHandle ← readArg cpu 0
  let ptr ← readArg cpu 2
  match heapHandle, ptr with
  | .ok heapHandle, .ok ptr => returned cpu (k.rtlSizeHeap heapHandle ptr, k)
  | _, _ => returned cpu (0xFFFFFFFF, k)

/-- SOURCE: libs/kernel/src/handlers_memory.cpp:81-94 -/
def rtlCreateHeap : Handler := fun cpu k => do
  let base ← readArg cpu 1
  let reserve ← readArg cpu 2
  returned cpu (k.rtlCreateHeap (optional base) (optional reserve))

/-- SOURCE: libs/kernel/src/handlers_memory.cpp:97-104 -/
def rtlDestroyHeap : Handler := fun cpu k => do
  match ← readArg cpu 0 with
  | .ok heapHandle => returned cpu (k.rtlDestroyHeap heapHandle)
  | .error _ => returned cpu (0, k)

/-- SOURCE: libs/kernel/src/handlers_memory.cpp:107-119 -/
def mmAllocateContiguousMemory : Handler := fun cpu k => do
  match ← readArg cpu 0 with
  | .ok numBytes =>
    match k.mmAllocateContiguousMemory numBytes with
    | none => pure none
    | some r => returned cpu r
  | .error _ => returned cpu (0, k)

/-- SOURCE: libs/kernel/src/handlers_memory.cpp:122-130 -/
def mmFreeContiguousMemory : Handler := fun cpu k => do
  match ← readArg cpu 0 with
  | .ok base => returned cpu (k.mmFreeContiguousMemory base)
  | .error _ => returned cpu (0, k)

/-- SOURCE: libs/kernel/src/handlers_memory.cpp:133-143 -/
def mmQueryAddressProtect : Handler := fun cpu k => do
  match ← readArg cpu 0 with
  | .ok base => returned cpu ((k.vm.query base).protect, k)
  | .error _ => returned cpu (0, k)

/-- SOURCE: libs/kernel/src/handlers_memory.cpp:147-178 -/
def ntAllocateVirtualMemory : Handler := fun cpu k => do
  let basePtr ← readArg cpu 0
  let sizePtr ← readArg cpu 2
  let allocType ← readArg cpu 3
  let protect ← readArg cpu 4
  match basePtr, sizePtr, allocType, protect with
  | .ok basePtr, .ok sizePtr, .ok allocType, .ok protect => do
    let base ← read32 basePtr
    let size ← read32 sizePtr
    match base, size with
    | .ok base, .ok size =>
      match k.ntAllocateVirtualMemory base size allocType protect with
      | none => pure none
      | some (none, k) => returned cpu (kStatusConflict, k)
      | some (some addr, k) => do
        writeWords
          [(basePtr, addr), (sizePtr, ((size.setWidth 64 + 4095) &&& ~~~(4095 : U64)).setWidth 32)]
        returned cpu (kStatusSuccess, k)
    | _, _ => returned cpu (kStatusAccessViolation, k)
  | _, _, _, _ => returned cpu (kStatusInvalidParameter, k)

/-- SOURCE: libs/kernel/src/handlers_memory.cpp:181-200 -/
def ntFreeVirtualMemory : Handler := fun cpu k => do
  let basePtr ← readArg cpu 0
  let sizePtr ← readArg cpu 1
  let freeType ← readArg cpu 2
  match basePtr, sizePtr, freeType with
  | .ok basePtr, .ok sizePtr, .ok freeType => do
    let base ← read32 basePtr
    let size ← read32 sizePtr
    match base, size with
    | .ok base, .ok size => returned cpu (k.ntFreeVirtualMemory base size freeType)
    | _, _ => returned cpu (kStatusAccessViolation, k)
  | _, _, _ => returned cpu (kStatusInvalidParameter, k)

/-- SOURCE: libs/kernel/src/handlers_memory.cpp:203-234 -/
def ntQueryVirtualMemory : Handler := fun cpu k => do
  let base ← readArg cpu 0
  let infoPtr ← readArg cpu 2
  let len ← readArg cpu 3
  let retLenPtr ← readArg cpu 4
  match base, infoPtr, len with
  | .ok base, .ok infoPtr, .ok len =>
    if len < 28 then
      returned cpu (kStatusBufferTooSmall, k)
    else do
      let info := k.vm.query base
      writeWords
        [(infoPtr + 0, info.baseAddress), (infoPtr + 4, info.allocationBase),
         (infoPtr + 8, info.allocationProtect), (infoPtr + 12, info.regionSize),
         (infoPtr + 16, info.state), (infoPtr + 20, info.protect), (infoPtr + 24, info.type)]
      if (optional retLenPtr).getD 0 ≠ 0 then do
        let _ ← write32 ((optional retLenPtr).getD 0) 28
        returned cpu (kStatusSuccess, k)
      else
        returned cpu (kStatusSuccess, k)
  | _, _, _ => returned cpu (kStatusInvalidParameter, k)

/-- SOURCE: libs/kernel/src/handlers_memory.cpp:238-260 -/
def ntProtectVirtualMemory : Handler := fun cpu k => do
  let basePtr ← readArg cpu 0
  let sizePtr ← readArg cpu 1
  let newProt ← readArg cpu 2
  let oldProtPtr ← readArg cpu 3
  match basePtr, sizePtr, newProt, oldProtPtr with
  | .ok basePtr, .ok sizePtr, .ok newProt, .ok oldProtPtr => do
    let base ← read32 basePtr
    let size ← read32 sizePtr
    match base, size with
    | .ok base, .ok size =>
      match k.ntProtectVirtualMemory base size newProt with
      | (none, k) => returned cpu (kStatusUnsuccessful, k)
      | (some old, k) => do
        let _ ← write32 oldProtPtr old
        returned cpu (kStatusSuccess, k)
    | _, _ => returned cpu (kStatusAccessViolation, k)
  | _, _, _, _ => returned cpu (kStatusInvalidParameter, k)

/-! ## Time -/

/-- A 64-bit counter in EDX and EAX. SOURCE: libs/kernel/src/handlers_time.cpp:9-11 -/
def counterReturned (cpu : CpuContext) (k : KernelState) (count : U64) : Guest Returned :=
  returned (cpu.setGpr .edx ((count >>> 32).setWidth 32)) ((count &&& 0xFFFFFFFF).setWidth 32, k)

/-- SOURCE: libs/kernel/src/handlers_time.cpp:7-12 -/
def keQueryPerformanceCounter : Handler := fun cpu k =>
  counterReturned cpu k k.hle.time.queryPerformanceCounter

/-- SOURCE: libs/kernel/src/handlers_time.cpp:15-18 -/
def keQueryPerformanceFrequency : Handler := fun cpu k => returned cpu (733333333, k)

/-- SOURCE: libs/kernel/src/handlers_time.cpp:21-34 -/
def keQuerySystemTime : Handler := fun cpu k => do
  match ← readArg cpu 0 with
  | .ok timePtr =>
    if timePtr = 0 then
      returned cpu (kStatusInvalidParameter, k)
    else do
      let sysTime := k.hle.time.querySystemTime
      let low ← write32 timePtr ((sysTime &&& 0xFFFFFFFF).setWidth 32)
      let high ← write32 (timePtr + 4) ((sysTime >>> 32).setWidth 32)
      match low, high with
      | .ok (), .ok () => returned cpu (kStatusSuccess, k)
      | _, _ => returned cpu (kStatusAccessViolation, k)
  | .error _ => returned cpu (kStatusInvalidParameter, k)

/-- SOURCE: libs/kernel/src/handlers_time.cpp:37-41 -/
def keQueryInterruptTime : Handler := fun cpu k =>
  counterReturned cpu k k.hle.time.queryPerformanceCounter

/-- SOURCE: libs/kernel/src/handlers_time.cpp:44-46 -/
def keTickCount : Handler := fun cpu k => returned cpu (k.hle.time.queryTickCount, k)

/-- SOURCE: libs/kernel/src/handlers_time.cpp:49-82 -/
def keSetTimer : Handler := fun cpu k => do
  let handle ← readArg cpu 0
  let dueTimePtr ← readArg cpu 1
  let periodMs ← readArg cpu 2
  let dpc ← readArg cpu 3
  match handle, dueTimePtr with
  | .ok handle, .ok dueTimePtr =>
    match k.hle.handles.getObject handle .timer with
    | .error _ => returned cpu (0, k)
    | .ok _ => do
      let low ← read32 dueTimePtr
      let high ← read32 (dueTimePtr + 4)
      match low, high with
      | .ok low, .ok high =>
        returnedBy cpu k (k.hle.keSetTimer handle (wide high low) ((optional periodMs).getD 0)
          ((optional dpc).getD 0))
      | _, _ => returned cpu (0, k)
  | _, _ => returned cpu (0, k)

/-- SOURCE: libs/kernel/src/handlers_time.cpp:85-95 -/
def keCancelTimer : Handler := fun cpu k => do
  match ← readArg cpu 0 with
  | .ok handle => returnedBy cpu k (k.hle.keCancelTimer handle)
  | .error _ => returned cpu (0, k)

/-- SOURCE: libs/kernel/src/handlers_time.cpp:98-119 -/
def ntDelayExecution : Handler := fun cpu k => do
  match ← readArg cpu 1 with
  | .ok intervalPtr =>
    if intervalPtr = 0 then
      returned cpu (kStatusInvalidParameter, k)
    else do
      let low ← read32 intervalPtr
      let high ← read32 (intervalPtr + 4)
      match low, high with
      | .ok low, .ok high => returnedHle k (k.hle.ntDelayExecution cpu (wide high low))
      | _, _ => returned cpu (kStatusAccessViolation, k)
  | .error _ => returned cpu (kStatusInvalidParameter, k)

/-! ## Synchronisation -/

/-- SOURCE: libs/kernel/src/handlers_sync.cpp:7-16 -/
def createEvent : Handler := fun cpu k => do
  let manual ← readArg cpu 1
  let initial ← readArg cpu 2
  returnedBy cpu k (k.hle.createEvent (flag manual) (flag initial))

/-- An export of one handle that returns 0 without it. -/
def onHandle (f : KernelHle → GuestHandle → U32 × KernelHle) : Handler := fun cpu k => do
  match ← readArg cpu 0 with
  | .ok handle => returnedBy cpu k (f k.hle handle)
  | .error _ => returned cpu (0, k)

/-- SOURCE: libs/kernel/src/handlers_sync.cpp:19-47 -/
def setEvent : Handler := onHandle KernelHle.setEvent

/-- SOURCE: libs/kernel/src/handlers_sync.cpp:50-59 -/
def resetEvent : Handler := onHandle KernelHle.resetEvent

/-- SOURCE: libs/kernel/src/handlers_sync.cpp:62-86 -/
def pulseEvent : Handler := onHandle KernelHle.pulseEvent

/-- SOURCE: libs/kernel/src/handlers_sync.cpp:89-97 -/
def createMutex : Handler := fun cpu k => do
  let initialOwner ← readArg cpu 1
  returnedBy cpu k (k.hle.createMutex (flag initialOwner))

/-- SOURCE: libs/kernel/src/handlers_sync.cpp:100-119 -/
def releaseMutex : Handler := onHandle KernelHle.releaseMutex

/-- SOURCE: libs/kernel/src/handlers_sync.cpp:122-134 -/
def createSemaphore : Handler := fun cpu k => do
  let initCount ← readArg cpu 1
  let maxCount ← readArg cpu 2
  match initCount, maxCount with
  | .ok initCount, .ok maxCount => returnedBy cpu k (k.hle.createSemaphore initCount maxCount)
  | _, _ => returned cpu (kInvalidHandle, k)

/-- SOURCE: libs/kernel/src/handlers_sync.cpp:137-170 -/
def releaseSemaphore : Handler := fun cpu k => do
  let handle ← readArg cpu 0
  let relCount ← readArg cpu 1
  let prevPtr ← readArg cpu 2
  match handle, relCount with
  | .ok handle, .ok relCount =>
    match k.hle.releaseSemaphore handle relCount with
    | (none, hle) => returnedBy cpu k (0, hle)
    | (some prev, hle) =>
      if (optional prevPtr).getD 0 ≠ 0 then do
        let _ ← write32 ((optional prevPtr).getD 0) prev
        returnedBy cpu k (1, hle)
      else
        returnedBy cpu k (1, hle)
  | _, _ => returned cpu (0, k)

/-- SOURCE: libs/kernel/src/handlers_sync.cpp:173-206 -/
def waitForSingleObject : Handler := fun cpu k => do
  let handle ← readArg cpu 0
  let timeout ← readArg cpu 1
  match handle with
  | .ok handle =>
    returnedHle k
      (k.hle.waitForSingleObject cpu handle ((optional timeout).getD 0xFFFFFFFF))
  | .error _ => returned cpu (kStatusInvalidHandle, k)

/-- The handles of a wait, read and checked one after the other, or the status of the first
that fails. SOURCE: libs/kernel/src/handlers_sync.cpp:225-235 -/
def readHandles (t : HandleTable) : ℕ → GuestAddr → Guest (Except U32 (List GuestHandle))
  | 0, _ => pure (.ok [])
  | n + 1, addr => do
    match ← read32 addr with
    | .error _ => pure (.error kStatusAccessViolation)
    | .ok handle =>
      if !t.isValidHandle handle then
        pure (.error kStatusInvalidHandle)
      else
        match ← readHandles t n (addr + 4) with
        | .error status => pure (.error status)
        | .ok handles => pure (.ok (handle :: handles))

/-- SOURCE: libs/kernel/src/handlers_sync.cpp:209-281 -/
def waitForMultipleObjects : Handler := fun cpu k => do
  let count ← readArg cpu 0
  let handlesPtr ← readArg cpu 1
  let waitAll ← readArg cpu 2
  let timeout ← readArg cpu 3
  match count, handlesPtr with
  | .ok count, .ok handlesPtr =>
    if count = 0 ∨ count > 64 then
      returned cpu (kStatusInvalidParameter, k)
    else do
      match ← readHandles k.hle.handles count.toNat handlesPtr with
      | .error status => returned cpu (status, k)
      | .ok handles =>
        returnedHle k (k.hle.waitForMultipleObjects cpu handles (flag waitAll)
          ((optional timeout).getD 0xFFFFFFFF))
  | _, _ => returned cpu (kStatusInvalidParameter, k)

/-! ## Threads -/

/-- What is printed. -/
def printed (k : KernelState) (message : Vfs.ByteString) : KernelState :=
  { k with debugSink := k.debugSink.outputDebugString message }

/-- SOURCE: libs/kernel/src/handlers_thread.cpp:7-16 -/
def dbgPrint : Handler := fun cpu k => do
  match ← readArg cpu 0 with
  | .error e => Program.fail e
  | .ok strAddr =>
    match ← readString strAddr with
    | .error e => Program.fail e
    | .ok message => returned cpu (kStatusSuccess, printed k message)

/-- SOURCE: libs/kernel/src/handlers_thread.cpp:19-28 -/
def dbgPrompt : Handler := fun cpu k => do
  let promptPtr ← readArg cpu 0
  if (optional promptPtr).getD 0 ≠ 0 then do
    match ← readString ((optional promptPtr).getD 0) with
    | .error _ => returned cpu (0, k)
    | .ok message => returned cpu (0, printed k message)
  else
    returned cpu (0, k)

/-- SOURCE: libs/kernel/src/handlers_thread.cpp:31-61 -/
def createThread : Handler := fun cpu k => do
  let stackSize ← readArg cpu 1
  let startRoutine ← readArg cpu 2
  let arg ← readArg cpu 3
  let outId ← readArg cpu 5
  match startRoutine, arg with
  | .ok startRoutine, .ok arg =>
    match k.hle.createThread (optional stackSize) startRoutine arg with
    | (none, hle) => returnedBy cpu k (kInvalidHandle, hle)
    | (some tid, hle) =>
      if (optional outId).getD 0 ≠ 0 then do
        let _ ← write32 ((optional outId).getD 0) tid
        returnedBy cpu k (hle.openThread tid)
      else
        returnedBy cpu k (hle.openThread tid)
  | _, _ =>
    Program.fail
      { code := .invalidArgument, message := "Argumentos inválidos para CreateThread" }

/-- SOURCE: libs/kernel/src/handlers_thread.cpp:64-70 -/
def exitThread : Handler := fun cpu k => do
  let code ← readArg cpu 0
  returnedHle k (k.hle.exitThread cpu ((optional code).getD 0))

/-- SOURCE: libs/kernel/src/handlers_thread.cpp:73-81 -/
def keSuspendThread : Handler := onHandle KernelHle.keSuspendThread

/-- SOURCE: libs/kernel/src/handlers_thread.cpp:84-92 -/
def keResumeThread : Handler := onHandle KernelHle.keResumeThread

/-- SOURCE: libs/kernel/src/handlers_thread.cpp:95-97 -/
def keGetCurrentThread : Handler := fun cpu k => returned cpu (k.hle.threads.currentTid, k)

/-- SOURCE: libs/kernel/src/handlers_thread.cpp:100-103 -/
def keYieldExecution : Handler := fun cpu k => returnedHle k (k.hle.keYieldExecution cpu)

/-- SOURCE: libs/kernel/src/handlers_thread.cpp:106-121 -/
def ntTerminateThread : Handler := fun cpu k => do
  let handle ← readArg cpu 0
  let code ← readArg cpu 1
  returnedHle k (k.hle.ntTerminateThread cpu (optional handle) ((optional code).getD 0))

/-! ## Files -/

/-- What a file service returns. -/
def served (cpu : CpuContext) (k : KernelState) (service : KernelFileServices.Served) :
    Guest Returned := do
  let (status, fileServices) ← service
  returned cpu (status, { k with fileServices := fileServices })

/-- The error of a file export whose arguments cannot be read. -/
def missing (name : String) : Guest Returned :=
  Program.fail { code := .invalidArgument, message := "Missing " ++ name ++ " arguments" }

/-- SOURCE: libs/kernel/src/handlers_io.cpp:7-20 -/
def ntClose : Handler := fun cpu k => do
  match ← readArg cpu 0 with
  | .error e => Program.fail e
  | .ok handle => returned cpu (k.ntClose handle)

/-- SOURCE: libs/kernel/src/handlers_io.cpp:23-31 -/
def ntCreateFile : Handler := fun cpu k => do
  let outHandle ← readArg cpu 0
  let access ← readArg cpu 1
  let path ← readArg cpu 2
  let disposition ← readArg cpu 3
  match outHandle, access, path, disposition with
  | .ok outHandle, .ok access, .ok path, .ok disposition =>
    served cpu k (k.fileServices.createFile path access disposition outHandle)
  | _, _, _, _ => missing "NtCreateFile"

/-- SOURCE: libs/kernel/src/handlers_io.cpp:34-43 -/
def ntReadFile : Handler := fun cpu k => do
  let handle ← readArg cpu 0
  let buf ← readArg cpu 1
  let len ← readArg cpu 2
  let readPtr ← readArg cpu 3
  let ovl ← readArg cpu 4
  match handle, buf, len, readPtr, ovl with
  | .ok handle, .ok buf, .ok len, .ok readPtr, .ok ovl =>
    served cpu k (k.fileServices.readFile handle buf len readPtr ovl)
  | _, _, _, _, _ => missing "NtReadFile"

/-- SOURCE: libs/kernel/src/handlers_io.cpp:47-56 -/
def ntWriteFile : Handler := fun cpu k => do
  let handle ← readArg cpu 0
  let buf ← readArg cpu 1
  let len ← readArg cpu 2
  let writtenPtr ← readArg cpu 3
  let ovl ← readArg cpu 4
  match handle, buf, len, writtenPtr, ovl with
  | .ok _, .ok _, .ok _, .ok writtenPtr, .ok ovl =>
    served cpu k (k.fileServices.writeFile writtenPtr ovl)
  | _, _, _, _, _ => missing "NtWriteFile"

/-- SOURCE: libs/kernel/src/handlers_io.cpp:59-68 -/
def setFilePointer : Handler := fun cpu k => do
  let handle ← readArg cpu 0
  let dist ← readArg cpu 1
  let high ← readArg cpu 2
  let method ← readArg cpu 3
  match handle, dist, high, method with
  | .ok handle, .ok dist, .ok high, .ok method =>
    served cpu k (k.fileServices.setFilePointer handle dist high method)
  | _, _, _, _ => missing "SetFilePointer"

/-- SOURCE: libs/kernel/src/handlers_io.cpp:71-84 -/
def ntDeviceIoControlFile : Handler := fun cpu k => do
  let handle ← readArg cpu 0
  let code ← readArg cpu 1
  let inBuf ← readArg cpu 2
  let inLen ← readArg cpu 3
  let outBuf ← readArg cpu 4
  let outLen ← readArg cpu 5
  let retPtr ← readArg cpu 6
  let ovl ← readArg cpu 7
  match handle, code, inBuf, inLen, outBuf, outLen, retPtr, ovl with
  | .ok handle, .ok code, .ok inBuf, .ok inLen, .ok outBuf, .ok outLen, .ok retPtr, .ok ovl =>
    served cpu k
      (k.fileServices.deviceIoControl handle code inBuf inLen outBuf outLen retPtr ovl)
  | _, _, _, _, _, _, _, _ => missing "NtDeviceIoControlFile"

/-- SOURCE: libs/kernel/src/handlers_io.cpp:87-98 -/
def ntQueryInformationFile : Handler := fun cpu k => do
  let handle ← readArg cpu 0
  let infoPtr ← readArg cpu 2
  let len ← readArg cpu 3
  let infoClass ← readArg cpu 4
  match handle, infoPtr, len, infoClass with
  | .ok handle, .ok infoPtr, .ok len, .ok _ =>
    served cpu k (k.fileServices.queryInformationFile handle infoPtr len)
  | _, _, _, _ => missing "NtQueryInformationFile"

/-- The length is read from a seventh argument.
SOURCE: libs/kernel/src/handlers_io.cpp:102-109 -/
def ntQueryDirectoryFile : Handler := fun cpu k => do
  let handle ← readArg cpu 0
  let outPtr ← readArg cpu 5
  let len ← readArg cpu 6
  match handle, outPtr, len with
  | .ok handle, .ok outPtr, .ok len =>
    served cpu k (k.fileServices.queryDirectoryFile handle outPtr len)
  | _, _, _ => missing "NtQueryDirectoryFile"

end Handlers

/-! ## The registry -/

/-- `ExportEntry`. SOURCE: libs/kernel/include/xblob/kernel/registry.hpp:38-43 -/
structure ExportEntry where
  ordinal : U32
  name : String
  paramCount : ℕ
  handler : Handler

/-- The exports, as they are registered.
SOURCE: libs/kernel/src/handlers_memory.cpp, handlers_time.cpp, handlers_sync.cpp,
handlers_thread.cpp, handlers_io.cpp -/
def registeredExports : List ExportEntry :=
  [⟨184, "RtlAllocateHeap", 3, Handlers.rtlAllocateHeap⟩,
   ⟨185, "RtlFreeHeap", 3, Handlers.rtlFreeHeap⟩,
   ⟨186, "RtlReAllocateHeap", 4, Handlers.rtlReAllocateHeap⟩,
   ⟨187, "RtlSizeHeap", 3, Handlers.rtlSizeHeap⟩,
   ⟨181, "RtlCreateHeap", 6, Handlers.rtlCreateHeap⟩,
   ⟨182, "RtlDestroyHeap", 1, Handlers.rtlDestroyHeap⟩,
   ⟨323, "MmAllocateContiguousMemory", 2, Handlers.mmAllocateContiguousMemory⟩,
   ⟨324, "MmFreeContiguousMemory", 1, Handlers.mmFreeContiguousMemory⟩,
   ⟨326, "MmQueryAddressProtect", 1, Handlers.mmQueryAddressProtect⟩,
   ⟨188, "NtAllocateVirtualMemory", 5, Handlers.ntAllocateVirtualMemory⟩,
   ⟨199, "NtFreeVirtualMemory", 3, Handlers.ntFreeVirtualMemory⟩,
   ⟨220, "NtQueryVirtualMemory", 5, Handlers.ntQueryVirtualMemory⟩,
   ⟨218, "NtProtectVirtualMemory", 4, Handlers.ntProtectVirtualMemory⟩,
   ⟨108, "KeQueryPerformanceCounter", 0, Handlers.keQueryPerformanceCounter⟩,
   ⟨109, "KeQueryPerformanceFrequency", 0, Handlers.keQueryPerformanceFrequency⟩,
   ⟨110, "KeQuerySystemTime", 1, Handlers.keQuerySystemTime⟩,
   ⟨111, "KeQueryInterruptTime", 0, Handlers.keQueryInterruptTime⟩,
   ⟨144, "KeTickCount", 0, Handlers.keTickCount⟩,
   ⟨136, "KeSetTimer", 4, Handlers.keSetTimer⟩,
   ⟨95, "KeCancelTimer", 1, Handlers.keCancelTimer⟩,
   ⟨194, "NtDelayExecution", 2, Handlers.ntDelayExecution⟩,
   ⟨64, "CreateEvent", 4, Handlers.createEvent⟩,
   ⟨65, "SetEvent", 1, Handlers.setEvent⟩,
   ⟨66, "ResetEvent", 1, Handlers.resetEvent⟩,
   ⟨67, "PulseEvent", 1, Handlers.pulseEvent⟩,
   ⟨80, "CreateMutex", 3, Handlers.createMutex⟩,
   ⟨84, "ReleaseMutex", 1, Handlers.releaseMutex⟩,
   ⟨75, "CreateSemaphore", 4, Handlers.createSemaphore⟩,
   ⟨76, "ReleaseSemaphore", 4, Handlers.releaseSemaphore⟩,
   ⟨90, "WaitForSingleObject", 2, Handlers.waitForSingleObject⟩,
   ⟨91, "WaitForMultipleObjects", 4, Handlers.waitForMultipleObjects⟩,
   ⟨12, "DbgPrint", 1, Handlers.dbgPrint⟩,
   ⟨13, "DbgPrompt", 3, Handlers.dbgPrompt⟩,
   ⟨10, "CreateThread", 6, Handlers.createThread⟩,
   ⟨11, "ExitThread", 1, Handlers.exitThread⟩,
   ⟨40, "KeSuspendThread", 1, Handlers.keSuspendThread⟩,
   ⟨41, "KeResumeThread", 1, Handlers.keResumeThread⟩,
   ⟨42, "KeGetCurrentThread", 0, Handlers.keGetCurrentThread⟩,
   ⟨55, "KeYieldExecution", 0, Handlers.keYieldExecution⟩,
   ⟨212, "NtTerminateThread", 2, Handlers.ntTerminateThread⟩,
   ⟨18, "NtClose", 1, Handlers.ntClose⟩,
   ⟨190, "NtCreateFile", 4, Handlers.ntCreateFile⟩,
   ⟨219, "NtReadFile", 5, Handlers.ntReadFile⟩,
   ⟨256, "NtWriteFile", 5, Handlers.ntWriteFile⟩,
   ⟨224, "SetFilePointer", 4, Handlers.setFilePointer⟩,
   ⟨196, "NtDeviceIoControlFile", 8, Handlers.ntDeviceIoControlFile⟩,
   ⟨217, "NtQueryInformationFile", 5, Handlers.ntQueryInformationFile⟩,
   ⟨216, "NtQueryDirectoryFile", 6, Handlers.ntQueryDirectoryFile⟩]

end Xblob.Kernel
