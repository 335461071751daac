import Xblob.Model.Kernel.GuestContext
import Xblob.Model.Vfs.Vfs

/-!
# The kernel's file services

The file exports, once their arguments are read: checks of the guest's buffers, a call of the
virtual file system, and an NT status for whatever happened.
-/

set_option autoImplicit false

namespace Xblob.Kernel

open Xblob.Computation Xblob.Memory Xblob.Vfs

def kNtStatusSuccess : U32 := 0x00000000
def kNtStatusNotImplemented : U32 := 0xC0000002
def kNtStatusInvalidHandle : U32 := 0xC0000008
def kNtStatusInvalidParameter : U32 := 0xC000000D
def kNtStatusEndOfFile : U32 := 0xC0000011
def kNtStatusAccessDenied : U32 := 0xC0000022
def kNtStatusObjectNameNotFound : U32 := 0xC0000034
def kNtStatusNotADirectory : U32 := 0xC0000103
def kNtStatusFileIsADirectory : U32 := 0xC00000BA
def kNtStatusUnsuccessful : U32 := 0xC0000001
def kInvalidHandleValue : U32 := 0xFFFFFFFF

/-- `MapVfsErrorToNtStatus`. SOURCE: libs/kernel/src/file_services.cpp:7-35 -/
def mapVfsErrorToNtStatus : ErrorCode → U32
  | .ok => kNtStatusSuccess
  | .fileNotFound | .invalidPath => kNtStatusObjectNameNotFound
  | .invalidHandle => kNtStatusInvalidHandle
  | .accessDenied | .readOnlyFileSystem => kNtStatusAccessDenied
  | .unexpectedEof => kNtStatusEndOfFile
  | .invalidArgument | .outOfBounds => kNtStatusInvalidParameter
  | .isADirectory => kNtStatusFileIsADirectory
  | .notADirectory => kNtStatusNotADirectory
  | .unsupportedFeature | .unsupportedFormat => kNtStatusNotImplemented
  | _ => kNtStatusUnsuccessful

/-- `VfsHandle::ToU32`. SOURCE: libs/vfs/include/xblob/vfs/vfs_types.hpp:16-18 -/
def toU32 (handle : VfsHandle) : U32 :=
  (handle.generation.setWidth 32 <<< 16) ||| handle.index.setWidth 32

/-- `VfsHandle::FromU32`. SOURCE: libs/vfs/include/xblob/vfs/vfs_types.hpp:20-25 -/
def fromU32 (val : U32) : VfsHandle where
  index := (val &&& 0xFFFF).setWidth 16
  generation := ((val >>> 16) &&& 0xFFFF).setWidth 16

/-- `KernelFileServices`: the file system, if there is one.
SOURCE: libs/kernel/include/xblob/kernel/file_services.hpp:30-66 -/
structure KernelFileServices where
  vfs : Option Vfs := none

namespace KernelFileServices

open Guest

/-- The answer of a file service: the status, and the services after it. -/
abbrev Served := Guest (U32 × KernelFileServices)

/-- `ReadGuestStringBounded`. SOURCE: libs/kernel/src/file_services.cpp:39-55 -/
def readGuestStringBounded (addr : GuestAddr) : Guest (Result ByteString) :=
  readStringUpTo
    { code := .outOfBounds, message := "String exceeds maximum guest path length" } 512 addr

/-- A range that is checked when a pointer is given. -/
def validateOptional (ptr : GuestAddr) (len : GuestSize) (requiredPerm : MemoryPermission) :
    Guest (Result Unit) :=
  if ptr ≠ 0 then validateRange ptr len requiredPerm else pure (.ok ())

/-- A range that is checked when it has bytes. -/
def validateNonempty (addr : GuestAddr) (len : GuestSize) (requiredPerm : MemoryPermission) :
    Guest (Result Unit) :=
  if len > 0 then validateRange addr len requiredPerm else pure (.ok ())

/-- A word that is written when a pointer is given. -/
def writeOptional (ptr : GuestAddr) (val : U32) : Guest (Result Unit) :=
  if ptr ≠ 0 then write32 ptr val else pure (.ok ())

/-- The accesses and dispositions `CreateFile` refuses.
SOURCE: libs/kernel/src/file_services.cpp:78-81 -/
def wantsWrite (desiredAccess disposition : U32) : Bool :=
  desiredAccess &&& 0x40000000 != 0 || disposition == 1 || disposition == 2 || disposition == 4

/-- The end of `CreateFile`: the file is opened and its handle handed over, or closed again.
SOURCE: libs/kernel/src/file_services.cpp:83-97 -/
def openAndHandOver (vfs : Vfs) (path : ByteString) (outHandlePtr : GuestAddr) : Served := do
  match vfs.openFile path .read with
  | .error e => pure (mapVfsErrorToNtStatus e.code, { vfs := some vfs })
  | .ok (handle, vfs') =>
    match ← writeOptional outHandlePtr (toU32 handle) with
    | .ok () => pure (kNtStatusSuccess, { vfs := some vfs' })
    | .error _ =>
      match vfs'.close handle with
      | .error _ => pure (kNtStatusInvalidParameter, { vfs := some vfs' })
      | .ok vfs'' => pure (kNtStatusInvalidParameter, { vfs := some vfs'' })

/-- `CreateFile`. SOURCE: libs/kernel/src/file_services.cpp:59-98 -/
def createFile (f : KernelFileServices) (pathPtr : GuestAddr) (desiredAccess disposition : U32)
    (outHandlePtr : GuestAddr) : Served :=
  match f.vfs with
  | none => pure (kNtStatusUnsuccessful, f)
  | some vfs => do
    match ← validateOptional outHandlePtr 4 .write with
    | .error _ => pure (kNtStatusInvalidParameter, f)
    | .ok () =>
      match ← readGuestStringBounded pathPtr with
      | .error _ => pure (kNtStatusInvalidParameter, f)
      | .ok path =>
        if wantsWrite desiredAccess disposition then
          pure (kNtStatusAccessDenied, f)
        else
          openAndHandOver vfs path outHandlePtr

/-- The end of `ReadFile`: the bytes go to the guest, then their number.
SOURCE: libs/kernel/src/file_services.cpp:141-169 -/
def readAndHandOver (f : KernelFileServices) (vfs : Vfs) (handle : VfsHandle)
    (bufferAddr bytesToRead bytesReadPtr : U32) : Served :=
  match vfs.read handle bytesToRead.toNat with
  | .error e => pure (mapVfsErrorToNtStatus e.code, f)
  | .ok (bytes, vfs') =>
    let f := { f with vfs := some vfs' }
    if bytes = [] then do
      let _ ← writeOptional bytesReadPtr 0
      pure (kNtStatusEndOfFile, f)
    else do
      match ← writeBytes bufferAddr bytes with
      | .error _ => pure (kNtStatusInvalidParameter, f)
      | .ok () =>
        match ← writeOptional bytesReadPtr (BitVec.ofNat 32 bytes.length) with
        | .error _ => pure (kNtStatusInvalidParameter, f)
        | .ok () => pure (kNtStatusSuccess, f)

/-- `ReadFile`. SOURCE: libs/kernel/src/file_services.cpp:100-170 -/
def readFile (f : KernelFileServices) (handleVal bufferAddr bytesToRead bytesReadPtr
    overlappedPtr : U32) : Served :=
  if overlappedPtr ≠ 0 then
    pure (kNtStatusNotImplemented, f)
  else
    match f.vfs with
    | none => pure (kNtStatusUnsuccessful, f)
    | some vfs => do
      match ← validateOptional bytesReadPtr 4 .write with
      | .error _ => pure (kNtStatusInvalidParameter, f)
      | .ok () =>
        match ← validateNonempty bufferAddr bytesToRead .write with
        | .error _ => pure (kNtStatusInvalidParameter, f)
        | .ok () =>
          let handle := fromU32 handleVal
          if !handle.isValid then
            pure (kNtStatusInvalidHandle, f)
          else if bytesToRead = 0 then do
            let _ ← writeOptional bytesReadPtr 0
            pure (kNtStatusSuccess, f)
          else
            readAndHandOver f vfs handle bufferAddr bytesToRead bytesReadPtr

/-- `WriteFile`, which refuses. SOURCE: libs/kernel/src/file_services.cpp:172-187 -/
def writeFile (f : KernelFileServices) (bytesWrittenPtr overlappedPtr : U32) : Served :=
  if overlappedPtr ≠ 0 then
    pure (kNtStatusNotImplemented, f)
  else if bytesWrittenPtr ≠ 0 then do
    match ← validateRange bytesWrittenPtr 4 .write with
    | .error _ => pure (kNtStatusAccessDenied, f)
    | .ok () =>
      let _ ← write32 bytesWrittenPtr 0
      pure (kNtStatusAccessDenied, f)
  else
    pure (kNtStatusAccessDenied, f)

/-- `CloseHandle`. SOURCE: libs/kernel/src/file_services.cpp:189-205 -/
def closeHandle (f : KernelFileServices) (handleVal : U32) : U32 × KernelFileServices :=
  match f.vfs with
  | none => (kNtStatusUnsuccessful, f)
  | some vfs =>
    let handle := fromU32 handleVal
    if !handle.isValid then
      (kNtStatusInvalidHandle, f)
    else
      match vfs.close handle with
      | .error e => (mapVfsErrorToNtStatus e.code, f)
      | .ok vfs' => (kNtStatusSuccess, { f with vfs := some vfs' })

/-- The origin of a move. SOURCE: libs/kernel/src/file_services.cpp:219-232 -/
def seekOrigin (moveMethod : U32) : Option VfsSeekOrigin :=
  if moveMethod = 0 then some .begin
  else if moveMethod = 1 then some .current
  else if moveMethod = 2 then some .end
  else none

/-- The end of `SetFilePointer`. SOURCE: libs/kernel/src/file_services.cpp:243-256 -/
def seekAndHandOver (f : KernelFileServices) (vfs : Vfs) (handle : VfsHandle) (distance : U64)
    (origin : VfsSeekOrigin) (highDistancePtr : GuestAddr) : Served :=
  match vfs.seek handle distance origin with
  | .error _ => pure (kInvalidHandleValue, f)
  | .ok (newPos, vfs') => do
    match ← writeOptional highDistancePtr ((newPos >>> 32).setWidth 32) with
    | .error _ => pure (kInvalidHandleValue, { f with vfs := some vfs' })
    | .ok () => pure ((newPos &&& 0xFFFFFFFF).setWidth 32, { f with vfs := some vfs' })

/-- `SetFilePointer`. SOURCE: libs/kernel/src/file_services.cpp:207-257 -/
def setFilePointer (f : KernelFileServices) (handleVal distance highDistancePtr
    moveMethod : U32) : Served :=
  match f.vfs with
  | none => pure (kInvalidHandleValue, f)
  | some vfs =>
    let handle := fromU32 handleVal
    if !handle.isValid then
      pure (kInvalidHandleValue, f)
    else
      match seekOrigin moveMethod with
      | none => pure (kInvalidHandleValue, f)
      | some origin =>
        if highDistancePtr ≠ 0 then do
          match ← read32 highDistancePtr with
          | .error _ => pure (kInvalidHandleValue, f)
          | .ok high =>
            seekAndHandOver f vfs handle
              (distance.signExtend 64 ||| (high.setWidth 64 <<< 32)) origin highDistancePtr
        else
          seekAndHandOver f vfs handle (distance.signExtend 64) origin highDistancePtr

/-- `QueryInformationFile`. SOURCE: libs/kernel/src/file_services.cpp:259-297 -/
def queryInformationFile (f : KernelFileServices) (handleVal infoPtr length : U32) : Served :=
  match f.vfs with
  | none => pure (kNtStatusUnsuccessful, f)
  | some vfs =>
    if length < 24 then
      pure (kNtStatusInvalidParameter, f)
    else do
      match ← validateRange infoPtr length .write with
      | .error _ => pure (kNtStatusInvalidParameter, f)
      | .ok () =>
        let handle := fromU32 handleVal
        if !handle.isValid then
          pure (kNtStatusInvalidHandle, f)
        else
          match vfs.queryByHandle handle with
          | .error e => pure (mapVfsErrorToNtStatus e.code, f)
          | .ok info =>
            let allocSize := (info.size + 2047) &&& ~~~2047
            writeWords
              [(infoPtr + 0, (allocSize &&& 0xFFFFFFFF).setWidth 32),
               (infoPtr + 4, (allocSize >>> 32).setWidth 32),
               (infoPtr + 8, (info.size &&& 0xFFFFFFFF).setWidth 32),
               (infoPtr + 12, (info.size >>> 32).setWidth 32),
               (infoPtr + 16, 1)]
            let _ ← write8 (infoPtr + 20) 0
            let _ ← write8 (infoPtr + 21) (if info.isDirectory then 1 else 0)
            pure (kNtStatusSuccess, f)

/-- Bytes written one after the other, with the failures ignored. -/
def writeEach : GuestAddr → List U8 → Guest Unit
  | _, [] => pure ()
  | addr, c :: rest => do
    let _ ← write8 addr c
    writeEach (addr + 1) rest

/-- `QueryDirectoryFile`: the first entry of the directory, each time.
SOURCE: libs/kernel/src/file_services.cpp:299-344 -/
def queryDirectoryFile (f : KernelFileServices) (handleVal outEntryPtr length : U32) : Served :=
  match f.vfs with
  | none => pure (kNtStatusUnsuccessful, f)
  | some vfs =>
    if length < 28 then
      pure (kNtStatusInvalidParameter, f)
    else do
      match ← validateRange outEntryPtr length .write with
      | .error _ => pure (kNtStatusInvalidParameter, f)
      | .ok () =>
        let handle := fromU32 handleVal
        if !handle.isValid then
          pure (kNtStatusInvalidHandle, f)
        else
          match vfs.enumerateDirectory handle with
          | .error e => pure (mapVfsErrorToNtStatus e.code, f)
          | .ok [] => pure (0x80000006, f)
          | .ok (ent :: _) =>
            let nameLen := min ent.name.length (length - 24).toNat
            writeWords
              [(outEntryPtr + 0, 0),
               (outEntryPtr + 4, 0),
               (outEntryPtr + 8, (ent.size &&& 0xFFFFFFFF).setWidth 32),
               (outEntryPtr + 12, (ent.size >>> 32).setWidth 32),
               (outEntryPtr + 16, if ent.isDirectory then 0x10 else 0x20),
               (outEntryPtr + 20, BitVec.ofNat 32 nameLen)]
            writeEach (outEntryPtr + 24) (ent.name.take nameLen)
            pure (kNtStatusSuccess, f)

def kIoctlDiskGetDriveGeometry : U32 := 0x00070000
def kIoctlCdromGetDriveGeometry : U32 := 0x00024040
def kIoctlCdromCheckVerify : U32 := 0x00024005

/-- What `DeviceIoControl` does for a code. SOURCE: libs/kernel/src/file_services.cpp:386-427 -/
def ioctl (f : KernelFileServices) (controlCode outBuf outLen bytesReturnedPtr : U32) : Served :=
  if controlCode = kIoctlCdromCheckVerify then do
    let _ ← writeOptional bytesReturnedPtr 0
    pure (kNtStatusSuccess, f)
  else if controlCode = kIoctlDiskGetDriveGeometry ∨ controlCode = kIoctlCdromGetDriveGeometry then
    if outLen < 24 then
      pure (kNtStatusInvalidParameter, f)
    else do
      match ← validateRange outBuf 24 .write with
      | .error _ => pure (kNtStatusInvalidParameter, f)
      | .ok () =>
        writeWords [(outBuf + 0, 1000), (outBuf + 4, 0), (outBuf + 8, 0x0B), (outBuf + 12, 64),
          (outBuf + 16, 32), (outBuf + 20, 2048)]
        let _ ← writeOptional bytesReturnedPtr 24
        pure (kNtStatusSuccess, f)
  else do
    let _ ← writeOptional bytesReturnedPtr 0
    pure (kNtStatusNotImplemented, f)

/-- `DeviceIoControl`. SOURCE: libs/kernel/src/file_services.cpp:346-427 -/
def deviceIoControl (f : KernelFileServices) (handleVal controlCode inBuf inLen outBuf outLen
    bytesReturnedPtr overlappedPtr : U32) : Served :=
  if overlappedPtr ≠ 0 then
    pure (kNtStatusNotImplemented, f)
  else
    match f.vfs with
    | none => pure (kNtStatusUnsuccessful, f)
    | some _ =>
      if !(fromU32 handleVal).isValid then
        pure (kNtStatusInvalidHandle, f)
      else do
        match ← validateNonempty inBuf inLen .read with
        | .error _ => pure (kNtStatusInvalidParameter, f)
        | .ok () =>
          match ← validateOptional bytesReturnedPtr 4 .write with
          | .error _ => pure (kNtStatusInvalidParameter, f)
          | .ok () => ioctl f controlCode outBuf outLen bytesReturnedPtr

end KernelFileServices

end Xblob.Kernel
