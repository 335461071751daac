import Xblob.Model.Vfs.HandleTable
import Xblob.Model.Vfs.Path

/-!
# The virtual file system

Volumes are mounted under aliases, and files and directories are opened on them by path.  The
file system is read-only.  A volume and the bytes of a file are interfaces of the source: any
functions of their kind.
-/

set_option autoImplicit false
set_option linter.dupNamespace false

namespace Xblob.Vfs

/-- `ByteSource::ReadAt`: the bytes at an offset, as many as asked for.
SOURCE: libs/io/include/xblob/io/byte_source.hpp:13-20 -/
structure ByteSource where
  readAt : U64 → ℕ → Result (List U8)

/-- `VfsFileInfo`. SOURCE: libs/vfs/include/xblob/vfs/vfs_types.hpp:46-52 -/
structure VfsFileInfo where
  name : ByteString := []
  size : U64 := 0
  isDirectory : Bool := false
  attributes : U32 := 0
  creationTimestamp : U64 := 0
  deriving DecidableEq, Repr

/-- `IVfsVolume`. SOURCE: libs/vfs/include/xblob/vfs/vfs_volume.hpp:13-23 -/
structure VfsVolume where
  queryInfo : ByteString → Result VfsFileInfo
  openFile : ByteString → Result (Option ByteSource)
  listDirectory : ByteString → Result (List VfsDirEntry)

/-- `VfsSeekOrigin`. -/
inductive VfsSeekOrigin where
  | begin | current | «end»
  deriving DecidableEq, Repr

/-- `Vfs`. SOURCE: libs/vfs/include/xblob/vfs/vfs.hpp -/
structure Vfs where
  mounts : ByteString → Option VfsVolume := fun _ => none
  handleTable : VfsHandleTable ByteSource VfsFileInfo := {}

namespace Vfs

/-- The key a volume is mounted under. SOURCE: libs/vfs/src/vfs.cpp:32-34 -/
def mountKey (mountAlias : ByteString) : ByteString :=
  let key := toUpperAscii mountAlias
  if key[1]? = some 0x3A then key.take 1 else key

/-- `Mount`. SOURCE: libs/vfs/src/vfs.cpp:24-38 -/
def mount (v : Vfs) (mountAlias : ByteString) (volume : Option VfsVolume) : Result Vfs :=
  match volume with
  | none => .error { code := .invalidArgument, message := "Volume cannot be null" }
  | some volume =>
    if mountAlias = [] then
      .error { code := .invalidArgument, message := "Mount alias cannot be empty" }
    else
      .ok { v with mounts := Function.update v.mounts (mountKey mountAlias) (some volume) }

/-- `Unmount`. SOURCE: libs/vfs/src/vfs.cpp:40-51 -/
def unmount (v : Vfs) (mountAlias : ByteString) : Result Vfs :=
  match v.mounts (mountKey mountAlias) with
  | none => .error { code := .fileNotFound, message := "Mount alias not found" }
  | some _ => .ok { v with mounts := Function.update v.mounts (mountKey mountAlias) none }

/-- `ResolveVolume`. SOURCE: libs/vfs/src/vfs.cpp:73-80 -/
def resolveVolume (v : Vfs) (mountAlias : ByteString) : Result VfsVolume :=
  match v.mounts (toUpperAscii mountAlias) with
  | some volume => .ok volume
  | none =>
    .error
      { code := .fileNotFound
        message := "Drive or volume alias not mounted: " ++
          String.ofList ((toUpperAscii mountAlias).map fun c => Char.ofNat c.toNat) }

/-- `OpenFile` up to the handle: the bytes and the information of the file.
SOURCE: libs/vfs/src/vfs.cpp:82-110 -/
def findFile (v : Vfs) (path : ByteString) (mode : VfsAccessMode) :
    Result (Option ByteSource × VfsFileInfo) :=
  if mode = .write then
    .error { code := .readOnlyFileSystem, message := "Cannot open for write on read-only VFS" }
  else do
    let parsed ← parseAndNormalizeXboxPath path
    let vol ← v.resolveVolume parsed.mountAlias
    let info ← vol.queryInfo parsed.relativePath
    if info.isDirectory then
      .error { code := .isADirectory, message := "Target is a directory, cannot OpenFile" }
    else
      let source ← vol.openFile parsed.relativePath
      .ok (source, info)

/-- `OpenFile`. SOURCE: libs/vfs/src/vfs.cpp:82-113 -/
def openFile (v : Vfs) (path : ByteString) (mode : VfsAccessMode) : Result (VfsHandle × Vfs) := do
  let (source, info) ← v.findFile path mode
  let (handle, table) ← v.handleTable.allocateFile source mode info
  .ok (handle, { v with handleTable := table })

/-- `OpenDirectory`. SOURCE: libs/vfs/src/vfs.cpp:115-148 -/
def openDirectory (v : Vfs) (path : ByteString) : Result (VfsHandle × Vfs) := do
  let parsed ← parseAndNormalizeXboxPath path
  let vol ← v.resolveVolume parsed.mountAlias
  let info ←
    if parsed.relativePath = [] then
      .ok { name := ascii "\\", isDirectory := true }
    else do
      let info ← vol.queryInfo parsed.relativePath
      if info.isDirectory then
        .ok info
      else
        .error { code := .notADirectory, message := "Target is a file, cannot OpenDirectory" }
  let entries ← vol.listDirectory parsed.relativePath
  let (handle, table) ← v.handleTable.allocateDir entries info
  .ok (handle, { v with handleTable := table })

/-- `Close`. SOURCE: libs/vfs/src/vfs.cpp:150-152 -/
def close (v : Vfs) (handle : VfsHandle) : Result Vfs :=
  (v.handleTable.close handle).map fun table => { v with handleTable := table }

/-- The position of an open file, changed through the pointer `GetFile` gives. -/
def setPosition (v : Vfs) (handle : VfsHandle) (position : U64) : Vfs :=
  { v with
    handleTable := { v.handleTable with
      slots := v.handleTable.slots.modify handle.index.toNat fun slot =>
        { slot with file := { slot.file with position := position } } } }

/-- The size in the information of an open file. -/
def fileSize (file : FileSlot ByteSource VfsFileInfo) : U64 := (file.info.getD {}).size

/-- `Read` into a destination of `n` bytes: the bytes read, and the file system after it.
SOURCE: libs/vfs/src/vfs.cpp:154-179 -/
def read (v : Vfs) (handle : VfsHandle) (n : ℕ) : Result (List U8 × Vfs) := do
  let file ← v.handleTable.getFile handle
  if file.position ≥ fileSize file ∨ n = 0 then
    .ok ([], v)
  else
    let toRead := min n (fileSize file - file.position).toNat
    match file.source with
    | none => .ok ([], v)
    | some source =>
      let bytes ← source.readAt file.position toRead
      .ok (bytes, v.setPosition handle (file.position + BitVec.ofNat 64 toRead))

/-- `Seek`, at 64 bits with sign. SOURCE: libs/vfs/src/vfs.cpp:181-209 -/
def seek (v : Vfs) (handle : VfsHandle) (offset : U64) (origin : VfsSeekOrigin) :
    Result (U64 × Vfs) := do
  let file ← v.handleTable.getFile handle
  let target :=
    match origin with
    | .begin => offset
    | .current => file.position + offset
    | .end => fileSize file + offset
  if target.slt 0 then
    .error { code := .invalidArgument, message := "Cannot seek before beginning of file" }
  else
    .ok (target, v.setPosition handle target)

/-- `QueryByHandle`. SOURCE: libs/vfs/src/vfs.cpp:219-238 -/
def queryByHandle (v : Vfs) (handle : VfsHandle) : Result VfsFileInfo := do
  match ← v.handleTable.getType handle with
  | .file =>
    let file ← v.handleTable.getFile handle
    .ok (file.info.getD {})
  | .directory =>
    let dir ← v.handleTable.getDir handle
    .ok (dir.info.getD {})

/-- `EnumerateDirectory`. SOURCE: libs/vfs/src/vfs.cpp:253-261 -/
def enumerateDirectory (v : Vfs) (handle : VfsHandle) : Result (List VfsDirEntry) := do
  let dir ← v.handleTable.getDir handle
  .ok dir.entries

/-- `Reset`, which closes every handle that is open.
SOURCE: libs/vfs/src/vfs.cpp:275-278, libs/vfs/src/vfs_handle_table.cpp:171-183 -/
def reset (v : Vfs) : Vfs where
  mounts := fun _ => none
  handleTable := { v.handleTable with
    slots := v.handleTable.slots.map fun slot =>
      if slot.isOpen then
        { slot with
          isOpen := false
          generation := VfsHandleTable.nextGeneration slot.generation
          file := {}
          dir := {} }
      else slot }

end Vfs

end Xblob.Vfs
