import Xblob.Model.Common

/-!
# The handle table of the virtual file system

Open files and directories are kept in slots, and the guest holds handles to them: an index
and a generation of 16 bits each.  The generation of a slot goes up when its handle is
closed and skips zero, which marks the invalid handle.

The table stores what it is given and looks at none of it; the byte source of a file and
the information record are type parameters.
-/

set_option autoImplicit false

namespace Xblob.Vfs

/-- `VfsHandle`. SOURCE: libs/vfs/include/xblob/vfs/vfs_types.hpp:10-28 -/
structure VfsHandle where
  index : U16 := 0
  generation : U16 := 0
  deriving DecidableEq, Repr

/-- `VfsHandle::IsValid`. -/
def VfsHandle.isValid (h : VfsHandle) : Bool := h.generation != 0

/-- `VfsNodeType`. -/
inductive VfsNodeType where
  | file | directory
  deriving DecidableEq, Repr

/-- `VfsAccessMode`. -/
inductive VfsAccessMode where
  | read | write
  deriving DecidableEq, Repr

variable {β ι : Type}

/-- `FileSlot`. SOURCE: libs/vfs/include/xblob/vfs/vfs_handle_table.hpp:12-17 -/
structure FileSlot (β ι : Type) where
  source : Option β := none
  position : U64 := 0
  mode : VfsAccessMode := .read
  info : Option ι := none

/-- `VfsDirEntry`. SOURCE: libs/vfs/include/xblob/vfs/vfs_types.hpp:54-59 -/
structure VfsDirEntry where
  name : List U8
  isDirectory : Bool := false
  size : U64 := 0
  attributes : U32 := 0
  deriving DecidableEq, Repr

/-- `DirSlot`. SOURCE: libs/vfs/include/xblob/vfs/vfs_handle_table.hpp:19-23 -/
structure DirSlot (ι : Type) where
  entries : List VfsDirEntry := []
  enumerationIndex : ℕ := 0
  info : Option ι := none

/-- `HandleSlot`. SOURCE: libs/vfs/include/xblob/vfs/vfs_handle_table.hpp:25-31 -/
structure HandleSlot (β ι : Type) where
  generation : U16 := 1
  isOpen : Bool := false
  type : VfsNodeType := .file
  file : FileSlot β ι := {}
  dir : DirSlot ι := {}

/-- `VfsHandleTable`. SOURCE: libs/vfs/include/xblob/vfs/vfs_handle_table.hpp:33-61 -/
structure VfsHandleTable (β ι : Type) where
  maxHandles : ℕ := 4096
  slots : List (HandleSlot β ι) := []

namespace VfsHandleTable

/-- `AllocateSlot`: an index, and the table with the slot in it.
SOURCE: libs/vfs/src/vfs_handle_table.cpp:5-19 -/
def allocateSlot (t : VfsHandleTable β ι) : Result (ℕ × VfsHandleTable β ι) :=
  match t.slots.findIdx? fun s => !s.isOpen with
  | some i => .ok (i, t)
  | none =>
    if t.slots.length ≥ t.maxHandles then
      .error { code := .limitReached, message := "Maximum open VFS handle budget exceeded" }
    else
      .ok (t.slots.length, { t with slots := t.slots ++ [{ generation := 1, isOpen := false }] })

/-- The slot filled, and its handle. SOURCE: libs/vfs/src/vfs_handle_table.cpp:32-45 -/
def fillSlot (t : VfsHandleTable β ι) (idx : ℕ) (fill : HandleSlot β ι → HandleSlot β ι) :
    VfsHandle × VfsHandleTable β ι :=
  ({ index := BitVec.ofNat 16 idx, generation := (t.slots.getD idx {}).generation },
    { t with slots := t.slots.modify idx fill })

/-- `AllocateFile`. SOURCE: libs/vfs/src/vfs_handle_table.cpp:21-46 -/
def allocateFile (t : VfsHandleTable β ι) (source : Option β) (mode : VfsAccessMode) (info : ι) :
    Result (VfsHandle × VfsHandleTable β ι) :=
  match source with
  | none => .error { code := .invalidArgument, message := "ByteSource cannot be null" }
  | some source =>
    match t.allocateSlot with
    | .error e => .error e
    | .ok (idx, t) => .ok (t.fillSlot idx fun slot =>
        { slot with
          isOpen := true
          type := .file
          file := { source := some source, position := 0, mode := mode, info := some info }
          dir := {} })

/-- `AllocateDir`. SOURCE: libs/vfs/src/vfs_handle_table.cpp:48-67 -/
def allocateDir (t : VfsHandleTable β ι) (entries : List VfsDirEntry) (info : ι) :
    Result (VfsHandle × VfsHandleTable β ι) :=
  match t.allocateSlot with
  | .error e => .error e
  | .ok (idx, t) => .ok (t.fillSlot idx fun slot =>
      { slot with
        isOpen := true
        type := .directory
        dir := { entries := entries, enumerationIndex := 0, info := some info }
        file := {} })

/-- The checks `Close`, `GetFile`, `GetDir` and `GetType` begin with, which differ in the text
for a stale handle. SOURCE: libs/vfs/src/vfs_handle_table.cpp:70-77, 91-100 -/
def openSlot (t : VfsHandleTable β ι) (handle : VfsHandle) (stale : String) :
    Result (HandleSlot β ι) :=
  if !handle.isValid then
    .error { code := .invalidHandle, message := "Invalid handle index" }
  else
    match t.slots[handle.index.toNat]? with
    | none => .error { code := .invalidHandle, message := "Invalid handle index" }
    | some slot =>
      if !slot.isOpen || slot.generation != handle.generation then
        .error { code := .invalidHandle, message := stale }
      else
        .ok slot

/-- The generation after `Close`. SOURCE: libs/vfs/src/vfs_handle_table.cpp:80-83 -/
def nextGeneration (generation : U16) : U16 :=
  if generation + 1 = 0 then 1 else generation + 1

/-- `Close`. SOURCE: libs/vfs/src/vfs_handle_table.cpp:69-88 -/
def close (t : VfsHandleTable β ι) (handle : VfsHandle) : Result (VfsHandleTable β ι) :=
  match t.openSlot handle "Handle is stale or already closed" with
  | .error e => .error e
  | .ok _ => .ok { t with slots := t.slots.modify handle.index.toNat fun slot =>
      { slot with
        isOpen := false
        generation := nextGeneration slot.generation
        file := {}
        dir := {} } }

/-- `GetFile`. SOURCE: libs/vfs/src/vfs_handle_table.cpp:90-105 -/
def getFile (t : VfsHandleTable β ι) (handle : VfsHandle) : Result (FileSlot β ι) :=
  match t.openSlot handle "Handle is stale or closed" with
  | .error e => .error e
  | .ok slot =>
    if slot.type ≠ .file then
      .error { code := .isADirectory, message := "Handle refers to a directory, not a file" }
    else
      .ok slot.file

/-- `GetDir`. SOURCE: libs/vfs/src/vfs_handle_table.cpp:124-139 -/
def getDir (t : VfsHandleTable β ι) (handle : VfsHandle) : Result (DirSlot ι) :=
  match t.openSlot handle "Handle is stale or closed" with
  | .error e => .error e
  | .ok slot =>
    if slot.type ≠ .directory then
      .error { code := .notADirectory, message := "Handle refers to a file, not a directory" }
    else
      .ok slot.dir

/-- `GetType`. SOURCE: libs/vfs/src/vfs_handle_table.cpp:158-169 -/
def getType (t : VfsHandleTable β ι) (handle : VfsHandle) : Result VfsNodeType :=
  (t.openSlot handle "Handle is stale or closed").map HandleSlot.type

end VfsHandleTable

end Xblob.Vfs
