import Xblob.Computation.Fallible
import Xblob.Model.Io.BinaryReader
import Xblob.Model.Vfs.Path

/-!
# Directory tables of XDVDFS

A directory of a disc is a table with a binary tree in it: every entry has the offsets of two
others, counted in units of four bytes, where 0 and `0xFFFF` stand for none.  The reader walks
the tree from offset 0 with a stack and refuses a table in which it comes to an offset twice.
-/

set_option autoImplicit false

namespace Xblob.Formats

open Xblob.Computation Xblob.Io Xblob.Vfs

def kXdvdfsSectorSize : U64 := 2048

/-- `IsDirectoryAttribute`. SOURCE: libs/formats/include/xblob/formats/xdvdfs_types.hpp:37-39 -/
def isDirectoryAttribute (attr : U8) : Bool := attr &&& 0x10 ≠ 0

/-- `XdvdfsBudgetConfig`. SOURCE: libs/formats/include/xblob/formats/xdvdfs_types.hpp:45-51 -/
structure XdvdfsBudgetConfig where
  maxDepth : ℕ := 32
  maxEntriesPerDir : ℕ := 4096
  maxTotalEntries : ℕ := 65536
  maxDirSizeBytes : ℕ := 16 * 1024 * 1024
  maxFilenameLength : ℕ := 255
  deriving DecidableEq, Repr

/-- `XdvdfsEntry`. SOURCE: libs/formats/include/xblob/formats/xdvdfs_types.hpp:53-60 -/
structure XdvdfsEntry where
  name : ByteString
  attributes : U8
  isDirectory : Bool
  startingSector : U32
  fileSize : U32
  offsetInImage : U64
  deriving DecidableEq, Repr

/-- `ToLowerAscii`. SOURCE: libs/formats/src/xdvdfs_entry_reader.cpp:30-41 -/
def toLowerAscii (s : ByteString) : ByteString :=
  s.map fun c => if 0x41 ≤ c ∧ c ≤ 0x5A then c + 0x20 else c

/-- A partition and a sector of it, as an offset in the image. -/
def sectorOffset (partitionBase : U64) (sector : U32) (mulMessage addMessage : String) :
    Result U64 :=
  match checkedMul (sector.setWidth 64) kXdvdfsSectorSize with
  | none => .error { code := .integerOverflow, message := mulMessage }
  | some offset =>
    match checkedAdd partitionBase offset with
    | none => .error { code := .integerOverflow, message := addMessage }
    | some total => .ok total

/-- A directory table that lies in the image. -/
structure DirectoryTable where
  source : ByteSource
  partitionBase : U64
  /-- `dir_base_offset` -/
  base : U64
  /-- `dir_size_bytes` -/
  size : U32
  budget : XdvdfsBudgetConfig

/-- The checks before the walk. SOURCE: libs/formats/src/xdvdfs_entry_reader.cpp:105-124 -/
def openTable (source : ByteSource) (partitionBase : U64) (startingSector dirSizeBytes : U32)
    (budget : XdvdfsBudgetConfig) : Result DirectoryTable :=
  if dirSizeBytes = 0 then
    .error { code := .invalidField, message := "Directory table size cannot be zero" }
  else if dirSizeBytes.toNat > budget.maxDirSizeBytes then
    .error { code := .limitReached, message := "Directory table size exceeds budget" }
  else
    match sectorOffset partitionBase startingSector "Directory sector math overflowed"
        "Directory base offset overflowed" with
    | .error e => .error e
    | .ok base =>
      if !rangeInBounds base (dirSizeBytes.setWidth 64) source.size then
        .error { code := .outOfBounds, message := "Directory table exceeds image bounds"
                 offset := base }
      else
        .ok { source, partitionBase, base, size := dirSizeBytes, budget }

/-- `WorkItem`. SOURCE: libs/formats/src/xdvdfs_entry_reader.cpp:126-129 -/
structure WorkItem where
  dwordOffset : U16
  depth : ℕ
  deriving DecidableEq, Repr

/-- A walk under way, with the top of the stack first.  The last member is a record of the reads
of the image, which the source does not keep and nothing here looks at. -/
structure DirWalk where
  stack : List WorkItem := [{ dwordOffset := 0, depth := 1 }]
  visitedOffsets : List U16 := []
  seenNames : List ByteString := []
  entries : List XdvdfsEntry := []
  reads : List (U64 × ℕ) := []
  deriving DecidableEq, Repr

/-- The fixed part of an entry. SOURCE: libs/formats/src/xdvdfs_entry_reader.cpp:168-177 -/
structure EntryHeader where
  leftChild : U16
  rightChild : U16
  entrySector : U32
  fileSize : U32
  attributes : U8
  nameLen : U8
  deriving DecidableEq, Repr

/-- The header of a record, taken apart. -/
def entryHeader (hdr : List U8) : EntryHeader :=
  let byte (i : ℕ) : U8 := hdr.getD i 0
  { leftChild := word16 (byte 0) (byte 1)
    rightChild := word16 (byte 2) (byte 3)
    entrySector := word32 (byte 4) (byte 5) (byte 6) (byte 7)
    fileSize := word32 (byte 8) (byte 9) (byte 10) (byte 11)
    attributes := byte 12
    nameLen := byte 13 }

namespace DirectoryTable

variable (t : DirectoryTable)

/-- `u64{dword_offset} * 4` -/
def byteOffset (dwordOffset : U16) : U64 := dwordOffset.setWidth 64 * 4

/-- `source.ReadAt(dir_base_offset + offset, …)` -/
def read (offset : U64) (n : ℕ) : EStateM Error DirWalk (List U8) := do
  modify fun w => { w with reads := w.reads ++ [(t.base + offset, n)] }
  match t.source.readAt (t.base + offset) n with
  | .ok bytes => pure bytes
  | .error e => throw e

/-- The depth, the offset and the count are checked.
SOURCE: libs/formats/src/xdvdfs_entry_reader.cpp:142-154 -/
def enter (item : WorkItem) : EStateM Error DirWalk Unit := do
  if item.depth > t.budget.maxDepth then
    throw { code := .limitReached, message := "Directory BST depth budget exceeded" }
  else
    let w ← get
    if w.visitedOffsets.any fun offset => offset = item.dwordOffset then
      throw { code := .invalidField
              message := "Cycle detected in XDVDFS directory tree (node revisited)" }
    else
      set { w with visitedOffsets := w.visitedOffsets ++ [item.dwordOffset] }
      if (w.visitedOffsets ++ [item.dwordOffset]).length > t.budget.maxEntriesPerDir then
        throw { code := .limitReached, message := "Directory entry count exceeds budget" }
      else
        pure ()

/-- SOURCE: libs/formats/src/xdvdfs_entry_reader.cpp:156-177 -/
def readHeader (offset : U64) : EStateM Error DirWalk EntryHeader := do
  if offset + 14 > t.size.setWidth 64 then
    throw { code := .outOfBounds
            message := "Directory entry header exceeds directory table size" }
  else
    let hdr ← t.read offset 14
    pure (entryHeader hdr)

/-- A byte that may not be in a name. -/
def isForbidden (ch : U8) : Bool := ch == 0 || ch == 0x2F || ch == 0x5C || ch < 32

/-- SOURCE: libs/formats/src/xdvdfs_entry_reader.cpp:179-201 -/
def readName (offset : U64) (nameLen : U8) : EStateM Error DirWalk ByteString := do
  if nameLen = 0 then
    throw { code := .invalidField, message := "XDVDFS directory entry filename length is zero" }
  else if nameLen.toNat > t.budget.maxFilenameLength then
    throw { code := .limitReached, message := "Filename length exceeds budget" }
  else if offset + 14 + nameLen.setWidth 64 > t.size.setWidth 64 then
    throw { code := .outOfBounds
            message := "XDVDFS directory entry filename exceeds directory table bounds" }
  else
    let name ← t.read (offset + 14) nameLen.toNat
    if name.any isForbidden then
      throw { code := .invalidPath
              message := "Filename in directory entry contains forbidden characters" }
    else
      pure name

/-- SOURCE: libs/formats/src/xdvdfs_entry_reader.cpp:203-208 -/
def recordName (name : ByteString) : EStateM Error DirWalk Unit := do
  let w ← get
  if w.seenNames.any fun seen => seen = toLowerAscii name then
    throw { code := .invalidField
            message := "Duplicate filename in directory table: " ++
              String.ofList (name.map fun c => Char.ofNat c.toNat) }
  else
    set { w with seenNames := w.seenNames ++ [toLowerAscii name] }

/-- SOURCE: libs/formats/src/xdvdfs_entry_reader.cpp:210-226 -/
def addEntry (header : EntryHeader) (name : ByteString) : EStateM Error DirWalk Unit := do
  match sectorOffset t.partitionBase header.entrySector "Entry sector math overflowed"
      "Entry image offset overflowed" with
  | .error e => throw e
  | .ok offsetInImage =>
    modify fun w =>
      { w with entries := w.entries ++
          [{ name, attributes := header.attributes
             isDirectory := isDirectoryAttribute header.attributes
             startingSector := header.entrySector, fileSize := header.fileSize
             offsetInImage }] }

/-- A child put on the stack. SOURCE: libs/formats/src/xdvdfs_entry_reader.cpp:228-244 -/
def pushChild (child : U16) (depth : ℕ) (message : String) : EStateM Error DirWalk Unit := do
  if child ≠ 0 ∧ child ≠ 0xFFFF then
    if byteOffset child + 14 > t.size.setWidth 64 then
      throw { code := .outOfBounds, message := message }
    else
      modify fun w => { w with stack := { dwordOffset := child, depth := depth + 1 } :: w.stack }
  else
    pure ()

/-- A turn of the loop, for the item that was on top of the stack.
SOURCE: libs/formats/src/xdvdfs_entry_reader.cpp:142-244 -/
def visit (item : WorkItem) : EStateM Error DirWalk Unit := do
  t.enter item
  let header ← t.readHeader (byteOffset item.dwordOffset)
  let name ← t.readName (byteOffset item.dwordOffset) header.nameLen
  recordName name
  t.addEntry header name
  t.pushChild header.rightChild item.depth "Right child pointer points outside directory table"
  t.pushChild header.leftChild item.depth "Left child pointer points outside directory table"

/-- The loop, for a number of turns: `none` if the stack is not empty after them. -/
def walk : ℕ → DirWalk → Option (EStateM.Result Error DirWalk Unit)
  | turns, w =>
    match w.stack with
    | [] => some (.ok () w)
    | item :: stack =>
      match turns with
      | 0 => none
      | turns + 1 =>
        match (t.visit item).run { w with stack := stack } with
        | .ok () w' => walk turns w'
        | .error e w' => some (.error e w')

end DirectoryTable

/-- `ParseDirectoryTableEntries`, for a number of turns of its loop.
SOURCE: libs/formats/src/xdvdfs_entry_reader.cpp:101-248 -/
def parseDirectoryTableEntries (source : ByteSource) (partitionBase : U64)
    (startingSector dirSizeBytes : U32) (budget : XdvdfsBudgetConfig) (turns : ℕ) :
    Option (Result (List XdvdfsEntry)) :=
  match openTable source partitionBase startingSector dirSizeBytes budget with
  | .error e => some (.error e)
  | .ok t => (t.walk turns {}).map fun r => (outcome r).map fun _ => (stateAfter r).entries

end Xblob.Formats
