import Mathlib.Data.List.DropRight
import Xblob.Model.Formats.Xdvdfs
import Xblob.Model.Io.SubrangeByteSource

/-!
# Volumes of XDVDFS

A volume finds an entry by its path, a directory table at a time, and gives the bytes of a file as
a part of the image or into a buffer.  A walk through all directories lists every entry of the
volume with its path.
-/

set_option autoImplicit false

namespace Xblob.Formats

open Xblob.Io Xblob.Vfs

/-! ## Paths -/

/-- A drive prefix is taken off. SOURCE: libs/formats/src/xdvdfs_entry_reader.cpp:46-54 -/
def stripDrive (path : ByteString) : Result ByteString :=
  if path[1]? = some 0x3A then
    let drive := path.headD 0
    if 0x41 ≤ drive ∧ drive ≤ 0x5A ∨ 0x61 ≤ drive ∧ drive ≤ 0x7A then
      .ok (path.drop 2)
    else
      invalidPath "Invalid drive prefix in path"
  else
    .ok path

/-- Slashes on both ends are taken off. SOURCE: libs/formats/src/xdvdfs_entry_reader.cpp:56-64 -/
def trimSlashes (path : ByteString) : ByteString := (path.dropWhile isSlash).rdropWhile isSlash

/-- A byte that may not be in a component of a path.
SOURCE: libs/formats/src/xdvdfs_entry_reader.cpp:86-90 -/
def isInvalidComponentChar (c : U8) : Bool := c < 32 || (ascii ":*?\"<>|").contains c

/-- The checks on a component. SOURCE: libs/formats/src/xdvdfs_entry_reader.cpp:77-94 -/
def checkComponent (comp : ByteString) : Result ByteString :=
  if comp = [] then
    invalidPath "Empty component in path (consecutive slashes)"
  else if comp = ascii "." ∨ comp = ascii ".." then
    invalidPath "Path traversal component is forbidden"
  else if comp.any isInvalidComponentChar then
    invalidPath "Invalid character in path component"
  else
    .ok comp

/-- `SplitAndValidateXboxPath`. SOURCE: libs/formats/src/xdvdfs_entry_reader.cpp:43-99 -/
def splitAndValidateXboxPath (path : ByteString) : Result (List ByteString) := do
  let path ← stripDrive path
  if trimSlashes path = [] then
    .ok []
  else
    ((trimSlashes path).splitOnP isSlash).mapM checkComponent

/-- `EqualsIgnoreCaseAscii`. SOURCE: libs/formats/src/xdvdfs_entry_reader.cpp:10-28 -/
def equalsIgnoreCaseAscii (a b : ByteString) : Bool := toLowerAscii a == toLowerAscii b

/-! ## The volume -/

/-- `XdvdfsVolumeInfo`. SOURCE: libs/formats/include/xblob/formats/xdvdfs_types.hpp:62-70 -/
structure XdvdfsVolumeInfo where
  partitionBaseOffset : U64 := 0
  rootDirSector : U32 := 0
  rootDirSize : U32 := 0
  creationTimestamp : U64 := 0
  deriving DecidableEq, Repr

/-- `XdvdfsVolume`. SOURCE: libs/formats/include/xblob/formats/xdvdfs.hpp:16-50 -/
structure XdvdfsVolume where
  source : ByteSource
  info : XdvdfsVolumeInfo := {}
  budget : XdvdfsBudgetConfig := {}

namespace XdvdfsVolume

variable (volume : XdvdfsVolume)

/-- `ParseDirectoryTable`.  The loop of the parser has come to an end after 65537 turns, one more
than there are offsets. SOURCE: libs/formats/src/xdvdfs.cpp:130-134 -/
def parseDirectoryTable (startingSector dirSizeBytes : U32) : Result (List XdvdfsEntry) :=
  (parseDirectoryTableEntries volume.source volume.info.partitionBaseOffset startingSector
    dirSizeBytes volume.budget 65537).getD (.ok [])

/-- The first entry of a directory whose name is a component, in any case.
SOURCE: libs/formats/src/xdvdfs.cpp:198-210 -/
def lookUp (startingSector dirSizeBytes : U32) (comp : ByteString) (notFound : String) :
    Result XdvdfsEntry := do
  let entries ← volume.parseDirectoryTable startingSector dirSizeBytes
  match entries.find? fun e => equalsIgnoreCaseAscii e.name comp with
  | some entry => .ok entry
  | none =>
    .error { code := .fileNotFound
             message := notFound ++ String.ofList (comp.map fun c => Char.ofNat c.toNat) }

/-- An entry on the way is a directory. SOURCE: libs/formats/src/xdvdfs.cpp:217-219 -/
def requireDirectory (entry : XdvdfsEntry) (comp : ByteString) : Result Unit :=
  if !entry.isDirectory then
    .error { code := .notADirectory
             message := "Component is not a directory: " ++
               String.ofList (comp.map fun c => Char.ofNat c.toNat) }
  else
    .ok ()

/-- The entry `FindEntry` makes for the root. SOURCE: libs/formats/src/xdvdfs.cpp:184-192 -/
def rootEntry : XdvdfsEntry where
  name := []
  attributes := 0x10
  isDirectory := true
  startingSector := volume.info.rootDirSector
  fileSize := volume.info.rootDirSize
  offsetInImage :=
    volume.info.partitionBaseOffset + volume.info.rootDirSector.setWidth 64 * kXdvdfsSectorSize

/-- The loop of `FindEntry` over the components that are left, in a directory.
SOURCE: libs/formats/src/xdvdfs.cpp:195-225 -/
def findFrom (startingSector dirSizeBytes : U32) : List ByteString → Result XdvdfsEntry
  | [] => .error { code := .fileNotFound, message := "Entry lookup failed" }
  | [comp] => volume.lookUp startingSector dirSizeBytes comp "Entry not found: "
  | comp :: comps => do
    let entry ← volume.lookUp startingSector dirSizeBytes comp "Entry not found: "
    requireDirectory entry comp
    findFrom entry.startingSector entry.fileSize comps

/-- `FindEntry`. SOURCE: libs/formats/src/xdvdfs.cpp:176-226 -/
def findEntry (path : ByteString) : Result XdvdfsEntry := do
  let comps ← splitAndValidateXboxPath path
  if comps = [] then
    .ok volume.rootEntry
  else
    volume.findFrom volume.info.rootDirSector volume.info.rootDirSize comps

/-- The loop of `ListDirectory` over the components that are left.
SOURCE: libs/formats/src/xdvdfs.cpp:147-173 -/
def listFrom (startingSector dirSizeBytes : U32) : List ByteString → Result (List XdvdfsEntry)
  | [] => volume.parseDirectoryTable startingSector dirSizeBytes
  | comp :: comps => do
    let entry ← volume.lookUp startingSector dirSizeBytes comp "Directory component not found: "
    requireDirectory entry comp
    listFrom entry.startingSector entry.fileSize comps

/-- `ListDirectory`. SOURCE: libs/formats/src/xdvdfs.cpp:136-174 -/
def listDirectory (path : ByteString) : Result (List XdvdfsEntry) := do
  let comps ← splitAndValidateXboxPath path
  volume.listFrom volume.info.rootDirSector volume.info.rootDirSize comps

/-! ## The bytes of a file -/

/-- `OpenFile`. SOURCE: libs/formats/src/xdvdfs.cpp:236-248 -/
def openFile (entry : XdvdfsEntry) : Result SubrangeByteSource :=
  if entry.isDirectory then
    .error { code := .isADirectory, message := "Cannot open directory as a file" }
  else if !rangeInBounds entry.offsetInImage (entry.fileSize.setWidth 64) volume.source.size then
    .error { code := .truncatedData
             message := "File data extends beyond image boundary (truncated sectors)"
             offset := entry.offsetInImage }
  else
    SubrangeByteSource.create (some volume.source) entry.offsetInImage (entry.fileSize.setWidth 64)

/-- `OpenFile` by a path. SOURCE: libs/formats/src/xdvdfs.cpp:228-234 -/
def openPath (path : ByteString) : Result SubrangeByteSource := do
  let entry ← volume.findEntry path
  volume.openFile entry

/-- `ReadFileAt` into a destination of `n` bytes. SOURCE: libs/formats/src/xdvdfs.cpp:250-277 -/
def readFileAt (entry : XdvdfsEntry) (offset : U64) (n : ℕ) : Result (List U8) :=
  if entry.isDirectory then
    .error { code := .isADirectory, message := "Cannot read directory as file" }
  else if n = 0 then
    .ok []
  else if offset ≥ entry.fileSize.setWidth 64 then
    .ok []
  else
    let toRead := min n (entry.fileSize.setWidth 64 - offset).toNat
    if !rangeInBounds (entry.offsetInImage + offset) (BitVec.ofNat 64 toRead)
        volume.source.size then
      .error { code := .truncatedData, message := "Image truncated during file read" }
    else
      volume.source.readAt (entry.offsetInImage + offset) toRead

/-! ## The walk -/

/-- `Frame`. SOURCE: libs/formats/src/xdvdfs.cpp:283-288 -/
structure Frame where
  sector : U32
  size : U32
  pathPrefix : ByteString
  depth : ℕ
  deriving DecidableEq, Repr

/-- A walk through the directories, with the top of the stack first. -/
structure Traversal where
  dirStack : List Frame
  visitedDirs : List U32
  result : List (ByteString × XdvdfsEntry) := []
  deriving DecidableEq, Repr

/-- The path of an entry in a directory. SOURCE: libs/formats/src/xdvdfs.cpp:326 -/
def fullPath (pathPrefix name : ByteString) : ByteString :=
  if pathPrefix = [] then name else pathPrefix ++ ascii "\\" ++ name

/-- The entries of a directory, one at a time. SOURCE: libs/formats/src/xdvdfs.cpp:322-338 -/
def addEntries (frame : Frame) : List XdvdfsEntry → Traversal → Result Traversal
  | [], t => .ok t
  | entry :: entries, t =>
    if t.result.length ≥ volume.budget.maxTotalEntries then
      .error { code := .limitReached, message := "Total directory entries limit exceeded" }
    else
      let t := { t with result := t.result ++ [(fullPath frame.pathPrefix entry.name, entry)] }
      if entry.isDirectory then
        if t.visitedDirs.contains entry.startingSector then
          .error { code := .invalidField
                   message := "Cycle detected across directories in XDVDFS: sector revisited" }
        else
          addEntries frame entries
            { t with
              visitedDirs := entry.startingSector :: t.visitedDirs
              dirStack :=
                { sector := entry.startingSector, size := entry.fileSize
                  pathPrefix := fullPath frame.pathPrefix entry.name, depth := frame.depth + 1 } ::
                t.dirStack }
      else
        addEntries frame entries t

/-- A turn of the loop, for the frame that was on top of the stack.
SOURCE: libs/formats/src/xdvdfs.cpp:310-338 -/
def visitDirectory (frame : Frame) (t : Traversal) : Result Traversal :=
  if frame.depth > volume.budget.maxDepth then
    .error { code := .limitReached, message := "Maximum directory depth exceeded" }
  else
    match volume.parseDirectoryTable frame.sector frame.size with
    | .error e => .error e
    | .ok entries => volume.addEntries frame entries t

/-- The loop, for a number of turns: `none` if the stack is not empty after them. -/
def traverse : ℕ → Traversal → Option (Result (List (ByteString × XdvdfsEntry)))
  | turns, t =>
    match t.dirStack with
    | [] => some (.ok t.result)
    | frame :: dirStack =>
      match turns with
      | 0 => none
      | turns + 1 =>
        match volume.visitDirectory frame { t with dirStack := dirStack } with
        | .error e => some (.error e)
        | .ok t => traverse turns t

/-- Where a walk starts. SOURCE: libs/formats/src/xdvdfs.cpp:293-307 -/
def startTraversal (startPath : ByteString) : Result Traversal :=
  if startPath = [] ∨ startPath = ascii "/" ∨ startPath = ascii "\\" then
    .ok { dirStack := [{ sector := volume.info.rootDirSector, size := volume.info.rootDirSize
                         pathPrefix := [], depth := 1 }]
          visitedDirs := [volume.info.rootDirSector] }
  else do
    let entry ← volume.findEntry startPath
    if !entry.isDirectory then
      .error { code := .notADirectory, message := "Start path is not a directory" }
    else
      .ok { dirStack := [{ sector := entry.startingSector, size := entry.fileSize
                           pathPrefix := startPath, depth := 1 }]
            visitedDirs := [entry.startingSector] }

/-- `TraverseAll`, for a number of turns of its loop.
SOURCE: libs/formats/src/xdvdfs.cpp:280-344 -/
def traverseAll (startPath : ByteString) (turns : ℕ) :
    Option (Result (List (ByteString × XdvdfsEntry))) :=
  match volume.startTraversal startPath with
  | .error e => some (.error e)
  | .ok t => volume.traverse turns t

end XdvdfsVolume

end Xblob.Formats
