import Xblob.Computation.LinkedTrees
import Xblob.Computation.Spans
import Xblob.Model.Formats.Xdvdfs
import Xblob.Model.Formats.XdvdfsVolume
import Xblob.Model.Vfs.Path

/-!
# XDVDFS volumes

What the directory tables of a volume have in them, what a walk over them and a look-up are to
find, and what a normalised path is.
-/

set_option autoImplicit false

namespace Xblob.Interface

open Xblob.Computation Xblob.Formats Xblob.Io Xblob.Vfs

/-!
## Directory tables as trees

What a directory table has in it, whatever the reader makes of it: the entry at an offset, if it
lies in the table as a whole, and the offsets it links to.
-/

/-- An entry: its fixed part and its name. -/
structure DirRecord where
  header : EntryHeader
  name : ByteString
  deriving DecidableEq, Repr

/-- The entry at an offset, if neither its fixed part nor its name leaves the table. -/
def recordAt (t : DirectoryTable) (o : U16) : Option DirRecord :=
  if 4 * o.toNat + 14 ≤ t.size.toNat then
    match t.source.readAt (t.base + DirectoryTable.byteOffset o) 14 with
    | .error _ => none
    | .ok hdr =>
      if 4 * o.toNat + 14 + (entryHeader hdr).nameLen.toNat ≤ t.size.toNat then
        match t.source.readAt (t.base + (DirectoryTable.byteOffset o + 14))
            (entryHeader hdr).nameLen.toNat with
        | .error _ => none
        | .ok name => some { header := entryHeader hdr, name }
      else
        none
  else
    none

/-- The offsets 0 and `0xFFFF` stand for none. -/
def childLink (child : U16) : Option U16 :=
  if child ≠ 0 ∧ child ≠ 0xFFFF then some child else none

/-- The entries of a table and their links. -/
def tableStore (t : DirectoryTable) : LinkedStore U16 DirRecord where
  record := recordAt t
  link r
    | .left => childLink r.header.leftChild
    | .right => childLink r.header.rightChild

/-- A path of links leads from the first entry to an offset. -/
def LeadsTo (t : DirectoryTable) (path : List Side) (o : U16) : Prop :=
  (tableStore t).Leads 0 path o

/-- What is listed for an entry. -/
def listedEntry (t : DirectoryTable) (r : DirRecord) : XdvdfsEntry where
  name := r.name
  attributes := r.header.attributes
  isDirectory := isDirectoryAttribute r.header.attributes
  startingSector := r.header.entrySector
  fileSize := r.header.fileSize
  offsetInImage := t.partitionBase + r.header.entrySector.setWidth 64 * kXdvdfsSectorSize

/-- The entries are those of a walk through the tree of the table, a node before what is under
its left link and that before what is under its right one; no offset is come to twice, no two
names differ only in case, and the walk is within the budgets. -/
structure Listed (t : DirectoryTable) (entries : List XdvdfsEntry)
    (visits : List (LinkedStore.Visit U16 DirRecord)) : Prop where
  preorder : (tableStore t).Preorder (some 0) 1 visits
  entries : entries = visits.map fun v => listedEntry t v.record
  once : (visits.map fun v => v.key).Nodup
  names : (visits.map fun v => toLowerAscii v.record.name).Nodup
  count : visits.length ≤ t.budget.maxEntriesPerDir
  depths : ∀ v ∈ visits, v.depth ≤ t.budget.maxDepth

/-- Something is wrong with the tree: a link leads to an offset where no entry lies in the table
as a whole, or two paths lead to one offset. -/
def Spoiled (t : DirectoryTable) : Prop :=
  (∃ path o, LeadsTo t path o ∧ recordAt t o = none) ∨
    ∃ path path' o, path ≠ path' ∧ LeadsTo t path o ∧ LeadsTo t path' o

/-!
## Walks and look-ups

The entries of a volume are those in the table of the root and in the tables of directories one
inside the other.  `TraverseAll` is to list them under paths by which `FindEntry` finds them, and
what `FindEntry` finds is to be listed.
-/

section VolumeWalks

/-- A path without its drive prefix. -/
def withoutDrive (path : ByteString) : ByteString :=
  if path[1]? = some 0x3A then path.drop 2 else path

/-- The words of a path in lower case, without a drive prefix. -/
def pathWords (path : ByteString) : List ByteString :=
  (((withoutDrive path).splitOnP isSlash).filter fun word => word ≠ []).map toLowerAscii

/-- Paths that are equal up to case, drive prefix and separators. -/
def SamePath (p q : ByteString) : Prop := pathWords p = pathWords q

/-- The entries agree in what a look-up is to return. -/
structure SameEntry (e e' : XdvdfsEntry) : Prop where
  name : e.name = e'.name
  startingSector : e.startingSector = e'.startingSector
  fileSize : e.fileSize = e'.fileSize
  attributes : e.attributes = e'.attributes

/-- A component of a path may have the name. -/
def NameAccepted (name : ByteString) : Prop := checkComponent name = .ok name

section Volumes

variable (volume : XdvdfsVolume)

/-- An entry of a directory. -/
def InTable (sector size : U32) (e : XdvdfsEntry) : Prop :=
  ∃ entries, volume.parseDirectoryTable sector size = .ok entries ∧ e ∈ entries

/-- Entries one inside the other, from a directory on. -/
def Nested : (sector size : U32) → List XdvdfsEntry → Prop
  | _, _, [] => True
  | sector, size, e :: chain =>
    InTable volume sector size e ∧ (chain ≠ [] → e.isDirectory = true) ∧
      Nested e.startingSector e.fileSize chain

/-- Entries one inside the other, from the root on. -/
def InVolume (chain : List XdvdfsEntry) : Prop :=
  Nested volume volume.info.rootDirSector volume.info.rootDirSize chain

/-- The walk from the root lists these entries under these paths. -/
def Lists (list : List (ByteString × XdvdfsEntry)) : Prop :=
  ∃ turns, volume.traverseAll [] turns = some (.ok list)

/-- The walk ends; by each path it lists, the entry is found; and each entry that is found by a
path other than the root's is listed, under that path. -/
structure WalkAgrees : Prop where
  ends : ∃ turns r, volume.traverseAll [] turns = some r
  found : ∀ list, Lists volume list → ∀ p ∈ list, ∃ e, volume.findEntry p.1 = .ok e ∧ SameEntry e p.2
  listed : ∀ list, Lists volume list → ∀ path e, volume.findEntry path = .ok e →
    pathWords path ≠ [] → ∃ p ∈ list, p.2 = e ∧ SamePath p.1 path

/-- The walk fails, or every name in the volume may stand in a path. -/
def NamesAccepted : Prop :=
  (∃ list, Lists volume list) → ∀ chain, InVolume volume chain → ∀ e ∈ chain, NameAccepted e.name

end Volumes

end VolumeWalks

/-!
## What a normalised path is to be

The file system normalises a path of the guest, and the volume it mounts takes the result apart
again.  A normalised path is its components with backslashes between them, it is taken apart into
them, and normalising it once more changes nothing.
-/

/-- A component that a path may keep. -/
structure PlainComponent (comp : ByteString) : Prop where
  nonempty : comp ≠ []
  unslashed : ∀ c ∈ comp, isSlash c = false
  allowed : ∀ c ∈ comp, isInvalidChar c = false
  noDot : comp ≠ ascii "."
  noDots : comp ≠ ascii ".."

/-- The path of an alias and a relative path. -/
def rooted (mountAlias relativePath : ByteString) : ByteString :=
  mountAlias ++ ascii ":" ++ ascii "\\" ++ relativePath

/-- A parsed path is the join of components, and stable. -/
structure StablePath (parsed : ParsedXboxPath) (comps : List ByteString) : Prop where
  joined : parsed.relativePath = (ascii "\\").intercalate comps
  plain : ∀ comp ∈ comps, PlainComponent comp
  split : splitAndValidateXboxPath parsed.relativePath = .ok comps
  again : ∀ drive, parsed.mountAlias = [drive] →
    parseAndNormalizeXboxPath (rooted parsed.mountAlias parsed.relativePath) = .ok parsed

end Xblob.Interface
