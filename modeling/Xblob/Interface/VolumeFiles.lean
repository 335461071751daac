import Mathlib.Data.Int.Notation
import Xblob.Computation.Spans
import Xblob.Interface.FileCalls
import Xblob.Model.Vfs.XdvdfsVfsVolume

/-!
# The files of a volume

A file of a disc is a range of the image, and there are three ways to its bytes: the part of the
image `OpenFile` gives, `ReadFileAt`, and the virtual file system with its positions.
-/

set_option autoImplicit false

namespace Xblob.Interface

open Xblob.Computation Xblob.Formats Xblob.Vfs

/-- Bytes of an image. -/
def imageBytes (image : ℕ → U8) (start n : ℕ) : List U8 :=
  (List.range n).map fun i => image (start + i)

/-- A file whose data lie in the image, which returns them faithfully.  Nothing is said of what the
image returns elsewhere. -/
structure VolumeFile where
  volume : XdvdfsVolume
  entry : XdvdfsEntry
  isFile : entry.isDirectory = false
  inside : entry.offsetInImage.toNat + entry.fileSize.toNat ≤ volume.source.size.toNat
  image : ℕ → U8
  faithful : ∀ (offset : U64) (n : ℕ),
    (Span.mk offset.toNat n).Inside ⟨entry.offsetInImage.toNat, entry.fileSize.toNat⟩ →
      volume.source.readAt offset n = .ok (imageBytes image offset.toNat n)

/-- What is done with a file that is open. -/
inductive FileUse where
  | read (n : U64)
  | seek (offset : U64) (origin : VfsSeekOrigin)

/-- The call of the file system. -/
def FileUse.call (handle : VfsHandle) : FileUse → FileSystemCall
  | .read n => .read handle n.toNat
  | .seek offset origin => .seek handle offset origin

/-- The file system after files were used. -/
def usedFile (handle : VfsHandle) (v : Vfs) (uses : List FileUse) : Vfs :=
  uses.foldl (fun v use => (use.call handle).next v) v

/-- How many bytes reads ask for together. -/
def totalAsked : List U64 → ℕ
  | [] => 0
  | n :: ns => n.toNat + totalAsked ns

/-- Reads one after the other: what each of them returns. -/
def readChunks (v : Vfs) (handle : VfsHandle) : List U64 → Result (List (List U8) × Vfs)
  | [] => .ok ([], v)
  | n :: ns => do
    let (bytes, v) ← v.read handle n.toNat
    let (chunks, v) ← readChunks v handle ns
    .ok (bytes :: chunks, v)

namespace VolumeFile

variable (f : VolumeFile)

/-- The size of the file. -/
def size : ℕ := f.entry.fileSize.toNat

/-- The bytes of the file from an offset on. -/
def bytes (offset n : ℕ) : List U8 := imageBytes f.image (f.entry.offsetInImage.toNat + offset) n

/-- How many of the bytes that are asked for there are. -/
def available (offset n : ℕ) : ℕ := min n (f.size - offset)

/-- The part of the image. -/
def part : Io.SubrangeByteSource where
  parent := f.volume.source
  baseOffset := f.entry.offsetInImage
  size := f.entry.fileSize.setWidth 64

/-- A handle to the file, at a position. -/
structure OpenOn (v : Vfs) (handle : VfsHandle) (position : ℕ) : Prop where
  bound : position < 0x8000000000000000
  slot : ∃ mode info, v.handleTable.getFile handle =
      .ok { source := some (subrangeSource f.part), position := BitVec.ofNat 64 position
            mode := mode, info := some info } ∧
    info.size = f.entry.fileSize.setWidth 64

/-- Where a seek leads, at exact integers. -/
def target (position : ℕ) (offset : U64) (origin : VfsSeekOrigin) : ℤ :=
  match origin with
  | .begin => offset.toInt
  | .current => position + offset.toInt
  | .end => f.size + offset.toInt

/-- The position after the file was used. -/
def positionAfter (position : ℕ) : FileUse → ℕ
  | .read n => position + f.available position n.toNat
  | .seek offset origin =>
    if 0 ≤ f.target position offset origin ∧
        f.target position offset origin < 0x8000000000000000 then
      (f.target position offset origin).toNat
    else
      position

/-- Another image that returns the same bytes in the range of the file. -/
structure SameRange (other : Io.ByteSource) : Prop where
  size : other.size = f.volume.source.size
  readAt : ∀ (offset : U64) (n : ℕ),
    (Span.mk offset.toNat n).Inside ⟨f.entry.offsetInImage.toNat, f.entry.fileSize.toNat⟩ →
      other.readAt offset n = f.volume.source.readAt offset n

/-- The file on another image. -/
def onImage (other : Io.ByteSource) (h : f.SameRange other) : VolumeFile where
  volume := { f.volume with source := other }
  entry := f.entry
  isFile := f.isFile
  inside := h.size ▸ f.inside
  image := f.image
  faithful offset n hinside := (h.readAt offset n hinside).trans (f.faithful offset n hinside)

/-- The part of the image and `ReadFileAt` return the bytes of the file. -/
structure PartsAgree : Prop where
  opened : f.volume.openFile f.entry = .ok f.part
  readAt : ∀ offset n : U64, offset.toNat + n.toNat ≤ f.size →
    f.part.readAt offset n.toNat = .ok (f.bytes offset.toNat n.toNat)
  past : ∀ offset n : U64, n ≠ 0 → f.size < offset.toNat + n.toNat →
    ∃ e, f.part.readAt offset n.toNat = .error e
  readFileAt : ∀ offset n : U64, f.volume.readFileAt f.entry offset n.toNat =
    .ok (f.bytes offset.toNat (f.available offset.toNat n.toNat))

/-- A file of a file system in use that was opened by its path is at its beginning. -/
def OpensAtBeginning : Prop :=
  ∀ calls path mode handle v parsed,
    (fileSystemAfter calls).openFile path mode = .ok (handle, v) →
    parseAndNormalizeXboxPath path = .ok parsed →
    (fileSystemAfter calls).resolveVolume parsed.mountAlias =
      .ok (xdvdfsVfsVolume (some f.volume)) →
    f.volume.findEntry parsed.relativePath = .ok f.entry → f.OpenOn v handle 0

/-- Reads of the virtual file system return the bytes of the file from the position on, wherever
the reads and seeks before them led; and reads one after the other return all there are. -/
structure ReadsAgree : Prop where
  used : ∀ v handle position uses, f.OpenOn v handle position →
    f.OpenOn (usedFile handle v uses) handle (uses.foldl f.positionAfter position)
  read : ∀ v handle position (n : U64), f.OpenOn v handle position →
    ∃ v', v.read handle n.toNat = .ok (f.bytes position (f.available position n.toNat), v') ∧
      f.OpenOn v' handle (position + f.available position n.toNat)
  chunks : ∀ v handle position (ns : List U64), f.OpenOn v handle position →
    ∃ chunks v', readChunks v handle ns = .ok (chunks, v') ∧
      chunks.flatten = f.bytes position (f.available position (totalAsked ns)) ∧
      f.OpenOn v' handle (position + f.available position (totalAsked ns))

/-- What lies outside the range of the file makes no difference. -/
structure Confined : Prop where
  readAt : ∀ other (h : f.SameRange other) (offset n : U64),
    (f.onImage other h).part.readAt offset n.toNat = f.part.readAt offset n.toNat
  readFileAt : ∀ other (h : f.SameRange other) (offset n : U64),
    (f.onImage other h).volume.readFileAt f.entry offset n.toNat =
      f.volume.readFileAt f.entry offset n.toNat
  read : ∀ other (h : f.SameRange other) v v' handle position (n : U64),
    (f.onImage other h).OpenOn v handle position → f.OpenOn v' handle position →
      (v.read handle n.toNat).map Prod.fst = (v'.read handle n.toNat).map Prod.fst

end VolumeFile

/-- A read of a file moves the position when it succeeds, by the number of bytes returned, and
otherwise nothing is moved. -/
def ReadsMove : Prop :=
  ∀ (v : Vfs) (handle : VfsHandle) (file : FileSlot ByteSource VfsFileInfo) (n : U64),
    v.handleTable.getFile handle = .ok file → (∀ source, file.source = some source → Fills source) →
    (∀ bytes v', v.read handle n.toNat = .ok (bytes, v') →
      v'.handleTable.getFile handle =
        .ok { file with position := file.position + BitVec.ofNat 64 bytes.length }) ∧
    ∀ e, v.read handle n.toNat = .error e → usedFile handle v [.read n] = v

end Xblob.Interface
