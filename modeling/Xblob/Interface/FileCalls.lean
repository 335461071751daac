import Mathlib.Data.Int.Notation
import Xblob.Interface.XbeLoads
import Xblob.Model.Kernel.FileServices

/-!
# Calls of the file services

What a move of a file position, a read into guest memory and an enumeration of a directory
have to come to, whatever the guest passes and whatever is mapped where it points.
-/

set_option autoImplicit false

namespace Xblob.Interface

open Xblob.Computation Xblob.Kernel Xblob.Memory Xblob.Vfs

variable {δ : Type}

/-- The position of an open file. -/
def positionOf (f : KernelFileServices) (handle : VfsHandle) : Option U64 :=
  f.vfs.bind fun vfs => (vfs.handleTable.getFile handle).toOption.map FileSlot.position

/-- The word in a bank. -/
def wordAt (space : AddressSpace δ) (c : Cell) : U32 :=
  let ptr := fun i => (space.rams c.1).data (c.2 + i)
  word32 (ptr 0) (ptr 1) (ptr 2) (ptr 3)

/-! ## Moves of a file position -/

/-- A call of `SetFilePointer` on an open file, with no pointer or one to RAM that may be read and
written. -/
structure SeekCall (δ : Type) where
  services : KernelFileServices
  vfs : Vfs
  mounted : services.vfs = some vfs
  handleVal : U32
  file : FileSlot ByteSource VfsFileInfo
  live : vfs.handleTable.getFile (fromU32 handleVal) = .ok file
  low : U32
  highPtr : GuestAddr
  moveMethod : U32
  origin : VfsSeekOrigin
  method : KernelFileServices.seekOrigin moveMethod = some origin
  memory : AddressSpace δ
  cell : Cell
  readable : highPtr ≠ 0 → blockAt memory highPtr 4 .read = some cell
  writable : highPtr ≠ 0 → blockAt memory highPtr 4 .write = some cell
  status : U32
  after : KernelFileServices
  memoryAfter : AddressSpace δ
  returns :
    ((services.setFilePointer handleVal low highPtr moveMethod).run answer).run memory =
      .ok (status, after) memoryAfter

namespace SeekCall

variable (c : SeekCall δ)

/-- The high dword of the distance. -/
def high : U32 := wordAt c.memory c.cell

/-- Where the move starts. -/
def start : ℕ :=
  match c.origin with
  | .begin => 0
  | .current => c.file.position.toNat
  | .end => (Vfs.fileSize c.file).toNat

/-- How far the guest asks to move. -/
def distance : ℤ :=
  if c.highPtr = 0 then c.low.toInt else c.high.toInt * 0x100000000 + c.low.toNat

/-- Where the move is to end. -/
def target : ℤ := c.start + c.distance

/-- The end of the move is a position. -/
def InRange : Prop := 0 ≤ c.target ∧ c.target < 0x8000000000000000

/-- Being in range is decidable. -/
instance : Decidable c.InRange := inferInstanceAs (Decidable (_ ∧ _))

/-- The file is at the end of the move, which is returned in two halves. -/
structure Moved : Prop where
  position : (positionOf c.after (fromU32 c.handleVal)).map BitVec.toNat = some c.target.toNat
  low : c.status.toNat = c.target.toNat % 0x100000000
  high : c.highPtr ≠ 0 → (wordAt c.memoryAfter c.cell).toNat = c.target.toNat / 0x100000000

/-- The call fails: the file and the high dword are as they were. -/
structure Failed : Prop where
  status : c.status = kInvalidHandleValue
  position : positionOf c.after (fromU32 c.handleVal) = positionOf c.services (fromU32 c.handleVal)
  memory : c.memoryAfter = c.memory

/-- The move is that of exact integers. -/
def Exact : Prop := if c.InRange then c.Moved else c.Failed

/-- The low half is not negative, or its sign is the high half. -/
def SignFits : Prop := c.highPtr = 0 ∨ c.low.msb = false ∨ c.high = 0xFFFFFFFF

/-- Where the low half alone leads when it is negative, at 64 bits. -/
def extended : ℤ :=
  (c.start + if c.low.msb then c.low.toInt else c.distance) % 0x10000000000000000

/-- A move to where the file is that returns what a failed call returns. -/
structure LooksFailed (target : ℤ) : Prop where
  here : target = c.file.position.toNat
  low : target % 0x100000000 = 0xFFFFFFFF
  high : c.highPtr ≠ 0 → (c.high.toNat : ℤ) = target / 0x100000000

/-- Where the move is that of exact integers: the sign of the low half does no harm, or the call
that should succeed fails and the other way round, and nobody can tell. -/
def Agrees : Prop :=
  if c.InRange then
    c.SignFits ∨ 0x8000000000000000 ≤ c.extended ∧ c.LooksFailed c.target
  else
    0x8000000000000000 ≤ c.extended ∨ c.LooksFailed c.extended

end SeekCall

/-! ## Reads -/

/-- A byte source keeps to its interface: it fills the destination or returns an error. -/
structure Fills (source : ByteSource) : Prop where
  length : ∀ offset n bytes, source.readAt offset n = .ok bytes → bytes.length = n
  error : ∀ offset n e, source.readAt offset n = .error e → e.code ≠ .ok

/-- The dword may be written: the address is in RAM, or in the window of a device that takes it. -/
def AcceptsWord (space : AddressSpace δ) (addr : GuestAddr) (v : U32) : Prop :=
  match space.resolveRegion addr 4 .write with
  | .error _ => False
  | .ok reg =>
    match reg.type with
    | .ram _ _ => True
    | .mmio handler => ∃ write devices, handler.write = some write ∧
        (write (addr - reg.base) .dword v).run space.devices = .ok () devices

/-- A call of `ReadFile`, on any handle and into any memory. -/
structure ReadCall (δ : Type) where
  services : KernelFileServices
  handleVal : U32
  bufferAddr : GuestAddr
  bytesToRead : U32
  bytesReadPtr : GuestAddr
  overlappedPtr : GuestAddr
  memory : AddressSpace δ
  sourced : ∀ vfs file, services.vfs = some vfs →
    vfs.handleTable.getFile (fromU32 handleVal) = .ok file →
      ∃ source, file.source = some source ∧ Fills source
  status : U32
  after : KernelFileServices
  memoryAfter : AddressSpace δ
  returns :
    ((services.readFile handleVal bufferAddr bytesToRead bytesReadPtr overlappedPtr).run answer).run
      memory = .ok (status, after) memoryAfter

namespace ReadCall

variable (c : ReadCall δ)

/-- The position of the file before. -/
def before : Option U64 := positionOf c.services (fromU32 c.handleVal)

/-- The position of the file after. -/
def afterwards : Option U64 := positionOf c.after (fromU32 c.handleVal)

/-- Nothing was read: the file is where it was, and memory is as it was but for the dword at the
pointer. -/
structure NothingRead : Prop where
  position : c.afterwards = c.before
  memory : c.memoryAfter = c.memory ∨ c.bytesReadPtr ≠ 0 ∧
    ∃ v, c.memoryAfter = stateAfter ((AddressSpace.write32 c.bytesReadPtr v).run c.memory)

/-- Bytes were read: they were stored in the buffer, the file moved past them, and their number was
written to the pointer. -/
structure BytesRead (bytes : List U8) : Prop where
  asked : bytes.length ≤ c.bytesToRead.toNat
  position : c.afterwards = c.before.map (· + BitVec.ofNat 64 bytes.length)
  stored : ∃ filled, (AddressSpace.writeBytes c.bufferAddr bytes).run c.memory = .ok () filled ∧
    if c.bytesReadPtr = 0 then c.memoryAfter = filled
    else (AddressSpace.write32 c.bytesReadPtr (BitVec.ofNat 32 bytes.length)).run filled =
      .ok () c.memoryAfter

/-- The read is atomic. -/
def Atomic : Prop :=
  if c.status = kNtStatusSuccess then ∃ bytes, c.BytesRead bytes else c.NothingRead

/-- The call gets past its checks. -/
structure Checked : Prop where
  synchronous : c.overlappedPtr = 0
  mounted : c.services.vfs.isSome
  pointer : c.bytesReadPtr = 0 ∨ c.memory.validateRange c.bytesReadPtr 4 .write = .ok ()
  buffer : c.memory.validateRange c.bufferAddr c.bytesToRead .write = .ok ()
  handle : (fromU32 c.handleVal).isValid = true

/-- The file has bytes at its position, and its source gives the ones that are due. -/
def Supplies (due : ℕ) : Prop :=
  ∃ vfs file source bytes, c.services.vfs = some vfs ∧
    vfs.handleTable.getFile (fromU32 c.handleVal) = .ok file ∧ file.source = some source ∧
    file.position < Vfs.fileSize file ∧
    due = min c.bytesToRead.toNat (Vfs.fileSize file - file.position).toNat ∧
    source.readAt file.position due = .ok bytes

/-- The number of bytes may be written to the pointer, if there is one. -/
def Reportable (n : ℕ) : Prop :=
  c.bytesReadPtr = 0 ∨ AcceptsWord c.memory c.bytesReadPtr (BitVec.ofNat 32 n)

/-- Where the read is atomic: when bytes are due the buffer is in RAM and their number may be
written to the pointer, and so may the zero of a read of no bytes. -/
def Agrees : Prop :=
  c.Checked → (c.bytesToRead = 0 → c.Reportable 0) ∧
    (c.bytesToRead ≠ 0 → ∀ due, c.Supplies due →
      (∃ cell, blockAt c.memory c.bufferAddr c.bytesToRead.toNat .write = some cell) ∧
        c.Reportable due)

end ReadCall

/-! ## File systems in use -/

/-- A call of the file system that changes it. -/
inductive FileSystemCall where
  | mount (mountAlias : ByteString) (volume : Option VfsVolume)
  | unmount (mountAlias : ByteString)
  | openFile (path : ByteString) (mode : VfsAccessMode)
  | openDirectory (path : ByteString)
  | close (handle : VfsHandle)
  | read (handle : VfsHandle) (n : ℕ)
  | seek (handle : VfsHandle) (offset : U64) (origin : VfsSeekOrigin)
  | reset

namespace FileSystemCall

/-- The file system a call returns. -/
def apply (v : Vfs) : FileSystemCall → Result Vfs
  | .mount mountAlias volume => v.mount mountAlias volume
  | .unmount mountAlias => v.unmount mountAlias
  | .openFile path mode => (v.openFile path mode).map Prod.snd
  | .openDirectory path => (v.openDirectory path).map Prod.snd
  | .close handle => v.close handle
  | .read handle n => (v.read handle n).map Prod.snd
  | .seek handle offset origin => (v.seek handle offset origin).map Prod.snd
  | .reset => .ok v.reset

/-- The file system after a call. -/
def next (v : Vfs) (call : FileSystemCall) : Vfs := ((call.apply v).toOption).getD v

end FileSystemCall

/-- A new file system after calls. -/
def fileSystemAfter (calls : List FileSystemCall) : Vfs := calls.foldl FileSystemCall.next {}

/-! ## Enumerations -/

/-- A buffer of the guest. -/
structure GuestBuffer where
  addr : GuestAddr
  length : U32

/-- A directory of a file system in use that was opened, and calls of `QueryDirectoryFile` one after
the other, each with a buffer in RAM that is large enough. -/
structure Enumeration (δ : Type) where
  calls : List FileSystemCall
  path : ByteString
  handle : VfsHandle
  vfs : Vfs
  opens : (fileSystemAfter calls).openDirectory path = .ok (handle, vfs)
  parsed : ParsedXboxPath
  parses : parseAndNormalizeXboxPath path = .ok parsed
  volume : VfsVolume
  resolves : (fileSystemAfter calls).resolveVolume parsed.mountAlias = .ok volume
  entries : List VfsDirEntry
  lists : volume.listDirectory parsed.relativePath = .ok entries
  buffer : ℕ → GuestBuffer
  cell : ℕ → Cell
  services : ℕ → KernelFileServices
  memory : ℕ → AddressSpace δ
  status : ℕ → U32
  served : services 0 = { vfs := some vfs }
  large : ∀ k, 28 ≤ (buffer k).length.toNat ∧
    ∀ e ∈ entries, 24 + e.name.length ≤ (buffer k).length.toNat
  inRam : ∀ k, blockAt (memory 0) (buffer k).addr (buffer k).length.toNat .write = some (cell k)
  returns : ∀ k, (((services k).queryDirectoryFile (toU32 handle) (buffer k).addr
    (buffer k).length).run answer).run (memory k) = .ok (status k, services (k + 1)) (memory (k + 1))

/-- The status with which an enumeration ends. -/
def kStatusNoMoreFiles : U32 := 0x80000006

namespace Enumeration

variable (r : Enumeration δ)

/-- The buffer of a call shows an entry: its size, its attributes and its name. -/
structure Shows (k : ℕ) (e : VfsDirEntry) : Prop where
  size : wordAt (r.memory (k + 1)) ((r.cell k).1, (r.cell k).2 + 8) = e.size.setWidth 32 ∧
    wordAt (r.memory (k + 1)) ((r.cell k).1, (r.cell k).2 + 12) = (e.size >>> 32).setWidth 32
  attributes : wordAt (r.memory (k + 1)) ((r.cell k).1, (r.cell k).2 + 16) =
    if e.isDirectory then 0x10 else 0x20
  nameLength : wordAt (r.memory (k + 1)) ((r.cell k).1, (r.cell k).2 + 20) =
    BitVec.ofNat 32 e.name.length
  name : bytesAt (r.memory (k + 1)) ((r.cell k).1, (r.cell k).2 + 24) e.name.length = e.name

/-- The calls return the entries in order, each once, and then that there are no more. -/
structure Complete : Prop where
  entry : ∀ k e, r.entries[k]? = some e → r.status k = kNtStatusSuccess ∧ r.Shows k e
  done : ∀ k, r.entries.length ≤ k → r.status k = kStatusNoMoreFiles

end Enumeration

end Xblob.Interface
