import Xblob.Model.Formats.XdvdfsVolume
import Xblob.Model.Vfs.Vfs

/-!
# XDVDFS behind the virtual file system

The virtual file system sees a disc through an adapter, which turns entries into the information
records of files and opens a file as a part of the image.
-/

set_option autoImplicit false

namespace Xblob.Vfs

open Xblob.Formats Xblob.Io

/-- The null check every call begins with. -/
def requireVolume (volume : Option XdvdfsVolume) : Result XdvdfsVolume :=
  match volume with
  | none => .error { code := .invalidState, message := "XDVDFS volume is null" }
  | some volume => .ok volume

/-- The information record of an entry.
SOURCE: libs/vfs/include/xblob/vfs/xdvdfs_vfs_volume.hpp:25-31 -/
def entryInfo (volume : XdvdfsVolume) (entry : XdvdfsEntry) : VfsFileInfo where
  name := entry.name
  size := entry.fileSize.setWidth 64
  isDirectory := entry.isDirectory
  attributes := entry.attributes.setWidth 32
  creationTimestamp := volume.info.creationTimestamp

/-- The part of the image a file is, as the virtual file system reads it. -/
def subrangeSource (s : SubrangeByteSource) : ByteSource := ⟨s.readAt⟩

/-- `XdvdfsVfsVolume`. SOURCE: libs/vfs/include/xblob/vfs/xdvdfs_vfs_volume.hpp:10-75 -/
def xdvdfsVfsVolume (volume : Option XdvdfsVolume) : VfsVolume where
  queryInfo relativePath := do
    let volume ← requireVolume volume
    let entry ← volume.findEntry relativePath
    .ok (entryInfo volume entry)
  openFile relativePath := do
    let volume ← requireVolume volume
    let file ← volume.openPath relativePath
    .ok (some (subrangeSource file))
  listDirectory relativePath := do
    let volume ← requireVolume volume
    let entries ← volume.listDirectory relativePath
    .ok (entries.map fun entry =>
      { name := entry.name
        isDirectory := entry.isDirectory
        size := entry.fileSize.setWidth 64
        attributes := entry.attributes.setWidth 32 })

end Xblob.Vfs
