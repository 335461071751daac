import Xblob.Model.Common

/-!
# Paths of the virtual file system

A path of the guest names a volume, by a device or a drive letter, and a place on it.  A path
is a string of bytes; what is not a slash and not forbidden is kept as it is.
-/

set_option autoImplicit false

namespace Xblob.Vfs

/-- `std::string`, as the bytes in it. -/
abbrev ByteString := List U8

/-- The bytes of a text of the source. -/
def ascii (text : String) : ByteString := text.toList.map fun c => BitVec.ofNat 8 c.toNat

/-- `std::toupper` on a byte, in the C locale. -/
def toUpper (c : U8) : U8 := if 0x61 ≤ c ∧ c ≤ 0x7A then c - 0x20 else c

/-- `ToUpperAscii`. SOURCE: libs/vfs/src/vfs_path.cpp:10-17 -/
def toUpperAscii (s : ByteString) : ByteString := s.map toUpper

/-- `IsInvalidChar`. SOURCE: libs/vfs/src/vfs_path.cpp:19-25 -/
def isInvalidChar (c : U8) : Bool := c < 32 || (ascii "*?\"<>|:").contains c

/-- One of `/` and `\`. -/
def isSlash (c : U8) : Bool := c == 0x2F || c == 0x5C

/-- `ParsedXboxPath`. SOURCE: libs/vfs/src/vfs_path.hpp:10-13 -/
structure ParsedXboxPath where
  mountAlias : ByteString
  relativePath : ByteString
  deriving DecidableEq, Repr

/-- `Error{ErrorCode::InvalidPath, …}`. -/
def invalidPath {α : Type} (message : String) : Result α :=
  .error { code := .invalidPath, message := message }

/-- A component is complete. SOURCE: libs/vfs/src/vfs_path.cpp:99-107 -/
def pushComponent (normalized comp : ByteString) : Result ByteString :=
  if comp = [] then
    .ok normalized
  else if comp = ascii "." ∨ comp = ascii ".." then
    invalidPath "Path traversal forbidden in Xbox VFS path"
  else if normalized = [] then
    .ok comp
  else
    .ok (normalized ++ ascii "\\" ++ comp)

/-- The loop over what follows the volume: `comp` is the part of a component read so far.
SOURCE: libs/vfs/src/vfs_path.cpp:79-108 -/
def normalize (normalized comp : ByteString) : ByteString → Result ByteString
  | [] => pushComponent normalized comp
  | c :: remaining =>
    if isSlash c then
      match pushComponent normalized comp with
      | .error e => .error e
      | .ok normalized => normalize normalized [] remaining
    else if isInvalidChar c then
      invalidPath "Path contains invalid characters"
    else
      normalize normalized (comp ++ [c]) remaining

/-- What is before the first slash and what is behind it, when there is one. -/
def splitSlash (s : ByteString) : ByteString × Option ByteString :=
  match s.findIdx? isSlash with
  | none => (s, none)
  | some i => (s.take i, some (s.drop (i + 1)))

/-- The volume a path names, and what follows it. SOURCE: libs/vfs/src/vfs_path.cpp:38-75 -/
def splitVolume (remaining : ByteString) : Result (ByteString × ByteString) :=
  let (first, rest) := splitSlash remaining
  if toUpperAscii first = ascii "DEVICE" then
    match rest with
    | none => invalidPath "Incomplete device path"
    | some rest =>
      let (device, rest) := splitSlash rest
      let devName := toUpperAscii device
      .ok (if devName = ascii "CDROM0" then ascii "D" else ascii "DEVICE\\" ++ devName,
        rest.getD [])
  else if remaining[1]? = some 0x3A then
    let drive := toUpper (remaining.headD 0)
    if drive < 0x41 ∨ drive > 0x5A then
      invalidPath "Invalid drive letter"
    else
      .ok ([drive], remaining.drop 2)
  else
    .ok (ascii "D", remaining)

/-- `ParseAndNormalizeXboxPath`. SOURCE: libs/vfs/src/vfs_path.cpp:29-114 -/
def parseAndNormalizeXboxPath (rawPath : ByteString) : Result ParsedXboxPath :=
  match rawPath with
  | [] => invalidPath "Xbox path is empty"
  | c :: rest =>
    match splitVolume (if isSlash c then rest else rawPath) with
    | .error e => .error e
    | .ok (mountAlias, remaining) =>
      match normalize [] [] remaining with
      | .error e => .error e
      | .ok relativePath => .ok { mountAlias := mountAlias, relativePath := relativePath }

end Xblob.Vfs
