import Xblob.Model.Common

/-!
# Byte sources and the reader over them

A byte source has a size and can be read at an offset; files, vectors and parts of other
sources are byte sources.  `BinaryReader` reads a source from a cursor on.  A read that fails
leaves the cursor where it was.
-/

set_option autoImplicit false

namespace Xblob.Io

/-- `RangeInBounds`. SOURCE: libs/common/include/xblob/common/safe_math.hpp:37-43 -/
def rangeInBounds {w : ℕ} (offset size totalSize : BitVec w) : Bool :=
  match checkedAdd offset size with
  | none => false
  | some stop => stop ≤ totalSize

/-- `ByteSource`: a read fills the whole destination or fails.
SOURCE: libs/io/include/xblob/io/byte_source.hpp:13-20 -/
structure ByteSource where
  size : U64
  readAt : U64 → ℕ → Result (List U8)
  length_readAt : ∀ {offset : U64} {n : ℕ} {bytes : List U8},
    readAt offset n = .ok bytes → bytes.length = n

/-- `MemoryByteSource` and `VectorByteSource`.
SOURCE: libs/io/include/xblob/io/byte_source.hpp:22-75 -/
def memorySource (data : List U8) : ByteSource where
  size := BitVec.ofNat 64 data.length
  readAt offset n :=
    if offset.toNat + n > (BitVec.ofNat 64 data.length).toNat then
      .error { code := .outOfBounds, message := "Leitura fora dos limites do buffer"
               offset := offset }
    else
      .ok ((data.drop offset.toNat).take n)
  length_readAt := by
    intro offset n bytes h
    split at h
    · cases h
    next hfits =>
      cases h
      have hsize : (BitVec.ofNat 64 data.length).toNat ≤ data.length := by
        rw [BitVec.toNat_ofNat]
        exact Nat.mod_le _ _
      rw [List.length_take, List.length_drop]
      omega

/-- A computation of the reader: the state is the cursor. -/
abbrev Reader := EStateM Error U64

namespace BinaryReader

variable (source : ByteSource)

/-- `Seek`. SOURCE: libs/io/src/binary_reader.cpp:19-25 -/
def seek (offset : U64) : Reader Unit :=
  if offset > source.size then
    throw { code := .outOfBounds, message := "Offset além do tamanho da fonte de bytes"
            offset := offset }
  else
    set offset

/-- `has_remaining`. SOURCE: libs/io/src/binary_reader.cpp:11-17 -/
def hasRemaining (cursor count : U64) : Bool := rangeInBounds cursor count source.size

/-- `ReadExact` into a destination of `n` bytes. SOURCE: libs/io/src/binary_reader.cpp:36-53 -/
def readExact (n : ℕ) : Reader (List U8) := do
  if n = 0 then
    pure []
  else
    let cursor ← get
    if !hasRemaining source cursor (BitVec.ofNat 64 n) then
      throw { code := .unexpectedEof
              message := "Fim prematuro dos dados durante leitura de bloco binário"
              offset := cursor }
    else
      let bytes ← ofExcept (source.readAt cursor n)
      set (cursor + BitVec.ofNat 64 n)
      pure bytes

/-- `ReadU8`. SOURCE: libs/io/src/binary_reader.cpp:55-62 -/
def readU8 : Reader U8 := do
  let buf ← readExact source 1
  pure (buf.getD 0 0)

/-- `ReadU16LE`. SOURCE: libs/io/src/binary_reader.cpp:64-72 -/
def readU16LE : Reader U16 := do
  let buf ← readExact source 2
  pure (word16 (buf.getD 0 0) (buf.getD 1 0))

/-- `ReadU32LE`. SOURCE: libs/io/src/binary_reader.cpp:74-83 -/
def readU32LE : Reader U32 := do
  let buf ← readExact source 4
  pure (word32 (buf.getD 0 0) (buf.getD 1 0) (buf.getD 2 0) (buf.getD 3 0))

end BinaryReader

/-- A read whose failure is not an error of the caller. -/
def attempt {α : Type} (x : Reader α) : Reader (Option α) := fun cursor =>
  match x.run cursor with
  | .ok a cursor' => .ok (some a) cursor'
  | .error _ cursor' => .ok none cursor'

end Xblob.Io
