import Xblob.Model.Io.BinaryReader

/-!
# Parts of a byte source

`SubrangeByteSource` is a byte source of its own: the bytes of another one in a range that was
checked when it was made.
-/

set_option autoImplicit false

namespace Xblob.Io

/-- `SubrangeByteSource`. SOURCE: libs/io/include/xblob/io/subrange_byte_source.hpp:13-36 -/
structure SubrangeByteSource where
  parent : ByteSource
  baseOffset : U64
  size : U64

namespace SubrangeByteSource

/-- `Create`. SOURCE: libs/io/src/subrange_byte_source.cpp:10-22 -/
def create (parent : Option ByteSource) (baseOffset size : U64) : Result SubrangeByteSource :=
  match parent with
  | none =>
    .error { code := .invalidArgument, message := "Parent ByteSource cannot be null" }
  | some parent =>
    if !rangeInBounds baseOffset size parent.size then
      .error { code := .outOfBounds, message := "Subrange exceeds parent ByteSource bounds"
               offset := baseOffset }
    else
      .ok { parent, baseOffset, size }

/-- `ReadAt` into a destination of `n` bytes.
SOURCE: libs/io/src/subrange_byte_source.cpp:24-39 -/
def readAt (s : SubrangeByteSource) (offset : U64) (n : ℕ) : Result (List U8) :=
  if n = 0 then
    .ok []
  else if !rangeInBounds offset (BitVec.ofNat 64 n) s.size then
    .error { code := .outOfBounds, message := "Read out of subrange bounds", offset := offset }
  else
    match checkedAdd s.baseOffset offset with
    | none => .error { code := .integerOverflow, message := "Subrange offset overflowed" }
    | some parentOffset => s.parent.readAt parentOffset n

end SubrangeByteSource

end Xblob.Io
