import Mathlib.Data.Int.Notation
import Xblob.Model.Gpu.Types

/-!
# Floating-point arithmetic

What the machine computes for the operations on floats that the engine uses.  A conversion to an
integer that C++ leaves undefined is whatever the machine makes of it.
-/

set_option autoImplicit false

namespace Xblob.Gpu

/-- The operations on `float` and `double`, on bit patterns. -/
structure FloatUnit where
  add : F32 → F32 → F32
  sub : F32 → F32 → F32
  mul : F32 → F32 → F32
  div : F32 → F32 → F32
  /-- `<` -/
  lt : F32 → F32 → Bool
  /-- `<=` -/
  le : F32 → F32 → Bool
  round : F32 → F32
  floor : F32 → F32
  ceil : F32 → F32
  /-- `static_cast<float>` of an unsigned integer -/
  ofU32 : U32 → F32
  /-- `static_cast<u32>` -/
  toU32 : F32 → U32
  /-- `static_cast<u8>` -/
  toU8 : F32 → U8
  /-- `static_cast<int>` -/
  toInt : F32 → ℤ
  /-- `static_cast<i64>` -/
  toI64 : F32 → ℤ
  /-- `static_cast<double>` of an integer -/
  ofI64 : ℤ → F64
  /-- the value of a `float` as a `double` -/
  widen : F32 → F64
  /-- `static_cast<float>` of a `double` -/
  narrow : F64 → F32
  addD : F64 → F64 → F64
  mulD : F64 → F64 → F64
  divD : F64 → F64 → F64

namespace F32

def zero : F32 := 0
/-- `255.0f` -/
def n255 : F32 := 0x437F0000
/-- `16.0f` -/
def n16 : F32 := 0x41800000
/-- `1e-6f` -/
def epsilon : F32 := 0x358637BD
/-- `1e-9f` -/
def tiny : F32 := 0x3089705F

/-- `std::abs`: the sign is cleared. -/
def abs (f : F32) : F32 := f &&& 0x7FFFFFFF

end F32

/-- `1.0`, a `double`. -/
def F64.one : F64 := 0x3FF0000000000000

namespace FloatUnit

variable (fp : FloatUnit)

/-- `std::min`: the second if it is less. -/
def min (a b : F32) : F32 := if fp.lt b a then b else a

/-- `std::max`: the second if the first is less. -/
def max (a b : F32) : F32 := if fp.lt a b then b else a

/-- `std::clamp` -/
def clamp (v lo hi : F32) : F32 := if fp.lt v lo then lo else if fp.lt hi v then hi else v

/-- A byte as a float. -/
def ofU8 (b : U8) : F32 := fp.ofU32 (b.setWidth 32)

end FloatUnit

end Xblob.Gpu
