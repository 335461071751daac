import Mathlib.Logic.Function.Basic
import Mathlib.Tactic.Common

/-!
# The vocabulary every subsystem of the emulator shares

`libs/common` fixes the machine integers, the error record and the `Result` type
that every fallible function of the emulator returns.  A machine integer is a
bit vector of its width, so that wrap-around is the emulator's own.

A C++ function that takes an object by reference and returns a `Result` may
change the object and still fail: the state after an error is whatever the
function had made of it.  `EStateM Error σ` is exactly that shape, a state
transformer whose error result carries the state too.

Where a function returns its errors before it changes anything, or takes back what it
has changed, an error leaves the object as it was, and the function is a plain `Result`
of the object it makes.  Such are the functions of `VirtualMemoryManager`, `GuestHeap`,
the kernel's objects and threads, the tables of handles, the file system, the bus and
the base address registers, and `MapRam` and `MapMmio` of `AddressSpace`.
-/

set_option autoImplicit false

namespace Xblob

/-- `uint8_t`. -/
abbrev U8 := BitVec 8
/-- `uint16_t`. -/
abbrev U16 := BitVec 16
/-- `uint32_t`. -/
abbrev U32 := BitVec 32
/-- `uint64_t`. -/
abbrev U64 := BitVec 64

/-- A guest address (`GuestAddr`), 32 bits wide. -/
abbrev GuestAddr := U32

/-- A guest size (`GuestSize`), 32 bits wide. -/
abbrev GuestSize := U32

/-- A count of machine cycles (`Cycle`). -/
abbrev Cycle := U64

/-- The error codes of the emulator.
SOURCE: libs/common/include/xblob/common/error.hpp:10-58 -/
inductive ErrorCode where
  | ok
  | fileNotFound | accessDenied | ioError | unexpectedEof | invalidPath | notADirectory
  | isADirectory | invalidHandle | readOnlyFileSystem
  | invalidMagic | unknownFormat | truncatedData | integerOverflow | outOfBounds
  | invalidHeader | invalidField
  | unsupportedFormat | unsupportedFeature
  | unmappedAddress | accessViolation | regionOverlap | invalidCapacity
  | unsupportedAccessSize
  | pastCycle | eventNotFound | limitReached
  | invalidOpcode | generalProtection | segmentNotPresent | executionFault | cpuHalted
  | invalidArgument | invalidState | internalError
  deriving DecidableEq, Repr

/-- An error: its code, its text and the offset or address it is about.
SOURCE: libs/common/include/xblob/common/error.hpp:68-73 -/
structure Error where
  code : ErrorCode
  message : String := ""
  offset : U64 := 0
  deriving DecidableEq, Repr

/-- `Result<T>`: a value or an error.
SOURCE: libs/common/include/xblob/common/result.hpp -/
abbrev Result (α : Type) := Except Error α

/-- `CheckedAdd`: the sum of two unsigned integers, if it fits.
SOURCE: libs/common/include/xblob/common/safe_math.hpp:10-16 -/
def checkedAdd {w : ℕ} (a b : BitVec w) : Option (BitVec w) :=
  if a.toNat > (BitVec.allOnes w).toNat - b.toNat then none else some (a + b)

/-- `CheckedMul`: the product of two unsigned integers, if it fits.
SOURCE: libs/common/include/xblob/common/safe_math.hpp:28-34 -/
def checkedMul {w : ℕ} (a b : BitVec w) : Option (BitVec w) :=
  if a ≠ 0 ∧ b > BitVec.allOnes w / a then none else some (a * b)

/-- Little-endian assembly of two bytes. -/
def word16 (b0 b1 : U8) : U16 :=
  b0.setWidth 16 ||| (b1.setWidth 16 <<< 8)

/-- Little-endian assembly of four bytes. -/
def word32 (b0 b1 b2 b3 : U8) : U32 :=
  b0.setWidth 32 ||| (b1.setWidth 32 <<< 8) ||| (b2.setWidth 32 <<< 16) |||
    (b3.setWidth 32 <<< 24)

/-- Byte `i` of a machine integer, counted from the least significant one. -/
def byteOf {w : ℕ} (v : BitVec w) (i : ℕ) : U8 :=
  ((v >>> (8 * i)) &&& 0xff).setWidth 8

end Xblob
