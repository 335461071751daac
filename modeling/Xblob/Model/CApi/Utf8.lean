import Xblob.Model.Common

/-!
# UTF-8 at the C boundary

The check of a path or a text that a caller of the C interface passes.  The memory that starts at
the pointer is a list; a read where it ends has no result.
-/

set_option autoImplicit false

namespace Xblob.CApi

/-- One of the bytes, read in this order up to the first, has not the form `10xxxxxx`. -/
def breaks (data : List U8) : List ℕ → Option Bool
  | [] => some false
  | j :: rest => do
    let b ← data[j]?
    if b &&& 0xC0 ≠ 0x80 then pure true else breaks data rest

/-- The loop of `is_valid_utf8`, from an index on. -/
def validFrom (data : List U8) (length i : ℕ) : Option Bool :=
  if h : i < length then do
    let b0 ← data[i]?
    if b0 ≤ 0x7F then validFrom data length (i + 1)
    else if b0 &&& 0xE0 = 0xC0 then
      if i + 1 ≥ length then pure false
      else if ← breaks data [i + 1] then pure false
      else if b0 < 0xC2 then pure false
      else validFrom data length (i + 2)
    else if b0 &&& 0xF0 = 0xE0 then
      if i + 2 ≥ length then pure false
      else if ← breaks data [i + 1, i + 2] then pure false
      else
        let b1 ← data[i + 1]?
        if b0 = 0xE0 ∧ b1 < 0xA0 then pure false
        else if b0 = 0xED ∧ b1 ≥ 0xA0 then pure false
        else validFrom data length (i + 3)
    else if b0 &&& 0xF8 = 0xF0 then
      if i + 3 ≥ length then pure false
      else if ← breaks data [i + 1, i + 2, i + 3] then pure false
      else
        let b1 ← data[i + 1]?
        if b0 = 0xF0 ∧ b1 < 0x90 then pure false
        else if b0 = 0xF4 ∧ b1 > 0x8F then pure false
        else validFrom data length (i + 4)
    else pure false
  else some true
termination_by length - i

/-- `is_valid_utf8`. SOURCE: libs/c_api/src/c_api.cpp:22-56 -/
def isValidUtf8 (data : List U8) (length : ℕ) : Option Bool := validFrom data length 0

end Xblob.CApi
