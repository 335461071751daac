import Xblob.Computation.Utf8
import Xblob.Model.CApi.Utf8

/-!
# What the check of UTF-8 is to accept

A string in memory is accepted when it is well formed, whatever comes after it, and nothing after
it is read.
-/

set_option autoImplicit false

namespace Xblob.Interface

open Xblob.CApi Xblob.Computation Xblob.Computation.Utf8

/-- The check of a string is exact: it has an answer without a byte after the string, the answer is
the same before any other bytes, and it is that the string is well formed. -/
structure ExactOn (l : List U8) : Prop where
  inside : (isValidUtf8 l l.length).isSome
  regardless : ∀ rest, isValidUtf8 (l ++ rest) l.length = isValidUtf8 l l.length
  exact : isValidUtf8 l l.length = some true ↔ WellFormed l

/-- A first byte of four-byte sequences above all scalar values. -/
def BeyondLead (b : U8) : Prop := 0xF5 ≤ b.toNat ∧ b.toNat ≤ 0xF7

/-- A string that would be well formed if scalar values went on above the last of them, and has a
sequence from there. -/
def GoesBeyond (l : List U8) : Prop :=
  Concatenation (Sequence 0xF7) l ∧ ∃ b ∈ l, BeyondLead b

end Xblob.Interface
