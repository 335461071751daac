import Mathlib.Algebra.Order.Ring.Nat
import Xblob.Computation.Utf8
import Xblob.Model.Kernel.DebugSink

/-!
# What the debug sink is to store

The lines of the sink are text: encodings of characters none of which is a control character, but
for the ones that lay out a line.  What the sink stores is to stay within its bounds, and what it
counts is to be what it stores.
-/

set_option autoImplicit false

namespace Xblob.Interface

open Xblob.Computation Xblob.Computation.Utf8 Xblob.Kernel Xblob.Kernel.BufferedDebugSink Xblob.Vfs

/-- A character that a line may have: newline, carriage return, tab, or none of the controls. -/
def Storable (c : Char) : Prop :=
  c = '\n' ∨ c = '\r' ∨ c = '\t' ∨ (0x20 ≤ c.toNat ∧ ¬ (0x7F ≤ c.toNat ∧ c.toNat ≤ 0x9F))

/-- Being storable is decidable. -/
instance : DecidablePred Storable := fun _ => inferInstanceAs (Decidable (_ ∨ _))

/-- The bytes of a character that a line may have. -/
def StorableBytes (s : ByteString) : Prop := ∃ c, Storable c ∧ encodeScalar c = s

/-- Well-formed UTF-8 whose characters a line may have. -/
def PlainText (l : ByteString) : Prop := ∃ cs : List Char, (∀ c ∈ cs, Storable c) ∧
  cs.flatMap encodeScalar = l

/-- The bytes of the sink are those of its lines, and both are within the bounds. -/
structure Accounted (s : BufferedDebugSink) : Prop where
  total : s.totalBytes = (s.lines.map List.length).sum
  bytes : s.totalBytes ≤ s.maxBytes
  count : s.lines.length ≤ s.maxLines

/-- The sink keeps its accounts, and its lines are text. -/
structure SinkSound (s : BufferedDebugSink) : Prop extends Accounted s where
  text : ∀ line ∈ s.lines, PlainText line

/-- A sink after messages. -/
def sinkAfter (maxLines maxBytes : ℕ) (messages : List ByteString) : BufferedDebugSink :=
  messages.foldl outputDebugString { maxLines, maxBytes }

/-- Every sequence that the check of a message lets through and that begins within `budget` bytes
encodes a character that a line may have, and ends within them.  The first `pending` bytes are
still part of a sequence before. -/
def SequencesStorable : ℕ → ℕ → ByteString → Prop
  | _, _, [] => True
  | pending + 1, budget, _ :: rest => SequencesStorable pending budget rest
  | 0, 0, _ :: _ => True
  | 0, budget + 1, c :: rest =>
    if c ≥ 0xC0 ∧ continues (sequenceLength c) rest then
      sequenceLength c ≤ budget + 1 ∧ StorableBytes ((c :: rest).take (sequenceLength c)) ∧
        SequencesStorable (sequenceLength c - 1) (budget + 1 - sequenceLength c) rest
    else
      SequencesStorable 0 budget rest

end Xblob.Interface
