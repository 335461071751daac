import Xblob.Model.Vfs.Path

/-!
# The debug sink

What the guest prints is kept in a bounded list of lines; the oldest make room.
-/

set_option autoImplicit false

namespace Xblob.Kernel

open Xblob.Vfs

/-- `BufferedDebugSink`. SOURCE: libs/kernel/include/xblob/kernel/debug_sink.hpp:19-40 -/
structure BufferedDebugSink where
  maxLines : ℕ := 1000
  maxBytes : ℕ := 64 * 1024
  lines : List ByteString := []
  totalBytes : ℕ := 0
  droppedCount : U64 := 0
  deriving DecidableEq, Repr

namespace BufferedDebugSink

/-- The length of the sequence that a byte from 0xC0 on announces.
SOURCE: libs/kernel/src/debug_sink.cpp:22-28 -/
def sequenceLength (c : U8) : ℕ :=
  if c &&& 0xE0 = 0xC0 then 2
  else if c &&& 0xF0 = 0xE0 then 3
  else if c &&& 0xF8 = 0xF0 then 4
  else 0

/-- The bytes behind a first byte that continue its sequence.
SOURCE: libs/kernel/src/debug_sink.cpp:31-38 -/
def continues (seqLen : ℕ) (rest : ByteString) : Bool :=
  decide (0 < seqLen) && decide (seqLen - 1 ≤ rest.length) &&
    (rest.take (seqLen - 1)).all fun b => b &&& 0xC0 == 0x80

/-- The loop of `SanitizeString`; `pending` bytes are still part of a valid sequence.
SOURCE: libs/kernel/src/debug_sink.cpp:15-52 -/
def sanitizeFrom : ℕ → ByteString → ByteString
  | _, [] => []
  | pending + 1, c :: rest => c :: sanitizeFrom pending rest
  | 0, c :: rest =>
    if c = 0x0A ∨ c = 0x0D ∨ c = 0x09 ∨ (0x20 ≤ c ∧ c ≤ 0x7E) then
      c :: sanitizeFrom 0 rest
    else if c ≥ 0xC0 ∧ continues (sequenceLength c) rest then
      c :: sanitizeFrom (sequenceLength c - 1) rest
    else
      0x3F :: sanitizeFrom 0 rest

/-- `SanitizeString`. SOURCE: libs/kernel/src/debug_sink.cpp:11-54 -/
def sanitizeString (raw : ByteString) : ByteString := sanitizeFrom 0 raw

/-- The lines that make room, oldest first. SOURCE: libs/kernel/src/debug_sink.cpp:61-66 -/
def dropLines (s : BufferedDebugSink) (n : ℕ) : List ByteString → BufferedDebugSink
  | [] => { s with lines := [] }
  | line :: rest =>
    if rest.length + 1 ≥ s.maxLines ∨ s.totalBytes + n > s.maxBytes then
      dropLines
        { s with totalBytes := s.totalBytes - line.length, droppedCount := s.droppedCount + 1 }
        n rest
    else
      { s with lines := line :: rest }

/-- `OutputDebugString`. SOURCE: libs/kernel/src/debug_sink.cpp:56-74 -/
def outputDebugString (s : BufferedDebugSink) (message : ByteString) : BufferedDebugSink :=
  let sanitized := sanitizeString message
  if sanitized = [] then
    s
  else
    let s := s.dropLines sanitized.length s.lines
    let line := sanitized.take s.maxBytes
    { s with totalBytes := s.totalBytes + line.length, lines := s.lines ++ [line] }

end BufferedDebugSink

end Xblob.Kernel
