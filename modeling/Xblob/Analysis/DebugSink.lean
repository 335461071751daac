import Mathlib.Data.List.Induction
import Xblob.Interface.DebugSink

/-!
# The debug sink keeps its accounts, and text unless a sequence is none

Dropping lines and cutting the new one keep the sink within its bounds.  The check of a message
looks only at the highest bits of the bytes of a sequence, and the cut comes after it.
-/

set_option autoImplicit false

namespace Xblob.Analysis

open Xblob.Computation Xblob.Computation.Utf8 Xblob.Interface Xblob.Kernel
open Xblob.Kernel.BufferedDebugSink Xblob.Vfs

variable {c : U8} {rest raw : ByteString} {s : BufferedDebugSink}

/-! ## Text -/

/-- The lead byte of what may be stored tells its length. -/
theorem storableBytes_selfDelimiting : SelfDelimiting StorableBytes leadLength := by
  rintro s ⟨c, -, rfl⟩
  exact sequence_selfDelimiting 0xF4 _ (encodeScalar_sequence c)

/-- Plain text is a concatenation of storable sequences. -/
theorem plainText_iff (l : ByteString) : PlainText l ↔ Concatenation StorableBytes l := by
  constructor
  · rintro ⟨cs, hcs, rfl⟩
    refine ⟨cs.map encodeScalar, ?_, List.flatMap_def.symm⟩
    intro s hs
    obtain ⟨c, hc, rfl⟩ := List.mem_map.1 hs
    exact ⟨c, hcs c hc, rfl⟩
  · rintro ⟨parts, hparts, rfl⟩
    induction parts with
    | nil => exact ⟨[], by simp⟩
    | cons s rest ih =>
      rw [List.forall_mem_cons] at hparts
      obtain ⟨⟨c, hc, rfl⟩, hrest⟩ := hparts
      obtain ⟨cs, hcs, heq⟩ := ih hrest
      refine ⟨c :: cs, ?_, ?_⟩
      · rw [List.forall_mem_cons]
        exact ⟨hc, hcs⟩
      · rw [List.flatMap_cons, heq, List.flatten_cons]

/-- A byte that the sink stores by itself. -/
theorem storableBytes_single
    (hc : c = 0x0A ∨ c = 0x0D ∨ c = 0x09 ∨ (0x20 ≤ c ∧ c ≤ 0x7E)) : StorableBytes [c] := by
  have hle : c.toNat ≤ 0x7E := by
    rcases hc with rfl | rfl | rfl | ⟨-, hle⟩
    · decide
    · decide
    · decide
    · exact hle
  obtain ⟨x, hx⟩ := exists_scalar (v := c.toNat) (by omega)
  refine ⟨x, ?_, ?_⟩
  · rcases hc with rfl | rfl | rfl | ⟨hge, -⟩
    · exact .inl (Char.toNat_inj.1 hx)
    · exact .inr (.inl (Char.toNat_inj.1 hx))
    · exact .inr (.inr (.inl (Char.toNat_inj.1 hx)))
    · have hge' : 0x20 ≤ c.toNat := hge
      exact .inr (.inr (.inr (by omega)))
  · have hval : x.val.toNat = c.toNat := hx
    unfold encodeScalar String.utf8EncodeChar
    dsimp only
    rw [hval, if_pos (by omega), List.map_singleton, word_eq (a := c) (by omega)]

/-- A byte that the sink stores by itself is a first byte of one. -/
theorem leadLength_single (hc : c.toNat ≤ 0x7E) : leadLength c = 1 := if_pos (by omega)

/-- The sink and the grammar take the same length from a first byte. -/
theorem leadLength_sequence (hc : c ≥ 0xC0) (hpos : 0 < sequenceLength c) :
    leadLength c = sequenceLength c := by
  revert c
  decide

/-! ## The check of a message -/

/-- Bytes pending of a sequence before are stored as they are. -/
theorem sanitizeFrom_pending (pending : ℕ) (raw : ByteString) :
    sanitizeFrom pending raw = raw.take pending ++ sanitizeFrom 0 (raw.drop pending) := by
  induction pending generalizing raw with
  | zero => simp
  | succ pending ih =>
    cases raw with
    | nil => simp [sanitizeFrom]
    | cons c rest => simp [sanitizeFrom, ih rest]

/-- Bytes pending of a sequence before are passed over. -/
theorem sequencesStorable_pending (pending budget : ℕ) (raw : ByteString) :
    SequencesStorable pending budget raw ↔ SequencesStorable 0 budget (raw.drop pending) := by
  induction pending generalizing raw with
  | zero => simp
  | succ pending ih =>
    cases raw with
    | nil => simp [SequencesStorable]
    | cons c rest => simpa [SequencesStorable] using ih rest

/-- What the check makes of the first byte of a message: a byte that is stored by itself stands for
it, or a sequence is let through. -/
theorem sanitizeFrom_cases (c : U8) (rest : ByteString) :
    (∃ b, StorableBytes [b] ∧ b.toNat ≤ 0x7E ∧
      sanitizeFrom 0 (c :: rest) = b :: sanitizeFrom 0 rest ∧
      ∀ budget, SequencesStorable 0 (budget + 1) (c :: rest) ↔ SequencesStorable 0 budget rest) ∨
    ∃ n, n + 1 = leadLength c ∧ n + 1 = sequenceLength c ∧ n ≤ rest.length ∧
      c ≥ 0xC0 ∧ continues (sequenceLength c) rest ∧
      sanitizeFrom 0 (c :: rest) = c :: sanitizeFrom n rest := by
  by_cases hplain : c = 0x0A ∨ c = 0x0D ∨ c = 0x09 ∨ (0x20 ≤ c ∧ c ≤ 0x7E)
  · have hsmall : c.toNat ≤ 0x7E := by
      rcases hplain with rfl | rfl | rfl | ⟨-, hle⟩
      · decide
      · decide
      · decide
      · exact hle
    refine .inl ⟨c, storableBytes_single hplain, hsmall, ?_, fun budget => ?_⟩
    · rw [sanitizeFrom, if_pos hplain]
    · have hlead : ¬ c ≥ 0xC0 := fun hge => by
        have hge' : 0xC0 ≤ c.toNat := hge
        omega
      rw [SequencesStorable, if_neg (fun h => hlead h.1)]
  · by_cases hsequence : c ≥ 0xC0 ∧ continues (sequenceLength c) rest
    · have hcontinues := hsequence.2
      simp only [continues, Bool.and_eq_true, decide_eq_true_eq] at hcontinues
      obtain ⟨⟨hpos, hlen⟩, -⟩ := hcontinues
      refine .inr ⟨sequenceLength c - 1, ?_, by omega, hlen, hsequence.1, hsequence.2, ?_⟩
      · rw [leadLength_sequence hsequence.1 hpos]
        omega
      · rw [sanitizeFrom, if_neg hplain, if_pos hsequence]
    · refine .inl ⟨0x3F, storableBytes_single (by decide), by decide, ?_, fun budget => ?_⟩
      · rw [sanitizeFrom, if_neg hplain, if_neg hsequence]
      · rw [SequencesStorable, if_neg hsequence]

/-- The start of a checked message is text exactly if the sequences in it are characters that a
line may have. -/
theorem concatenation_take_sanitize (raw : ByteString) (budget : ℕ) :
    Concatenation StorableBytes ((sanitizeFrom 0 raw).take budget) ↔
      SequencesStorable 0 budget raw := by
  -- on the length of the message, as a sequence takes more than its first byte
  induction hlen : raw.length using Nat.strongRecOn generalizing raw budget with
  | ind len ih =>
    cases raw with
    | nil => simp [sanitizeFrom, SequencesStorable, concatenation_nil]
    | cons c rest =>
      cases budget with
      | zero => simp [SequencesStorable, concatenation_nil]
      | succ budget =>
        rw [List.length_cons] at hlen
        obtain ⟨b, hb, hsmall, hfirst, hstorable⟩ | ⟨n, hlead, hn, hrest, hc, hcont, hfirst⟩ :=
          sanitizeFrom_cases c rest
        · rw [hfirst, hstorable, List.take_succ_cons,
            concatenation_cons_iff storableBytes_selfDelimiting, leadLength_single hsmall,
            List.take_succ_cons, List.take_zero, List.drop_succ_cons, List.drop_zero,
            ih rest.length (by omega) rest budget rfl]
          exact and_iff_right hb
        · have hwhole : c :: sanitizeFrom n rest =
              (c :: rest).take (n + 1) ++ sanitizeFrom 0 (rest.drop n) := by
            rw [sanitizeFrom_pending, List.take_succ_cons, List.cons_append]
          have hword : ((c :: rest).take (n + 1)).length = n + 1 := by simp [hrest]
          have hmore : Concatenation StorableBytes
              ((sanitizeFrom 0 (rest.drop n)).take (budget + 1 - (n + 1))) ↔
              SequencesStorable 0 (budget + 1 - (n + 1)) (rest.drop n) :=
            ih (rest.drop n).length (by simp; omega) _ _ rfl
          rw [SequencesStorable, if_pos ⟨hc, hcont⟩, ← hn, Nat.add_sub_cancel,
            sequencesStorable_pending, ← hmore, hfirst, List.take_succ_cons,
            concatenation_cons_iff storableBytes_selfDelimiting, ← hlead, ← List.take_succ_cons,
            hwhole]
          by_cases hcut : n + 1 ≤ budget + 1
          · rw [List.take_take, Nat.min_eq_left hcut, List.take_left' hword, List.drop_take,
              List.drop_left' hword]
            exact (and_iff_right hcut).symm
          · -- the sequence is cut, and shorter than its first byte tells
            constructor
            · rintro ⟨hshort, -⟩
              obtain ⟨a, t, heq, hlen'⟩ := storableBytes_selfDelimiting _ hshort
              rw [← hwhole, List.take_succ_cons, List.take_succ_cons] at heq
              obtain ⟨rfl, -⟩ := List.cons.inj heq
              rw [← hlead, List.length_take, List.length_take] at hlen'
              omega
            · rintro ⟨hle, -⟩
              exact absurd hle hcut

/-! ## Room for a line -/

/-- A sink whose oldest lines have made room for `n` bytes. -/
structure MadeRoom (s r : BufferedDebugSink) (n : ℕ) : Prop where
  maxLines : r.maxLines = s.maxLines
  maxBytes : r.maxBytes = s.maxBytes
  total : r.totalBytes = (r.lines.map List.length).sum
  room : r.lines = [] ∨ (r.lines.length < r.maxLines ∧ r.totalBytes + n ≤ r.maxBytes)

/-- Dropping lines leaves a suffix of them, with the room counted. -/
theorem dropLines_madeRoom (s : BufferedDebugSink) (n : ℕ) (lines : List ByteString)
    (htotal : s.totalBytes = (lines.map List.length).sum) :
    MadeRoom s (s.dropLines n lines) n ∧ (s.dropLines n lines).lines <:+ lines := by
  induction lines generalizing s with
  | nil => exact ⟨⟨rfl, rfl, htotal, .inl rfl⟩, List.suffix_rfl⟩
  | cons line rest ih =>
    rw [List.map_cons, List.sum_cons] at htotal
    rw [dropLines]
    split
    · obtain ⟨hroom, hsuffix⟩ := ih
        { s with totalBytes := s.totalBytes - line.length, droppedCount := s.droppedCount + 1 }
        (by show s.totalBytes - line.length = _; omega)
      exact ⟨⟨hroom.maxLines, hroom.maxBytes, hroom.total, hroom.room⟩,
        hsuffix.trans (List.suffix_cons line rest)⟩
    · rename_i hfull
      rw [not_or, Nat.not_le, Nat.not_lt] at hfull
      refine ⟨⟨rfl, rfl, ?_, .inr hfull⟩, List.suffix_rfl⟩
      rw [List.map_cons, List.sum_cons]
      exact htotal

/-! ## Runs -/

/-- What a message does: nothing if it is empty, and else its start is stored after lines that the
sink had. -/
theorem outputDebugString_cases (haccounts : Accounted s) (hlines : 1 ≤ s.maxLines)
    (message : ByteString) :
    (message = [] ∧ s.outputDebugString message = s) ∨
    (Accounted (s.outputDebugString message) ∧
      (s.outputDebugString message).maxLines = s.maxLines ∧
      (s.outputDebugString message).maxBytes = s.maxBytes ∧
      ∃ kept, kept <:+ s.lines ∧ (s.outputDebugString message).lines =
        kept ++ [(sanitizeFrom 0 message).take s.maxBytes]) := by
  cases message with
  | nil => exact .inl ⟨rfl, rfl⟩
  | cons c rest =>
    right
    have hsome : sanitizeString (c :: rest) ≠ [] := by
      unfold sanitizeString
      obtain ⟨b, -, -, hfirst, -⟩ | ⟨n, -, -, -, -, -, hfirst⟩ := sanitizeFrom_cases c rest
      · rw [hfirst]
        exact List.cons_ne_nil _ _
      · rw [hfirst]
        exact List.cons_ne_nil _ _
    obtain ⟨hroom, hsuffix⟩ := dropLines_madeRoom s (sanitizeString (c :: rest)).length s.lines
      haccounts.total
    have hcut : ((sanitizeString (c :: rest)).take s.maxBytes).length =
        min s.maxBytes (sanitizeString (c :: rest)).length := List.length_take
    have hmaxLines := hroom.maxLines
    have hmaxBytes := hroom.maxBytes
    have htotal := hroom.total
    unfold outputDebugString
    rw [if_neg hsome]
    dsimp only
    rw [hmaxBytes]
    refine ⟨⟨?_, ?_, ?_⟩, hmaxLines, rfl, _, hsuffix, rfl⟩
    · simp [htotal]
    · dsimp only
      rw [hcut]
      obtain hnone | ⟨-, hfits⟩ := hroom.room
      · rw [hnone] at htotal
        simp only [List.map_nil, List.sum_nil] at htotal
        omega
      · omega
    · dsimp only
      rw [List.length_append, List.length_singleton]
      obtain hnone | ⟨hfew, -⟩ := hroom.room
      · rw [hnone, List.length_nil]
        omega
      · omega

/-- One message more is one more call. -/
theorem sinkAfter_append (maxLines maxBytes : ℕ) (messages : List ByteString) (message : ByteString) :
    sinkAfter maxLines maxBytes (messages ++ [message]) =
      (sinkAfter maxLines maxBytes messages).outputDebugString message := by
  rw [sinkAfter, List.foldl_append]
  rfl

/-- A sink for at least one line keeps its accounts. -/
theorem sinkAfter_accounted {maxLines : ℕ} (maxBytes : ℕ) (hlines : 1 ≤ maxLines)
    (messages : List ByteString) :
    Accounted (sinkAfter maxLines maxBytes messages) ∧
      (sinkAfter maxLines maxBytes messages).maxLines = maxLines ∧
      (sinkAfter maxLines maxBytes messages).maxBytes = maxBytes := by
  induction messages using List.reverseRecOn with
  | nil => exact ⟨⟨rfl, Nat.zero_le _, Nat.zero_le _⟩, rfl, rfl⟩
  | append_singleton messages message ih =>
    obtain ⟨haccounts, hmaxLines, hmaxBytes⟩ := ih
    rw [sinkAfter_append]
    obtain ⟨-, heq⟩ | ⟨hafter, hmaxLines', hmaxBytes', -⟩ :=
      outputDebugString_cases haccounts (by omega) message
    · rw [heq]
      exact ⟨haccounts, hmaxLines, hmaxBytes⟩
    · exact ⟨hafter, hmaxLines'.trans hmaxLines, hmaxBytes'.trans hmaxBytes⟩

/-- A message leaves a sound sink sound, if its sequences are characters that a line may have. -/
theorem sinkSound_message {maxLines maxBytes : ℕ} (hlines : 1 ≤ maxLines) {messages : List ByteString}
    {message : ByteString} (hsound : SinkSound (sinkAfter maxLines maxBytes messages))
    (hstorable : SequencesStorable 0 maxBytes message) :
    SinkSound (sinkAfter maxLines maxBytes (messages ++ [message])) := by
  obtain ⟨haccounts, hmaxLines, hmaxBytes⟩ := sinkAfter_accounted maxBytes hlines messages
  rw [sinkAfter_append]
  obtain ⟨-, heq⟩ | ⟨hafter, -, -, kept, hkept, hstored⟩ :=
    outputDebugString_cases haccounts (by omega) message
  · rw [heq]
    exact hsound
  · refine ⟨hafter, fun line hline => ?_⟩
    rw [hstored, hmaxBytes, List.mem_append, List.mem_singleton] at hline
    obtain hold | rfl := hline
    · exact hsound.text line (hkept.mem hold)
    · rw [plainText_iff, concatenation_take_sanitize]
      exact hstorable

/-- What a sound sink was last given has characters that a line may have. -/
theorem sequencesStorable_of_sound {maxLines maxBytes : ℕ} (hlines : 1 ≤ maxLines)
    {messages : List ByteString} {message : ByteString}
    (hsound : SinkSound (sinkAfter maxLines maxBytes (messages ++ [message]))) :
    SequencesStorable 0 maxBytes message := by
  obtain ⟨haccounts, hmaxLines, hmaxBytes⟩ := sinkAfter_accounted maxBytes hlines messages
  have htext := hsound.text
  rw [sinkAfter_append] at htext
  obtain ⟨rfl, -⟩ | ⟨-, -, -, kept, -, hstored⟩ :=
    outputDebugString_cases haccounts (by omega) message
  · trivial
  · rw [hstored, hmaxBytes] at htext
    have hline := htext ((sanitizeFrom 0 message).take maxBytes) (by simp)
    rwa [plainText_iff, concatenation_take_sanitize] at hline

/-- A sink for at least one line keeps its accounts under all messages.  Its lines are text after
each of them exactly if every sequence that is let through, and begins within the bytes the sink
may hold, is a character that a line may have and ends within them. -/
theorem debugSink_sound_iff {maxLines : ℕ} (maxBytes : ℕ) (hlines : 1 ≤ maxLines)
    (messages : List ByteString) :
    (∀ k, Accounted (sinkAfter maxLines maxBytes (messages.take k))) ∧
      ((∀ k, SinkSound (sinkAfter maxLines maxBytes (messages.take k))) ↔
        ∀ message ∈ messages, SequencesStorable 0 maxBytes message) := by
  refine ⟨fun k => (sinkAfter_accounted maxBytes hlines (messages.take k)).1, ?_, ?_⟩
  · intro hsound message hmessage
    obtain ⟨k, hk, rfl⟩ := List.mem_iff_getElem.1 hmessage
    have hafter := hsound (k + 1)
    rw [List.take_succ_eq_append_getElem hk] at hafter
    exact sequencesStorable_of_sound hlines hafter
  · intro hstorable k
    induction k with
    | zero =>
      refine ⟨(sinkAfter_accounted maxBytes hlines _).1, ?_⟩
      rw [List.take_zero]
      nofun
    | succ k ih =>
      by_cases hk : k < messages.length
      · rw [List.take_succ_eq_append_getElem hk]
        exact sinkSound_message hlines ih (hstorable _ (List.getElem_mem hk))
      · rw [List.take_of_length_le (by omega)]
        rwa [List.take_of_length_le (by omega)] at ih

/-- A message of an accented letter and a line break, in a sink for two lines. -/
theorem debugSink_sound_accent :
    SinkSound (sinkAfter 2 8 [[0xC3, 0xA9, 0x0A]]) ∧
      (sinkAfter 2 8 [[0xC3, 0xA9, 0x0A]]).lines = [[0xC3, 0xA9, 0x0A]] := by
  have hletter : SequencesStorable 0 8 [0xC3, 0xA9, 0x0A] := by
    refine ⟨by decide, ⟨'é', by decide, by decide⟩, trivial⟩
  refine ⟨(debugSink_sound_iff 8 (by decide) [[0xC3, 0xA9, 0x0A]]).2.2 ?_ 1, by decide⟩
  simpa using hletter

/-- The overlong sequence C0 80 is stored as it is. -/
theorem overlong_stored :
    (sinkAfter 1000 (64 * 1024) [[0xC0, 0x80]]).lines = [[0xC0, 0x80]] ∧
      ¬ SinkSound (sinkAfter 1000 (64 * 1024) [[0xC0, 0x80]]) := by
  have hstored : (sinkAfter 1000 (64 * 1024) [[0xC0, 0x80]]).lines = [[0xC0, 0x80]] := by decide
  refine ⟨hstored, fun hsound => ?_⟩
  have htext := hsound.text [0xC0, 0x80] (by rw [hstored]; exact List.mem_singleton_self _)
  rw [plainText_iff, concatenation_cons_iff storableBytes_selfDelimiting] at htext
  obtain ⟨⟨c, -, hc⟩, -⟩ := htext
  have hsequence := encodeScalar_sequence c
  rw [hc] at hsequence
  revert hsequence
  decide

end Xblob.Analysis
