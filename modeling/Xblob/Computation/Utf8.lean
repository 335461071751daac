import Xblob.Computation.SelfDelimiting

/-!
# UTF-8

A scalar value is encoded in one to four bytes, of which the first tells how many there are.  The
encodings are the sequences of a grammar on bytes.
-/

set_option autoImplicit false

namespace Xblob.Computation.Utf8

/-- The bytes of a Unicode scalar value. -/
def encodeScalar (c : Char) : List (BitVec 8) := (String.utf8EncodeChar c).map UInt8.toBitVec

/-- A string that is encodings of scalar values, one after the other. -/
def WellFormed (l : List (BitVec 8)) : Prop := ∃ cs : List Char, cs.flatMap encodeScalar = l

/-- A byte after the first. -/
def IsTail (b : BitVec 8) : Prop := 0x80 ≤ b.toNat ∧ b.toNat ≤ 0xBF

/-- Being a tail is decidable. -/
instance (b : BitVec 8) : Decidable (IsTail b) := inferInstanceAs (Decidable (_ ∧ _))

/-- The sequences of the grammar, with the first bytes of four-byte sequences up to a last one. -/
def Sequence (last : ℕ) : List (BitVec 8) → Prop
  | [a] => a.toNat ≤ 0x7F
  | [a, b] => 0xC2 ≤ a.toNat ∧ a.toNat ≤ 0xDF ∧ IsTail b
  | [a, b, c] =>
    0xE0 ≤ a.toNat ∧ a.toNat ≤ 0xEF ∧ IsTail b ∧ IsTail c ∧
      (a.toNat = 0xE0 → 0xA0 ≤ b.toNat) ∧ (a.toNat = 0xED → b.toNat ≤ 0x9F)
  | [a, b, c, d] =>
    0xF0 ≤ a.toNat ∧ a.toNat ≤ last ∧ IsTail b ∧ IsTail c ∧ IsTail d ∧
      (a.toNat = 0xF0 → 0x90 ≤ b.toNat) ∧ (a.toNat = 0xF4 → b.toNat ≤ 0x8F)
  | _ => False

/-- Being a sequence is decidable. -/
instance (last : ℕ) : DecidablePred (Sequence last)
  | [] => isFalse id
  | [a] => inferInstanceAs (Decidable (a.toNat ≤ 0x7F))
  | [_, _] => inferInstanceAs (Decidable (_ ∧ _))
  | [_, _, _] => inferInstanceAs (Decidable (_ ∧ _))
  | [_, _, _, _] => inferInstanceAs (Decidable (_ ∧ _))
  | _ :: _ :: _ :: _ :: _ :: _ => isFalse id

/-- The number of bytes that a first byte tells. -/
def leadLength (a : BitVec 8) : ℕ :=
  if a.toNat ≤ 0x7F then 1 else if a.toNat ≤ 0xDF then 2 else if a.toNat ≤ 0xEF then 3 else 4

/-- The lead byte of a sequence tells its length. -/
theorem sequence_selfDelimiting (last : ℕ) : SelfDelimiting (Sequence last) leadLength := by
  intro s hs
  match s, hs with
  | [a], h =>
    have ha : a.toNat ≤ 0x7F := h
    exact ⟨a, [], rfl, by rw [leadLength, if_pos ha]; rfl⟩
  | [a, b], h =>
    obtain ⟨hlow, hhigh, -⟩ := h
    exact ⟨a, [b], rfl, by rw [leadLength, if_neg (by omega), if_pos (by omega)]; rfl⟩
  | [a, b, c], h =>
    obtain ⟨hlow, hhigh, -⟩ := h
    refine ⟨a, [b, c], rfl, ?_⟩
    rw [leadLength, if_neg (by omega), if_neg (by omega), if_pos (by omega)]
    rfl
  | [a, b, c, d], h =>
    obtain ⟨hlow, -⟩ := h
    refine ⟨a, [b, c, d], rfl, ?_⟩
    rw [leadLength, if_neg (by omega), if_neg (by omega), if_neg (by omega)]
    rfl

/-! ## Encodings -/

/-- The code points that are scalar values. -/
theorem scalar_range (c : Char) :
    c.toNat < 0xD800 ∨ (0xDFFF < c.toNat ∧ c.toNat < 0x110000) := c.valid

/-- The number of a byte made from a number. -/
theorem toNat_byte (v : ℕ) : (UInt8.ofNat v).toBitVec.toNat = v % 256 := rfl

/-- The encoding of a scalar value is a sequence. -/
theorem encodeScalar_sequence (c : Char) : Sequence 0xF4 (encodeScalar c) := by
  have hrange := scalar_range c
  have hval : c.val.toNat = c.toNat := rfl
  unfold encodeScalar String.utf8EncodeChar
  rw [hval]
  dsimp only
  split_ifs <;> simp only [List.map_cons, List.map_nil, Sequence, IsTail, toNat_byte] <;> omega

/-- A scalar value with a given code point. -/
theorem exists_scalar {v : ℕ} (hv : v < 0xD800 ∨ (0xDFFF < v ∧ v < 0x110000)) :
    ∃ c : Char, c.toNat = v :=
  ⟨Char.ofNatAux v hv, rfl⟩

/-- A byte made from a number is the word with that number. -/
theorem word_eq {v : ℕ} {a : BitVec 8} (h : v % 256 = a.toNat) :
    (UInt8.ofNat v).toBitVec = a :=
  BitVec.eq_of_toNat_eq h

/-- Every sequence encodes a scalar value. -/
theorem exists_encodeScalar {s : List (BitVec 8)} (h : Sequence 0xF4 s) :
    ∃ c, encodeScalar c = s := by
  match s, h with
  | [a], h =>
    have ha : a.toNat ≤ 0x7F := h
    obtain ⟨c, hc⟩ := exists_scalar (v := a.toNat) (by omega)
    have hval : c.val.toNat = a.toNat := hc
    refine ⟨c, ?_⟩
    unfold encodeScalar String.utf8EncodeChar
    dsimp only
    rw [hval, if_pos ha, List.map_singleton, word_eq (a := a) (by omega)]
  | [a, b], h =>
    simp only [Sequence, IsTail] at h
    obtain ⟨c, hc⟩ := exists_scalar (v := a.toNat % 32 * 64 + b.toNat % 64) (by omega)
    have hval : c.val.toNat = a.toNat % 32 * 64 + b.toNat % 64 := hc
    refine ⟨c, ?_⟩
    unfold encodeScalar String.utf8EncodeChar
    dsimp only
    rw [hval, if_neg (by omega), if_pos (by omega)]
    simp only [List.map_cons, List.map_nil]
    rw [word_eq (a := a) (by omega), word_eq (a := b) (by omega)]
  | [a, b, c], h =>
    simp only [Sequence, IsTail] at h
    obtain ⟨x, hx⟩ := exists_scalar
      (v := a.toNat % 16 * 4096 + b.toNat % 64 * 64 + c.toNat % 64) (by omega)
    have hval : x.val.toNat = a.toNat % 16 * 4096 + b.toNat % 64 * 64 + c.toNat % 64 := hx
    refine ⟨x, ?_⟩
    unfold encodeScalar String.utf8EncodeChar
    dsimp only
    rw [hval, if_neg (by omega), if_neg (by omega), if_pos (by omega)]
    simp only [List.map_cons, List.map_nil]
    rw [word_eq (a := a) (by omega), word_eq (a := b) (by omega), word_eq (a := c) (by omega)]
  | [a, b, c, d], h =>
    simp only [Sequence, IsTail] at h
    obtain ⟨x, hx⟩ := exists_scalar
      (v := a.toNat % 8 * 262144 + b.toNat % 64 * 4096 + c.toNat % 64 * 64 + d.toNat % 64)
      (by omega)
    have hval : x.val.toNat =
      a.toNat % 8 * 262144 + b.toNat % 64 * 4096 + c.toNat % 64 * 64 + d.toNat % 64 := hx
    refine ⟨x, ?_⟩
    unfold encodeScalar String.utf8EncodeChar
    dsimp only
    rw [hval, if_neg (by omega), if_neg (by omega), if_neg (by omega)]
    simp only [List.map_cons, List.map_nil]
    rw [word_eq (a := a) (by omega), word_eq (a := b) (by omega), word_eq (a := c) (by omega),
      word_eq (a := d) (by omega)]

/-- The well-formed strings are the concatenations of sequences. -/
theorem wellFormed_iff (l : List (BitVec 8)) : WellFormed l ↔ Concatenation (Sequence 0xF4) l := by
  constructor
  · rintro ⟨cs, rfl⟩
    refine ⟨cs.map encodeScalar, ?_, List.flatMap_def.symm⟩
    intro s hs
    obtain ⟨c, -, rfl⟩ := List.mem_map.1 hs
    exact encodeScalar_sequence c
  · rintro ⟨parts, hparts, rfl⟩
    induction parts with
    | nil => exact ⟨[], rfl⟩
    | cons s rest ih =>
      rw [List.forall_mem_cons] at hparts
      obtain ⟨c, rfl⟩ := exists_encodeScalar hparts.1
      obtain ⟨cs, hcs⟩ := ih hparts.2
      exact ⟨c :: cs, by rw [List.flatMap_cons, hcs, List.flatten_cons]⟩

end Xblob.Computation.Utf8
