import Xblob.Interface.Utf8Strings

/-!
# The check of UTF-8 at the C boundary

The loop takes one sequence after the other, each by the mask of its first byte.  The mask of the
four-byte sequences has first bytes that no scalar value is encoded with.
-/

set_option autoImplicit false

namespace Xblob.Analysis

open Xblob.CApi Xblob.Computation Xblob.Computation.Utf8 Xblob.Interface

/-! ## Masks -/

/-- The test of a single byte, as numbers. -/
theorem one_iff (b : U8) : b ≤ 0x7F ↔ b.toNat ≤ 0x7F := by
  rw [BitVec.le_def]
  rfl

/-- The four masks, as ranges of numbers. -/
theorem masks_iff : ∀ b : U8,
    (b &&& 0xE0 = 0xC0 ↔ 0xC0 ≤ b.toNat ∧ b.toNat ≤ 0xDF) ∧
      (b &&& 0xF0 = 0xE0 ↔ 0xE0 ≤ b.toNat ∧ b.toNat ≤ 0xEF) ∧
      (b &&& 0xF8 = 0xF0 ↔ 0xF0 ≤ b.toNat ∧ b.toNat ≤ 0xF7) ∧
      (b &&& 0xC0 = 0x80 ↔ IsTail b) := by
  decide +kernel

/-- The mask of a lead of two bytes, as a range. -/
theorem two_iff (b : U8) : b &&& 0xE0 = 0xC0 ↔ 0xC0 ≤ b.toNat ∧ b.toNat ≤ 0xDF :=
  (masks_iff b).1

/-- The mask of a lead of three bytes, as a range. -/
theorem three_iff (b : U8) : b &&& 0xF0 = 0xE0 ↔ 0xE0 ≤ b.toNat ∧ b.toNat ≤ 0xEF :=
  (masks_iff b).2.1

/-- The mask of a lead of four bytes, as a range. -/
theorem four_iff (b : U8) : b &&& 0xF8 = 0xF0 ↔ 0xF0 ≤ b.toNat ∧ b.toNat ≤ 0xF7 :=
  (masks_iff b).2.2.1

/-- The mask of a continuation byte is the tail. -/
theorem tail_iff (b : U8) : b &&& 0xC0 = 0x80 ↔ IsTail b := (masks_iff b).2.2.2

/-! ## The loop -/

section

variable {a b c d : U8}

/-- A byte of a string in memory. -/
theorem read_inside (front s rest : List U8) {k : ℕ} (hk : k < s.length) :
    (front ++ s ++ rest)[front.length + k]? = s[k]? := by
  rw [List.append_assoc, List.getElem?_append_right (Nat.le_add_right _ _), Nat.add_sub_cancel_left,
    List.getElem?_append_left hk]

/-- The bytes that are read, when none of them is missing. -/
theorem breaks_eq (data : List U8) (ks : List ℕ) (bs : List U8)
    (hread : ks.map (data[·]?) = bs.map some) :
    breaks data ks = some (decide (∃ b ∈ bs, ¬IsTail b)) := by
  induction ks generalizing bs with
  | nil =>
    have hnil : bs = [] := by simpa using hread.symm
    simp [breaks, hnil]
  | cons k ks ih =>
    cases bs with
    | nil => simp at hread
    | cons b bs =>
      rw [List.map_cons, List.map_cons, List.cons.injEq] at hread
      rw [breaks, hread.1, ih bs hread.2]
      simp only [Option.bind_eq_bind, Option.bind_some, ne_eq, tail_iff]
      by_cases htail : IsTail b <;> simp [htail]

variable {data : List U8} {length i : ℕ}

/-- The loop at a first byte that is alone. -/
theorem validFrom_one (hlt : i < length) (h0 : data[i]? = some a) (ha : a.toNat ≤ 0x7F) :
    validFrom data length i = validFrom data length (i + 1) := by
  rw [validFrom, dif_pos hlt, h0]
  simp only [Option.bind_eq_bind, Option.bind_some]
  rw [if_pos ((one_iff a).2 ha)]

/-- The loop at a first byte that is none. -/
theorem validFrom_none (hlt : i < length) (h0 : data[i]? = some a)
    (ha : 0x80 ≤ a.toNat ∧ a.toNat < 0xC0 ∨ 0xF8 ≤ a.toNat) :
    validFrom data length i = some false := by
  rw [validFrom, dif_pos hlt, h0]
  simp only [Option.bind_eq_bind, Option.bind_some]
  rw [if_neg (by rw [one_iff]; omega), if_neg (by rw [two_iff]; omega),
    if_neg (by rw [three_iff]; omega), if_neg (by rw [four_iff]; omega)]
  rfl

/-- The loop at a sequence of two bytes. -/
theorem validFrom_two (hlt : i + 1 < length) (h0 : data[i]? = some a) (h1 : data[i + 1]? = some b)
    (ha : 0xC0 ≤ a.toNat ∧ a.toNat ≤ 0xDF) :
    validFrom data length i =
      if Sequence 0xF7 [a, b] then validFrom data length (i + 2) else some false := by
  have hbreaks := breaks_eq data [i + 1] [b] (by simp [h1])
  have hsequence : Sequence 0xF7 [a, b] ↔ IsTail b ∧ ¬a < 0xC2 := by
    rw [BitVec.lt_def, show (0xC2 : U8).toNat = 0xC2 from rfl]
    simp only [Sequence, IsTail]
    omega
  rw [validFrom, dif_pos (by omega), h0]
  simp only [Option.bind_eq_bind, Option.bind_some]
  rw [if_neg (by rw [one_iff]; omega), if_pos ((two_iff a).2 ha), if_neg (by omega), hbreaks]
  simp only [hsequence, Option.bind_some, List.mem_singleton, exists_eq_left]
  by_cases htail : IsTail b
  · by_cases hlow : a < 0xC2 <;> simp only [htail, hlow] <;> rfl
  · simp only [htail]
    rfl

/-- The loop at a sequence of three bytes. -/
theorem validFrom_three (hlt : i + 2 < length) (h0 : data[i]? = some a)
    (h1 : data[i + 1]? = some b) (h2 : data[i + 2]? = some c)
    (ha : 0xE0 ≤ a.toNat ∧ a.toNat ≤ 0xEF) :
    validFrom data length i =
      if Sequence 0xF7 [a, b, c] then validFrom data length (i + 3) else some false := by
  have hbreaks := breaks_eq data [i + 1, i + 2] [b, c] (by simp [h1, h2])
  have hsequence : Sequence 0xF7 [a, b, c] ↔
      (IsTail b ∧ IsTail c) ∧ ¬(a = 0xE0 ∧ b < 0xA0) ∧ ¬(a = 0xED ∧ b ≥ 0xA0) := by
    simp only [ge_iff_le, BitVec.lt_def, BitVec.le_def, ← BitVec.toNat_inj, Sequence, IsTail,
      show (0xE0 : U8).toNat = 0xE0 from rfl, show (0xED : U8).toNat = 0xED from rfl,
      show (0xA0 : U8).toNat = 0xA0 from rfl]
    omega
  rw [validFrom, dif_pos (by omega), h0]
  simp only [Option.bind_eq_bind, Option.bind_some]
  rw [if_neg (by rw [one_iff]; omega), if_neg (by rw [two_iff]; omega),
    if_pos ((three_iff a).2 ha), if_neg (by omega), hbreaks, h1]
  simp only [hsequence, Option.bind_some, List.mem_cons, List.not_mem_nil, or_false,
    exists_eq_or_imp, exists_eq_left]
  by_cases htails : IsTail b ∧ IsTail c
  · by_cases hlow : a = 0xE0 ∧ b < 0xA0
    · simp only [htails, hlow]
      rfl
    · by_cases hhigh : a = 0xED ∧ b ≥ 0xA0 <;> simp only [htails, hlow, hhigh] <;> rfl
  · simp only [← not_and_or, htails]
    rfl

/-- The loop at a sequence of four bytes, by the mask of its first one. -/
theorem validFrom_four (hlt : i + 3 < length) (h0 : data[i]? = some a)
    (h1 : data[i + 1]? = some b) (h2 : data[i + 2]? = some c) (h3 : data[i + 3]? = some d)
    (ha : 0xF0 ≤ a.toNat ∧ a.toNat ≤ 0xF7) :
    validFrom data length i =
      if Sequence 0xF7 [a, b, c, d] then validFrom data length (i + 4) else some false := by
  have hbreaks := breaks_eq data [i + 1, i + 2, i + 3] [b, c, d]
    (by simp [h1, h2, h3])
  have hsequence : Sequence 0xF7 [a, b, c, d] ↔
      (IsTail b ∧ IsTail c ∧ IsTail d) ∧ ¬(a = 0xF0 ∧ b < 0x90) ∧ ¬(a = 0xF4 ∧ b > 0x8F) := by
    simp only [gt_iff_lt, BitVec.lt_def, ← BitVec.toNat_inj, Sequence, IsTail,
      show (0xF0 : U8).toNat = 0xF0 from rfl, show (0xF4 : U8).toNat = 0xF4 from rfl,
      show (0x90 : U8).toNat = 0x90 from rfl, show (0x8F : U8).toNat = 0x8F from rfl]
    omega
  rw [validFrom, dif_pos (by omega), h0]
  simp only [Option.bind_eq_bind, Option.bind_some]
  rw [if_neg (by rw [one_iff]; omega), if_neg (by rw [two_iff]; omega),
    if_neg (by rw [three_iff]; omega), if_pos ((four_iff a).2 ha), if_neg (by omega), hbreaks, h1]
  simp only [hsequence, Option.bind_some, List.mem_cons, List.not_mem_nil, or_false,
    exists_eq_or_imp, exists_eq_left]
  by_cases htails : IsTail b ∧ IsTail c ∧ IsTail d
  · by_cases hlow : a = 0xF0 ∧ b < 0x90
    · simp only [htails, hlow]
      rfl
    · by_cases hhigh : a = 0xF4 ∧ b > 0x8F <;> simp only [htails, hlow, hhigh] <;> rfl
  · simp only [← not_and_or, htails]
    rfl

/-- The first bytes by their masks. -/
theorem lead_cases (a : U8) :
    (a.toNat ≤ 0x7F ∧ leadLength a = 1) ∨
    ((0x80 ≤ a.toNat ∧ a.toNat < 0xC0) ∧ leadLength a = 2) ∨
    ((0xC0 ≤ a.toNat ∧ a.toNat ≤ 0xDF) ∧ leadLength a = 2) ∨
    ((0xE0 ≤ a.toNat ∧ a.toNat ≤ 0xEF) ∧ leadLength a = 3) ∨
    ((0xF0 ≤ a.toNat ∧ a.toNat ≤ 0xF7) ∧ leadLength a = 4) ∨
    (0xF8 ≤ a.toNat ∧ leadLength a = 4) := by
  unfold leadLength
  split_ifs <;> omega

/-- The loop at a sequence that the string is too short for. -/
theorem validFrom_short (hlt : i < length) (h0 : data[i]? = some a)
    (hshort : length < i + leadLength a) : validFrom data length i = some false := by
  rcases lead_cases a with ⟨ha, hlen⟩ | ⟨ha, hlen⟩ | ⟨ha, hlen⟩ | ⟨ha, hlen⟩ | ⟨ha, hlen⟩ | ⟨ha, hlen⟩
  · omega
  · exact validFrom_none hlt h0 (.inl ha)
  · rw [validFrom, dif_pos hlt, h0]
    simp only [Option.bind_eq_bind, Option.bind_some]
    rw [if_neg (by rw [one_iff]; omega), if_pos ((two_iff a).2 ha), if_pos (by omega)]
    rfl
  · rw [validFrom, dif_pos hlt, h0]
    simp only [Option.bind_eq_bind, Option.bind_some]
    rw [if_neg (by rw [one_iff]; omega), if_neg (by rw [two_iff]; omega),
      if_pos ((three_iff a).2 ha), if_pos (by omega)]
    rfl
  · rw [validFrom, dif_pos hlt, h0]
    simp only [Option.bind_eq_bind, Option.bind_some]
    rw [if_neg (by rw [one_iff]; omega), if_neg (by rw [two_iff]; omega),
      if_neg (by rw [three_iff]; omega), if_pos ((four_iff a).2 ha), if_pos (by omega)]
    rfl
  · exact validFrom_none hlt h0 (.inr ha)

/-- The loop at the sequence that the rest of a string starts with: it goes on after the sequence,
or the string is refused. -/
theorem validFrom_step (front rest t : List U8) (a : U8) (hfits : leadLength a ≤ (a :: t).length) :
    let data := front ++ (a :: t) ++ rest
    let length := front.length + (a :: t).length
    validFrom data length front.length =
      if Sequence 0xF7 ((a :: t).take (leadLength a)) then
        validFrom data length (front.length + leadLength a)
      else some false := by
  intro data length
  have hread (k : ℕ) (hk : k < (a :: t).length) : data[front.length + k]? = (a :: t)[k]? :=
    read_inside front (a :: t) rest hk
  have hlt : front.length < length := by simp [length]
  have hfirst : data[front.length]? = some a := hread 0 (by simp)
  rcases lead_cases a with ⟨ha, hlen⟩ | ⟨ha, hlen⟩ | ⟨ha, hlen⟩ | ⟨ha, hlen⟩ | ⟨ha, hlen⟩ | ⟨ha, hlen⟩ <;>
    rw [hlen] at hfits ⊢
  · have hsequence : Sequence 0xF7 ((a :: t).take 1) := ha
    rw [if_pos hsequence, validFrom_one hlt hfirst ha]
  · match t, hfits with
    | b :: _, _ =>
      have hsequence : ¬Sequence 0xF7 [a, b] := fun h => absurd h.1 (by omega)
      rw [validFrom_none hlt hfirst (.inl ha)]
      exact (if_neg hsequence).symm
  · match t, hfits with
    | b :: _, _ =>
      exact validFrom_two (by simp only [length]; omega) hfirst (hread 1 (by simp)) ha
  · match t, hfits with
    | b :: c :: _, _ =>
      exact validFrom_three (by simp only [length]; omega) hfirst (hread 1 (by simp))
        (hread 2 (by simp)) ha
  · match t, hfits with
    | b :: c :: d :: _, _ =>
      exact validFrom_four (by simp only [length]; omega) hfirst (hread 1 (by simp)) (hread 2 (by simp))
        (hread 3 (by simp)) ha
  · match t, hfits with
    | b :: c :: d :: _, _ =>
      have hsequence : ¬Sequence 0xF7 [a, b, c, d] := fun h => absurd h.2.1 (by omega)
      rw [validFrom_none hlt hfirst (.inr ha)]
      exact (if_neg hsequence).symm

end

/-- The loop on the rest of a string: it ends without a byte after the string, and accepts the
concatenations of sequences with the first bytes that the masks let through. -/
theorem validFrom_suffix (s front rest : List U8) :
    ∃ accepted, validFrom (front ++ s ++ rest) (front.length + s.length) front.length =
        some accepted ∧ (accepted = true ↔ Concatenation (Sequence 0xF7) s) := by
  induction hn : s.length using Nat.strongRecOn generalizing s front with
  | ind n ih =>
    subst hn
    cases s with
    | nil =>
      rw [validFrom, dif_neg (by simp)]
      exact ⟨true, rfl, by simp [concatenation_nil]⟩
    | cons a t =>
      rw [concatenation_cons_iff (sequence_selfDelimiting 0xF7)]
      by_cases hfits : leadLength a ≤ (a :: t).length
      · rw [validFrom_step front rest t a hfits]
        by_cases hsequence : Sequence 0xF7 ((a :: t).take (leadLength a))
        · have hpos : 0 < leadLength a := by
            unfold leadLength
            split_ifs <;> omega
          have htake : (front ++ (a :: t).take (leadLength a)).length =
              front.length + leadLength a := by
            rw [List.length_append, List.length_take_of_le hfits]
          have hdata : front ++ (a :: t) ++ rest = front ++ (a :: t).take (leadLength a) ++
              (a :: t).drop (leadLength a) ++ rest := by
            rw [List.append_assoc front (List.take _ _), List.take_append_drop]
          have hlength : front.length + (a :: t).length =
              front.length + leadLength a + ((a :: t).drop (leadLength a)).length := by
            rw [List.length_drop]
            omega
          have hrest := ih ((a :: t).drop (leadLength a)).length
            (by rw [List.length_drop, List.length_cons]; omega) _
            (front ++ (a :: t).take (leadLength a)) rfl
          rw [if_pos hsequence, hdata, hlength, ← htake]
          simpa only [hsequence, true_and] using hrest
        · rw [if_neg hsequence]
          exact ⟨false, rfl, by simp [hsequence]⟩
      · have hsequence : ¬Sequence 0xF7 ((a :: t).take (leadLength a)) := by
          intro h
          obtain ⟨b, u, hb, hlen⟩ := sequence_selfDelimiting 0xF7 _ h
          rw [List.take_of_length_le (by omega)] at hb hlen
          obtain ⟨rfl, rfl⟩ := List.cons.inj hb
          omega
        rw [validFrom_short (a := a) (by simp) (by simp) (by omega)]
        exact ⟨false, rfl, by simp [hsequence]⟩

/-! ## The check -/

/-- The answer of the check, whatever comes after the string. -/
theorem isValidUtf8_eq (l rest : List U8) :
    ∃ accepted, isValidUtf8 (l ++ rest) l.length = some accepted ∧
      (accepted = true ↔ Concatenation (Sequence 0xF7) l) := by
  have h := validFrom_suffix l [] rest
  rw [List.nil_append, List.length_nil, Nat.zero_add] at h
  exact h

/-- The check accepts exactly the concatenations of sequences with leads up to F7. -/
theorem isValidUtf8_iff (l rest : List U8) :
    isValidUtf8 (l ++ rest) l.length = some true ↔ Concatenation (Sequence 0xF7) l := by
  obtain ⟨accepted, haccepted, hiff⟩ := isValidUtf8_eq l rest
  rw [haccepted, Option.some.injEq, hiff]

/-- A well-formed sequence is one with leads up to F7. -/
theorem sequence_beyond {s : List U8} (h : Sequence 0xF4 s) : Sequence 0xF7 s := by
  match s, h with
  | [_], h => exact h
  | [_, _], h => exact h
  | [_, _, _], h => exact h
  | [a, _, _, _], h => exact ⟨h.1, Nat.le_trans h.2.1 (by decide), h.2.2⟩

/-- A sequence without the leads F5 to F7 is well-formed. -/
theorem sequence_within {s : List U8} (h : Sequence 0xF7 s) (hs : ∀ b ∈ s, ¬BeyondLead b) :
    Sequence 0xF4 s := by
  match s, h with
  | [_], h => exact h
  | [_, _], h => exact h
  | [_, _, _], h => exact h
  | [a, _, _, _], h =>
    have ha : ¬(0xF5 ≤ a.toNat ∧ a.toNat ≤ 0xF7) := hs a List.mem_cons_self
    have hhigh := h.2.1
    exact ⟨h.1, by omega, h.2.2⟩

/-- No scalar value is encoded with a byte beyond the last first byte. -/
theorem sequence_not_beyond (s : List U8) (h : Sequence 0xF4 s) : ∀ b ∈ s, ¬BeyondLead b := by
  match s, h with
  | [_], h =>
    simp only [Sequence, List.mem_singleton, forall_eq, BeyondLead] at h ⊢
    omega
  | [_, _], h =>
    simp only [Sequence, IsTail, List.forall_mem_cons, List.not_mem_nil, BeyondLead] at h ⊢
    simp
    omega
  | [_, _, _], h =>
    simp only [Sequence, IsTail, List.forall_mem_cons, BeyondLead] at h ⊢
    simp
    omega
  | [_, _, _, _], h =>
    simp only [Sequence, IsTail, List.forall_mem_cons, BeyondLead] at h ⊢
    simp
    omega

/-- The check is exact but for the strings that go on above the last scalar value. -/
theorem exactOn_iff (l : List U8) : ExactOn l ↔ ¬GoesBeyond l := by
  have hself := isValidUtf8_iff l []
  rw [List.append_nil] at hself
  constructor
  · rintro h ⟨hloose, b, hb, hbeyond⟩
    have hwell := (wellFormed_iff l).1 (h.exact.1 (hself.2 hloose))
    exact hwell.forall_mem sequence_not_beyond b hb hbeyond
  · intro h
    refine ⟨?_, fun rest => ?_, ?_⟩
    · obtain ⟨accepted, haccepted, -⟩ := isValidUtf8_eq l []
      rw [List.append_nil] at haccepted
      simp [haccepted]
    · obtain ⟨accepted, haccepted, hiff⟩ := isValidUtf8_eq l rest
      obtain ⟨accepted', haccepted', hiff'⟩ := isValidUtf8_eq l []
      rw [List.append_nil] at haccepted'
      rw [haccepted, haccepted', Bool.eq_iff_iff.2 (hiff.trans hiff'.symm)]
    · rw [hself, wellFormed_iff]
      constructor
      · intro hloose
        refine hloose.restrict (fun s hs hl => sequence_within hs hl) fun b hb hbeyond => ?_
        exact h ⟨hloose, b, hb, hbeyond⟩
      · exact Concatenation.mono fun s hs => sequence_beyond hs

/-- Four bytes for a value above the last scalar value are accepted. -/
theorem accepts_beyond : ¬∀ l : List U8, ExactOn l := by
  intro h
  have haccepts : isValidUtf8 ([0xF5, 0x80, 0x80, 0x80] ++ []) 4 = some true := by
    apply (isValidUtf8_iff [0xF5, 0x80, 0x80, 0x80] []).2
    refine ⟨[[0xF5, 0x80, 0x80, 0x80]], ?_, by simp⟩
    simp only [List.mem_singleton, forall_eq]
    decide
  have hwell := (wellFormed_iff _).1 ((h [0xF5, 0x80, 0x80, 0x80]).exact.1 haccepts)
  exact hwell.forall_mem sequence_not_beyond 0xF5 (by simp) ⟨by decide, by decide⟩

end Xblob.Analysis
