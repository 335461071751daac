import Mathlib.Data.List.Sort
import Xblob.Computation.Spans

/-!
# Tilings

An allocator divides a range into free spans, which it keeps in order and merged, and taken
ones.  What taking and giving back do to such a division is said here for lists of spans, so
that an allocator only has to be shown to do this to its own blocks.
-/

set_option autoImplicit false

namespace Xblob.Computation

/-- The sizes of spans together. -/
def total : List Span → ℕ
  | [] => 0
  | s :: spans => s.size + total spans

/-- No spans have no size. -/
@[simp] theorem total_nil : total [] = 0 := rfl

/-- One span more adds its size. -/
@[simp] theorem total_cons (s : Span) (spans : List Span) :
    total (s :: spans) = s.size + total spans := rfl

/-- The size of two lists is the sum of their sizes. -/
@[simp] theorem total_append (l₁ l₂ : List Span) : total (l₁ ++ l₂) = total l₁ + total l₂ := by
  induction l₁ with
  | nil => simp
  | cons s l₁ ih => simp [ih, Nat.add_assoc]

/-- The size does not depend on the order of the spans. -/
theorem total_perm {l₁ l₂ : List Span} (h : l₁.Perm l₂) : total l₁ = total l₂ := by
  induction h with
  | nil => rfl
  | cons s _ ih => simp [ih]
  | swap s t l => simp [Nat.add_left_comm]
  | trans _ _ ih₁ ih₂ => rw [ih₁, ih₂]

/-- Free spans: in order, with a gap between any two, none empty, all at multiples of `a`. -/
structure FreeSpans (a : ℕ) (l : List Span) : Prop where
  gaps : l.Pairwise fun s t => s.stop < t.start
  pos : ∀ s ∈ l, 0 < s.size
  aligned : ∀ s ∈ l, a ∣ s.start ∧ a ∣ s.size

namespace FreeSpans

variable {a : ℕ} {s : Span} {l : List Span}

/-- No free spans. -/
theorem nil : FreeSpans a [] := ⟨List.Pairwise.nil, by simp, by simp⟩

/-- One free span in front of free spans that all start behind its end. -/
theorem cons (hgap : ∀ t ∈ l, s.stop < t.start) (hpos : 0 < s.size)
    (haligned : a ∣ s.start ∧ a ∣ s.size) (hl : FreeSpans a l) : FreeSpans a (s :: l) := by
  refine ⟨List.Pairwise.cons hgap hl.gaps, ?_, ?_⟩
  · exact List.forall_mem_cons.mpr ⟨hpos, hl.pos⟩
  · exact List.forall_mem_cons.mpr ⟨haligned, hl.aligned⟩

/-- Free spans without their first. -/
theorem tail (h : FreeSpans a (s :: l)) : FreeSpans a l :=
  ⟨h.gaps.of_cons, fun t ht => h.pos t (List.mem_cons_of_mem _ ht),
    fun t ht => h.aligned t (List.mem_cons_of_mem _ ht)⟩

/-- The free spans behind the first start after a gap. -/
theorem head_stop_lt (h : FreeSpans a (s :: l)) : ∀ t ∈ l, s.stop < t.start :=
  fun _ ht => List.rel_of_pairwise_cons h.gaps ht

/-- Two lists of free spans with a gap between them. -/
theorem append {l₁ l₂ : List Span} (h₁ : FreeSpans a l₁) (h₂ : FreeSpans a l₂)
    (hgap : ∀ s ∈ l₁, ∀ t ∈ l₂, s.stop < t.start) : FreeSpans a (l₁ ++ l₂) := by
  refine ⟨List.pairwise_append.mpr ⟨h₁.gaps, h₂.gaps, hgap⟩, ?_, ?_⟩
  · intro t hmem
    obtain hmem | hmem := List.mem_append.mp hmem
    · exact h₁.pos t hmem
    · exact h₂.pos t hmem
  · intro t hmem
    obtain hmem | hmem := List.mem_append.mp hmem
    · exact h₁.aligned t hmem
    · exact h₂.aligned t hmem

end FreeSpans

/-! ## Taking -/

/-- A span carved out of the free ones, and what is left of them. -/
structure Carve (a : ℕ) (l l' : List Span) (s : Span) : Prop where
  free : FreeSpans a l'
  within : ∀ t ∈ l', ∃ u ∈ l, t.Inside u
  cover : ∀ x, cover l' x + s.mark x = cover l x
  total : total l' + s.size = total l
  pos : 0 < s.size
  aligned : a ∣ s.start ∧ a ∣ s.size

namespace Carve

variable {a : ℕ} {l l' : List Span} {s u : Span}

/-- Carving out of a later free span. -/
theorem cons (hu : FreeSpans a (u :: l)) (h : Carve a l l' s) :
    Carve a (u :: l) (u :: l') s := by
  refine ⟨?_, ?_, ?_, ?_, h.pos, h.aligned⟩
  · refine FreeSpans.cons ?_ (hu.pos u List.mem_cons_self) (hu.aligned u List.mem_cons_self) h.free
    intro t hmem
    obtain ⟨v, hv, hin⟩ := h.within t hmem
    exact lt_of_lt_of_le (hu.head_stop_lt v hv) hin.1
  · intro t hmem
    obtain rfl | hmem := List.mem_cons.mp hmem
    · exact ⟨t, List.mem_cons_self, le_rfl, le_rfl⟩
    · obtain ⟨v, hv, hin⟩ := h.within t hmem
      exact ⟨v, List.mem_cons_of_mem _ hv, hin⟩
  · intro x
    rw [cover_cons, cover_cons, Nat.add_assoc, h.cover x]
  · rw [total_cons, total_cons, Nat.add_assoc, h.total]

/-- Carving out of the first free span. -/
theorem head (hu : FreeSpans a (u :: l)) (h : Carve a [u] l' s) :
    Carve a (u :: l) (l' ++ l) s := by
  refine ⟨?_, ?_, ?_, ?_, h.pos, h.aligned⟩
  · apply h.free.append hu.tail
    intro t ht v hv
    obtain ⟨w, hw, hin⟩ := h.within t ht
    obtain rfl := List.mem_singleton.mp hw
    exact lt_of_le_of_lt hin.2 (hu.head_stop_lt v hv)
  · intro t hmem
    obtain hmem | hmem := List.mem_append.mp hmem
    · obtain ⟨w, hw, hin⟩ := h.within t hmem
      obtain rfl := List.mem_singleton.mp hw
      exact ⟨w, List.mem_cons_self, hin⟩
    · exact ⟨t, List.mem_cons_of_mem _ hmem, le_rfl, le_rfl⟩
  · intro x
    have hx := h.cover x
    simp only [cover_append, cover_cons, cover_nil] at hx ⊢
    omega
  · have htotal := h.total
    simp only [total_append, total_cons, total_nil] at htotal ⊢
    omega

end Carve

/-- What is left on one side of a carved span: nothing, or one span. -/
def piece (start size : ℕ) : List Span := if size = 0 then [] else [⟨start, size⟩]

section Piece

variable {a start size : ℕ}

/-- A piece of no size is dropped. -/
@[simp] theorem piece_zero : piece start 0 = [] := rfl

/-- A piece of positive size is one span. -/
theorem piece_of_pos (h : 0 < size) : piece start size = [⟨start, size⟩] :=
  if_neg (by omega)

/-- A piece has at most the one span. -/
theorem eq_of_mem_piece {s : Span} (h : s ∈ piece start size) : s = ⟨start, size⟩ := by
  unfold piece at h
  split at h
  · simp at h
  · exact List.mem_singleton.mp h

/-- A piece covers what its span covers, also when it is dropped. -/
@[simp] theorem cover_piece (x : ℕ) : cover (piece start size) x = Span.mark ⟨start, size⟩ x := by
  obtain rfl | h := Nat.eq_zero_or_pos size
  · have hnot : ¬ Span.Holds ⟨start, 0⟩ x := by
      unfold Span.Holds Span.stop
      dsimp only
      omega
    rw [piece_zero, cover_nil, Span.mark_of_not_holds hnot]
  · rw [piece_of_pos h, cover_cons, cover_nil, Nat.add_zero]

/-- A piece has its size, also when it is dropped. -/
@[simp] theorem total_piece : total (piece start size) = size := by
  obtain rfl | h := Nat.eq_zero_or_pos size
  · rw [piece_zero, total_nil]
  · rw [piece_of_pos h, total_cons, total_nil, Nat.add_zero]

/-- A piece with aligned bounds is a list of free spans. -/
theorem freeSpans_piece (hstart : a ∣ start) (hsize : a ∣ size) :
    FreeSpans a (piece start size) := by
  obtain rfl | h := Nat.eq_zero_or_pos size
  · exact FreeSpans.nil
  · rw [piece_of_pos h]
    exact FreeSpans.cons (by simp) h ⟨hstart, hsize⟩ FreeSpans.nil

end Piece

/-- A part of a free span is taken, and what lies before and behind it stays free. -/
theorem carve_middle {a : ℕ} {u : Span} {p n q : ℕ} (hsize : p + n + q = u.size) (hn : 0 < n)
    (hstart : a ∣ u.start) (hp : a ∣ p) (hna : a ∣ n) (hq : a ∣ q) :
    Carve a [u] (piece u.start p ++ piece (u.start + p + n) q) ⟨u.start + p, n⟩ := by
  have hbehind : a ∣ u.start + p + n := Nat.dvd_add (Nat.dvd_add hstart hp) hna
  refine ⟨?_, ?_, ?_, ?_, hn, Nat.dvd_add hstart hp, hna⟩
  · apply (freeSpans_piece hstart hp).append (freeSpans_piece hbehind hq)
    intro s hs t ht
    rw [eq_of_mem_piece hs, eq_of_mem_piece ht]
    unfold Span.stop
    dsimp only
    omega
  · intro t ht
    refine ⟨u, List.mem_singleton_self u, ?_⟩
    unfold Span.Inside Span.stop
    obtain ht | ht := List.mem_append.mp ht
    · rw [eq_of_mem_piece ht]
      dsimp only
      omega
    · rw [eq_of_mem_piece ht]
      dsimp only
      omega
  · intro x
    -- the span is its front part followed by the two others
    have hfront := Span.mark_add u.start p (n + q) x
    have hback := Span.mark_add (u.start + p) n q x
    have hwhole : u = ⟨u.start, p + (n + q)⟩ := by
      rw [← Nat.add_assoc, hsize]
    rw [cover_append, cover_piece, cover_piece, hwhole, cover_cons, cover_nil]
    dsimp only at hfront hback ⊢
    omega
  · simp only [total_append, total_piece, total_cons, total_nil]
    omega

/-! ## Giving back -/

/-- The order of the places where spans start. -/
def Starts (s t : Span) : Prop := s.start ≤ t.start

/-- The order by starts is decidable. -/
instance : DecidableRel Starts := fun s t => inferInstanceAs (Decidable (s.start ≤ t.start))

/-- The order by starts is transitive. -/
instance : IsTrans Span Starts := ⟨fun _ _ _ hst htu => Nat.le_trans hst htu⟩

/-- The order by starts is total. -/
instance : Std.Total Starts := ⟨fun s t => Nat.le_total s.start t.start⟩

/-- The merged list of spans in order, the first of which may still grow. -/
def mergeFrom (last : Span) : List Span → List Span
  | [] => [last]
  | curr :: l =>
    if last.stop = curr.start then mergeFrom ⟨last.start, last.size + curr.size⟩ l
    else last :: mergeFrom curr l

/-- Spans that touch become one. -/
def merge : List Span → List Span
  | [] => []
  | s :: l => mergeFrom s l

section Merge

variable {a : ℕ} {s : Span} {l : List Span}

/-- Merging from a span on covers what was covered. -/
theorem cover_mergeFrom (x : ℕ) : cover (mergeFrom s l) x = cover (s :: l) x := by
  induction l generalizing s with
  | nil => rfl
  | cons t l ih =>
    by_cases h : s.stop = t.start
    · have hsplit := Span.mark_add s.start s.size t.size x
      have hstart : s.start + s.size = t.start := h
      rw [hstart] at hsplit
      rw [mergeFrom, if_pos h, ih, cover_cons, ← hsplit, cover_cons, cover_cons, Nat.add_assoc]
    · rw [mergeFrom, if_neg h]
      simp only [cover_cons, ih]

/-- Merging from a span on keeps the total size. -/
theorem total_mergeFrom : total (mergeFrom s l) = total (s :: l) := by
  induction l generalizing s with
  | nil => rfl
  | cons t l ih =>
    by_cases h : s.stop = t.start
    · rw [mergeFrom, if_pos h, ih]
      simp only [total_cons]
      omega
    · rw [mergeFrom, if_neg h]
      simp only [total_cons, ih]

/-- Spans in order stay so when the first two become one. -/
theorem pairwise_before_grow {t : Span} (h : (s :: t :: l).Pairwise Span.Before) :
    ((⟨s.start, s.size + t.size⟩ : Span) :: l).Pairwise Span.Before := by
  refine List.Pairwise.cons ?_ h.of_cons.of_cons
  intro u hu
  have hst := List.rel_of_pairwise_cons h List.mem_cons_self
  have htu := List.rel_of_pairwise_cons h.of_cons hu
  unfold Span.Before Span.stop at *
  dsimp only
  omega

/-- Merging an ordered list starts nowhere before its first span. -/
theorem start_le_of_mem_mergeFrom (h : (s :: l).Pairwise Span.Before) {t : Span}
    (ht : t ∈ mergeFrom s l) : s.start ≤ t.start := by
  induction l generalizing s with
  | nil => exact le_of_eq (congrArg Span.start (List.mem_singleton.mp ht).symm)
  | cons u l ih =>
    by_cases htouch : s.stop = u.start
    · rw [mergeFrom, if_pos htouch] at ht
      have hle := ih (pairwise_before_grow h) ht
      exact hle
    · rw [mergeFrom, if_neg htouch] at ht
      obtain rfl | ht := List.mem_cons.mp ht
      · exact le_rfl
      · have hsu := List.rel_of_pairwise_cons h List.mem_cons_self
        have hut := ih h.of_cons ht
        unfold Span.Before Span.stop at hsu
        omega

/-- Merging spans in order leaves gaps only. -/
theorem freeSpans_mergeFrom (h : (s :: l).Pairwise Span.Before)
    (hpos : ∀ t ∈ s :: l, 0 < t.size) (haligned : ∀ t ∈ s :: l, a ∣ t.start ∧ a ∣ t.size) :
    FreeSpans a (mergeFrom s l) := by
  induction l generalizing s with
  | nil => exact ⟨List.pairwise_singleton _ _, hpos, haligned⟩
  | cons t l ih =>
    obtain ⟨hs, ht, hl⟩ : 0 < s.size ∧ 0 < t.size ∧ ∀ u ∈ l, 0 < u.size := by
      simpa only [List.forall_mem_cons] using hpos
    obtain ⟨hsa, hta, hla⟩ : (a ∣ s.start ∧ a ∣ s.size) ∧ (a ∣ t.start ∧ a ∣ t.size) ∧
        ∀ u ∈ l, a ∣ u.start ∧ a ∣ u.size := by
      simpa only [List.forall_mem_cons] using haligned
    by_cases htouch : s.stop = t.start
    · rw [mergeFrom, if_pos htouch]
      apply ih (pairwise_before_grow h)
      · exact List.forall_mem_cons.mpr ⟨Nat.add_pos_left hs _, hl⟩
      · exact List.forall_mem_cons.mpr ⟨⟨hsa.1, Nat.dvd_add hsa.2 hta.2⟩, hla⟩
    · rw [mergeFrom, if_neg htouch]
      refine FreeSpans.cons ?_ hs hsa
        (ih h.of_cons (List.forall_mem_cons.mpr ⟨ht, hl⟩) (List.forall_mem_cons.mpr ⟨hta, hla⟩))
      intro u hu
      have hst := List.rel_of_pairwise_cons h List.mem_cons_self
      have htu := start_le_of_mem_mergeFrom h.of_cons hu
      unfold Span.Before at hst
      omega

end Merge

/-- The free spans after one is given back. -/
def giveBack (s : Span) (l : List Span) : List Span := merge (l.orderedInsert Starts s)

section GiveBack

variable {a : ℕ} {s : Span} {l : List Span}

/-- Merging covers what was covered. -/
theorem cover_merge (x : ℕ) : cover (merge l) x = cover l x := by
  cases l with
  | nil => rfl
  | cons s l => exact cover_mergeFrom x

/-- Merging keeps the total size. -/
theorem total_merge : total (merge l) = total l := by
  cases l with
  | nil => rfl
  | cons s l => exact total_mergeFrom

/-- A span given back is covered once more. -/
theorem cover_giveBack (x : ℕ) : cover (giveBack s l) x = s.mark x + cover l x := by
  rw [giveBack, cover_merge, cover_perm (l.perm_orderedInsert Starts s), cover_cons]

/-- A span given back adds its size. -/
theorem total_giveBack : total (giveBack s l) = s.size + total l := by
  rw [giveBack, total_merge, total_perm (l.perm_orderedInsert Starts s), total_cons]

/-- A span given back to free spans that it is apart from leaves free spans. -/
theorem FreeSpans.giveBack (h : FreeSpans a l) (hpos : 0 < s.size)
    (haligned : a ∣ s.start ∧ a ∣ s.size) (hapart : ∀ t ∈ l, s.Apart t) :
    FreeSpans a (giveBack s l) := by
  have hperm := l.perm_orderedInsert Starts s
  have hposAll : ∀ t ∈ l.orderedInsert Starts s, 0 < t.size := by
    intro t ht
    obtain rfl | ht := List.mem_cons.mp (hperm.mem_iff.mp ht)
    · exact hpos
    · exact h.pos t ht
  have halignedAll : ∀ t ∈ l.orderedInsert Starts s, a ∣ t.start ∧ a ∣ t.size := by
    intro t ht
    obtain rfl | ht := List.mem_cons.mp (hperm.mem_iff.mp ht)
    · exact haligned
    · exact h.aligned t ht
  have hsorted : (l.orderedInsert Starts s).Pairwise Starts := by
    apply List.Pairwise.orderedInsert
    apply h.gaps.imp
    intro t u htu
    unfold Starts
    unfold Span.stop at htu
    omega
  have happart : (l.orderedInsert Starts s).Pairwise Span.Apart := by
    have hlist : l.Pairwise Span.Apart := h.gaps.imp fun htu => Or.inl (Nat.le_of_lt htu)
    exact (List.Pairwise.cons hapart hlist).perm hperm.symm fun htu => htu.symm
  have hbefore : (l.orderedInsert Starts s).Pairwise Span.Before := by
    apply (hsorted.and happart).imp_of_mem
    rintro t u ht hu ⟨hstart, htu⟩
    have hsize := hposAll u hu
    unfold Starts Span.Apart Span.Before Span.stop at *
    omega
  unfold Xblob.Computation.giveBack
  cases hins : l.orderedInsert Starts s with
  | nil => exact FreeSpans.nil
  | cons t rest =>
    rw [hins] at hbefore hposAll halignedAll
    exact freeSpans_mergeFrom hbefore hposAll halignedAll

end GiveBack

/-! ## Tilings -/

/-- Free and taken spans that have every point between two bounds exactly once. -/
structure Tiling (a : ℕ) (bounds : Span) (free taken : List Span) : Prop where
  gaps : FreeSpans a free
  takenPos : ∀ s ∈ taken, 0 < s.size
  takenAligned : ∀ s ∈ taken, a ∣ s.start ∧ a ∣ s.size
  once : ∀ x, cover free x + cover taken x = bounds.mark x
  total : total free + total taken = bounds.size

namespace Tiling

variable {a : ℕ} {bounds s : Span} {free taken : List Span}

/-- Taking a span out of the free ones. -/
theorem take (h : Tiling a bounds free taken) {free' : List Span} (hs : Carve a free free' s) :
    Tiling a bounds free' (s :: taken) := by
  refine ⟨hs.free, List.forall_mem_cons.mpr ⟨hs.pos, h.takenPos⟩,
    List.forall_mem_cons.mpr ⟨hs.aligned, h.takenAligned⟩, ?_, ?_⟩
  · intro x
    have honce := h.once x
    have hx := hs.cover x
    rw [cover_cons]
    omega
  · have htotal := h.total
    have hcarved := hs.total
    rw [total_cons]
    omega

/-- Another order of the taken spans. -/
theorem perm (h : Tiling a bounds free taken) {taken' : List Span} (hperm : taken.Perm taken') :
    Tiling a bounds free taken' := by
  refine ⟨h.gaps, fun s hmem => h.takenPos s (hperm.mem_iff.mpr hmem),
    fun s hmem => h.takenAligned s (hperm.mem_iff.mpr hmem), ?_, ?_⟩
  · intro x
    rw [← cover_perm hperm]
    exact h.once x
  · rw [← total_perm hperm]
    exact h.total

/-- The taken spans have no point twice. -/
theorem taken_apart (h : Tiling a bounds free taken) : taken.Pairwise Span.Apart := by
  apply pairwise_apart_of_cover h.takenPos
  intro x
  have honce := h.once x
  unfold Span.mark at honce
  split at honce <;> omega

/-- A taken span lies inside the bounds. -/
theorem taken_inside (h : Tiling a bounds free taken) (hs : s ∈ taken) : s.Inside bounds := by
  apply Span.inside_of_holds (h.takenPos s hs)
  intro x hx
  have hcover := cover_pos hs hx
  have honce := h.once x
  unfold Span.mark at honce
  split at honce
  · assumption
  · omega

/-- A free span lies inside the bounds. -/
theorem free_inside (h : Tiling a bounds free taken) (hs : s ∈ free) : s.Inside bounds := by
  apply Span.inside_of_holds (h.gaps.pos s hs)
  intro x hx
  have hcover := cover_pos hs hx
  have honce := h.once x
  unfold Span.mark at honce
  split at honce
  · assumption
  · omega

/-- A taken span is apart from every free one. -/
theorem taken_apart_free (h : Tiling a bounds free taken) {t : Span} (hs : s ∈ taken)
    (ht : t ∈ free) : s.Apart t := by
  apply Span.apart_of_not_holds (h.takenPos s hs) (h.gaps.pos t ht)
  intro x hsx htx
  have htaken := cover_pos hs hsx
  have hfree := cover_pos ht htx
  have honce := h.once x
  unfold Span.mark at honce
  split at honce <;> omega

/-- Giving a span back. -/
theorem give (h : Tiling a bounds free (s :: taken)) :
    Tiling a bounds (giveBack s free) taken := by
  have hmem : s ∈ s :: taken := List.mem_cons_self
  refine ⟨?_, fun t ht => h.takenPos t (List.mem_cons_of_mem _ ht),
    fun t ht => h.takenAligned t (List.mem_cons_of_mem _ ht), ?_, ?_⟩
  · exact h.gaps.giveBack (h.takenPos s hmem) (h.takenAligned s hmem)
      fun t ht => h.taken_apart_free hmem ht
  · intro x
    have honce := h.once x
    rw [cover_cons] at honce
    rw [cover_giveBack]
    omega
  · have htotal := h.total
    rw [total_cons] at htotal
    rw [total_giveBack]
    omega

/-- With nothing taken, what is free is the whole. -/
theorem free_eq (h : Tiling a bounds free []) : free = piece bounds.start bounds.size := by
  have honce : ∀ x, cover free x = bounds.mark x := fun x => by simpa using h.once x
  have htotal : Computation.total free = bounds.size := by simpa using h.total
  cases free with
  | nil =>
    rw [← htotal]
    rfl
  | cons s rest =>
    have hs := h.gaps.pos s List.mem_cons_self
    have hin := h.free_inside (s := s) List.mem_cons_self
    cases rest with
    | nil =>
      have hsize : s.size = bounds.size := by simpa using htotal
      have heq : s = ⟨bounds.start, bounds.size⟩ := by
        unfold Span.Inside Span.stop at hin
        rw [Span.mk.injEq]
        omega
      rw [piece_of_pos (by omega), heq]
    | cons t rest =>
      -- the point behind the first span would be free as well
      exfalso
      have hgap := h.gaps.head_stop_lt
      have hst := hgap t List.mem_cons_self
      have hinT := h.free_inside (s := t) (List.mem_cons_of_mem _ List.mem_cons_self)
      have hpoint : bounds.Holds s.stop := by
        unfold Span.Inside Span.Holds Span.stop at *
        omega
      have hcover : 0 < cover (s :: t :: rest) s.stop := by
        rw [honce, Span.mark_of_holds hpoint]
        exact Nat.one_pos
      obtain ⟨u, hu, hux⟩ := exists_of_cover_pos hcover
      obtain rfl | hu := List.mem_cons.mp hu
      · exact absurd hux.2 (lt_irrefl _)
      · exact absurd hux.1 (Nat.not_le.mpr (hgap u hu))

end Tiling

end Xblob.Computation
