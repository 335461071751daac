import Mathlib.Data.List.Pairwise
import Mathlib.Tactic.Common

/-!
# Spans

Ranges of natural numbers, and memories laid over them.
-/

set_option autoImplicit false

namespace Xblob.Computation

/-!
## Spans

A span is a half-open interval of natural numbers, given by where it starts and how long it
is.  Two spans are apart when one ends before the other starts; lists of spans that lie one
after the other have at most one member at every point.
-/

/-- A half-open interval. -/
structure Span where
  start : ℕ
  size : ℕ
  deriving DecidableEq, Repr

namespace Span

/-- One past the last point. -/
def stop (s : Span) : ℕ := s.start + s.size

/-- The points of the span. -/
def Holds (s : Span) (x : ℕ) : Prop := s.start ≤ x ∧ x < s.stop

/-- Holding a point is decidable. -/
instance (s : Span) (x : ℕ) : Decidable (s.Holds x) := inferInstanceAs (Decidable (_ ∧ _))

/-- One span ends before the other starts. -/
def Before (s t : Span) : Prop := s.stop ≤ t.start

/-- No point in common, as one lies before the other. -/
def Apart (s t : Span) : Prop := s.Before t ∨ t.Before s

/-- One span is a part of the other. -/
def Inside (s t : Span) : Prop := t.start ≤ s.start ∧ s.stop ≤ t.stop

/-- Lying before is decidable. -/
instance (s t : Span) : Decidable (s.Before t) := inferInstanceAs (Decidable (_ ≤ _))

/-- Being apart is decidable. -/
instance (s t : Span) : Decidable (s.Apart t) := inferInstanceAs (Decidable (_ ∨ _))

/-- Lying inside is decidable. -/
instance (s t : Span) : Decidable (s.Inside t) := inferInstanceAs (Decidable (_ ∧ _))

/-- Being apart is symmetric. -/
theorem Apart.symm {s t : Span} (h : s.Apart t) : t.Apart s := Or.symm h

/-- Being apart is symmetric. -/
instance : Std.Symm Apart := ⟨fun _ _ => Apart.symm⟩

/-- A point of one span is not in a span apart from it. -/
theorem Apart.not_holds {s t : Span} (h : s.Apart t) {x : ℕ} (hs : s.Holds x) :
    ¬ t.Holds x := by
  unfold Apart Before Holds at *
  omega

/-- Spans with points are apart when they have none in common. -/
theorem apart_of_not_holds {s t : Span} (hs : 0 < s.size) (ht : 0 < t.size)
    (h : ∀ x, s.Holds x → ¬ t.Holds x) : s.Apart t := by
  have hleft := h s.start
  have hright := h t.start
  unfold Apart Before Holds stop at *
  omega

/-- A span with points is a part of every span that has them. -/
theorem inside_of_holds {s t : Span} (hs : 0 < s.size) (h : ∀ x, s.Holds x → t.Holds x) :
    s.Inside t := by
  have hfirst := h s.start
  have hlast := h (s.stop - 1)
  unfold Inside Holds stop at *
  omega

/-- A point of the inner span is in the outer one. -/
theorem Inside.holds {s t : Span} (h : s.Inside t) {x : ℕ} (hx : s.Holds x) : t.Holds x := by
  unfold Inside Holds at *
  omega

/-- Being inside composes. -/
theorem Inside.trans {s t u : Span} (hst : s.Inside t) (htu : t.Inside u) : s.Inside u := by
  unfold Inside at *
  omega

/-- A span is apart from everything an outer span is apart from. -/
theorem Apart.of_inside {s t u : Span} (h : t.Apart u) (hs : s.Inside t) : s.Apart u := by
  unfold Apart Before Inside stop at *
  omega

/-- Of things laid out one after the other, one at most has a given point. -/
theorem eq_of_holds {α : Type} {span : α → Span} {l : List α}
    (h : l.Pairwise fun a b => (span a).Apart (span b)) {a b : α} (ha : a ∈ l) (hb : b ∈ l)
    {x : ℕ} (hax : (span a).Holds x) (hbx : (span b).Holds x) : a = b := by
  by_contra hne
  have hsymm : Std.Symm fun a b => (span a).Apart (span b) := ⟨fun _ _ hab => hab.symm⟩
  exact (h.forall ha hb hne).not_holds hax hbx

end Span

/-! ### How often a point is covered -/

namespace Span

/-- One at the points of the span. -/
def mark (s : Span) (x : ℕ) : ℕ := if s.Holds x then 1 else 0

/-- The mark of a span at a point it holds. -/
theorem mark_of_holds {s : Span} {x : ℕ} (h : s.Holds x) : s.mark x = 1 := if_pos h

/-- The mark of a span at a point it does not hold. -/
theorem mark_of_not_holds {s : Span} {x : ℕ} (h : ¬ s.Holds x) : s.mark x = 0 := if_neg h

/-- Two parts of a span, one after the other. -/
theorem mark_add (start p q x : ℕ) :
    mark ⟨start, p⟩ x + mark ⟨start + p, q⟩ x = mark ⟨start, p + q⟩ x := by
  have hiff : ∀ n m : ℕ, Holds ⟨n, m⟩ x ↔ n ≤ x ∧ x < n + m := fun _ _ => Iff.rfl
  simp only [mark, hiff]
  by_cases hfront : start ≤ x ∧ x < start + p
  · rw [if_pos hfront, if_neg (by omega), if_pos (by omega)]
  · by_cases hback : start + p ≤ x ∧ x < start + p + q
    · rw [if_neg hfront, if_pos hback, if_pos (by omega)]
    · rw [if_neg hfront, if_neg hback, if_neg (by omega)]

end Span

/-- The number of spans of a list that have the point. -/
def cover : List Span → ℕ → ℕ
  | [], _ => 0
  | s :: spans, x => s.mark x + cover spans x

/-- No span covers nothing. -/
@[simp] theorem cover_nil (x : ℕ) : cover [] x = 0 := rfl

/-- One span more adds its mark. -/
@[simp] theorem cover_cons (s : Span) (spans : List Span) (x : ℕ) :
    cover (s :: spans) x = s.mark x + cover spans x := rfl

/-- The cover of two lists is the sum of their covers. -/
@[simp] theorem cover_append (l₁ l₂ : List Span) (x : ℕ) :
    cover (l₁ ++ l₂) x = cover l₁ x + cover l₂ x := by
  induction l₁ with
  | nil => simp
  | cons s l₁ ih => simp [ih, Nat.add_assoc]

/-- The cover does not depend on the order of the spans. -/
theorem cover_perm {l₁ l₂ : List Span} (h : l₁.Perm l₂) (x : ℕ) : cover l₁ x = cover l₂ x := by
  induction h with
  | nil => rfl
  | cons s _ ih => simp [ih]
  | swap s t l => simp [Nat.add_left_comm]
  | trans _ _ ih₁ ih₂ => rw [ih₁, ih₂]

/-- A member covers its points. -/
theorem cover_pos {s : Span} {spans : List Span} (hmem : s ∈ spans) {x : ℕ} (hx : s.Holds x) :
    0 < cover spans x := by
  obtain ⟨l₁, l₂, rfl⟩ := List.append_of_mem hmem
  simp only [cover_append, cover_cons, Span.mark_of_holds hx]
  omega

/-- A covered point is a point of a member. -/
theorem exists_of_cover_pos {spans : List Span} {x : ℕ} (h : 0 < cover spans x) :
    ∃ s ∈ spans, s.Holds x := by
  induction spans with
  | nil => simp at h
  | cons s spans ih =>
    by_cases hs : s.Holds x
    · exact ⟨s, List.mem_cons_self, hs⟩
    · rw [cover_cons, Span.mark_of_not_holds hs, Nat.zero_add] at h
      obtain ⟨t, hmem, ht⟩ := ih h
      exact ⟨t, List.mem_cons_of_mem _ hmem, ht⟩

/-- Spans that have no point twice are apart. -/
theorem pairwise_apart_of_cover {spans : List Span} (hpos : ∀ s ∈ spans, 0 < s.size)
    (h : ∀ x, cover spans x ≤ 1) : spans.Pairwise Span.Apart := by
  induction spans with
  | nil => exact List.Pairwise.nil
  | cons s spans ih =>
    have hrest : ∀ x, cover spans x ≤ 1 := by
      intro x
      have hx := h x
      rw [cover_cons] at hx
      omega
    refine List.Pairwise.cons ?_ (ih (fun t ht => hpos t (List.mem_cons_of_mem _ ht)) hrest)
    intro t hmem
    apply Span.apart_of_not_holds (hpos s List.mem_cons_self)
      (hpos t (List.mem_cons_of_mem _ hmem))
    intro x hs ht
    have hx := h x
    have hcover := cover_pos hmem ht
    rw [cover_cons, Span.mark_of_holds hs] at hx
    omega

/-!
## Overlays

A memory gives some of the natural numbers a value.  A block laid over it gives its own values
to the numbers of its span; blocks that follow each other may be laid over as one.
-/

section Overlays

variable {β : Type}

end Overlays

end Xblob.Computation
