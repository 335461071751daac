import Mathlib.Data.List.Basic

/-!
# Codes whose words tell their length

A list is a concatenation of words of a code.  When the first letter of a word gives its length,
the words of a list are found from the left, and in only one way.
-/

set_option autoImplicit false

namespace Xblob.Computation

variable {α : Type*} {P Q : List α → Prop} {len : α → ℕ}

/-- A list that is words of a code, one after the other. -/
def Concatenation (P : List α → Prop) (l : List α) : Prop :=
  ∃ parts : List (List α), (∀ s ∈ parts, P s) ∧ parts.flatten = l

/-- The first letter of a word gives its length. -/
def SelfDelimiting (P : List α → Prop) (len : α → ℕ) : Prop :=
  ∀ s, P s → ∃ a t, s = a :: t ∧ s.length = len a

/-- The empty list is a concatenation of no parts. -/
theorem concatenation_nil : Concatenation P [] := ⟨[], by simp⟩

/-- A concatenation of parts is one of any wider kind of parts. -/
theorem Concatenation.mono (hPQ : ∀ s, P s → Q s) {l : List α} (h : Concatenation P l) :
    Concatenation Q l := by
  obtain ⟨parts, hparts, hl⟩ := h
  exact ⟨parts, fun s hs => hPQ s (hparts s hs), hl⟩

/-- Words that satisfy a condition on letters are the words of the list, when its letters do. -/
theorem Concatenation.restrict {p : α → Prop} (hPQ : ∀ s, P s → (∀ a ∈ s, p a) → Q s)
    {l : List α} (h : Concatenation P l) (hl : ∀ a ∈ l, p a) : Concatenation Q l := by
  obtain ⟨parts, hparts, rfl⟩ := h
  refine ⟨parts, fun s hs => hPQ s (hparts s hs) fun a ha => ?_, rfl⟩
  exact hl a (List.mem_flatten_of_mem hs ha)

/-- A condition on letters that all words satisfy. -/
theorem Concatenation.forall_mem {p : α → Prop} (hP : ∀ s, P s → ∀ a ∈ s, p a) {l : List α}
    (h : Concatenation P l) : ∀ a ∈ l, p a := by
  obtain ⟨parts, hparts, rfl⟩ := h
  intro a ha
  obtain ⟨s, hs, has⟩ := List.mem_flatten.1 ha
  exact hP s (hparts s hs) a has

/-- The first word of a list is as long as its first letter tells. -/
theorem concatenation_cons_iff (hlen : SelfDelimiting P len) (a : α) (t : List α) :
    Concatenation P (a :: t) ↔
      P ((a :: t).take (len a)) ∧ Concatenation P ((a :: t).drop (len a)) := by
  constructor
  · rintro ⟨parts, hparts, hl⟩
    induction parts with
    | nil => simp at hl
    | cons s rest ih =>
      obtain ⟨b, u, rfl, hb⟩ := hlen s (hparts s List.mem_cons_self)
      rw [List.flatten_cons, List.cons_append, List.cons.injEq] at hl
      obtain ⟨rfl, rfl⟩ := hl
      rw [← List.cons_append, ← hb, List.take_left, List.drop_left]
      exact ⟨hparts _ List.mem_cons_self, rest, fun s hs => hparts s (List.mem_cons_of_mem _ hs), rfl⟩
  · rintro ⟨hword, parts, hparts, hrest⟩
    refine ⟨(a :: t).take (len a) :: parts, ?_, ?_⟩
    · rw [List.forall_mem_cons]
      exact ⟨hword, hparts⟩
    · rw [List.flatten_cons, hrest, List.take_append_drop]

end Xblob.Computation
