import Mathlib.Data.List.Perm.Basic
import Mathlib.Tactic.Common

/-!
# Stores

When the order of stores does not matter, and how they are taken back.
-/

set_option autoImplicit false

namespace Xblob.Computation

/-!
## Stores that commute

A list of stores gives the same state in every order when any two of its stores commute.  They
need to commute only in the states that the list can reach.
-/

section Commuting

variable {σ α β : Type*} {f : σ → α → σ}

/-- A property that every store of a list keeps. -/
theorem foldl_keeps {P : σ → Prop} {l : List α} (hkeeps : ∀ a ∈ l, ∀ s, P s → P (f s a)) :
    ∀ s, P s → P (l.foldl f s) := by
  induction l with
  | nil => exact fun s hs => hs
  | cons a l ih =>
    rw [List.forall_mem_cons] at hkeeps
    exact fun s hs => ih hkeeps.2 _ (hkeeps.1 s hs)

/-- What no store of a list changes. -/
theorem foldl_unchanged {g : σ → β} {l : List α} (hkeeps : ∀ a ∈ l, ∀ s, g (f s a) = g s)
    (s : σ) : g (l.foldl f s) = g s :=
  foldl_keeps (fun a ha t ht => (hkeeps a ha t).trans ht) s rfl

/-- The order of the stores does not matter. -/
theorem foldl_eq_of_perm {P : σ → Prop} {l l' : List α} (hperm : l.Perm l')
    (hkeeps : ∀ a ∈ l, ∀ s, P s → P (f s a))
    (hcommute : ∀ a ∈ l, ∀ b ∈ l, ∀ s, P s → f (f s a) b = f (f s b) a) :
    ∀ s, P s → l.foldl f s = l'.foldl f s := by
  induction hperm with
  | nil => exact fun _ _ => rfl
  | cons a _ ih =>
    intro s hs
    apply ih
    · exact fun b hb => hkeeps b (List.mem_cons_of_mem a hb)
    · exact fun b hb c hc => hcommute b (List.mem_cons_of_mem a hb) c (List.mem_cons_of_mem a hc)
    · exact hkeeps a List.mem_cons_self s hs
  | swap a b l =>
    intro s hs
    simp only [List.foldl_cons]
    rw [hcommute b (by simp) a (by simp) s hs]
  | trans hl _ ihl ihr =>
    intro s hs
    rw [ihl hkeeps hcommute s hs]
    apply ihr (fun a ha => hkeeps a (hl.mem_iff.2 ha)) _ s hs
    exact fun a ha b hb => hcommute a (hl.mem_iff.2 ha) b (hl.mem_iff.2 hb)

end Commuting

/-!
## Undo logs

A log has what is needed to take changes back, the oldest entry first.  Rolling back undoes the
newest entry first.  A log is good for a state when rolling back leads to the state it was
begun in, and two rules keep it so: an entry may be added that undoes to the state it is added
in, and a state may be changed to one that some entry of the log does not tell from it.
-/

section UndoLog

variable {σ π : Type} {undo : π → σ → σ} {log : List π} {p : π} {s s' : σ}

/-- The entries undone, the newest first. -/
def rollback (undo : π → σ → σ) (log : List π) (s : σ) : σ := log.foldr undo s

/-- An entry that undoes to the present state. -/
theorem rollback_save (h : undo p s = s) : rollback undo (log ++ [p]) s = rollback undo log s := by
  rw [rollback, List.foldr_append]
  exact congrArg (log.foldr undo) h

/-- Two states that are told apart only where an entry of the log overwrites. -/
theorem rollback_eq {R : σ → σ → Prop}
    (hkeep : ∀ p ∈ log, ∀ s s', R s s' → R (undo p s) (undo p s'))
    (hmerge : ∃ p ∈ log, ∀ s s', R s s' → undo p s = undo p s') (h : R s s') :
    rollback undo log s = rollback undo log s' := by
  induction log with
  | nil => simp at hmerge
  | cons p log ih =>
    have hrest : ∀ q ∈ log, ∀ s s', R s s' → R (undo q s) (undo q s') :=
      fun q hq => hkeep q (List.mem_cons_of_mem _ hq)
    obtain ⟨q, hq, hsame⟩ := hmerge
    obtain rfl | hq := List.mem_cons.1 hq
    · -- The older entries see two states that may still differ; this one makes them one.
      have hrelated : ∀ log' : List π, (∀ p ∈ log', ∀ s s', R s s' → R (undo p s) (undo p s')) →
          R (rollback undo log' s) (rollback undo log' s') := by
        intro log' hkeep'
        induction log' with
        | nil => exact h
        | cons r log' ih' =>
          apply hkeep' r List.mem_cons_self
          exact ih' fun r' hr' => hkeep' r' (List.mem_cons_of_mem _ hr')
      exact hsame _ _ (hrelated log hrest)
    · exact congrArg (undo p) (ih hrest ⟨q, hq, hsame⟩)

end UndoLog

end Xblob.Computation
