import Mathlib.Tactic.Common

/-!
# Loops

A loop is given by what one iteration does from the state at its head: it ends the loop with
a result, or it goes on from another state.  A loop is run with a bound on its iterations;
where a measure falls in every iteration, a bound above it is never met.
-/

set_option autoImplicit false

namespace Xblob.Computation

variable {σ τ ρ υ : Type}

/-- What one iteration comes to. -/
inductive Iteration (σ ρ : Type) where
  | done (r : ρ)
  | again (s : σ)

/-- The result of a loop, if it ends within a number of iterations. -/
def loopWithin (step : σ → Iteration σ ρ) : ℕ → σ → Option ρ
  | 0, _ => none
  | n + 1, s =>
    match step s with
    | .done r => some r
    | .again s' => loopWithin step n s'

/-- The iterations that start at the listed heads lead from one head to another. -/
inductive Goes (step : σ → Iteration σ ρ) : List σ → σ → σ → Prop
  | nil (s : σ) : Goes step [] s s
  | cons {s s' t : σ} {heads : List σ} (hstep : step s = .again s')
      (hrest : Goes step heads s' t) : Goes step (s :: heads) s t

variable {step : σ → Iteration σ ρ} {heads : List σ} {s s' t : σ} {r : ρ} {n : ℕ}

/-- One more round at the end of a loop. -/
theorem Goes.snoc {u : σ} (h : Goes step heads s t) (hstep : step t = .again u) :
    Goes step (heads ++ [t]) s u := by
  induction h with
  | nil _ => exact .cons hstep (.nil u)
  | cons hfirst _ ih => exact .cons hfirst (ih hstep)

/-- The rounds of a loop, one stretch after another. -/
theorem Goes.append {heads' : List σ} {u : σ} (h : Goes step heads s t)
    (h' : Goes step heads' t u) : Goes step (heads ++ heads') s u := by
  induction h with
  | nil _ => exact h'
  | cons hfirst _ ih => exact .cons hfirst (ih h')

/-- The last round of a loop, taken off. -/
theorem Goes.of_snoc {u : σ} (h : Goes step (heads ++ [u]) s t) :
    Goes step heads s u ∧ step u = .again t := by
  induction heads generalizing s with
  | nil =>
    cases h with
    | cons hstep hrest =>
      cases hrest
      exact ⟨.nil u, hstep⟩
  | cons v heads ih =>
    cases h with
    | cons hstep hrest =>
      obtain ⟨hgoes, hlast⟩ := ih hrest
      exact ⟨.cons hstep hgoes, hlast⟩

/-- A loop that has ended went to a head at which it ended. -/
theorem goes_of_loopWithin (h : loopWithin step n s = some r) :
    ∃ heads t, Goes step heads s t ∧ step t = .done r := by
  induction n generalizing s with
  | zero => cases h
  | succ n ih =>
    rw [loopWithin] at h
    cases hstep : step s with
    | done r' =>
      rw [hstep] at h
      cases h
      exact ⟨[], s, .nil s, hstep⟩
    | again s' =>
      rw [hstep] at h
      obtain ⟨heads, t, hgoes, hlast⟩ := ih h
      exact ⟨s :: heads, t, .cons hstep hgoes, hlast⟩

/-- A loop ends within any bound above a measure that falls in every iteration. -/
theorem exists_loopWithin {I : σ → Prop} (μ : σ → ℕ)
    (hfalls : ∀ s s', I s → step s = .again s' → I s' ∧ μ s' < μ s) (hs : I s) (hn : μ s < n) :
    ∃ r, loopWithin step n s = some r := by
  induction n generalizing s with
  | zero => omega
  | succ n ih =>
    rw [loopWithin]
    cases hstep : step s with
    | done r => exact ⟨r, rfl⟩
    | again s' =>
      obtain ⟨hs', hless⟩ := hfalls s s' hs hstep
      exact ih hs' (by omega)

/-! ## Two loops in lockstep -/

/-- Two iterations both end, with related results, or both go on, from related heads. -/
inductive Iteration.Agree (R : σ → τ → Prop) (Q : ρ → υ → Prop) :
    Iteration σ ρ → Iteration τ υ → Prop
  | done {r : ρ} {r' : υ} (h : Q r r') : Agree R Q (.done r) (.done r')
  | again {s : σ} {s' : τ} (h : R s s') : Agree R Q (.again s) (.again s')

/-- Two loops whose iterations agree at all related heads that they come to in as many iterations
go by related heads, to related results. -/
theorem Goes.lockstep {step' : τ → Iteration τ υ} {R : σ → τ → Prop} {Q : ρ → υ → Prop}
    {u t : σ} {u' t' : τ} {heads : List σ} {heads' : List τ} {r : ρ} {r' : υ}
    (hagree : ∀ heads heads' v v', Goes step heads u v → Goes step' heads' u' v' →
      heads.length = heads'.length → R v v' → (step v).Agree R Q (step' v'))
    (hu : R u u') (h : Goes step heads u t) (hlast : step t = .done r)
    (h' : Goes step' heads' u' t') (hlast' : step' t' = .done r') :
    List.Forall₂ R heads heads' ∧ R t t' ∧ Q r r' := by
  induction h generalizing u' heads' with
  | nil u =>
    have hfirst := hagree [] [] u u' (.nil u) (.nil u') rfl hu
    rw [hlast] at hfirst
    cases h' with
    | nil _ =>
      rw [hlast'] at hfirst
      cases hfirst with
      | done hQ => exact ⟨.nil, hu, hQ⟩
    | cons hstep' _ =>
      rw [hstep'] at hfirst
      cases hfirst
  | cons hstep _ ih =>
    have hfirst := hagree [] [] _ u' (.nil _) (.nil u') rfl hu
    rw [hstep] at hfirst
    cases h' with
    | nil _ =>
      rw [hlast'] at hfirst
      cases hfirst
    | cons hstep' hrest' =>
      rw [hstep'] at hfirst
      cases hfirst with
      | again hR =>
        obtain ⟨hheads, ht, hQ⟩ := ih
          (fun heads heads' v v' hv hv' hlength hR => hagree _ _ v v' (.cons hstep hv)
            (.cons hstep' hv') (by simp [hlength]) hR) hR hlast hrest'
        exact ⟨.cons hu hheads, ht, hQ⟩

end Xblob.Computation
