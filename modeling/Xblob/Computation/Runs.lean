import Mathlib.Tactic.Common

/-!
# Guarded runs

A machine takes calls one after the other.  A guarded run is a run in which every call meets
a condition on the state before it.  What the first state has and every guarded call keeps
holds in every state of a guarded run.
-/

set_option autoImplicit false

namespace Xblob.Computation

variable {σ κ : Type}

/-- The calls lead from one state to another, each under its guard. -/
inductive Runs (next : σ → κ → σ) (Guard : σ → κ → Prop) : List κ → σ → σ → Prop
  | nil (s : σ) : Runs next Guard [] s s
  | cons {s s' : σ} {c : κ} {cs : List κ} (hguard : Guard s c)
      (hrest : Runs next Guard cs (next s c) s') : Runs next Guard (c :: cs) s s'

variable {next : σ → κ → σ} {Guard : σ → κ → Prop} {cs : List κ} {s s' : σ}

/-- An invariant of guarded calls holds at the end of a guarded run. -/
theorem Runs.invariant {I : σ → Prop} (hstep : ∀ s c, I s → Guard s c → I (next s c))
    (hruns : Runs next Guard cs s s') (hs : I s) : I s' := by
  induction hruns with
  | nil => exact hs
  | cons hguard _ ih =>
    apply ih
    exact hstep _ _ hs hguard

/-- Where an invariant of the calls of a run makes another guard hold of them, the run is one
under that guard. -/
theorem Runs.under {Guard' : σ → κ → Prop} {I : σ → Prop} (hs : I s)
    (hstep : ∀ s c, I s → Guard s c → Guard' s c ∧ I (next s c))
    (hruns : Runs next Guard cs s s') : Runs next Guard' cs s s' := by
  induction hruns with
  | nil => exact Runs.nil _
  | cons hguard _ ih =>
    obtain ⟨hguard', hnext⟩ := hstep _ _ hs hguard
    exact Runs.cons hguard' (ih hnext)

/-- A run under two guards is one under both. -/
theorem Runs.and {Guard' : σ → κ → Prop} (hruns : Runs next Guard cs s s')
    (hruns' : Runs next Guard' cs s s') : Runs next (fun s c => Guard s c ∧ Guard' s c) cs s s' := by
  induction hruns with
  | nil => exact Runs.nil _
  | cons hguard _ ih =>
    cases hruns' with
    | cons hguard' hrest' => exact Runs.cons ⟨hguard, hguard'⟩ (ih hrest')

end Xblob.Computation
