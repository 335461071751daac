import Mathlib.Logic.Function.Basic
import Mathlib.Tactic.Common

/-!
# Fallible state transformers

`EStateM ε σ α` is a computation on a state `σ` that returns a value of `α` or an
error of `ε`, and leaves a state behind in both cases: a failed computation keeps
whatever it had already done.  This file has the equations by which such a
computation is run symbolically, to be used with the ones of the standard library,
and the embedding of a computation on a part of the state.
-/

set_option autoImplicit false

namespace Xblob.Computation

variable {ε σ τ α β : Type}

/-- A mapped result that succeeds. -/
theorem exists_of_map_ok {f : α → β} {x : Except ε α} {b : β} (h : x.map f = .ok b) :
    ∃ a, x = .ok a ∧ f a = b := by
  cases x with
  | error e => cases h
  | ok a => exact ⟨a, rfl, Except.ok.inj h⟩

/-- A sequence of fallible steps that succeeds. -/
theorem bind_eq_ok {x : Except ε α} {f : α → Except ε β} {b : β} (h : x >>= f = .ok b) :
    ∃ a, x = .ok a ∧ f a = .ok b := by
  cases x with
  | error e => cases h
  | ok a => exact ⟨a, rfl, h⟩

/-- A sequence of computations that succeeds has succeeded twice. -/
theorem run_bind_ok {x : EStateM ε σ α} {f : α → EStateM ε σ β} {b : β} {s s'' : σ}
    (h : EStateM.run (x >>= f) s = .ok b s'') :
    ∃ a s', x.run s = .ok a s' ∧ (f a).run s' = .ok b s'' := by
  rw [EStateM.run_bind] at h
  cases hx : x.run s with
  | error e s' =>
    rw [hx] at h
    cases h
  | ok a s' =>
    rw [hx] at h
    exact ⟨a, s', rfl, h⟩

/-- A choice, run: the condition does not depend on the state. -/
@[simp] theorem run_ite (c : Prop) [Decidable c] (x y : EStateM ε σ α) (s : σ) :
    EStateM.run (if c then x else y) s = if c then x.run s else y.run s := by
  split <;> rfl

/-- Mapping over a computation, run: the form that joins the other equations, which
end in a match on the first result. -/
@[simp high] theorem run_map (f : α → β) (x : EStateM ε σ α) (s : σ) :
    EStateM.run (f <$> x) s = match x.run s with
      | .ok a s => .ok (f a) s
      | .error e s => .error e s := rfl

/-- A failure, run: the state stays. -/
@[simp] theorem run_throw (e : ε) (s : σ) :
    EStateM.run (throw e : EStateM ε σ α) s = .error e s := rfl

/-- The state a computation leaves, whether it succeeded or failed. -/
def stateAfter : EStateM.Result ε σ α → σ
  | .ok _ s => s
  | .error _ s => s

/-- What a computation returns, without the state it leaves. -/
def outcome : EStateM.Result ε σ α → Except ε α
  | .ok a _ => .ok a
  | .error e _ => .error e

/-- The state left by a run that returned. -/
@[simp] theorem stateAfter_ok (a : α) (s : σ) :
    stateAfter (.ok a s : EStateM.Result ε σ α) = s := rfl

/-- The state left by a run that failed. -/
@[simp] theorem stateAfter_error (e : ε) (s : σ) :
    stateAfter (.error e s : EStateM.Result ε σ α) = s := rfl

/-- The outcome of a run that returned. -/
@[simp] theorem outcome_ok (a : α) (s : σ) :
    outcome (.ok a s : EStateM.Result ε σ α) = .ok a := rfl

/-- The outcome of a run that failed. -/
@[simp] theorem outcome_error (e : ε) (s : σ) :
    outcome (.error e s : EStateM.Result ε σ α) = .error e := rfl

/-- A run with a value for its outcome, put together from outcome and state. -/
theorem eq_ok_of_outcome {r : EStateM.Result ε σ α} {a : α} (h : outcome r = .ok a) :
    r = .ok a (stateAfter r) := by
  cases r with
  | ok a' s => cases h; rfl
  | error e s => cases h

/-- A run with an error for its outcome, put together from outcome and state. -/
theorem eq_error_of_outcome {r : EStateM.Result ε σ α} {e : ε} (h : outcome r = .error e) :
    r = .error e (stateAfter r) := by
  cases r with
  | ok a s => cases h
  | error e' s => cases h; rfl

/-- A result without state, run in a state: the state stays. -/
@[simp] theorem run_ofExcept (r : Except ε α) (s : σ) :
    EStateM.run (ofExcept r) s = match r with
      | .ok a => .ok a s
      | .error e => .error e s := by
  cases r <;> rfl

/-- A computation on a part of the state, seen through a getter and a setter. -/
def zoom (get : σ → τ) (put : τ → σ → σ) (f : EStateM ε τ α) : EStateM ε σ α := fun s =>
  match f.run (get s) with
  | .ok a t => .ok a (put t s)
  | .error e t => .error e (put t s)

/-- A computation on a part, run: the part is put back, also on an error. -/
@[simp] theorem run_zoom (get : σ → τ) (put : τ → σ → σ) (f : EStateM ε τ α) (s : σ) :
    EStateM.run (zoom get put f) s = match f.run (get s) with
      | .ok a t => .ok a (put t s)
      | .error e t => .error e (put t s) := rfl

/-- A computation whose error is dropped: the state is kept as it is, and the run goes on. -/
def regardless (f : EStateM ε σ Unit) : EStateM ε σ Unit := fun s => .ok () (stateAfter (f.run s))

/-- A computation whose error is dropped, run: it returns, with the state left. -/
@[simp] theorem run_regardless (f : EStateM ε σ Unit) (s : σ) :
    EStateM.run (regardless f) s = .ok () (stateAfter (f.run s)) := rfl

/-- A computation that is run under a condition. -/
def onlyIf (c : Bool) (f : EStateM ε σ Unit) : EStateM ε σ Unit := if c then f else pure ()

/-- A condition that holds lets the computation run. -/
theorem onlyIf_true (f : EStateM ε σ Unit) : onlyIf true f = f := rfl

/-! ## What a computation does to the state it starts from -/

/-- The computation leaves the state as it was, whether it succeeds or fails. -/
def Quiet (f : EStateM ε σ α) (s : σ) : Prop := stateAfter (f.run s) = s

/-- The computation leaves the part `g` of the state as it was if it fails. -/
def AtomicOn (g : σ → τ) (f : EStateM ε σ α) (s : σ) : Prop :=
  ∀ e s', f.run s = .error e s' → g s' = g s

/-- The computation does not fail. -/
def Sure (f : EStateM ε σ α) (s : σ) : Prop := ∀ e s', f.run s ≠ .error e s'

/-- The computation leaves the part `g` of the state as it was. -/
def Keeps (g : σ → τ) (f : EStateM ε σ α) (s : σ) : Prop := g (stateAfter (f.run s)) = g s

/-- The part is unchanged where the run returns. -/
theorem Keeps.ok {g : σ → τ} {f : EStateM ε σ α} {s s' : σ} (h : Keeps g f s) {a : α}
    (hr : f.run s = .ok a s') : g s' = g s := by
  simpa [Keeps, hr] using h

/-- The part is unchanged where the run fails. -/
theorem Keeps.error {g : σ → τ} {f : EStateM ε σ α} {s s' : σ} (h : Keeps g f s) {e : ε}
    (hr : f.run s = .error e s') : g s' = g s := by
  simpa [Keeps, hr] using h

/-- A sequence keeps a part that both of its computations keep. -/
theorem Keeps.bind {g : σ → τ} {x : EStateM ε σ α} {f : α → EStateM ε σ β} {s : σ}
    (hx : Keeps g x s) (hf : ∀ a s', x.run s = .ok a s' → Keeps g (f a) s') :
    Keeps g (x >>= f) s := by
  unfold Keeps
  rw [EStateM.run_bind]
  cases hr : x.run s with
  | ok a s' => exact (hf a s' hr).trans (hx.ok hr)
  | error e s' => exact hx.error hr

/-- Steps that keep a part, one after the other. -/
theorem keeps_forM {g : σ → τ} {f : α → EStateM ε σ PUnit} (l : List α)
    (hf : ∀ a ∈ l, ∀ s, Keeps g (f a) s) (s : σ) : Keeps g (l.forM f) s := by
  induction l generalizing s with
  | nil => rfl
  | cons a l ih =>
    rw [List.forall_mem_cons] at hf
    exact (hf.1 s).bind fun _ s' _ => ih hf.2 s'

/-- A run that drops its error keeps what the run keeps. -/
theorem Keeps.regardless {g : σ → τ} {f : EStateM ε σ Unit} {s : σ}
    (h : Keeps g f s) : Keeps g (regardless f) s := h

/-- What a computation keeps is kept when it runs under a condition. -/
theorem Keeps.onlyIf {g : σ → τ} {f : EStateM ε σ Unit} {s : σ} (h : Keeps g f s) (c : Bool) :
    Keeps g (onlyIf c f) s := by
  cases c with
  | false => rfl
  | true => exact h

/-- Setting a state with an equal part keeps the part. -/
theorem keeps_set {g : σ → τ} {s t : σ} (h : g t = g s) :
    Keeps g (set t : EStateM ε σ PUnit) s := h

/-- A run that succeeds is not handled. -/
theorem run_tryCatch_ok {x : EStateM ε σ α} {s s' : σ} {a : α} (h : x.run s = .ok a s')
    (handler : ε → EStateM ε σ α) : EStateM.run (tryCatch x handler) s = .ok a s' := by
  change EStateM.tryCatch x handler s = _
  unfold EStateM.tryCatch
  rw [show x s = .ok a s' from h]

/-- A run that fails is handled in the state it has left. -/
theorem run_tryCatch_error {x : EStateM ε σ α} {s s' : σ} {e : ε} (h : x.run s = .error e s')
    (handler : ε → EStateM ε σ α) : EStateM.run (tryCatch x handler) s = (handler e).run s' := by
  change EStateM.tryCatch x handler s = _
  unfold EStateM.tryCatch
  rw [show x s = .error e s' from h]
  rfl

/-- A handler that throws has not been run where the whole succeeds. -/
theorem run_ok_of_tryCatch {x : EStateM ε σ α} {handler : ε → EStateM ε σ α} {s s' : σ} {a : α}
    (hthrows : ∀ e s₁, ∃ s₂, (handler e).run s₁ = .error e s₂)
    (h : EStateM.run (tryCatch x handler) s = .ok a s') : x.run s = .ok a s' := by
  cases hx : x.run s with
  | ok b s₁ =>
    rw [run_tryCatch_ok hx] at h
    exact h
  | error e s₁ =>
    obtain ⟨s₂, hthrow⟩ := hthrows e s₁
    rw [run_tryCatch_error hx, hthrow] at h
    cases h

/-- A part that a run and its handler keep is kept by the whole. -/
theorem Keeps.tryCatch {g : σ → τ} {x : EStateM ε σ α}
    {handler : ε → EStateM ε σ α} {s : σ} (hx : Keeps g x s)
    (hhandler : ∀ e s', x.run s = .error e s' → Keeps g (handler e) s') :
    Keeps g (tryCatch x handler) s := by
  unfold Keeps
  cases hr : x.run s with
  | ok a s' =>
    rw [run_tryCatch_ok hr]
    exact hx.ok hr
  | error e s' =>
    rw [run_tryCatch_error hr]
    exact (hhandler e s' hr).trans (hx.error hr)

/-- A quiet computation keeps every part of the state. -/
theorem Quiet.keeps {f : EStateM ε σ α} {s : σ} (h : Quiet f s) (g : σ → τ) : Keeps g f s :=
  congrArg g h

/-- Returning a value is quiet. -/
theorem quiet_pure (a : α) (s : σ) : Quiet (pure a : EStateM ε σ α) s := rfl

/-- Failing is quiet. -/
theorem quiet_throw (e : ε) (s : σ) : Quiet (throw e : EStateM ε σ α) s := rfl

/-- Reading the state is quiet. -/
theorem quiet_get (s : σ) : Quiet (get : EStateM ε σ σ) s := rfl

/-- A result without state is quiet. -/
theorem quiet_ofExcept (r : Except ε α) (s : σ) : Quiet (ofExcept r : EStateM ε σ α) s := by
  cases r <;> rfl

/-- A quiet computation that succeeds does so in the state it started from. -/
theorem Quiet.ok {f : EStateM ε σ α} {s s' : σ} (h : Quiet f s) {a : α}
    (hr : f.run s = .ok a s') : s' = s := by
  simpa [Quiet, hr] using h

/-- A quiet computation that fails does so in the state it started from. -/
theorem Quiet.error {f : EStateM ε σ α} {s s' : σ} (h : Quiet f s) {e : ε}
    (hr : f.run s = .error e s') : s' = s := by
  simpa [Quiet, hr] using h

/-- A quiet computation is its outcome, in the state it started from. -/
theorem Quiet.run_eq {f : EStateM ε σ α} {s : σ} (h : Quiet f s) :
    f.run s = match outcome (f.run s) with
      | .ok a => .ok a s
      | .error e => .error e s := by
  cases hr : f.run s with
  | ok a s' => cases h.ok hr; rfl
  | error e s' => cases h.error hr; rfl

/-- A sequence of quiet computations is quiet; the second only has to be where the first
returns. -/
theorem Quiet.bind {x : EStateM ε σ α} {f : α → EStateM ε σ β} {s : σ} (hx : Quiet x s)
    (hf : ∀ a, x.run s = .ok a s → Quiet (f a) s) : Quiet (x >>= f) s := by
  unfold Quiet
  rw [EStateM.run_bind]
  cases hr : x.run s with
  | ok a s' =>
    cases hx.ok hr
    exact hf a hr
  | error e s' => exact hx.error hr

/-- A part that is always kept is kept on an error. -/
theorem Keeps.atomicOn {g : σ → τ} {f : EStateM ε σ α} {s : σ} (h : Keeps g f s) :
    AtomicOn g f s :=
  fun _ _ hr => h.error hr

/-- A computation that does not fail is atomic on every part. -/
theorem Sure.atomicOn {f : EStateM ε σ α} {s : σ} (h : Sure f s) (g : σ → τ) :
    AtomicOn g f s :=
  fun e s' hr => absurd hr (h e s')

/-- Nothing is lost when what comes first keeps the part. -/
theorem Keeps.bind_atomicOn {g : σ → τ} {x : EStateM ε σ α} {f : α → EStateM ε σ β} {s : σ}
    (hx : Keeps g x s) (hf : ∀ a s', x.run s = .ok a s' → AtomicOn g (f a) s') :
    AtomicOn g (x >>= f) s := by
  intro e s' hr
  rw [EStateM.run_bind] at hr
  cases hxr : x.run s with
  | ok a s₁ =>
    rw [hxr] at hr
    exact (hf a s₁ hxr e s' hr).trans (hx.ok hxr)
  | error e₁ s₁ =>
    rw [hxr] at hr
    cases hr
    exact hx.error hxr

/-- Nothing is lost when what comes first is quiet. -/
theorem Quiet.bind_atomicOn {g : σ → τ} {x : EStateM ε σ α} {f : α → EStateM ε σ β} {s : σ}
    (hx : Quiet x s) (hf : ∀ a, x.run s = .ok a s → AtomicOn g (f a) s) :
    AtomicOn g (x >>= f) s := by
  refine (hx.keeps g).bind_atomicOn fun a s' hr => ?_
  cases hx.ok hr
  exact hf a hr

/-- Nothing is lost when what comes after cannot fail. -/
theorem AtomicOn.bind_sure {g : σ → τ} {x : EStateM ε σ α} {f : α → EStateM ε σ β} {s : σ}
    (hx : AtomicOn g x s) (hf : ∀ a s', x.run s = .ok a s' → Sure (f a) s') :
    AtomicOn g (x >>= f) s := by
  intro e s' hr
  rw [EStateM.run_bind] at hr
  cases hxr : x.run s with
  | ok a s₁ =>
    rw [hxr] at hr
    exact absurd hr (hf a s₁ hxr e s')
  | error e₁ s₁ =>
    rw [hxr] at hr
    cases hr
    exact hx _ _ hxr

/-- Returning a value does not fail. -/
theorem sure_pure (a : α) (s : σ) : Sure (pure a : EStateM ε σ α) s := by
  intro e s' h
  cases h

/-- Setting the state does not fail. -/
theorem sure_set (t s : σ) : Sure (set t : EStateM ε σ PUnit) s := by
  intro e s' h
  cases h

/-- Changing the state does not fail. -/
theorem sure_modify (f : σ → σ) (s : σ) : Sure (modify f : EStateM ε σ PUnit) s := by
  intro e s' h
  cases h

/-- A sequence of computations that do not fail does not fail. -/
theorem Sure.bind {x : EStateM ε σ α} {f : α → EStateM ε σ β} {s : σ} (hx : Sure x s)
    (hf : ∀ a s', x.run s = .ok a s' → Sure (f a) s') : Sure (x >>= f) s := by
  intro e s' hr
  rw [EStateM.run_bind] at hr
  cases hxr : x.run s with
  | ok a s₁ =>
    rw [hxr] at hr
    exact hf a s₁ hxr e s' hr
  | error e₁ s₁ => exact hx e₁ s₁ hxr

/-- A computation on a part of the state is quiet when the part's own is. -/
theorem Quiet.zoom {get : σ → τ} {put : τ → σ → σ} {f : EStateM ε τ α} {s : σ}
    (h : Quiet f (get s)) (hput : put (get s) s = s) : Quiet (zoom get put f) s := by
  unfold Quiet at h ⊢
  rw [run_zoom]
  cases hr : f.run (get s) with
  | ok a t =>
    rw [hr, stateAfter_ok] at h
    simp [h, hput]
  | error e t =>
    rw [hr, stateAfter_error] at h
    simp [h, hput]

/-- A computation on a part of the state keeps the part when the part's own is quiet. -/
theorem keeps_zoom {get : σ → τ} {put : τ → σ → σ} {f : EStateM ε τ α} {s : σ}
    (h : Quiet f (get s)) (hput : ∀ t, get (put t s) = t) : Keeps get (zoom get put f) s := by
  unfold Quiet at h
  unfold Keeps
  rw [run_zoom]
  cases hr : f.run (get s) with
  | ok a t =>
    rw [hr, stateAfter_ok] at h
    simp [h, hput]
  | error e t =>
    rw [hr, stateAfter_error] at h
    simp [h, hput]

/-- A computation on a part of the state keeps what the part's own keeps. -/
theorem Keeps.zoom {ρ υ : Type} {get : σ → τ} {put : τ → σ → σ} {f : EStateM ε τ α} {s : σ}
    {g : τ → ρ} {g' : σ → υ} (h : Keeps g f (get s))
    (hput : ∀ t, g t = g (get s) → g' (put t s) = g' s) : Keeps g' (zoom get put f) s := by
  unfold Keeps at h ⊢
  rw [run_zoom]
  cases hr : f.run (get s) with
  | ok a t =>
    rw [hr] at h
    exact hput t h
  | error e t =>
    rw [hr] at h
    exact hput t h

/-- Changing the error of a computation does not change what it does to the state. -/
theorem Quiet.adaptExcept {ε' : Type} {x : EStateM ε σ α} {s : σ} (h : Quiet x s)
    (f : ε → ε') : Quiet (EStateM.adaptExcept f x) s := by
  unfold Quiet at h ⊢
  rw [EStateM.run_adaptExcept]
  cases hr : x.run s with
  | ok a s' => simpa [hr] using h
  | error e s' => simpa [hr] using h

/-- A computation on a part of the state is atomic when the part's own is. -/
theorem AtomicOn.zoom {ρ υ : Type} {get : σ → τ} {put : τ → σ → σ} {f : EStateM ε τ α} {s : σ}
    {g : τ → ρ} {g' : σ → υ} (h : AtomicOn g f (get s))
    (hput : ∀ t, g t = g (get s) → g' (put t s) = g' s) :
    AtomicOn g' (zoom get put f) s := by
  intro e s' hr
  rw [run_zoom] at hr
  cases hf : f.run (get s) with
  | ok a t => simp [hf] at hr
  | error e₁ t =>
    simp only [hf, EStateM.Result.error.injEq] at hr
    rw [← hr.2]
    exact hput t (h e₁ t hf)

/-! ## Properties that a computation maintains -/

/-- The computation leaves a state with the property if it starts from one. -/
def Maintains (P : σ → Prop) (f : EStateM ε σ α) (s : σ) : Prop :=
  P s → P (stateAfter (f.run s))

/-- What depends on a kept part only is maintained. -/
theorem Keeps.maintains {g : σ → τ} {f : EStateM ε σ α} {s : σ} (h : Keeps g f s)
    (P : τ → Prop) : Maintains (fun s => P (g s)) f s := by
  intro hs
  rw [show g (stateAfter (f.run s)) = g s from h]
  exact hs

/-- A quiet computation maintains every invariant. -/
theorem Quiet.maintains {f : EStateM ε σ α} {s : σ} (h : Quiet f s) (P : σ → Prop) :
    Maintains P f s := by
  intro hs
  rw [show stateAfter (f.run s) = s from h]
  exact hs

/-- A sequence maintains an invariant that both of its computations maintain. -/
theorem Maintains.bind {P : σ → Prop} {x : EStateM ε σ α} {f : α → EStateM ε σ β} {s : σ}
    (hx : Maintains P x s) (hf : ∀ a s', x.run s = .ok a s' → Maintains P (f a) s') :
    Maintains P (x >>= f) s := by
  intro hs
  have hafter := hx hs
  rw [EStateM.run_bind]
  cases hr : x.run s with
  | ok a s' =>
    rw [hr] at hafter
    exact hf a s' hr hafter
  | error e s' =>
    rw [hr] at hafter
    exact hafter

/-- A run that drops its error maintains what the run maintains. -/
theorem Maintains.regardless {P : σ → Prop} {f : EStateM ε σ Unit} {s : σ}
    (h : Maintains P f s) : Maintains P (regardless f) s := h

/-- An invariant is maintained when the computation runs under a condition. -/
theorem Maintains.onlyIf {P : σ → Prop} {f : EStateM ε σ Unit} {s : σ} (h : Maintains P f s)
    (c : Bool) : Maintains P (onlyIf c f) s := by
  cases c with
  | false => exact fun hs => hs
  | true => exact h

/-- A property that a run and its handler maintain is maintained by the whole. -/
theorem Maintains.tryCatch {P : σ → Prop} {x : EStateM ε σ α} {handler : ε → EStateM ε σ α}
    {s : σ} (hx : Maintains P x s)
    (hhandler : ∀ e s', x.run s = .error e s' → Maintains P (handler e) s') :
    Maintains P (tryCatch x handler) s := by
  intro hs
  have hafter := hx hs
  cases hr : x.run s with
  | ok a s' =>
    rw [hr] at hafter
    rw [run_tryCatch_ok hr]
    exact hafter
  | error e s' =>
    rw [hr] at hafter
    rw [run_tryCatch_error hr]
    exact hhandler e s' hr hafter

end Xblob.Computation
