import Xblob.Computation.Program

/-!
# Two runs in lockstep

The same computation, run from two states that differ only in what it should not
depend on, is expected to return the same value or the same error from both, and to
leave states that are related again.  `Lockstep` says so for one computation and one
pair of states.  The relation after success may depend on the returned value; the
relation after failure is fixed along a sequence, since a failure ends it.

The rules follow sequencing, and for programs the shapes of `Program`: requests that
keep the stronger relation `R` may come in any number, and one request may leave only
the weaker relation `E`.
-/

set_option autoImplicit false

namespace Xblob.Computation

variable {ε σ τ α β : Type}

/-- Two results with the same value or the same error, in related states. -/
def Agree (Q : α → σ → σ → Prop) (E : σ → σ → Prop) :
    EStateM.Result ε σ α → EStateM.Result ε σ α → Prop
  | .ok a s, .ok b t => a = b ∧ Q a s t
  | .error e s, .error f t => e = f ∧ E s t
  | _, _ => False

/-- Running `f` from `s` and from `t` agrees. -/
def Lockstep (f : EStateM ε σ α) (Q : α → σ → σ → Prop) (E : σ → σ → Prop) (s t : σ) : Prop :=
  Agree Q E (f.run s) (f.run t)

section Rules

variable {Q Q' : α → σ → σ → Prop} {P : β → σ → σ → Prop} {E E' : σ → σ → Prop} {s t : σ}

/-- A value returned keeps two runs in step. -/
theorem lockstep_pure {a : α} (h : Q a s t) : Lockstep (pure a : EStateM ε σ α) Q E s t :=
  ⟨rfl, h⟩

/-- A failure keeps two runs in step. -/
theorem lockstep_throw {e : ε} (h : E s t) : Lockstep (throw e : EStateM ε σ α) Q E s t :=
  ⟨rfl, h⟩

/-- Two results that agree both return the same or both fail alike. -/
theorem Agree.cases {x y : EStateM.Result ε σ α} (h : Agree Q E x y) :
    (∃ a s t, x = .ok a s ∧ y = .ok a t ∧ Q a s t) ∨
      ∃ e s t, x = .error e s ∧ y = .error e t ∧ E s t := by
  cases x with
  | ok a s =>
    cases y with
    | ok b t =>
      obtain ⟨rfl, hq⟩ := h
      exact .inl ⟨a, s, t, rfl, rfl, hq⟩
    | error f t => exact h.elim
  | error e s =>
    cases y with
    | ok b t => exact h.elim
    | error f t =>
      obtain ⟨rfl, he⟩ := h
      exact .inr ⟨e, s, t, rfl, rfl, he⟩

/-- Both relations of a lockstep may be weakened. -/
theorem Lockstep.mono {f : EStateM ε σ α} (h : Lockstep f Q E s t)
    (hQ : ∀ a s t, Q a s t → Q' a s t) (hE : ∀ s t, E s t → E' s t) : Lockstep f Q' E' s t := by
  unfold Lockstep
  obtain ⟨a, s', t', hs, ht, hq⟩ | ⟨e, s', t', hs, ht, he⟩ := Agree.cases h
  · rw [hs, ht]
    exact ⟨rfl, hQ a s' t' hq⟩
  · rw [hs, ht]
    exact ⟨rfl, hE s' t' he⟩

/-- Two runs that are in step stay so through a sequence. -/
theorem Lockstep.bind {x : EStateM ε σ α} {f : α → EStateM ε σ β} (hx : Lockstep x Q E s t)
    (hf : ∀ a s' t', Q a s' t' → Lockstep (f a) P E s' t') : Lockstep (x >>= f) P E s t := by
  unfold Lockstep
  rw [EStateM.run_bind, EStateM.run_bind]
  obtain ⟨a, s', t', hs, ht, hq⟩ | ⟨e, s', t', hs, ht, he⟩ := Agree.cases hx
  · rw [hs, ht]
    exact hf a s' t' hq
  · rw [hs, ht]
    exact ⟨rfl, he⟩

/-- A computation on a part of the state runs in lockstep when the part's own does. -/
theorem Lockstep.zoom {get : σ → τ} {put : τ → σ → σ} {f : EStateM ε τ α}
    {Qₜ : α → τ → τ → Prop} {Eₜ : τ → τ → Prop} (h : Lockstep f Qₜ Eₜ (get s) (get t))
    (hQ : ∀ a u v, Qₜ a u v → Q a (put u s) (put v t))
    (hE : ∀ u v, Eₜ u v → E (put u s) (put v t)) : Lockstep (zoom get put f) Q E s t := by
  unfold Lockstep
  rw [run_zoom, run_zoom]
  obtain ⟨a, u, v, hs, ht, hq⟩ | ⟨e, u, v, hs, ht, he⟩ := Agree.cases h
  · rw [hs, ht]
    exact ⟨rfl, hQ a u v hq⟩
  · rw [hs, ht]
    exact ⟨rfl, hE u v he⟩

/-- Renaming the errors keeps two runs in step. -/
theorem Lockstep.adaptExcept {ε' : Type} {f : EStateM ε σ α} (h : Lockstep f Q E s t)
    (g : ε → ε') : Lockstep (EStateM.adaptExcept g f) Q E s t := by
  unfold Lockstep
  rw [EStateM.run_adaptExcept, EStateM.run_adaptExcept]
  obtain ⟨a, u, v, hs, ht, hq⟩ | ⟨e, u, v, hs, ht, he⟩ := Agree.cases h
  · rw [hs, ht]
    exact ⟨rfl, hq⟩
  · rw [hs, ht]
    exact ⟨rfl, he⟩

/-- From the same state a computation agrees with itself. -/
theorem lockstep_refl (f : EStateM ε σ α) (s : σ) :
    Lockstep f (fun _ u v => u = v) Eq s s := by
  unfold Lockstep
  cases f.run s with
  | ok a u => exact ⟨rfl, rfl⟩
  | error e u => exact ⟨rfl, rfl⟩

/-- A result without state keeps two runs in step. -/
theorem lockstep_ofExcept (r : Except ε α) (hQ : ∀ a, Q a s t) (hE : E s t) :
    Lockstep (ofExcept r : EStateM ε σ α) Q E s t := by
  cases r with
  | ok a => exact ⟨rfl, hQ a⟩
  | error e => exact ⟨rfl, hE⟩

/-- What comes after is the same, whichever of the two states is looked at. -/
theorem lockstep_get_bind {k : σ → EStateM ε σ α} (hk : k t = k s)
    (h : Lockstep (k s) Q E s t) : Lockstep (get >>= k) Q E s t := by
  unfold Lockstep at h ⊢
  rw [EStateM.run_bind, EStateM.run_bind]
  simp only [EStateM.run_get, hk]
  exact h

/-- Steps that keep a relation, one after the other. -/
theorem lockstep_forM {R : σ → σ → Prop} {f : α → EStateM ε σ PUnit} (l : List α)
    (hf : ∀ a ∈ l, ∀ s t, R s t → Lockstep (f a) (fun _ => R) R s t) (hs : R s t) :
    Lockstep (l.forM f) (fun _ => R) R s t := by
  induction l generalizing s t with
  | nil => exact lockstep_pure hs
  | cons a l ih =>
    rw [List.forall_mem_cons] at hf
    exact (hf.1 s t hs).bind fun _ s' t' hst => ih hf.2 hst

end Rules

/-! ## Programs -/

namespace Program

variable {S : Signature} {h : (r : S.Request) → EStateM ε σ (S.Answer r)}
  {L T : S.Request → Prop} {Q : α → Prop} {R E : σ → σ → Prop} {s t : σ}

/-- A program whose requests keep the relation keeps it. -/
theorem Within.lockstep {x : Program S ε α} (hx : x.Within L Q) (hRE : ∀ s t, R s t → E s t)
    (hL : ∀ r, L r → ∀ s t, R s t → Lockstep (h r) (fun _ => R) E s t) (hs : R s t) :
    Lockstep (x.run h) (fun a s t => Q a ∧ R s t) E s t := by
  induction x generalizing s t with
  | done a => exact lockstep_pure ⟨hx, hs⟩
  | fail e => exact lockstep_throw (hRE s t hs)
  | ask r k ih =>
    exact (hL r hx.1 s t hs).bind fun a s' t' hst => ih a (hx.2 a) hst

/-- A program keeps the relation when the requests that it makes in the run from the first
state keep it; they are made in the run from the second as well. -/
theorem Within.lockstep_along {P : S.Request → Prop} {x : Program S ε α} (hx : x.Within L Q)
    (ha : x.Along h P s)
    (hL : ∀ r, L r → P r → ∀ s t, R s t → Lockstep (h r) (fun _ => R) R s t) (hs : R s t) :
    Lockstep (x.run h) (fun _ => R) R s t := by
  induction x generalizing s t with
  | done a => exact lockstep_pure hs
  | fail e => exact lockstep_throw hs
  | ask r k ih =>
    unfold Lockstep
    rw [Program.run, EStateM.run_bind, EStateM.run_bind]
    obtain ⟨a, s', t', hs', ht', hst⟩ | ⟨e, s', t', hs', ht', hst⟩ :=
      Agree.cases (hL r hx.1 ha.1 s t hs)
    · rw [hs', ht']
      exact ih a (hx.2 a) (ha.2 a s' hs') hst
    · rw [hs', ht']
      exact ⟨rfl, hst⟩

/-- A program that stores once keeps the weaker relation, and keeps the stronger one
unless it returns what it promises. -/
theorem OneStore.lockstep {x : Program S ε α} (hx : x.OneStore L T Q)
    (hRE : ∀ s t, R s t → E s t)
    (hL : ∀ r, L r → ∀ s t, R s t → Lockstep (h r) (fun _ => R) E s t)
    (hA : ∀ r s t, R s t → Lockstep (h r) (fun _ => E) E s t)
    (hT : ∀ r, T r → ∀ s t, E s t → Lockstep (h r) (fun _ => E) E s t) (hs : R s t) :
    Lockstep (x.run h) (fun a s t => R s t ∨ Q a ∧ E s t) E s t := by
  induction x generalizing s t with
  | done a => exact lockstep_pure (.inl hs)
  | fail e => exact lockstep_throw (hRE s t hs)
  | ask r k ih =>
    rcases hx with ⟨hr, hk⟩ | hk
    · exact (hL r hr s t hs).bind fun a s' t' hst => ih a (hk a) hst
    · refine (hA r s t hs).bind fun a s' t' hst => ?_
      exact ((hk a).lockstep (fun _ _ h => h) hT hst).mono (fun _ _ _ h => .inr h) fun _ _ h => h

end Program

end Xblob.Computation
