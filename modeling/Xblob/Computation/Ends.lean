import Xblob.Computation.Program

/-!
# Where a computation ends

`Ends m s Q E` says where the computation `m` ends when it is started in `s`: if it
returns, the value and the state are in `Q`; if it fails, the state is in `E`.  The rules
follow the text of a computation, so that a goal about a sequence becomes a goal about
its first part.  An invariant is kept by a computation when it ends in it both ways.

`Covers m m'` says that `m'` returns what `m` returns wherever `m` does: it is how a
computation with more fuel relates to one with less.
-/

set_option autoImplicit false

namespace Xblob.Computation

variable {ε σ α β : Type}

/-- Started in `s`, the computation ends in `Q` if it returns and in `E` if it fails. -/
def Ends (m : EStateM ε σ α) (s : σ) (Q : α → σ → Prop) (E : σ → Prop) : Prop :=
  match m.run s with
  | .ok a s' => Q a s'
  | .error _ s' => E s'

variable {Q : α → σ → Prop} {E : σ → Prop} {s : σ}

/-- Where the run returns, it ends in `Q`. -/
theorem Ends.ok {m : EStateM ε σ α} (h : Ends m s Q E) {a : α} {s' : σ}
    (hr : m.run s = .ok a s') : Q a s' := by
  unfold Ends at h
  rw [hr] at h
  exact h

/-- Where the run fails, it ends in `E`. -/
theorem Ends.error {m : EStateM ε σ α} (h : Ends m s Q E) {e : ε} {s' : σ}
    (hr : m.run s = .error e s') : E s' := by
  unfold Ends at h
  rw [hr] at h
  exact h

/-- A run that ends in `E` either way leaves a state in `E`. -/
theorem Ends.stateAfter {m : EStateM ε σ α} (h : Ends m s (fun _ => E) E) :
    E (stateAfter (m.run s)) := by
  unfold Ends at h
  cases hr : m.run s with
  | ok a s' =>
    rw [hr] at h
    exact h
  | error e s' =>
    rw [hr] at h
    exact h

/-- Both ends of a run may be weakened. -/
theorem Ends.mono {m : EStateM ε σ α} {Q' : α → σ → Prop} {E' : σ → Prop} (h : Ends m s Q E)
    (hQ : ∀ a s', Q a s' → Q' a s') (hE : ∀ s', E s' → E' s') : Ends m s Q' E' := by
  unfold Ends at h ⊢
  cases hr : m.run s with
  | ok a s' =>
    rw [hr] at h
    exact hQ a s' h
  | error e s' =>
    rw [hr] at h
    exact hE s' h

/-- A value returned ends in the state it started from. -/
@[simp] theorem ends_pure (a : α) : Ends (pure a : EStateM ε σ α) s Q E ↔ Q a s := Iff.rfl

/-- A failure ends in the state it started from. -/
@[simp] theorem ends_throw (e : ε) : Ends (throw e : EStateM ε σ α) s Q E ↔ E s := Iff.rfl

/-- Reading the state returns it and leaves it. -/
@[simp] theorem ends_get {Q : σ → σ → Prop} : Ends (get : EStateM ε σ σ) s Q E ↔ Q s s := Iff.rfl

/-- A state that is set is the one the run ends in. -/
@[simp] theorem ends_set {Q : PUnit → σ → Prop} (t : σ) :
    Ends (set t : EStateM ε σ PUnit) s Q E ↔ Q ⟨⟩ t := Iff.rfl

/-- A sequence ends where its second part ends. -/
@[simp] theorem ends_bind {Q : β → σ → Prop} (x : EStateM ε σ α) (f : α → EStateM ε σ β) :
    Ends (x >>= f) s Q E ↔ Ends x s (fun a s' => Ends (f a) s' Q E) E := by
  unfold Ends
  rw [EStateM.run_bind]
  cases x.run s with
  | ok a s' => exact Iff.rfl
  | error e s' => exact Iff.rfl

/-- A program keeps an invariant that each of its requests keeps. -/
theorem Program.Within.ends {S : Signature} {L : S.Request → Prop} {P : α → Prop}
    {h : (r : S.Request) → EStateM ε σ (S.Answer r)} {I : σ → Prop}
    (hL : ∀ r, L r → ∀ s, I s → Ends (h r) s (fun _ => I) I) {x : Program S ε α}
    (hx : x.Within L P) (hs : I s) : Ends (x.run h) s (fun _ => I) I := by
  induction x generalizing s with
  | done a => exact hs
  | fail e => exact hs
  | ask r k ih =>
    rw [Program.run, ends_bind]
    exact (hL r hx.1 s hs).mono (fun a s' hs' => ih a (hx.2 a) hs') fun s' hs' => hs'

/-- A program keeps an invariant that each request keeps as long as what is noted of it is
good, if everything noted in the run is good. -/
theorem Program.ends_of_notes {S : Signature} {τ : Type}
    {h : (r : S.Request) → EStateM ε σ (S.Answer r)} {note : S.Request → σ → List τ}
    {Good : τ → Prop} {I : σ → Prop} (hI : ∀ s, I s → E s)
    (hstep : ∀ r s, I s → (∀ n ∈ note r s, Good n) → Ends (h r) s (fun _ => I) E)
    (x : Program S ε α) (hs : I s) (hgood : ∀ n ∈ x.notes h note s, Good n) :
    Ends (x.run h) s (fun _ => I) E := by
  induction x generalizing s with
  | done a => exact hs
  | fail e => exact hI s hs
  | ask r k ih =>
    rw [Program.notes, List.forall_mem_append] at hgood
    obtain ⟨hfirst, hrest⟩ := hgood
    have hr := hstep r s hs hfirst
    rw [Program.run, ends_bind]
    unfold Ends at hr ⊢
    cases hrun : (h r).run s with
    | ok a s' =>
      rw [hrun] at hr hrest
      exact ih a hr hrest
    | error e s' =>
      rw [hrun] at hr
      exact hr

/-! ## Computations that return more often -/

/-- Wherever the first computation returns, the second returns the same. -/
def Covers (m m' : EStateM ε σ α) : Prop := ∀ s a s', m.run s = .ok a s' → m'.run s = .ok a s'

/-- Every computation covers itself. -/
theorem covers_refl (m : EStateM ε σ α) : Covers m m := fun _ _ _ h => h

/-- Covering composes. -/
theorem Covers.trans {m₁ m₂ m₃ : EStateM ε σ α} (h : Covers m₁ m₂) (h' : Covers m₂ m₃) :
    Covers m₁ m₃ := fun s a s' hr => h' s a s' (h s a s' hr)

/-- A sequence covers a sequence whose parts it covers. -/
theorem Covers.bind {x x' : EStateM ε σ α} {f f' : α → EStateM ε σ β} (hx : Covers x x')
    (hf : ∀ a, Covers (f a) (f' a)) : Covers (x >>= f) (x' >>= f') := by
  intro s b s'' hr
  rw [EStateM.run_bind] at hr ⊢
  cases hq : x.run s with
  | ok a s' =>
    rw [hq] at hr
    rw [hx s a s' hq]
    exact hf a s' b s'' hr
  | error e s' =>
    rw [hq] at hr
    cases hr

/-- A program run by an interpreter that returns more often. -/
theorem Program.covers_run {S : Signature} {h h' : (r : S.Request) → EStateM ε σ (S.Answer r)}
    (hh : ∀ r, Covers (h r) (h' r)) (x : Program S ε α) : Covers (x.run h) (x.run h') := by
  induction x with
  | done a => exact covers_refl _
  | fail e => exact covers_refl _
  | ask r k ih => exact (hh r).bind ih

end Xblob.Computation
