import Xblob.Computation.Fallible

/-!
# Computations that keep a record

A computation may keep a record of what it does, also of what it did before it failed.  Such a
computation is a version of a plain one if what it returns is what the plain one returns, whatever
the record; and it records nothing but entries of a kind if each of its steps does.
-/

set_option autoImplicit false

namespace Xblob.Computation

variable {ε σ κ α β : Type}

/-! ## What a computation returns -/

/-- The computation returns the same from every state. -/
def Yields (f : EStateM ε σ α) (r : Except ε α) : Prop := ∀ s, outcome (f.run s) = r

/-- A value returned is yielded. -/
theorem yields_pure (a : α) : Yields (pure a : EStateM ε σ α) (.ok a) := fun _ => rfl

/-- A failure is yielded. -/
theorem yields_throw (e : ε) : Yields (throw e : EStateM ε σ α) (.error e) := fun _ => rfl

/-- A result without state is yielded. -/
theorem yields_ofExcept (r : Except ε α) : Yields (ofExcept r : EStateM ε σ α) r := by
  intro s
  cases r <;> rfl

/-- What a sequence yields follows from what its parts yield. -/
theorem Yields.bind {x : EStateM ε σ α} {f : α → EStateM ε σ β} {r : Except ε α}
    {g : α → Except ε β} (hx : Yields x r) (hf : ∀ a, r = .ok a → Yields (f a) (g a)) :
    Yields (x >>= f) (r >>= g) := by
  intro s
  have hout := hx s
  rw [EStateM.run_bind]
  cases hr : x.run s with
  | ok a s' =>
    rw [hr, outcome_ok] at hout
    rw [← hout]
    exact hf a hout.symm s'
  | error e s' =>
    rw [hr, outcome_error] at hout
    rw [← hout]
    rfl

/-- What a choice yields follows from what the branch taken yields. -/
theorem Yields.ite {c : Prop} [Decidable c] {x y : EStateM ε σ α} {r r' : Except ε α}
    (hx : c → Yields x r) (hy : ¬ c → Yields y r') :
    Yields (if c then x else y) (if c then r else r') := by
  split
  next hc => exact hx hc
  next hc => exact hy hc

/-- A computation is run for each member of a list. -/
theorem Yields.mapM {f : α → EStateM ε σ β} {g : α → Except ε β} (hf : ∀ a, Yields (f a) (g a))
    (l : List α) : Yields (l.mapM f) (l.mapM g) := by
  induction l with
  | nil =>
    rw [List.mapM_nil, List.mapM_nil]
    exact yields_pure []
  | cons a l ih =>
    rw [List.mapM_cons, List.mapM_cons]
    exact (hf a).bind fun b _ => ih.bind fun bs _ => yields_pure (b :: bs)

/-- Renaming the errors renames the one that is yielded. -/
theorem Yields.adaptExcept {ε' : Type} {x : EStateM ε σ α} {r : Except ε α} (hx : Yields x r)
    (f : ε → ε') : Yields (EStateM.adaptExcept f x) (r.mapError f) := by
  intro s
  have hout := hx s
  rw [EStateM.run_adaptExcept]
  cases hr : x.run s with
  | ok a s' =>
    rw [hr, outcome_ok] at hout
    rw [← hout]
    rfl
  | error e s' =>
    rw [hr, outcome_error] at hout
    rw [← hout]
    rfl

/-- A computation whose failure is a value. -/
def caught (f : EStateM ε σ α) : EStateM ε σ (Except ε α) := fun s =>
  .ok (outcome (f.run s)) (stateAfter (f.run s))

/-- What follows gets the failure, if there is one. -/
theorem Yields.caught_bind {f : EStateM ε σ α} {k : Except ε α → EStateM ε σ β} {r : Except ε α}
    {q : Except ε β} (hf : Yields f r) (hk : Yields (k r) q) : Yields (caught f >>= k) q := by
  intro s
  change outcome ((k (outcome (f.run s))).run (stateAfter (f.run s))) = q
  rw [hf s]
  exact hk _

/-- A computation whose error is caught yields its result as a value. -/
theorem Yields.caught {f : EStateM ε σ α} {r : Except ε α} (hf : Yields f r) :
    Yields (caught f) (.ok r) := by
  intro s
  rw [← hf s]
  rfl

/-! ## What a computation records -/

/-- Computations with a record, the last entry first. -/
abbrev Recorded (ε κ : Type) := EStateM ε (List κ)

/-- Making an entry. -/
def note (entry : κ) : Recorded ε κ Unit := modify fun record => entry :: record

/-- A note always succeeds. -/
theorem yields_note (entry : κ) : Yields (note entry : Recorded ε κ Unit) (.ok ()) := fun _ => rfl

variable {P : κ → Prop}

/-- The computation makes no entries but those with the property. -/
def Notes (P : κ → Prop) (f : Recorded ε κ α) : Prop :=
  ∀ record, Maintains (fun record => ∀ entry ∈ record, P entry) f record

/-- A value returned notes nothing. -/
theorem notes_pure (a : α) : Notes P (pure a : Recorded ε κ α) := fun _ h => h

/-- A failure notes nothing. -/
theorem notes_throw (e : ε) : Notes P (throw e : Recorded ε κ α) := fun _ h => h

/-- A result without state notes nothing. -/
theorem notes_ofExcept (r : Except ε α) : Notes P (ofExcept r : Recorded ε κ α) := by
  intro record h
  cases r <;> exact h

/-- A note of an entry with the property. -/
theorem notes_note {entry : κ} (h : P entry) : Notes P (note entry : Recorded ε κ Unit) := by
  intro record hrecord e he
  obtain rfl | he := List.mem_cons.1 he
  · exact h
  · exact hrecord e he

/-- One computation after another, which may count on what the first has returned. -/
theorem Notes.bind {x : Recorded ε κ α} {f : α → Recorded ε κ β} {r : Except ε α}
    (hx : Notes P x) (hr : Yields x r) (hf : ∀ a, r = .ok a → Notes P (f a)) :
    Notes P (x >>= f) := by
  intro record
  refine (hx record).bind fun a record' hrun => hf a ?_ record'
  rw [← hr record, hrun]
  rfl

/-- A choice notes what the branch taken notes. -/
theorem Notes.ite {c : Prop} [Decidable c] {x y : Recorded ε κ α} (hx : c → Notes P x)
    (hy : ¬ c → Notes P y) : Notes P (if c then x else y) := by
  split
  next hc => exact hx hc
  next hc => exact hy hc

/-- A mapped computation notes what it notes at each element. -/
theorem Notes.mapM {f : α → Recorded ε κ β} {l : List α} (hf : ∀ a ∈ l, Notes P (f a)) :
    Notes P (l.mapM f) := by
  intro record
  induction l generalizing record with
  | nil =>
    rw [List.mapM_nil]
    exact notes_pure [] record
  | cons a l ih =>
    rw [List.mapM_cons]
    refine (hf a (List.mem_cons_self ..) record).bind fun b record₁ _ => ?_
    refine Maintains.bind (ih (fun a' ha' => hf a' (List.mem_cons_of_mem a ha')) record₁)
      fun bs record₂ _ => notes_pure (b :: bs) record₂

/-- Renaming the errors notes nothing more. -/
theorem Notes.adaptExcept {ε' : Type} {x : Recorded ε κ α} (hx : Notes P x) (f : ε → ε') :
    Notes P (EStateM.adaptExcept f x : Recorded ε' κ α) := by
  intro record hrecord
  have hafter := hx record hrecord
  rw [EStateM.run_adaptExcept]
  cases hr : x.run record with
  | ok a record' => simpa [hr] using hafter
  | error e record' => simpa [hr] using hafter

/-- Catching the error notes nothing more. -/
theorem Notes.caught {f : Recorded ε κ α} (hf : Notes P f) : Notes P (caught f) := hf

end Xblob.Computation
