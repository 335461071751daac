import Xblob.Computation.Fallible

/-!
# Programs that make requests

A program here is a tree: it returns a value, fails with an error, or makes a
request and goes on with the answer.  What a request does is left open; an
interpreter that answers each request by a fallible state transformer turns the
program into one.  A failed request ends the program with its error.

The point of the tree is that what a program *can* do is visible before anything is
run.  Four shapes are used below.

* `Within`: every request is of a given kind.
* `Settled`: moreover the program does not fail.
* `Transactional`: it looks around first, makes one request of any kind, and is
  settled from there on.
* `OneStore`: it looks around first, makes one request of any kind, and makes only
  harmless requests from there on, but may still fail by itself.

Each shape is closed under sequencing by rules that follow the text of a program, and
each has one theorem about runs, proved by induction on the tree.
-/

set_option autoImplicit false

namespace Xblob.Computation

/-- The requests a kind of program may make, and what each is answered with. -/
structure Signature where
  Request : Type
  Answer : Request → Type

/-- Programs over a signature that return `α` or fail with `ε`. -/
inductive Program (S : Signature) (ε α : Type) : Type where
  | done (a : α)
  | fail (e : ε)
  | ask (r : S.Request) (k : S.Answer r → Program S ε α)

namespace Program

variable {S : Signature} {ε σ α β : Type}

/-- Sequencing: the second program takes the place of every returned value. -/
def bind : Program S ε α → (α → Program S ε β) → Program S ε β
  | .done a, f => f a
  | .fail e, _ => .fail e
  | .ask r k, f => .ask r fun a => (k a).bind f

/-- Programs are sequenced. -/
instance : Monad (Program S ε) where
  pure := .done
  bind := Program.bind

/-- The program that makes one request and returns its answer. -/
def request (r : S.Request) : Program S ε (S.Answer r) := .ask r .done

/-- Running a program with an interpreter of its requests. -/
def run (h : (r : S.Request) → EStateM ε σ (S.Answer r)) : Program S ε α → EStateM ε σ α
  | .done a => pure a
  | .fail e => throw e
  | .ask r k => h r >>= fun a => (k a).run h

/-- A program that is done goes on with its value. -/
@[simp] theorem done_bind (a : α) (f : α → Program S ε β) :
    (Program.done a >>= f) = f a := rfl

/-- A program that fails does not go on. -/
@[simp] theorem fail_bind (e : ε) (f : α → Program S ε β) :
    (Program.fail e >>= f) = Program.fail e := rfl

/-- A request goes on with the rest of the sequence behind it. -/
@[simp] theorem ask_bind (r : S.Request) (k : S.Answer r → Program S ε α)
    (f : α → Program S ε β) :
    (Program.ask r k >>= f) = Program.ask r fun a => k a >>= f := rfl

/-! ## The shapes -/

variable {L T : S.Request → Prop} {P : α → Prop} {Q : β → Prop}

/-- Every request of the program is one of `L`, and every value it returns is in `Q`. -/
def Within (L : S.Request → Prop) (Q : α → Prop) : Program S ε α → Prop
  | .done a => Q a
  | .fail _ => True
  | .ask r k => L r ∧ ∀ a, (k a).Within L Q

/-- Every request of the program is one of `T`, it does not fail by itself, and every
value it returns is in `Q`. -/
def Settled (T : S.Request → Prop) (Q : α → Prop) : Program S ε α → Prop
  | .done a => Q a
  | .fail _ => False
  | .ask r k => T r ∧ ∀ a, (k a).Settled T Q

/-- The program makes requests of `L` only, up to one request after which it is
settled. -/
def Transactional (L T : S.Request → Prop) (Q : α → Prop) : Program S ε α → Prop
  | .done _ => True
  | .fail _ => True
  | .ask r k => (L r ∧ ∀ a, (k a).Transactional L T Q) ∨ ∀ a, (k a).Settled T Q

/-- The program makes requests of `L` only, up to one request after which it makes
requests of `T` only and returns values of `Q`. -/
def OneStore (L T : S.Request → Prop) (Q : α → Prop) : Program S ε α → Prop
  | .done _ => True
  | .fail _ => True
  | .ask r k => (L r ∧ ∀ a, (k a).OneStore L T Q) ∨ ∀ a, (k a).Within T Q

/-- A sequence keeps to the requests its parts keep to. -/
theorem Within.bind {x : Program S ε α} {f : α → Program S ε β} (hx : x.Within L P)
    (hf : ∀ a, P a → (f a).Within L Q) : (x >>= f).Within L Q := by
  induction x with
  | done a => exact hf a hx
  | fail e => trivial
  | ask r k ih => exact ⟨hx.1, fun a => ih a (hx.2 a)⟩

/-- The requests and the results of a program may be weakened. -/
theorem Within.mono {L' : S.Request → Prop} {P' : α → Prop} {x : Program S ε α}
    (hx : x.Within L P) (hL : ∀ r, L r → L' r) (hP : ∀ a, P a → P' a) : x.Within L' P' := by
  induction x with
  | done a => exact hP a hx
  | fail e => trivial
  | ask r k ih => exact ⟨hL r hx.1, fun a => ih a (hx.2 a)⟩

/-- What follows any program decides what is returned. -/
theorem within_then {x : Program S ε α} {f : α → Program S ε β}
    (hf : ∀ a, (f a).Within (fun _ => True) Q) : (x >>= f).Within (fun _ => True) Q := by
  induction x with
  | done a => exact hf a
  | fail e => trivial
  | ask r k ih => exact ⟨trivial, ih⟩

/-- A sequence of settled programs is settled. -/
theorem Settled.bind {x : Program S ε α} {f : α → Program S ε β} (hx : x.Settled T P)
    (hf : ∀ a, P a → (f a).Settled T Q) : (x >>= f).Settled T Q := by
  induction x with
  | done a => exact hf a hx
  | fail e => exact hx.elim
  | ask r k ih => exact ⟨hx.1, fun a => ih a (hx.2 a)⟩

/-- A settled program keeps to the requests it makes. -/
theorem Settled.within {x : Program S ε α} (hx : x.Settled T P) : x.Within T P := by
  induction x with
  | done a => exact hx
  | fail e => trivial
  | ask r k ih => exact ⟨hx.1, fun a => ih a (hx.2 a)⟩

/-- A settled program is transactional: nothing has to be looked at first. -/
theorem Settled.transactional {x : Program S ε α} (hx : x.Settled T P) :
    x.Transactional L T P := by
  cases x with
  | done a => trivial
  | fail e => trivial
  | ask r k => exact .inr hx.2

/-- Looking around is a transaction. -/
theorem Within.transactional {Q : α → Prop} {x : Program S ε α} (hx : x.Within L P) :
    x.Transactional L T Q := by
  induction x with
  | done a => trivial
  | fail e => trivial
  | ask r k ih => exact .inl ⟨hx.1, fun a => ih a (hx.2 a)⟩

/-- Looking around and then going on as a transaction is a transaction. -/
theorem Within.bind_transactional {x : Program S ε α} {f : α → Program S ε β}
    (hx : x.Within L P) (hf : ∀ a, P a → (f a).Transactional L T Q) :
    (x >>= f).Transactional L T Q := by
  induction x with
  | done a => exact hf a hx
  | fail e => trivial
  | ask r k ih => exact .inl ⟨hx.1, fun a => ih a (hx.2 a)⟩

/-- A transaction followed by settled work is a transaction. -/
theorem Transactional.bind_settled {x : Program S ε α} {f : α → Program S ε β}
    (hx : x.Transactional L T P) (hf : ∀ a, (f a).Settled T Q) :
    (x >>= f).Transactional L T Q := by
  induction x with
  | done a => exact (hf a).transactional
  | fail e => trivial
  | ask r k ih =>
    rcases hx with ⟨hr, hk⟩ | hk
    · exact .inl ⟨hr, fun a => ih a (hk a)⟩
    · exact .inr fun a => (hk a).bind fun b _ => hf b

/-- A transaction is a program with one store. -/
theorem Transactional.oneStore {L' T' : S.Request → Prop} {x : Program S ε α}
    (hx : x.Transactional L T P) (hL : ∀ r, L r → L' r) (hT : ∀ r, T r → T' r) :
    x.OneStore L' T' P := by
  induction x with
  | done a => trivial
  | fail e => trivial
  | ask r k ih =>
    rcases hx with ⟨hr, hk⟩ | hk
    · exact .inl ⟨hL r hr, fun a => ih a (hk a)⟩
    · exact .inr fun a => (hk a).within.mono hT fun _ h => h

/-- Looking around and then storing once is storing once. -/
theorem Within.bind_oneStore {x : Program S ε α} {f : α → Program S ε β}
    (hx : x.Within L P) (hf : ∀ a, P a → (f a).OneStore L T Q) :
    (x >>= f).OneStore L T Q := by
  induction x with
  | done a => exact hf a hx
  | fail e => trivial
  | ask r k ih => exact .inl ⟨hx.1, fun a => ih a (hx.2 a)⟩

/-- Harmless requests alone are a program with one store. -/
theorem Within.oneStore {x : Program S ε α} (hx : x.Within T P) : x.OneStore L T P := by
  cases x with
  | done a => trivial
  | fail e => trivial
  | ask r k => exact .inr hx.2

/-! ## Runs -/

variable {h : (r : S.Request) → EStateM ε σ (S.Answer r)} {s : σ}

/-- A program that is done, run. -/
@[simp] theorem run_done (a : α) : (Program.done a : Program S ε α).run h = pure a := rfl

/-- A value returned, run. -/
@[simp] theorem run_pure (a : α) : (pure a : Program S ε α).run h = pure a := rfl

/-- A program that fails, run. -/
@[simp] theorem run_fail (e : ε) : (Program.fail e : Program S ε α).run h = throw e := rfl

/-- A sequence is run part by part. -/
@[simp] theorem run_bind (x : Program S ε α) (f : α → Program S ε β) :
    (x >>= f).run h = x.run h >>= fun a => (f a).run h := by
  induction x with
  | done a => rfl
  | fail e => rfl
  | ask r k ih => simp only [ask_bind, Program.run, ih, bind_assoc]

/-- A request is run by its interpreter. -/
theorem run_request (r : S.Request) :
    (request r : Program S ε (S.Answer r)).run h = h r := by
  change (h r >>= fun a => pure a) = h r
  exact bind_pure (h r)

/-- Every request that is made in the run from a state is one of `P`. -/
def Along (h : (r : S.Request) → EStateM ε σ (S.Answer r)) (P : S.Request → Prop) :
    Program S ε α → σ → Prop
  | .done _, _ => True
  | .fail _, _ => True
  | .ask r k, s => P r ∧ ∀ a s', (h r).run s = .ok a s' → (k a).Along h P s'

/-- A program of requests of `P` makes no others. -/
theorem Within.along {x : Program S ε α} (hx : x.Within L P) (s : σ) : x.Along h L s := by
  induction x generalizing s with
  | done a => trivial
  | fail e => trivial
  | ask r k ih => exact ⟨hx.1, fun a s' _ => ih a (hx.2 a) s'⟩

/-- What is noted of the requests made in the run from a state, in their order. -/
def notes {τ : Type} (h : (r : S.Request) → EStateM ε σ (S.Answer r))
    (note : S.Request → σ → List τ) : Program S ε α → σ → List τ
  | .done _, _ => []
  | .fail _, _ => []
  | .ask r k, s => note r s ++ match (h r).run s with
    | .ok a s' => (k a).notes h note s'
    | .error _ _ => []

/-- Any program keeps a part of the state that every request keeps. -/
theorem keeps_run {τ : Type} {g : σ → τ} {t : τ} (hk : ∀ r s, g s = t → Keeps g (h r) s)
    (x : Program S ε α) (hs : g s = t) : Keeps g (x.run h) s := by
  induction x generalizing s with
  | done a => exact (quiet_pure a s).keeps g
  | fail e => exact (quiet_throw e s).keeps g
  | ask r k ih =>
    refine (hk r s hs).bind fun a s' hr => ih a ?_
    rw [(hk r s hs).ok hr, hs]

/-- A program that only looks, run where looking is quiet, is quiet. -/
theorem Within.quiet {x : Program S ε α} (hx : x.Within L P) (hL : ∀ r, L r → Quiet (h r) s) :
    Quiet (x.run h) s := by
  induction x with
  | done a => exact quiet_pure a s
  | fail e => exact quiet_throw e s
  | ask r k ih => exact (hL r hx.1).bind fun a _ => ih a (hx.2 a)

/-- A program keeps a part of the state that each of its requests keeps. -/
theorem Within.keeps {τ : Type} {g : σ → τ} {x : Program S ε α} (hx : x.Within L P)
    (hL : ∀ r, L r → ∀ s, Keeps g (h r) s) (s : σ) : Keeps g (x.run h) s := by
  induction x generalizing s with
  | done a => exact (quiet_pure a s).keeps g
  | fail e => exact (quiet_throw e s).keeps g
  | ask r k ih => exact (hL r hx.1 s).bind fun a s' _ => ih a (hx.2 a) s'

/-- A settled program does not fail, and returns what it promises. -/
theorem Settled.sure {x : Program S ε α} (hx : x.Settled T P)
    (hT : ∀ r, T r → ∀ s, Sure (h r) s) (s : σ) : Sure (x.run h) s := by
  induction x generalizing s with
  | done a => exact sure_pure a s
  | fail e => exact hx.elim
  | ask r k ih => exact (hT r hx.1 s).bind fun a s' _ => ih a (hx.2 a) s'

/-- A result of a program that is run is one of those it keeps to. -/
theorem Within.returns {x : Program S ε α} (hx : x.Within L P) {a : α} {s' : σ}
    (hr : (x.run h).run s = .ok a s') : P a := by
  induction x generalizing s with
  | done b =>
    cases hr
    exact hx
  | fail e => cases hr
  | ask r k ih =>
    rw [Program.run, EStateM.run_bind] at hr
    cases hq : (h r).run s with
    | ok b s₁ =>
      rw [hq] at hr
      exact ih b (hx.2 b) hr
    | error e s₁ =>
      rw [hq] at hr
      cases hr

/-- A transaction that fails has changed nothing. -/
theorem Transactional.atomic {x : Program S ε α} (hx : x.Transactional L T P)
    (hL : ∀ r, L r → Quiet (h r) s) (hA : ∀ r, AtomicOn id (h r) s)
    (hT : ∀ r, T r → ∀ s, Sure (h r) s) : AtomicOn id (x.run h) s := by
  induction x with
  | done a => exact (sure_pure a s).atomicOn id
  | fail e => exact ((quiet_throw e s).keeps id).atomicOn
  | ask r k ih =>
    rcases hx with ⟨hr, hk⟩ | hk
    · exact (hL r hr).bind_atomicOn fun a _ => ih a (hk a)
    · exact (hA r).bind_sure fun a s' _ => (hk a).sure hT s'

/-- A transaction that returns has changed nothing, or returns what it promises. -/
theorem Transactional.unchanged_or {x : Program S ε α} (hx : x.Transactional L T P)
    (hL : ∀ r, L r → Quiet (h r) s) {a : α} {s' : σ} (hr : (x.run h).run s = .ok a s') :
    s' = s ∨ P a := by
  induction x with
  | done b =>
    cases hr
    exact .inl rfl
  | fail e => cases hr
  | ask r k ih =>
    rw [Program.run, EStateM.run_bind] at hr
    cases hq : (h r).run s with
    | ok b s₁ =>
      rw [hq] at hr
      rcases hx with ⟨hl, hk⟩ | hk
      · cases (hL r hl).ok hq
        exact ih b (hk b) hr
      · exact .inr ((hk b).within.returns hr)
    | error e s₁ =>
      rw [hq] at hr
      cases hr

end Program

end Xblob.Computation
