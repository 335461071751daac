import Mathlib.Data.List.Basic
import Mathlib.Data.List.Nodup
import Mathlib.Tactic.Common

/-!
# Tables of generations

A table of slots hands out names: the index of a slot and the generation of the slot at
the time.  A freed slot gets its next generation, so that names given out before do not
fit it any more, and the first free slot is taken before a new one is appended.

Generations come from a finite stock and run out: after the last comes the first one again.
A free slot that has the first generation has used up the stock, since a new slot is in use
from the start.  A table is *kept* as long as no such slot is taken; then no name is ever
given out twice.

The record of a table has the names in use, with what they were given out for, and the
names freed.  A program packs names into handles, which tells names apart up to some
index; `Tracked` is the record of a table by its handles.
-/

set_option autoImplicit false

namespace Xblob.Computation

variable {γ α : Type}

/-- A slot: its generation, whether it is in use, and what for. -/
structure GenSlot (γ α : Type) where
  generation : γ
  used : Bool
  content : α

/-- Generations in their order: the first, the next of each, and how many come before. -/
structure Generations (γ : Type) where
  first : γ
  next : γ → γ
  age : γ → ℕ
  next_age : ∀ g, next g ≠ first → age g < age (next g)

/-- The names in use, with their contents, and the names freed. -/
structure Names (γ α : Type) where
  inUse : List ((ℕ × γ) × α) := []
  freed : List (ℕ × γ) := []

namespace GenSlot

/-- The first slot that is not in use. -/
def firstFree (slots : List (GenSlot γ α)) : Option ℕ := slots.findIdx? fun s => !s.used

/-- A slot taken for some content. -/
def take (G : Generations γ) (a : α) (slots : List (GenSlot γ α)) : (ℕ × γ) × List (GenSlot γ α) :=
  match firstFree slots with
  | some i =>
    ((i, ((slots[i]?).map GenSlot.generation).getD G.first),
      slots.modify i fun s => { s with used := true, content := a })
  | none => ((slots.length, G.first), slots ++ [⟨G.first, true, a⟩])

/-- A slot freed, its content replaced. -/
def free (G : Generations γ) (a : α) (i : ℕ) (slots : List (GenSlot γ α)) : List (GenSlot γ α) :=
  slots.modify i fun _ => ⟨G.next ((slots[i]?.map GenSlot.generation).getD G.first), false, a⟩

/-- The slot a taking would use has generations left. -/
def Fresh (G : Generations γ) (slots : List (GenSlot γ α)) : Prop :=
  ∀ i s, firstFree slots = some i → slots[i]? = some s → s.generation ≠ G.first

/-- The record fits the slots. -/
structure Kept (G : Generations γ) (slots : List (GenSlot γ α)) (names : Names γ α) : Prop where
  inUse : ∀ i g a, ((i, g), a) ∈ names.inUse ↔ slots[i]? = some ⟨g, true, a⟩
  nodup : (names.inUse.map Prod.fst).Nodup
  freed : ∀ i g, (i, g) ∈ names.freed → ∃ s, slots[i]? = some s ∧
    (G.age g < G.age s.generation ∨ s.used = false ∧ s.generation = G.first)

/-- The first free slot is a slot, and it is free. -/
theorem firstFree_some {slots : List (GenSlot γ α)} {i : ℕ} (h : firstFree slots = some i) :
    ∃ s, slots[i]? = some s ∧ s.used = false := by
  unfold firstFree at h
  rw [List.findIdx?_eq_some_iff_getElem] at h
  obtain ⟨hlt, hfree, -⟩ := h
  refine ⟨slots[i], List.getElem?_eq_getElem hlt, ?_⟩
  simpa using hfree

variable {G : Generations γ} {slots : List (GenSlot γ α)} {names : Names γ α}

/-- No slots keep no names. -/
theorem kept_nil : Kept G ([] : List (GenSlot γ α)) {} := by
  refine ⟨?_, List.nodup_nil, ?_⟩
  · intro i g a
    simp
  · intro i g h
    cases h

/-- A freed name fits no slot in use. -/
theorem Kept.freed_unfit (h : Kept G slots names) {i : ℕ} {g : γ} (hf : (i, g) ∈ names.freed)
    {s : GenSlot γ α} (hs : slots[i]? = some s) (hu : s.used = true) : s.generation ≠ g := by
  obtain ⟨s', hs', hage⟩ := h.freed i g hf
  rw [hs] at hs'
  cases hs'
  rintro rfl
  rcases hage with hlt | ⟨hfree, -⟩
  · exact Nat.lt_irrefl _ hlt
  · rw [hu] at hfree
    cases hfree

/-- An index in use has one name. -/
theorem Kept.index_unused (h : Kept G slots names) {i : ℕ} (hi : ∀ s, slots[i]? = some s → s.used = false)
    (g : γ) : (i, g) ∉ names.inUse.map Prod.fst := by
  intro hmem
  obtain ⟨⟨⟨i', g'⟩, a⟩, hin, heq⟩ := List.mem_map.mp hmem
  cases heq
  have hslot := (h.inUse i g a).mp hin
  cases hi _ hslot

/-- Taking a slot that has generations left keeps the record. -/
theorem Kept.take (h : Kept G slots names) (hfresh : Fresh G slots) (a : α) :
    Kept G (GenSlot.take G a slots).2
      { names with inUse := ((GenSlot.take G a slots).1, a) :: names.inUse } := by
  unfold GenSlot.take
  cases hfree : firstFree slots with
  | some i =>
    obtain ⟨s, hs, hunused⟩ := firstFree_some hfree
    have hgen := hfresh i s hfree hs
    dsimp only
    rw [hs]
    dsimp only [Option.map_some, Option.getD_some]
    have hget : ∀ j, (slots.modify i fun s => { s with used := true, content := a })[j]? =
        if i = j then some ⟨s.generation, true, a⟩ else slots[j]? := by
      intro j
      rw [List.getElem?_modify]
      by_cases hij : i = j
      · subst hij
        simp [hs]
      · simp [hij]
    refine ⟨?_, ?_, ?_⟩
    · intro j g b
      rw [hget, List.mem_cons]
      by_cases hij : i = j
      · subst hij
        rw [if_pos rfl]
        have hnot : ((i, g), b) ∉ names.inUse := by
          intro hmem
          have hslot := (h.inUse i g b).mp hmem
          rw [hs] at hslot
          cases hslot
          cases hunused
        simp [hnot, eq_comm]
      · rw [if_neg hij, ← h.inUse]
        simp [Ne.symm hij]
    · rw [List.map_cons, List.nodup_cons]
      refine ⟨h.index_unused ?_ _, h.nodup⟩
      intro s' hs'
      rw [hs] at hs'
      cases hs'
      exact hunused
    · intro j g hmem
      obtain ⟨s', hs', hage⟩ := h.freed j g hmem
      rw [hget]
      by_cases hij : i = j
      · subst hij
        rw [hs] at hs'
        cases hs'
        refine ⟨_, if_pos rfl, .inl ?_⟩
        rcases hage with hlt | ⟨-, hfirst⟩
        · exact hlt
        · exact absurd hfirst hgen
      · exact ⟨s', by rw [if_neg hij]; exact hs', hage⟩
  | none =>
    dsimp only
    have hget : ∀ j, (slots ++ [(⟨G.first, true, a⟩ : GenSlot γ α)])[j]? =
        if j = slots.length then some ⟨G.first, true, a⟩ else slots[j]? := by
      intro j
      rw [List.getElem?_append]
      by_cases hlt : j < slots.length
      · rw [if_pos hlt, if_neg (Nat.ne_of_lt hlt)]
      · rw [if_neg hlt]
        by_cases heq : j = slots.length
        · subst heq
          simp
        · rw [if_neg heq, List.getElem?_eq_none (Nat.le_of_not_lt hlt)]
          rw [List.getElem?_eq_none]
          simp only [List.length_singleton]
          omega
    have hend : ∀ s, slots[slots.length]? = some s → s.used = false := by
      intro s hs
      rw [List.getElem?_eq_none (Nat.le_refl _)] at hs
      cases hs
    refine ⟨?_, ?_, ?_⟩
    · intro j g b
      rw [hget, List.mem_cons]
      by_cases hj : j = slots.length
      · subst hj
        rw [if_pos rfl]
        have hnot : ((slots.length, g), b) ∉ names.inUse := by
          intro hmem
          have hslot := (h.inUse _ g b).mp hmem
          cases hend _ hslot
        simp [hnot, eq_comm]
      · rw [if_neg hj, ← h.inUse]
        simp [hj]
    · rw [List.map_cons, List.nodup_cons]
      exact ⟨h.index_unused hend _, h.nodup⟩
    · intro j g hmem
      obtain ⟨s', hs', hage⟩ := h.freed j g hmem
      have hj : j ≠ slots.length := by
        rintro rfl
        rw [List.getElem?_eq_none (Nat.le_refl _)] at hs'
        cases hs'
      exact ⟨s', by rw [hget, if_neg hj]; exact hs', hage⟩

/-- Freeing a slot in use keeps the record. -/
theorem Kept.free [DecidableEq γ] (h : Kept G slots names) {i : ℕ} {g : γ} {a : α}
    (hs : slots[i]? = some ⟨g, true, a⟩) (b : α) :
    Kept G (GenSlot.free G b i slots)
      { inUse := names.inUse.filter fun n => n.1 ≠ (i, g)
        freed := (i, g) :: names.freed } := by
  have hget : ∀ j, (GenSlot.free G b i slots)[j]? =
      if i = j then some ⟨G.next g, false, b⟩ else slots[j]? := by
    intro j
    unfold GenSlot.free
    rw [hs, List.getElem?_modify]
    by_cases hij : i = j
    · subst hij
      simp [hs]
    · simp [hij]
  refine ⟨?_, ?_, ?_⟩
  · intro j g' b'
    rw [List.mem_filter, hget, h.inUse]
    by_cases hij : i = j
    · subst hij
      rw [if_pos rfl, hs]
      simp only [Option.some.injEq, mk.injEq, Bool.false_eq_true, false_and, and_false, iff_false,
        not_and]
      rintro ⟨rfl, -, -⟩
      simp
    · rw [if_neg hij]
      simp [Ne.symm hij]
  · exact h.nodup.sublist ((List.filter_sublist).map _)
  · have hnext : G.age g < G.age (G.next g) ∨ G.next g = G.first := by
      by_cases hfirst : G.next g = G.first
      · exact .inr hfirst
      · exact .inl (G.next_age g hfirst)
    intro j g' hmem
    rw [hget]
    rcases List.mem_cons.mp hmem with heq | hmem
    · cases heq
      refine ⟨_, if_pos rfl, ?_⟩
      rcases hnext with hlt | hfirst
      · exact .inl hlt
      · exact .inr ⟨rfl, hfirst⟩
    · obtain ⟨s', hs', hage⟩ := h.freed j g' hmem
      by_cases hij : i = j
      · subst hij
        rw [hs] at hs'
        cases hs'
        refine ⟨_, if_pos rfl, ?_⟩
        rcases hage with hlt | ⟨hfree, -⟩
        · rcases hnext with hlt' | hfirst
          · exact .inl (Nat.lt_trans hlt hlt')
          · exact .inr ⟨rfl, hfirst⟩
        · cases hfree
      · exact ⟨s', by rw [if_neg hij]; exact hs', hage⟩

end GenSlot

/-! ## Names as handles -/

/-- Handles that tell names apart as long as the index is below the limit. -/
structure Packing (γ η : Type) where
  pack : ℕ × γ → η
  limit : ℕ
  inj : ∀ m n, m.1 < limit → n.1 < limit → pack m = pack n → m = n

namespace GenSlot

variable {η τ : Type} {G : Generations γ} {P : Packing γ η} {object : α → τ} {Good : ℕ × γ → Prop}
  {slots : List (GenSlot γ α)} {opened : List (η × τ)} {closed : List η}

/-- Open handles with their objects, and closed handles, fit the slots; all names in use are
good. -/
def Tracked (G : Generations γ) (P : Packing γ η) (object : α → τ) (Good : ℕ × γ → Prop)
    (slots : List (GenSlot γ α)) (opened : List (η × τ)) (closed : List η) : Prop :=
  ∃ names : Names γ α, Kept G slots names ∧ slots.length ≤ P.limit ∧
    opened = names.inUse.map (fun n => (P.pack n.1, object n.2)) ∧
    closed = names.freed.map P.pack ∧ ∀ n ∈ names.inUse, Good n.1

/-- A table without slots tracks a world without names. -/
theorem tracked_nil :
    Tracked G P object Good ([] : List (GenSlot γ α)) [] [] := by
  refine ⟨{}, kept_nil, Nat.zero_le _, rfl, rfl, ?_⟩
  intro n hn
  cases hn

/-- A name in use names a slot of the table. -/
theorem Kept.index_lt {names : Names γ α} (h : Kept G slots names) {n : (ℕ × γ) × α}
    (hn : n ∈ names.inUse) : n.1.1 < slots.length := by
  obtain ⟨⟨i, g⟩, a⟩ := n
  exact (List.getElem?_eq_some_iff.mp ((h.inUse i g a).mp hn)).1

/-- Open handles are distinct. -/
theorem Tracked.distinct (h : Tracked G P object Good slots opened closed) :
    (opened.map Prod.fst).Nodup := by
  obtain ⟨names, hkept, hfew, rfl, -, -⟩ := h
  have hfst : (names.inUse.map fun n => (P.pack n.1, object n.2)).map Prod.fst =
      (names.inUse.map Prod.fst).map P.pack := by
    rw [List.map_map, List.map_map]
    rfl
  rw [hfst]
  apply List.Nodup.map_on _ hkept.nodup
  intro m hm n hn heq
  obtain ⟨m', hm', rfl⟩ := List.mem_map.mp hm
  obtain ⟨n', hn', rfl⟩ := List.mem_map.mp hn
  apply P.inj _ _ _ _ heq
  · exact Nat.lt_of_lt_of_le (hkept.index_lt hm') hfew
  · exact Nat.lt_of_lt_of_le (hkept.index_lt hn') hfew

/-- An open handle packs the name of a slot in use, which has its object. -/
theorem Tracked.open_slot (h : Tracked G P object Good slots opened closed) {handle : η} {o : τ}
    (hmem : (handle, o) ∈ opened) : ∃ i g a, i < P.limit ∧ Good (i, g) ∧ handle = P.pack (i, g) ∧
      o = object a ∧ slots[i]? = some ⟨g, true, a⟩ := by
  obtain ⟨names, hkept, hfew, rfl, -, hgood⟩ := h
  obtain ⟨⟨⟨i, g⟩, a⟩, hin, heq⟩ := List.mem_map.mp hmem
  obtain ⟨hhandle, hobject⟩ := Prod.mk.inj heq
  have hlt := Nat.lt_of_lt_of_le (hkept.index_lt hin) hfew
  exact ⟨i, g, a, hlt, hgood _ hin, hhandle.symm, hobject.symm, (hkept.inUse i g a).mp hin⟩

/-- A closed handle packs a name that fits no slot in use. -/
theorem Tracked.closed_unfit (h : Tracked G P object Good slots opened closed) {handle : η}
    (hmem : handle ∈ closed) : ∃ i g, i < P.limit ∧ handle = P.pack (i, g) ∧
      ∀ s, slots[i]? = some s → s.used = true → s.generation ≠ g := by
  obtain ⟨names, hkept, hfew, -, rfl, -⟩ := h
  obtain ⟨⟨i, g⟩, hin, rfl⟩ := List.mem_map.mp hmem
  obtain ⟨s', hs', -⟩ := hkept.freed i g hin
  have hlt := Nat.lt_of_lt_of_le (List.getElem?_eq_some_iff.mp hs').1 hfew
  refine ⟨i, g, hlt, rfl, ?_⟩
  intro s hs hused
  exact hkept.freed_unfit hin hs hused

/-- The slot a taking would use has generations left, an index below the limit, and a good
name. -/
structure Roomy (G : Generations γ) (P : Packing γ η) (Good : ℕ × γ → Prop)
    (slots : List (GenSlot γ α)) : Prop where
  reused : ∀ i s, firstFree slots = some i → slots[i]? = some s →
    s.generation ≠ G.first ∧ Good (i, s.generation)
  appended : firstFree slots = none → slots.length < P.limit ∧ Good (slots.length, G.first)

/-- Taking from a roomy table gives a name that was not in use. -/
theorem Roomy.fresh (h : Roomy G P Good slots) : Fresh G slots :=
  fun i s hfree hs => (h.reused i s hfree hs).1

/-- Taking from a roomy table gives a good name. -/
theorem Roomy.good_take (h : Roomy G P Good slots) (a : α) : Good (take G a slots).1 := by
  unfold take
  cases hfree : firstFree slots with
  | some i =>
    obtain ⟨s, hs, -⟩ := firstFree_some hfree
    dsimp only
    rw [hs]
    exact (h.reused i s hfree hs).2
  | none => exact (h.appended hfree).2

/-- A roomy table keeps to its limit when a name is taken. -/
theorem Roomy.length_take (h : Roomy G P Good slots) (hfew : slots.length ≤ P.limit) (a : α) :
    (take G a slots).2.length ≤ P.limit := by
  unfold take
  cases hfree : firstFree slots with
  | some i =>
    dsimp only
    rw [List.length_modify]
    exact hfew
  | none =>
    dsimp only
    rw [List.length_append]
    exact (h.appended hfree).1

/-- Taking a slot with room opens its handle. -/
theorem Tracked.take (h : Tracked G P object Good slots opened closed) (hroom : Roomy G P Good slots)
    (a : α) : Tracked G P object Good (GenSlot.take G a slots).2
      ((P.pack (GenSlot.take G a slots).1, object a) :: opened) closed := by
  obtain ⟨names, hkept, hfew, rfl, rfl, hgood⟩ := h
  refine ⟨_, hkept.take hroom.fresh a, hroom.length_take hfew a, rfl, rfl, ?_⟩
  intro n hn
  rcases List.mem_cons.mp hn with rfl | hn
  · exact hroom.good_take a
  · exact hgood n hn

/-- Freeing a slot in use closes its handle. -/
theorem Tracked.free [DecidableEq γ] [DecidableEq η]
    (h : Tracked G P object Good slots opened closed) {i : ℕ} {g : γ} {a : α}
    (hs : slots[i]? = some ⟨g, true, a⟩) (b : α) :
    Tracked G P object Good (GenSlot.free G b i slots)
      (opened.filter fun entry => entry.1 ≠ P.pack (i, g)) (P.pack (i, g) :: closed) := by
  obtain ⟨names, hkept, hfew, rfl, rfl, hgood⟩ := h
  refine ⟨_, hkept.free hs b, ?_, ?_, rfl, ?_⟩
  · unfold GenSlot.free
    rw [List.length_modify]
    exact hfew
  · rw [List.filter_map]
    apply congrArg
    apply List.filter_congr
    intro n hn
    have hlt : i < slots.length := (List.getElem?_eq_some_iff.mp hs).1
    have hiff : P.pack n.1 = P.pack (i, g) ↔ n.1 = (i, g) := by
      constructor
      · exact P.inj _ _ (Nat.lt_of_lt_of_le (hkept.index_lt hn) hfew) (Nat.lt_of_lt_of_le hlt hfew)
      · intro heq
        rw [heq]
    simp only [Function.comp_apply, ne_eq, hiff]
  · intro n hn
    exact hgood n (List.mem_filter.mp hn).1

/-- A slot changed in a table of slots is changed in its view. -/
theorem map_modify {σ : Type} (view : σ → GenSlot γ α) {f : σ → σ} {k : GenSlot γ α → GenSlot γ α}
    (l : List σ) (i : ℕ) (h : ∀ s, l[i]? = some s → view (f s) = k (view s)) :
    (l.modify i f).map view = (l.map view).modify i k := by
  apply List.ext_getElem?
  intro j
  rw [List.getElem?_map, List.getElem?_modify, List.getElem?_modify, List.getElem?_map]
  by_cases hij : i = j
  · subst hij
    cases hs : l[i]? with
    | none => rfl
    | some s => simp [h s hs]
  · cases l[j]? <;> simp [hij]

end GenSlot

end Xblob.Computation
