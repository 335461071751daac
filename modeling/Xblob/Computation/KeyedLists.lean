import Mathlib.Data.List.Nodup
import Mathlib.Data.List.Perm.Basic
import Mathlib.Logic.Function.Basic
import Mathlib.Tactic.Common

/-!
# Keyed lists and maps

Maps as lists with different keys, the entries of a tree map, and partial functions that are kept
beside dearer ones.
-/

set_option autoImplicit false

namespace Xblob.Computation

/-!
## Lists with keys

A list whose members have different keys is a map: looking up, taking out and changing one
member concern that member alone.
-/

section KeyedLists

variable {α κ : Type} [DecidableEq κ] {key : α → κ} {l : List α} {k : κ} {x y : α}

omit [DecidableEq κ] in
/-- Members are known by their keys. -/
theorem eq_of_key (hkeys : (l.map key).Nodup) (hx : x ∈ l) (hy : y ∈ l) (h : key x = key y) :
    x = y :=
  List.inj_on_of_nodup_map hkeys hx hy h

/-- What is found under a key. -/
theorem find?_key_iff (hkeys : (l.map key).Nodup) :
    l.find? (fun a => key a = k) = some x ↔ x ∈ l ∧ key x = k := by
  constructor
  · intro h
    exact ⟨List.mem_of_find?_eq_some h, by simpa using List.find?_some h⟩
  · rintro ⟨hx, rfl⟩
    cases hfind : l.find? (fun a => key a = key x) with
    | none =>
      rw [List.find?_eq_none] at hfind
      exact absurd (by simp) (hfind x hx)
    | some y =>
      have hy := List.mem_of_find?_eq_some hfind
      have hkey : key y = key x := by simpa using List.find?_some hfind
      rw [eq_of_key hkeys hy hx hkey]

/-- Nothing is found under a key that no member has. -/
theorem find?_key_none : l.find? (fun a => key a = k) = none ↔ ∀ a ∈ l, key a ≠ k := by
  simp [List.find?_eq_none]

/-- What is left when the member with a key is taken out. -/
theorem mem_eraseP_key (hkeys : (l.map key).Nodup) :
    x ∈ l.eraseP (fun a => key a = k) ↔ x ∈ l ∧ key x ≠ k := by
  induction l with
  | nil => simp
  | cons a l ih =>
    rw [List.map_cons, List.nodup_cons] at hkeys
    obtain ⟨hfresh, hkeys⟩ := hkeys
    by_cases ha : key a = k
    · rw [List.eraseP_cons_of_pos (by simpa using ha)]
      constructor
      · intro hx
        refine ⟨List.mem_cons_of_mem _ hx, ?_⟩
        rintro rfl
        exact hfresh (ha ▸ List.mem_map_of_mem hx)
      · rintro ⟨hx, hne⟩
        obtain rfl | hx := List.mem_cons.1 hx
        · exact absurd ha hne
        · exact hx
    · rw [List.eraseP_cons_of_neg (by simpa using ha), List.mem_cons, List.mem_cons, ih hkeys]
      constructor
      · rintro (rfl | ⟨hx, hne⟩)
        · exact ⟨.inl rfl, ha⟩
        · exact ⟨.inr hx, hne⟩
      · rintro ⟨rfl | hx, hne⟩
        · exact .inl rfl
        · exact .inr ⟨hx, hne⟩

omit [DecidableEq κ] in
/-- Keys stay different when members are taken out. -/
theorem nodup_eraseP (hkeys : (l.map key).Nodup) (p : α → Bool) :
    ((l.eraseP p).map key).Nodup :=
  hkeys.sublist (List.eraseP_sublist.map key)

/-- The list with the member under a key changed. -/
def updateAt (key : α → κ) (k : κ) (f : α → α) (l : List α) : List α :=
  l.map fun a => if key a = k then f a else a

/-- A change that keeps the key keeps all keys. -/
theorem map_key_updateAt {f : α → α} (hf : ∀ a, key (f a) = key a) :
    (updateAt key k f l).map key = l.map key := by
  unfold updateAt
  rw [List.map_map]
  apply List.map_congr_left
  intro a _
  simp only [Function.comp_apply]
  split
  · exact hf a
  · rfl

/-- Looking up after a change. -/
theorem find?_updateAt {f : α → α} (hf : ∀ a, key (f a) = key a) (k' : κ) :
    (updateAt key k f l).find? (fun a => key a = k') =
      if k' = k then (l.find? (fun a => key a = k')).map f else l.find? (fun a => key a = k') := by
  induction l with
  | nil => simp [updateAt]
  | cons a l ih =>
    simp only [updateAt, List.map_cons] at ih ⊢
    by_cases ha : key a = k
    · rw [if_pos ha]
      by_cases hk : k' = k
      · subst hk
        rw [if_pos rfl, List.find?_cons_of_pos (by simp [hf, ha]),
          List.find?_cons_of_pos (by simp [ha])]
        rfl
      · have hne : key a ≠ k' := fun h => hk (h.symm.trans ha)
        rw [if_neg hk] at ih ⊢
        rw [List.find?_cons_of_neg (by simpa [hf] using hne),
          List.find?_cons_of_neg (by simpa using hne), ih]
    · rw [if_neg ha]
      by_cases ha' : key a = k'
      · have hk : k' ≠ k := fun h => ha (ha'.trans h)
        rw [if_neg hk, List.find?_cons_of_pos (by simpa using ha'),
          List.find?_cons_of_pos (by simpa using ha')]
      · rw [List.find?_cons_of_neg (by simpa using ha'),
          List.find?_cons_of_neg (by simpa using ha'), ih]

end KeyedLists

/-!
## The entries of a map

What putting in a new key and taking one out do to the list of a map's entries, up to order.
-/

section Entries

section Entries

variable {α β : Type} {cmp : α → α → Ordering} [Std.TransCmp cmp]
variable {t : Std.TreeMap α β cmp} {k : α} {v : β}

/-- The entries of a tree are distinct. -/
theorem nodup_toList : t.toList.Nodup := by
  apply List.Nodup.of_map Prod.fst
  rw [Std.TreeMap.map_fst_toList_eq_keys]
  exact Std.TreeMap.nodup_keys

variable [Std.LawfulEqCmp cmp]

/-- A key that was free adds its entry and nothing else. -/
theorem toList_insert_perm (h : t[k]? = none) :
    (t.insert k v).toList.Perm ((k, v) :: t.toList) := by
  have hnew : (k, v) ∉ t.toList := by
    rw [Std.TreeMap.mem_toList_iff_getElem?_eq_some, h]
    simp
  rw [List.perm_ext_iff_of_nodup nodup_toList (List.nodup_cons.mpr ⟨hnew, nodup_toList⟩)]
  rintro ⟨k', v'⟩
  rw [List.mem_cons, Std.TreeMap.mem_toList_iff_getElem?_eq_some,
    Std.TreeMap.mem_toList_iff_getElem?_eq_some, Std.TreeMap.getElem?_insert, Prod.mk.injEq]
  by_cases hk : cmp k k' = .eq
  · obtain rfl := Std.LawfulEqCmp.eq_of_compare hk
    simp [h, hk, eq_comm]
  · have hne : k' ≠ k := by
      rintro rfl
      exact hk Std.ReflCmp.compare_self
    simp [hk, hne]

/-- A key that is bound has its entry among those left without it. -/
theorem toList_perm_erase (h : t[k]? = some v) :
    t.toList.Perm ((k, v) :: (t.erase k).toList) := by
  have hgone : (k, v) ∉ (t.erase k).toList := by
    rw [Std.TreeMap.mem_toList_iff_getElem?_eq_some, Std.TreeMap.getElem?_erase_self]
    simp
  rw [List.perm_ext_iff_of_nodup nodup_toList (List.nodup_cons.mpr ⟨hgone, nodup_toList⟩)]
  rintro ⟨k', v'⟩
  rw [List.mem_cons, Std.TreeMap.mem_toList_iff_getElem?_eq_some,
    Std.TreeMap.mem_toList_iff_getElem?_eq_some, Std.TreeMap.getElem?_erase, Prod.mk.injEq]
  by_cases hk : cmp k k' = .eq
  · obtain rfl := Std.LawfulEqCmp.eq_of_compare hk
    simp [h, eq_comm]
  · have hne : k' ≠ k := by
      rintro rfl
      exact hk Std.ReflCmp.compare_self
    simp [hk, hne]

end Entries

end Entries

/-!
## Caches over a partial function

A cache is a partial map `c` kept beside a partial function `f` that is dearer to
evaluate.  It is *sound* for `f` when every value it holds is the one `f` gives.
Clearing, erasing and inserting what `f` just returned keep it sound, and it stays
sound for any other function that gives the same values at the keys it holds.
-/

section Cache

variable {κ ν : Type}

/-- Every cached value is the value of the cached function. -/
def CacheSound (f c : κ → Option ν) : Prop :=
  ∀ k v, c k = some v → f k = some v

namespace CacheSound

/-- The empty cache is sound for every function. -/
theorem empty (f : κ → Option ν) : CacheSound f fun _ => none := by
  intro k v h
  cases h

variable {f g c : κ → Option ν}

/-- A cache sound for `f` is sound for any `g` that agrees with `f` where `f` answers. -/
theorem congr (h : CacheSound f c) (hfg : ∀ k v, f k = some v → g k = some v) :
    CacheSound g c :=
  fun k v hc => hfg k v (h k v hc)

variable [DecidableEq κ]

/-- Erasing a key keeps a cache sound. -/
theorem erase (h : CacheSound f c) (k : κ) : CacheSound f (Function.update c k none) := by
  intro k' v hv
  by_cases hk : k' = k
  · subst hk
    simp at hv
  · rw [Function.update_of_ne hk] at hv
    exact h k' v hv

/-- Inserting the function's own value keeps a cache sound. -/
theorem insert (h : CacheSound f c) {k : κ} {v : ν} (hv : f k = some v) :
    CacheSound f (Function.update c k (some v)) := by
  intro k' v' hv'
  by_cases hk : k' = k
  · subst hk
    rw [Function.update_self] at hv'
    rw [← hv']
    exact hv
  · rw [Function.update_of_ne hk] at hv'
    exact h k' v' hv'

end CacheSound

end Cache

end Xblob.Computation
