import Mathlib.Data.List.Nodup
import Mathlib.Tactic.Common

/-!
# Trees given by links

A store has a record under some of its keys, and a record has at most two links to keys.  From a
key one gets to others along the links; a preorder lists a record, then what is under its left
link, then what is under its right one, each with its depth.  There is a preorder only if the
walk along the links ends and finds a record everywhere, and if it has no key twice, there is
only one way to every key.
-/

set_option autoImplicit false

namespace Xblob.Computation

/-- One of the two links of a record. -/
inductive Side where
  | left
  | right
  deriving DecidableEq, Repr

/-- Records under keys, with links to keys. -/
structure LinkedStore (ι ν : Type) where
  record : ι → Option ν
  link : ν → Side → Option ι

namespace LinkedStore

variable {ι ν : Type} (s : LinkedStore ι ν)

/-- The path leads from a key to another. -/
inductive Leads : ι → List Side → ι → Prop
  | here (o : ι) : Leads o [] o
  | along {o o₁ o₂ : ι} {n : ν} {side : Side} {path : List Side} (hrecord : s.record o = some n)
      (hlink : s.link n side = some o₁) (hrest : Leads o₁ path o₂) : Leads o (side :: path) o₂

/-- A record that is visited: its key, its depth and itself. -/
structure Visit (ι ν : Type) where
  key : ι
  depth : ℕ
  record : ν

/-- The visits of a walk from a link at a depth: the record, the left, the right. -/
inductive Preorder : Option ι → ℕ → List (Visit ι ν) → Prop
  | none (d : ℕ) : Preorder none d []
  | node {o : ι} {d : ℕ} {n : ν} {ls rs : List (Visit ι ν)} (hrecord : s.record o = some n)
      (hleft : Preorder (s.link n .left) (d + 1) ls)
      (hright : Preorder (s.link n .right) (d + 1) rs) :
      Preorder (some o) d (⟨o, d, n⟩ :: (ls ++ rs))

variable {s} {o o' : ι} {d : ℕ} {vs : List (Visit ι ν)}

/-- A walk visits every key a path leads to, with its record. -/
theorem Preorder.visits (h : s.Preorder (some o) d vs) {path : List Side} (hpath : s.Leads o path o') :
    ∃ v ∈ vs, v.key = o' ∧ s.record o' = some v.record := by
  induction hpath generalizing d vs with
  | here o =>
    cases h with
    | node hrecord _ _ => exact ⟨_, List.mem_cons_self, rfl, hrecord⟩
  | @along o o₁ o₂ n side path hrecord hlink _ ih =>
    cases h with
    | node hrecord' hleft hright =>
      rw [hrecord] at hrecord'
      cases hrecord'
      cases side with
      | left =>
        rw [hlink] at hleft
        obtain ⟨v, hv, hkey⟩ := ih hleft
        exact ⟨v, List.mem_cons_of_mem _ (List.mem_append_left _ hv), hkey⟩
      | right =>
        rw [hlink] at hright
        obtain ⟨v, hv, hkey⟩ := ih hright
        exact ⟨v, List.mem_cons_of_mem _ (List.mem_append_right _ hv), hkey⟩

/-- A path leads to every key that is visited. -/
theorem Preorder.leads {k : Option ι} (h : s.Preorder k d vs) {v : Visit ι ν} (hv : v ∈ vs) :
    ∃ o, k = some o ∧ ∃ path, s.Leads o path v.key := by
  induction h with
  | none d => simp at hv
  | @node o d n ls rs hrecord _ _ ihleft ihright =>
    refine ⟨o, rfl, ?_⟩
    obtain rfl | hv := List.mem_cons.1 hv
    · exact ⟨[], .here o⟩
    obtain hv | hv := List.mem_append.1 hv
    · obtain ⟨o₁, hlink, path, hpath⟩ := ihleft hv
      exact ⟨.left :: path, .along hrecord hlink hpath⟩
    · obtain ⟨o₁, hlink, path, hpath⟩ := ihright hv
      exact ⟨.right :: path, .along hrecord hlink hpath⟩

/-- A node that a path leads to is visited. -/
theorem Preorder.mem_keys (h : s.Preorder (some o) d vs) {path : List Side}
    (hpath : s.Leads o path o') : o' ∈ vs.map Visit.key := by
  obtain ⟨v, hv, hkey, -⟩ := h.visits hpath
  exact List.mem_map.2 ⟨v, hv, hkey⟩

/-- A key under one of the links of a record. -/
theorem mem_keys_of_link {n : ν} {ls rs : List (Visit ι ν)} {o₁ : ι} {side : Side}
    {path : List Side} (hleft : s.Preorder (s.link n .left) d ls)
    (hright : s.Preorder (s.link n .right) d rs) (hlink : s.link n side = some o₁)
    (hrest : s.Leads o₁ path o') : o' ∈ ls.map Visit.key ++ rs.map Visit.key := by
  cases side with
  | left =>
    rw [hlink] at hleft
    exact List.mem_append_left _ (hleft.mem_keys hrest)
  | right =>
    rw [hlink] at hright
    exact List.mem_append_right _ (hright.mem_keys hrest)

/-- If no key is visited twice, one path leads to it. -/
theorem Preorder.path_unique (h : s.Preorder (some o) d vs) (hnodup : (vs.map Visit.key).Nodup)
    {path path' : List Side} (hpath : s.Leads o path o') (hpath' : s.Leads o path' o') :
    path = path' := by
  induction hpath generalizing d vs path' with
  | here o =>
    cases h with
    | @node _ _ n ls rs hrecord hleft hright =>
      cases hpath' with
      | here => rfl
      | @along _ o₁ _ n' side path hrecord' hlink hrest =>
        -- The key would be under one of its own links.
        rw [hrecord] at hrecord'
        cases hrecord'
        rw [List.map_cons, List.map_append, List.nodup_cons] at hnodup
        exact absurd (mem_keys_of_link hleft hright hlink hrest) hnodup.1
  | @along o o₁ o₂ n side path hrecord hlink hrest ih =>
    cases h with
    | @node _ _ n' ls rs hrecord' hleft hright =>
      rw [hrecord] at hrecord'
      cases hrecord'
      rw [List.map_cons, List.map_append, List.nodup_cons, List.nodup_append] at hnodup
      obtain ⟨hnot, hls, hrs, hapart⟩ := hnodup
      cases hpath' with
      | here => exact absurd (mem_keys_of_link hleft hright hlink hrest) hnot
      | @along _ o₁' _ n' side' path' hrecord' hlink' hrest' =>
        rw [hrecord] at hrecord'
        cases hrecord'
        -- Two ways on different sides would meet in a key that is on both.
        cases side with
        | left =>
          rw [hlink] at hleft
          cases side' with
          | left =>
            rw [hlink] at hlink'
            cases hlink'
            rw [ih hleft hls hrest']
          | right =>
            rw [hlink'] at hright
            exact absurd rfl (hapart _ (hleft.mem_keys hrest) _ (hright.mem_keys hrest'))
        | right =>
          rw [hlink] at hright
          cases side' with
          | left =>
            rw [hlink'] at hleft
            exact absurd rfl (hapart _ (hleft.mem_keys hrest') _ (hright.mem_keys hrest))
          | right =>
            rw [hlink] at hlink'
            cases hlink'
            rw [ih hright hrs hrest']

/-! ## Walks with a stack -/

variable (s)

/-- The links of a record that a walk puts on its stack, the left one on top. -/
def pending (n : ν) (d : ℕ) : List (ι × ℕ) :=
  ((s.link n .left).toList ++ (s.link n .right).toList).map fun o => (o, d)

/-- The visits of a walk from the keys on a stack, one after the other. -/
inductive PreorderAll : List (ι × ℕ) → List (Visit ι ν) → Prop
  | nil : PreorderAll [] []
  | cons {o : ι} {d : ℕ} {rest : List (ι × ℕ)} {vs ws : List (Visit ι ν)}
      (hfirst : s.Preorder (some o) d vs) (hrest : PreorderAll rest ws) :
      PreorderAll ((o, d) :: rest) (vs ++ ws)

variable {s}

/-- The visits under a link come first, if it is on the stack. -/
theorem PreorderAll.link {k : Option ι} {rest : List (ι × ℕ)} {ws : List (Visit ι ν)}
    (h : s.PreorderAll (k.toList.map (fun o => (o, d)) ++ rest) ws) :
    ∃ vs ws', ws = vs ++ ws' ∧ s.Preorder k d vs ∧ s.PreorderAll rest ws' := by
  cases k with
  | none => exact ⟨[], ws, rfl, .none d, h⟩
  | some o =>
    cases h with
    | cons hfirst hrest => exact ⟨_, _, rfl, hfirst, hrest⟩

/-- A turn of the walk: a key is taken from the stack and its links are put on it. -/
theorem PreorderAll.turn {n : ν} {rest : List (ι × ℕ)} {ws : List (Visit ι ν)}
    (hrecord : s.record o = some n) (h : s.PreorderAll (s.pending n (d + 1) ++ rest) ws) :
    s.PreorderAll ((o, d) :: rest) (⟨o, d, n⟩ :: ws) := by
  rw [pending, List.map_append, List.append_assoc] at h
  obtain ⟨ls, ws', rfl, hleft, h⟩ := h.link
  obtain ⟨rs, ws'', rfl, hright, h⟩ := h.link
  rw [← List.append_assoc, ← List.cons_append]
  exact .cons (.node hrecord hleft hright) h

/-- A walk that starts with one key. -/
theorem PreorderAll.single (h : s.PreorderAll [(o, d)] vs) : s.Preorder (some o) d vs := by
  cases h with
  | cons hfirst hrest =>
    cases hrest
    rw [List.append_nil]
    exact hfirst

end LinkedStore

end Xblob.Computation
