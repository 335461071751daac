import Xblob.Analysis.GuestHeaps
import Xblob.Interface.GuestHeaps

/-!
# The heap manager

`CreateHeap` checks nothing: not the end of the range, not the other heaps, not the handle,
which is the base.  Heaps stay apart exactly as long as the places they are made in are clear.
-/

set_option autoImplicit false

namespace Xblob.Analysis

open Xblob.Computation Xblob.Kernel Xblob.Interface

section Calls

variable {m m' : GuestHeapManager} {n : HeapName} {heap : GuestHeap} {base handle : U32}
  {size alignment : U64}

/-- `GetHeap` reaches the heap of the name. -/
theorem getHeap_ok_iff :
    m.getHeap handle = .ok heap ↔ ∃ n, named m handle = some n ∧ heapOf m n = some heap := by
  unfold GuestHeapManager.getHeap named
  by_cases hdefault : handle = 0 ∨ handle = m.defaultHeap.baseAddr
  · rw [if_pos hdefault, if_pos hdefault]
    simp [heapOf]
  · rw [if_neg hdefault, if_neg hdefault]
    cases hlive : m.secondaryHeaps[handle]? with
    | none =>
      have hnot : m.secondaryHeaps.contains handle = false := by
        simp [Std.TreeMap.contains_eq_isSome_getElem?, hlive]
      simp [hnot]
    | some heap' =>
      have hmem : m.secondaryHeaps.contains handle = true := by
        simp [Std.TreeMap.contains_eq_isSome_getElem?, hlive]
      simp [hmem, heapOf, hlive]

/-- The handle of a new heap is its place. -/
@[simp] theorem createHeap_handle :
    (m.createHeap base size alignment).1 = placeOf m base := by
  unfold GuestHeapManager.createHeap placeOf
  split <;> rfl

/-- A new heap leaves the default heap. -/
@[simp] theorem createHeap_defaultHeap :
    (m.createHeap base size alignment).2.defaultHeap = m.defaultHeap := by
  unfold GuestHeapManager.createHeap
  split <;> rfl

/-- A new heap is added at its place. -/
@[simp] theorem createHeap_secondaryHeaps :
    (m.createHeap base size alignment).2.secondaryHeaps =
      m.secondaryHeaps.insert (placeOf m base) (GuestHeap.new (placeOf m base) size alignment) := by
  unfold GuestHeapManager.createHeap placeOf
  split <;> rfl

/-- The heaps after a creation. -/
theorem heapOf_createHeap :
    heapOf (m.createHeap base size alignment).2 n =
      if n = .secondary (placeOf m base) then
        some (GuestHeap.new (placeOf m base) size alignment)
      else heapOf m n := by
  cases n with
  | default => simp [heapOf]
  | secondary handle =>
    simp only [heapOf, createHeap_secondaryHeaps, Std.TreeMap.getElem?_insert,
      HeapName.secondary.injEq]
    by_cases heq : handle = placeOf m base
    · simp [heq]
    · have hne : compare (placeOf m base) handle ≠ .eq :=
        fun hc => heq (Std.LawfulEqCmp.eq_of_compare hc).symm
      rw [if_neg hne, if_neg heq]

/-- A handle leads to the heap of the start. -/
theorem named_default : named m m.defaultHeap.baseAddr = some .default :=
  if_pos (Or.inr rfl)

/-- A handle of a live heap leads to it when it is neither 0 nor that of the first heap. -/
theorem named_secondary_iff (hlive : m.secondaryHeaps[handle]? = some heap) :
    named m handle = some (.secondary handle) ↔ handle ≠ 0 ∧ handle ≠ m.defaultHeap.baseAddr := by
  have hmem : m.secondaryHeaps.contains handle = true := by
    simp [Std.TreeMap.contains_eq_isSome_getElem?, hlive]
  unfold named
  by_cases hdefault : handle = 0 ∨ handle = m.defaultHeap.baseAddr
  · rw [if_pos hdefault]
    constructor
    · intro h
      cases h
    · rintro ⟨hzero, hbase⟩
      exact absurd hdefault (not_or.mpr ⟨hzero, hbase⟩)
  · rw [if_neg hdefault, if_pos hmem]
    exact ⟨fun _ => not_or.mp hdefault, fun _ => rfl⟩

/-- Heaps stay apart when none is added and none moves. -/
theorem heapsApart_of_heapOf (h : HeapsApart m)
    (hdefault : m'.defaultHeap.baseAddr = m.defaultHeap.baseAddr)
    (hheaps : ∀ {n heap'}, heapOf m' n = some heap' →
      ∃ heap, heapOf m n = some heap ∧ SamePlace heap heap') : HeapsApart m' := by
  have hspan : ∀ {heap heap'}, SamePlace heap heap' → heapSpan heap' = heapSpan heap := by
    intro heap heap' hplace
    rw [heapSpan, heapSpan, hplace.1, hplace.2]
  refine ⟨?_, ?_, ?_⟩
  · intro n heap' hlive
    obtain ⟨heap, hold, hplace⟩ := hheaps hlive
    rw [hspan hplace]
    exact h.inside hold
  · intro n n' heap₁ heap₂ hlive₁ hlive₂ hne
    obtain ⟨old₁, hold₁, hplace₁⟩ := hheaps hlive₁
    obtain ⟨old₂, hold₂, hplace₂⟩ := hheaps hlive₂
    rw [hspan hplace₁, hspan hplace₂]
    exact h.apart hold₁ hold₂ hne
  · intro n heap' hlive
    cases n with
    | default => exact named_default
    | secondary handle =>
      obtain ⟨heap, hold, -⟩ := hheaps hlive
      have hown := h.own hold
      rw [handleOf, named_secondary_iff hold] at hown
      rw [handleOf, named_secondary_iff hlive, hdefault]
      exact hown

/-- Destroying a heap leaves the others apart. -/
theorem heapsApart_destroyHeap (h : HeapsApart m) (hok : m.destroyHeap handle = .ok m') :
    HeapsApart m' := by
  unfold GuestHeapManager.destroyHeap at hok
  split at hok
  · cases hok
  · split at hok
    · cases hok
      refine heapsApart_of_heapOf h (by rfl) ?_
      intro n heap hlive
      refine ⟨heap, ?_, rfl, rfl⟩
      cases n with
      | default => exact hlive
      | secondary handle' =>
        simp only [heapOf, Std.TreeMap.getElem?_erase] at hlive ⊢
        split at hlive
        · cases hlive
        · exact hlive
    · cases hok

/-- A heap is put back where it was taken from. -/
theorem heapsApart_setHeap (h : HeapsApart m) {old : GuestHeap} (hok : m.getHeap handle = .ok old)
    (hplace : SamePlace old heap) : HeapsApart (m.setHeap handle heap) := by
  unfold GuestHeapManager.getHeap at hok
  unfold GuestHeapManager.setHeap
  by_cases hdefault : handle = 0 ∨ handle = m.defaultHeap.baseAddr
  · rw [if_pos hdefault] at hok ⊢
    obtain rfl := Except.ok.inj hok
    apply heapsApart_of_heapOf h hplace.1
    intro n heap' hlive
    cases n with
    | default => exact ⟨m.defaultHeap, rfl, Option.some.inj hlive ▸ hplace⟩
    | secondary handle' => exact ⟨heap', hlive, rfl, rfl⟩
  · rw [if_neg hdefault] at hok ⊢
    refine heapsApart_of_heapOf h (by rfl) ?_
    intro n heap' hlive
    cases n with
    | default => exact ⟨heap', hlive, rfl, rfl⟩
    | secondary handle' =>
      simp only [heapOf, Std.TreeMap.getElem?_insert] at hlive ⊢
      split at hlive
      case isTrue heq =>
        obtain rfl := Std.LawfulEqCmp.eq_of_compare heq
        cases hold : m.secondaryHeaps[handle]? with
        | none =>
          rw [hold] at hok
          cases hok
        | some old' =>
          rw [hold] at hok
          obtain rfl := Except.ok.inj hok
          exact ⟨old', rfl, Option.some.inj hlive ▸ hplace⟩
      case isFalse => exact ⟨heap', hlive, rfl, rfl⟩

/-- In a clear place `CreateHeap` does what it should. -/
theorem createHeap_lawful (h : HeapsApart m) (hclear : PlaceClear m (placeOf m base) size) :
    (∀ n heap, heapOf m n = some heap →
      heapOf (m.createHeap base size alignment).2 n = some heap) ∧
      HeapsApart (m.createHeap base size alignment).2 := by
  have hnew : ∀ {n heap}, heapOf m n = some heap → n ≠ .secondary (placeOf m base) := by
    rintro _ heap hlive rfl
    rw [heapOf, hclear.fresh.2.2] at hlive
    cases hlive
  refine ⟨?_, ?_, ?_, ?_⟩
  · intro n heap hlive
    rw [heapOf_createHeap, if_neg (hnew hlive)]
    exact hlive
  · intro n heap hlive
    rw [heapOf_createHeap] at hlive
    split at hlive
    · obtain rfl := Option.some.inj hlive
      exact hclear.fits
    · exact h.inside hlive
  · intro n n' heap heap' hlive hlive' hne x hx hx'
    rw [heapOf_createHeap] at hlive hlive'
    split at hlive
    case isTrue heq =>
      obtain rfl := Option.some.inj hlive
      rw [if_neg (fun heq' => hne (heq.trans heq'.symm))] at hlive'
      exact hclear.apart hlive' x hx' hx
    case isFalse =>
      split at hlive'
      · obtain rfl := Option.some.inj hlive'
        exact hclear.apart hlive x hx hx'
      · exact h.apart hlive hlive' hne x hx hx'
  · intro n heap hlive
    cases n with
    | default => exact named_default
    | secondary handle =>
      rw [handleOf, named_secondary_iff hlive, createHeap_defaultHeap]
      rw [heapOf_createHeap] at hlive
      split at hlive
      case isTrue heq =>
        obtain rfl := HeapName.secondary.inj heq
        exact ⟨hclear.fresh.1, hclear.fresh.2.1⟩
      case isFalse =>
        have hown := h.own hlive
        rw [handleOf, named_secondary_iff hlive] at hown
        exact hown

/-- It does so in clear places only. -/
theorem placeClear_of_lawful
    (hfree : heapOf m (.secondary (placeOf m base)) = none)
    (h : HeapsApart (m.createHeap base size alignment).2) :
    PlaceClear m (placeOf m base) size := by
  have hlive : heapOf (m.createHeap base size alignment).2 (.secondary (placeOf m base)) =
      some (GuestHeap.new (placeOf m base) size alignment) := by
    rw [heapOf_createHeap, if_pos rfl]
  refine ⟨h.inside hlive, ?_, ?_⟩
  · intro n heap hold x hx hx'
    have hne : n ≠ .secondary (placeOf m base) := by
      rintro rfl
      rw [hfree] at hold
      cases hold
    have hkept : heapOf (m.createHeap base size alignment).2 n = some heap := by
      rw [heapOf_createHeap, if_neg hne]
      exact hold
    exact h.apart hkept hlive hne x hx hx'
  · have hown := h.own hlive
    rw [handleOf, named_secondary_iff hlive, createHeap_defaultHeap] at hown
    exact ⟨hown.1, hown.2, hfree⟩

/-- With the heaps apart before, a call leaves what it should exactly when it makes heaps in
clear places only. -/
theorem callLawful_iff {δ : Type} (h : HeapsApart m) (c : ManagerCall δ) :
    CallLawful m c ↔ MakesClear m c := by
  cases c with
  | createHeap base size alignment =>
    constructor
    · rintro ⟨⟨-, hfree⟩, hafter⟩
      rw [createHeap_handle] at hfree
      exact placeClear_of_lawful hfree hafter
    · intro hclear
      obtain ⟨hkept, hafter⟩ := createHeap_lawful h hclear
      refine ⟨⟨hkept, ?_⟩, hafter⟩
      rw [createHeap_handle]
      exact hclear.fresh.2.2
  | destroyHeap handle =>
    refine ⟨fun _ => trivial, fun _ => ⟨trivial, ?_⟩⟩
    cases hok : m.destroyHeap handle with
    | error e => simpa only [ManagerCall.next, hok] using h
    | ok m' => simpa only [ManagerCall.next, hok] using heapsApart_destroyHeap h hok
  | onHeap handle call =>
    refine ⟨fun _ => trivial, fun _ => ⟨trivial, ?_⟩⟩
    cases hok : m.getHeap handle with
    | error e => simpa only [ManagerCall.next, hok] using h
    | ok heap =>
      simpa only [ManagerCall.next, hok] using heapsApart_setHeap h hok (samePlace_next call)

end Calls

/-! ## Runs -/

/-- The heap of the start is the only one. -/
theorem heapsApart_new_iff {defaultBase : GuestAddr} {defaultSize : U64} :
    HeapsApart (GuestHeapManager.new defaultBase defaultSize) ↔
      defaultBase.toNat + defaultSize.toNat ≤ 2 ^ 32 := by
  have honly : ∀ {n heap}, heapOf (GuestHeapManager.new defaultBase defaultSize) n = some heap →
      n = .default ∧ heap = GuestHeap.new defaultBase defaultSize 8 := by
    intro n heap hlive
    cases n with
    | default => exact ⟨rfl, (Option.some.inj hlive).symm⟩
    | secondary handle => simp [heapOf, GuestHeapManager.new] at hlive
  constructor
  · intro h
    exact h.inside (n := .default) rfl
  · intro hfits
    refine ⟨?_, ?_, ?_⟩
    · intro n heap hlive
      rw [(honly hlive).2]
      exact hfits
    · intro n n' heap heap' hlive hlive' hne
      exact absurd ((honly hlive).1.trans (honly hlive').1.symm) hne
    · intro n heap hlive
      rw [(honly hlive).1]
      exact named_default

/-- Along a run all live heaps keep to themselves, with their handles and what they have given
out, exactly when the heap of the start ends by 2^32 and every heap is made in a clear place. -/
theorem heaps_apart_iff {δ : Type} (defaultBase : GuestAddr) (defaultSize : U64)
    (calls : List (ManagerCall δ)) (m : GuestHeapManager) :
    (HeapsApart (GuestHeapManager.new defaultBase defaultSize) ∧
      Runs ManagerCall.next CallLawful calls (GuestHeapManager.new defaultBase defaultSize) m) ↔
    (defaultBase.toNat + defaultSize.toNat ≤ 2 ^ 32 ∧
      Runs ManagerCall.next MakesClear calls (GuestHeapManager.new defaultBase defaultSize) m) := by
  rw [heapsApart_new_iff]
  refine and_congr_right fun hfits => ?_
  have hstart := heapsApart_new_iff.mpr hfits
  constructor
  · apply Runs.under hstart
    intro m c h hlawful
    exact ⟨(callLawful_iff h c).mp hlawful, hlawful.2⟩
  · apply Runs.under hstart
    intro m c h hclear
    have hlawful := (callLawful_iff h c).mpr hclear
    exact ⟨hlawful, hlawful.2⟩

/-- A heap the guest asks for inside the default one. -/
theorem heap_made_inside_the_default :
    ¬ Runs ManagerCall.next CallLawful [(.createHeap 0x10800000 0x100000 8 : ManagerCall Unit)]
      (GuestHeapManager.new 0x10000000 0x1000000)
      (ManagerCall.next (GuestHeapManager.new 0x10000000 0x1000000)
        (.createHeap 0x10800000 0x100000 8 : ManagerCall Unit)) := by
  intro hruns
  cases hruns with
  | cons hlawful _ =>
    have hclear := (callLawful_iff (heapsApart_new_iff.mpr (by decide)) _).mp hlawful
    have hboth := hclear.apart (n := .default) rfl 0x10800000
    exact hboth (by decide) (by decide)

end Xblob.Analysis
