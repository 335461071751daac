import Xblob.Interface.ExportRuns

/-!
# The registry tracks one ordinal too many

The counts are written under a guard and then read with an accessor that enters what is missing.
While there is room for the ordinals of a run the accounts are right; the first ordinal without room
is entered all the same, and with the count 0.
-/

set_option autoImplicit false

namespace Xblob.Analysis

open Xblob.Computation Xblob.Interface Xblob.Kernel

variable {s : CountedRegistry} {r : ExportRegistry}

/-- The accounts, and that what is not tracked has not been dispatched. -/
structure Audited (s : CountedRegistry) : Prop extends Accounts s where
  untracked : ∀ ordinal, ordinal ∉ s.registry.unsupportedCounts → s.number ordinal = 0
  number_le : ∀ ordinal, s.number ordinal ≤ s.registry.totalDispatches.toNat

/-- The new registry is audited. -/
theorem audited_new : Audited {} where
  tracked := by simp
  history := by simp
  totals := rfl
  counts ordinal hmem := by simp at hmem
  untracked _ _ := rfl
  number_le _ := Nat.zero_le _

/-- A counter with room counts one more. -/
theorem toNat_increment {n : U64} (h : n.toNat + 1 < 2 ^ 64) : (n + 1).toNat = n.toNat + 1 := by
  rw [BitVec.toNat_add, show (1 : U64).toNat = 1 from rfl, Nat.mod_eq_of_lt h]

/-- The history keeps to its 32 records. -/
theorem appendHistory_length (history : List UnsupportedExportRecord) (info : UnsupportedExportRecord)
    (h : history.length ≤ 32) : (ExportRegistry.appendHistory history info).length ≤ 32 := by
  unfold ExportRegistry.appendHistory ExportRegistry.kMaxUnsupportedHistory
  split
  · rw [List.length_append, List.length_tail, List.length_singleton]
    omega
  · rw [List.length_append, List.length_singleton]
    omega

/-! ## The counts -/

section Counts

variable {ordinal : U32} {tid : ThreadId} {eip : GuestAddr} {args : List U32} {name : String}

/-- With room, the count of the ordinal is raised and no other is entered. -/
theorem counts_with_room
    (hroom : r.unsupportedCounts.size < 64 ∨ ordinal ∈ r.unsupportedCounts) (o : U32) :
    (r.recordUnsupportedExport ordinal tid eip args name).unsupportedCounts[o]? =
      if o = ordinal then some (r.unsupportedCounts.getD ordinal 0 + 1) else r.unsupportedCounts[o]? := by
  show ((r.countUnsupported ordinal).insertIfNew ordinal 0)[o]? = _
  have hcount : r.countUnsupported ordinal =
      r.unsupportedCounts.insert ordinal (r.unsupportedCounts.getD ordinal 0 + 1) := if_pos hroom
  rw [hcount, Std.TreeMap.getElem?_insertIfNew, if_neg (by simp), Std.TreeMap.getElem?_insert]
  by_cases ho : o = ordinal
  · subst ho
    simp
  · rw [if_neg (by simpa using Ne.symm ho), if_neg ho]

/-- A call with room to track keeps to the 64 ordinals. -/
theorem size_with_room
    (hroom : r.unsupportedCounts.size < 64 ∨ ordinal ∈ r.unsupportedCounts) (hsize : r.unsupportedCounts.size ≤ 64) :
    (r.recordUnsupportedExport ordinal tid eip args name).unsupportedCounts.size ≤ 64 := by
  show ((r.countUnsupported ordinal).insertIfNew ordinal 0).size ≤ 64
  have hcount : r.countUnsupported ordinal =
      r.unsupportedCounts.insert ordinal (r.unsupportedCounts.getD ordinal 0 + 1) := if_pos hroom
  rw [hcount, Std.TreeMap.size_insertIfNew, if_pos (by simp), Std.TreeMap.size_insert]
  split
  · exact hsize
  next hmissing =>
    have hless := hroom.resolve_right (by simpa using hmissing)
    omega

/-- Without room, the ordinal is entered. -/
theorem size_without_room
    (hroom : ¬ (r.unsupportedCounts.size < 64 ∨ ordinal ∈ r.unsupportedCounts)) :
    64 < (r.recordUnsupportedExport ordinal tid eip args name).unsupportedCounts.size := by
  show 64 < ((r.countUnsupported ordinal).insertIfNew ordinal 0).size
  have hcount : r.countUnsupported ordinal = r.unsupportedCounts := if_neg hroom
  rw [not_or] at hroom
  rw [hcount, Std.TreeMap.size_insertIfNew, if_neg hroom.2]
  omega

end Counts

/-! ## Calls -/

/-- A dispatch that is supported. -/
theorem Audited.supported (h : Audited s) {r : ExportRegistry}
    (hcounts : r.unsupportedCounts = s.registry.unsupportedCounts)
    (hhistory : r.unsupportedHistory = s.registry.unsupportedHistory)
    (htotal : r.totalDispatches.toNat = s.registry.totalDispatches.toNat + 1)
    (htotals : r.totalDispatches.toNat = r.successfulDispatches.toNat + r.failedDispatches.toNat +
      r.unsupportedDispatches.toNat) : Audited { s with registry := r } where
  tracked := by
    show r.unsupportedCounts.size ≤ 64
    rw [hcounts]
    exact h.tracked
  history := by
    show r.unsupportedHistory.length ≤ 32
    rw [hhistory]
    exact h.history
  totals := htotals
  counts := by
    show ∀ ordinal ∈ r.unsupportedCounts, (r.unsupportedCounts.getD ordinal 0).toNat = s.number ordinal
    rw [hcounts]
    exact h.counts
  untracked := by
    show ∀ ordinal, ordinal ∉ r.unsupportedCounts → s.number ordinal = 0
    rw [hcounts]
    exact h.untracked
  number_le ordinal := by
    have hle := h.number_le ordinal
    show s.number ordinal ≤ r.totalDispatches.toNat
    omega

/-- An unsupported call with room keeps the registry audited. -/
theorem Audited.unsupported (h : Audited s) {ordinal : U32}
    (hroom : s.registry.unsupportedCounts.size < 64 ∨ ordinal ∈ s.registry.unsupportedCounts)
    (hfits : s.registry.totalDispatches.toNat + 1 < 2 ^ 64) (tid : ThreadId) (eip : GuestAddr)
    (args : List U32) (name : String) :
    Audited (RegistryCall.next s (.unsupported ordinal tid eip args name)) := by
  have htotals := h.totals
  have htotal : (s.registry.totalDispatches + 1).toNat = s.registry.totalDispatches.toNat + 1 :=
    toNat_increment hfits
  have hunsupported : (s.registry.unsupportedDispatches + 1).toNat =
      s.registry.unsupportedDispatches.toNat + 1 := toNat_increment (by omega)
  have hbefore : (s.registry.unsupportedCounts.getD ordinal 0).toNat = s.number ordinal := by
    by_cases hmem : ordinal ∈ s.registry.unsupportedCounts
    · exact h.counts ordinal hmem
    · rw [Std.TreeMap.getD_eq_fallback hmem, h.untracked ordinal hmem]
      rfl
  have hnumber := h.number_le ordinal
  have hafter : ∀ o, (s.registry.recordUnsupportedExport ordinal tid eip args
      name).unsupportedCounts[o]? = if o = ordinal then
        some (s.registry.unsupportedCounts.getD ordinal 0 + 1) else s.registry.unsupportedCounts[o]? :=
    counts_with_room hroom
  refine ⟨⟨size_with_room hroom h.tracked, appendHistory_length _ _ h.history, ?_, ?_⟩, ?_, ?_⟩
  · show (s.registry.totalDispatches + 1).toNat = s.registry.successfulDispatches.toNat +
      s.registry.failedDispatches.toNat + (s.registry.unsupportedDispatches + 1).toNat
    omega
  · intro o hmem
    show ((s.registry.recordUnsupportedExport ordinal tid eip args name).unsupportedCounts.getD o
      0).toNat = if o = ordinal then s.number o + 1 else s.number o
    rw [Std.TreeMap.getD_eq_getD_getElem?, hafter]
    by_cases ho : o = ordinal
    · subst ho
      rw [if_pos rfl, if_pos rfl, Option.getD_some, toNat_increment (by omega), hbefore]
    · have hold : o ∈ s.registry.unsupportedCounts := by
        have hmem' : o ∈ (s.registry.recordUnsupportedExport ordinal tid eip args
          name).unsupportedCounts := hmem
        rw [← Std.TreeMap.isSome_getElem?_iff_mem, hafter, if_neg ho] at hmem'
        rwa [← Std.TreeMap.isSome_getElem?_iff_mem]
      have hcount := h.counts o hold
      rw [if_neg ho, if_neg ho, ← Std.TreeMap.getD_eq_getD_getElem?]
      exact hcount
  · intro o hnot
    have hnot' : o ∉ (s.registry.recordUnsupportedExport ordinal tid eip args
      name).unsupportedCounts := hnot
    show (if o = ordinal then s.number o + 1 else s.number o) = 0
    rw [← Std.TreeMap.isSome_getElem?_iff_mem, hafter] at hnot'
    by_cases ho : o = ordinal
    · simp [ho] at hnot'
    · rw [if_neg ho] at hnot' ⊢
      apply h.untracked
      rwa [← Std.TreeMap.isSome_getElem?_iff_mem]
  · intro o
    have hle := h.number_le o
    show (if o = ordinal then s.number o + 1 else s.number o) ≤ (s.registry.totalDispatches + 1).toNat
    split
    · omega
    · omega

/-- Every call with room keeps the registry audited. -/
theorem audited_next (h : Audited s) {call : RegistryCall} (hroom : RoomToTrack s call)
    (hfits : TotalFits s call) : Audited (call.next s) := by
  have htotals := h.totals
  cases call with
  | success =>
    have htotal := toNat_increment (hfits (by simp))
    have hsuccess : (s.registry.successfulDispatches + 1).toNat =
        s.registry.successfulDispatches.toNat + 1 := by
      have hfit := hfits (by simp)
      exact toNat_increment (by omega)
    refine h.supported rfl rfl htotal ?_
    show (s.registry.totalDispatches + 1).toNat = (s.registry.successfulDispatches + 1).toNat +
      s.registry.failedDispatches.toNat + s.registry.unsupportedDispatches.toNat
    omega
  | failure =>
    have htotal := toNat_increment (hfits (by simp))
    have hfailure : (s.registry.failedDispatches + 1).toNat =
        s.registry.failedDispatches.toNat + 1 := by
      have hfit := hfits (by simp)
      exact toNat_increment (by omega)
    refine h.supported rfl rfl htotal ?_
    show (s.registry.totalDispatches + 1).toNat = s.registry.successfulDispatches.toNat +
      (s.registry.failedDispatches + 1).toNat + s.registry.unsupportedDispatches.toNat
    omega
  | unsupported ordinal tid eip args name =>
    exact h.unsupported (hroom ordinal tid eip args name rfl) (hfits (by simp)) tid eip args name
  | resetStats => exact audited_new

/-- Accounts that are right after a call had room for it. -/
theorem roomToTrack_of_accounts {call : RegistryCall} (h : Accounts (call.next s)) : RoomToTrack s call := by
  rintro ordinal tid eip args name rfl
  by_contra hroom
  have hsize : 64 < (s.registry.recordUnsupportedExport ordinal tid eip args name).unsupportedCounts.size :=
    size_without_room hroom
  exact absurd h.tracked (Nat.not_le.2 hsize)

/-- In a run in which the number of dispatches fits in 64 bits, the accounts are right exactly if no
ordinal is dispatched, unsupported, that is not tracked and has no room. -/
theorem registry_accounts_iff (calls : List RegistryCall) (s : CountedRegistry)
    (hfits : Runs RegistryCall.next TotalFits calls {} s) :
    Accounts {} ∧ (Runs RegistryCall.next AccountsKept calls {} s ↔
      Runs RegistryCall.next RoomToTrack calls {} s) := by
  refine ⟨audited_new.toAccounts, ?_, ?_⟩
  · intro hruns
    exact hruns.under (I := fun _ => True) trivial fun _ _ _ hkept => ⟨roomToTrack_of_accounts hkept.2, trivial⟩
  · intro hruns
    refine (hruns.and hfits).under audited_new fun s call hs hguard => ?_
    have hnext := audited_next hs hguard.1 hguard.2
    exact ⟨⟨hs.toAccounts, hnext.toAccounts⟩, hnext⟩

/-- One ordinal is called twice. -/
theorem registry_accounts_two_calls : Accounts {} ∧
    (Runs RegistryCall.next AccountsKept
        [.unsupported 400 1 0 [] "", .unsupported 400 1 0 [] ""] {}
        ([.unsupported 400 1 0 [] "", .unsupported 400 1 0 [] ""].foldl RegistryCall.next {}) ↔
      Runs RegistryCall.next RoomToTrack
        [.unsupported 400 1 0 [] "", .unsupported 400 1 0 [] ""] {}
        ([.unsupported 400 1 0 [] "", .unsupported 400 1 0 [] ""].foldl RegistryCall.next {})) := by
  apply registry_accounts_iff
  refine .cons (fun _ => ?_) (.cons (fun _ => ?_) (.nil _))
  · decide
  · decide

/-- An unsupported dispatch of each of the first `n` ordinals. -/
def firstOrdinals (n : ℕ) : List RegistryCall :=
  (List.range n).map fun i => .unsupported (BitVec.ofNat 32 i) 1 0 [] ""

/-- The 65th ordinal is tracked, and its second dispatch is counted as the first. -/
theorem sixtyFifth_ordinal_tracked :
    ((firstOrdinals 65).foldl RegistryCall.next {}).registry.unsupportedCounts.size = 65 ∧
      ¬ Accounts ((firstOrdinals 65).foldl RegistryCall.next {}) ∧
      ((firstOrdinals 65).foldl RegistryCall.next {}).registry.getUnsupportedCallCount 64 = 0 ∧
      ((firstOrdinals 65).foldl RegistryCall.next {}).number 64 = 1 := by
  have hsize : ((firstOrdinals 65).foldl RegistryCall.next {}).registry.unsupportedCounts.size = 65 := by
    decide +kernel
  refine ⟨hsize, ?_, by decide +kernel, by decide +kernel⟩
  intro h
  have htracked := h.tracked
  omega

end Xblob.Analysis
