import Xblob.Interface.VirtualRegions

/-!
# The map of virtual regions

What each call of the manager does to the map, and the invariant every call keeps; and when the
search for a free range finds one.
-/

set_option autoImplicit false

namespace Xblob.Analysis

open Xblob.Computation Xblob.Kernel Xblob.Kernel.VirtualMemoryManager Xblob.Interface

variable {vm vm' : VirtualMemoryManager}

/-! ## Arithmetic -/

/-- Aligning up is rounding up to a power of two. -/
theorem toNat_alignUp {x a : U64} {k : ℕ} (ha : a.toNat = 2 ^ k)
    (hx : x.toNat + (2 ^ k - 1) < 2 ^ 64) : (alignUp x a).toNat = roundUp (2 ^ k) x.toNat := by
  have hsum : x + a - 1 = x + (a - 1) := by
    rw [BitVec.sub_eq_add_neg, BitVec.sub_eq_add_neg, BitVec.add_assoc]
  unfold alignUp
  rw [hsum]
  exact toNat_roundUp x a ha hx

/-- A size aligned to pages is rounded up to them. -/
theorem toNat_pageUp {x : U64} (hx : x.toNat + 2 ^ 32 ≤ 2 ^ 64) :
    (alignUp x kPageSize).toNat = roundUp 4096 x.toNat := by
  apply toNat_alignUp (k := 12) rfl
  omega

/-- An address aligned to the granularity is rounded up to it. -/
theorem toNat_granuleUp (x : GuestAddr) :
    (alignUp (x.setWidth 64) kAllocationGranularity).toNat = roundUp 65536 x.toNat := by
  have hlt := x.isLt
  have hwide : (x.setWidth 64).toNat = x.toNat := by
    rw [BitVec.toNat_setWidth]
    omega
  rw [← hwide]
  apply toNat_alignUp (k := 16) rfl
  omega

/-- The end of a range that does not wrap. -/
theorem toNat_end {base : GuestAddr} {size : U64} (h : base.toNat + size.toNat < 2 ^ 32) :
    (base + size.setWidth 32).toNat = base.toNat + size.toNat := by
  rw [BitVec.toNat_add, BitVec.toNat_setWidth]
  omega

/-- The end of a range at 64 bits. -/
theorem toNat_wideEnd {base : GuestAddr} {size : U64} (h : size.toNat + 2 ^ 32 ≤ 2 ^ 64) :
    (base.setWidth 64 + size).toNat = base.toNat + size.toNat := by
  have hlt := base.isLt
  rw [BitVec.toNat_add, BitVec.toNat_setWidth]
  omega

/-! ## Looking for regions -/

/-- The regions listed are those in the table. -/
theorem mem_regions {base : GuestAddr} {region : VirtualRegion} :
    (base, region) ∈ vm.regions.toList ↔ vm.regions[base]? = some region :=
  Std.TreeMap.mem_toList_iff_getElem?_eq_some

/-- A region ends within the user range. -/
theorem end_lt (h : RegionsLawful vm) {base : GuestAddr} {region : VirtualRegion}
    (hregion : vm.regions[base]? = some region) :
    base.toNat + region.size.toNat < 2 ^ 32 ∧
      base.toNat + region.size.toNat ≤ vm.userLimit.toNat ∧
      vm.userBase.toNat ≤ base.toNat := by
  have hinside := h.inside hregion
  have hpos := h.nonempty hregion
  have hlimit := vm.userLimit.isLt
  simp only [Span.Inside, Span.stop, regionSpan] at hinside
  omega

/-- The end of a region is that of its span. -/
theorem toNat_regionEnd (h : RegionsLawful vm) {base : GuestAddr} {region : VirtualRegion}
    (hregion : vm.regions[base]? = some region) :
    (regionEnd base region).toNat = (regionSpan base region).stop :=
  toNat_end (end_lt h hregion).1

/-- A range is new to the map when it is in the user's part and apart from every region. -/
structure Fresh (vm : VirtualMemoryManager) (base : GuestAddr) (size : U64) : Prop where
  aligned : 4096 ∣ base.toNat ∧ 4096 ∣ size.toNat
  nonempty : 0 < size.toNat
  apart : ∀ {base' : GuestAddr} {region}, vm.regions[base']? = some region →
    (regionSpan base' region).Apart ⟨base.toNat, size.toNat⟩
  inside : vm.userBase.toNat ≤ base.toNat ∧ base.toNat + size.toNat ≤ vm.userLimit.toNat

/-- A range that overlaps none is apart from every region. -/
theorem overlapsExisting_false (h : RegionsLawful vm) {base : GuestAddr} {size : U64}
    (hpos : 0 < size.toNat) (hend : base.toNat + size.toNat < 2 ^ 32)
    (hnone : vm.overlapsExisting base size = false) {base' : GuestAddr} {region : VirtualRegion}
    (hregion : vm.regions[base']? = some region) :
    (regionSpan base' region).Apart ⟨base.toNat, size.toNat⟩ := by
  have hsize : size ≠ 0 := by
    rintro rfl
    simp at hpos
  unfold overlapsExisting at hnone
  rw [if_neg hsize] at hnone
  have hthis := List.any_eq_false.mp hnone _ (mem_regions.mpr hregion)
  simp only [Bool.and_eq_true, decide_eq_true_eq, BitVec.lt_def, gt_iff_lt] at hthis
  rw [toNat_regionEnd h hregion, toNat_end hend] at hthis
  simp only [Span.Apart, Span.Before, Span.stop, regionSpan] at *
  omega

/-! ## Searching for a free range -/

/-- The manager with a hint in the user's part of the address space, which ends low enough for
every address in it to be rounded up to the granularity. -/
structure Managed (vm : VirtualMemoryManager) : Prop where
  lawful : RegionsLawful vm
  limit : vm.userLimit.toNat ≤ 0xFFFF0000
  hint : vm.userBase.toNat ≤ vm.nextAutoAddr.toNat ∧ vm.nextAutoAddr.toNat ≤ vm.userLimit.toNat

/-- The collision test of the code, as numbers. -/
theorem collision_iff (h : RegionsLawful vm) {candidate : GuestAddr} {size : U64}
    (hsize : size.toNat + 2 ^ 32 ≤ 2 ^ 64) {base : GuestAddr} {region : VirtualRegion}
    (hregion : vm.regions[base]? = some region) :
    (decide (candidate < regionEnd base region) &&
      decide (candidate.setWidth 64 + size > base.setWidth 64)) = true ↔
    candidate.toNat < (regionSpan base region).stop ∧
      base.toNat < candidate.toNat + size.toNat := by
  have hbase : (base.setWidth 64 : U64).toNat = base.toNat := by
    rw [BitVec.toNat_setWidth]
    have := base.isLt
    omega
  simp only [Bool.and_eq_true, decide_eq_true_eq, gt_iff_lt, BitVec.lt_def]
  rw [toNat_regionEnd h hregion, toNat_wideEnd hsize, hbase]

/-- The candidate a collision leads to. -/
theorem toNat_nextCandidate (h : Managed vm) {base : GuestAddr} {region : VirtualRegion}
    (hregion : vm.regions[base]? = some region) :
    ((alignUp ((regionEnd base region).setWidth 64) kAllocationGranularity).setWidth 32 :
      GuestAddr).toNat = roundUp 65536 (regionSpan base region).stop := by
  have hend := (end_lt h.lawful hregion).2.1
  have hlimit := h.limit
  have hround : roundUp 65536 (regionSpan base region).stop ≤ 0xFFFF0000 := by
    apply roundUp_le (by omega)
    · simp only [Span.stop, regionSpan]
      omega
    · exact ⟨65535, rfl⟩
  rw [BitVec.toNat_setWidth, toNat_granuleUp, toNat_regionEnd h.lawful hregion]
  omega

/-- A place at or above a candidate cannot lie before the region it collides with. -/
theorem nextCandidate_le {size candidate addr : ℕ} {base : GuestAddr} {region : VirtualRegion}
    (hregion : vm.regions[base]? = some region)
    (hhit : candidate < (regionSpan base region).stop ∧ base.toNat < candidate + size)
    (haddr : candidate ≤ addr) (hgap : Gap vm size addr) :
    roundUp 65536 (regionSpan base region).stop ≤ addr := by
  apply roundUp_le (by omega) ?_ hgap.aligned
  have hapart := hgap.apart hregion
  simp only [Span.Apart, Span.Before, Span.stop, regionSpan] at *
  omega

/-- What the search has found out when it ends: a place at or above the candidate, or that there
is none. -/
theorem findFrom_some (h : Managed vm) {size : U64} (hsize : size.toNat + 2 ^ 32 ≤ 2 ^ 64)
    {fuel : ℕ} {candidate target : GuestAddr} (haligned : 65536 ∣ candidate.toNat)
    (hbase : vm.userBase.toNat ≤ candidate.toNat)
    (hfind : vm.findFrom size fuel candidate = some target) :
    (candidate.toNat ≤ target.toNat ∧ Gap vm size.toNat target.toNat) ∨
    (target = 0 ∧ ∀ addr, candidate.toNat ≤ addr → ¬ Gap vm size.toNat addr) := by
  induction fuel generalizing candidate with
  | zero => cases hfind
  | succ fuel ih =>
    rw [findFrom] at hfind
    split_ifs at hfind with hroom
    · have hroom' : candidate.toNat + size.toNat ≤ vm.userLimit.toNat := by
        rw [BitVec.le_def, toNat_wideEnd hsize, BitVec.toNat_setWidth] at hroom
        have := vm.userLimit.isLt
        omega
      cases hcoll : vm.collision candidate size with
      | none =>
        rw [hcoll] at hfind
        cases hfind
        left
        refine ⟨le_rfl, haligned, ⟨hbase, hroom'⟩, ?_⟩
        intro base region hregion
        have hnot := List.find?_eq_none.mp hcoll _ (mem_regions.mpr hregion)
        rw [collision_iff h.lawful hsize hregion] at hnot
        simp only [Span.Apart, Span.Before, Span.stop, regionSpan] at *
        omega
      | some r =>
        obtain ⟨base, region⟩ := r
        rw [hcoll] at hfind
        dsimp only at hfind
        have hregion := mem_regions.mp (List.mem_of_find?_eq_some hcoll)
        have hhit := List.find?_some hcoll
        rw [collision_iff h.lawful hsize hregion] at hhit
        have hcandidate := toNat_nextCandidate h hregion
        have hup : (regionSpan base region).stop ≤ roundUp 65536 (regionSpan base region).stop :=
          le_roundUp (by omega)
        rcases ih (by rw [hcandidate]; exact dvd_roundUp) (by omega) hfind with hgap | ⟨hzero, hnone⟩
        · left
          refine ⟨?_, hgap.2⟩
          omega
        · right
          refine ⟨hzero, ?_⟩
          intro addr haddr hgap
          apply hnone addr ?_ hgap
          rw [hcandidate]
          exact nextCandidate_le hregion hhit haddr hgap
    · cases hfind
      right
      refine ⟨rfl, ?_⟩
      intro addr haddr hgap
      have hinside := hgap.inside
      rw [BitVec.le_def, toNat_wideEnd hsize, BitVec.toNat_setWidth] at hroom
      have := vm.userLimit.isLt
      omega

/-- No place at or above the candidate lies below the one found. -/
theorem findFrom_lowest (h : Managed vm) {size : U64} (hsize : size.toNat + 2 ^ 32 ≤ 2 ^ 64)
    {fuel : ℕ} {candidate target : GuestAddr} (hfind : vm.findFrom size fuel candidate = some target)
    {addr : ℕ} (haddr : candidate.toNat ≤ addr) (hgap : Gap vm size.toNat addr) :
    target.toNat ≤ addr := by
  induction fuel generalizing candidate with
  | zero => cases hfind
  | succ fuel ih =>
    rw [findFrom] at hfind
    split_ifs at hfind with hroom
    · cases hcoll : vm.collision candidate size with
      | none =>
        rw [hcoll] at hfind
        cases hfind
        exact haddr
      | some r =>
        obtain ⟨base, region⟩ := r
        rw [hcoll] at hfind
        have hregion := mem_regions.mp (List.mem_of_find?_eq_some hcoll)
        have hhit := List.find?_some hcoll
        rw [collision_iff h.lawful hsize hregion] at hhit
        refine ih hfind ?_
        rw [toNat_nextCandidate h hregion]
        exact nextCandidate_le hregion hhit haddr hgap
    · cases hfind
      exact Nat.zero_le _

/-- Every collision moves the candidate by a granule or more, so the search ends. -/
theorem findFrom_ne_none (h : Managed vm) {size : U64} (hsize : size.toNat + 2 ^ 32 ≤ 2 ^ 64)
    {fuel : ℕ} {candidate : GuestAddr} (haligned : 65536 ∣ candidate.toNat)
    (hfuel : 65536 < candidate.toNat / 65536 + fuel) : vm.findFrom size fuel candidate ≠ none := by
  induction fuel generalizing candidate with
  | zero =>
    have hlt := candidate.isLt
    omega
  | succ fuel ih =>
    rw [findFrom]
    split_ifs with hroom
    · cases hcoll : vm.collision candidate size with
      | none => simp
      | some r =>
        obtain ⟨base, region⟩ := r
        have hregion := mem_regions.mp (List.mem_of_find?_eq_some hcoll)
        have hhit := List.find?_some hcoll
        rw [collision_iff h.lawful hsize hregion] at hhit
        have hcandidate := toNat_nextCandidate h hregion
        have hup : (regionSpan base region).stop ≤ roundUp 65536 (regionSpan base region).stop :=
          le_roundUp (by omega)
        have hdvd : 65536 ∣ roundUp 65536 (regionSpan base region).stop := dvd_roundUp
        apply ih
        · rw [hcandidate]
          exact hdvd
        · rw [hcandidate]
          omega
    · simp

/-- The hint aligned to the granularity. -/
theorem toNat_hint (h : Managed vm) :
    ((alignUp (vm.nextAutoAddr.setWidth 64) kAllocationGranularity).setWidth 32 :
      GuestAddr).toNat = roundUp 65536 vm.nextAutoAddr.toNat := by
  have hhint := h.hint
  have hlimit := h.limit
  have hround : roundUp 65536 vm.nextAutoAddr.toNat ≤ 0xFFFF0000 :=
    roundUp_le (by omega) (by omega) ⟨65535, rfl⟩
  rw [BitVec.toNat_setWidth, toNat_granuleUp]
  omega

/-- **The search** ends with a place at or above the hint, or without one if there is none. -/
theorem findFreeRange_spec (h : Managed vm) {size : U64} (hsize : size.toNat + 2 ^ 32 ≤ 2 ^ 64) :
    ∃ target, vm.findFreeRange size = some target ∧
      ((roundUp 65536 vm.nextAutoAddr.toNat ≤ target.toNat ∧ Gap vm size.toNat target.toNat) ∨
        (target = 0 ∧ ∀ addr, roundUp 65536 vm.nextAutoAddr.toNat ≤ addr →
          ¬ Gap vm size.toNat addr)) := by
  have hhint := toNat_hint h
  have hup : vm.nextAutoAddr.toNat ≤ roundUp 65536 vm.nextAutoAddr.toNat := le_roundUp (by omega)
  have hdvd : 65536 ∣ roundUp 65536 vm.nextAutoAddr.toNat := dvd_roundUp
  unfold findFreeRange
  cases hfind : vm.findFrom size (2 ^ 16 + 1)
      ((alignUp (vm.nextAutoAddr.setWidth 64) kAllocationGranularity).setWidth 32) with
  | none =>
    refine absurd hfind (findFrom_ne_none h hsize ?_ ?_)
    · rw [hhint]
      exact hdvd
    · omega
  | some target =>
    refine ⟨target, rfl, ?_⟩
    rw [← hhint]
    apply findFrom_some h hsize ?_ ?_ hfind
    · rw [hhint]
      exact hdvd
    · rw [hhint]
      have := h.hint.1
      omega

/-! ## What the calls do -/

/-- What a successful allocation has done: a new region, or a commit in an old one. -/
inductive Allocates (vm : VirtualMemoryManager) (requested : GuestAddr) (size : U64)
    (allocType protection : U32) : GuestAddr → VirtualMemoryManager → Prop
  | adds {addr : GuestAddr} {state : U32}
      (hstate : state = if allocType &&& kMemCommit ≠ 0 then kMemCommit else kMemReserve)
      (hfresh : Fresh vm addr (alignUp size kPageSize))
      (hrequested : requested = addr ∨ requested = 0 ∧ 65536 ∣ addr.toNat) :
    Allocates vm requested size allocType protection addr
      (vm.addRegion addr (alignUp size kPageSize) state protection)
  | commits {region : VirtualRegion} (hregion : vm.regions[requested]? = some region)
      (hsize : alignUp size kPageSize ≤ region.size) (hreserve : ¬ allocType &&& kMemReserve ≠ 0)
      (hcommit : allocType &&& kMemCommit ≠ 0) :
    Allocates vm requested size allocType protection requested
      (vm.setRegion requested { region with state := kMemCommit, protect := protection })

/-- An automatic placement is fresh, aligned and entered. -/
theorem allocateAnywhere_ok (h : Managed vm) {size : U64} (hsize : size.toNat + 2 ^ 32 ≤ 2 ^ 64)
    (hpage : 4096 ∣ size.toNat) (hpos : 0 < size.toNat) {state protection : U32}
    {addr : GuestAddr}
    (hrun : vm.allocateAnywhere size state protection = some (.ok (addr, vm'))) :
    Fresh vm addr size ∧ 65536 ∣ addr.toNat ∧ vm' = vm.addRegion addr size state protection := by
  obtain ⟨target, hfind, hspec⟩ := findFreeRange_spec h hsize
  unfold allocateAnywhere at hrun
  rw [hfind, Option.map_some] at hrun
  split_ifs at hrun with hzero
  · simp at hrun
  · simp only [Option.some.injEq, Except.ok.injEq, Prod.mk.injEq] at hrun
    obtain ⟨rfl, rfl⟩ := hrun
    rcases hspec with ⟨-, hgap⟩ | ⟨hnone, -⟩
    · refine ⟨⟨⟨?_, hpage⟩, hpos, hgap.apart, hgap.inside⟩, hgap.aligned, rfl⟩
      exact Nat.dvd_trans ⟨16, rfl⟩ hgap.aligned
    · exact absurd hnone hzero

/-- A requested range that passes lies in the user range, on a page. -/
theorem checkRequested_ok {base : GuestAddr} {size : U64} (hbase : base ≠ 0)
    (hcheck : vm.checkRequested base size = .ok ()) : vm.userBase.toNat ≤ base.toNat ∧
      base.toNat + size.toNat ≤ vm.userLimit.toNat ∧ 4096 ∣ base.toNat := by
  unfold checkRequested at hcheck
  rw [if_pos hbase] at hcheck
  unfold invalidArgument at hcheck
  split_ifs at hcheck with hrange hmod
  have hwide : (base.setWidth 64 : U64).toNat = base.toNat := by
    rw [BitVec.toNat_setWidth]
    have := base.isLt
    omega
  have hlimit : (vm.userLimit.setWidth 64 : U64).toNat = vm.userLimit.toNat := by
    rw [BitVec.toNat_setWidth]
    have := vm.userLimit.isLt
    omega
  have hsum : (base.setWidth 64 + size).toNat = (base.toNat + size.toNat) % 2 ^ 64 := by
    rw [BitVec.toNat_add, hwide]
  simp only [not_or, BitVec.lt_def, gt_iff_lt, hwide, hlimit, hsum] at hrange
  have hpage : base.toNat % 4096 = 0 := by
    have hmod' := congrArg BitVec.toNat (not_not.mp hmod)
    rw [BitVec.toNat_umod, hwide] at hmod'
    exact hmod'
  have hbound := base.isLt
  have hsize := size.isLt
  refine ⟨by omega, by omega, Nat.dvd_of_mod_eq_zero hpage⟩

/-- A size that is not zero takes a page at least. -/
theorem pageUp_pos {size : U64} (hsize : size.toNat + 2 ^ 32 ≤ 2 ^ 64) (hzero : size ≠ 0) :
    0 < (alignUp size kPageSize).toNat := by
  have hpos : size.toNat ≠ 0 := by
    intro h
    exact hzero (BitVec.eq_of_toNat_eq h)
  have hup : size.toNat ≤ roundUp 4096 size.toNat := le_roundUp (by omega)
  rw [toNat_pageUp hsize]
  omega

/-- A size aligned to pages is a number of pages. -/
theorem pageUp_dvd {size : U64} (hsize : size.toNat + 2 ^ 32 ≤ 2 ^ 64) :
    4096 ∣ (alignUp size kPageSize).toNat := by
  rw [toNat_pageUp hsize]
  exact dvd_roundUp

/-- A size aligned to pages still has room at 64 bits. -/
theorem pageUp_bound {size : U64} (hsize : size.toNat + 2 ^ 32 ≤ 2 ^ 64) :
    (alignUp size kPageSize).toNat + 2 ^ 32 ≤ 2 ^ 64 := by
  have hup : roundUp 4096 size.toNat ≤ 2 ^ 64 - 2 ^ 32 :=
    roundUp_le (by omega) (by omega) ⟨2 ^ 52 - 2 ^ 20, rfl⟩
  rw [toNat_pageUp hsize]
  omega

/-- A range at a base the guest gives, when nothing overlaps it. -/
theorem fresh_requested (h : Managed vm) {base : GuestAddr} {size : U64} (hbase : base ≠ 0)
    (hpos : 0 < size.toNat) (hpage : 4096 ∣ size.toNat)
    (hcheck : vm.checkRequested base size = .ok ())
    (hnone : vm.overlapsExisting base size = false) : Fresh vm base size := by
  obtain ⟨hlow, hhigh, haligned⟩ := checkRequested_ok hbase hcheck
  have hlimit := vm.userLimit.isLt
  refine ⟨⟨haligned, hpage⟩, hpos, ?_, hlow, hhigh⟩
  intro base' region hregion
  exact overlapsExisting_false h.lawful hpos (by omega) hnone hregion

/-- **A successful allocation.** -/
theorem allocate_ok (h : Managed vm) {requested : GuestAddr} {size : U64}
    (hsize : size.toNat + 2 ^ 32 ≤ 2 ^ 64) {allocType protection : U32} {addr : GuestAddr}
    (hrun : vm.allocate requested size allocType protection = some (.ok (addr, vm'))) :
    Allocates vm requested size allocType protection addr vm' := by
  unfold allocate at hrun
  by_cases hzero : size = 0
  · simp [hzero, invalidArgument] at hrun
  · rw [if_neg hzero] at hrun
    have hpos := pageUp_pos hsize hzero
    have hpage := pageUp_dvd hsize
    have hbound := pageUp_bound hsize
    dsimp only at hrun
    cases hcheck : vm.checkRequested requested (alignUp size kPageSize) with
    | error e => simp [hcheck] at hrun
    | ok u =>
      simp only [hcheck] at hrun
      by_cases hreserve : allocType &&& kMemReserve ≠ 0
      · rw [if_pos hreserve] at hrun
        by_cases hanywhere : requested = 0
        · rw [if_pos hanywhere] at hrun
          obtain ⟨hfresh, haligned, rfl⟩ := allocateAnywhere_ok h hbound hpage hpos hrun
          exact .adds rfl hfresh (.inr ⟨hanywhere, haligned⟩)
        · rw [if_neg hanywhere] at hrun
          by_cases hover : vm.overlapsExisting requested (alignUp size kPageSize) = true
          · simp [hover, invalidArgument] at hrun
          · rw [if_neg hover] at hrun
            simp only [Option.some.injEq, Except.ok.injEq, Prod.mk.injEq] at hrun
            obtain ⟨rfl, rfl⟩ := hrun
            refine .adds rfl (fresh_requested h hanywhere hpos hpage hcheck ?_) (.inl rfl)
            simpa using hover
      · rw [if_neg hreserve] at hrun
        by_cases hcommit : allocType &&& kMemCommit ≠ 0
        · rw [if_pos hcommit] at hrun
          have hstate : kMemCommit =
              if allocType &&& kMemCommit ≠ 0 then kMemCommit else kMemReserve := by
            rw [if_pos hcommit]
          by_cases hanywhere : requested = 0
          · rw [if_pos hanywhere] at hrun
            obtain ⟨hfresh, haligned, rfl⟩ := allocateAnywhere_ok h hbound hpage hpos hrun
            exact .adds hstate hfresh (.inr ⟨hanywhere, haligned⟩)
          · rw [if_neg hanywhere] at hrun
            cases hregion : vm.regions[requested]? with
            | some region =>
              simp only [hregion] at hrun
              by_cases hexceeds : alignUp size kPageSize > region.size
              · simp [hexceeds] at hrun
              · rw [if_neg hexceeds] at hrun
                simp only [Option.some.injEq, Except.ok.injEq, Prod.mk.injEq] at hrun
                obtain ⟨rfl, rfl⟩ := hrun
                exact .commits hregion (BitVec.not_lt.mp hexceeds) hreserve hcommit
            | none =>
              simp only [hregion] at hrun
              by_cases hover : vm.overlapsExisting requested (alignUp size kPageSize) = true
              · simp [hover, invalidArgument] at hrun
              · rw [if_neg hover] at hrun
                simp only [Option.some.injEq, Except.ok.injEq, Prod.mk.injEq] at hrun
                obtain ⟨rfl, rfl⟩ := hrun
                refine .adds hstate (fresh_requested h hanywhere hpos hpage hcheck ?_) (.inl rfl)
                simpa using hover
        · rw [if_neg hcommit] at hrun
          simp [invalidArgument] at hrun

/-- An allocation that names no base takes the lowest free place from the hint on. -/
theorem allocate_lowest (h : Managed vm) {size : U64} (hsize : size.toNat + 2 ^ 32 ≤ 2 ^ 64)
    {allocType protection : U32} {addr : GuestAddr}
    (hrun : vm.allocate 0 size allocType protection = some (.ok (addr, vm'))) :
    roundUp 65536 vm.nextAutoAddr.toNat ≤ addr.toNat ∧
      Gap vm (alignUp size kPageSize).toNat addr.toNat ∧
      ∀ {addr' : ℕ}, roundUp 65536 vm.nextAutoAddr.toNat ≤ addr' →
        Gap vm (alignUp size kPageSize).toNat addr' → addr.toNat ≤ addr' := by
  have hbound := pageUp_bound hsize
  obtain ⟨target, hfind, hspec⟩ := findFreeRange_spec h hbound
  have hfound : ∀ {state : U32}, vm.allocateAnywhere (alignUp size kPageSize) state protection =
      some (.ok (addr, vm')) → target = addr ∧ target ≠ 0 := by
    intro state hanywhere
    unfold allocateAnywhere at hanywhere
    rw [hfind, Option.map_some] at hanywhere
    split_ifs at hanywhere with hzero
    · simp at hanywhere
    · simp only [Option.some.injEq, Except.ok.injEq, Prod.mk.injEq] at hanywhere
      exact ⟨hanywhere.1, hzero⟩
  have haddr : target = addr ∧ target ≠ 0 := by
    unfold allocate at hrun
    by_cases hzero : size = 0
    · simp [hzero, invalidArgument] at hrun
    · rw [if_neg hzero] at hrun
      have hcheck : vm.checkRequested 0 (alignUp size kPageSize) = .ok () := by
        simp [checkRequested]
      simp only [hcheck] at hrun
      by_cases hreserve : allocType &&& kMemReserve ≠ 0
      · rw [if_pos hreserve, if_pos trivial] at hrun
        exact hfound hrun
      · rw [if_neg hreserve] at hrun
        by_cases hcommit : allocType &&& kMemCommit ≠ 0
        · rw [if_pos hcommit, if_pos trivial] at hrun
          exact hfound hrun
        · rw [if_neg hcommit] at hrun
          simp [invalidArgument] at hrun
  obtain ⟨rfl, hne⟩ := haddr
  obtain ⟨hhint, hgap⟩ | ⟨hzero, -⟩ := hspec
  · refine ⟨hhint, hgap, ?_⟩
    intro addr' habove hgap'
    unfold findFreeRange at hfind
    refine findFrom_lowest h hbound hfind ?_ hgap'
    rw [toNat_hint h]
    exact habove
  · exact absurd hzero hne

/-- What a successful `Free` has done: the region is gone, or decommitted. -/
inductive Frees (vm : VirtualMemoryManager) (base : GuestAddr) (size : U64) (freeType : U32) :
    VirtualMemoryManager → Prop
  | releases {region : VirtualRegion} (hregion : vm.regions[base]? = some region)
      (hrelease : freeType &&& kMemRelease ≠ 0) :
    Frees vm base size freeType { vm with regions := vm.regions.erase base }
  | decommits {region : VirtualRegion} (hregion : vm.regions[base]? = some region)
      (hsize : alignUp size kPageSize ≤ region.size)
      (hrelease : ¬ freeType &&& kMemRelease ≠ 0) (hdecommit : freeType &&& kMemDecommit ≠ 0) :
    Frees vm base size freeType
      (vm.setRegion base { region with state := kMemReserve, protect := kPageNoAccess })

/-- What freeing does. -/
theorem free_ok {base : GuestAddr} {size : U64} {freeType : U32}
    (hrun : vm.free base size freeType = .ok vm') : Frees vm base size freeType vm' := by
  unfold free at hrun
  cases hregion : vm.regions[base]? with
  | none => simp [hregion, invalidArgument] at hrun
  | some region =>
    simp only [hregion, invalidArgument] at hrun
    split_ifs at hrun with hrelease hsize hdecommit hexceeds
    · cases hrun
      exact .releases hregion hrelease
    · cases hrun
      exact .decommits hregion (BitVec.not_lt.mp hexceeds) hrelease hdecommit

/-- What protecting does. -/
theorem protect_ok {base : GuestAddr} {size : U64} {newProtect old : U32}
    (hrun : vm.protect base size newProtect = .ok (old, vm')) :
    ∃ region, vm.regions[base]? = some region ∧ alignUp size kPageSize ≤ region.size ∧
      old = region.protect ∧ vm' = vm.setRegion base { region with protect := newProtect } := by
  unfold protect at hrun
  cases hregion : vm.regions[base]? with
  | none => simp [hregion, invalidArgument] at hrun
  | some region =>
    simp only [hregion] at hrun
    split_ifs at hrun with hexceeds
    simp only [Except.ok.injEq, Prod.mk.injEq] at hrun
    exact ⟨region, rfl, BitVec.not_lt.mp hexceeds, hrun.1.symm, hrun.2.symm⟩

/-! ## The invariant -/

/-- The regions after one is set. -/
theorem getElem?_setRegion {base base' : GuestAddr} {region : VirtualRegion} :
    (vm.setRegion base region).regions[base']? =
      if base = base' then some region else vm.regions[base']? := by
  unfold setRegion
  simp [Std.TreeMap.getElem?_insert]

/-- The regions after one is added. -/
theorem getElem?_addRegion {base base' : GuestAddr} {size : U64} {state protection : U32} :
    (vm.addRegion base size state protection).regions[base']? =
      if base = base' then some (newRegion base size state protection)
      else vm.regions[base']? := by
  unfold addRegion
  simp [Std.TreeMap.getElem?_insert]

/-- A new manager is managed. -/
theorem managed_new {userBase userLimit : GuestAddr} (hrange : userBase.toNat ≤ userLimit.toNat)
    (hlimit : userLimit.toNat ≤ 0xFFFF0000) : Managed (new userBase userLimit) := by
  have hnone : ∀ base : GuestAddr, (new userBase userLimit).regions[base]? = none := by
    intro base
    exact Std.TreeMap.getElem?_emptyc
  refine ⟨⟨?_, ?_, ?_, ?_, ?_⟩, hlimit, le_rfl, hrange⟩
  all_goals simp [hnone]

/-- Changing state and protection of a region. -/
theorem managed_setRegion (h : Managed vm) {base : GuestAddr} {region region' : VirtualRegion}
    (hregion : vm.regions[base]? = some region) (hbase : region'.baseAddress = region.baseAddress)
    (hsize : region'.size = region.size) : Managed (vm.setRegion base region') := by
  -- every region of the new map is the old one at its base, up to state and protection
  have hold : ∀ {base' : GuestAddr} {r : VirtualRegion},
      (vm.setRegion base region').regions[base']? = some r →
        ∃ r₀, vm.regions[base']? = some r₀ ∧ r.baseAddress = r₀.baseAddress ∧ r.size = r₀.size := by
    intro base' r hr
    rw [getElem?_setRegion] at hr
    split_ifs at hr with heq
    · cases hr
      rw [← heq]
      exact ⟨region, hregion, hbase, hsize⟩
    · exact ⟨r, hr, rfl, rfl⟩
  have hspan : ∀ {base' : GuestAddr} {r r₀ : VirtualRegion}, r.size = r₀.size →
      regionSpan base' r = regionSpan base' r₀ := by
    intro base' r r₀ hsize
    unfold regionSpan
    rw [hsize]
  refine ⟨⟨?_, ?_, ?_, ?_, ?_⟩, h.limit, h.hint⟩
  · intro base' r hr
    obtain ⟨r₀, hr₀, hb, -⟩ := hold hr
    rw [hb]
    exact h.lawful.keyed hr₀
  · intro base' r hr
    obtain ⟨r₀, hr₀, -, hs⟩ := hold hr
    rw [hs]
    exact h.lawful.aligned hr₀
  · intro base' r hr
    obtain ⟨r₀, hr₀, -, hs⟩ := hold hr
    rw [hs]
    exact h.lawful.nonempty hr₀
  · intro b b' r r' hr hr' hne
    obtain ⟨r₀, hr₀, -, hs⟩ := hold hr
    obtain ⟨r₁, hr₁, -, hs'⟩ := hold hr'
    rw [hspan hs, hspan hs']
    exact h.lawful.apart hr₀ hr₁ hne
  · intro base' r hr
    obtain ⟨r₀, hr₀, -, hs⟩ := hold hr
    rw [hspan hs]
    exact h.lawful.inside hr₀

/-- Erasing a region keeps a manager managed. -/
theorem managed_erase (h : Managed vm) (base : GuestAddr) :
    Managed { vm with regions := vm.regions.erase base } := by
  have hold : ∀ {base' : GuestAddr} {r : VirtualRegion},
      (vm.regions.erase base)[base']? = some r → vm.regions[base']? = some r := by
    intro base' r hr
    rw [Std.TreeMap.getElem?_erase] at hr
    split_ifs at hr
    exact hr
  exact ⟨⟨fun hr => h.lawful.keyed (hold hr), fun hr => h.lawful.aligned (hold hr),
    fun hr => h.lawful.nonempty (hold hr), fun hr hr' => h.lawful.apart (hold hr) (hold hr'),
    fun hr => h.lawful.inside (hold hr)⟩, h.limit, h.hint⟩

/-- Adding a fresh region keeps a manager managed. -/
theorem managed_addRegion (h : Managed vm) {base : GuestAddr} {size : U64} {state protection : U32}
    (hfresh : Fresh vm base size) : Managed (vm.addRegion base size state protection) := by
  have hlimit := vm.userLimit.isLt
  have hinside := hfresh.inside
  have hget : ∀ {base' : GuestAddr} {r : VirtualRegion},
      (vm.addRegion base size state protection).regions[base']? = some r →
        (base' = base ∧ r = newRegion base size state protection) ∨
        (base' ≠ base ∧ vm.regions[base']? = some r) := by
    intro base' r hr
    rw [getElem?_addRegion] at hr
    split_ifs at hr with heq
    · cases hr
      exact .inl ⟨heq.symm, rfl⟩
    · exact .inr ⟨fun hbase => heq hbase.symm, hr⟩
  refine ⟨⟨?_, ?_, ?_, ?_, ?_⟩, h.limit, ?_⟩
  · intro base' r hr
    obtain ⟨rfl, rfl⟩ | ⟨-, hr⟩ := hget hr
    · rfl
    · exact h.lawful.keyed hr
  · intro base' r hr
    obtain ⟨rfl, rfl⟩ | ⟨-, hr⟩ := hget hr
    · exact hfresh.aligned
    · exact h.lawful.aligned hr
  · intro base' r hr
    obtain ⟨rfl, rfl⟩ | ⟨-, hr⟩ := hget hr
    · exact hfresh.nonempty
    · exact h.lawful.nonempty hr
  · intro b b' r r' hr hr' hne
    obtain ⟨rfl, rfl⟩ | ⟨-, hold⟩ := hget hr
    · obtain ⟨rfl, rfl⟩ | ⟨-, hold'⟩ := hget hr'
      · exact absurd rfl hne
      · exact (hfresh.apart hold').symm
    · obtain ⟨rfl, rfl⟩ | ⟨-, hold'⟩ := hget hr'
      · exact hfresh.apart hold
      · exact h.lawful.apart hold hold' hne
  · intro base' r hr
    obtain ⟨rfl, rfl⟩ | ⟨-, hr⟩ := hget hr
    · simp only [Span.Inside, Span.stop, regionSpan, newRegion, addRegion]
      omega
    · exact h.lawful.inside hr
  · have hhint := h.hint
    have hend : (base + size.setWidth 32).toNat = base.toNat + size.toNat := toNat_end (by omega)
    unfold addRegion
    dsimp only
    split_ifs
    · rw [hend]
      omega
    · exact hhint

/-- What a call makes of the manager, whatever it answers. -/
inductive Alters (vm : VirtualMemoryManager) : VirtualMemoryManager → Prop
  | nothing : Alters vm vm
  | adds {addr : GuestAddr} {size : U64} {state protection : U32} (hfresh : Fresh vm addr size) :
    Alters vm (vm.addRegion addr size state protection)
  | changes {base : GuestAddr} {region region' : VirtualRegion}
      (hregion : vm.regions[base]? = some region)
      (hbase : region'.baseAddress = region.baseAddress) (hsize : region'.size = region.size) :
    Alters vm (vm.setRegion base region')
  | erases (base : GuestAddr) : Alters vm { vm with regions := vm.regions.erase base }

/-- What every call does to the regions. -/
theorem next_alters (h : Managed vm) {c : RegionCall}
    (hsize : c.sizeBytes.toNat + 2 ^ 32 ≤ 2 ^ 64) : Alters vm (c.next vm) := by
  unfold RegionCall.next
  cases hc : c.apply vm with
  | none => exact .nothing
  | some result =>
    cases result with
    | error e => exact .nothing
    | ok answer =>
      obtain ⟨answer, vm'⟩ := answer
      dsimp only
      cases c with
      | allocate requested size allocType protection =>
        cases allocate_ok h hsize hc with
        | adds _ hfresh _ => exact .adds hfresh
        | commits hregion _ _ _ => exact .changes hregion rfl rfl
      | free base size freeType =>
        unfold RegionCall.apply at hc
        cases hf : vm.free base size freeType with
        | error e => simp [hf, Except.map] at hc
        | ok vm₁ =>
          simp only [hf, Except.map, Option.some.injEq, Except.ok.injEq, Prod.mk.injEq] at hc
          rw [← hc.2]
          cases free_ok hf with
          | releases _ _ => exact .erases base
          | decommits hregion _ _ _ => exact .changes hregion rfl rfl
      | protect base size newProtect =>
        obtain ⟨region, hregion, -, -, rfl⟩ := protect_ok (Option.some.inj hc)
        exact .changes hregion rfl rfl

/-- What a call does keeps a manager managed. -/
theorem Alters.managed (halters : Alters vm vm') (h : Managed vm) : Managed vm' := by
  cases halters with
  | nothing => exact h
  | adds hfresh => exact managed_addRegion h hfresh
  | changes hregion hbase hsame => exact managed_setRegion h hregion hbase hsame
  | erases base => exact managed_erase h base

/-- The user's part of the address space stays what it is. -/
theorem Alters.userBase (halters : Alters vm vm') : vm'.userBase = vm.userBase := by
  cases halters <;> rfl

/-- Every call keeps the invariant. -/
theorem managed_next (h : Managed vm) {c : RegionCall}
    (hsize : c.sizeBytes.toNat + 2 ^ 32 ≤ 2 ^ 64) : Managed (c.next vm) :=
  (next_alters h hsize).managed h

/-- Every list of calls keeps a manager managed, and its user range. -/
theorem managed_foldl (h : Managed vm) {calls : List RegionCall}
    (hsizes : ∀ c ∈ calls, c.sizeBytes.toNat + 2 ^ 32 ≤ 2 ^ 64) :
    Managed (calls.foldl RegionCall.next vm) ∧
      (calls.foldl RegionCall.next vm).userBase = vm.userBase := by
  induction calls generalizing vm with
  | nil => exact ⟨h, rfl⟩
  | cons c calls ih =>
    have hc := hsizes c List.mem_cons_self
    have hrest : ∀ c ∈ calls, c.sizeBytes.toNat + 2 ^ 32 ≤ 2 ^ 64 :=
      fun c' hmem => hsizes c' (List.mem_cons_of_mem _ hmem)
    obtain ⟨hmanaged, huser⟩ := ih (managed_next h hc) hrest
    exact ⟨hmanaged, huser.trans (next_alters h hc).userBase⟩

/-- The ends of the regions of a manager fit. -/
theorem endsFit (h : Managed vm) : EndsFit vm := by
  have hlimit := h.limit
  constructor
  · intro base region hregion
    obtain ⟨hend, hle, -⟩ := end_lt h.lawful hregion
    have hround : roundUp 65536 (base.toNat + region.size.toNat) ≤ 0xFFFF0000 :=
      roundUp_le (by omega) (by omega) ⟨65535, rfl⟩
    exact ⟨hend, by omega⟩
  · have hhint := h.hint
    have hround : roundUp 65536 vm.nextAutoAddr.toNat ≤ 0xFFFF0000 :=
      roundUp_le (by omega) (by omega) ⟨65535, rfl⟩
    omega
  · intro base size hbase hcheck
    have hrange := checkRequested_ok hbase hcheck
    omega
  · intro base size allocType protection addr vm' hsize hrun
    cases allocate_ok h (by omega) hrun with
    | adds _ hfresh _ =>
      have hinside := hfresh.inside
      omega
    | commits hregion hle _ _ =>
      obtain ⟨hend, -, -⟩ := end_lt h.lawful hregion
      rw [BitVec.le_def] at hle
      omega

/-! ## Queries -/

/-- The region of an address, for a lawful map. -/
theorem regionOf_eq_some_iff (h : RegionsLawful vm) {addr base : GuestAddr}
    {region : VirtualRegion} : vm.regionOf addr = some (base, region) ↔
      vm.regions[base]? = some region ∧ (regionSpan base region).Holds addr.toNat := by
  have hholds : ∀ {b : GuestAddr} {r : VirtualRegion}, vm.regions[b]? = some r →
      ((decide (addr ≥ b) && decide (addr < regionEnd b r)) = true ↔
        (regionSpan b r).Holds addr.toNat) := by
    intro b r hr
    simp only [Bool.and_eq_true, decide_eq_true_eq, ge_iff_le, BitVec.le_def, BitVec.lt_def]
    rw [toNat_regionEnd h hr]
    rfl
  constructor
  · intro hfind
    have hregion := mem_regions.mp (List.mem_of_find?_eq_some hfind)
    have hhit := List.find?_some hfind
    exact ⟨hregion, (hholds hregion).mp hhit⟩
  · rintro ⟨hregion, haddr⟩
    cases hfind : vm.regionOf addr with
    | none =>
      have hnot := List.find?_eq_none.mp hfind _ (mem_regions.mpr hregion)
      exact absurd ((hholds hregion).mpr haddr) hnot
    | some r =>
      obtain ⟨base', region'⟩ := r
      have hregion' := mem_regions.mp (List.mem_of_find?_eq_some hfind)
      have hhit := List.find?_some hfind
      have haddr' := (hholds hregion').mp hhit
      have hbase : base' = base := by
        by_contra hne
        exact (h.apart hregion' hregion hne).not_holds haddr' haddr
      subst hbase
      rw [Option.some.inj (hregion'.symm.trans hregion)]

/-- No region is found exactly where none holds the address. -/
theorem regionOf_eq_none_iff (h : RegionsLawful vm) {addr : GuestAddr} :
    vm.regionOf addr = none ↔ ∀ (base : GuestAddr) region, vm.regions[base]? = some region →
      ¬ (regionSpan base region).Holds addr.toNat := by
  constructor
  · intro hnone base region hregion haddr
    have hsome := (regionOf_eq_some_iff h).mpr ⟨hregion, haddr⟩
    rw [hnone] at hsome
    cases hsome
  · intro hall
    cases hfind : vm.regionOf addr with
    | none => rfl
    | some r =>
      obtain ⟨hregion, haddr⟩ := (regionOf_eq_some_iff h).mp hfind
      exact absurd haddr (hall _ _ hregion)

/-- A query reports the region of its address. -/
theorem queryReports (h : RegionsLawful vm) (addr : GuestAddr) : QueryReports vm addr := by
  cases hfind : vm.regionOf addr with
  | some r =>
    obtain ⟨base, region⟩ := r
    obtain ⟨hregion, haddr⟩ := (regionOf_eq_some_iff h).mp hfind
    left
    refine ⟨base, region, hregion, haddr, ?_, ?_, ?_, ?_, ?_⟩
    · intro base' region' hregion' haddr'
      by_contra hne
      exact (h.apart hregion' hregion hne).not_holds haddr' haddr
    · rw [query, hfind]
      exact h.keyed hregion
    · rw [query, hfind]
    · rw [query, hfind]
    · rw [query, hfind]
  | none =>
    right
    refine ⟨(regionOf_eq_none_iff h).mp hfind, ?_⟩
    rw [query, hfind]

/-- **The map of regions.**  After any calls with 32-bit sizes the regions are in order, no
address computation wraps, a query reports the region of its address; one more call that fails
changes nothing, and one that places a region by itself places it at a multiple of 64 KiB. -/
theorem regions_lawful {calls : List RegionCall}
    (hsizes : ∀ c ∈ calls, c.sizeBytes.toNat < 2 ^ 32) {vm : VirtualMemoryManager}
    (hvm : vm = managerAfter kDefaultUserBase kDefaultUserLimit calls) :
    RegionsLawful vm ∧ EndsFit vm ∧ (∀ addr, QueryReports vm addr) ∧
    (∀ (c : RegionCall) (e : Error), c.apply vm = some (.error e) → c.next vm = vm) ∧
    ∀ (size : U64) (allocType protection : U32) (addr : GuestAddr) (vm' : VirtualMemoryManager),
      size.toNat < 2 ^ 32 → vm.allocate 0 size allocType protection = some (.ok (addr, vm')) →
        65536 ∣ addr.toNat := by
  have h : Managed vm := by
    rw [hvm]
    refine (managed_foldl (managed_new (by decide) (by decide)) ?_).1
    intro c hmem
    have := hsizes c hmem
    omega
  refine ⟨h.lawful, endsFit h, fun addr => queryReports h.lawful addr, ?_, ?_⟩
  · intro c e hc
    unfold RegionCall.next
    rw [hc]
  · intro size allocType protection addr vm' hsize hrun
    cases allocate_ok h (by omega) hrun with
    | adds _ _ hrequested =>
      rcases hrequested with rfl | ⟨-, haligned⟩
      · exact Dvd.intro 0 rfl
      · exact haligned
    | commits _ _ _ _ => exact Dvd.intro 0 rfl

/-- A reservation of 64 KiB and a commit of its first page. -/
def reserveThenCommit : List RegionCall :=
  [.allocate 0x20000 0x10000 kMemReserve kPageReadWrite,
    .allocate 0x20000 0x1000 kMemCommit kPageReadWrite]

/-- The example has lawful regions. -/
theorem regions_lawful_committed :
    RegionsLawful (managerAfter kDefaultUserBase kDefaultUserLimit reserveThenCommit) :=
  (@regions_lawful reserveThenCommit (by decide) _ rfl).1

/-!
## When an automatic allocation finds a place

The search for a free range starts at the hint and goes up.  The hint never comes down: what
is released below it, and what an allocation at a fixed base has left out, is not looked at
again.
-/

/-- An automatic reservation, by what the search finds. -/
theorem allocate_reserve {size : U64} (hzero : size ≠ 0) {protection : U32} :
    vm.allocate 0 size kMemReserve protection =
      vm.allocateAnywhere (alignUp size kPageSize) kMemReserve protection := by
  have hreserve : kMemReserve &&& kMemReserve ≠ 0 := by decide
  have hcommit : ¬ kMemReserve &&& kMemCommit ≠ 0 := by decide
  have hcheck : vm.checkRequested 0 (alignUp size kPageSize) = .ok () := by
    simp [checkRequested]
  unfold allocate
  rw [if_neg hzero]
  simp only [hcheck]
  rw [if_pos hreserve, if_pos trivial, if_neg hcommit]

/-- An automatic placement succeeds exactly where there is a gap above the hint. -/
theorem findsGap_iff (h : Managed vm) (hbase : 0 < vm.userBase.toNat) {size : U64}
    (hsize : size.toNat + 2 ^ 32 ≤ 2 ^ 64) (hzero : size ≠ 0) :
    FindsGap vm size ↔ GapAboveHint vm (alignUp size kPageSize).toNat := by
  obtain ⟨target, hfind, hspec⟩ := findFreeRange_spec h (pageUp_bound hsize)
  rcases hspec with ⟨hhint, hgap⟩ | ⟨rfl, hnone⟩
  · refine iff_of_true ?_ ?_
    · intro protection e hrun
      have hnonzero : target ≠ 0 := by
        rintro rfl
        have := hgap.inside
        simp at this
        omega
      rw [allocate_reserve hzero, allocateAnywhere, hfind, Option.map_some, if_neg hnonzero] at hrun
      cases hrun
    · exact fun _ => ⟨target.toNat, hhint, hgap⟩
  · constructor
    · rintro hfinds ⟨addr, hgap⟩
      have hrun : vm.allocate 0 size kMemReserve 0 = some (.error
          { code := .limitReached, message := "Espaço virtual esgotado" }) := by
        rw [allocate_reserve hzero, allocateAnywhere, hfind]
        rfl
      exact absurd hgap (hfinds 0 _ hrun rfl addr)
    · rintro habove _ _ _ _ addr hgap
      obtain ⟨addr', hhint, hgap'⟩ := habove ⟨addr, hgap⟩
      exact hnone addr' hhint hgap'

/-- **Automatic placement.**  After any calls the search ends, and an automatic reservation
fails for want of space only when there is none exactly if no free place is below the hint
alone. -/
theorem automatic_placement_iff {userBase userLimit : GuestAddr} (hbase : 0 < userBase.toNat)
    (hrange : userBase.toNat ≤ userLimit.toNat) (hlimit : userLimit.toNat ≤ 0xFFFF0000)
    {calls : List RegionCall} (hsizes : ∀ c ∈ calls, c.sizeBytes.toNat + 2 ^ 32 ≤ 2 ^ 64)
    {vm : VirtualMemoryManager} (hvm : vm = managerAfter userBase userLimit calls) :
    (∀ size : U64, size.toNat + 2 ^ 32 ≤ 2 ^ 64 → vm.findFreeRange size ≠ none) ∧
    ∀ size : U64, size ≠ 0 → size.toNat + 2 ^ 32 ≤ 2 ^ 64 →
      (FindsGap vm size ↔ GapAboveHint vm (alignUp size kPageSize).toNat) := by
  obtain ⟨h, huser⟩ := managed_foldl (managed_new hrange hlimit) hsizes
  change Managed (managerAfter userBase userLimit calls) at h
  change (managerAfter userBase userLimit calls).userBase = userBase at huser
  rw [← hvm] at h huser
  constructor
  · intro size hsize hnone
    obtain ⟨target, hfind, -⟩ := findFreeRange_spec h hsize
    rw [hnone] at hfind
    cases hfind
  · intro size hzero hsize
    apply findsGap_iff h ?_ hsize hzero
    rw [huser]
    exact hbase

/-- One granule at the end of the user's part. -/
def reserveTop : List RegionCall := [.allocate 0xEFFF0000 0x10000 kMemReserve kPageReadWrite]

/-- The example finds a gap exactly where there is one above the hint. -/
theorem automatic_placement_iff_top :
    FindsGap (managerAfter kDefaultUserBase kDefaultUserLimit reserveTop) 0x10000 ↔
      GapAboveHint (managerAfter kDefaultUserBase kDefaultUserLimit reserveTop) 0x10000 :=
  (@automatic_placement_iff kDefaultUserBase kDefaultUserLimit (by decide) (by decide) (by decide)
    reserveTop (by decide) _ rfl).2 0x10000 (by decide) (by decide)

/-- With its last granule reserved, the user's part of the address space counts as full. -/
theorem top_reservation_hides_the_rest : ¬ ∀ (calls : List RegionCall) (size : U64),
    FindsGap (managerAfter kDefaultUserBase kDefaultUserLimit calls) size := by
  intro hall
  have hmap : managerAfter kDefaultUserBase kDefaultUserLimit reserveTop =
      (new kDefaultUserBase kDefaultUserLimit).addRegion 0xEFFF0000 0x10000 kMemReserve
        kPageReadWrite := by
    rfl
  have hgap : Gap (managerAfter kDefaultUserBase kDefaultUserLimit reserveTop)
      (alignUp 0x10000 kPageSize).toNat 0x10000 := by
    refine ⟨by decide, by decide +kernel, ?_⟩
    intro base region hregion
    rw [hmap, getElem?_addRegion] at hregion
    split_ifs at hregion with hbase
    · cases hregion
      subst hbase
      decide
    · exact absurd hregion (by simp [new])
  have hrun : (managerAfter kDefaultUserBase kDefaultUserLimit reserveTop).allocate 0 0x10000
      kMemReserve kPageReadWrite = some (.error
        { code := .limitReached, message := "Espaço virtual esgotado" }) := by
    rw [allocate_reserve (by decide), allocateAnywhere]
    have hfind : (managerAfter kDefaultUserBase kDefaultUserLimit reserveTop).findFreeRange
        (alignUp 0x10000 kPageSize) = some 0 := by
      decide +kernel
    rw [hfind]
    rfl
  exact hall reserveTop 0x10000 kPageReadWrite _ hrun rfl 0x10000 hgap

end Xblob.Analysis
