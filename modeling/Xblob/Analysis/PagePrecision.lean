import Xblob.Analysis.VirtualRegions
import Xblob.Interface.PagePrecision

/-!
# Regions and pages

As long as a call that changes a region covers all of it, the map of regions says of every page
what the record of pages says.
-/

set_option autoImplicit false

namespace Xblob.Analysis

open Xblob.Computation Xblob.Kernel Xblob.Kernel.VirtualMemoryManager Xblob.Interface
open Xblob.Interface.PageRecord

variable {vm : VirtualMemoryManager} {pages : PageRecord}

/-- The page of the record that a region stands for. -/
def regionPage (base : GuestAddr) (region : VirtualRegion) : PageInfo where
  allocation := base
  state := region.state
  protect := region.protect

/-- The record has a page exactly where there is a region, with the region's state and
protection. -/
def Tracks (vm : VirtualMemoryManager) (pages : PageRecord) : Prop :=
  ∀ p info, pages p = some info ↔ ∃ base region, vm.regions[base]? = some region ∧
    (regionSpan base region).Holds (4096 * p) ∧ info = regionPage base region

/-- A new manager is tracked by no pages. -/
theorem tracks_start (userBase userLimit : GuestAddr) :
    Tracks (new userBase userLimit) fun _ => none := by
  intro p info
  have hnone : ∀ base : GuestAddr, (new userBase userLimit).regions[base]? = none := by
    intro base
    exact Std.TreeMap.getElem?_emptyc
  simp [hnone]

/-- A page of a region is the page recorded of it. -/
theorem Tracks.page (h : Tracks vm pages) {base : GuestAddr} {region : VirtualRegion}
    (hregion : vm.regions[base]? = some region) {p : ℕ}
    (hp : (regionSpan base region).Holds (4096 * p)) :
    pages p = some (regionPage base region) :=
  (h p _).mpr ⟨base, region, hregion, hp, rfl⟩

/-- Where no region is, the record has no page. -/
theorem Tracks.free (h : Tracks vm pages) {p : ℕ}
    (hp : ∀ (base : GuestAddr) region, vm.regions[base]? = some region →
      ¬ (regionSpan base region).Holds (4096 * p)) : pages p = none := by
  cases hpage : pages p with
  | none => rfl
  | some info =>
    obtain ⟨base, region, hregion, hholds, -⟩ := (h p info).mp hpage
    exact absurd hholds (hp base region hregion)

/-- The map with another entry at one base, or none, and the record with the pages of that entry
in the place of the pages of the old one. -/
theorem tracks_update (hl : RegionsLawful vm) (h : Tracks vm pages) {vm' : VirtualMemoryManager}
    {pages' : PageRecord} {base : GuestAddr} {entry : Option VirtualRegion}
    (hget : ∀ b : GuestAddr, vm'.regions[b]? = if base = b then entry else vm.regions[b]?)
    (hentry : ∀ region, entry = some region → ∀ p, (regionSpan base region).Holds (4096 * p) →
      pages' p = some (regionPage base region) ∧
      ∀ (b : GuestAddr) r, b ≠ base → vm.regions[b]? = some r → ¬ (regionSpan b r).Holds (4096 * p))
    (hgone : ∀ p, (∀ region, entry = some region → ¬ (regionSpan base region).Holds (4096 * p)) →
      ∀ region, vm.regions[base]? = some region → (regionSpan base region).Holds (4096 * p) →
        pages' p = none)
    (hrest : ∀ p, (∀ region, entry = some region → ¬ (regionSpan base region).Holds (4096 * p)) →
      (∀ region, vm.regions[base]? = some region → ¬ (regionSpan base region).Holds (4096 * p)) →
        pages' p = pages p) : Tracks vm' pages' := by
  intro p info
  by_cases hnew : ∃ region, entry = some region ∧ (regionSpan base region).Holds (4096 * p)
  · obtain ⟨region, hregion, hp⟩ := hnew
    obtain ⟨hpage, hothers⟩ := hentry region hregion p hp
    rw [hpage, Option.some.injEq]
    constructor
    · rintro rfl
      refine ⟨base, region, ?_, hp, rfl⟩
      rw [hget, if_pos rfl, hregion]
    · rintro ⟨b, r, hr, hholds, rfl⟩
      rw [hget] at hr
      split_ifs at hr with hb
      · subst hb
        rw [hregion] at hr
        cases hr
        rfl
      · exact absurd hholds (hothers b r (fun heq => hb heq.symm) hr)
  · have hnot : ∀ region, entry = some region → ¬ (regionSpan base region).Holds (4096 * p) :=
      fun region hregion hp => hnew ⟨region, hregion, hp⟩
    by_cases hold : ∃ region, vm.regions[base]? = some region ∧
        (regionSpan base region).Holds (4096 * p)
    · obtain ⟨region, hregion, hp⟩ := hold
      rw [hgone p hnot region hregion hp]
      refine iff_of_false (by simp) ?_
      rintro ⟨b, r, hr, hholds, -⟩
      rw [hget] at hr
      split_ifs at hr with hb
      · subst hb
        exact hnot r hr hholds
      · exact (hl.apart hr hregion fun heq => hb heq.symm).not_holds hholds hp
    · have hnotOld : ∀ region, vm.regions[base]? = some region →
          ¬ (regionSpan base region).Holds (4096 * p) :=
        fun region hregion hp => hold ⟨region, hregion, hp⟩
      rw [hrest p hnot hnotOld, h p info]
      constructor
      · rintro ⟨b, r, hr, hholds, rfl⟩
        have hb : base ≠ b := by
          rintro rfl
          exact hnotOld r hr hholds
        refine ⟨b, r, ?_, hholds, rfl⟩
        rw [hget, if_neg hb, hr]
      · rintro ⟨b, r, hr, hholds, rfl⟩
        rw [hget] at hr
        split_ifs at hr with hb
        · subst hb
          exact absurd hholds (hnot r hr)
        · exact ⟨b, r, hr, hholds, rfl⟩

/-- A new region, and the record with the pages of its range. -/
theorem tracks_addRegion (hl : RegionsLawful vm) (h : Tracks vm pages) {addr : GuestAddr}
    {size : U64} {allocType protection : U32} (hfresh : Fresh vm addr size) :
    Tracks (vm.addRegion addr size (allocatedState allocType) protection)
      (pages.change addr.toNat size.toNat (allocated addr allocType protection)) := by
  have hnone : vm.regions[addr]? = none := by
    cases hregion : vm.regions[addr]? with
    | none => rfl
    | some region =>
      have hapart := hfresh.apart hregion
      have hpos := hfresh.nonempty
      have hpos' := hl.nonempty hregion
      simp only [Span.Apart, Span.Before, Span.stop, regionSpan] at hapart
      omega
  apply tracks_update hl h (fun b => getElem?_addRegion)
  · rintro region hregion p hp
    cases hregion
    have hin : (Span.mk addr.toNat size.toNat).Holds (4096 * p) := hp
    have hothers : ∀ (b : GuestAddr) r, vm.regions[b]? = some r →
        ¬ (regionSpan b r).Holds (4096 * p) := by
      intro b r hr hholds
      exact (hfresh.apart hr).not_holds hholds hp
    refine ⟨?_, fun b r _ => hothers b r⟩
    unfold PageRecord.change
    rw [if_pos hin, h.free hothers]
    rfl
  · intro p _ region hregion
    rw [hnone] at hregion
    cases hregion
  · intro p hnot _
    have hout : ¬ (Span.mk addr.toNat size.toNat).Holds (4096 * p) := hnot _ rfl
    unfold PageRecord.change
    rw [if_neg hout]

/-- Another state and protection for a region, and the record with the pages of a range that
covers the region, or whose pages have that state and protection already. -/
theorem tracks_setRegion (hl : RegionsLawful vm) (h : Tracks vm pages) {base : GuestAddr}
    {region region' : VirtualRegion} (hregion : vm.regions[base]? = some region)
    (hsize : region'.size = region.size) {size : ℕ} (hle : size ≤ region.size.toNat)
    (hcovers : region.size.toNat ≤ size ∨ regionPage base region' = regionPage base region)
    {f : Option PageInfo → Option PageInfo}
    (hf : f (some (regionPage base region)) = some (regionPage base region')) :
    Tracks (vm.setRegion base region') (pages.change base.toNat size f) := by
  have hspan : regionSpan base region' = regionSpan base region := by
    unfold regionSpan
    rw [hsize]
  apply tracks_update hl h (fun b => getElem?_setRegion)
  · rintro r hr p hp
    cases hr
    rw [hspan] at hp
    refine ⟨?_, ?_⟩
    · unfold PageRecord.change
      rw [h.page hregion hp]
      split_ifs with hin
      · exact hf
      · rcases hcovers with hwhole | hsame
        · refine absurd ?_ hin
          unfold Span.Holds Span.stop regionSpan at *
          dsimp only at *
          omega
        · rw [hsame]
    · intro b r hne hr hholds
      exact (hl.apart hr hregion hne).not_holds hholds hp
  · intro p hnot r hr hp
    rw [hregion] at hr
    cases hr
    exact absurd (hspan ▸ hp) (hnot region' rfl)
  · intro p hnot _
    unfold PageRecord.change
    rw [if_neg]
    intro hin
    apply hnot region' rfl
    rw [hspan]
    unfold Span.Holds Span.stop regionSpan at *
    dsimp only at *
    omega

/-- A region that is released, and the record without the pages of its allocation. -/
theorem tracks_erase (hl : RegionsLawful vm) (h : Tracks vm pages) (base : GuestAddr) :
    Tracks { vm with regions := vm.regions.erase base } (pages.release base) := by
  have hget : ∀ b : GuestAddr, (vm.regions.erase base)[b]? =
      if base = b then none else vm.regions[b]? := by
    intro b
    simp [Std.TreeMap.getElem?_erase]
  apply tracks_update hl h hget
  · intro region hnone
    cases hnone
  · intro p _ region hregion hp
    unfold PageRecord.release
    rw [h.page hregion hp]
    exact if_pos rfl
  · intro p _ hnot
    unfold PageRecord.release
    rw [if_neg]
    intro halloc
    obtain ⟨info, hpage, hinfo⟩ := Option.map_eq_some_iff.mp halloc
    obtain ⟨b, r, hr, hholds, rfl⟩ := (h p info).mp hpage
    have hb : b = base := hinfo
    subst hb
    exact hnot r hr hholds

/-! ## Runs -/

/-- What a run of covering calls keeps. -/
structure Kempt (run : PageRun) : Prop where
  managed : Managed run.1
  tracks : Tracks run.1 run.2

/-- A call that covers its region keeps the record kept. -/
theorem kempt_recorded {run : PageRun} (h : Kempt run) {c : RegionCall}
    (hcovers : c.CoversRegion run) : Kempt (c.recorded run) := by
  obtain ⟨vm, pages⟩ := run
  obtain ⟨hmanaged, htracks⟩ := h
  obtain ⟨hsize, hcovers⟩ := hcovers
  have hnext := managed_next hmanaged hsize
  unfold RegionCall.recorded
  unfold RegionCall.next at hnext
  cases hc : c.apply vm with
  | none => exact ⟨hmanaged, htracks⟩
  | some result =>
    cases result with
    | error e => exact ⟨hmanaged, htracks⟩
    | ok answer =>
      obtain ⟨answer, vm'⟩ := answer
      rw [hc] at hnext
      refine ⟨hnext, ?_⟩
      dsimp only at hmanaged htracks ⊢
      cases c with
      | allocate requested size allocType protection =>
        dsimp only [PageRecord.after]
        cases allocate_ok hmanaged hsize hc with
        | adds hstate hfresh _ =>
          rw [hstate]
          exact tracks_addRegion hmanaged.lawful htracks hfresh
        | @commits region hregion hle hreserve hcommit =>
          refine tracks_setRegion hmanaged.lawful htracks hregion ?_ hle ?_ ?_
          · rfl
          · refine (hcovers (not_not.mp hreserve) hcommit region hregion).imp id ?_
            rintro ⟨hstate, hprotect⟩
            rw [← hstate, ← hprotect]
          · unfold allocated allocatedState
            rw [if_pos hcommit]
            rfl
      | free base size freeType =>
        unfold RegionCall.apply at hc
        dsimp only [PageRecord.after]
        cases hf : vm.free base size freeType with
        | error e => simp [hf, Except.map] at hc
        | ok vm₁ =>
          simp only [hf, Except.map, Option.some.injEq, Except.ok.injEq, Prod.mk.injEq] at hc
          rw [← hc.2]
          cases free_ok hf with
          | releases hregion hrelease =>
            rw [if_pos hrelease]
            exact tracks_erase hmanaged.lawful htracks base
          | @decommits region hregion hle hrelease hdecommit =>
            rw [if_neg hrelease]
            refine tracks_setRegion hmanaged.lawful htracks hregion ?_ hle ?_ ?_
            · rfl
            · refine (hcovers (not_not.mp hrelease) hdecommit region hregion).imp id ?_
              rintro ⟨hstate, hprotect⟩
              rw [← hstate, ← hprotect]
            · rfl
      | protect base size newProtect =>
        dsimp only [PageRecord.after]
        obtain ⟨region, hregion, hle, -, rfl⟩ := protect_ok (Option.some.inj hc)
        refine tracks_setRegion hmanaged.lawful htracks hregion ?_ hle ?_ ?_
        · rfl
        · refine (hcovers region hregion).imp id fun hsame => ?_
          rw [← hsame]
        · rfl

/-! ## Answers -/

/-- A region has a page or does not have any of it. -/
theorem holds_page (hl : RegionsLawful vm) {base : GuestAddr} {region : VirtualRegion}
    (hregion : vm.regions[base]? = some region) (x : ℕ) :
    (regionSpan base region).Holds (4096 * (x / 4096)) ↔ (regionSpan base region).Holds x := by
  obtain ⟨⟨k, hk⟩, l, hsize⟩ := hl.aligned hregion
  simp only [Span.Holds, Span.stop, regionSpan]
  omega

/-- A range is committed exactly where one committed region holds it. -/
theorem isRangeCommitted_iff (hl : RegionsLawful vm) {base : GuestAddr} {size : U64}
    (hpos : size ≠ 0) (hend : base.toNat + size.toNat < 2 ^ 32) :
    vm.isRangeCommitted base size ↔ ∃ b region, vm.regions[b]? = some region ∧
      (Span.mk base.toNat size.toNat).Inside (regionSpan b region) ∧
      region.state = kMemCommit := by
  unfold isRangeCommitted
  rw [if_neg hpos, List.any_eq_true]
  constructor
  · rintro ⟨⟨b, region⟩, hmem, hin⟩
    have hregion := mem_regions.mp hmem
    simp only [Bool.and_eq_true, decide_eq_true_eq, ge_iff_le, BitVec.le_def] at hin
    rw [toNat_end hend, toNat_regionEnd hl hregion] at hin
    exact ⟨b, region, hregion, hin.1, hin.2⟩
  · rintro ⟨b, region, hregion, hin, hstate⟩
    refine ⟨(b, region), mem_regions.mpr hregion, ?_⟩
    simp only [Bool.and_eq_true, decide_eq_true_eq, ge_iff_le, BitVec.le_def]
    rw [toNat_end hend, toNat_regionEnd hl hregion]
    exact ⟨hin, hstate⟩

/-- A page is committed exactly where a committed region holds it. -/
theorem committed_iff (hl : RegionsLawful vm) (h : Tracks vm pages) (x : ℕ) :
    Committed (pages (x / 4096)) ↔ ∃ base region, vm.regions[base]? = some region ∧
      (regionSpan base region).Holds x ∧ region.state = kMemCommit := by
  constructor
  · rintro ⟨info, hpage, hstate⟩
    obtain ⟨base, region, hregion, hholds, rfl⟩ := (h _ info).mp hpage
    exact ⟨base, region, hregion, (holds_page hl hregion x).mp hholds, hstate⟩
  · rintro ⟨base, region, hregion, hholds, hstate⟩
    exact ⟨_, h.page hregion ((holds_page hl hregion x).mpr hholds), hstate⟩

/-- A query reports the page of its address. -/
theorem reportsPage (hl : RegionsLawful vm) (h : Tracks vm pages) (addr : GuestAddr) :
    ReportsPage (vm.query addr) (pages (addr.toNat / 4096)) := by
  cases hfind : vm.regionOf addr with
  | some r =>
    obtain ⟨base, region⟩ := r
    obtain ⟨hregion, hholds⟩ := (regionOf_eq_some_iff hl).mp hfind
    rw [h.page hregion ((holds_page hl hregion addr.toNat).mpr hholds), query, hfind]
    exact ⟨hl.keyed hregion, rfl, rfl⟩
  | none =>
    have hnone : pages (addr.toNat / 4096) = none := by
      apply h.free
      intro base region hregion hholds
      apply (regionOf_eq_none_iff hl).mp hfind base region hregion
      exact (holds_page hl hregion addr.toNat).mp hholds
    rw [hnone, query, hfind]
    rfl

/-- A query at a page reports the rest of the region from there on. -/
theorem query_regionEnd (hl : RegionsLawful vm) {addr base : GuestAddr} {region : VirtualRegion}
    (haligned : 4096 ∣ addr.toNat) (hregion : vm.regions[base]? = some region)
    (hholds : (regionSpan base region).Holds addr.toNat) :
    (vm.query addr).baseAddress.toNat + (vm.query addr).regionSize.toNat =
      (regionSpan base region).stop := by
  have hfind := (regionOf_eq_some_iff hl).mpr ⟨hregion, hholds⟩
  have hend := (end_lt hl hregion).1
  have haddr := addr.isLt
  rw [query, hfind]
  dsimp only
  have hbase : ((addr.setWidth 64 &&& ~~~(kPageSize - 1)).setWidth 32 : U32).toNat =
      addr.toNat := by
    have hpage : kPageSize.toNat = 2 ^ 12 := rfl
    obtain ⟨k, hk⟩ := haligned
    rw [BitVec.toNat_setWidth, toNat_and_not_pred _ _ hpage, BitVec.toNat_setWidth]
    omega
  have hrest : ((region.size - (addr - base).setWidth 64).setWidth 32 : U32).toNat =
      region.size.toNat - (addr.toNat - base.toNat) := by
    simp only [Span.Holds, Span.stop, regionSpan] at hholds
    have hsub : (addr - base).toNat = addr.toNat - base.toNat :=
      BitVec.toNat_sub_of_le (by rw [BitVec.le_def]; exact hholds.1)
    have hwide : ((addr - base).setWidth 64 : U64).toNat = addr.toNat - base.toNat := by
      rw [BitVec.toNat_setWidth, hsub]
      omega
    have hle : ((addr - base).setWidth 64 : U64) ≤ region.size := by
      rw [BitVec.le_def, hwide]
      omega
    rw [BitVec.toNat_setWidth, BitVec.toNat_sub_of_le hle, hwide]
    omega
  rw [hbase, hrest]
  simp only [Span.Holds, Span.stop, regionSpan] at hholds ⊢
  omega

/-- A record that is kept is precise. -/
theorem pagePrecise {run : PageRun} (h : Kempt run) : PagePrecise run := by
  have hl := h.managed.lawful
  constructor
  · intro addr
    exact reportsPage hl h.tracks addr
  · intro addr haligned hend
    rw [isRangeCommitted_iff hl (by decide) (by simpa using hend), committed_iff hl h.tracks]
    constructor
    · rintro ⟨base, region, hregion, hinside, hstate⟩
      refine ⟨base, region, hregion, hinside.holds ?_, hstate⟩
      simp [Span.Holds, Span.stop]
    · rintro ⟨base, region, hregion, hholds, hstate⟩
      obtain ⟨⟨k, hk⟩, l, hsize⟩ := hl.aligned hregion
      obtain ⟨m, hm⟩ := haligned
      refine ⟨base, region, hregion, ?_, hstate⟩
      have hpage : (4096 : U64).toNat = 4096 := rfl
      simp only [Span.Holds, Span.Inside, Span.stop, regionSpan, hpage] at hholds ⊢
      omega
  · intro base size hend hcommitted x hx
    have hpos : size ≠ 0 := by
      rintro rfl
      simp [Span.Holds, Span.stop] at hx
      omega
    obtain ⟨b, region, hregion, hinside, hstate⟩ :=
      (isRangeCommitted_iff hl hpos hend).mp hcommitted
    exact (committed_iff hl h.tracks x).mpr ⟨b, region, hregion, hinside.holds hx, hstate⟩
  · intro addr base region haligned hregion hholds
    exact query_regionEnd hl haligned hregion hholds

/-- **Page by page.**  In every run whose calls cover the regions they change, the manager
answers by the record of pages. -/
theorem covering_runs_precise {userBase userLimit : GuestAddr}
    (hrange : userBase.toNat ≤ userLimit.toNat) (hlimit : userLimit.toNat ≤ 0xFFFF0000)
    {calls : List RegionCall} {run : PageRun}
    (hruns : Runs RegionCall.recorded (fun run c => c.CoversRegion run) calls
      (pageStart userBase userLimit) run) : PagePrecise run := by
  apply pagePrecise
  refine hruns.invariant (fun run c h hcovers => kempt_recorded h hcovers) ?_
  exact ⟨managed_new hrange hlimit, tracks_start userBase userLimit⟩

/-- The default manager and its record after calls. -/
def recordAfter (calls : List RegionCall) : PageRun :=
  calls.foldl RegionCall.recorded (pageStart kDefaultUserBase kDefaultUserLimit)

/-- A reservation, all of it committed. -/
def commitAll : List RegionCall :=
  [.allocate 0x20000 0x10000 kMemReserve kPageReadWrite,
    .allocate 0x20000 0x10000 kMemCommit kPageReadWrite]

/-- The example run is precise. -/
theorem covering_runs_precise_committed : PagePrecise (recordAfter commitAll) := by
  have hruns : Runs RegionCall.recorded (fun run c => c.CoversRegion run) commitAll
      (pageStart kDefaultUserBase kDefaultUserLimit) (recordAfter commitAll) := by
    refine .cons ?_ (.cons ?_ (.nil _))
    · exact ⟨by decide, fun hreserve => absurd hreserve (by decide)⟩
    refine ⟨by decide, fun _ _ region hregion => .inl ?_⟩
    have hreserved : (recordAfter (commitAll.take 1)).1.regions[(0x20000 : GuestAddr)]? =
        some (newRegion 0x20000 0x10000 kMemReserve kPageReadWrite) := by
      decide +kernel
    rw [Option.some.inj (hregion.symm.trans hreserved)]
    decide
  exact covering_runs_precise (by decide) (by decide) hruns

/-- Committing the first page of a reservation commits all of them. -/
theorem commit_of_one_page_spreads : ¬ ∀ (calls : List RegionCall) (addr : GuestAddr),
    ReportsPage ((recordAfter calls).1.query addr) ((recordAfter calls).2 (addr.toNat / 4096)) := by
  intro hall
  have hreported := hall reserveThenCommit 0x21000
  have hrecord : (recordAfter reserveThenCommit).2 ((0x21000 : GuestAddr).toNat / 4096) =
      some ⟨0x20000, kMemReserve, kPageReadWrite⟩ := by
    decide +kernel
  have hquery : ((recordAfter reserveThenCommit).1.query 0x21000).state = kMemCommit := by
    decide +kernel
  rw [hrecord] at hreported
  exact absurd (hquery.symm.trans hreported.2.1) (by decide)

end Xblob.Analysis
