import Xblob.Analysis.BlockAccess
import Xblob.Computation.Ends
import Xblob.Interface.XbeLoads

/-!
# Steps and plans of a load

One step of a load, and what the plan of all of them leaves.
-/

set_option autoImplicit false

namespace Xblob.Analysis

open Xblob.Computation Xblob.Formats Xblob.Interface Xblob.Io Xblob.Loader Xblob.Memory

/-!
## The steps of a load

Each step of a load either does what it is for or fails and changes nothing.
-/

section LoadSteps

variable {δ : Type}

/-- A load that has saved a block. -/
def saved (l : Loading δ) (addr : GuestAddr) (c : Cell) (n : ℕ) : Loading δ :=
  { l with patches := l.patches ++ [{ addr := addr, original := bytesAt l.space c n }] }

/-- A load that has written a block. -/
def stored (l : Loading δ) (addr : GuestAddr) (c : Cell) (bytes : List U8) : Loading δ :=
  { l with space := storedAt l.space c bytes, written := l.written ++ [(addr, bytes)] }

/-- A range is saved, if it has addresses, or cannot be read. -/
theorem backupRange_cases (l : Loading δ) (addr : GuestAddr) (size : GuestSize) :
    (size = 0 ∧ (backupRange addr size).run l = .ok () l) ∨
    (size ≠ 0 ∧ ∃ c, blockAt l.space addr size.toNat .read = some c ∧
      (backupRange addr size).run l = .ok () (saved l addr c size.toNat)) ∨
    ∃ e, (backupRange addr size).run l = .error e l := by
  by_cases hsize : size = 0
  · refine .inl ⟨hsize, ?_⟩
    show backupRange addr size l = _
    rw [backupRange, if_pos hsize]
  · have hpos : size.toNat ≠ 0 := by
      intro hzero
      exact hsize (BitVec.eq_of_toNat_eq hzero)
    obtain ⟨c, hblock, heq⟩ | ⟨-, e, heq⟩ := readBytes_run l.space addr hpos
    · refine .inr (.inl ⟨hsize, c, hblock, ?_⟩)
      show backupRange addr size l = _
      rw [backupRange, if_neg hsize, heq]
      rfl
    · refine .inr (.inr ⟨e, ?_⟩)
      show backupRange addr size l = _
      rw [backupRange, if_neg hsize, heq]

/-- A block is written, or cannot be. -/
theorem writeRange_cases (l : Loading δ) (addr : GuestAddr) (bytes : List U8) :
    (bytes = [] ∧
      (writeRange addr bytes).run l = .ok () { l with written := l.written ++ [(addr, [])] }) ∨
    (bytes ≠ [] ∧ ∃ c, blockAt l.space addr bytes.length .write = some c ∧
      (writeRange addr bytes).run l = .ok () (stored l addr c bytes)) ∨
    ∃ e, (writeRange addr bytes).run l = .error e l := by
  by_cases hbytes : bytes = []
  · subst hbytes
    exact .inl ⟨rfl, rfl⟩
  · obtain ⟨c, hblock, heq⟩ | ⟨-, e, heq⟩ := writeBytes_run l.space addr hbytes
    · refine .inr (.inl ⟨hbytes, c, hblock, ?_⟩)
      show writeRange addr bytes l = _
      rw [writeRange, heq]
      rfl
    · refine .inr (.inr ⟨e, ?_⟩)
      show writeRange addr bytes l = _
      rw [writeRange, heq]

/-- Bytes of the file, or an error. -/
theorem readSource_cases (l : Loading δ) (source : ByteSource) (offset : U64) (n : ℕ)
    (message : String) :
    (∃ bytes, source.readAt offset n = .ok bytes ∧
      (readSource source offset n message).run l = .ok bytes l) ∨
    ∃ e, (readSource source offset n message).run l = .error e l := by
  unfold readSource
  cases hread : source.readAt offset n with
  | ok bytes => exact .inl ⟨bytes, rfl, rfl⟩
  | error e => exact .inr ⟨_, rfl⟩

/-- A load that fails has put its patches back. -/
theorem loadApply_error {plan : XbeLoadPlan} {source : ByteSource} {space space' : AddressSpace δ}
    {e : Error} (h : (apply plan source).run space = .error e space') :
    ∃ l, (applySteps plan source).run { space := space } = .error e l ∧
      space' = rollbackPatches l.patches l.space := by
  have hrun : apply plan source space = .error e space' := h
  unfold apply at hrun
  cases hsteps : (applySteps plan source).run { space := space } with
  | ok u l =>
    rw [hsteps] at hrun
    cases hrun
  | error e' l =>
    rw [hsteps] at hrun
    cases hrun
    exact ⟨l, rfl, rfl⟩

/-! ### Where a step ends -/

variable {l : Loading δ} {Q : Unit → Loading δ → Prop} {E : Loading δ → Prop} {addr : GuestAddr}

/-- A backup saves the block, or fails without a change. -/
theorem ends_backupRange {size : GuestSize} (hempty : size = 0 → Q () l)
    (hsaved : ∀ c, size ≠ 0 → blockAt l.space addr size.toNat .read = some c →
      Q () (saved l addr c size.toNat)) (hfail : E l) :
    Ends (backupRange addr size) l Q E := by
  unfold Ends
  obtain ⟨hsize, hrun⟩ | ⟨hsize, c, hblock, hrun⟩ | ⟨e, hrun⟩ := backupRange_cases l addr size
  · rw [hrun]
    exact hempty hsize
  · rw [hrun]
    exact hsaved c hsize hblock
  · rw [hrun]
    exact hfail

/-- A write stores the block, or fails without a change. -/
theorem ends_writeRange {bytes : List U8}
    (hempty : bytes = [] → Q () { l with written := l.written ++ [(addr, [])] })
    (hstored : ∀ c, bytes ≠ [] → blockAt l.space addr bytes.length .write = some c →
      Q () (stored l addr c bytes)) (hfail : E l) :
    Ends (writeRange addr bytes) l Q E := by
  unfold Ends
  obtain ⟨hbytes, hrun⟩ | ⟨hbytes, c, hblock, hrun⟩ | ⟨e, hrun⟩ := writeRange_cases l addr bytes
  · rw [hrun]
    exact hempty hbytes
  · rw [hrun]
    exact hstored c hbytes hblock
  · rw [hrun]
    exact hfail

/-- A read of the file returns its bytes, or fails without a change. -/
theorem ends_readSource {source : ByteSource} {offset : U64} {n : ℕ} {message : String}
    {Q : List U8 → Loading δ → Prop}
    (hread : ∀ bytes, source.readAt offset n = .ok bytes → Q bytes l) (hfail : E l) :
    Ends (readSource source offset n message) l Q E := by
  unfold Ends
  obtain ⟨bytes, hbytes, hrun⟩ | ⟨e, hrun⟩ := readSource_cases l source offset n message
  · rw [hrun]
    exact hread bytes hbytes
  · rw [hrun]
    exact hfail

end LoadSteps

/-!
## What a plan has been checked for

Every section is checked against the image, the headers and the sections before it, so a plan
that is made lays them out one after the other.  The checks are in 64 bits, where the sums of
addresses and sizes do not wrap.
-/

section LoadPlans

variable {source : ByteSource} {hdr : XbeHeader} {p : XbeLoadPlan}

/-- Ranges that do not overlap lie one after the other. -/
theorem not_rangesOverlap {start stop start' stop' : ℕ}
    (h : ¬ rangesOverlap start stop start' stop' = true) : stop' ≤ start ∨ stop ≤ start' := by
  simp only [rangesOverlap, Bool.and_eq_true, decide_eq_true_eq] at h
  omega

/-- The header of a file that may be loaded. -/
theorem checkHeader_ok (h : checkHeader source hdr = .ok ()) :
    hdr.headersSize ≠ 0 ∧ hdr.headersSize.toNat ≤ hdr.imageSize.toNat ∧
      hdr.baseAddress.toNat + hdr.imageSize.toNat ≤ 0x100000000 := by
  unfold checkHeader at h
  split at h
  · cases h
  split at h
  · cases h
  next hheaders =>
    split at h
    · cases h
    split at h
    · cases h
    next himage =>
      split at h
      · cases h
      split at h
      · cases h
      next hbelow => exact ⟨hheaders, BitVec.not_lt.1 himage, by omega⟩

/-- A section that may be loaded, after the sections before it. -/
structure SectionChecked (source : ByteSource) (hdr : XbeHeader) (planned : List SectionPlan)
    (sec : XbeSection) : Prop where
  fits : sec.rawSize.toNat ≤ sec.virtualSize.toNat
  stored : sec.rawAddress.toNat + sec.rawSize.toNat ≤ source.size.toNat
  starts : hdr.baseAddress.toNat ≤ sec.virtualAddress.toNat
  stops : sec.virtualAddress.toNat + sec.virtualSize.toNat ≤
    hdr.baseAddress.toNat + hdr.imageSize.toNat
  headers : (sectionSpan (planSection sec)).Apart ⟨hdr.baseAddress.toNat, hdr.headersSize.toNat⟩
  apart : ∀ prev ∈ planned, (sectionSpan (planSection sec)).Apart (sectionSpan prev)

/-- A section that passes its check has the properties checked. -/
theorem checkSection_ok {planned : List SectionPlan} {sec : XbeSection}
    (h : checkSection source hdr planned sec = .ok ()) :
    SectionChecked source hdr planned sec := by
  unfold checkSection at h
  dsimp only at h
  split at h
  · cases h
  split at h
  · cases h
  split at h
  · cases h
  next hfits =>
    split at h
    · cases h
    next hstored =>
      split at h
      · cases h
      next hinside =>
        split at h
        · cases h
        next hheaders =>
          split at h
          · cases h
          next hplanned =>
            refine ⟨BitVec.not_lt.1 hfits, by omega, by omega, by omega, ?_, ?_⟩
            · obtain hafter | hbefore := not_rangesOverlap hheaders
              · exact .inr hafter
              · exact .inl hbefore
            · intro prev hprev
              have hoverlap : ¬ rangesOverlap sec.virtualAddress.toNat
                  (sec.virtualAddress.toNat + sec.virtualSize.toNat) prev.virtualAddress.toNat
                  prev.virtualEnd = true := by
                intro hoverlap
                exact hplanned (List.any_eq_true.2 ⟨prev, hprev, hoverlap⟩)
              obtain hafter | hbefore := not_rangesOverlap hoverlap
              · exact .inr hafter
              · exact .inl hbefore

/-- The sections of a plan are those of the file, each checked. -/
theorem planSections_ok {planned out : List SectionPlan} {secs : List XbeSection}
    (h : planSections source hdr planned secs = .ok out) :
    out = planned ++ secs.map planSection ∧
      (∀ sec ∈ secs, SectionChecked source hdr planned sec) ∧
      secs.Pairwise fun a b =>
        (sectionSpan (planSection a)).Apart (sectionSpan (planSection b)) := by
  induction secs generalizing planned with
  | nil =>
    cases h
    simp
  | cons sec rest ih =>
    obtain ⟨⟨⟩, hcheck, hrest⟩ := bind_eq_ok h
    have hsec := checkSection_ok hcheck
    obtain ⟨hout, hchecked, hpairwise⟩ := ih hrest
    refine ⟨by simpa using hout, ?_, ?_⟩
    · intro sec' hsec'
      obtain rfl | hsec' := List.mem_cons.1 hsec'
      · exact hsec
      · obtain ⟨hfits, hstored, hstarts, hstops, hheaders, hapart⟩ := hchecked sec' hsec'
        refine ⟨hfits, hstored, hstarts, hstops, hheaders, ?_⟩
        intro prev hprev
        exact hapart prev (List.mem_append_left _ hprev)
    · refine List.pairwise_cons.2 ⟨?_, hpairwise⟩
      intro sec' hsec'
      have hapart := (hchecked sec' hsec').apart (planSection sec) (by simp)
      exact hapart.symm

/-- How a plan is made. -/
structure PlannedFrom (source : ByteSource) (xbe : XbeInfo) (p : XbeLoadPlan) : Prop where
  parsed : XbeParser.parse source = .ok xbe
  header : checkHeader source xbe.header = .ok ()
  sections : planSections source xbe.header [] xbe.sections = .ok p.sections
  thunks : planThunks source [] xbe.sections = .ok p.importThunks
  base : p.baseAddress = xbe.header.baseAddress
  headersSize : p.headersSize = xbe.header.headersSize
  imageSize : p.imageSize = xbe.header.imageSize

/-- A plan is planned from a parsed file. -/
theorem plan_ok (h : plan source = .ok p) : ∃ xbe, PlannedFrom source xbe p := by
  obtain ⟨xbe, hparsed, h⟩ := bind_eq_ok h
  obtain ⟨⟨⟩, hheader, h⟩ := bind_eq_ok h
  obtain ⟨sections, hsections, h⟩ := bind_eq_ok h
  obtain ⟨thunks, hthunks, h⟩ := bind_eq_ok h
  cases h
  exact ⟨xbe, hparsed, hheader, hsections, hthunks, rfl, rfl, rfl⟩

/-- The bytes from the file and the zeros fill the section. -/
theorem filled_planSection {sec : XbeSection} (h : sec.rawSize.toNat ≤ sec.virtualSize.toNat) :
    (planSection sec).rawSize.toNat + (planSection sec).zeroFillSize.toNat =
      (planSection sec).virtualSize.toNat := by
  simp only [planSection]
  rw [BitVec.toNat_sub_of_le h]
  omega

/-- A plan lays the image out. -/
theorem PlannedFrom.laidOut {xbe : XbeInfo} (h : PlannedFrom source xbe p) : LaidOut p := by
  obtain ⟨-, himage, hbelow⟩ := checkHeader_ok h.header
  obtain ⟨hsections, hchecked, hpairwise⟩ := planSections_ok h.sections
  have hmem : ∀ sec ∈ p.sections, ∃ sec' ∈ xbe.sections, planSection sec' = sec := by
    intro sec hsec
    rw [hsections] at hsec
    simpa using hsec
  refine ⟨?_, ?_, ?_, ?_, ?_, ?_⟩
  · rw [planSpan, Span.stop, h.base, h.imageSize]
    exact hbelow
  · rw [headersSpan, planSpan, h.base, h.imageSize, h.headersSize]
    exact ⟨Nat.le_refl _, Nat.add_le_add_left himage _⟩
  · intro sec hsec
    obtain ⟨sec', hsec', rfl⟩ := hmem sec hsec
    rw [planSpan, h.base, h.imageSize]
    exact ⟨(hchecked sec' hsec').starts, (hchecked sec' hsec').stops⟩
  · intro sec hsec
    obtain ⟨sec', hsec', rfl⟩ := hmem sec hsec
    exact filled_planSection (hchecked sec' hsec').fits
  · intro sec hsec
    obtain ⟨sec', hsec', rfl⟩ := hmem sec hsec
    rw [headersSpan, h.base, h.headersSize]
    exact (hchecked sec' hsec').headers
  · rw [hsections]
    exact List.pairwise_map.2 hpairwise

/-- The plans that are made save everywhere they write. -/
theorem laidOut_savesSections (h : LaidOut p) : SavesSections p :=
  fun sec hsec => (h.filled sec hsec).le

end LoadPlans

end Xblob.Analysis
