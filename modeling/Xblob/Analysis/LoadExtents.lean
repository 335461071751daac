import Mathlib.Data.List.Forall2
import Xblob.Analysis.LoadPlans

/-!
# Where a load writes

The sections were checked against the image, but an import is put at the address of its section
plus an offset that nothing has checked.  So a load stays in place just if the offsets in every
thunk section leave room for the trampolines.
-/

set_option autoImplicit false

namespace Xblob.Analysis

open Xblob.Computation Xblob.Formats Xblob.Interface Xblob.Io Xblob.Loader Xblob.Memory

variable {source : ByteSource} {xbe : XbeInfo} {p : XbeLoadPlan}

/-! ## The imports of a plan -/

/-- The plan of an import that is allowed. -/
def plannedThunk (i : XbeSection × U32 × U32) : ImportThunkPlan where
  ordinal := i.2.1
  thunkAddress := i.1.virtualAddress + i.2.2
  name := (kAllowlist.lookup i.2.1).getD ""

/-- A thunk that is planned is added last. -/
theorem planThunk_ok {sec : XbeSection} {thunks out : List ImportThunkPlan} {entry : U32 × U32}
    (h : planThunk sec thunks entry = .ok out) : out = thunks ++ [plannedThunk (sec, entry)] := by
  unfold planThunk at h
  split at h
  · cases h
  next name hname =>
    split at h
    · cases h
    · cases h
      rw [plannedThunk, hname]
      rfl

/-- The thunks of a section are added in order. -/
theorem planEntries_ok {sec : XbeSection} {entries : List (U32 × U32)}
    {thunks out : List ImportThunkPlan} (h : planEntries sec thunks entries = .ok out) :
    out = thunks ++ entries.map fun entry => plannedThunk (sec, entry) := by
  induction entries generalizing thunks with
  | nil =>
    cases h
    simp
  | cons entry rest ih =>
    obtain ⟨thunks', hentry, hrest⟩ := bind_eq_ok h
    rw [ih hrest, planThunk_ok hentry]
    simp

/-- The imports of a plan are those of the thunk sections, in their order. -/
theorem planThunks_ok {secs : List XbeSection} {thunks out : List ImportThunkPlan}
    (h : planThunks source thunks secs = .ok out) :
    out = thunks ++ (importsOf source secs).map plannedThunk := by
  induction secs generalizing thunks with
  | nil =>
    cases h
    simp [importsOf]
  | cons sec rest ih =>
    unfold planThunks at h
    split at h
    next hname =>
      obtain ⟨data, hdata, h⟩ := bind_eq_ok h
      obtain ⟨thunks', hentries, h⟩ := bind_eq_ok h
      rw [ih h, planEntries_ok hentries]
      simp [importsOf, hname, sectionEntries, hdata, Function.comp_def]
    next hname =>
      rw [ih h]
      simp [importsOf, hname]

/-- The thunks of a plan are the imports of its file. -/
theorem PlannedFrom.importThunks (h : PlannedFrom source xbe p) :
    p.importThunks = (importsOf source xbe.sections).map plannedThunk := by
  have hthunks := planThunks_ok h.thunks
  rwa [List.nil_append] at hthunks

/-! ## Every step stays in the image -/

section

variable {δ : Type} {l : Loading δ} {addr : GuestAddr}

/-- Backing up a range inside the plan stays confined. -/
theorem confined_backup (h : Confined p l) {size : GuestSize}
    (hinside : (addrSpan addr size.toNat).Inside (planSpan p)) :
    Ends (backupRange addr size) l (fun _ => Confined p) (Confined p) := by
  apply ends_backupRange
  · intro _
    exact h
  · intro c _ _
    refine ⟨h.written, ?_⟩
    intro patch hpatch
    obtain hpatch | hpatch := List.mem_append.1 hpatch
    · exact h.patches patch hpatch
    · rw [List.mem_singleton.1 hpatch, length_bytesAt]
      exact hinside
  · exact h

/-- Writing a range inside the plan stays confined. -/
theorem confined_write (h : Confined p l) {bytes : List U8}
    (hinside : (addrSpan addr bytes.length).Inside (planSpan p)) :
    Ends (writeRange addr bytes) l (fun _ => Confined p) (Confined p) := by
  have hwritten : ∀ w ∈ l.written ++ [(addr, bytes)],
      (addrSpan w.1 w.2.length).Inside (planSpan p) := by
    intro w hw
    obtain hw | hw := List.mem_append.1 hw
    · exact h.written w hw
    · rw [List.mem_singleton.1 hw]
      exact hinside
  apply ends_writeRange
  · intro hbytes
    subst hbytes
    exact ⟨hwritten, h.patches⟩
  · intro c _ _
    exact ⟨hwritten, h.patches⟩
  · exact h

/-- Backing up the sections stays confined. -/
theorem confined_backupSections (h : Confined p l) {secs : List SectionPlan}
    (hsecs : ∀ sec ∈ secs, (sectionSpan sec).Inside (planSpan p)) :
    Ends (backupSections secs) l (fun _ => Confined p) (Confined p) := by
  induction secs generalizing l with
  | nil => exact h
  | cons sec rest ih =>
    rw [backupSections, ends_bind]
    refine (confined_backup h (hsecs sec List.mem_cons_self)).mono ?_ fun _ h' => h'
    intro _ l' h'
    exact ih h' fun sec' hsec' => hsecs sec' (List.mem_cons_of_mem _ hsec')

/-- The raw bytes and the zeroes of a section fill it, and the address of the zeroes does not
wrap. -/
theorem confined_section (hplan : LaidOut p) (source : ByteSource) {sec : SectionPlan}
    (hsec : sec ∈ p.sections) (h : Confined p l) :
    Ends (writeRaw source sec) l (fun _ => Confined p) (Confined p) ∧
      Ends (writeZeroes sec) l (fun _ => Confined p) (Confined p) := by
  have hinside := hplan.sections sec hsec
  have hfilled := hplan.filled sec hsec
  have hbelow := hplan.below
  simp only [Span.Inside, sectionSpan, Span.stop] at hinside hbelow
  refine ⟨?_, ?_⟩
  · unfold writeRaw
    split
    · rw [ends_bind]
      refine ends_readSource ?_ h
      intro data hdata
      apply confined_write h
      rw [source.length_readAt hdata]
      simp only [Span.Inside, addrSpan, Span.stop]
      omega
    · exact h
  · unfold writeZeroes
    split
    next hzeroes =>
      have hpos : 0 < sec.zeroFillSize.toNat := hzeroes
      have haddr : (sec.virtualAddress + sec.rawSize).toNat =
          sec.virtualAddress.toNat + sec.rawSize.toNat := by
        rw [BitVec.toNat_add]
        omega
      apply confined_write h
      rw [List.length_replicate]
      simp only [Span.Inside, addrSpan, Span.stop]
      omega
    · exact h

/-- Writing the sections stays confined. -/
theorem confined_writeSections (hplan : LaidOut p) {secs : List SectionPlan}
    (hsecs : ∀ sec ∈ secs, sec ∈ p.sections) (h : Confined p l) :
    Ends (writeSections source secs) l (fun _ => Confined p) (Confined p) := by
  induction secs generalizing l with
  | nil => exact h
  | cons sec rest ih =>
    have hsec := hsecs sec List.mem_cons_self
    rw [writeSections, ends_bind]
    refine (confined_section hplan source hsec h).1.mono ?_ fun _ h' => h'
    intro _ l₁ h₁
    rw [ends_bind]
    refine (confined_section hplan source hsec h₁).2.mono ?_ fun _ h' => h'
    intro _ l₂ h₂
    exact ih (fun sec' hsec' => hsecs sec' (List.mem_cons_of_mem _ hsec')) h₂

/-- Writing the thunks stays confined. -/
theorem confined_writeThunks {thunks : List ImportThunkPlan}
    (hthunks : ∀ thunk ∈ thunks, (trampolineSpan thunk).Inside (planSpan p)) (h : Confined p l) :
    Ends (writeThunks thunks) l (fun _ => Confined p) (Confined p) := by
  induction thunks generalizing l with
  | nil => exact h
  | cons thunk rest ih =>
    have hthunk : (addrSpan thunk.thunkAddress 8).Inside (planSpan p) :=
      hthunks thunk List.mem_cons_self
    have hsize : (8 : GuestSize).toNat = 8 := by simp
    have hlength : (trampoline thunk.ordinal).length = 8 := by simp [trampoline]
    rw [writeThunks, ends_bind]
    refine (confined_backup h (hsize.symm ▸ hthunk)).mono ?_ fun _ h' => h'
    intro _ l₁ h₁
    rw [ends_bind]
    refine (confined_write h₁ (hlength.symm ▸ hthunk)).mono ?_ fun _ h' => h'
    intro _ l₂ h₂
    exact ih (fun thunk' hthunk' => hthunks thunk' (List.mem_cons_of_mem _ hthunk')) h₂

/-- A load whose trampolines are in the image stays in it, wherever it ends. -/
theorem confined_applySteps (hplan : LaidOut p) (source : ByteSource) (space : AddressSpace δ)
    (hthunks : ∀ thunk ∈ p.importThunks, (trampolineSpan thunk).Inside (planSpan p)) :
    Confined p (stateAfter ((applySteps p source).run { space := space })) := by
  have hbegin : Confined p { space := space } := ⟨by simp, by simp⟩
  apply Ends.stateAfter
  rw [applySteps, ends_bind]
  refine (confined_backup hbegin hplan.headers).mono ?_ fun _ h' => h'
  intro _ l₁ h₁
  rw [ends_bind]
  refine (confined_backupSections h₁ hplan.sections).mono ?_ fun _ h' => h'
  intro _ l₂ h₂
  rw [ends_bind]
  refine ends_readSource ?_ h₂
  intro headers hread
  have hinside : (addrSpan p.baseAddress headers.length).Inside (planSpan p) := by
    rw [source.length_readAt hread]
    exact hplan.headers
  rw [ends_bind]
  refine (confined_write h₂ hinside).mono ?_ fun _ h' => h'
  intro _ l₃ h₃
  rw [ends_bind]
  refine (confined_writeSections hplan (fun _ hsec => hsec) h₃).mono ?_ fun _ h' => h'
  intro _ l₄ h₄
  exact confined_writeThunks hthunks h₄

end

/-! ## When the trampolines are in place -/

/-- The imports of a file, one by one. -/
theorem mem_importsOf {secs : List XbeSection} {i : XbeSection × U32 × U32} :
    i ∈ importsOf source secs ↔
      i.1 ∈ secs ∧ i.1.name = ".thunk" ∧ i.2 ∈ sectionEntries source i.1 := by
  obtain ⟨sec, entry⟩ := i
  simp only [importsOf, List.mem_flatMap, List.mem_filter, List.mem_map, Prod.mk.injEq,
    decide_eq_true_eq]
  constructor
  · rintro ⟨sec', ⟨hsec, hname⟩, entry', hentry, rfl, rfl⟩
    exact ⟨hsec, hname, hentry⟩
  · rintro ⟨hsec, hname, hentry⟩
    exact ⟨sec, ⟨hsec, hname⟩, entry, hentry, rfl, rfl⟩

/-- A trampoline is in its section just if its offset leaves room for it.  A sum that wraps is
below the section. -/
theorem trampoline_inside_iff {i : XbeSection × U32 × U32}
    (hbelow : i.1.virtualAddress.toNat + i.1.virtualSize.toNat ≤ 0x100000000) :
    (trampolineSpan (plannedThunk i)).Inside (sectionSpan (planSection i.1)) ↔
      i.2.2.toNat + 8 ≤ i.1.virtualSize.toNat := by
  simp only [trampolineSpan, plannedThunk, addrSpan, sectionSpan, planSection, Span.Inside,
    Span.stop, BitVec.toNat_add]
  have haddr := i.1.virtualAddress.isLt
  have hoffset := i.2.2.isLt
  omega

/-- Two trampolines in one section are apart just if their offsets are. -/
theorem trampolines_apart_iff {sec : XbeSection} {a b : U32 × U32}
    (hbelow : sec.virtualAddress.toNat + sec.virtualSize.toNat ≤ 0x100000000)
    (ha : a.2.toNat + 8 ≤ sec.virtualSize.toNat) (hb : b.2.toNat + 8 ≤ sec.virtualSize.toNat) :
    (trampolineSpan (plannedThunk (sec, a))).Apart (trampolineSpan (plannedThunk (sec, b))) ↔
      a.2.toNat + 8 ≤ b.2.toNat ∨ b.2.toNat + 8 ≤ a.2.toNat := by
  simp only [trampolineSpan, plannedThunk, addrSpan, Span.Apart, Span.Before, Span.stop,
    BitVec.toNat_add]
  omega

/-- Every section of a plan ends within the address space. -/
theorem PlannedFrom.checked (h : PlannedFrom source xbe p) {sec : XbeSection}
    (hsec : sec ∈ xbe.sections) :
    sec.virtualAddress.toNat + sec.virtualSize.toNat ≤ 0x100000000 := by
  have hstops := ((planSections_ok h.sections).2.1 sec hsec).stops
  have hbelow := (checkHeader_ok h.header).2.2
  omega

/-- The trampolines of a file whose offsets fit. -/
theorem PlannedFrom.trampolines (h : PlannedFrom source xbe p)
    (hfit : ∀ sec ∈ xbe.sections, sec.name = ".thunk" → OffsetsFit source sec) :
    (∀ i ∈ importsOf source xbe.sections,
      (trampolineSpan (plannedThunk i)).Inside (sectionSpan (planSection i.1))) ∧
    (importsOf source xbe.sections).Pairwise fun i j =>
      (trampolineSpan (plannedThunk i)).Apart (trampolineSpan (plannedThunk j)) := by
  have hinside : ∀ i ∈ importsOf source xbe.sections,
      (trampolineSpan (plannedThunk i)).Inside (sectionSpan (planSection i.1)) := by
    intro i hi
    obtain ⟨hsec, hname, hentry⟩ := mem_importsOf.1 hi
    exact (trampoline_inside_iff (h.checked hsec)).2 ((hfit i.1 hsec hname).room i.2 hentry)
  refine ⟨hinside, ?_⟩
  have hsections := (planSections_ok h.sections).2.2
  refine List.pairwise_flatMap.2 ⟨?_, ?_⟩
  · -- In one section the offsets are apart.
    intro sec hsec
    obtain ⟨hsec, hname⟩ := List.mem_filter.1 hsec
    have hfits := hfit sec hsec (of_decide_eq_true hname)
    refine List.pairwise_map.2 (hfits.apart.imp_of_mem ?_)
    intro a b ha hb hab
    exact (trampolines_apart_iff (h.checked hsec) (hfits.room a ha) (hfits.room b hb)).2 hab
  · -- In two sections the sections are.
    refine (hsections.filter _).imp_of_mem ?_
    intro sec sec' hsec hsec' hapart i hi j hj
    obtain ⟨entry, hentry, rfl⟩ := List.mem_map.1 hi
    obtain ⟨entry', hentry', rfl⟩ := List.mem_map.1 hj
    have hi' : (sec, entry) ∈ importsOf source xbe.sections :=
      List.mem_flatMap.2 ⟨sec, hsec, hi⟩
    have hj' : (sec', entry') ∈ importsOf source xbe.sections :=
      List.mem_flatMap.2 ⟨sec', hsec', hj⟩
    exact ((hapart.of_inside (hinside _ hi')).symm.of_inside (hinside _ hj')).symm

/-- The image of a file that has a plan is loaded in place just if the offsets of its imports
fit their sections. -/
theorem loadsInPlace_iff (hplan : plan source = .ok p) (hparse : XbeParser.parse source = .ok xbe) :
    LoadsInPlace source xbe p ↔
      ∀ sec ∈ xbe.sections, sec.name = ".thunk" → OffsetsFit source sec := by
  obtain ⟨xbe', h⟩ := plan_ok hplan
  have hsame := h.parsed
  rw [hparse] at hsame
  cases hsame
  have hlaid := h.laidOut
  have hthunks := h.importThunks
  constructor
  · intro hload sec hsec hname
    have hhomes := hload.homes
    have hapart := hload.trampolines
    rw [hthunks] at hhomes hapart
    have hinside : ∀ i ∈ importsOf source xbe.sections, AtHome i (plannedThunk i) := by
      rw [List.forall₂_map_right_iff, List.forall₂_same] at hhomes
      exact hhomes
    have hroom : ∀ entry ∈ sectionEntries source sec,
        entry.2.toNat + 8 ≤ sec.virtualSize.toNat := by
      intro entry hentry
      have hi : (sec, entry) ∈ importsOf source xbe.sections :=
        mem_importsOf.2 ⟨hsec, hname, hentry⟩
      exact (trampoline_inside_iff (h.checked hsec)).1 (hinside _ hi).inside
    refine ⟨hroom, ?_⟩
    have hsection := (List.pairwise_flatMap.1 (List.pairwise_map.1 hapart)).1 sec
      (List.mem_filter.2 ⟨hsec, decide_eq_true hname⟩)
    refine (List.pairwise_map.1 hsection).imp_of_mem ?_
    intro a b ha hb hab
    exact (trampolines_apart_iff (h.checked hsec) (hroom a ha) (hroom b hb)).1 hab
  · intro hfit
    obtain ⟨hinside, hapart⟩ := h.trampolines hfit
    refine ⟨?_, hlaid.below, hlaid.apart, hlaid.pairwise, ?_, ?_⟩
    · intro δ space
      apply confined_applySteps hlaid
      intro thunk hthunk
      rw [hthunks] at hthunk
      obtain ⟨i, hi, rfl⟩ := List.mem_map.1 hthunk
      refine (hinside i hi).trans (hlaid.sections _ ?_)
      rw [(planSections_ok h.sections).1, List.nil_append]
      exact List.mem_map.2 ⟨i.1, (mem_importsOf.1 hi).1, rfl⟩
    · rw [hthunks, List.forall₂_map_right_iff, List.forall₂_same]
      intro i hi
      exact ⟨rfl, rfl, hinside i hi⟩
    · rw [hthunks]
      exact List.pairwise_map.2 hapart

/-! ## A file with one import -/

/-- The four bytes of a number below `0x10000`. -/
def fileDword (n : ℕ) : List U8 := [BitVec.ofNat 8 n, BitVec.ofNat 8 (n / 256), 0, 0]

/-- A file with base address 0 and an image of 512 bytes: headers up to `0x18B`, and one thunk
section of 16 bytes at `0x1A0` with an import of `CreateThread` at an offset. -/
def oneImportFile (offset : ℕ) : List U8 :=
  [0x58, 0x42, 0x45, 0x48] ++ List.replicate 256 0 ++
    -- base, headers, image, and the place of the section table
    fileDword 0 ++ fileDword 0x18B ++ fileDword 0x200 ++ List.replicate 12 0 ++ fileDword 1 ++
    fileDword 0x14C ++ List.replicate 40 0 ++
    -- flags, addresses and sizes of the section, and the place of its name
    fileDword 0 ++ fileDword 0x1A0 ++ fileDword 16 ++ fileDword 0x18B ++ fileDword 8 ++
    fileDword 0x184 ++ List.replicate 32 0 ++
    [0x2E, 0x74, 0x68, 0x75, 0x6E, 0x6B, 0] ++ fileDword 10 ++ fileDword offset

/-- The example file is parsed and planned. -/
theorem oneImportFile_planned (offset : ℕ)
    (h : (plan (memorySource (oneImportFile offset))).toOption.isSome = true) :
    ∃ p xbe, plan (memorySource (oneImportFile offset)) = .ok p ∧
      XbeParser.parse (memorySource (oneImportFile offset)) = .ok xbe := by
  cases hplan : plan (memorySource (oneImportFile offset)) with
  | error e =>
    rw [hplan] at h
    cases h
  | ok p =>
    obtain ⟨xbe, hfrom⟩ := plan_ok hplan
    exact ⟨p, xbe, rfl, hfrom.parsed⟩

/-- The offset leaves room for the trampoline. -/
theorem loadsInPlace_oneImport : ∃ p xbe, plan (memorySource (oneImportFile 8)) = .ok p ∧
    XbeParser.parse (memorySource (oneImportFile 8)) = .ok xbe ∧
    LoadsInPlace (memorySource (oneImportFile 8)) xbe p := by
  obtain ⟨p, xbe, hplan, hparse⟩ := oneImportFile_planned 8 (by decide +kernel)
  refine ⟨p, xbe, hplan, hparse, (loadsInPlace_iff hplan hparse).2 ?_⟩
  have hsections : (XbeParser.parse (memorySource (oneImportFile 8))).toOption.all (fun xbe =>
      xbe.sections.all fun sec => sectionEntries (memorySource (oneImportFile 8)) sec = [(10, 8)] ∧
        sec.virtualSize = 16) = true := by
    decide +kernel
  rw [hparse] at hsections
  intro sec hsec _
  obtain ⟨hentries, hsize⟩ := of_decide_eq_true (List.all_eq_true.1 hsections sec hsec)
  exact ⟨by simp [hentries, hsize], by simp [hentries]⟩

/-- The offset leads out of the section and of the image. -/
theorem load_not_in_place : ∃ p xbe, plan (memorySource (oneImportFile 0x80)) = .ok p ∧
    XbeParser.parse (memorySource (oneImportFile 0x80)) = .ok xbe ∧
    ¬ LoadsInPlace (memorySource (oneImportFile 0x80)) xbe p := by
  obtain ⟨p, xbe, hplan, hparse⟩ := oneImportFile_planned 0x80 (by decide +kernel)
  refine ⟨p, xbe, hplan, hparse, ?_⟩
  intro hload
  -- In a kilobyte of memory the load succeeds, and the trampoline is written at `0x220`.
  let space : AddressSpace Unit := spaceAfter (fun _ => { data := fun _ => 0, size := 0x400 }) ()
    [.mapRam 0 0x400 0 0 (MemoryPermission.read.union .write)]
  have hwritten : (plan (memorySource (oneImportFile 0x80))).toOption.all (fun p =>
      p.baseAddress = 0 ∧ p.imageSize = 0x200 ∧
      (0x220, trampoline 10) ∈ (stateAfter ((applySteps p (memorySource (oneImportFile 0x80))).run
        { space := space })).written) = true := by
    decide +kernel
  rw [hplan] at hwritten
  obtain ⟨hbase, himage, hmem⟩ := of_decide_eq_true hwritten
  have hinside := (hload.confined Unit space).written _ hmem
  rw [planSpan, hbase, himage] at hinside
  revert hinside
  decide

end Xblob.Analysis
