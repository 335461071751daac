import Xblob.Analysis.LoadPlans
import Xblob.Computation.Stores

/-!
# A load that fails is taken back

The patches are an undo log: at every step of a load, putting them back would lead to the space
the load was begun in.  Saving a range adds an entry that undoes to the present space; writing
inside a saved range changes only what the entry of that range overwrites.  Whether a patch can
be put back is decided by its region, so it can be if anything in its range could be written.
-/

set_option autoImplicit false

namespace Xblob.Analysis

open Xblob.Computation Xblob.Interface Xblob.Io Xblob.Loader Xblob.Memory

variable {δ : Type} {origin space space' : AddressSpace δ} {l : Loading δ}

/-! ## Patches -/

/-- A patch is stored, or refused. -/
theorem putBack_eq (p : MemoryPatch) (space : AddressSpace δ) (hp : p.original ≠ []) :
    putBack p space = match blockAt space p.addr p.original.length .write with
      | some c => storedAt space c p.original
      | none => space := by
  obtain ⟨c, hblock, heq⟩ | ⟨hblock, e, heq⟩ := writeBytes_run space p.addr hp
  · rw [putBack, heq, hblock]
    rfl
  · rw [putBack, heq, hblock]
    rfl

/-- Putting nothing back changes nothing. -/
theorem putBack_nil {p : MemoryPatch} (space : AddressSpace δ) (hp : p.original = []) :
    putBack p space = space := by
  rw [putBack, hp]
  rfl

/-- Two spaces that differ at most in one stretch of one bank. -/
structure SameBut (origin : AddressSpace δ) (c : Cell) (n : ℕ) (space space' : AddressSpace δ) :
    Prop where
  regions : space.regions = origin.regions
  regions' : space'.regions = origin.regions
  devices : space'.devices = space.devices
  size : ∀ ram, (space'.rams ram).size = (space.rams ram).size
  data : ∀ ram pos, ¬ (ram = c.1 ∧ (Span.mk c.2 n).Holds pos) →
    (space'.rams ram).data pos = (space.rams ram).data pos

variable {c d : Cell} {n : ℕ}

/-- The same store keeps two memories the same but for a block. -/
theorem SameBut.storedAt (h : SameBut origin c n space space') (d : Cell) (bytes : List U8) :
    SameBut origin c n (storedAt space d bytes) (storedAt space' d bytes) := by
  refine ⟨h.regions, h.regions', h.devices, ?_, ?_⟩
  · intro ram
    rw [storedAt_size, storedAt_size]
    exact h.size ram
  · intro ram pos hout
    rw [storedAt_data, storedAt_data]
    split
    · rfl
    · exact h.data ram pos hout

/-- A patch is put back in both spaces or in none. -/
theorem SameBut.putBack (h : SameBut origin c n space space') (p : MemoryPatch) :
    SameBut origin c n (putBack p space) (putBack p space') := by
  by_cases hp : p.original = []
  · rw [putBack_nil space hp, putBack_nil space' hp]
    exact h
  · rw [putBack_eq p space hp, putBack_eq p space' hp, blockAt_congr h.regions,
      blockAt_congr h.regions']
    cases blockAt origin p.addr p.original.length .write with
    | none => exact h
    | some d => exact h.storedAt d p.original

/-- A patch over the whole stretch makes the two spaces one. -/
theorem SameBut.merge (h : SameBut origin c n space space') {p : MemoryPatch}
    (hp : p.original ≠ []) (hblock : blockAt origin p.addr p.original.length .write = some d)
    (hbank : c.1 = d.1) (hcover : (Span.mk c.2 n).Inside ⟨d.2, p.original.length⟩) :
    Loader.putBack p space = Loader.putBack p space' := by
  rw [putBack_eq p space hp, putBack_eq p space' hp, blockAt_congr h.regions,
    blockAt_congr h.regions', hblock]
  show Interface.storedAt space d p.original = Interface.storedAt space' d p.original
  symm
  apply space_ext
  · exact h.regions'.trans h.regions.symm
  · exact h.devices
  · intro ram
    rw [storedAt_size, storedAt_size]
    exact h.size ram
  · intro ram pos
    rw [storedAt_data, storedAt_data]
    split
    · rfl
    next hout =>
      apply h.data
      rintro ⟨hram, hpos⟩
      exact hout ⟨hram.trans hbank, hcover.holds hpos⟩

/-! ## What every step keeps -/

/-- A range that was saved: it is one block that can be read. -/
structure Saved (origin : AddressSpace δ) (p : MemoryPatch) : Prop where
  nonempty : p.original ≠ []
  short : p.original.length < 2 ^ 32
  block : ∃ c, blockAt origin p.addr p.original.length .read = some c

/-- The patches would lead back to where the load was begun. -/
structure Recoverable (origin : AddressSpace δ) (l : Loading δ) : Prop where
  regions : l.space.regions = origin.regions
  undone : rollbackPatches l.patches l.space = origin
  saved : ∀ p ∈ l.patches, Saved origin p

/-- Some patch has the addresses of the block. -/
def HasPatch (l : Loading δ) (addr : GuestAddr) (n : ℕ) : Prop :=
  ∃ p ∈ l.patches, (addrSpan addr n).Inside (addrSpan p.addr p.original.length)

/-- The patches of one load are those of the other and perhaps more. -/
def PatchesKept (l l' : Loading δ) : Prop := ∀ p ∈ l.patches, p ∈ l'.patches

/-- A patch that is kept is there later. -/
theorem HasPatch.kept {l' : Loading δ} {addr : GuestAddr} (h : HasPatch l addr n)
    (hkept : PatchesKept l l') : HasPatch l' addr n := by
  obtain ⟨p, hp, hinside⟩ := h
  exact ⟨p, hkept p hp, hinside⟩

/-- Saving a range. -/
theorem recoverable_backup (h : Recoverable origin l) (addr : GuestAddr) (size : GuestSize) :
    Ends (backupRange addr size) l
      (fun _ l' => Recoverable origin l' ∧ PatchesKept l l' ∧
        (size ≠ 0 → HasPatch l' addr size.toNat))
      (Recoverable origin) := by
  apply ends_backupRange
  · intro hsize
    exact ⟨h, fun p hp => hp, fun hne => absurd hsize hne⟩
  · intro c hsize hblock
    have hlength := length_bytesAt l.space c size.toNat
    have hsaved : Saved origin { addr := addr, original := bytesAt l.space c size.toNat } := by
      refine ⟨?_, ?_, c, ?_⟩
      · intro hnil
        have hzero := congrArg List.length hnil
        rw [hlength] at hzero
        exact hsize (BitVec.eq_of_toNat_eq hzero)
      · rw [hlength]
        exact size.isLt
      · rw [hlength, ← blockAt_congr h.regions]
        exact hblock
    have hback : putBack { addr := addr, original := bytesAt l.space c size.toNat } l.space =
        l.space := by
      rw [putBack_eq _ _ hsaved.nonempty]
      split
      next d hd =>
        rw [hlength] at hd
        rw [← blockAt_unique hblock hd]
        exact storedAt_bytesAt l.space c size.toNat
      · rfl
    refine ⟨⟨h.regions, ?_, ?_⟩, ?_, ?_⟩
    · exact (rollback_save hback).trans h.undone
    · intro p hp
      obtain hp | hp := List.mem_append.1 hp
      · exact h.saved p hp
      · rw [List.mem_singleton.1 hp]
        exact hsaved
    · intro p hp
      exact List.mem_append_left _ hp
    · intro _
      refine ⟨_, List.mem_append_right _ (List.mem_singleton_self _), ?_⟩
      rw [hlength]
      exact ⟨Nat.le_refl _, Nat.le_refl _⟩
  · exact h

/-! ## Writes -/

/-- Storing in a stretch of a bank changes nothing else. -/
theorem sameBut_stored (h : space.regions = origin.regions) (c : Cell) (bytes : List U8) :
    SameBut origin c bytes.length space (storedAt space c bytes) := by
  refine ⟨h, h, rfl, storedAt_size space c bytes, ?_⟩
  intro ram pos hout
  rw [storedAt_data, if_neg hout]

/-- Writing where a range was saved. -/
theorem recoverable_write (hmapped : Mapped origin) (h : Recoverable origin l) (addr : GuestAddr)
    (bytes : List U8) (hsaved : bytes = [] ∨ HasPatch l addr bytes.length) :
    Ends (writeRange addr bytes) l (fun _ l' => Recoverable origin l' ∧ PatchesKept l l')
      (Recoverable origin) := by
  apply ends_writeRange
  · intro _
    exact ⟨⟨h.regions, h.undone, h.saved⟩, fun p hp => hp⟩
  · intro d hbytes hblock
    obtain ⟨p, hp, hinside⟩ := hsaved.resolve_left hbytes
    obtain ⟨hne, hshort, c, hread⟩ := h.saved p hp
    rw [blockAt_congr h.regions] at hblock
    have hlength : 0 < bytes.length := List.length_pos_of_ne_nil hbytes
    obtain ⟨hwrite, hbank, hpos⟩ := blockAt_part hmapped hshort hlength hinside hread hblock
    have hcover : (Span.mk d.2 bytes.length).Inside ⟨c.2, p.original.length⟩ := by
      simp only [Span.Inside, Span.stop, addrSpan] at hinside ⊢
      omega
    refine ⟨⟨h.regions, ?_, h.saved⟩, fun p hp => hp⟩
    calc rollbackPatches l.patches (storedAt l.space d bytes)
        = rollbackPatches l.patches l.space := by
          symm
          exact rollback_eq (R := SameBut origin d bytes.length) (fun q _ _ _ hq => hq.putBack q)
            ⟨p, hp, fun _ _ hq => hq.merge hne hwrite hbank hcover⟩
            (sameBut_stored h.regions d bytes)
      _ = origin := h.undone
  · exact h

/-- A saved range does not reach past the last address. -/
theorem hasPatch_below (hmapped : Mapped origin) (h : Recoverable origin l) {addr : GuestAddr}
    (hpatch : HasPatch l addr n) : addr.toNat + n ≤ 0x100000000 := by
  obtain ⟨p, hp, hinside⟩ := hpatch
  obtain ⟨-, hshort, c, hread⟩ := h.saved p hp
  obtain ⟨reg, off, hreg, -⟩ := blockAt_some hread
  have hregion := hmapped.below reg (AddressSpace.resolveRegion_ok hreg).1
  have hblock := resolveRegion_inside hshort hreg
  simp only [Span.Inside, Span.stop, addrSpan] at hinside hblock hregion
  omega

/-! ## The sections -/

/-- The ranges of the sections were saved. -/
def SectionsPatched (l : Loading δ) (secs : List SectionPlan) : Prop :=
  ∀ sec ∈ secs, sec.virtualSize ≠ 0 → HasPatch l sec.virtualAddress sec.virtualSize.toNat

/-- Backing up the sections stays recoverable and has a patch for each. -/
theorem recoverable_backupSections (h : Recoverable origin l) (secs : List SectionPlan) :
    Ends (backupSections secs) l
      (fun _ l' => Recoverable origin l' ∧ PatchesKept l l' ∧ SectionsPatched l' secs)
      (Recoverable origin) := by
  induction secs generalizing l with
  | nil => exact ⟨h, fun p hp => hp, by simp [SectionsPatched]⟩
  | cons sec rest ih =>
    rw [backupSections, ends_bind]
    refine (recoverable_backup h sec.virtualAddress sec.virtualSize).mono ?_ fun _ h' => h'
    rintro - l₁ ⟨h₁, hkept₁, hpatch⟩
    refine (ih h₁).mono ?_ fun _ h' => h'
    rintro - l₂ ⟨h₂, hkept₂, hrest⟩
    refine ⟨h₂, fun p hp => hkept₂ p (hkept₁ p hp), ?_⟩
    intro sec' hsec' hne
    obtain rfl | hsec' := List.mem_cons.1 hsec'
    · exact (hpatch hne).kept hkept₂
    · exact hrest sec' hsec' hne

/-- A section that writes something has a range that is saved. -/
theorem section_nonempty {sec : SectionPlan} (hsec : SectionSaved sec)
    (hpos : 0 < sec.rawSize.toNat + sec.zeroFillSize.toNat) : sec.virtualSize ≠ 0 := by
  intro hzero
  have hsize : sec.virtualSize.toNat = 0 := by simp [hzero]
  unfold SectionSaved at hsec
  omega

/-- The raw bytes of a section go where its range was saved. -/
theorem recoverable_writeRaw (hmapped : Mapped origin) (h : Recoverable origin l)
    (source : ByteSource) {sec : SectionPlan} (hsec : SectionSaved sec)
    (hpatch : sec.virtualSize ≠ 0 → HasPatch l sec.virtualAddress sec.virtualSize.toNat) :
    Ends (writeRaw source sec) l (fun _ l' => Recoverable origin l' ∧ PatchesKept l l')
      (Recoverable origin) := by
  unfold writeRaw
  split
  next hraw =>
    rw [ends_bind]
    refine ends_readSource ?_ h
    intro data hdata
    have hlength := source.length_readAt hdata
    apply recoverable_write hmapped h
    have hpos : 0 < sec.rawSize.toNat := hraw
    obtain ⟨p, hp, hinside⟩ := hpatch (section_nonempty hsec (by omega))
    unfold SectionSaved at hsec
    refine .inr ⟨p, hp, ?_⟩
    simp only [Span.Inside, Span.stop, addrSpan] at hinside ⊢
    omega
  · exact ⟨h, fun p hp => hp⟩

/-- So do the zeroes. -/
theorem recoverable_writeZeroes (hmapped : Mapped origin) (h : Recoverable origin l)
    {sec : SectionPlan} (hsec : SectionSaved sec)
    (hpatch : sec.virtualSize ≠ 0 → HasPatch l sec.virtualAddress sec.virtualSize.toNat) :
    Ends (writeZeroes sec) l (fun _ l' => Recoverable origin l' ∧ PatchesKept l l')
      (Recoverable origin) := by
  unfold writeZeroes
  split
  next hzeroes =>
    apply recoverable_write hmapped h
    have hpos : 0 < sec.zeroFillSize.toNat := hzeroes
    have hsaved := hpatch (section_nonempty hsec (by omega))
    unfold SectionSaved at hsec
    have hbelow := hasPatch_below hmapped h hsaved
    obtain ⟨p, hp, hinside⟩ := hsaved
    -- The address of the zeroes does not wrap: they lie in the saved range.
    have haddr : (sec.virtualAddress + sec.rawSize).toNat =
        sec.virtualAddress.toNat + sec.rawSize.toNat := by
      rw [BitVec.toNat_add]
      omega
    refine .inr ⟨p, hp, ?_⟩
    simp only [Span.Inside, Span.stop, addrSpan, List.length_replicate] at hinside ⊢
    omega
  · exact ⟨h, fun p hp => hp⟩

/-- Writing sections that are backed up stays recoverable. -/
theorem recoverable_writeSections (hmapped : Mapped origin) (h : Recoverable origin l)
    (source : ByteSource) {secs : List SectionPlan} (hsecs : ∀ sec ∈ secs, SectionSaved sec)
    (hpatched : SectionsPatched l secs) :
    Ends (writeSections source secs) l (fun _ l' => Recoverable origin l')
      (Recoverable origin) := by
  induction secs generalizing l with
  | nil => exact h
  | cons sec rest ih =>
    have hsec := hsecs sec List.mem_cons_self
    have hpatch := hpatched sec List.mem_cons_self
    rw [writeSections, ends_bind]
    refine (recoverable_writeRaw hmapped h source hsec hpatch).mono ?_ fun _ h' => h'
    rintro - l₁ ⟨h₁, hkept₁⟩
    rw [ends_bind]
    refine (recoverable_writeZeroes hmapped h₁ hsec fun hne => (hpatch hne).kept hkept₁).mono ?_
      fun _ h' => h'
    rintro - l₂ ⟨h₂, hkept₂⟩
    apply ih h₂ fun sec' hsec' => hsecs sec' (List.mem_cons_of_mem _ hsec')
    intro sec' hsec' hne
    exact ((hpatched sec' (List.mem_cons_of_mem _ hsec') hne).kept hkept₁).kept hkept₂

/-! ## The trampolines -/

/-- Writing the thunks stays recoverable. -/
theorem recoverable_writeThunks (hmapped : Mapped origin) (h : Recoverable origin l)
    (thunks : List ImportThunkPlan) :
    Ends (writeThunks thunks) l (fun _ l' => Recoverable origin l') (Recoverable origin) := by
  induction thunks generalizing l with
  | nil => exact h
  | cons thunk rest ih =>
    rw [writeThunks, ends_bind]
    refine (recoverable_backup h thunk.thunkAddress 8).mono ?_ fun _ h' => h'
    rintro - l₁ ⟨h₁, -, hpatch⟩
    rw [ends_bind]
    refine (recoverable_write hmapped h₁ _ _ (.inr (hpatch (by simp)))).mono ?_ fun _ h' => h'
    rintro - l₂ ⟨h₂, -⟩
    exact ih h₂

/-! ## The whole load -/

/-- The load starts recoverable. -/
theorem recoverable_begin (origin : AddressSpace δ) : Recoverable origin { space := origin } where
  regions := rfl
  undone := rfl
  saved := by simp

/-- The load stays recoverable to its end. -/
theorem recoverable_applySteps (hmapped : Mapped origin) {plan : XbeLoadPlan}
    (hplan : SavesSections plan) (source : ByteSource) :
    Ends (applySteps plan source) { space := origin } (fun _ l' => Recoverable origin l')
      (Recoverable origin) := by
  rw [applySteps, ends_bind]
  refine (recoverable_backup (recoverable_begin origin) plan.baseAddress plan.headersSize).mono ?_
    fun _ h' => h'
  rintro - l₁ ⟨h₁, -, hheaders⟩
  rw [ends_bind]
  refine (recoverable_backupSections h₁ plan.sections).mono ?_ fun _ h' => h'
  rintro - l₂ ⟨h₂, hkept₂, hpatched⟩
  rw [ends_bind]
  refine ends_readSource ?_ h₂
  intro headers hread
  have hlength := source.length_readAt hread
  have hsaved : headers = [] ∨ HasPatch l₂ plan.baseAddress headers.length := by
    by_cases hzero : plan.headersSize = 0
    · rw [hzero] at hlength
      exact .inl (List.eq_nil_of_length_eq_zero hlength)
    · rw [hlength]
      exact .inr ((hheaders hzero).kept hkept₂)
  rw [ends_bind]
  refine (recoverable_write hmapped h₂ _ _ hsaved).mono ?_ fun _ h' => h'
  rintro - l₄ ⟨h₄, hkept₄⟩
  rw [ends_bind]
  refine (recoverable_writeSections hmapped h₄ source hplan ?_).mono ?_ fun _ h' => h'
  · intro sec hsec hne
    exact (hpatched sec hsec hne).kept hkept₄
  · rintro - l₅ h₅
    exact recoverable_writeThunks hmapped h₅ plan.importThunks

/-- A load that fails leaves the address space as it was, wherever the sections of its plan fit
the ranges that are saved for them; and so they do in every plan that is made from a file. -/
theorem failed_load_restores (rams : ℕ → Ram) (devices : δ) (calls : List (MapCall δ)) :
    (∀ (plan : XbeLoadPlan) (source : ByteSource), SavesSections plan →
      ∀ (e : Error) (space' : AddressSpace δ),
        (apply plan source).run (spaceAfter rams devices calls) = .error e space' →
          space' = spaceAfter rams devices calls) ∧
    ∀ (source : ByteSource) (p : XbeLoadPlan), plan source = .ok p → SavesSections p := by
  refine ⟨?_, ?_⟩
  · intro plan source hplan e space' hrun
    have hmapped : Mapped (spaceAfter rams devices calls) :=
      mapped_foldl (mapped_blankSpace rams devices) calls
    obtain ⟨l, hsteps, rfl⟩ := loadApply_error hrun
    exact ((recoverable_applySteps hmapped hplan source).error hsteps).undone
  · intro source p hp
    obtain ⟨xbe, hfrom⟩ := plan_ok hp
    exact laidOut_savesSections hfrom.laidOut

/-- Memory of 64 bytes at address 0. -/
def lowMemory : List (MapCall Unit) := [.mapRam 0 64 0 0 (MemoryPermission.read.union .write)]

/-- A plan of four bytes of headers and one section, with an import outside the memory. -/
def strayImport (virtualSize rawSize zeroFillSize : GuestSize) : XbeLoadPlan where
  headersSize := 4
  imageSize := 64
  sections := [{ name := ".text", virtualAddress := 8, virtualSize, rawSize, zeroFillSize }]
  importThunks := [{ ordinal := 10, thunkAddress := 64 }]

/-- A section of eight bytes, of which four are in the file. -/
theorem failed_load_restores_strayImport :
    ∃ (e : Error) (space' : AddressSpace Unit),
      (apply (strayImport 8 4 4) (memorySource (List.replicate 8 0xAA))).run
        (spaceAfter (fun _ => { data := fun _ => 0, size := 64 }) () lowMemory) = .error e space' ∧
      space' = spaceAfter (fun _ => { data := fun _ => 0, size := 64 }) () lowMemory :=
  ⟨_, _, rfl, (failed_load_restores (fun _ => { data := fun _ => 0, size := 64 }) () lowMemory).1
    (strayImport 8 4 4) (memorySource (List.replicate 8 0xAA)) (by decide) _ _ rfl⟩

/-- A plan that no file gives: the section has more bytes in the file than addresses, and those
after its last address are not put back. -/
theorem load_not_restored : ¬ ∀ (plan : XbeLoadPlan) (source : ByteSource) (rams : ℕ → Ram)
    (calls : List (MapCall Unit)) (e : Error) (space' : AddressSpace Unit),
      (apply plan source).run (spaceAfter rams () calls) = .error e space' →
        ∀ ram pos, (space'.rams ram).data pos = ((spaceAfter rams () calls).rams ram).data pos := by
  intro h
  have hbyte := h (strayImport 4 8 0) (memorySource (List.replicate 8 0xAA))
    (fun _ => { data := fun _ => 0, size := 64 }) lowMemory _ _ rfl 0 12
  revert hbyte
  decide

end Xblob.Analysis
