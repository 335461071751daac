import Xblob.Analysis.PageAccess
import Xblob.Interface.MappedSpace

/-!
# Mapping keeps the regions in order

Both mapping functions check a range before they insert it: it is not empty, it ends at or
below 2^32, and it overlaps no region; a RAM range also lies inside its bank.  So the list
stays in order whatever is mapped, and an access that resolves has one region for all its
bytes.
-/

set_option autoImplicit false

namespace Xblob.Analysis

open Xblob.Computation Xblob.Memory Xblob.Memory.AddressSpace Xblob.Interface

variable {δ : Type} {space space' : AddressSpace δ}

/-! ## The checks -/

/-- A range that passes its check is not empty and ends within the address space. -/
theorem checkRange_ok {base : GuestAddr} {size : GuestSize}
    (h : checkRange base size = .ok ()) : 0 < size.toNat ∧
      base.toNat + size.toNat ≤ 0x100000000 := by
  unfold checkRange at h
  split_ifs at h with hzero hend
  have hpos : size.toNat ≠ 0 := by
    intro hsize
    apply hzero
    apply BitVec.eq_of_toNat_eq
    simpa using hsize
  omega

/-- A range that passes its check is apart from every region. -/
theorem checkOverlap_ok {base : GuestAddr} {size : GuestSize}
    (h : space.checkOverlap base size = .ok ()) :
    ∀ r ∈ space.regions, r.span.Apart ⟨base.toNat, size.toNat⟩ := by
  unfold checkOverlap at h
  split_ifs at h with hany
  intro r hmem
  by_contra hover
  apply hany
  refine List.any_eq_true.mpr ⟨r, hmem, ?_⟩
  simp only [Span.Apart, Span.Before, Span.stop, Region.span] at hover
  simp only [Region.overlaps, Bool.and_eq_true, decide_eq_true_eq]
  unfold Region.end
  omega

/-- A successful mapping has passed the checks and inserted one region. -/
theorem apply_ok {c : MapCall δ} (h : c.apply space = .ok space') : ∃ reg : Region δ,
    space' = { space with regions := insertSorted reg space.regions } ∧
    0 < reg.span.size ∧ reg.span.stop ≤ 0x100000000 ∧
    (∀ r ∈ space.regions, r.span.Apart reg.span) ∧
    ∀ ram off, reg.type = .ram ram off → off + reg.size.toNat ≤ (space.rams ram).size := by
  cases c with
  | mapRam base size ram ramOffset perms =>
    unfold MapCall.apply mapRam at h
    cases hrange : checkRange base size with
    | error e => simp [hrange, bind, Except.bind] at h
    | ok u =>
      obtain ⟨hpos, hend⟩ := checkRange_ok hrange
      by_cases hbank : ramOffset + size.toNat ≥ 0x10000000000000000 ∨
          ramOffset + size.toNat > (space.rams ram).size
      · simp [hrange, hbank, bind, Except.bind] at h
      · cases hover : space.checkOverlap base size with
        | error e => simp [hrange, hbank, hover, bind, Except.bind] at h
        | ok u =>
          simp only [hrange, hbank, hover, bind, Except.bind, if_false, Except.ok.injEq] at h
          refine ⟨_, h.symm, hpos, hend, checkOverlap_ok hover, ?_⟩
          intro ram' off htype
          cases htype
          dsimp only
          omega
  | mapMmio base size handler perms =>
    unfold MapCall.apply mapMmio at h
    cases hrange : checkRange base size with
    | error e => simp [hrange, bind, Except.bind] at h
    | ok u =>
      obtain ⟨hpos, hend⟩ := checkRange_ok hrange
      cases hover : space.checkOverlap base size with
      | error e => simp [hrange, hover, bind, Except.bind] at h
      | ok u =>
        simp only [hrange, hover, bind, Except.bind, Except.ok.injEq] at h
        refine ⟨_, h.symm, hpos, hend, checkOverlap_ok hover, ?_⟩
        intro ram off htype
        cases htype

/-! ## The region list -/

/-- Inserting by base keeps the order of the bases and the gaps between the regions. -/
theorem insertSorted_pairwise {reg : Region δ} {regions : List (Region δ)}
    (hpos : 0 < reg.span.size) (hnonempty : ∀ r ∈ regions, 0 < r.span.size)
    (hapart : ∀ r ∈ regions, r.span.Apart reg.span)
    (hregions : regions.Pairwise fun a b => a.span.Before b.span) :
    (insertSorted reg regions).Pairwise fun a b => a.span.Before b.span := by
  induction regions with
  | nil => exact List.pairwise_singleton _ _
  | cons r rs ih =>
    obtain ⟨hfirst, hrest⟩ := List.pairwise_cons.mp hregions
    have hr := hapart r List.mem_cons_self
    have hrpos := hnonempty r List.mem_cons_self
    simp only [Span.Apart, Span.Before, Span.stop, Region.span] at *
    unfold insertSorted
    split_ifs with hlt
    · rw [List.pairwise_cons]
      refine ⟨?_, hregions⟩
      intro r' hmem
      obtain rfl | hmem := List.mem_cons.mp hmem
      · omega
      · have := hfirst r' hmem
        omega
    · rw [List.pairwise_cons]
      constructor
      · intro r' hmem
        obtain rfl | hmem := mem_insertSorted hmem
        · omega
        · exact hfirst r' hmem
      · apply ih
        · exact fun r' hmem => hnonempty r' (List.mem_cons_of_mem _ hmem)
        · exact fun r' hmem => hapart r' (List.mem_cons_of_mem _ hmem)
        · exact hrest

/-- The regions of a mapped space lie one before the other. -/
theorem before_of_mapped (h : Mapped space) :
    space.regions.Pairwise fun a b => a.span.Before b.span := by
  refine (h.sorted.and h.apart).imp ?_
  intro a b hab
  simp only [Span.Apart, Span.Before, Span.stop, Region.span] at *
  omega

/-- A space without regions is mapped. -/
theorem mapped_blankSpace (rams : ℕ → Ram) (devices : δ) : Mapped (blankSpace rams devices) where
  sorted := List.Pairwise.nil
  nonempty := by simp [blankSpace]
  apart := List.Pairwise.nil
  below := by simp [blankSpace]
  backed := by simp [WellMapped, blankSpace]

/-- One more call of a mapping function. -/
theorem mapped_next (h : Mapped space) (c : MapCall δ) : Mapped (c.next space) := by
  unfold MapCall.next
  cases hc : c.apply space with
  | error e => exact h
  | ok space' =>
    obtain ⟨reg, rfl, hpos, hend, hapart, hbank⟩ := apply_ok hc
    have hnonempty : ∀ r ∈ insertSorted reg space.regions, 0 < r.span.size := by
      intro r hmem
      obtain rfl | hmem := mem_insertSorted hmem
      · exact hpos
      · exact h.nonempty r hmem
    have hbefore := insertSorted_pairwise hpos h.nonempty hapart (before_of_mapped h)
    refine ⟨?_, hnonempty, hbefore.imp .inl, ?_, ?_⟩
    · refine hbefore.imp_of_mem ?_
      intro a b ha _ hab
      have := hnonempty a ha
      simp only [Span.Before, Span.stop, Region.span] at *
      omega
    · intro r hmem
      obtain rfl | hmem := mem_insertSorted hmem
      · exact hend
      · exact h.below r hmem
    · intro r hmem ram off htype
      obtain rfl | hmem := mem_insertSorted hmem
      · exact hbank ram off htype
      · exact h.backed r hmem ram off htype

/-- Every list of calls keeps a space mapped. -/
theorem mapped_foldl (h : Mapped space) (calls : List (MapCall δ)) :
    Mapped (calls.foldl MapCall.next space) := by
  induction calls generalizing space with
  | nil => exact h
  | cons c calls ih => exact ih (mapped_next h c)

/-! ## Accesses -/

section Accesses

variable {a : Access} {r : Region δ}

/-- What an access may do to the banks and the region list. -/
structure Confines (a : Access) (r : Region δ) (space space' : AddressSpace δ) : Prop where
  regions : space'.regions = space.regions
  size : ∀ ram, (space'.rams ram).size = (space.rams ram).size
  outside : ∀ ram pos, ¬ a.InWindow r ram pos →
    (space'.rams ram).data pos = (space.rams ram).data pos

/-- A space with the same storage differs nowhere. -/
theorem confines_of_storage (h : space'.storage = space.storage) : Confines a r space space' := by
  have hregions : space'.regions = space.regions := congrArg Prod.fst h
  have hrams : space'.rams = space.rams := congrArg Prod.snd h
  constructor
  · exact hregions
  · intro ram
    rw [hrams]
  · intro ram pos _
    rw [hrams]

/-- Storing as many bytes as the access has into its window. -/
theorem confines_pokeBytes {ram off : ℕ} (htype : r.type = .ram ram off) (bytes : List U8)
    (hlen : bytes.length = a.width) : Confines a r space
      (space.setRam ram ((space.rams ram).pokeBytes (ramPos r off a.addr) bytes)) := by
  constructor
  · rfl
  · intro i
    by_cases hi : i = ram
    · subst hi
      simp [setRam, pokeBytes_size]
    · simp [setRam, hi]
  · intro i pos hout
    by_cases hi : i = ram
    · subst hi
      simp only [setRam, Function.update_self]
      apply pokeBytes_data
      intro j hj hpos
      apply hout
      refine ⟨off, htype, ?_⟩
      simp only [Span.Holds, Span.stop]
      omega
    · simp [setRam, hi]

/-- An access that first resolves a region for all its bytes. -/
theorem reaches_or_refused (h : Mapped space) (len : GuestSize) (perm : MemoryPermission)
    (hlen : len.toNat = a.width)
    (hrefused : ∀ e, space.resolveRegion a.addr len perm = .error e →
      a.perform.run space = .error e space)
    (hresolved : ∀ r, space.resolveRegion a.addr len perm = .ok r →
      Confines a r space (stateAfter (a.perform.run space))) :
    (∃ r, a.Reaches space r) ∨ a.Refused space := by
  cases hres : space.resolveRegion a.addr len perm with
  | error e => exact .inr ⟨e, hrefused e hres⟩
  | ok r =>
    left
    obtain ⟨hmem, hrange, -⟩ := resolveRegion_ok hres
    have hinside : a.span.Inside r.span := by
      simp only [Region.containsRange, Bool.and_eq_true, decide_eq_true_eq] at hrange
      unfold Region.end at hrange
      simp only [Span.Inside, Span.stop, Access.span, Region.span]
      omega
    have hconfines := hresolved r hres
    refine ⟨r, hmem, hinside, ?_, ?_, hconfines.regions, hconfines.size, hconfines.outside⟩
    · intro r' hmem' x hx hx'
      exact Span.eq_of_holds h.apart hmem' hmem hx' (hinside.holds hx)
    · intro ram off htype
      have hbank := h.backed r hmem ram off htype
      simp only [Span.Inside, Span.stop, Access.span, Region.span] at hinside
      unfold ramPos
      omega

/-- A read or a fetch, which leaves every bank as it is. -/
theorem reads_reach (h : Mapped space) (len : GuestSize) (perm : MemoryPermission)
    (hlen : len.toNat = a.width)
    (hrefused : ∀ e, space.resolveRegion a.addr len perm = .error e →
      a.perform.run space = .error e space)
    (hkeeps : Keeps storage a.perform space) :
    (∃ r, a.Reaches space r) ∨ a.Refused space :=
  reaches_or_refused h len perm hlen hrefused fun _ _ => confines_of_storage hkeeps

/-- A value that is dropped changes nothing more. -/
theorem keeps_dropped {α : Type} {f : EStateM Error (AddressSpace δ) α}
    (h : Keeps storage f space) : Keeps storage (do let _ ← f) space :=
  h.bind fun _ s _ => (quiet_pure _ s).keeps _

/-- **An access**, by its width. -/
theorem access_settles (h : Mapped space) (a : Access) (hwidth : a.width < 2 ^ 32) :
    (a.width = 0 ∧ Quiet a.perform space) ∨ (∃ r, a.Reaches space r) ∨ a.Refused space := by
  have hlen : (BitVec.ofNat 32 a.width).toNat = a.width := by
    rw [BitVec.toNat_ofNat]
    exact Nat.mod_eq_of_lt hwidth
  cases a with
  | read8 addr =>
    right
    refine reads_reach h 1 .read rfl ?_ (keeps_dropped (keeps_read8 addr space))
    intro e he
    simp_all [Access.perform, Access.addr, AddressSpace.read8, EStateM.run_bind]
  | read16 addr =>
    right
    refine reads_reach h 2 .read rfl ?_ (keeps_dropped (keeps_read16 addr space))
    intro e he
    simp_all [Access.perform, Access.addr, AddressSpace.read16, EStateM.run_bind]
  | read32 addr =>
    right
    refine reads_reach h 4 .read rfl ?_ (keeps_dropped (keeps_read32 addr space))
    intro e he
    simp_all [Access.perform, Access.addr, AddressSpace.read32, EStateM.run_bind]
  | fetch8 addr =>
    right
    refine reads_reach h 1 .execute rfl ?_ (keeps_dropped ((quiet_fetch8 space addr).keeps _))
    intro e he
    simp_all [Access.perform, Access.addr, AddressSpace.fetch8, EStateM.run_bind]
  | fetchBytes addr n =>
    by_cases hn : n = 0
    · left
      refine ⟨hn, ?_⟩
      simp [Access.perform, AddressSpace.fetchBytes, hn, Quiet]
    · right
      refine reads_reach h (BitVec.ofNat 32 n) .execute hlen ?_ ?_
      · intro e he
        simp_all [Access.perform, Access.addr, AddressSpace.fetchBytes, EStateM.run_bind]
      · apply keeps_dropped
        unfold AddressSpace.fetchBytes
        rw [if_neg hn]
        refine keeps_resolved fun reg => ?_
        cases ht : reg.type with
        | ram ram off => exact (quiet_pure _ space).keeps _
        | mmio handler => exact (quiet_throw _ space).keeps _
  | readBytes addr n =>
    by_cases hn : n = 0
    · left
      refine ⟨hn, ?_⟩
      simp [Access.perform, AddressSpace.readBytes, hn, Quiet]
    · right
      refine reads_reach h (BitVec.ofNat 32 n) .read hlen ?_ ?_
      · intro e he
        simp_all [Access.perform, Access.addr, AddressSpace.readBytes, EStateM.run_bind]
      · apply keeps_dropped
        unfold AddressSpace.readBytes
        rw [if_neg hn]
        refine keeps_resolved fun reg => ?_
        cases ht : reg.type with
        | ram ram off => exact (quiet_pure _ space).keeps _
        | mmio handler => exact (quiet_throw _ space).keeps _
  | write8 addr value =>
    right
    refine reaches_or_refused h 1 .write rfl ?_ ?_
    · intro e he
      simp_all [Access.perform, Access.addr, AddressSpace.write8, EStateM.run_bind]
    · intro r hr
      simp only [Access.addr] at hr
      simp only [Access.perform, AddressSpace.write8, EStateM.run_bind, EStateM.run_get, hr,
        run_ofExcept]
      cases ht : r.type with
      | ram ram off =>
        dsimp only
        split_ifs with hbound
        · exact confines_of_storage rfl
        · exact confines_pokeBytes (a := .write8 addr value) ht [value] rfl
      | mmio handler => exact confines_of_storage (keeps_writeMmio handler r addr .byte _ space)
  | write16 addr value =>
    right
    refine reaches_or_refused h 2 .write rfl ?_ ?_
    · intro e he
      simp_all [Access.perform, Access.addr, AddressSpace.write16, EStateM.run_bind]
    · intro r hr
      simp only [Access.addr] at hr
      simp only [Access.perform, AddressSpace.write16, EStateM.run_bind, EStateM.run_get, hr,
        run_ofExcept]
      cases ht : r.type with
      | ram ram off =>
        exact confines_pokeBytes (a := .write16 addr value) ht [byteOf value 0, byteOf value 1] rfl
      | mmio handler => exact confines_of_storage (keeps_writeMmio handler r addr .word _ space)
  | write32 addr value =>
    right
    refine reaches_or_refused h 4 .write rfl ?_ ?_
    · intro e he
      simp_all [Access.perform, Access.addr, AddressSpace.write32, EStateM.run_bind]
    · intro r hr
      simp only [Access.addr] at hr
      simp only [Access.perform, AddressSpace.write32, EStateM.run_bind, EStateM.run_get, hr,
        run_ofExcept]
      cases ht : r.type with
      | ram ram off =>
        exact confines_pokeBytes (a := .write32 addr value) ht
          [byteOf value 0, byteOf value 1, byteOf value 2, byteOf value 3] rfl
      | mmio handler => exact confines_of_storage (keeps_writeMmio handler r addr .dword _ space)
  | writeBytes addr src =>
    by_cases hsrc : src = []
    · left
      subst hsrc
      exact ⟨rfl, by simp [Access.perform, AddressSpace.writeBytes, Quiet]⟩
    · right
      refine reaches_or_refused h (BitVec.ofNat 32 src.length) .write hlen ?_ ?_
      · intro e he
        simp_all [Access.perform, Access.addr, AddressSpace.writeBytes, EStateM.run_bind]
      · intro r hr
        simp only [Access.addr] at hr
        simp only [Access.perform, AddressSpace.writeBytes, hsrc, if_false, EStateM.run_bind,
          EStateM.run_get, hr, run_ofExcept]
        cases ht : r.type with
        | ram ram off => exact confines_pokeBytes (a := .writeBytes addr src) ht src rfl
        | mmio handler => exact confines_of_storage rfl

end Accesses

/-- **Mapping.**  After any calls of the mapping functions the regions are in order, and one
more call that is refused leaves them so; every access then goes to one region with a window
inside its bank, or fails with everything as it was.  A span access of no bytes does nothing. -/
theorem mapped_space (rams : ℕ → Ram) (devices : δ) (calls : List (MapCall δ)) :
    Mapped (spaceAfter rams devices calls) ∧
    (∀ (c : MapCall δ) (e : Error), c.apply (spaceAfter rams devices calls) = .error e →
      c.next (spaceAfter rams devices calls) = spaceAfter rams devices calls) ∧
    ∀ a : Access, a.width < 2 ^ 32 →
      (a.width = 0 ∧ Quiet a.perform (spaceAfter rams devices calls)) ∨
      (∃ r, a.Reaches (spaceAfter rams devices calls) r) ∨
      a.Refused (spaceAfter rams devices calls) := by
  have hmapped : Mapped (spaceAfter rams devices calls) :=
    mapped_foldl (mapped_blankSpace rams devices) calls
  refine ⟨hmapped, ?_, fun a hwidth => access_settles hmapped a hwidth⟩
  intro c e hc
  unfold MapCall.next
  rw [hc]

end Xblob.Analysis
