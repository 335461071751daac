import Xblob.Computation.Generations
import Xblob.Interface.Handles

/-!
# The two handle tables keep the law of handles

Both tables are tables of generations: the slots of each, seen as such, go through the
same takings and freeings, and the record of names carries over to handles as long as
indices fit into 16 bits.  At the end of the generations the law is broken, which a run on
a single slot shows.
-/

set_option autoImplicit false

namespace Xblob.Analysis

open Xblob.Computation Xblob.Interface

/-! ## Packing -/

section Packing

open Xblob.Kernel

/-- A handle as a number: the generation above the index. -/
theorem toNat_encodeHandle (i g : U16) : (encodeHandle i g).toNat = g.toNat * 65536 + i.toNat := by
  unfold encodeHandle
  have hi := i.isLt
  have hg := g.isLt
  rw [BitVec.toNat_or, BitVec.toNat_shiftLeft, BitVec.toNat_setWidth, BitVec.toNat_setWidth,
    Nat.mod_eq_of_lt (by omega : g.toNat < 2 ^ 32), Nat.mod_eq_of_lt (by omega : i.toNat < 2 ^ 32),
    Nat.shiftLeft_eq, Nat.mod_eq_of_lt (by omega : g.toNat * 2 ^ 16 < 2 ^ 32)]
  rw [← Nat.shiftLeft_eq, ← Nat.shiftLeft_add_eq_or_of_lt hi, Nat.shiftLeft_eq]

/-- The index is the low half. -/
theorem toNat_getHandleIndex (h : GuestHandle) : (getHandleIndex h).toNat = h.toNat % 65536 := by
  unfold getHandleIndex
  rw [BitVec.toNat_setWidth, BitVec.toNat_and]
  change (h.toNat &&& 2 ^ 16 - 1) % 65536 = _
  rw [Nat.and_two_pow_sub_one_eq_mod]
  omega

/-- The generation is the high half. -/
theorem toNat_getHandleGeneration (h : GuestHandle) :
    (getHandleGeneration h).toNat = h.toNat / 65536 := by
  unfold getHandleGeneration
  rw [BitVec.toNat_setWidth, BitVec.toNat_and, BitVec.toNat_ushiftRight, Nat.shiftRight_eq_div_pow]
  change (h.toNat / 65536 &&& 2 ^ 16 - 1) % 65536 = _
  rw [Nat.and_two_pow_sub_one_eq_mod]
  have := h.isLt
  omega

/-- The index of an encoded handle. -/
theorem getHandleIndex_encodeHandle (i g : U16) : getHandleIndex (encodeHandle i g) = i := by
  apply BitVec.eq_of_toNat_eq
  rw [toNat_getHandleIndex, toNat_encodeHandle]
  have := i.isLt
  omega

/-- The generation of an encoded handle. -/
theorem getHandleGeneration_encodeHandle (i g : U16) :
    getHandleGeneration (encodeHandle i g) = g := by
  apply BitVec.eq_of_toNat_eq
  rw [toNat_getHandleGeneration, toNat_encodeHandle]
  have := i.isLt
  omega

/-- A handle is encoded from its parts. -/
theorem encodeHandle_parts (h : GuestHandle) :
    encodeHandle (getHandleIndex h) (getHandleGeneration h) = h := by
  apply BitVec.eq_of_toNat_eq
  rw [toNat_encodeHandle, toNat_getHandleIndex, toNat_getHandleGeneration]
  omega

/-- The handle of a name. -/
def handleOf (name : ℕ × U16) : GuestHandle := encodeHandle (BitVec.ofNat 16 name.1) name.2

/-- An index within the table fits in its half. -/
theorem toNat_index {i : ℕ} (hi : i < indexCount) : (BitVec.ofNat 16 i).toNat = i := by
  rw [BitVec.toNat_ofNat]
  exact Nat.mod_eq_of_lt hi

/-- Handles tell their index and generation. -/
theorem handleOf_inj (m n : ℕ × U16) (hm : m.1 < indexCount) (hn : n.1 < indexCount)
    (h : handleOf m = handleOf n) : m = n := by
  have hindex := congrArg getHandleIndex h
  have hgen := congrArg getHandleGeneration h
  unfold handleOf at hindex hgen
  rw [getHandleIndex_encodeHandle, getHandleIndex_encodeHandle] at hindex
  rw [getHandleGeneration_encodeHandle, getHandleGeneration_encodeHandle] at hgen
  have hnat := congrArg BitVec.toNat hindex
  rw [toNat_index hm, toNat_index hn] at hnat
  exact Prod.ext hnat hgen

/-- The index of a handle of the table. -/
theorem getHandleIndex_handleOf {i : ℕ} (hi : i < indexCount) (g : U16) :
    (getHandleIndex (handleOf (i, g))).toNat = i := by
  unfold handleOf
  rw [getHandleIndex_encodeHandle]
  exact toNat_index hi

/-- The generation of a handle of the table. -/
theorem getHandleGeneration_handleOf (name : ℕ × U16) :
    getHandleGeneration (handleOf name) = name.2 := by
  unfold handleOf
  exact getHandleGeneration_encodeHandle _ _

end Packing

/-! ## The kernel's table -/

namespace KernelTable

open Xblob.Kernel Xblob.Kernel.HandleTable

/-- The generations of the kernel's slots: 1, 2, and so on, 0 last. -/
def generations : Generations U16 where
  first := 1
  next := fun g => g + 1
  age := fun g => (g - 1).toNat
  next_age := by
    intro g hg
    have hne : g ≠ 0 := by
      rintro rfl
      exact hg rfl
    have hpos : 0 < g.toNat := by
      rw [Nat.pos_iff_ne_zero]
      intro hzero
      exact hne (BitVec.eq_of_toNat_eq hzero)
    rw [BitVec.add_sub_cancel]
    have hone : (1 : U16) ≤ g := by
      rw [BitVec.le_def]
      exact hpos
    rw [BitVec.toNat_sub_of_le hone]
    change g.toNat - 1 < g.toNat
    omega

/-- A slot of the table as a slot of a table of generations. -/
def view (s : Slot) : GenSlot U16 (HandleType × U32) :=
  ⟨s.entry.generation, s.inUse, (s.entry.type, s.entry.objectId)⟩

/-- What a slot stands for: the kind of an object and its place. -/
def objectOf (content : HandleType × U32) : HandleType × ℕ := (content.1, content.2.toNat)

/-- An entry of the record, of the object its kind. -/
def entryOf (x : GuestHandle × KernelObject × ℕ) : GuestHandle × HandleType × ℕ :=
  (x.1, x.2.1.type, x.2.2)

/-- Handles as names of slots. -/
def packing : Packing U16 GuestHandle := ⟨handleOf, indexCount, handleOf_inj⟩

/-- Two entries of the record are not for one object. -/
def Apart (x y : GuestHandle × KernelObject × ℕ) : Prop :=
  x.2.1.type = y.2.1.type → x.2.1.type ≠ .thread → x.2.2 ≠ y.2.2

/-- The record of a run fits the slots, no open handle is the invalid one, and the objects
recorded are where they were made, each at a place of its own. -/
structure Tracked (r : HandleRun) : Prop where
  slots : GenSlot.Tracked generations packing objectOf (fun name => handleOf name ≠ kInvalidHandle)
    (r.table.slots.map view) (r.opened.map entryOf) r.closed
  objects : ∀ x ∈ r.opened, x.2.1.At r.table x.2.2
  apart : r.opened.Pairwise Apart

/-- The empty table is tracked. -/
theorem tracked_empty : Tracked {} := by
  refine ⟨GenSlot.tracked_nil, ?_, List.Pairwise.nil⟩
  intro x hx
  cases hx

/-- Taking a slot leaves the objects alone. -/
theorem at_allocateSlot (o : KernelObject) (t : HandleTable) (type : HandleType) (objectId : U32)
    (place : ℕ) : o.At (t.allocateSlot type objectId).2 place ↔ o.At t place := by
  unfold allocateSlot
  cases t.slots.findIdx? fun s => !s.inUse <;> cases o <;> rfl

/-- The first free slot, in the words of the table. -/
theorem firstFree_view (slots : List Slot) :
    GenSlot.firstFree (slots.map view) = slots.findIdx? fun s => !s.inUse := by
  unfold GenSlot.firstFree
  rw [List.findIdx?_map]
  rfl

/-- An allocation takes a slot. -/
theorem allocateSlot_view (t : HandleTable) (type : HandleType) (objectId : U32) :
    (t.allocateSlot type objectId).2.slots.map view =
        (GenSlot.take generations (type, objectId) (t.slots.map view)).2 ∧
      (t.allocateSlot type objectId).1 =
        handleOf (GenSlot.take generations (type, objectId) (t.slots.map view)).1 := by
  unfold allocateSlot GenSlot.take
  rw [firstFree_view]
  cases hfree : t.slots.findIdx? fun s => !s.inUse with
  | some i =>
    rw [← firstFree_view] at hfree
    obtain ⟨s, hs, -⟩ := GenSlot.firstFree_some hfree
    rw [List.getElem?_map] at hs
    cases hslot : t.slots[i]? with
    | none =>
      rw [hslot] at hs
      cases hs
    | some s' =>
      refine ⟨?_, ?_⟩
      · apply GenSlot.map_modify
        intro s hs
        rfl
      · unfold handleOf
        dsimp only
        rw [List.getElem?_map, hslot, List.getD_eq_getElem?_getD, hslot]
        rfl
  | none =>
    refine ⟨?_, ?_⟩
    · rw [List.map_append]
      rfl
    · unfold handleOf
      rw [List.length_map]
      rfl

/-- A handle is accepted where its slot is in use with its generation. -/
theorem validateSlotOnly_ok_iff {t : HandleTable} {h : GuestHandle} {i : ℕ} {s : Slot} :
    t.validateSlotOnly h = .ok (i, s) ↔
      h ≠ kInvalidHandle ∧ i = (getHandleIndex h).toNat ∧ t.slots[i]? = some s ∧
        s.inUse = true ∧ s.entry.generation = getHandleGeneration h := by
  unfold validateSlotOnly
  by_cases hinv : h = kInvalidHandle
  · simp [hinv]
  · rw [if_neg hinv]
    dsimp only
    cases hs : t.slots[(getHandleIndex h).toNat]? with
    | none =>
      constructor
      · intro hok
        cases hok
      · rintro ⟨-, rfl, hsome, -⟩
        rw [hs] at hsome
        cases hsome
    | some s' =>
      dsimp only
      by_cases hfit : s'.inUse = true ∧ s'.entry.generation = getHandleGeneration h
      · rw [if_neg (by simp [hfit.1, hfit.2])]
        constructor
        · intro hok
          cases hok
          exact ⟨hinv, rfl, hs, hfit⟩
        · rintro ⟨-, rfl, hsome, -⟩
          rw [hs] at hsome
          cases hsome
          rfl
      · rw [if_pos (by
          by_contra hno
          apply hfit
          simpa using hno)]
        constructor
        · intro hok
          cases hok
        · rintro ⟨-, rfl, hsome, huse⟩
          rw [hs] at hsome
          cases hsome
          exact absurd huse hfit

/-- The handle of a slot in use is accepted. -/
theorem validateSlotOnly_handleOf {t : HandleTable} {i : ℕ} {g : U16} {s : Slot}
    (hi : i < indexCount) (hvalid : handleOf (i, g) ≠ kInvalidHandle) (hs : t.slots[i]? = some s)
    (huse : s.inUse = true) (hgen : s.entry.generation = g) :
    t.validateSlotOnly (handleOf (i, g)) = .ok (i, s) := by
  rw [validateSlotOnly_ok_iff, getHandleIndex_handleOf hi, getHandleGeneration_handleOf]
  exact ⟨hvalid, rfl, hs, huse, hgen⟩

variable {r : HandleRun}

/-- The law is read off the record. -/
theorem Tracked.lawful (h : Tracked r) : r.Lawful := by
  refine ⟨?_, ?_, h.apart, ?_⟩
  · have hdistinct := h.slots.distinct
    rw [List.map_map] at hdistinct
    exact hdistinct
  · intro handle object place hopen
    refine ⟨?_, h.objects _ hopen⟩
    have hmem : (handle, object.type, place) ∈ r.opened.map entryOf :=
      List.mem_map.mpr ⟨_, hopen, rfl⟩
    obtain ⟨i, g, content, hi, hvalid, rfl, hobject, hslot⟩ := h.slots.open_slot hmem
    rw [List.getElem?_map] at hslot
    obtain ⟨s, hs, hview⟩ := Option.map_eq_some_iff.mp hslot
    have hok : r.table.validateSlotOnly (handleOf (i, g)) = .ok (i, s) :=
      validateSlotOnly_handleOf hi hvalid hs (congrArg GenSlot.used hview)
        (congrArg GenSlot.generation hview)
    have hcontent : (s.entry.type, s.entry.objectId) = content := congrArg GenSlot.content hview
    subst hcontent
    obtain ⟨htype, rfl⟩ := Prod.mk.inj hobject
    rw [htype]
    change r.table.getObject (handleOf (i, g)) s.entry.type = _
    unfold getObject validateAndGetSlot
    rw [hok]
    dsimp only
    rw [if_neg (not_not.mpr rfl)]
    rfl
  · intro handle hmem
    obtain ⟨i, g, hi, rfl, hunfit⟩ := h.slots.closed_unfit hmem
    change r.table.isValidHandle (handleOf (i, g)) = false
    unfold isValidHandle
    cases hval : r.table.validateSlotOnly (handleOf (i, g)) with
    | error e => rfl
    | ok p =>
      obtain ⟨j, s⟩ := p
      obtain ⟨-, rfl, hs, huse, hgen⟩ := validateSlotOnly_ok_iff.mp hval
      rw [getHandleIndex_handleOf hi] at hs
      rw [getHandleGeneration_handleOf] at hgen
      have hview : (r.table.slots.map view)[i]? = some (view s) := by
        rw [List.getElem?_map, hs]
        rfl
      exact absurd hgen (hunfit (view s) hview huse)

/-- A handle of the first generation is not the invalid one. -/
theorem handleOf_first_valid (i : ℕ) : handleOf (i, 1) ≠ kInvalidHandle := by
  intro heq
  have hgen := congrArg getHandleGeneration heq
  rw [getHandleGeneration_handleOf] at hgen
  have hne : (1 : U16) ≠ getHandleGeneration kInvalidHandle := by decide
  exact hne hgen

/-- A table with room for a slot gives valid handles. -/
theorem roomy_of_slotRoom {t : HandleTable} (hroom : HandleRun.SlotRoom t) :
    GenSlot.Roomy generations packing (fun name => handleOf name ≠ kInvalidHandle)
      (t.slots.map view) := by
  unfold HandleRun.SlotRoom at hroom
  refine ⟨?_, ?_⟩
  · intro i s hfree hs
    rw [firstFree_view] at hfree
    rw [hfree] at hroom
    rw [List.getElem?_map] at hs
    obtain ⟨s', hs', rfl⟩ := Option.map_eq_some_iff.mp hs
    exact hroom s' hs'
  · intro hfree
    rw [firstFree_view] at hfree
    rw [hfree] at hroom
    rw [List.length_map]
    exact ⟨hroom, handleOf_first_valid _⟩

/-- An allocation with room: the objects made before are kept, and the new one has a place
that none of its kind had. -/
theorem Tracked.allocate (h : Tracked r) {t : HandleTable} (ht : t.slots = r.table.slots)
    (hroom : HandleRun.SlotRoom r.table) {o : KernelObject} {objectId : U32} {place : ℕ}
    (hplace : objectId.toNat = place) (hnew : o.At t place)
    (hkept : ∀ (o' : KernelObject) (p : ℕ), o'.At r.table p → o'.At t p ∧
      (o.type = o'.type → o.type ≠ .thread → place ≠ p)) :
    Tracked (r.issued (t.allocateSlot o.type objectId) o place) := by
  obtain ⟨hslots, hhandle⟩ := allocateSlot_view t o.type objectId
  rw [ht] at hslots hhandle
  refine ⟨?_, ?_, ?_⟩
  · change GenSlot.Tracked _ _ _ _ ((t.allocateSlot o.type objectId).2.slots.map view)
      (((t.allocateSlot o.type objectId).1, o.type, place) :: r.opened.map entryOf) r.closed
    rw [hslots, hhandle, ← hplace]
    exact h.slots.take (roomy_of_slotRoom hroom) (o.type, objectId)
  · intro x hx
    apply (at_allocateSlot _ _ _ _ _).mpr
    rcases List.mem_cons.mp hx with rfl | hx
    · exact hnew
    · exact (hkept _ _ (h.objects x hx)).1
  · refine List.pairwise_cons.mpr ⟨?_, h.apart⟩
    intro x hx
    exact (hkept _ _ (h.objects x hx)).2

/-- An object appended to those of its kind. -/
theorem getElem?_append_kept {σ : Type} {l : List σ} {p : ℕ} {s : σ} (h : l[p]? = some s) (a : σ) :
    (l ++ [a])[p]? = some s ∧ l.length ≠ p := by
  have hlt := (List.getElem?_eq_some_iff.mp h).1
  refine ⟨?_, Nat.ne_of_gt hlt⟩
  rw [List.getElem?_append_left hlt]
  exact h

/-- An object number that fits is itself. -/
theorem toNat_objectId {n : ℕ} (hn : n < objectCount) : (BitVec.ofNat 32 n).toNat = n := by
  rw [BitVec.toNat_ofNat]
  exact Nat.mod_eq_of_lt hn

/-- Closing a handle keeps the table tracked. -/
theorem Tracked.close (h : Tracked r) {handle : GuestHandle} {t : HandleTable}
    (hclose : r.table.closeHandle handle = .ok t) :
    Tracked
      { table := t
        opened := r.opened.filter fun entry => entry.1 ≠ handle
        closed := handle :: r.closed } := by
  unfold closeHandle at hclose
  cases hval : r.table.validateSlotOnly handle with
  | error e =>
    rw [hval] at hclose
    cases hclose
  | ok p =>
    obtain ⟨i, s⟩ := p
    rw [hval] at hclose
    cases hclose
    obtain ⟨-, hi, hs, huse, hgen⟩ := validateSlotOnly_ok_iff.mp hval
    have hhandle : handle = handleOf (i, s.entry.generation) := by
      unfold handleOf
      dsimp only
      rw [hgen, hi, BitVec.ofNat_toNat, BitVec.setWidth_eq]
      exact (encodeHandle_parts handle).symm
    have hview : (r.table.slots.map view)[i]? =
        some ⟨s.entry.generation, true, (s.entry.type, s.entry.objectId)⟩ := by
      rw [List.getElem?_map, hs, ← huse]
      rfl
    have hfreed : (r.table.slots.modify i fun s =>
        { s with
          inUse := false
          entry := { s.entry with type := .none, generation := s.entry.generation + 1 } }).map view =
        GenSlot.free generations (.none, s.entry.objectId) i (r.table.slots.map view) := by
      unfold GenSlot.free
      apply GenSlot.map_modify
      intro s' hs'
      rw [hs] at hs'
      cases hs'
      rw [hview]
      rfl
    refine ⟨?_, ?_, h.apart.sublist List.filter_sublist⟩
    · have hslots := h.slots.free hview (.none, s.entry.objectId)
      rw [← hfreed, List.filter_map] at hslots
      rw [hhandle]
      exact hslots
    · intro x hx
      have hobject := h.objects x (List.mem_filter.mp hx).1
      revert hobject
      cases x.2.1 <;> exact id

/-- A call with room. -/
theorem Tracked.call (h : Tracked r) {c : HandleCall} (hroom : HandleRun.HasRoom r.table c) :
    Tracked (r.call c) := by
  cases c with
  | allocateEvent manualReset initialState =>
    refine Tracked.allocate (o := .event _) h ?_ hroom.1 (toNat_objectId hroom.2)
      List.getElem?_concat_length ?_
    · rfl
    intro o' p hat
    cases o' with
    | event e => exact ⟨(getElem?_append_kept hat _).1, fun _ _ => (getElem?_append_kept hat e).2⟩
    | mutex | semaphore | timer | thread => exact ⟨hat, fun htype => nomatch htype⟩
  | allocateMutex initialOwner ownerTid =>
    refine Tracked.allocate (o := .mutex _) h ?_ hroom.1 (toNat_objectId hroom.2)
      List.getElem?_concat_length ?_
    · rfl
    intro o' p hat
    cases o' with
    | mutex m => exact ⟨(getElem?_append_kept hat _).1, fun _ _ => (getElem?_append_kept hat m).2⟩
    | event | semaphore | timer | thread => exact ⟨hat, fun htype => nomatch htype⟩
  | allocateSemaphore initialCount maxCount =>
    unfold HandleRun.call
    dsimp only
    cases halloc : r.table.allocateSemaphore initialCount maxCount with
    | error e => exact h
    | ok result =>
      unfold HandleTable.allocateSemaphore at halloc
      split_ifs at halloc
      cases halloc
      refine Tracked.allocate (o := .semaphore _) h ?_ hroom.1 (toNat_objectId hroom.2)
        List.getElem?_concat_length ?_
      · rfl
      intro o' p hat
      cases o' with
      | semaphore s =>
        exact ⟨(getElem?_append_kept hat _).1, fun _ _ => (getElem?_append_kept hat s).2⟩
      | event | mutex | timer | thread => exact ⟨hat, fun htype => nomatch htype⟩
  | allocateTimer type =>
    refine Tracked.allocate (o := .timer _) h ?_ hroom.1 (toNat_objectId hroom.2)
      List.getElem?_concat_length ?_
    · rfl
    intro o' p hat
    cases o' with
    | timer m => exact ⟨(getElem?_append_kept hat _).1, fun _ _ => (getElem?_append_kept hat m).2⟩
    | event | mutex | semaphore | thread => exact ⟨hat, fun htype => nomatch htype⟩
  | allocateThreadHandle tid =>
    refine Tracked.allocate (o := .thread tid) h rfl hroom rfl rfl ?_
    intro o' p hat
    exact ⟨hat, fun _ hne => absurd rfl hne⟩
  | closeHandle handle =>
    unfold HandleRun.call
    dsimp only
    cases hclose : r.table.closeHandle handle with
    | error e => exact h
    | ok t => exact h.close hclose

end KernelTable

/-! ## The table of the file system -/

namespace VfsTable

open Xblob.Vfs Xblob.Vfs.VfsHandleTable

variable {β ι : Type}

/-- No generation is zero. -/
theorem nextGeneration_ne_zero (g : U16) : nextGeneration g ≠ 0 := by
  unfold nextGeneration
  split_ifs with hzero
  · decide
  · exact hzero

/-- The generations of the file system's slots: 1 to 0xFFFF. -/
def generations : Generations U16 where
  first := 1
  next := nextGeneration
  age := BitVec.toNat
  next_age := by
    intro g hg
    unfold nextGeneration at hg ⊢
    by_cases hzero : g + 1 = 0
    · rw [if_pos hzero] at hg
      exact absurd rfl hg
    · rw [if_neg hzero]
      have hlt : g.toNat + 1 < 65536 := by
        by_contra hge
        apply hzero
        apply BitVec.eq_of_toNat_eq
        have hg := g.isLt
        rw [BitVec.toNat_add]
        change (g.toNat + 1) % 65536 = 0
        omega
      rw [BitVec.toNat_add]
      change g.toNat < (g.toNat + 1) % 65536
      omega

/-- What a slot holds. -/
abbrev Content (β ι : Type) := VfsNodeType × FileSlot β ι × DirSlot ι

/-- A slot of the table as a slot of a table of generations. -/
def view (s : HandleSlot β ι) : GenSlot U16 (Content β ι) :=
  ⟨s.generation, s.isOpen, (s.type, s.file, s.dir)⟩

/-- What a slot stands for. -/
def objectOf (content : Content β ι) : VfsObject β ι :=
  match content.1 with
  | .file => .file content.2.1
  | .directory => .dir content.2.2

/-- Handles as names of slots. -/
def packing : Packing U16 VfsHandle where
  pack := fun name => ⟨BitVec.ofNat 16 name.1, name.2⟩
  limit := indexCount
  inj := by
    intro m n hm hn h
    have hindex := congrArg (fun handle => handle.index.toNat) h
    dsimp only at hindex
    rw [toNat_index hm, toNat_index hn] at hindex
    exact Prod.ext hindex (congrArg VfsHandle.generation h)

/-- The record of a run fits the slots, and no generation is zero. -/
def Tracked (r : VfsRun β ι) : Prop :=
  GenSlot.Tracked generations packing objectOf (fun name => name.2 ≠ 0) (r.table.slots.map view)
    r.opened r.closed ∧ ∀ s ∈ r.table.slots, s.generation ≠ 0

/-- The first free slot, in the words of the table. -/
theorem firstFree_view (slots : List (HandleSlot β ι)) :
    GenSlot.firstFree (slots.map view) = slots.findIdx? fun s => !s.isOpen := by
  unfold GenSlot.firstFree
  rw [List.findIdx?_map]
  rfl

/-- A handle is accepted where its slot is open with its generation. -/
theorem openSlot_ok_iff {t : VfsHandleTable β ι} {h : VfsHandle} {stale : String}
    {s : HandleSlot β ι} : t.openSlot h stale = .ok s ↔ h.generation ≠ 0 ∧
      t.slots[h.index.toNat]? = some s ∧ s.isOpen = true ∧ s.generation = h.generation := by
  unfold openSlot VfsHandle.isValid
  by_cases hzero : h.generation = 0
  · simp [hzero]
  · rw [if_neg (by simpa using hzero)]
    cases hs : t.slots[h.index.toNat]? with
    | none => simp
    | some s' =>
      dsimp only
      by_cases hfit : s'.isOpen = true ∧ s'.generation = h.generation
      · rw [if_neg (by simp [hfit.1, hfit.2])]
        constructor
        · intro hok
          cases hok
          exact ⟨hzero, rfl, hfit⟩
        · rintro ⟨-, hsome, -⟩
          rw [Option.some.inj hsome]
      · rw [if_pos (by
          by_contra hno
          apply hfit
          simpa using hno)]
        constructor
        · intro hok
          cases hok
        · rintro ⟨-, hsome, huse⟩
          rw [← Option.some.inj hsome] at huse
          exact absurd huse hfit

variable {r : VfsRun β ι}

/-- The law is read off the record. -/
theorem Tracked.lawful (h : Tracked r) : r.Lawful := by
  obtain ⟨h, -⟩ := h
  refine ⟨h.distinct, ?_, ?_⟩
  · intro handle object hmem
    obtain ⟨i, g, content, hi, hvalid, rfl, rfl, hslot⟩ := h.open_slot hmem
    rw [List.getElem?_map] at hslot
    obtain ⟨s, hs, hview⟩ := Option.map_eq_some_iff.mp hslot
    have hok : ∀ stale, r.table.openSlot (packing.pack (i, g)) stale = .ok s := by
      intro stale
      rw [openSlot_ok_iff]
      refine ⟨hvalid, ?_, congrArg GenSlot.used hview, congrArg GenSlot.generation hview⟩
      change r.table.slots[(BitVec.ofNat 16 i).toNat]? = some s
      rw [toNat_index hi]
      exact hs
    have hcontent : (s.type, s.file, s.dir) = content := congrArg GenSlot.content hview
    subst hcontent
    unfold objectOf
    cases htype : s.type with
    | file =>
      change r.table.getFile _ = _
      unfold getFile
      rw [hok]
      dsimp only
      rw [if_neg (not_not.mpr htype)]
    | directory =>
      change r.table.getDir _ = _
      unfold getDir
      rw [hok]
      dsimp only
      rw [if_neg (not_not.mpr htype)]
  · intro handle hmem
    obtain ⟨i, g, hi, rfl, hunfit⟩ := h.closed_unfit hmem
    unfold getType
    cases hval : r.table.openSlot (packing.pack (i, g)) "Handle is stale or closed" with
    | error e => rfl
    | ok s =>
      obtain ⟨-, hs, huse, hgen⟩ := openSlot_ok_iff.mp hval
      change r.table.slots[(BitVec.ofNat 16 i).toNat]? = some s at hs
      rw [toNat_index hi] at hs
      have hview : (r.table.slots.map view)[i]? = some (view s) := by
        rw [List.getElem?_map, hs]
        rfl
      exact absurd hgen (hunfit (view s) hview huse)

/-- The last element modified. -/
theorem modify_append_end {σ : Type} (l : List σ) (s : σ) (f : σ → σ) :
    (l ++ [s]).modify l.length f = l ++ [f s] := by
  induction l with
  | nil => rfl
  | cons a l ih =>
    rw [List.cons_append, List.length_cons, List.modify_succ_cons, ih, List.cons_append]

/-- An allocation takes a slot. -/
theorem allocateSlot_view {t t' : VfsHandleTable β ι} {i : ℕ} (halloc : t.allocateSlot = .ok (i, t'))
    {fill : HandleSlot β ι → HandleSlot β ι} {content : Content β ι}
    (hfill : ∀ s, view (fill s) = ⟨s.generation, true, content⟩) :
    (t'.fillSlot i fill).2.slots.map view =
        (GenSlot.take generations content (t.slots.map view)).2 ∧
      (t'.fillSlot i fill).1 =
        packing.pack (GenSlot.take generations content (t.slots.map view)).1 := by
  unfold allocateSlot at halloc
  unfold fillSlot GenSlot.take
  rw [firstFree_view]
  cases hfree : t.slots.findIdx? fun s => !s.isOpen with
  | some j =>
    rw [hfree] at halloc
    cases halloc
    rw [← firstFree_view] at hfree
    obtain ⟨s, hs, -⟩ := GenSlot.firstFree_some hfree
    rw [List.getElem?_map] at hs
    obtain ⟨s', hs', -⟩ := Option.map_eq_some_iff.mp hs
    refine ⟨?_, ?_⟩
    · apply GenSlot.map_modify
      intro s _
      exact hfill s
    · dsimp only
      rw [List.getElem?_map, hs', List.getD_eq_getElem?_getD, hs']
      rfl
  | none =>
    rw [hfree] at halloc
    dsimp only at halloc
    split_ifs at halloc
    cases halloc
    refine ⟨?_, ?_⟩
    · dsimp only
      rw [modify_append_end, List.map_append, List.map_singleton, hfill]
      rfl
    · dsimp only
      rw [List.length_map, List.getD_eq_getElem?_getD, List.getElem?_concat_length]
      rfl

/-- A table with room for a slot gives valid handles. -/
theorem roomy_of_slotRoom {t t' : VfsHandleTable β ι} {i : ℕ} (hroom : VfsRun.SlotRoom t)
    (hzero : ∀ s ∈ t.slots, s.generation ≠ 0) (halloc : t.allocateSlot = .ok (i, t')) :
    GenSlot.Roomy generations packing (fun name => name.2 ≠ 0) (t.slots.map view) := by
  unfold VfsRun.SlotRoom at hroom
  unfold allocateSlot at halloc
  refine ⟨?_, ?_⟩
  · intro j s hfree hs
    rw [firstFree_view] at hfree
    rw [hfree] at hroom
    rw [List.getElem?_map] at hs
    obtain ⟨s', hs', rfl⟩ := Option.map_eq_some_iff.mp hs
    exact ⟨hroom s' hs', hzero s' (List.mem_of_getElem? hs')⟩
  · intro hfree
    rw [firstFree_view] at hfree
    rw [hfree] at hroom halloc
    dsimp only at hroom halloc
    split_ifs at halloc with hfull
    rw [List.length_map]
    refine ⟨hroom (Nat.lt_of_not_ge hfull), ?_⟩
    change (1 : U16) ≠ 0
    decide

/-- An element of a modified list is an old one, or a modified one. -/
theorem mem_modify {σ : Type} {l : List σ} {i : ℕ} {f : σ → σ} {s : σ} (h : s ∈ l.modify i f) :
    s ∈ l ∨ ∃ s' ∈ l, s = f s' := by
  obtain ⟨j, hj⟩ := List.mem_iff_getElem?.mp h
  rw [List.getElem?_modify] at hj
  obtain ⟨s', hs', hj⟩ := Option.map_eq_some_iff.mp hj
  have hmem := List.mem_of_getElem? hs'
  by_cases hij : i = j
  · rw [if_pos hij] at hj
    exact .inr ⟨s', hmem, hj.symm⟩
  · rw [if_neg hij] at hj
    rw [← hj]
    exact .inl hmem

/-- An allocation with room. -/
theorem Tracked.issued (h : Tracked r) (hroom : VfsRun.SlotRoom r.table) {i : ℕ}
    {t : VfsHandleTable β ι}
    (halloc : r.table.allocateSlot = .ok (i, t)) {fill : HandleSlot β ι → HandleSlot β ι}
    (content : Content β ι) (hfill : ∀ s, view (fill s) = ⟨s.generation, true, content⟩) :
    Tracked (r.issued (.ok (t.fillSlot i fill)) (objectOf content)) := by
  obtain ⟨h, hzero⟩ := h
  obtain ⟨hslots, hhandle⟩ := allocateSlot_view halloc hfill
  have hroomy := roomy_of_slotRoom hroom hzero halloc
  refine ⟨?_, ?_⟩
  · change GenSlot.Tracked _ _ _ _ ((t.fillSlot i fill).2.slots.map view)
      (((t.fillSlot i fill).1, objectOf content) :: r.opened) r.closed
    rw [hslots, hhandle]
    exact h.take hroomy content
  · have hold : ∀ s ∈ t.slots, s.generation ≠ 0 := by
      unfold allocateSlot at halloc
      cases hfree : r.table.slots.findIdx? fun s => !s.isOpen with
      | some j =>
        rw [hfree] at halloc
        cases halloc
        exact hzero
      | none =>
        rw [hfree] at halloc
        dsimp only at halloc
        split_ifs at halloc
        cases halloc
        intro s hs
        rcases List.mem_append.mp hs with hs | hs
        · exact hzero s hs
        · rw [List.mem_singleton.mp hs]
          change (1 : U16) ≠ 0
          decide
    intro s hs
    change s ∈ t.slots.modify i fill at hs
    rcases mem_modify hs with hs | ⟨s', hs', rfl⟩
    · exact hold s hs
    · have hgen : (fill s').generation = s'.generation := congrArg GenSlot.generation (hfill s')
      rw [hgen]
      exact hold s' hs'

/-- Closing a handle keeps the table tracked. -/
theorem Tracked.close (h : Tracked r) {handle : VfsHandle} {t : VfsHandleTable β ι}
    (hclose : r.table.close handle = .ok t) :
    Tracked
      { table := t
        opened := r.opened.filter fun entry => entry.1 ≠ handle
        closed := handle :: r.closed } := by
  obtain ⟨h, hzero⟩ := h
  unfold VfsHandleTable.close at hclose
  cases hval : r.table.openSlot handle "Handle is stale or already closed" with
  | error e =>
    rw [hval] at hclose
    cases hclose
  | ok s =>
    rw [hval] at hclose
    cases hclose
    obtain ⟨-, hs, huse, hgen⟩ := openSlot_ok_iff.mp hval
    have hhandle : packing.pack (handle.index.toNat, s.generation) = handle := by
      change VfsHandle.mk (BitVec.ofNat 16 handle.index.toNat) s.generation = handle
      rw [hgen, BitVec.ofNat_toNat, BitVec.setWidth_eq]
    have hview : (r.table.slots.map view)[handle.index.toNat]? =
        some ⟨s.generation, true, (s.type, s.file, s.dir)⟩ := by
      rw [List.getElem?_map, hs, ← huse]
      rfl
    have hfreed := h.free hview (s.type, {}, {})
    rw [hhandle] at hfreed
    refine ⟨?_, ?_⟩
    · have hslots : (r.table.slots.modify handle.index.toNat fun slot =>
          { slot with
            isOpen := false
            generation := nextGeneration slot.generation
            file := {}
            dir := {} }).map view =
          GenSlot.free generations (s.type, {}, {}) handle.index.toNat
            (r.table.slots.map view) := by
        unfold GenSlot.free
        apply GenSlot.map_modify
        intro s' hs'
        rw [hs] at hs'
        cases hs'
        rw [hview]
        rfl
      dsimp only
      rw [hslots]
      exact hfreed
    · intro s' hs'
      rcases mem_modify hs' with hs' | ⟨s'', -, rfl⟩
      · exact hzero s' hs'
      · exact nextGeneration_ne_zero _

/-- A call with room. -/
theorem Tracked.call (h : Tracked r) {c : VfsCall β ι} (hroom : VfsRun.HasRoom r.table c) :
    Tracked (r.call c) := by
  cases c with
  | allocateFile source mode info =>
    unfold VfsRun.call allocateFile
    cases source with
    | none => exact h
    | some source =>
      dsimp only
      cases halloc : r.table.allocateSlot with
      | error e => exact h
      | ok p =>
        apply Tracked.issued h hroom halloc
          (.file, { source := some source, position := 0, mode := mode, info := some info }, {})
        intro s
        rfl
  | allocateDir entries info =>
    unfold VfsRun.call allocateDir
    dsimp only
    cases halloc : r.table.allocateSlot with
    | error e => exact h
    | ok p =>
      apply Tracked.issued h hroom halloc
        (.directory, {}, { entries := entries, enumerationIndex := 0, info := some info })
      intro s
      rfl
  | close handle =>
    unfold VfsRun.call
    dsimp only
    cases hclose : r.table.close handle with
    | error e => exact h
    | ok t => exact h.close hclose

end VfsTable

/-! ## Both tables -/

/-- In every run of either table whose calls all have room, open handles are distinct, lead
to their objects, and closed handles are refused. -/
theorem handles_lawful (β ι : Type) :
    (∀ (cs : List HandleCall) (r : HandleRun), HandleRun.Runs cs {} r → r.Lawful) ∧
    (∀ (maxHandles : ℕ) (cs : List (VfsCall β ι)) (r : VfsRun β ι),
      VfsRun.Runs cs { table := { maxHandles := maxHandles } } r → r.Lawful) := by
  refine ⟨?_, ?_⟩
  · intro cs r hruns
    apply KernelTable.Tracked.lawful
    apply Runs.invariant _ hruns KernelTable.tracked_empty
    intro r c h hroom
    exact KernelTable.Tracked.call h hroom
  · intro maxHandles cs r hruns
    apply VfsTable.Tracked.lawful
    apply Runs.invariant _ hruns
    · refine ⟨GenSlot.tracked_nil, ?_⟩
      intro s hs
      cases hs
    · intro r c h hroom
      exact VfsTable.Tracked.call h hroom

/-- A slot freed and taken again, in both tables: the first handle is refused. -/
theorem handles_lawful_reopened :
    (HandleRun.Lawful
      ([.allocateEvent true false, .closeHandle 0x10000, .allocateThreadHandle 7].foldl
        HandleRun.call {})) ∧
    (VfsRun.Lawful (β := Unit) (ι := Unit)
      ([.allocateDir [] (), .close ⟨0, 1⟩, .allocateFile (some ()) .read ()].foldl
        VfsRun.call { table := { maxHandles := 1 } })) := by
  refine ⟨?_, ?_⟩
  · apply (handles_lawful Unit Unit).1
      [.allocateEvent true false, .closeHandle 0x10000, .allocateThreadHandle 7]
    refine .cons ⟨?_, ?_⟩ (.cons trivial (.cons ?_ (.nil _)))
    · change 0 < indexCount
      decide
    · decide
    · intro s hs
      cases hs
      decide
  · apply (handles_lawful Unit Unit).2 1
      [.allocateDir [] (), .close ⟨0, 1⟩, .allocateFile (some ()) .read ()]
    refine .cons ?_ (.cons trivial (.cons ?_ (.nil _)))
    · intro _
      decide
    · intro s hs
      cases hs
      decide

/-! ## The end of the generations -/

section WornOut

open Xblob.Kernel

/-- A handle to the thread is opened and closed, for each generation from the first. -/
def wear (rounds : ℕ) : List HandleCall :=
  (List.range rounds).flatMap fun k =>
    [.allocateThreadHandle 7, .closeHandle (encodeHandle 0 (1 + BitVec.ofNat 16 k))]

/-- One more round of wear. -/
theorem wear_succ (n : ℕ) : wear (n + 1) = wear n ++
    [.allocateThreadHandle 7, .closeHandle (encodeHandle 0 (1 + BitVec.ofNat 16 n))] := by
  unfold wear
  rw [List.range_succ, List.flatMap_append]
  rfl

/-- A table of one slot of the thread. -/
def oneSlot (type : HandleType) (g : U16) (inUse : Bool) : HandleTable :=
  { slots := [{ entry := { type := type, generation := g, objectId := 7 }, inUse := inUse }] }

/-- A free slot is taken with the generation it has. -/
theorem allocate_oneSlot (type : HandleType) (g : U16) :
    (oneSlot type g false).allocateThreadHandle 7 = (encodeHandle 0 g, oneSlot .thread g true) := rfl

/-- The handle of the one slot is accepted. -/
theorem validate_oneSlot (type : HandleType) (g : U16) :
    (oneSlot type g true).validateSlotOnly (encodeHandle 0 g) =
      .ok (0, { entry := { type := type, generation := g, objectId := 7 }, inUse := true }) := by
  rw [KernelTable.validateSlotOnly_ok_iff, getHandleIndex_encodeHandle,
    getHandleGeneration_encodeHandle]
  refine ⟨?_, rfl, rfl, rfl, rfl⟩
  intro heq
  have hindex := congrArg getHandleIndex heq
  rw [getHandleIndex_encodeHandle] at hindex
  have hne : (0 : U16) ≠ getHandleIndex kInvalidHandle := by decide
  exact hne hindex

/-- Closing the one slot counts its generation up. -/
theorem close_oneSlot (type : HandleType) (g : U16) :
    (oneSlot type g true).closeHandle (encodeHandle 0 g) = .ok (oneSlot .none (g + 1) false) := by
  unfold HandleTable.closeHandle
  rw [validate_oneSlot]
  rfl

/-- One round on the slot. -/
theorem call_round (r : HandleRun) (type : HandleType) (g : U16)
    (ht : r.table = oneSlot type g false) :
    ((r.call (.allocateThreadHandle 7)).call (.closeHandle (encodeHandle 0 g))).table =
        oneSlot .none (g + 1) false ∧
      ((r.call (.allocateThreadHandle 7)).call (.closeHandle (encodeHandle 0 g))).closed =
        encodeHandle 0 g :: r.closed := by
  have hopen : (r.call (.allocateThreadHandle 7)).table = oneSlot .thread g true := by
    unfold HandleRun.call HandleRun.issued
    dsimp only
    rw [ht, allocate_oneSlot]
  unfold HandleRun.call at hopen ⊢
  dsimp only at hopen ⊢
  rw [hopen, close_oneSlot]
  exact ⟨rfl, rfl⟩

/-- After any number of rounds the slot is free, with the generation of the next round. -/
theorem wear_table (n : ℕ) :
    ((wear (n + 1)).foldl HandleRun.call {}).table = oneSlot .none (2 + BitVec.ofNat 16 n) false ∧
      0x10000 ∈ ((wear (n + 1)).foldl HandleRun.call {}).closed := by
  induction n with
  | zero => exact ⟨by decide, by decide⟩
  | succ n ih =>
    obtain ⟨htable, hmem⟩ := ih
    have hgen : 1 + BitVec.ofNat 16 (n + 1) = 2 + BitVec.ofNat 16 n := by
      rw [BitVec.ofNat_add]
      bv_omega
    have hnext : 2 + BitVec.ofNat 16 n + 1 = 2 + BitVec.ofNat 16 (n + 1) := by
      rw [BitVec.ofNat_add]
      bv_omega
    obtain ⟨htable', hclosed'⟩ := call_round _ _ _ htable
    rw [wear_succ, List.foldl_append, List.foldl_cons, List.foldl_cons, List.foldl_nil, hgen,
      htable', hclosed', hnext]
    exact ⟨rfl, List.mem_cons_of_mem _ hmem⟩

/-- When the generation is back at its first value, a handle closed before is given out again. -/
theorem first_generation_returns {r : HandleRun} (ht : r.table = oneSlot .none 1 false)
    (hmem : 0x10000 ∈ r.closed) : ¬ (r.call (.allocateThreadHandle 7)).Lawful := by
  intro hlaw
  have hgone := hlaw.gone 0x10000 hmem
  unfold HandleRun.call HandleRun.issued at hgone
  dsimp only at hgone
  rw [ht, allocate_oneSlot] at hgone
  revert hgone
  decide

/-- A closed handle is accepted again, once all generations of its slot are used. -/
theorem closed_handle_returns :
    ¬ ((wear 65536 ++ [HandleCall.allocateThreadHandle 7]).foldl HandleRun.call {}).Lawful := by
  have hlast : ∀ n, 2 + BitVec.ofNat 16 n = 1 →
      ¬ ((wear (n + 1) ++ [HandleCall.allocateThreadHandle 7]).foldl HandleRun.call {}).Lawful := by
    intro n hn
    obtain ⟨htable, hmem⟩ := wear_table n
    rw [hn] at htable
    rw [List.foldl_append]
    exact first_generation_returns htable hmem
  exact hlast 65535 rfl

end WornOut

end Xblob.Analysis
