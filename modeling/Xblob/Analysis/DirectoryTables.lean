import Xblob.Computation.Ends
import Xblob.Interface.Volumes

/-!
# The walk through a directory table

A turn of the walk takes an offset from the stack, finds the entry there and puts the offsets it
links to on the stack.  So the turns of a whole walk visit the tree in preorder.  The walk ends
because every turn has an offset of its own and there are only `0x10000` of them.
-/

set_option autoImplicit false

namespace Xblob.Analysis

open Xblob.Computation Xblob.Formats Xblob.Interface Xblob.Io Xblob.Vfs

variable {t : DirectoryTable} {w w' : DirWalk} {item : WorkItem}

/-! ## Where the reads are -/

/-- A table lies in the image. -/
def TableFits (t : DirectoryTable) : Prop :=
  t.base.toNat + t.size.toNat ≤ t.source.size.toNat

/-- A checked sum is the sum where it fits. -/
theorem checkedAdd_eq {w : ℕ} (a b : BitVec w) :
    checkedAdd a b =
      if a.toNat + b.toNat ≤ (BitVec.allOnes w).toNat then some (a + b) else none := by
  have hb : b.toNat < 2 ^ w := b.isLt
  have hones : (BitVec.allOnes w).toNat = 2 ^ w - 1 := BitVec.toNat_allOnes
  unfold checkedAdd
  by_cases hfits : a.toNat + b.toNat ≤ (BitVec.allOnes w).toNat
  · rw [if_neg (by omega), if_pos hfits]
  · rw [if_pos (by omega), if_neg hfits]

/-- The range test, on numbers. -/
theorem rangeInBounds_iff {w : ℕ} {offset size total : BitVec w} :
    rangeInBounds offset size total = true ↔ offset.toNat + size.toNat ≤ total.toNat := by
  have htotal : total.toNat < 2 ^ w := total.isLt
  have hones : (BitVec.allOnes w).toNat = 2 ^ w - 1 := BitVec.toNat_allOnes
  unfold rangeInBounds
  rw [checkedAdd_eq]
  by_cases hfits : offset.toNat + size.toNat ≤ (BitVec.allOnes w).toNat
  · rw [if_pos hfits]
    dsimp only
    rw [decide_eq_true_iff, BitVec.le_def, BitVec.toNat_add, Nat.mod_eq_of_lt (by omega)]
  · rw [if_neg hfits]
    exact ⟨fun h => absurd h Bool.false_ne_true, fun h => by omega⟩

/-- A table that opens keeps to its source and fits in it. -/
theorem openTable_ok {source : ByteSource} {partitionBase : U64} {startingSector size : U32}
    {budget : XdvdfsBudgetConfig}
    (h : openTable source partitionBase startingSector size budget = .ok t) :
    t.source = source ∧ t.size = size ∧ t.budget = budget ∧ TableFits t := by
  unfold openTable at h
  split at h
  · cases h
  split at h
  · cases h
  split at h
  · cases h
  next base _ =>
    split at h
    · cases h
    next hrange =>
      cases h
      refine ⟨rfl, rfl, rfl, ?_⟩
      have hle := rangeInBounds_iff.1 (by simpa using hrange)
      rw [BitVec.toNat_setWidth_of_le (by omega)] at hle
      exact hle

/-- All reads of the walk were inside the table. -/
def ReadsInside (t : DirectoryTable) (w : DirWalk) : Prop :=
  ∀ read ∈ w.reads, (Span.mk read.1.toNat read.2).Inside ⟨t.base.toNat, t.size.toNat⟩

/-- An offset in dwords, in bytes. -/
theorem byteOffset_toNat (o : U16) : (DirectoryTable.byteOffset o).toNat = 4 * o.toNat := by
  have ho := o.isLt
  have hfour : (4 : U64).toNat = 4 := by simp
  rw [DirectoryTable.byteOffset, BitVec.toNat_mul, BitVec.toNat_setWidth, hfour]
  omega

/-- A read inside the table. -/
theorem ends_read (hfits : TableFits t) (hw : ReadsInside t w) {offset : U64} {n : ℕ}
    (hinside : offset.toNat + n ≤ t.size.toNat) :
    Ends (t.read offset n) w
      (fun bytes w' => t.source.readAt (t.base + offset) n = .ok bytes ∧ ReadsInside t w' ∧
        w' = { w with reads := w.reads ++ [(t.base + offset, n)] })
      (ReadsInside t) := by
  have hreads : ReadsInside t { w with reads := w.reads ++ [(t.base + offset, n)] } := by
    intro read hread
    obtain hread | hread := List.mem_append.1 hread
    · exact hw read hread
    · rw [List.mem_singleton.1 hread]
      have hsize := t.source.size.isLt
      unfold TableFits at hfits
      simp only [Span.Inside, Span.stop, BitVec.toNat_add]
      omega
  unfold DirectoryTable.read
  rw [ends_bind]
  cases hread : t.source.readAt (t.base + offset) n with
  | ok bytes => exact ⟨rfl, hreads, rfl⟩
  | error e => exact hreads

/-! ## The parts of a turn -/

/-- A comparison with the size of the table, in 64 bits. -/
theorem not_gt_size {x : U64} (h : ¬ x > t.size.setWidth 64) : x.toNat ≤ t.size.toNat := by
  have hle := BitVec.not_lt.1 h
  rw [BitVec.le_def, BitVec.toNat_setWidth_of_le (by omega)] at hle
  exact hle

/-- The end of the header of a record. -/
theorem header_offset (o : U16) :
    (DirectoryTable.byteOffset o + 14).toNat = 4 * o.toNat + 14 := by
  have ho := o.isLt
  have hconst : (14 : U64).toNat = 14 := by simp
  rw [BitVec.toNat_add, byteOffset_toNat, hconst]
  omega

/-- Entering a record checks depth and repetition, and notes the visit. -/
theorem ends_enter (hw : ReadsInside t w) :
    Ends (t.enter item) w
      (fun _ w' => item.depth ≤ t.budget.maxDepth ∧ item.dwordOffset ∉ w.visitedOffsets ∧
        (w.visitedOffsets ++ [item.dwordOffset]).length ≤ t.budget.maxEntriesPerDir ∧
        w' = { w with visitedOffsets := w.visitedOffsets ++ [item.dwordOffset] })
      (ReadsInside t) := by
  unfold DirectoryTable.enter
  split
  · exact hw
  next hdepth =>
    rw [ends_bind, ends_get]
    split
    · exact hw
    next hfresh =>
      rw [ends_bind, ends_set]
      split
      · exact hw
      next hcount =>
        refine ⟨by omega, ?_, by omega, rfl⟩
        intro hmem
        exact hfresh (List.any_eq_true.2 ⟨_, hmem, decide_eq_true rfl⟩)

/-- Reading the header of a record reads inside the table. -/
theorem ends_readHeader (hfits : TableFits t) (hw : ReadsInside t w) (o : U16) :
    Ends (t.readHeader (DirectoryTable.byteOffset o)) w
      (fun header w' => 4 * o.toNat + 14 ≤ t.size.toNat ∧ ReadsInside t w' ∧
        (∃ hdr, t.source.readAt (t.base + DirectoryTable.byteOffset o) 14 = .ok hdr ∧
          header = entryHeader hdr) ∧
        ∃ reads, w' = { w with reads := reads })
      (ReadsInside t) := by
  unfold DirectoryTable.readHeader
  split
  · exact hw
  next hsize =>
    have hle := not_gt_size hsize
    rw [header_offset] at hle
    rw [ends_bind]
    refine (ends_read hfits hw (by rw [byteOffset_toNat]; exact hle)).mono ?_ fun _ h => h
    rintro hdr w' ⟨hread, hw', rfl⟩
    exact ⟨hle, hw', ⟨hdr, hread, rfl⟩, _, rfl⟩

/-- A name that has a byte and none that is forbidden. -/
def PlainName (name : ByteString) : Prop :=
  name ≠ [] ∧ ∀ c ∈ name, DirectoryTable.isForbidden c = false

/-- Reading the name of a record reads inside the table and returns a plain name. -/
theorem ends_readName (hfits : TableFits t) (hw : ReadsInside t w) (o : U16) (nameLen : U8) :
    Ends (t.readName (DirectoryTable.byteOffset o) nameLen) w
      (fun name w' => 4 * o.toNat + 14 + nameLen.toNat ≤ t.size.toNat ∧ ReadsInside t w' ∧
        t.source.readAt (t.base + (DirectoryTable.byteOffset o + 14)) nameLen.toNat = .ok name ∧
        PlainName name ∧ ∃ reads, w' = { w with reads := reads })
      (ReadsInside t) := by
  unfold DirectoryTable.readName
  split
  · exact hw
  next hlength =>
    split
    · exact hw
    split
    · exact hw
    next hsize =>
      have hle := not_gt_size hsize
      have ho := o.isLt
      have hlen := nameLen.isLt
      rw [BitVec.toNat_add, header_offset, BitVec.toNat_setWidth_of_le (by omega)] at hle
      have hinside : 4 * o.toNat + 14 + nameLen.toNat ≤ t.size.toNat := by omega
      rw [ends_bind]
      refine (ends_read hfits hw (by rw [header_offset]; exact hinside)).mono ?_ fun _ h => h
      rintro name w' ⟨hread, hw', rfl⟩
      split
      · exact hw'
      next hallowed =>
        refine ⟨hinside, hw', hread, ⟨?_, by simpa using hallowed⟩, _, rfl⟩
        rintro rfl
        have hempty := t.source.length_readAt hread
        exact hlength (BitVec.eq_of_toNat_eq hempty.symm)

/-- Recording a name refuses one already seen. -/
theorem ends_recordName (hw : ReadsInside t w) (name : ByteString) :
    Ends (DirectoryTable.recordName name) w
      (fun _ w' => toLowerAscii name ∉ w.seenNames ∧
        w' = { w with seenNames := w.seenNames ++ [toLowerAscii name] })
      (ReadsInside t) := by
  unfold DirectoryTable.recordName
  rw [ends_bind, ends_get]
  split
  · exact hw
  next hfresh =>
    refine ⟨?_, rfl⟩
    intro hmem
    exact hfresh (List.any_eq_true.2 ⟨_, hmem, decide_eq_true rfl⟩)

/-- The offset of a sector, where it fits. -/
theorem sectorOffset_ok {partitionBase offset : U64} {sector : U32} {message message' : String}
    (h : sectorOffset partitionBase sector message message' = .ok offset) :
    offset = partitionBase + sector.setWidth 64 * kXdvdfsSectorSize := by
  unfold sectorOffset at h
  split at h
  · cases h
  next product hproduct =>
    unfold checkedMul at hproduct
    split at hproduct
    · cases hproduct
    · split at h
      · cases h
      next total htotal =>
        unfold checkedAdd at htotal
        split at htotal
        · cases htotal
        · cases hproduct
          cases htotal
          cases h
          rfl

/-- Adding an entry lists it last. -/
theorem ends_addEntry (hw : ReadsInside t w) (r : DirRecord) :
    Ends (t.addEntry r.header r.name) w
      (fun _ w' => w' = { w with entries := w.entries ++ [listedEntry t r] })
      (ReadsInside t) := by
  unfold DirectoryTable.addEntry
  split
  · exact hw
  next offset hoffset =>
    rw [sectorOffset_ok hoffset]
    rfl

/-- Pushing a child puts it on the stack, one level deeper. -/
theorem ends_pushChild (hw : ReadsInside t w) (child : U16) (depth : ℕ) (message : String) :
    Ends (t.pushChild child depth message) w
      (fun _ w' => w' = { w with stack :=
        ((childLink child).toList.map fun o => WorkItem.mk o (depth + 1)) ++ w.stack })
      (ReadsInside t) := by
  unfold DirectoryTable.pushChild
  split
  next hchild =>
    split
    · exact hw
    · rw [childLink, if_pos hchild]
      rfl
  next hchild =>
    rw [childLink, if_neg hchild]
    rfl

/-! ## A turn -/

/-- The items for offsets and their depths. -/
def workItems (pending : List (U16 × ℕ)) : List WorkItem :=
  pending.map fun o => WorkItem.mk o.1 o.2

/-- A turn that is not refused has come to an entry. -/
structure Turned (t : DirectoryTable) (item : WorkItem) (w w' : DirWalk) (r : DirRecord) :
    Prop where
  record : recordAt t item.dwordOffset = some r
  depth : item.depth ≤ t.budget.maxDepth
  fresh : item.dwordOffset ∉ w.visitedOffsets
  count : w'.visitedOffsets.length ≤ t.budget.maxEntriesPerDir
  newName : toLowerAscii r.name ∉ w.seenNames
  plain : PlainName r.name
  visitedOffsets : w'.visitedOffsets = w.visitedOffsets ++ [item.dwordOffset]
  seenNames : w'.seenNames = w.seenNames ++ [toLowerAscii r.name]
  entries : w'.entries = w.entries ++ [listedEntry t r]
  stack : w'.stack = workItems ((tableStore t).pending r (item.depth + 1)) ++ w.stack

/-- A record that was read is the one at that place of the table. -/
theorem recordAt_of_read {o : U16} {hdr : List U8} {name : ByteString}
    (hinside : 4 * o.toNat + 14 ≤ t.size.toNat)
    (hread : t.source.readAt (t.base + DirectoryTable.byteOffset o) 14 = .ok hdr)
    (hname : 4 * o.toNat + 14 + (entryHeader hdr).nameLen.toNat ≤ t.size.toNat)
    (hreadName : t.source.readAt (t.base + (DirectoryTable.byteOffset o + 14))
      (entryHeader hdr).nameLen.toNat = .ok name) :
    recordAt t o = some { header := entryHeader hdr, name } := by
  simp only [recordAt, if_pos hinside, hread, if_pos hname, hreadName]

/-- A turn, refused or not, reads inside the table. -/
theorem ends_visit (hfits : TableFits t) (hw : ReadsInside t w) :
    Ends (t.visit item) w (fun _ w' => ReadsInside t w' ∧ ∃ r, Turned t item w w' r)
      (ReadsInside t) := by
  unfold DirectoryTable.visit
  rw [ends_bind]
  refine (ends_enter hw).mono ?_ fun _ h => h
  rintro - w₁ ⟨hdepth, hfresh, hcount, hw₁⟩
  have hreads₁ : ReadsInside t w₁ := by
    rw [hw₁]
    exact hw
  rw [ends_bind]
  refine (ends_readHeader hfits hreads₁ item.dwordOffset).mono ?_ fun _ h => h
  rintro header w₂ ⟨hinside, hreads₂, ⟨hdr, hread, rfl⟩, reads, hw₂⟩
  rw [ends_bind]
  refine (ends_readName hfits hreads₂ item.dwordOffset _).mono ?_ fun _ h => h
  rintro name w₃ ⟨hnameInside, hreads₃, hreadName, hplain, reads', hw₃⟩
  have hrecord := recordAt_of_read hinside hread hnameInside hreadName
  rw [ends_bind]
  refine (ends_recordName hreads₃ name).mono ?_ fun _ h => h
  rintro - w₄ ⟨hnewName, hw₄⟩
  have hreads₄ : ReadsInside t w₄ := by
    rw [hw₄]
    exact hreads₃
  rw [ends_bind]
  refine (ends_addEntry hreads₄ { header := entryHeader hdr, name }).mono ?_ fun _ h => h
  rintro - w₅ hw₅
  have hreads₅ : ReadsInside t w₅ := by
    rw [hw₅]
    exact hreads₄
  rw [ends_bind]
  refine (ends_pushChild hreads₅ _ _ _).mono ?_ fun _ h => h
  rintro - w₆ hw₆
  have hreads₆ : ReadsInside t w₆ := by
    rw [hw₆]
    exact hreads₅
  refine (ends_pushChild hreads₆ _ _ _).mono ?_ fun _ h => h
  rintro - w₇ hw₇
  subst hw₁ hw₂ hw₃ hw₄ hw₅ hw₆ hw₇
  refine ⟨hreads₆, _, hrecord, hdepth, hfresh, hcount, hnewName, hplain, rfl, rfl, rfl, ?_⟩
  simp [workItems, LinkedStore.pending, tableStore, Function.comp_def]

/-! ## A whole walk -/

/-- What every turn keeps: no offset and no name twice, and not too many of them. -/
structure Orderly (t : DirectoryTable) (w : DirWalk) : Prop where
  reads : ReadsInside t w
  once : w.visitedOffsets.Nodup
  names : w.seenNames.Nodup
  count : w.visitedOffsets.length ≤ t.budget.maxEntriesPerDir

/-- The walk starts in order. -/
theorem orderly_begin (t : DirectoryTable) : Orderly t {} where
  reads := by simp [ReadsInside]
  once := List.nodup_nil
  names := List.nodup_nil
  count := Nat.zero_le _

/-- One turn keeps the walk in order. -/
theorem Turned.orderly {r : DirRecord} (h : Turned t item w w' r) (hw : Orderly t w)
    (hreads : ReadsInside t w') : Orderly t w' := by
  refine ⟨hreads, ?_, ?_, h.count⟩
  · rw [h.visitedOffsets]
    exact List.nodup_append.2 ⟨hw.once, by simp, by
      rintro o ho o' ho' rfl
      rw [List.mem_singleton.1 ho'] at ho
      exact h.fresh ho⟩
  · rw [h.seenNames]
    exact List.nodup_append.2 ⟨hw.names, by simp, by
      rintro name hname name' hname' rfl
      rw [List.mem_singleton.1 hname'] at hname
      exact h.newName hname⟩

/-- A turn of an orderly walk, with the top item taken from the stack. -/
theorem orderly_visit (hfits : TableFits t) (hw : Orderly t w) (stack : List WorkItem) :
    Ends (t.visit item) { w with stack := stack }
      (fun _ w' => Orderly t w' ∧ ∃ r, Turned t item { w with stack := stack } w' r)
      (ReadsInside t) := by
  have hpopped : Orderly t { w with stack := stack } := ⟨hw.reads, hw.once, hw.names, hw.count⟩
  refine (ends_visit hfits hpopped.reads).mono ?_ fun _ h => h
  rintro - w' ⟨hreads, r, hturned⟩
  exact ⟨hturned.orderly hpopped hreads, r, hturned⟩

/-- A walk that has come to its end: what it visited. -/
structure Walked (t : DirectoryTable) (w w' : DirWalk)
    (visits : List (LinkedStore.Visit U16 DirRecord)) : Prop where
  preorder : (tableStore t).PreorderAll (w.stack.map fun i => (i.dwordOffset, i.depth)) visits
  visitedOffsets : w'.visitedOffsets = w.visitedOffsets ++ visits.map fun v => v.key
  seenNames : w'.seenNames = w.seenNames ++ visits.map fun v => toLowerAscii v.record.name
  entries : w'.entries = w.entries ++ visits.map fun v => listedEntry t v.record
  depths : ∀ v ∈ visits, v.depth ≤ t.budget.maxDepth
  plain : ∀ v ∈ visits, PlainName v.record.name

/-- One more visit before those of a walk. -/
theorem Walked.turn {w₁ : DirWalk} {r : DirRecord} {stack : List WorkItem}
    {visits : List (LinkedStore.Visit U16 DirRecord)} (hstack : w.stack = item :: stack)
    (h : Turned t item { w with stack := stack } w₁ r) (hrest : Walked t w₁ w' visits) :
    Walked t w w' (⟨item.dwordOffset, item.depth, r⟩ :: visits) := by
  refine ⟨?_, ?_, ?_, ?_, ?_, ?_⟩
  · rw [hstack, List.map_cons]
    apply LinkedStore.PreorderAll.turn h.record
    have hpreorder := hrest.preorder
    rw [h.stack, List.map_append, workItems, List.map_map] at hpreorder
    simpa [Function.comp_def] using hpreorder
  · rw [hrest.visitedOffsets, h.visitedOffsets]
    simp
  · rw [hrest.seenNames, h.seenNames]
    simp
  · rw [hrest.entries, h.entries]
    simp
  · exact List.forall_mem_cons.2 ⟨h.depth, hrest.depths⟩
  · exact List.forall_mem_cons.2 ⟨h.plain, hrest.plain⟩

/-- A walk that ends has walked the table. -/
theorem walk_walked (hfits : TableFits t) (hw : Orderly t w) {turns : ℕ}
    (h : t.walk turns w = some (.ok () w')) :
    Orderly t w' ∧ ∃ visits, Walked t w w' visits := by
  fun_induction DirectoryTable.walk t turns w with
  | case1 turns w hstack =>
    cases h
    exact ⟨hw, [], by rw [hstack]; exact .nil, by simp, by simp, by simp, by simp, by simp⟩
  | case2 w item stack hstack => cases h
  | case3 w item stack hstack turns w₁ hrun ih =>
    obtain ⟨hw₁, r, hturned⟩ := (orderly_visit hfits hw stack).ok hrun
    obtain ⟨hw', visits, hrest⟩ := ih hw₁ h
    exact ⟨hw', _, hrest.turn hstack hturned⟩
  | case4 w item stack hstack turns e w₁ hrun => cases h

/-- A walk reads inside the table, whether or not it succeeds. -/
theorem walk_reads (hfits : TableFits t) (hw : Orderly t w) {turns : ℕ}
    {r : EStateM.Result Error DirWalk Unit} (h : t.walk turns w = some r) :
    ReadsInside t (stateAfter r) := by
  fun_induction DirectoryTable.walk t turns w with
  | case1 turns w hstack =>
    cases h
    exact hw.reads
  | case2 w item stack hstack => cases h
  | case3 w item stack hstack turns w₁ hrun ih =>
    exact ih ((orderly_visit hfits hw stack).ok hrun).1 h
  | case4 w item stack hstack turns e w₁ hrun =>
    cases h
    exact (orderly_visit hfits hw stack).error hrun

/-! ## The walk ends -/

/-- There are `0x10000` offsets. -/
theorem length_offsets {offsets : List U16} (h : offsets.Nodup) : offsets.length ≤ 65536 := by
  have hnodup : (offsets.map BitVec.toNat).Nodup :=
    h.map fun _ _ heq => BitVec.eq_of_toNat_eq heq
  have hsubset : offsets.map BitVec.toNat ⊆ List.range 65536 := by
    intro n hn
    obtain ⟨o, -, rfl⟩ := List.mem_map.1 hn
    exact List.mem_range.2 o.isLt
  have hle := hnodup.length_le_of_subset hsubset
  rwa [List.length_map, List.length_range] at hle

/-- The walk ends: it visits no place twice. -/
theorem walk_ends (hfits : TableFits t) (hw : Orderly t w) {turns : ℕ}
    (hturns : 65536 < w.visitedOffsets.length + turns) : ∃ r, t.walk turns w = some r := by
  fun_induction DirectoryTable.walk t turns w with
  | case1 turns w hstack => exact ⟨_, rfl⟩
  | case2 w item stack hstack =>
    have hle := length_offsets hw.once
    omega
  | case3 w item stack hstack turns w₁ hrun ih =>
    obtain ⟨hw₁, r, hturned⟩ := (orderly_visit hfits hw stack).ok hrun
    apply ih hw₁
    have hlength : w₁.visitedOffsets.length = w.visitedOffsets.length + 1 := by
      rw [hturned.visitedOffsets]
      simp
    omega
  | case4 w item stack hstack turns e w₁ hrun => exact ⟨_, rfl⟩

/-- More turns change nothing. -/
theorem walk_more {turns turns' : ℕ} {r : EStateM.Result Error DirWalk Unit}
    (h : t.walk turns w = some r) (hle : turns ≤ turns') : t.walk turns' w = some r := by
  fun_induction DirectoryTable.walk t turns w generalizing turns' with
  | case1 turns w hstack =>
    unfold DirectoryTable.walk
    rw [hstack]
    exact h
  | case2 w item stack hstack => cases h
  | case3 w item stack hstack turns w₁ hrun ih =>
    obtain ⟨k, rfl⟩ : ∃ k, turns' = k + 1 := ⟨turns' - 1, by omega⟩
    unfold DirectoryTable.walk
    rw [hstack]
    dsimp only
    rw [hrun]
    exact ih h (by omega)
  | case4 w item stack hstack turns e w₁ hrun =>
    obtain ⟨k, rfl⟩ : ∃ k, turns' = k + 1 := ⟨turns' - 1, by omega⟩
    unfold DirectoryTable.walk
    rw [hstack]
    dsimp only
    rw [hrun]
    exact h

/-! ## What is read from a table -/

section

variable {source : ByteSource} {partitionBase : U64} {startingSector size : U32}
  {budget : XdvdfsBudgetConfig}

/-- What is listed is the tree of the table, in preorder. -/
theorem parse_listed
    (hopen : openTable source partitionBase startingSector size budget = .ok t) {turns : ℕ}
    {entries : List XdvdfsEntry}
    (h : parseDirectoryTableEntries source partitionBase startingSector size budget turns =
      some (.ok entries)) : ∃ visits, Listed t entries visits := by
  obtain ⟨-, -, -, hfits⟩ := openTable_ok hopen
  unfold parseDirectoryTableEntries at h
  rw [hopen] at h
  obtain ⟨r, hwalk, hr⟩ := Option.map_eq_some_iff.1 h
  cases r with
  | error e w => cases hr
  | ok u w =>
    obtain ⟨hw, visits, hwalked⟩ := walk_walked hfits (orderly_begin t) hwalk
    cases hr
    have hkeys := hwalked.visitedOffsets
    have hnames := hwalked.seenNames
    rw [List.nil_append] at hkeys hnames
    refine ⟨visits, hwalked.preorder.single, by simpa using hwalked.entries, ?_, ?_, ?_,
      hwalked.depths⟩
    · rw [← hkeys]
      exact hw.once
    · rw [← hnames]
      exact hw.names
    · have hcount := hw.count
      rw [hkeys, List.length_map] at hcount
      exact hcount

/-- The names that are listed are plain, and no two differ only in case. -/
theorem parse_names {turns : ℕ} {entries : List XdvdfsEntry}
    (h : parseDirectoryTableEntries source partitionBase startingSector size budget turns =
      some (.ok entries)) :
    (entries.map fun e => toLowerAscii e.name).Nodup ∧ ∀ e ∈ entries, PlainName e.name := by
  unfold parseDirectoryTableEntries at h
  cases hopen : openTable source partitionBase startingSector size budget with
  | error e =>
    rw [hopen] at h
    cases h
  | ok t =>
    obtain ⟨-, -, -, hfits⟩ := openTable_ok hopen
    rw [hopen] at h
    obtain ⟨r, hwalk, hr⟩ := Option.map_eq_some_iff.1 h
    cases r with
    | error e w => cases hr
    | ok u w =>
      obtain ⟨hw, visits, hwalked⟩ := walk_walked hfits (orderly_begin t) hwalk
      cases hr
      have hentries := hwalked.entries
      have hnames := hwalked.seenNames
      rw [List.nil_append] at hentries hnames
      rw [stateAfter_ok, hentries]
      refine ⟨?_, ?_⟩
      · rw [List.map_map]
        change (visits.map fun v => toLowerAscii v.record.name).Nodup
        rw [← hnames]
        exact hw.names
      · intro e he
        obtain ⟨v, hv, rfl⟩ := List.mem_map.1 he
        exact hwalked.plain v hv

/-- A tree that is listed has nothing wrong with it. -/
theorem listed_not_spoiled {entries : List XdvdfsEntry}
    {visits : List (LinkedStore.Visit U16 DirRecord)} (h : Listed t entries visits) :
    ¬ Spoiled t := by
  rintro (⟨path, o, hpath, hnone⟩ | ⟨path, path', o, hne, hpath, hpath'⟩)
  · obtain ⟨v, -, -, hrecord⟩ := h.preorder.visits hpath
    have hrecord' : recordAt t o = some v.record := hrecord
    rw [hnone] at hrecord'
    cases hrecord'
  · exact hne (h.preorder.path_unique h.once hpath hpath')

/-- Parsing a directory table ends, within turns that do not depend on the table. -/
theorem parse_ends (source : ByteSource) (partitionBase : U64) (startingSector size : U32)
    (budget : XdvdfsBudgetConfig) : ∃ r, ∀ turns, 65536 < turns →
      parseDirectoryTableEntries source partitionBase startingSector size budget turns =
        some r := by
  unfold parseDirectoryTableEntries
  cases hopen : openTable source partitionBase startingSector size budget with
  | error e => exact ⟨.error e, fun _ _ => rfl⟩
  | ok t =>
    obtain ⟨-, -, -, hfits⟩ := openTable_ok hopen
    have hends : ∃ r, t.walk 65537 {} = some r := walk_ends hfits (orderly_begin t) (by simp)
    obtain ⟨r, hwalk⟩ := hends
    refine ⟨(outcome r).map fun _ => (stateAfter r).entries, ?_⟩
    intro turns hturns
    simp only [walk_more hwalk hturns]
    rfl

end

/-- The parser of directory tables, on every image, place and size: it comes to an end; it reads
inside the table, which lies in the image; what it lists is the tree of the table in preorder,
and these are all offsets a path of links leads to; and it fails if something is wrong with the
tree. -/
theorem directory_table_entries (source : ByteSource) (partitionBase : U64)
    (startingSector size : U32) (budget : XdvdfsBudgetConfig) :
    (∃ r, ∀ turns, 65536 < turns →
      parseDirectoryTableEntries source partitionBase startingSector size budget turns =
        some r) ∧
    (∀ t, openTable source partitionBase startingSector size budget = .ok t →
      t.base.toNat + size.toNat ≤ source.size.toNat ∧
      ∀ turns r, t.walk turns {} = some r → ∀ read ∈ (stateAfter r).reads,
        (Span.mk read.1.toNat read.2).Inside ⟨t.base.toNat, size.toNat⟩) ∧
    (∀ turns entries,
      parseDirectoryTableEntries source partitionBase startingSector size budget turns =
        some (.ok entries) →
      ∃ t visits, openTable source partitionBase startingSector size budget = .ok t ∧
        Listed t entries visits ∧
        ∀ o, (∃ path, LeadsTo t path o) ↔ ∃ v ∈ visits, v.key = o) ∧
    ∀ t, openTable source partitionBase startingSector size budget = .ok t → Spoiled t →
      ∃ e, ∀ turns, 65536 < turns →
        parseDirectoryTableEntries source partitionBase startingSector size budget turns =
          some (.error e) := by
  have hends := parse_ends source partitionBase startingSector size budget
  refine ⟨hends, ?_, ?_, ?_⟩
  · intro t hopen
    obtain ⟨hsource, hsize, -, hfits⟩ := openTable_ok hopen
    rw [← hsource, ← hsize]
    exact ⟨hfits, fun turns r hwalk => walk_reads hfits (orderly_begin t) hwalk⟩
  · intro turns entries hparse
    cases hopen : openTable source partitionBase startingSector size budget with
    | error e =>
      unfold parseDirectoryTableEntries at hparse
      rw [hopen] at hparse
      cases hparse
    | ok t =>
      obtain ⟨visits, hlisted⟩ := parse_listed hopen hparse
      refine ⟨t, visits, rfl, hlisted, ?_⟩
      intro o
      constructor
      · rintro ⟨path, hpath⟩
        obtain ⟨v, hv, hkey, -⟩ := hlisted.preorder.visits hpath
        exact ⟨v, hv, hkey⟩
      · rintro ⟨v, hv, rfl⟩
        obtain ⟨o, ho, path, hpath⟩ := hlisted.preorder.leads hv
        cases ho
        exact ⟨path, hpath⟩
  · intro t hopen hspoiled
    obtain ⟨r, hr⟩ := hends
    cases r with
    | error e => exact ⟨e, hr⟩
    | ok entries =>
      obtain ⟨visits, hlisted⟩ := parse_listed hopen (hr 65537 (by simp))
      exact absurd hspoiled (listed_not_spoiled hlisted)

/-- A table with entries `A` and `b`: the second is under the left link of the first, and the
left link of the second is given. -/
def twoEntryTable (left : U8) : ByteSource :=
  memorySource ([4, 0, 0xFF, 0xFF, 1, 0, 0, 0, 5, 0, 0, 0, 0x80, 1, 0x41, 0] ++
    [left, 0, 0, 0, 2, 0, 0, 0, 7, 0, 0, 0, 0x10, 1, 0x62])

/-- The two entries are listed; where the second links to itself, the parser fails. -/
theorem directory_table_entries_two :
    (∃ entries t visits,
      parseDirectoryTableEntries (twoEntryTable 0) 0 0 31 {} 2 = some (.ok entries) ∧
      openTable (twoEntryTable 0) 0 0 31 {} = .ok t ∧ Listed t entries visits) ∧
    ∃ e, ∀ turns, 65536 < turns →
      parseDirectoryTableEntries (twoEntryTable 4) 0 0 31 {} turns = some (.error e) := by
  refine ⟨?_, ?_⟩
  · have hparse : ∃ entries,
        parseDirectoryTableEntries (twoEntryTable 0) 0 0 31 {} 2 = some (.ok entries) := ⟨_, rfl⟩
    obtain ⟨entries, hparse⟩ := hparse
    obtain ⟨t, visits, hopen, hlisted, -⟩ :=
      (directory_table_entries (twoEntryTable 0) 0 0 31 {}).2.2.1 2 entries hparse
    exact ⟨entries, t, visits, hparse, hopen, hlisted⟩
  · let t : DirectoryTable :=
      { source := twoEntryTable 4, partitionBase := 0, base := 0, size := 31, budget := {} }
    have hopen : openTable (twoEntryTable 4) 0 0 31 {} = .ok t := rfl
    have hfirst : (tableStore t).record 0 =
        some { header := { leftChild := 4, rightChild := 0xFFFF, entrySector := 1, fileSize := 5
                           attributes := 0x80, nameLen := 1 }
               name := [0x41] } := by
      decide
    have hsecond : (tableStore t).record 4 =
        some { header := { leftChild := 4, rightChild := 0, entrySector := 2, fileSize := 7
                           attributes := 0x10, nameLen := 1 }
               name := [0x62] } := by
      decide
    have honce : (tableStore t).Leads 4 [.left] 4 :=
      .along hsecond (show childLink 4 = some 4 by decide) (.here 4)
    refine (directory_table_entries (twoEntryTable 4) 0 0 31 {}).2.2.2 t hopen ?_
    refine .inr ⟨[.left], [.left, .left], 4, by simp, ?_, ?_⟩
    · exact .along hfirst (show childLink 4 = some 4 by decide) (.here 4)
    · exact .along hfirst (show childLink 4 = some 4 by decide) honce

end Xblob.Analysis
