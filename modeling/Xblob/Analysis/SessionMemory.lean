import Xblob.Analysis.HeapManagers
import Xblob.Analysis.MappedSpace
import Xblob.Analysis.VirtualRegions
import Xblob.Interface.SessionMemory

/-!
# Private memory

What a call hands out it takes from its lowest place: the first fit of a heap, or the first gap
that the search finds.  While that place may be handed out, all that is handed out is private.
-/

set_option autoImplicit false

namespace Xblob.Analysis

open Xblob.Computation Xblob.Interface Xblob.Kernel Xblob.Machine Xblob.Memory

variable {δ : Type} {session : MachineSession δ}

/-! ## Clear RAM -/

/-- A mapping whose failure is ignored adds one region, if any. -/
theorem mem_mapped {space : AddressSpace δ} {result : Result (AddressSpace δ)} {reg : Region δ}
    (h : ∀ {space'}, result = .ok space' → space'.regions = AddressSpace.insertSorted reg space.regions)
    {r : Region δ} (hr : r ∈ (MachineSession.mapped space result).regions) :
    r = reg ∨ r ∈ space.regions := by
  cases result with
  | error e => exact .inr hr
  | ok space' =>
    have hr' : r ∈ space'.regions := hr
    rw [h rfl] at hr'
    exact mem_insertSorted hr'

/-- Mapping a device inserts its region. -/
theorem mapMmio_regions {space space' : AddressSpace δ} {base : GuestAddr} {size : GuestSize}
    {handler : MmioHandler δ} {perms : MemoryPermission}
    (h : space.mapMmio base size handler perms = .ok space') :
    space'.regions = AddressSpace.insertSorted ⟨base, size, perms, .mmio handler⟩ space.regions := by
  unfold AddressSpace.mapMmio at h
  simp only [bind, Except.bind] at h
  split at h
  · cases h
  · split at h
    · cases h
    · cases h
      rfl

/-- Mapping RAM inserts its region. -/
theorem mapRam_regions {space space' : AddressSpace δ} {base : GuestAddr} {size : GuestSize}
    {ram ramOffset : ℕ} {perms : MemoryPermission}
    (h : space.mapRam base size ram ramOffset perms = .ok space') :
    space'.regions = AddressSpace.insertSorted ⟨base, size, perms, .ram ram ramOffset⟩ space.regions := by
  unfold AddressSpace.mapRam at h
  simp only [bind, Except.bind] at h
  split at h
  · cases h
  · split at h
    · cases h
    · split at h
      · cases h
      · cases h
        rfl

/-- The RAM of a session ends at 128 MiB at the latest. -/
theorem ram_stop_le {r : Region δ} (hr : r ∈ session.space.regions) (hram : r.isRam) :
    r.span.stop ≤ 0x08000000 := by
  obtain rfl | hr := mem_mapped mapRam_regions hr
  · obtain ⟨sizeBytes, hcreated⟩ := session.created
    unfold Ram.create at hcreated
    split at hcreated
    · cases hcreated
    next hsizes =>
      rw [← Except.ok.inj hcreated]
      rw [not_and_or, not_not, not_not] at hsizes
      have hstop : ∀ n ∈ [kRamSizeRetail, kRamSizeDevkit],
          (0 : GuestAddr).toNat + (BitVec.ofNat 32 n).toNat ≤ 0x08000000 := by
        decide
      exact hstop sizeBytes (by simpa using hsizes)
  · obtain rfl | hr := mem_mapped mapMmio_regions hr
    · cases hram
    · obtain rfl | hr := mem_mapped mapMmio_regions hr
      · cases hram
      · cases hr

/-- Clear RAM ends within the largest memory. -/
theorem stop_le_of_clearRam {s : Span} (h : ClearRam session s) : s.stop ≤ 0x08000000 := by
  obtain ⟨r, hr, hram, hin⟩ := h.inRam
  exact Nat.le_trans hin.2 (ram_stop_le hr hram)

/-! ## Heaps of any size and place -/

section Heaps

variable {h h' : GuestHeap} {addr : GuestAddr}

/-- The blocks of a heap with an alignment of 8 divide it, wherever it lies. -/
structure Divided (h : GuestHeap) : Prop where
  alignment : h.alignment.toNat = 2 ^ 3
  small : h.totalSize.toNat ≤ 2 ^ 32
  tiling : Tiling 1 (heapSpan h) (freeSpans h) (liveSpans h)

/-- A new heap is divided. -/
theorem divided_new {base : GuestAddr} {size : U64} (hsmall : size.toNat ≤ 2 ^ 32) :
    Divided (GuestHeap.new base size 8) :=
  ⟨rfl, hsmall, tiling_new (Nat.one_dvd _) (Nat.one_dvd _)⟩

/-- Freeing keeps a heap divided. -/
theorem Divided.free (hd : Divided h) (hok : h.free addr = .ok h') : Divided h' := by
  obtain ⟨size, hlive, rfl⟩ := heapFree_ok hok
  exact ⟨hd.alignment, hd.small, tiling_give hd.tiling hd.small hlive⟩

/-- `Allocate` gives out the lowest place, and leaves a divided heap if that place ends below
2^32. -/
theorem Divided.allocate (hd : Divided h) {size : U32}
    (hok : h.allocate (size.setWidth 64) = .ok (addr, h')) :
    size ≠ 0 ∧ ∃ given blocks,
      h' = { h with
        freeBlocks := blocks
        activeAllocations := h.activeAllocations.insert addr given
        allocatedBytes := h.allocatedBytes + given } ∧
      FreePlace h size.toNat addr (allocationSpan (addr, given)) ∧
      (∀ {addr' s}, FreePlace h size.toNat addr' s → addr.toNat ≤ s.start) ∧
      ((allocationSpan (addr, given)).stop < 2 ^ 32 → Divided h') := by
  have hwide : (size.setWidth 64 : U64).toNat = size.toNat := by
    rw [BitVec.toNat_setWidth]
    have := size.isLt
    omega
  obtain ⟨alignedSize, given, blocks, hround, hzero, hpos, hfit, rfl⟩ :=
    allocate_found hd.alignment (by rw [hwide]; exact size.isLt) hok
  rw [hwide] at hround
  obtain ⟨b, hblock, rfl, hroom, hgiven, hlow⟩ := firstFit_lowest hd.tiling.gaps hfit
  rw [hround] at hroom
  rw [hround, hd.alignment] at hgiven
  refine ⟨?_, given, blocks, rfl, ?_, ?_, ?_⟩
  · rintro rfl
    exact hzero rfl
  · have hspan : allocationSpan (b.addr, given) = partOf b size.toNat :=
      congrArg (Span.mk b.addr.toNat) hgiven
    rw [hspan]
    exact .block hblock hroom
  · intro addr' s hplace
    cases hplace with
    | @block c hc hlarge => exact hlow c hc (hround ▸ hlarge)
  · intro hend
    have hle : alignedSize.toNat ≤ given.toNat := by
      rw [hgiven, hround]
      split <;> omega
    have hcarve := firstFit_carve_of_end (a := 1) hpos (by rw [hd.alignment]; decide)
      (Nat.one_dvd _) hd.tiling.gaps (fun _ _ _ _ => Nat.lt_of_le_of_lt (Nat.add_le_add_left hle _) hend)
      hfit
    exact ⟨hd.alignment, hd.small, tiling_take hd.tiling hcarve⟩

/-- Without a place nothing is given out. -/
theorem Divided.allocate_none (hd : Divided h) {size : U32}
    (hnone : size ≠ 0 → ∀ {addr' s}, ¬ FreePlace h size.toNat addr' s) :
    ∀ r, h.allocate (size.setWidth 64) ≠ .ok r := by
  rintro ⟨addr, h'⟩ hok
  obtain ⟨hsize, _, _, -, hplace, -⟩ := hd.allocate hok
  exact hnone hsize hplace

/-- Two allocations of a heap are apart. -/
theorem Divided.apart (hd : Divided h) {addr' : GuestAddr} {size size' : U64}
    (hlive : h.activeAllocations[addr]? = some size)
    (hlive' : h.activeAllocations[addr']? = some size') (hne : addr ≠ addr') :
    (allocationSpan (addr, size)).Apart (allocationSpan (addr', size')) := by
  have hspans : allocationSpan (addr, size) ≠ allocationSpan (addr', size') := by
    intro heq
    exact hne (BitVec.eq_of_toNat_eq (Span.mk.inj heq).1)
  exact hd.tiling.taken_apart.forall (liveSpan_mem hlive) (liveSpan_mem hlive') hspans

/-- A block that is given back is not given out any more, and nothing else changes. -/
theorem live_of_free (hok : h.free addr = .ok h') {addr' : GuestAddr} {size : U64}
    (hlive : h'.activeAllocations[addr']? = some size) :
    h.activeAllocations[addr']? = some size := by
  obtain ⟨_, -, rfl⟩ := heapFree_ok hok
  rw [Std.TreeMap.getElem?_erase] at hlive
  split at hlive
  · cases hlive
  · exact hlive

/-- A reallocation that succeeds is one of a live block. -/
theorem reAllocate_live {newSize : U64} {mem : Option (AddressSpace δ)}
    {r : GuestAddr × GuestHeap × Option (AddressSpace δ)}
    (hok : h.reAllocate addr newSize mem = .ok r) : addr ∈ h.activeAllocations := by
  rw [Std.TreeMap.mem_iff_isSome_getElem?]
  cases hlive : h.activeAllocations[addr]? with
  | some size => rfl
  | none =>
    rw [GuestHeap.reAllocate, hlive] at hok
    cases hok

/-- A dword at 64 bits leaves room for an alignment. -/
theorem sizeBytes_small (size : U32) : (size.setWidth 64 : U64).toNat + 2 ^ 32 ≤ 2 ^ 64 := by
  have hlt := size.isLt
  rw [BitVec.toNat_setWidth]
  omega

end Heaps

/-! ## The invariant -/

/-- What a run that hands out memory in clear RAM keeps. -/
structure KeptPrivate (session : MachineSession δ) (r : SessionRun) : Prop where
  managed : Managed r.kernel.vm
  untouched : r.kernel.hle.heap = ({} : KernelHle).heap
  given : r.given = []
  divided : ∀ {handle : U32} {heap}, r.kernel.secondaryHeaps[handle]? = some heap → Divided heap
  memory : PrivateMemory session r

section Ranges

variable {r r' : SessionRun} {name name' : RangeName} {s s' : Span}

/-- A range of a run that keeps the invariant is an allocation of a heap that the guest has made,
or committed. -/
inductive HeldRange (r : SessionRun) : RangeName → Span → Prop
  | allocation {handle addr : U32} {heap : GuestHeap} {size : U64}
      (hheap : r.kernel.secondaryHeaps[handle]? = some heap)
      (hlive : heap.activeAllocations[addr]? = some size) :
    HeldRange r (.allocation (.secondary handle) addr) (allocationSpan (addr, size))
  | region {base : GuestAddr} {t : Span} (hcommitted : committedSpan r.kernel.vm base = some t) :
    HeldRange r (.region base) t

/-- A committed span is that of a committed region. -/
theorem committedSpan_eq {vm : VirtualMemoryManager} {base : GuestAddr}
    (h : committedSpan vm base = some s) : ∃ region, vm.regions[base]? = some region ∧
      region.state = kMemCommit ∧ s = regionSpan base region := by
  unfold committedSpan at h
  split at h
  next region hregion =>
    split at h
    · exact ⟨region, hregion, ‹_›, (Option.some.inj h).symm⟩
    · cases h
  next => cases h

/-- A committed region has its span committed. -/
theorem committedSpan_of {vm : VirtualMemoryManager} {base : GuestAddr} {region : VirtualRegion}
    (hregion : vm.regions[base]? = some region) (hstate : region.state = kMemCommit) :
    committedSpan vm base = some (regionSpan base region) := by
  simp [committedSpan, hregion, hstate]

/-- The ranges, as long as the default heap gives out nothing. -/
theorem rangeOf_iff (huntouched : r.kernel.hle.heap = ({} : KernelHle).heap) (hgiven : r.given = []) :
    rangeOf r name = some s ↔ HeldRange r name s := by
  constructor
  · intro hs
    cases name with
    | allocation heap addr =>
      simp only [rangeOf, isStack, hgiven, List.any_nil, Bool.and_false, Bool.false_eq_true,
        if_false] at hs
      obtain ⟨g, hheap, hs⟩ := Option.bind_eq_some_iff.1 hs
      obtain ⟨size, hlive, rfl⟩ := Option.map_eq_some_iff.1 hs
      cases heap with
      | default =>
        cases hheap
        have hnone : r.kernel.heapManager.defaultHeap.activeAllocations[addr]? = none := by
          change r.kernel.hle.heap.activeAllocations[addr]? = none
          rw [huntouched]
          exact Std.TreeMap.getElem?_emptyc
        rw [hnone] at hlive
        cases hlive
      | secondary handle => exact .allocation hheap hlive
    | stack number => simp [rangeOf, hgiven] at hs
    | region base => exact .region hs
  · intro hs
    cases hs with
    | @allocation handle addr heap size hheap hlive =>
      have hheapOf : heapOf r.kernel.heapManager (.secondary handle) = some heap := hheap
      simp only [rangeOf, isStack, hgiven, List.any_nil, Bool.and_false, Bool.false_eq_true,
        if_false, hheapOf, Option.bind_some, hlive, Option.map_some]
    | region hcommitted => exact hcommitted

/-- What a call may add to the ranges: one that may be handed out, or none. -/
def HandsOut (session : MachineSession δ) (r r' : SessionRun) (new : Option (RangeName × Span)) :
    Prop :=
  (∀ g ∈ new, MayBeGiven session r g.1 g.2) ∧
    ∀ {name s}, rangeOf r' name = some s → rangeOf r name = some s ∨ (name, s) ∈ new

/-- Nothing given needs no place. -/
theorem none_mayBeGiven : ∀ g ∈ (none : Option (RangeName × Span)), MayBeGiven session r g.1 g.2 := by
  intro g hg
  cases hg

/-- A range handed out where it may be given keeps the memory private. -/
theorem handsOut_private {new : Option (RangeName × Span)} (h : PrivateMemory session r)
    (hout : HandsOut session r r' new) : PrivateMemory session r' := by
  obtain ⟨hmay, hranges⟩ := hout
  constructor
  · intro name s hs
    obtain hs | hnew := hranges hs
    · exact h.clear hs
    · exact (hmay _ hnew).clear
  · intro name name' s s' hs hs' hne
    obtain hs | hnew := hranges hs
    · obtain hs' | hnew' := hranges hs'
      · exact h.apart hs hs' hne
      · exact ((hmay _ hnew').apart hs hne).symm
    · obtain hs' | hnew' := hranges hs'
      · exact (hmay _ hnew).apart hs' (Ne.symm hne)
      · rw [Option.mem_def] at hnew hnew'
        rw [hnew] at hnew'
        cases hnew'
        exact absurd rfl hne

/-- A call that hands out a lowest place hands out one that may be. -/
theorem mayBeGiven_of_placed {c : SessionCall} (h : Placed session r c) (hplace : Place r c name s)
    (hlow : ∀ {name' t}, Place r c name' t → s.start ≤ t.start) : MayBeGiven session r name s := by
  by_contra hnot
  obtain ⟨_, t, hplace', hless, -⟩ := h.lowest hplace hnot
  exact absurd (hlow hplace') (Nat.not_le.mpr hless)

/-- The default heap has no clear place: it lies above all RAM. -/
theorem not_mayBeGiven_default (huntouched : r.kernel.hle.heap = ({} : KernelHle).heap) {size : ℕ}
    {addr : GuestAddr} (hplace : FreePlace r.kernel.hle.heap size addr s) :
    ¬ MayBeGiven session r name s := by
  intro hmay
  have hstop := stop_le_of_clearRam hmay.clear
  rw [huntouched] at hplace
  cases hplace with
  | @block b hblock hroom =>
    obtain rfl : b = { addr := 0x10000000, size := 0x01000000 } := List.mem_singleton.mp hblock
    have hstart : 0x10000000 ≤ (partOf { addr := 0x10000000, size := 0x01000000 } size).stop :=
      Nat.le_add_right _ _
    omega

end Ranges

/-! ## Heaps -/

section Heaps

variable {r : SessionRun} (new : Option (RangeName × Span)) {handle : U32} {heap heap' : GuestHeap}

/-- A kernel with the same heaps and the same virtual memory. -/
def SameMemory (k k' : KernelState) : Prop :=
  k'.heapManager = k.heapManager ∧ k'.vm = k.vm

/-- The memory is private where the kernel has the same memory. -/
theorem KeptPrivate.congr {k' : KernelState} (h : KeptPrivate session r)
    (hsame : SameMemory r.kernel k') : KeptPrivate session { r with kernel := k' } := by
  have hheap : k'.hle.heap = r.kernel.hle.heap :=
    congrArg GuestHeapManager.defaultHeap hsame.1
  have hheaps : k'.secondaryHeaps = r.kernel.secondaryHeaps :=
    congrArg GuestHeapManager.secondaryHeaps hsame.1
  have huntouched : k'.hle.heap = ({} : KernelHle).heap := hheap.trans h.untouched
  refine ⟨hsame.2 ▸ h.managed, huntouched, h.given, ?_, handsOut_private h.memory ⟨none_mayBeGiven, ?_⟩⟩
  · rw [hheaps]
    exact h.divided
  · intro name s hs
    left
    rw [rangeOf_iff h.untouched h.given]
    cases (rangeOf_iff (r := { r with kernel := k' }) huntouched h.given).1 hs with
    | allocation hheap hlive => exact .allocation (hheaps ▸ hheap) hlive
    | region hcommitted => exact .region (hsame.2 ▸ hcommitted)

/-- Heaps may be dropped, and hand out one range that may be handed out. -/
theorem KeptPrivate.heaps (h : KeptPrivate session r) {heaps : Std.TreeMap U32 GuestHeap}
    (hmay : ∀ g ∈ new, MayBeGiven session r g.1 g.2)
    (hheaps : ∀ {handle : U32} {heap}, heaps[handle]? = some heap → Divided heap ∧
      ∀ {addr : GuestAddr} {size}, heap.activeAllocations[addr]? = some size →
        (∃ old, r.kernel.secondaryHeaps[handle]? = some old ∧
          old.activeAllocations[addr]? = some size) ∨
        (RangeName.allocation (.secondary handle) addr, allocationSpan (addr, size)) ∈ new) :
    KeptPrivate session { r with kernel := { r.kernel with secondaryHeaps := heaps } } := by
  refine ⟨h.managed, h.untouched, h.given, fun hheap => (hheaps hheap).1,
    handsOut_private h.memory ⟨hmay, ?_⟩⟩
  intro name s hs
  rw [rangeOf_iff h.untouched h.given]
  cases (rangeOf_iff (r := { r with kernel := { r.kernel with secondaryHeaps := heaps } })
    h.untouched h.given).1 hs with
  | allocation hheap hlive =>
    obtain ⟨old, hold, hwas⟩ | hnew := (hheaps hheap).2 hlive
    · exact .inl (.allocation hold hwas)
    · exact .inr hnew
  | region hcommitted => exact .inl (.region hcommitted)

/-- A heap that a handle other than the default one leads to. -/
theorem getHeap_secondary {k : KernelState} (hok : k.heapManager.getHeap handle = .ok heap)
    (hname : named k.heapManager handle ≠ some .default) :
    named k.heapManager handle = some (.secondary handle) ∧
      k.secondaryHeaps[handle]? = some heap ∧ ∀ heap', k.setHeap handle heap' =
        { k with secondaryHeaps := k.secondaryHeaps.insert handle heap' } := by
  have hdefault : ¬ (handle = 0 ∨ handle = k.heapManager.defaultHeap.baseAddr) := by
    intro h
    exact hname (if_pos h)
  refine ⟨?_, ?_, ?_⟩
  · obtain ⟨n, hn, -⟩ := getHeap_ok_iff.1 hok
    unfold named at hn ⊢
    rw [if_neg hdefault] at hn ⊢
    split at hn
    next hlive => exact if_pos hlive
    next => cases hn
  · unfold GuestHeapManager.getHeap at hok
    rw [if_neg hdefault] at hok
    split at hok
    · cases hok
      assumption
    · cases hok
  · intro heap'
    unfold KernelState.setHeap GuestHeapManager.setHeap
    rw [if_neg hdefault]
    rfl

/-- The heap with the name of the default one is that of the kernel. -/
theorem getHeap_default {k : KernelState} (hok : k.heapManager.getHeap handle = .ok heap)
    (hname : named k.heapManager handle = some .default) : heap = k.hle.heap := by
  obtain ⟨n, hn, hheap⟩ := getHeap_ok_iff.1 hok
  rw [hname] at hn
  cases hn
  exact (Option.some.inj hheap).symm

/-- A secondary heap whose blocks were live or may be given keeps the memory private. -/
theorem KeptPrivate.setHeap (h : KeptPrivate session r)
    (hok : r.kernel.heapManager.getHeap handle = .ok heap)
    (hname : named r.kernel.heapManager handle ≠ some .default)
    (hmay : ∀ g ∈ new, MayBeGiven session r g.1 g.2) (hdivided : Divided heap')
    (hlive : ∀ {addr : GuestAddr} {size}, heap'.activeAllocations[addr]? = some size →
      heap.activeAllocations[addr]? = some size ∨
        (RangeName.allocation (.secondary handle) addr, allocationSpan (addr, size)) ∈ new) :
    KeptPrivate session { r with kernel := r.kernel.setHeap handle heap' } := by
  obtain ⟨-, hheap, hset⟩ := getHeap_secondary hok hname
  rw [hset]
  apply h.heaps new hmay
  intro handle' g hg
  rw [Std.TreeMap.getElem?_insert] at hg
  split at hg
  next heq =>
    obtain rfl := Std.LawfulEqCmp.eq_of_compare heq
    cases hg
    refine ⟨hdivided, fun hsize => ?_⟩
    obtain hwas | hnew := hlive hsize
    · exact .inl ⟨heap, hheap, hwas⟩
    · exact .inr hnew
  next => exact ⟨h.divided hg, fun hsize => .inl ⟨g, hg, hsize⟩⟩

/-- A heap that has given out one block more. -/
theorem KeptPrivate.setAllocated (h : KeptPrivate session r)
    (hok : r.kernel.heapManager.getHeap handle = .ok heap)
    (hname : named r.kernel.heapManager handle ≠ some .default) {addr : GuestAddr} {given : U64}
    (hmay : MayBeGiven session r (.allocation (.secondary handle) addr)
      (allocationSpan (addr, given)))
    (hdivided : Divided heap')
    (hlive : ∀ {addr' : GuestAddr} {size}, heap'.activeAllocations[addr']? = some size →
      heap.activeAllocations[addr']? = some size ∨ (addr', size) = (addr, given)) :
    KeptPrivate session { r with kernel := r.kernel.setHeap handle heap' } := by
  refine h.setHeap (some (.allocation (.secondary handle) addr,
    allocationSpan (addr, given))) hok hname ?_ hdivided ?_
  · rintro g ⟨rfl⟩
    exact hmay
  · intro addr' size hsize
    obtain hwas | heq := hlive hsize
    · exact .inl hwas
    · cases heq
      exact .inr rfl

/-- The default heap is divided. -/
theorem KeptPrivate.divided_default (h : KeptPrivate session r) : Divided r.kernel.hle.heap := by
  rw [h.untouched]
  exact divided_new (by decide)

/-- A heap that gives out from its lowest place. -/
theorem KeptPrivate.allocated (h : KeptPrivate session r) {c : SessionCall} (hplaced : Placed session r c)
    {size : U32} {addr : GuestAddr} (hok : r.kernel.heapManager.getHeap handle = .ok heap)
    (halloc : heap.allocate (size.setWidth 64) = .ok (addr, heap'))
    (hplaces : ∀ {name s}, Place r c name s ↔ ∃ n a, name = .allocation n a ∧
      named r.kernel.heapManager handle = some n ∧ size ≠ 0 ∧ FreePlace heap size.toNat a s) :
    named r.kernel.heapManager handle ≠ some .default ∧ ∃ given,
      MayBeGiven session r (.allocation (.secondary handle) addr) (allocationSpan (addr, given)) ∧
      Divided heap' ∧ heap'.activeAllocations = heap.activeAllocations.insert addr given := by
  have hname : named r.kernel.heapManager handle ≠ some .default := by
    intro hname
    obtain rfl := getHeap_default hok hname
    obtain ⟨hsize, given, -, -, hplace, -⟩ := h.divided_default.allocate halloc
    obtain ⟨_, t, hplace', -, hmay⟩ := hplaced.lowest
      (hplaces.2 ⟨_, _, rfl, hname, hsize, hplace⟩) (not_mayBeGiven_default h.untouched hplace)
    obtain ⟨n, a, rfl, -, -, hfree⟩ := hplaces.1 hplace'
    exact not_mayBeGiven_default h.untouched hfree hmay
  obtain ⟨hnamed, hheap, -⟩ := getHeap_secondary hok hname
  obtain ⟨hsize, given, blocks, rfl, hplace, hlow, hdivided⟩ := (h.divided hheap).allocate halloc
  have hmay : MayBeGiven session r (.allocation (.secondary handle) addr)
      (allocationSpan (addr, given)) := by
    apply mayBeGiven_of_placed hplaced (hplaces.2 ⟨_, _, rfl, hnamed, hsize, hplace⟩)
    intro name' t hplace'
    obtain ⟨n, a, -, -, -, hfree⟩ := hplaces.1 hplace'
    exact hlow hfree
  have hstop := stop_le_of_clearRam hmay.clear
  exact ⟨hname, given, hmay, hdivided (by omega), rfl⟩

/-- What is live after an allocation. -/
theorem live_of_insert {addr addr' : GuestAddr} {given size : U64}
    (hinsert : heap'.activeAllocations = heap.activeAllocations.insert addr given)
    (hlive : heap'.activeAllocations[addr']? = some size) :
    heap.activeAllocations[addr']? = some size ∨ (addr', size) = (addr, given) := by
  rw [hinsert, Std.TreeMap.getElem?_insert] at hlive
  split at hlive
  next heq =>
    obtain rfl := Std.LawfulEqCmp.eq_of_compare heq
    cases hlive
    exact .inr rfl
  next => exact .inl hlive

/-- The places of an allocation, by the heap that its handle leads to. -/
theorem place_allocate_iff (hok : r.kernel.heapManager.getHeap handle = .ok heap) {size : U32}
    {name : RangeName} {s : Span} : Place r (.rtlAllocateHeap handle size) name s ↔
      ∃ n a, name = .allocation n a ∧ named r.kernel.heapManager handle = some n ∧ size ≠ 0 ∧
        FreePlace heap size.toNat a s := by
  obtain ⟨n, hn, hheap⟩ := getHeap_ok_iff.1 hok
  constructor
  · intro hplace
    cases hplace with
    | allocation hsize hname hheap' hfree =>
      rw [hname] at hn
      cases hn
      rw [hheap'] at hheap
      cases hheap
      exact ⟨_, _, rfl, hname, hsize, hfree⟩
  · rintro ⟨n', a, rfl, hname, hsize, hfree⟩
    rw [hname] at hn
    cases hn
    exact .allocation hsize hname hheap hfree

/-- The places of a reallocation are the free places of the new size. -/
theorem place_reAllocate_iff (hok : r.kernel.heapManager.getHeap handle = .ok heap) {ptr : U32}
    (hlive : ptr ∈ heap.activeAllocations) {newSize : U32} {name : RangeName} {s : Span} :
    Place r (.rtlReAllocateHeap handle ptr newSize) name s ↔
      ∃ n a, name = .allocation n a ∧ named r.kernel.heapManager handle = some n ∧ newSize ≠ 0 ∧
        FreePlace heap newSize.toNat a s := by
  obtain ⟨n, hn, hheap⟩ := getHeap_ok_iff.1 hok
  constructor
  · intro hplace
    cases hplace with
    | reallocation hsize hname hheap' hlive' hfree =>
      rw [hname] at hn
      cases hn
      rw [hheap'] at hheap
      cases hheap
      exact ⟨_, _, rfl, hname, hsize, hfree⟩
  · rintro ⟨n', a, rfl, hname, hsize, hfree⟩
    rw [hname] at hn
    cases hn
    exact .reallocation hsize hname hheap hlive hfree

/-- Allocating from a heap under its condition keeps the memory private. -/
theorem KeptPrivate.rtlAllocateHeap (h : KeptPrivate session r) {size : U32}
    (hplaced : Placed session r (.rtlAllocateHeap handle size)) :
    KeptPrivate session { r with kernel := (r.kernel.rtlAllocateHeap handle size).2 } := by
  unfold KernelState.rtlAllocateHeap
  split
  · exact h
  next heap hok =>
    split
    · exact h
    next addr heap' halloc =>
      obtain ⟨hname, given, hmay, hdivided, hinsert⟩ :=
        h.allocated hplaced hok halloc (place_allocate_iff hok)
      exact h.setAllocated hok hname hmay hdivided (live_of_insert hinsert)

/-- Freeing to a heap keeps the memory private. -/
theorem KeptPrivate.rtlFreeHeap (h : KeptPrivate session r) {ptr : U32} :
    KeptPrivate session { r with kernel := (r.kernel.rtlFreeHeap handle ptr).2 } := by
  unfold KernelState.rtlFreeHeap
  split
  · exact h
  next heap hok =>
    split
    · exact h
    next heap' hfree =>
      have hname : named r.kernel.heapManager handle ≠ some .default := by
        intro hname
        obtain rfl := getHeap_default hok hname
        obtain ⟨size, hlive, -⟩ := heapFree_ok hfree
        rw [h.untouched] at hlive
        cases (Std.TreeMap.getElem?_emptyc (a := ptr)).symm.trans hlive
      obtain ⟨-, hheap, -⟩ := getHeap_secondary hok hname
      exact h.setHeap none hok hname none_mayBeGiven ((h.divided hheap).free hfree)
        fun hlive => .inl (live_of_free hfree hlive)

/-- A new block is given out before the old one is given back. -/
theorem KeptPrivate.reAllocated (h : KeptPrivate session r) {ptr newSize : U32}
    (hplaced : Placed session r (.rtlReAllocateHeap handle ptr newSize)) :
    KeptPrivate session { r with kernel := SessionCall.reAllocated r.kernel handle ptr newSize } := by
  unfold SessionCall.reAllocated
  split
  · exact h
  next heap hok =>
    split
    · exact h
    next newPtr heap' mem' hre =>
      have hptr := reAllocate_live hre
      obtain hfree | ⟨addr, grown, halloc, hrest⟩ := reAllocate_ok hre
      · have hname : named r.kernel.heapManager handle ≠ some .default := by
          intro hname
          obtain rfl := getHeap_default hok hname
          rw [h.untouched] at hptr
          exact absurd hptr Std.TreeMap.not_mem_emptyc
        obtain ⟨-, hheap, -⟩ := getHeap_secondary hok hname
        exact h.setHeap none hok hname none_mayBeGiven ((h.divided hheap).free hfree)
          fun hlive => .inl (live_of_free hfree hlive)
      · obtain ⟨hname, given, hmay, hdivided, hinsert⟩ :=
          h.allocated hplaced hok halloc (place_reAllocate_iff hok hptr)
        have hlives : Divided heap' ∧ ∀ {a : GuestAddr} {size},
            heap'.activeAllocations[a]? = some size → grown.activeAllocations[a]? = some size := by
          obtain rfl | hfree := hrest
          · exact ⟨hdivided, id⟩
          · exact ⟨hdivided.free hfree, live_of_free hfree⟩
        exact h.setAllocated hok hname hmay hlives.1 fun hlive =>
          live_of_insert hinsert (hlives.2 hlive)

/-- Destroying a heap keeps the memory private. -/
theorem KeptPrivate.rtlDestroyHeap (h : KeptPrivate session r) :
    KeptPrivate session { r with kernel := (r.kernel.rtlDestroyHeap handle).2 } := by
  unfold KernelState.rtlDestroyHeap
  split
  · exact h
  next m hok =>
    unfold GuestHeapManager.destroyHeap at hok
    split at hok
    · cases hok
    · split at hok
      · cases hok
        apply h.heaps none none_mayBeGiven
        intro handle' heap hlive
        rw [KernelState.heapManager, Std.TreeMap.getElem?_erase] at hlive
        split at hlive
        · cases hlive
        · exact ⟨h.divided hlive, fun hsize => .inl ⟨heap, hlive, hsize⟩⟩
      · cases hok

/-- A new heap has given out nothing. -/
theorem KeptPrivate.rtlCreateHeap (h : KeptPrivate session r) {base reserve : Option U32} :
    KeptPrivate session { r with kernel := (r.kernel.rtlCreateHeap base reserve).2 } := by
  have hsmall : (KernelState.heapSize reserve).toNat ≤ 2 ^ 32 := by
    unfold KernelState.heapSize
    split
    · decide
    next size =>
      split
      · decide
      · rw [BitVec.toNat_setWidth]
        have := size.isLt
        omega
  have hdefault : (r.kernel.rtlCreateHeap base reserve).2.hle.heap = r.kernel.hle.heap :=
    createHeap_defaultHeap (m := r.kernel.heapManager)
  have hheaps : (r.kernel.rtlCreateHeap base reserve).2.secondaryHeaps = _ :=
    createHeap_secondaryHeaps (m := r.kernel.heapManager)
  have huntouched := hdefault.trans h.untouched
  have hget : ∀ {handle' : U32} {g : GuestHeap},
      (r.kernel.rtlCreateHeap base reserve).2.secondaryHeaps[handle']? = some g →
        (Divided g ∧ ∀ addr : GuestAddr, g.activeAllocations[addr]? = none) ∨
        r.kernel.secondaryHeaps[handle']? = some g := by
    intro handle' g hg
    rw [hheaps, Std.TreeMap.getElem?_insert] at hg
    split at hg
    next heq =>
      left
      rw [← Option.some.inj hg]
      exact ⟨divided_new hsmall, fun _ => Std.TreeMap.getElem?_emptyc⟩
    next => exact .inr hg
  refine ⟨h.managed, huntouched, h.given, ?_, handsOut_private h.memory ⟨none_mayBeGiven, ?_⟩⟩
  · intro handle' g hg
    obtain ⟨hdivided, -⟩ | hold := hget hg
    · exact hdivided
    · exact h.divided hold
  · intro name s hs
    left
    rw [rangeOf_iff h.untouched h.given]
    cases (rangeOf_iff (r := { r with kernel := (r.kernel.rtlCreateHeap base reserve).2 })
      huntouched h.given).1 hs with
    | allocation hheap hlive =>
      obtain ⟨-, hnone⟩ | hold := hget hheap
      · rw [hnone] at hlive
        cases hlive
      · exact .allocation hold hlive
    | region hcommitted => exact .region hcommitted

end Heaps

/-! ## Virtual memory -/

section Regions

variable {vm vm' : VirtualMemoryManager} {base base' : GuestAddr} {s : Span}

/-- A committed span after a region is set is the new one, or an old one. -/
theorem committedSpan_setRegion {region : VirtualRegion}
    (hs : committedSpan (vm.setRegion base region) base' = some s) :
    (base' = base ∧ region.state = kMemCommit ∧ s = regionSpan base region) ∨
      committedSpan vm base' = some s := by
  obtain ⟨r, hr, hstate, rfl⟩ := committedSpan_eq hs
  rw [getElem?_setRegion] at hr
  split at hr
  next heq =>
    subst heq
    cases hr
    exact .inl ⟨rfl, hstate, rfl⟩
  next => exact .inr (committedSpan_of hr hstate)

/-- A committed span after a region is added is the new one, or an old one. -/
theorem committedSpan_addRegion {size : U64} {state protection : U32}
    (hs : committedSpan (vm.addRegion base size state protection) base' = some s) :
    (base' = base ∧ state = kMemCommit ∧ s = ⟨base.toNat, size.toNat⟩) ∨
      committedSpan vm base' = some s := by
  obtain ⟨r, hr, hstate, rfl⟩ := committedSpan_eq hs
  rw [getElem?_addRegion] at hr
  split at hr
  next heq =>
    subst heq
    cases hr
    exact .inl ⟨rfl, hstate, rfl⟩
  next => exact .inr (committedSpan_of hr hstate)

/-- `Free` commits nothing. -/
theorem committedSpan_free {size : U64} {freeType : U32} (hok : vm.free base size freeType = .ok vm')
    (hs : committedSpan vm' base' = some s) : committedSpan vm base' = some s := by
  cases free_ok hok with
  | releases hregion hrelease =>
    obtain ⟨r, hr, hstate, rfl⟩ := committedSpan_eq hs
    rw [Std.TreeMap.getElem?_erase] at hr
    split at hr
    · cases hr
    · exact committedSpan_of hr hstate
  | decommits hregion hsize hrelease hdecommit =>
    obtain ⟨-, hstate, -⟩ | hs := committedSpan_setRegion hs
    · have hne : kMemReserve ≠ kMemCommit := by decide
      exact absurd hstate hne
    · exact hs

/-- `Protect` commits nothing. -/
theorem committedSpan_protect {size : U64} {newProtect old : U32}
    (hok : vm.protect base size newProtect = .ok (old, vm'))
    (hs : committedSpan vm' base' = some s) : committedSpan vm base' = some s := by
  obtain ⟨region, hregion, -, -, rfl⟩ := protect_ok hok
  obtain ⟨rfl, hstate, rfl⟩ | hs := committedSpan_setRegion hs
  · have hold : region.state = kMemCommit := hstate
    have hcommitted := committedSpan_of hregion hold
    exact hcommitted
  · exact hs

/-- What `Allocate` commits is the lowest place, if it commits anything. -/
inductive AllocateCommits (vm : VirtualMemoryManager) (base : GuestAddr) (size : ℕ) (allocType : U32)
    (vm' : VirtualMemoryManager) : Prop
  | nothing (hcommitted : ∀ {base' s}, committedSpan vm' base' = some s →
      committedSpan vm base' = some s)
  | place {addr : GuestAddr} {s : Span} (hcommit : allocType &&& kMemCommit ≠ 0)
      (hplace : CommitPlace vm base size allocType addr s)
      (hlow : ∀ {addr' t}, CommitPlace vm base size allocType addr' t → s.start ≤ t.start)
      (hcommitted : ∀ {base' t}, committedSpan vm' base' = some t →
        committedSpan vm base' = some t ∨ (base', t) = (addr, s))

/-- A base that is given is where every place lies. -/
theorem commitPlace_start (hbase : base ≠ 0) {size : ℕ} {allocType : U32} {addr : GuestAddr}
    (h : CommitPlace vm base size allocType addr s) : s.start = base.toNat := by
  cases h with
  | automatic hzero _ _ => exact absurd hzero hbase
  | reserved _ _ _ _ => rfl
  | requested _ _ _ _ => rfl

/-- A size is rounded up to pages. -/
theorem toNat_pages (size : U32) :
    (VirtualMemoryManager.alignUp (size.setWidth 64) VirtualMemoryManager.kPageSize).toNat =
      roundUp 4096 size.toNat := by
  have hlt := size.isLt
  rw [toNat_pageUp (sizeBytes_small size), BitVec.toNat_setWidth, Nat.mod_eq_of_lt (by omega)]

/-- A region added in a place that lies lowest commits there, or reserves only. -/
theorem allocateCommits_adds {size allocType state protection : U32} {addr : GuestAddr}
    (hstate : state = if allocType &&& kMemCommit ≠ 0 then kMemCommit else kMemReserve)
    (hplace : CommitPlace vm base (roundUp 4096 size.toNat) allocType addr
      ⟨addr.toNat, roundUp 4096 size.toNat⟩)
    (hlowest : ∀ {addr' t}, CommitPlace vm base (roundUp 4096 size.toNat) allocType addr' t →
      addr.toNat ≤ t.start) :
    AllocateCommits vm base (roundUp 4096 size.toNat) allocType
      (vm.addRegion addr (VirtualMemoryManager.alignUp (size.setWidth 64)
        VirtualMemoryManager.kPageSize) state protection) := by
  by_cases hcommit : allocType &&& kMemCommit ≠ 0
  · refine .place hcommit hplace hlowest ?_
    intro base' t hs
    obtain ⟨rfl, -, rfl⟩ | hs := committedSpan_addRegion hs
    · rw [toNat_pages]
      exact .inr rfl
    · exact .inl hs
  · refine .nothing ?_
    intro base' t hs
    obtain ⟨-, hstate', -⟩ | hs := committedSpan_addRegion hs
    · rw [hstate, if_neg hcommit] at hstate'
      exact absurd hstate' (by decide)
    · exact hs

/-- What an allocation that succeeds has committed. -/
theorem allocateCommits (h : Managed vm) {size allocType protection : U32} {addr : GuestAddr}
    (hok : vm.allocate base (size.setWidth 64) allocType protection = some (.ok (addr, vm'))) :
    size ≠ 0 ∧ AllocateCommits vm base (roundUp 4096 size.toNat) allocType vm' := by
  have hsize : size ≠ 0 := by
    rintro rfl
    simp [VirtualMemoryManager.allocate, VirtualMemoryManager.invalidArgument] at hok
  have hpages := toNat_pages size
  refine ⟨hsize, ?_⟩
  by_cases hbase : base = 0
  · subst hbase
    obtain ⟨habove, hgap, hlow⟩ := allocate_lowest h (sizeBytes_small size) hok
    rw [hpages] at hgap hlow
    cases allocate_ok h (sizeBytes_small size) hok with
    | adds hstate _ _ =>
      refine allocateCommits_adds hstate (.automatic rfl habove hgap) ?_
      intro addr' t hplace
      cases hplace with
      | automatic _ habove' hgap' => exact hlow habove' hgap'
      | reserved hne _ _ _ => exact absurd rfl hne
      | requested hne _ _ _ => exact absurd rfl hne
    | commits hregion hle _ _ =>
      -- a region at the gap would have to be apart from it
      have hapart := hgap.apart hregion
      have hpos := le_roundUp (a := 4096) (x := size.toNat) (by decide)
      have hne : size.toNat ≠ 0 := fun hzero => hsize (BitVec.eq_of_toNat_eq hzero)
      rw [BitVec.le_def, hpages] at hle
      simp only [Span.Apart, Span.Before, Span.stop, regionSpan] at hapart
      omega
  · have hlowest : ∀ {addr' t}, CommitPlace vm base (roundUp 4096 size.toNat) allocType addr' t →
        base.toNat ≤ t.start := by
      intro addr' t hplace
      rw [commitPlace_start hbase hplace]
    cases allocate_ok h (sizeBytes_small size) hok with
    | adds hstate hfresh hrequested =>
      obtain rfl | ⟨hzero, -⟩ := hrequested
      · have hinside := hfresh.inside
        have hapart := @hfresh.apart
        rw [hpages] at hinside hapart
        exact allocateCommits_adds hstate (.requested hbase hfresh.aligned.1 hinside hapart) hlowest
      · exact absurd hzero hbase
    | commits hregion hle hreserve hcommit =>
      rw [BitVec.le_def, hpages] at hle
      refine .place hcommit (.reserved hbase (not_not.mp hreserve) hregion hle) hlowest ?_
      intro base' t hs
      obtain ⟨rfl, -, rfl⟩ | hs := committedSpan_setRegion hs
      · exact .inr rfl
      · exact .inl hs

end Regions

section VirtualMemory

variable {r : SessionRun} {vm : VirtualMemoryManager}

/-- A manager whose committed regions were so or may be given keeps the memory private. -/
theorem KeptPrivate.setVm (h : KeptPrivate session r) {new : Option (RangeName × Span)}
    (hmanaged : Managed vm) (hmay : ∀ g ∈ new, MayBeGiven session r g.1 g.2)
    (hcommitted : ∀ {base s}, committedSpan vm base = some s →
      committedSpan r.kernel.vm base = some s ∨ (RangeName.region base, s) ∈ new) :
    KeptPrivate session { r with kernel := { r.kernel with vm := vm } } := by
  refine ⟨hmanaged, h.untouched, h.given, h.divided, handsOut_private h.memory ⟨hmay, ?_⟩⟩
  intro name s hs
  rw [rangeOf_iff h.untouched h.given]
  cases (rangeOf_iff (r := { r with kernel := { r.kernel with vm := vm } })
    h.untouched h.given).1 hs with
  | allocation hheap hlive => exact .inl (.allocation hheap hlive)
  | region hs =>
    obtain hold | hnew := hcommitted hs
    · exact .inl (.region hold)
    · exact .inr hnew

/-- An allocation of virtual memory in its places keeps the memory private. -/
theorem KeptPrivate.allocate (h : KeptPrivate session r) {c : SessionCall} (hplaced : Placed session r c)
    {base size allocType protection addr : U32}
    (hok : r.kernel.vm.allocate base (size.setWidth 64) allocType protection = some (.ok (addr, vm)))
    (hplaces : size ≠ 0 → allocType &&& kMemCommit ≠ 0 → ∀ {name s}, Place r c name s ↔
      ∃ a, name = .region a ∧
        CommitPlace r.kernel.vm base (roundUp 4096 size.toNat) allocType a s) :
    KeptPrivate session { r with kernel := { r.kernel with vm := vm } } := by
  have hnext : RegionCall.next r.kernel.vm (.allocate base (size.setWidth 64) allocType protection) =
      vm := by
    simp only [RegionCall.next, RegionCall.apply, hok]
  have hmanaged : Managed vm := hnext ▸ managed_next h.managed (sizeBytes_small size)
  obtain ⟨hsize, hcommits⟩ := allocateCommits h.managed hok
  cases hcommits with
  | nothing hcommitted => exact h.setVm hmanaged none_mayBeGiven fun hs => .inl (hcommitted hs)
  | @place addr s hcommit hplace hlow hcommitted =>
    have hmay : MayBeGiven session r (.region addr) s := by
      apply mayBeGiven_of_placed hplaced ((hplaces hsize hcommit).2 ⟨_, rfl, hplace⟩)
      intro name' t hplace'
      obtain ⟨a, -, hplace''⟩ := (hplaces hsize hcommit).1 hplace'
      exact hlow hplace''
    have hnew : ∀ g ∈ some (RangeName.region addr, s), MayBeGiven session r g.1 g.2 := by
      rintro g ⟨rfl⟩
      exact hmay
    refine h.setVm hmanaged hnew ?_
    intro base' t hs
    obtain hold | heq := hcommitted hs
    · exact .inl hold
    · cases heq
      exact .inr rfl

/-- Freeing virtual memory keeps the memory private. -/
theorem KeptPrivate.free (h : KeptPrivate session r) {base freeType : U32} {size : U64}
    (hok : r.kernel.vm.free base size freeType = .ok vm) :
    KeptPrivate session { r with kernel := { r.kernel with vm := vm } } := by
  have hmanaged : Managed vm := by
    cases free_ok hok with
    | releases hregion hrelease => exact managed_erase h.managed base
    | decommits hregion hsize hrelease hdecommit => exact managed_setRegion h.managed hregion rfl rfl
  exact h.setVm hmanaged none_mayBeGiven fun hs => .inl (committedSpan_free hok hs)

/-- Protecting virtual memory keeps the memory private. -/
theorem KeptPrivate.protect (h : KeptPrivate session r) {base newProtect old : U32} {size : U64}
    (hok : r.kernel.vm.protect base size newProtect = .ok (old, vm)) :
    KeptPrivate session { r with kernel := { r.kernel with vm := vm } } := by
  have hmanaged : Managed vm := by
    obtain ⟨region, hregion, -, -, rfl⟩ := protect_ok hok
    exact managed_setRegion h.managed hregion rfl rfl
  exact h.setVm hmanaged none_mayBeGiven fun hs => .inl (committedSpan_protect hok hs)

end VirtualMemory

end Xblob.Analysis
