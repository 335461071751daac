import Xblob.Analysis.MemoryExports

/-!
# When the memory of a session is private

A run whose calls find clear RAM at their lowest places keeps its memory private.  The default
heap of the kernel lies at 256 MiB, above all RAM, so the first allocation from it is not RAM at
all.
-/

set_option autoImplicit false

namespace Xblob.Analysis

open Xblob.Computation Xblob.Interface Xblob.Kernel Xblob.Machine Xblob.Memory Xblob.Processor

variable {δ : Type} {session : MachineSession δ}

/-! ## Steps -/

section Steps

variable {r : SessionRun}

/-- Allocating contiguous memory under its condition keeps the memory private. -/
theorem KeptPrivate.mmAllocateContiguousMemory (h : KeptPrivate session r) {numBytes : U32}
    (hplaced : Placed session r (.mmAllocateContiguousMemory numBytes)) :
    KeptPrivate session { r with
      kernel := SessionCall.orSame r.kernel (r.kernel.mmAllocateContiguousMemory numBytes) } := by
  unfold KernelState.mmAllocateContiguousMemory
  split
  · exact h
  next hsize =>
    cases hr : r.kernel.vm.allocate 0 (numBytes.setWidth 64) (kMemCommit ||| kMemReserve)
        kPageReadWrite with
    | none => exact h
    | some res =>
      cases res with
      | error e => exact h
      | ok res =>
        refine h.allocate hplaced hr fun _ _ => ⟨?_, ?_⟩
        · intro hplace
          cases hplace with
          | contiguous _ hplace => exact ⟨_, rfl, hplace⟩
        · rintro ⟨a, rfl, hplace⟩
          exact .contiguous hsize hplace

/-- Freeing contiguous memory keeps the memory private. -/
theorem KeptPrivate.mmFreeContiguousMemory (h : KeptPrivate session r) {base : U32} :
    KeptPrivate session { r with kernel := (r.kernel.mmFreeContiguousMemory base).2 } := by
  unfold KernelState.mmFreeContiguousMemory
  split
  · exact h
  · split
    · exact h
    next vm hok => exact h.free hok

/-- Allocating virtual memory under its condition keeps the memory private. -/
theorem KeptPrivate.ntAllocateVirtualMemory (h : KeptPrivate session r)
    {base size allocType protect : U32}
    (hplaced : Placed session r (.ntAllocateVirtualMemory base size allocType protect)) :
    KeptPrivate session { r with
      kernel := SessionCall.orSame r.kernel
        (r.kernel.ntAllocateVirtualMemory base size allocType protect) } := by
  unfold KernelState.ntAllocateVirtualMemory
  cases hr : r.kernel.vm.allocate base (size.setWidth 64) allocType protect with
  | none => exact h
  | some res =>
    cases res with
    | error e => exact h
    | ok res =>
      refine h.allocate hplaced hr fun hsize hcommit => ⟨?_, ?_⟩
      · intro hplace
        cases hplace with
        | committed _ _ hplace => exact ⟨_, rfl, hplace⟩
      · rintro ⟨a, rfl, hplace⟩
        exact .committed hsize hcommit hplace

/-- Freeing virtual memory keeps the memory private. -/
theorem KeptPrivate.ntFreeVirtualMemory (h : KeptPrivate session r) {base size freeType : U32} :
    KeptPrivate session { r with
      kernel := (r.kernel.ntFreeVirtualMemory base size freeType).2 } := by
  unfold KernelState.ntFreeVirtualMemory
  split
  · exact h
  next vm hok => exact h.free hok

/-- Protecting virtual memory keeps the memory private. -/
theorem KeptPrivate.ntProtectVirtualMemory (h : KeptPrivate session r)
    {base size newProtect : U32} :
    KeptPrivate session { r with
      kernel := (r.kernel.ntProtectVirtualMemory base size newProtect).2 } := by
  unfold KernelState.ntProtectVirtualMemory
  split
  · exact h
  next old vm hok => exact h.protect hok

/-- No stack has a place that may be handed out, so the default heap gives none. -/
theorem KeptPrivate.noStack (h : KeptPrivate session r) {stackSize : Option U32}
    {startRoutine arg : U32} (hplaced : Placed session r (.createThread stackSize startRoutine arg)) :
    ∀ res, r.kernel.hle.heap.allocate ((KernelHle.stackSize stackSize).setWidth 64) ≠ .ok res := by
  apply h.divided_default.allocate_none
  intro _ addr s hplace
  obtain ⟨_, t, hplace', -, hmay⟩ :=
    hplaced.lowest (.stack hplace) (not_mayBeGiven_default h.untouched hplace)
  cases hplace' with
  | stack hfree => exact not_mayBeGiven_default h.untouched hfree hmay

/-- A thread without a stack is not created. -/
theorem KeptPrivate.threadCreated (h : KeptPrivate session r) {stackSize : Option U32}
    {startRoutine arg : U32} (hplaced : Placed session r (.createThread stackSize startRoutine arg)) :
    KeptPrivate session { r with
      kernel := SessionCall.threadCreated r.kernel stackSize startRoutine arg } := by
  cases hr : r.kernel.hle.heap.allocate ((KernelHle.stackSize stackSize).setWidth 64) with
  | error e =>
    have hnone : r.kernel.hle.createThread stackSize startRoutine arg = (none, r.kernel.hle) := by
      simp [KernelHle.createThread, hr]
    rw [SessionCall.threadCreated, hnone]
    exact h
  | ok res => exact absurd hr (h.noStack hplaced res)

/-- What a call does to the kernel keeps the invariant. -/
theorem KeptPrivate.kernelNext {c : SessionCall} (h : KeptPrivate session r)
    (hplaced : Placed session r c) :
    KeptPrivate session { r with kernel := c.kernelNext r.kernel } := by
  cases c with
  | rtlAllocateHeap heapHandle size => exact h.rtlAllocateHeap hplaced
  | rtlFreeHeap heapHandle ptr => exact h.rtlFreeHeap
  | rtlReAllocateHeap heapHandle ptr newSize => exact h.reAllocated hplaced
  | rtlCreateHeap base reserve => exact h.rtlCreateHeap
  | rtlDestroyHeap heapHandle => exact h.rtlDestroyHeap
  | mmAllocateContiguousMemory numBytes => exact h.mmAllocateContiguousMemory hplaced
  | mmFreeContiguousMemory base => exact h.mmFreeContiguousMemory
  | ntAllocateVirtualMemory base size allocType protect => exact h.ntAllocateVirtualMemory hplaced
  | ntFreeVirtualMemory base size freeType => exact h.ntFreeVirtualMemory
  | ntProtectVirtualMemory base size newProtect => exact h.ntProtectVirtualMemory
  | createThread stackSize startRoutine arg => exact h.threadCreated hplaced
  | other call hother => exact h.congr (sameMemory_next hother r.kernel)

/-- No call that keeps the invariant gives a stack. -/
theorem KeptPrivate.stackGiven {c : SessionCall} (h : KeptPrivate session r)
    (hplaced : Placed session r c) : c.stackGiven r.kernel = [] := by
  cases c with
  | createThread stackSize startRoutine arg =>
    unfold SessionCall.stackGiven
    dsimp only
    split
    next base heap hok => exact absurd hok (h.noStack hplaced _)
    next => rfl
  | _ => rfl

/-- One call keeps the invariant. -/
theorem keptPrivate_next {c : SessionCall} (h : KeptPrivate session r) (hplaced : Placed session r c) :
    KeptPrivate session (SessionCall.next r c) := by
  unfold SessionCall.next
  rw [h.stackGiven hplaced, List.append_nil]
  exact h.kernelNext hplaced

end Steps

/-! ## Runs -/

/-- A prepared session has no secondary heaps. -/
theorem prepared_noHeaps (vfs : Vfs.Vfs) (handle : U32) (heap : GuestHeap) :
    (preparedRun vfs).kernel.secondaryHeaps[handle]? ≠ some heap := by
  simp [preparedRun]

/-- A prepared session has no committed regions. -/
theorem prepared_noRegions (vfs : Vfs.Vfs) (base : GuestAddr) (s : Span) :
    committedSpan (preparedRun vfs).kernel.vm base ≠ some s := by
  simp [preparedRun, committedSpan, VirtualMemoryManager.new]

/-- A prepared session has handed out nothing. -/
theorem prepared_noRanges (vfs : Vfs.Vfs) (name : RangeName) (s : Span) :
    rangeOf (preparedRun vfs) name ≠ some s := by
  intro hs
  cases (rangeOf_iff rfl rfl).1 hs with
  | allocation hheap hlive => exact prepared_noHeaps vfs _ _ hheap
  | region hcommitted => exact prepared_noRegions vfs _ _ hcommitted

/-- A prepared session keeps its memory private. -/
theorem keptPrivate_prepared (session : MachineSession δ) (vfs : Vfs.Vfs) :
    KeptPrivate session (preparedRun vfs) := by
  refine ⟨managed_new (by decide) (by decide), rfl, rfl, ?_, ?_, ?_⟩
  · intro handle heap h
    exact absurd h (prepared_noHeaps vfs handle heap)
  · intro name s hs
    exact absurd hs (prepared_noRanges vfs name s)
  · intro name name' s s' hs
    exact absurd hs (prepared_noRanges vfs name s)

/-- In every run of a prepared session whose calls hand out memory from lowest places that are
clear, what is handed out stays private. -/
theorem session_memory_private (session : MachineSession δ) (vfs : Vfs.Vfs)
    (calls : List SessionCall) (r : SessionRun)
    (hruns : Runs SessionCall.next (Placed session) calls (preparedRun vfs) r) :
    PrivateMemory session r :=
  (hruns.invariant (I := KeptPrivate session) (fun _ _ h hplaced => keptPrivate_next h hplaced)
    (keptPrivate_prepared session vfs)).memory

/-- A session with 64 MiB of RAM and an image of 128 KiB at 0x00010000. -/
def retailSession : MachineSession Unit where
  ram := { size := kRamSizeRetail, data := fun _ => 0 }
  created := ⟨kRamSizeRetail, rfl⟩
  gpuWindow := ⟨none, none⟩
  usbWindow := ⟨none, none⟩
  devices := ()
  loadPlan := ⟨0x00010000, 0x00020000, by decide, by decide⟩

/-- The regions of a retail machine. -/
theorem retailSession_regions : retailSession.space.regions =
    [⟨0, 0x04000000, .all, .ram 0 0⟩, ⟨0xFD000000, 0x01000000, .readWrite, .mmio ⟨none, none⟩⟩,
      ⟨0xFED00000, 0x1000, .readWrite, .mmio ⟨none, none⟩⟩] := rfl

/-- RAM above the first stack is clear. -/
theorem clearRam_retailSession {s : Span} (hlow : 0x00070000 ≤ s.start) (hhigh : s.stop ≤ 0x04000000) :
    ClearRam retailSession s := by
  refine ⟨⟨⟨0, 0x04000000, .all, .ram 0 0⟩, ?_, rfl, Nat.zero_le _, hhigh⟩, ?_, ?_⟩
  · simp [retailSession_regions]
  · refine .inr (Nat.le_trans ?_ hlow)
    decide
  · exact .inr hlow

/-- A heap in clear RAM, an allocation from it and a committed page. -/
def clearCalls : List SessionCall :=
  [.rtlCreateHeap (some 0x01000000) (some 0x10000), .rtlAllocateHeap 0x01000000 64,
   .ntAllocateVirtualMemory 0x02000000 0x1000 (kMemCommit ||| kMemReserve) kPageReadWrite]

/-- The session before the second call, and before the third. -/
def heapMade : SessionRun := SessionCall.next (preparedRun {}) (.rtlCreateHeap (some 0x01000000) (some 0x10000))

/-- A block is allocated from the heap. -/
def blockGiven : SessionRun := SessionCall.next heapMade (.rtlAllocateHeap 0x01000000 64)

/-- A heap of these runs lies where the first call has made it. -/
theorem heapSpan_of_only {r : SessionRun} {handle : U32} {heap : GuestHeap}
    (hheap : r.kernel.secondaryHeaps[handle]? = some heap)
    (hall : r.kernel.secondaryHeaps.toList.map (fun p => heapSpan p.2) = [⟨0x01000000, 0x10000⟩]) :
    heapSpan heap = ⟨0x01000000, 0x10000⟩ := by
  have hmem := List.mem_map_of_mem (f := fun p => heapSpan p.2)
    (Std.TreeMap.mem_toList_iff_getElem?_eq_some.2 hheap)
  rw [hall] at hmem
  exact List.mem_singleton.1 hmem

/-- The first call hands out nothing. -/
theorem placed_heapMade : Placed retailSession (preparedRun {})
    (.rtlCreateHeap (some 0x01000000) (some 0x10000)) := by
  constructor
  · intro name s hplace
    cases hplace
  · intro heap h
    exact absurd h (prepared_noHeaps {} _ heap)

/-- The heap hands out its first block, in clear RAM. -/
theorem placed_blockGiven : Placed retailSession heapMade (.rtlAllocateHeap 0x01000000 64) := by
  refine ⟨?_, trivial⟩
  intro name s hplace hnot
  cases hplace with
  | @allocation _ _ n h addr s _ hname hheap hfree =>
    have hn : named heapMade.kernel.heapManager 0x01000000 = some (.secondary 0x01000000) := rfl
    obtain rfl : HeapName.secondary 0x01000000 = n := Option.some.inj (hn.symm.trans hname)
    have hnew : heapOf heapMade.kernel.heapManager (.secondary 0x01000000) =
        some (GuestHeap.new 0x01000000 0x10000 8) := rfl
    obtain rfl : GuestHeap.new 0x01000000 0x10000 8 = h := Option.some.inj (hnew.symm.trans hheap)
    cases hfree with
    | @block b hblock hroom =>
      obtain rfl : b = { addr := 0x01000000, size := 0x10000 } := List.mem_singleton.1 hblock
      refine absurd ⟨clearRam_retailSession (by decide) (by decide), ?_⟩ hnot
      intro name' t ht _
      cases (rangeOf_iff rfl rfl).1 ht with
      | @allocation handle addr heap size hheap hlive =>
        have hempty : heap.activeAllocations.toList ∈ [([] : List (GuestAddr × U64))] :=
          List.mem_map_of_mem (f := fun p => p.2.activeAllocations.toList)
            (Std.TreeMap.mem_toList_iff_getElem?_eq_some.2 hheap)
        have hmem := Std.TreeMap.mem_toList_iff_getElem?_eq_some.2 hlive
        rw [List.mem_singleton.1 hempty] at hmem
        cases hmem
      | region hcommitted => exact absurd hcommitted (prepared_noRegions {} _ _)

/-- The page that is asked for is clear, and apart from the heap. -/
theorem placed_page : Placed retailSession blockGiven
    (.ntAllocateVirtualMemory 0x02000000 0x1000 (kMemCommit ||| kMemReserve) kPageReadWrite) := by
  have hkept : KeptPrivate retailSession blockGiven :=
    keptPrivate_next (keptPrivate_next (keptPrivate_prepared retailSession {}) placed_heapMade)
      placed_blockGiven
  refine ⟨?_, trivial⟩
  intro name s hplace hnot
  cases hplace with
  | committed _ _ hplace =>
    cases hplace with
    | automatic hbase _ _ => cases hbase
    | reserved _ htype _ _ => cases htype
    | requested _ _ _ _ =>
      refine absurd ⟨clearRam_retailSession (by decide) (by decide), ?_⟩ hnot
      intro name' t ht _
      cases (rangeOf_iff hkept.untouched hkept.given).1 ht with
      | allocation hheap hlive =>
        have hinside := (hkept.divided hheap).tiling.taken_inside (liveSpan_mem hlive)
        rw [heapSpan_of_only hheap rfl] at hinside
        exact .inr (Nat.le_trans hinside.2 (by decide))
      | region hcommitted => exact absurd hcommitted (prepared_noRegions {} _ _)

/-- The calls of the example keep the memory private. -/
theorem clearCalls_private :
    PrivateMemory retailSession (clearCalls.foldl SessionCall.next (preparedRun {})) :=
  session_memory_private retailSession {} clearCalls _
    (.cons placed_heapMade (.cons placed_blockGiven (.cons placed_page (.nil _))))

/-- The default heap gives out what is not RAM. -/
theorem default_heap_outside : ¬ ∀ (session : MachineSession Unit) (vfs : Vfs.Vfs)
    (calls : List SessionCall), PrivateMemory session (calls.foldl SessionCall.next (preparedRun vfs)) := by
  intro h
  have hrange : rangeOf ([SessionCall.rtlAllocateHeap 0 64].foldl SessionCall.next (preparedRun {}))
      (.allocation .default 0x10000000) = some ⟨0x10000000, 64⟩ := rfl
  obtain ⟨r, hr, hram, -, hstop⟩ := ((h retailSession {} _).clear hrange).inRam
  rw [retailSession_regions] at hr
  simp only [List.mem_cons, List.not_mem_nil, or_false] at hr
  obtain rfl | rfl | rfl := hr
  · exact absurd hstop (by decide)
  · cases hram
  · cases hram

end Xblob.Analysis
