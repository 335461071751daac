import Xblob.Analysis.FileCalls

/-!
# Enumerations of a directory

`QueryDirectoryFile` copies the entries of the directory and returns the first of them.  Nothing
remembers how far the guest has come, so only an empty directory is enumerated.
-/

set_option autoImplicit false

namespace Xblob.Analysis

open Xblob.Computation Xblob.Interface Xblob.Kernel Xblob.Memory Xblob.Memory.AddressSpace Xblob.Vfs

/-! ## The handle table of a file system in use -/

/-- The table has no more slots than handles can name, and each slot has a generation to give. -/
structure TableSound (v : Vfs) : Prop where
  limit : v.handleTable.maxHandles = 4096
  slots : v.handleTable.slots.length ≤ 4096
  generation : ∀ s ∈ v.handleTable.slots, s.generation ≠ 0

variable {v v' : Vfs}

/-- Slots that are changed without losing their generation. -/
theorem TableSound.modify (h : TableSound v) (i : ℕ)
    {f : HandleSlot ByteSource VfsFileInfo → HandleSlot ByteSource VfsFileInfo}
    (hf : ∀ s, s.generation ≠ 0 → (f s).generation ≠ 0) (mounts : ByteString → Option VfsVolume) :
    TableSound { mounts := mounts
                 handleTable := { v.handleTable with slots := v.handleTable.slots.modify i f } } := by
  refine ⟨h.limit, by simpa using h.slots, fun s hs => ?_⟩
  rcases VfsTable.mem_modify hs with hs | ⟨t, ht, rfl⟩
  · exact h.generation s hs
  · exact hf t (h.generation t ht)

/-- A slot is allocated: a free one, or a new one at the end. -/
theorem TableSound.allocateSlot (h : TableSound v) {i : ℕ}
    {t : VfsHandleTable ByteSource VfsFileInfo} (halloc : v.handleTable.allocateSlot = .ok (i, t)) :
    TableSound { v with handleTable := t } ∧ i < t.slots.length ∧
      ∃ s, t.slots[i]? = some s ∧ s.generation ≠ 0 := by
  unfold VfsHandleTable.allocateSlot at halloc
  split at halloc
  next j hfree =>
    cases halloc
    obtain ⟨hlt, -⟩ := List.findIdx?_eq_some_iff_getElem.1 hfree
    exact ⟨h, hlt, _, List.getElem?_eq_getElem hlt, h.generation _ (List.getElem_mem hlt)⟩
  next =>
    split at halloc
    · cases halloc
    next hroom =>
      cases halloc
      have hroom' : v.handleTable.slots.length < 4096 := by
        rw [← h.limit]
        exact Nat.lt_of_not_le hroom
      refine ⟨⟨h.limit, ?_, fun s hs => ?_⟩, by simp, _, List.getElem?_concat_length, by decide⟩
      · rw [List.length_append]
        exact hroom'
      · rcases List.mem_append.1 hs with hs | hs
        · exact h.generation s hs
        · rw [List.mem_singleton.1 hs]
          decide

/-- A slot is allocated and filled. -/
theorem TableSound.fill (h : TableSound v) {i : ℕ} {t : VfsHandleTable ByteSource VfsFileInfo}
    (halloc : v.handleTable.allocateSlot = .ok (i, t))
    {fill : HandleSlot ByteSource VfsFileInfo → HandleSlot ByteSource VfsFileInfo}
    (hfill : ∀ s, (fill s).generation = s.generation) :
    TableSound { v with handleTable := (t.fillSlot i fill).2 } := by
  obtain ⟨hsound, -⟩ := h.allocateSlot halloc
  exact hsound.modify i (fun s hs => by rw [hfill]; exact hs) v.mounts

/-- The handle of a slot that was allocated and filled leads to it. -/
theorem TableSound.openSlot_filled (h : TableSound v) {i : ℕ} {handle : VfsHandle}
    {t table : VfsHandleTable ByteSource VfsFileInfo}
    (halloc : v.handleTable.allocateSlot = .ok (i, t))
    {fill : HandleSlot ByteSource VfsFileInfo → HandleSlot ByteSource VfsFileInfo}
    (hfilled : t.fillSlot i fill = (handle, table)) (hopen : ∀ s, (fill s).isOpen = true)
    (hfill : ∀ s, (fill s).generation = s.generation) (stale : String) :
    ∃ s, handle.isValid = true ∧ table.openSlot handle stale = .ok (fill s) := by
  obtain ⟨hsound, hlt, s, hat, hgeneration⟩ := h.allocateSlot halloc
  obtain ⟨hhandle, htable⟩ := Prod.mk.inj hfilled
  have hindex : handle.index.toNat = i := by
    have hbound : i < 4096 := Nat.lt_of_lt_of_le hlt hsound.slots
    rw [← hhandle, BitVec.toNat_ofNat]
    omega
  have hname : handle.generation = s.generation := by
    rw [← hhandle]
    simp [hat]
  refine ⟨s, by simpa [VfsHandle.isValid, hname] using hgeneration, ?_⟩
  refine VfsTable.openSlot_ok_iff.2 ⟨by rwa [hname], ?_, hopen s, (hfill s).trans hname.symm⟩
  rw [hindex, ← htable]
  simp [List.getElem?_modify_eq, hat]

/-- No generation is zero. -/
theorem nextGeneration_nonzero (g : U16) : VfsHandleTable.nextGeneration g ≠ 0 := by
  unfold VfsHandleTable.nextGeneration
  split
  · decide
  · assumption

/-- A position set keeps the handle table sound. -/
theorem TableSound.setPosition (h : TableSound v) (handle : VfsHandle) (position : U64) :
    TableSound (v.setPosition handle position) :=
  h.modify handle.index.toNat (f := fun slot => { slot with file := { slot.file with position := position } })
    (fun _ hs => hs) v.mounts

/-- Opening a file keeps the handle table sound. -/
theorem TableSound.openFile (h : TableSound v) {path : ByteString} {mode : VfsAccessMode}
    {handle : VfsHandle} (hopen : v.openFile path mode = .ok (handle, v')) : TableSound v' := by
  unfold Vfs.openFile at hopen
  obtain ⟨⟨source, info⟩, -, hopen⟩ := bind_eq_ok hopen
  obtain ⟨⟨handle', table⟩, halloc, hopen⟩ := bind_eq_ok hopen
  cases hopen
  unfold VfsHandleTable.allocateFile at halloc
  split at halloc
  · cases halloc
  · split at halloc
    · cases halloc
    next i t hslot =>
      have htable := congrArg Prod.snd (Except.ok.inj halloc)
      dsimp only at htable
      rw [← htable]
      exact h.fill hslot fun _ => rfl

/-- The slot a directory is opened in. -/
theorem openDirectory_allocates {path : ByteString} {handle : VfsHandle}
    (hopen : v.openDirectory path = .ok (handle, v')) :
    ∃ parsed volume entries info table, parseAndNormalizeXboxPath path = .ok parsed ∧
      v.resolveVolume parsed.mountAlias = .ok volume ∧
      volume.listDirectory parsed.relativePath = .ok entries ∧
      v.handleTable.allocateDir entries info = .ok (handle, table) ∧
      v' = { v with handleTable := table } := by
  unfold Vfs.openDirectory at hopen
  obtain ⟨parsed, hparsed, hopen⟩ := bind_eq_ok hopen
  obtain ⟨volume, hvolume, hopen⟩ := bind_eq_ok hopen
  have hlisted : ∀ info, ((volume.listDirectory parsed.relativePath >>= fun entries =>
      v.handleTable.allocateDir entries info >>= fun allocated =>
        .ok (allocated.1, { v with handleTable := allocated.2 })) : Result (VfsHandle × Vfs)) =
          .ok (handle, v') → ∃ parsed volume entries info table,
            parseAndNormalizeXboxPath path = .ok parsed ∧
              v.resolveVolume parsed.mountAlias = .ok volume ∧
              volume.listDirectory parsed.relativePath = .ok entries ∧
              v.handleTable.allocateDir entries info = .ok (handle, table) ∧
              v' = { v with handleTable := table } := by
    intro info h
    obtain ⟨entries, hentries, h⟩ := bind_eq_ok h
    obtain ⟨⟨handle', table⟩, halloc, h⟩ := bind_eq_ok h
    cases h
    exact ⟨parsed, volume, entries, info, table, hparsed, hvolume, hentries, halloc, rfl⟩
  dsimp only at hopen
  split at hopen
  · exact hlisted _ hopen
  · obtain ⟨info, -, hopen⟩ := bind_eq_ok hopen
    split at hopen
    · exact hlisted _ hopen
    · cases hopen

/-- Opening a directory keeps the handle table sound. -/
theorem TableSound.openDirectory (h : TableSound v) {path : ByteString} {handle : VfsHandle}
    (hopen : v.openDirectory path = .ok (handle, v')) : TableSound v' := by
  obtain ⟨parsed, volume, entries, info, table, -, -, -, halloc, rfl⟩ := openDirectory_allocates hopen
  unfold VfsHandleTable.allocateDir at halloc
  split at halloc
  · cases halloc
  next i t hslot =>
    have htable := congrArg Prod.snd (Except.ok.inj halloc)
    dsimp only at htable
    rw [← htable]
    exact h.fill hslot fun _ => rfl

/-- Reading keeps the handle table sound. -/
theorem TableSound.read (h : TableSound v) {handle : VfsHandle} {n : ℕ} {bytes : List U8}
    (hread : v.read handle n = .ok (bytes, v')) : TableSound v' := by
  unfold Vfs.read at hread
  obtain ⟨file, -, hread⟩ := bind_eq_ok hread
  split at hread
  · cases hread
    exact h
  · dsimp only at hread
    split at hread
    · cases hread
      exact h
    · obtain ⟨bytes', -, hread⟩ := bind_eq_ok hread
      cases hread
      exact h.setPosition _ _

/-- Seeking keeps the handle table sound. -/
theorem TableSound.seek (h : TableSound v) {handle : VfsHandle} {offset position : U64}
    {origin : VfsSeekOrigin} (hseek : v.seek handle offset origin = .ok (position, v')) :
    TableSound v' := by
  unfold Vfs.seek at hseek
  obtain ⟨file, -, hseek⟩ := bind_eq_ok hseek
  cases origin <;>
  · dsimp only at hseek
    split at hseek
    · cases hseek
    · cases hseek
      exact h.setPosition _ _

/-- Closing keeps the handle table sound. -/
theorem TableSound.close (h : TableSound v) {handle : VfsHandle} (hclose : v.close handle = .ok v') :
    TableSound v' := by
  unfold Vfs.close VfsHandleTable.close at hclose
  split at hclose
  · cases hclose
  · cases hclose
    exact h.modify _ (fun s _ => nextGeneration_nonzero s.generation) v.mounts

/-- Resetting keeps the handle table sound. -/
theorem TableSound.reset (h : TableSound v) : TableSound v.reset := by
  refine ⟨h.limit, by simpa [Vfs.reset] using h.slots, fun s hs => ?_⟩
  obtain ⟨t, ht, rfl⟩ := List.mem_map.1 hs
  split
  · exact nextGeneration_nonzero t.generation
  · exact h.generation t ht

/-- Every call keeps the table. -/
theorem TableSound.apply (h : TableSound v) (call : FileSystemCall) (hcall : call.apply v = .ok v') :
    TableSound v' := by
  cases call with
  | mount mountAlias volume =>
    change v.mount mountAlias volume = .ok v' at hcall
    unfold Vfs.mount at hcall
    split at hcall
    · cases hcall
    · split at hcall
      · cases hcall
      · cases hcall
        exact ⟨h.limit, h.slots, h.generation⟩
  | unmount mountAlias =>
    change v.unmount mountAlias = .ok v' at hcall
    unfold Vfs.unmount at hcall
    split at hcall
    · cases hcall
    · cases hcall
      exact ⟨h.limit, h.slots, h.generation⟩
  | openFile path mode =>
    obtain ⟨⟨handle, v''⟩, hopen, rfl⟩ := exists_of_map_ok hcall
    exact h.openFile hopen
  | openDirectory path =>
    obtain ⟨⟨handle, v''⟩, hopen, rfl⟩ := exists_of_map_ok hcall
    exact h.openDirectory hopen
  | close handle => exact h.close hcall
  | read handle n =>
    obtain ⟨⟨bytes, v''⟩, hread, rfl⟩ := exists_of_map_ok hcall
    exact h.read hread
  | seek handle offset origin =>
    obtain ⟨⟨position, v''⟩, hseek, rfl⟩ := exists_of_map_ok hcall
    exact h.seek hseek
  | reset =>
    cases hcall
    exact h.reset

/-- The table of a file system in use. -/
theorem fileSystem_sound (calls : List FileSystemCall) : TableSound (fileSystemAfter calls) := by
  have hrun : ∀ (calls : List FileSystemCall) (v : Vfs), TableSound v →
      TableSound (calls.foldl FileSystemCall.next v) := by
    intro calls
    induction calls with
    | nil => exact fun v h => h
    | cons call rest ih =>
      intro v h
      apply ih
      unfold FileSystemCall.next
      cases hcall : call.apply v with
      | error e => exact h
      | ok v' => exact h.apply call hcall
  exact hrun calls {} ⟨rfl, by simp, by simp⟩

/-! ## The entries of an opened directory -/

/-- The handle of a directory leads to the entries that were listed. -/
theorem enumerate_opened (h : TableSound v) {path : ByteString} {handle : VfsHandle}
    {parsed : ParsedXboxPath} {volume : VfsVolume} {entries : List VfsDirEntry}
    (hopen : v.openDirectory path = .ok (handle, v'))
    (hparses : parseAndNormalizeXboxPath path = .ok parsed)
    (hresolves : v.resolveVolume parsed.mountAlias = .ok volume)
    (hlists : volume.listDirectory parsed.relativePath = .ok entries) :
    handle.isValid = true ∧ v'.enumerateDirectory handle = .ok entries := by
  obtain ⟨parsed', volume', entries', info, table, hparses', hresolves', hlists', halloc, rfl⟩ :=
    openDirectory_allocates hopen
  rw [hparses] at hparses'
  cases hparses'
  rw [hresolves] at hresolves'
  cases hresolves'
  rw [hlists] at hlists'
  cases hlists'
  unfold VfsHandleTable.allocateDir at halloc
  split at halloc
  · cases halloc
  next i t hslot =>
    obtain ⟨s, hvalid, hslot'⟩ := h.openSlot_filled hslot (Except.ok.inj halloc)
      (fun _ => rfl) (fun _ => rfl) "Handle is stale or closed"
    refine ⟨hvalid, ?_⟩
    unfold Vfs.enumerateDirectory VfsHandleTable.getDir
    dsimp only
    rw [hslot']
    rfl

/-- A handle packed and unpacked is itself. -/
theorem fromU32_toU32 (handle : VfsHandle) : fromU32 (toU32 handle) = handle := by
  obtain ⟨index, generation⟩ := handle
  exact congrArg₂ VfsHandle.mk (getHandleIndex_encodeHandle index generation)
    (getHandleGeneration_encodeHandle index generation)

/-! ## The calls -/

/-- The guest memory answers every request. -/
theorem sure_guestAnswer {δ : Type} (request : GuestRequest) (space : AddressSpace δ) :
    Sure (answer request) space := by
  have hattempt : ∀ {β : Type} (f : EStateM Error (AddressSpace δ) β), Sure (attempt f) space := by
    intro β f e space' h
    change attempt f space = _ at h
    unfold attempt at h
    split at h <;> cases h
  cases request with
  | validateRange addr len perm =>
    intro e space' h
    cases h
  | _ => exact hattempt _

/-- Any request, and any value it returns is taken. -/
theorem settled_ask (request : GuestRequest) :
    (Guest.ask request).Settled (fun _ => True) fun _ => True := ⟨trivial, fun _ => trivial⟩

/-- Writing words only makes requests. -/
theorem writeWords_settled (words : List (GuestAddr × U32)) :
    (Guest.writeWords words).Settled (fun _ => True) fun _ => True := by
  induction words with
  | nil => trivial
  | cons word rest ih => exact (settled_ask _).bind fun _ _ => ih

/-- Writing bytes only makes requests. -/
theorem writeEach_settled (bytes : List U8) (addr : GuestAddr) :
    (KernelFileServices.writeEach addr bytes).Settled (fun _ => True) fun _ => True := by
  induction bytes generalizing addr with
  | nil => trivial
  | cons b rest ih => exact (settled_ask _).bind fun _ _ => ih _

/-- `QueryDirectoryFile` returns, with the services as they are. -/
theorem query_settled (f : KernelFileServices) (handleVal outEntryPtr length : U32) :
    (f.queryDirectoryFile handleVal outEntryPtr length).Settled (fun _ => True)
      fun value => value.2 = f := by
  unfold KernelFileServices.queryDirectoryFile
  split
  · rfl
  · split
    · rfl
    · refine (settled_ask _).bind fun valid _ => ?_
      cases valid with
      | error e => rfl
      | ok u =>
        dsimp only
        split
        · rfl
        · split
          · rfl
          · rfl
          · exact (writeWords_settled _).bind fun _ _ => (writeEach_settled _ _).bind fun _ _ => rfl

/-- A directory query always returns a status and leaves the services. -/
theorem query_returns {δ : Type} (f : KernelFileServices) (handleVal outEntryPtr length : U32)
    (space : AddressSpace δ) : ∃ status space',
      ((f.queryDirectoryFile handleVal outEntryPtr length).run answer).run space =
        .ok (status, f) space' := by
  have hsettled := query_settled f handleVal outEntryPtr length
  cases h : ((f.queryDirectoryFile handleVal outEntryPtr length).run answer).run space with
  | ok value space' =>
    have hvalue : value.2 = f := hsettled.within.returns h
    exact ⟨value.1, space', by rw [← hvalue]⟩
  | error e space' => exact absurd h (hsettled.sure (fun r _ s => sure_guestAnswer r s) space e space')

section Calls

variable {δ : Type} (r : Enumeration δ)

/-- The handle of an opened directory is valid and lists its entries. -/
theorem opened_entries :
    r.handle.isValid = true ∧ r.vfs.enumerateDirectory r.handle = .ok r.entries :=
  enumerate_opened (fileSystem_sound r.calls) r.opens r.parses r.resolves r.lists

/-- A call with no entries says so, and changes nothing. -/
theorem query_empty {f : KernelFileServices} {space : AddressSpace δ} {b : GuestBuffer} {c : Cell}
    (hvfs : f.vfs = some r.vfs) (hempty : r.entries = []) (hlength : 28 ≤ b.length.toNat)
    (hram : blockAt space b.addr b.length.toNat .write = some c) :
    ((f.queryDirectoryFile (toU32 r.handle) b.addr b.length).run answer).run space =
      .ok (kStatusNoMoreFiles, f) space := by
  obtain ⟨hvalid, hentries⟩ := opened_entries r
  obtain ⟨reg, ramOffset, hreg, -⟩ := blockAt_some hram
  rw [BitVec.ofNat_toNat, BitVec.setWidth_eq] at hreg
  have hrange : space.validateRange b.addr b.length .write = .ok () := by
    unfold AddressSpace.validateRange
    split
    · rfl
    · rw [hreg]
      rfl
  have hlarge : ¬ b.length < 28 := by
    rw [BitVec.lt_def]
    exact Nat.not_lt.2 hlength
  unfold KernelFileServices.queryDirectoryFile
  rw [hvfs]
  dsimp only
  rw [if_neg hlarge, asked_validateRange, hrange]
  dsimp only
  rw [fromU32_toU32, hvalid, if_neg (by decide), hentries, hempty]
  rfl

/-- A call with entries does not say that there are no more. -/
theorem query_nonempty {f f' : KernelFileServices} {space space' : AddressSpace δ} {b : GuestBuffer}
    {status : U32} (hvfs : f.vfs = some r.vfs) (hsome : r.entries ≠ [])
    (hruns : ((f.queryDirectoryFile (toU32 r.handle) b.addr b.length).run answer).run space =
      .ok (status, f') space') : status ≠ kStatusNoMoreFiles := by
  obtain ⟨hvalid, hentries⟩ := opened_entries r
  have hinvalid : kNtStatusInvalidParameter ≠ kStatusNoMoreFiles := by decide
  have hsuccess : kNtStatusSuccess ≠ kStatusNoMoreFiles := by decide
  have hvalues : (f.queryDirectoryFile (toU32 r.handle) b.addr b.length).Within (fun _ => True)
      fun value => value.1 ≠ kStatusNoMoreFiles := by
    unfold KernelFileServices.queryDirectoryFile
    rw [hvfs]
    dsimp only
    split
    · exact hinvalid
    · refine Program.within_then fun valid => ?_
      cases valid with
      | error e => exact hinvalid
      | ok u =>
        dsimp only
        rw [fromU32_toU32, hvalid, if_neg (by decide), hentries]
        cases hcons : r.entries with
        | nil => exact absurd hcons hsome
        | cons e rest => exact Program.within_then fun _ => Program.within_then fun _ => hsuccess
  exact hvalues.returns hruns

/-- The calls leave the services as they are. -/
theorem enumeration_services (k : ℕ) : r.services k = { vfs := some r.vfs } := by
  induction k with
  | zero => exact r.served
  | succ k ih =>
    obtain ⟨status, space', hreturns⟩ := query_returns (r.services k) (toU32 r.handle)
      (r.buffer k).addr (r.buffer k).length (r.memory k)
    rw [r.returns k] at hreturns
    obtain ⟨hvalue, -⟩ := EStateM.Result.ok.inj hreturns
    rw [(Prod.mk.inj hvalue).2, ih]

/-- The calls on an empty directory all say that there are no more entries. -/
theorem enumeration_empty (hempty : r.entries = []) (k : ℕ) : r.status k = kStatusNoMoreFiles := by
  have hcall : ∀ k, r.memory k = r.memory 0 →
      r.status k = kStatusNoMoreFiles ∧ r.memory (k + 1) = r.memory 0 := by
    intro k hmemory
    have hreturns := r.returns k
    rw [query_empty r (by rw [enumeration_services r k]) hempty (r.large k).1
      (by rw [hmemory]; exact r.inRam k)] at hreturns
    obtain ⟨hvalue, hspace⟩ := EStateM.Result.ok.inj hreturns
    exact ⟨(Prod.mk.inj hvalue).1.symm, by rw [← hspace, hmemory]⟩
  have hmemory : r.memory k = r.memory 0 := by
    induction k with
    | zero => rfl
    | succ k ih => exact (hcall k ih).2
  exact (hcall k hmemory).1

/-- A directory with entries never ends. -/
theorem not_complete_of_entries (hsome : r.entries ≠ []) : ¬ r.Complete := by
  intro h
  have hservices := enumeration_services r r.entries.length
  exact query_nonempty r (by rw [hservices]) hsome (r.returns _) (h.done _ (le_refl _))

/-- An enumeration is complete exactly when the directory has no entries. -/
theorem enumeration_complete_iff : r.Complete ↔ r.entries = [] := by
  constructor
  · intro h
    by_contra hsome
    exact not_complete_of_entries r hsome h
  · intro hempty
    refine ⟨fun k e he => ?_, fun k _ => enumeration_empty r hempty k⟩
    rw [hempty] at he
    cases he

end Calls

/-! ## A directory of one file -/

/-- A volume with one file. -/
def namedFileVolume : VfsVolume where
  queryInfo := fun _ => .error { code := .fileNotFound, message := "" }
  openFile := fun _ => .error { code := .fileNotFound, message := "" }
  listDirectory := fun _ => .ok [{ name := [0x41] }]

/-- The calls that mount it. -/
def namedFileCalls : List FileSystemCall := [.mount [0x44] (some namedFileVolume)]

/-- The file system with the root of the volume open. -/
def rootOpen : Vfs where
  mounts := (fileSystemAfter namedFileCalls).mounts
  handleTable :=
    { slots := [{ generation := 1, isOpen := true, type := .directory,
                  dir := { entries := [{ name := [0x41] }],
                           info := some { name := ascii "\\", isDirectory := true } } }] }

/-- The drive of the example resolves to its volume. -/
theorem namedFile_resolves :
    (fileSystemAfter namedFileCalls).resolveVolume [0x44] = .ok namedFileVolume := rfl

/-- The root of the example opens. -/
theorem rootOpen_eq : (fileSystemAfter namedFileCalls).openDirectory (ascii "D:\\") =
    .ok (⟨0, 1⟩, rootOpen) := by
  have hparse : parseAndNormalizeXboxPath (ascii "D:\\") = .ok ⟨[0x44], []⟩ := rfl
  have hlist : namedFileVolume.listDirectory [] = .ok [{ name := [0x41] }] := rfl
  have halloc : (fileSystemAfter namedFileCalls).handleTable.allocateDir [{ name := [0x41] }]
      { name := ascii "\\", isDirectory := true } = .ok (⟨0, 1⟩, rootOpen.handleTable) := rfl
  unfold Vfs.openDirectory
  simp only [hparse, namedFile_resolves, Bind.bind, Except.bind, if_pos, hlist, halloc]
  rfl

/-- The services with the root open. -/
def rootServices : KernelFileServices := { vfs := some rootOpen }

/-- What a call on the root returns. -/
def rootQueried (space : AddressSpace Unit) :
    EStateM.Result Error (AddressSpace Unit) (U32 × KernelFileServices) :=
  ((rootServices.queryDirectoryFile (toU32 ⟨0, 1⟩) 0x200 0x100).run answer).run space

/-- Memory after calls on the root. -/
def rootMemory : ℕ → AddressSpace Unit
  | 0 => zeroSpace
  | k + 1 => stateAfter (rootQueried (rootMemory k))

/-- The status of a result. -/
def statusOf (result : EStateM.Result Error (AddressSpace Unit) (U32 × KernelFileServices)) : U32 :=
  match result with
  | .ok value _ => value.1
  | .error _ _ => kNtStatusUnsuccessful

/-- A query of the example root returns. -/
theorem rootQueried_eq (space : AddressSpace Unit) : rootQueried space =
    .ok (statusOf (rootQueried space), rootServices) (stateAfter (rootQueried space)) := by
  obtain ⟨status, space', hreturns⟩ := query_returns rootServices (toU32 ⟨0, 1⟩) 0x200 0x100 space
  have hqueried : rootQueried space = .ok (status, rootServices) space' := hreturns
  rw [hqueried]
  rfl

/-- Calls on the root of a volume with one file. -/
def rootEnumeration : Enumeration Unit where
  calls := namedFileCalls
  path := ascii "D:\\"
  handle := ⟨0, 1⟩
  vfs := rootOpen
  opens := rootOpen_eq
  parsed := ⟨[0x44], []⟩
  parses := rfl
  volume := namedFileVolume
  resolves := namedFile_resolves
  entries := [{ name := [0x41] }]
  lists := rfl
  buffer := fun _ => ⟨0x200, 0x100⟩
  cell := fun _ => (0, 0x200)
  services := fun _ => rootServices
  memory := rootMemory
  status := fun k => statusOf (rootQueried (rootMemory k))
  served := rfl
  large := by simp
  inRam := fun _ => rfl
  returns := fun k => rootQueried_eq (rootMemory k)

/-- The second call returns success again. -/
theorem root_enumerated_again : rootEnumeration.entries.length = 1 ∧
    rootEnumeration.status 0 = kNtStatusSuccess ∧ rootEnumeration.status 1 = kNtStatusSuccess ∧
      ¬ rootEnumeration.Complete := by
  refine ⟨rfl, rfl, rfl, not_complete_of_entries rootEnumeration ?_⟩
  exact List.cons_ne_nil _ _

end Xblob.Analysis
