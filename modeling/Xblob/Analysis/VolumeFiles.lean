import Xblob.Analysis.DirectoryQueries
import Xblob.Analysis.DirectoryTables
import Xblob.Interface.VolumeFiles

/-!
# The files of a volume

The volume, the part of the image and the handle table each clip, add and check bounds on their
own.  What is proved is that all three return the bytes of the file and no others.
-/

set_option autoImplicit false

namespace Xblob.Analysis

open Xblob.Computation Xblob.Formats Xblob.Interface Xblob.Vfs

/-! ## Bytes of an image -/

section Bytes

variable (image : ℕ → U8)

/-- A stretch of an image has its length. -/
@[simp] theorem length_imageBytes (start n : ℕ) : (imageBytes image start n).length = n := by
  simp [imageBytes]

/-- Bytes from a place on, and those behind them. -/
theorem imageBytes_add (start m n : ℕ) :
    imageBytes image start (m + n) = imageBytes image start m ++ imageBytes image (start + m) n := by
  simp [imageBytes, List.range_add, List.map_map, Function.comp_def, Nat.add_assoc]

end Bytes

/-! ## The part of the image -/

section File

variable (f : VolumeFile)

/-- The size of a file, as a number. -/
@[simp] theorem fileSize_toNat : (f.entry.fileSize.setWidth 64 : U64).toNat = f.size :=
  BitVec.toNat_setWidth_of_le (by decide)

/-- The size of a file is below 4 GiB. -/
theorem size_lt : f.size < 2 ^ 32 := f.entry.fileSize.isLt

/-- An offset in the file, as an offset in the image. -/
theorem offset_toNat (offset : U64) (h : offset.toNat ≤ f.size) :
    (f.entry.offsetInImage + offset).toNat = f.entry.offsetInImage.toNat + offset.toNat := by
  have hinside := f.inside
  have hsource : f.volume.source.size.toNat < 2 ^ 64 := f.volume.source.size.isLt
  have hsize : f.size = f.entry.fileSize.toNat := rfl
  rw [BitVec.toNat_add]
  omega

/-- The image at an offset in the file. -/
theorem source_readAt {offset : U64} {n : ℕ} (h : offset.toNat + n ≤ f.size) :
    f.volume.source.readAt (f.entry.offsetInImage + offset) n = .ok (f.bytes offset.toNat n) := by
  have hoffset := offset_toNat f offset (by omega)
  have hsize : f.size = f.entry.fileSize.toNat := rfl
  rw [f.faithful, hoffset]
  · rfl
  · unfold Span.Inside Span.stop
    dsimp only
    omega

/-- A read within the part of a file reads the file. -/
theorem part_readAt {offset : U64} {n : ℕ} (h : offset.toNat + n ≤ f.size) :
    f.part.readAt offset n = .ok (f.bytes offset.toNat n) := by
  by_cases hn : n = 0
  · subst hn
    rfl
  · have hlt := size_lt f
    have hinside := f.inside
    have hsource : f.volume.source.size.toNat < 2 ^ 64 := f.volume.source.size.isLt
    have hsize : f.size = f.entry.fileSize.toNat := rfl
    have hrange : Io.rangeInBounds offset (BitVec.ofNat 64 n) (f.entry.fileSize.setWidth 64) = true := by
      rw [rangeInBounds_iff, fileSize_toNat, BitVec.toNat_ofNat, Nat.mod_eq_of_lt (by omega)]
      exact h
    unfold Io.SubrangeByteSource.readAt VolumeFile.part
    dsimp only
    rw [if_neg hn, hrange, checkedAdd_eq, Bool.not_true, if_neg Bool.false_ne_true,
      if_pos (by rw [BitVec.toNat_allOnes]; omega)]
    exact source_readAt f h

/-- Past the end of the file the part of the image fails. -/
theorem part_readAt_past {offset n : U64} (hn : n ≠ 0) (h : f.size < offset.toNat + n.toNat) :
    f.part.readAt offset n.toNat =
      .error { code := .outOfBounds, message := "Read out of subrange bounds", offset := offset } := by
  have hne : n.toNat ≠ 0 := fun h0 => hn (BitVec.eq_of_toNat_eq h0)
  have hrange : ¬ Io.rangeInBounds offset n (f.entry.fileSize.setWidth 64) = true := by
    rw [rangeInBounds_iff, fileSize_toNat]
    omega
  unfold Io.SubrangeByteSource.readAt VolumeFile.part
  dsimp only
  rw [if_neg hne, BitVec.ofNat_toNat, BitVec.setWidth_eq, Bool.not_eq_true] at *
  rw [hrange]
  rfl

/-! ## Reads at an offset -/

/-- A read through the volume reads what is available of the file. -/
theorem readFileAt_eq (offset n : U64) : f.volume.readFileAt f.entry offset n.toNat =
    .ok (f.bytes offset.toNat (f.available offset.toNat n.toNat)) := by
  unfold XdvdfsVolume.readFileAt
  rw [f.isFile, if_neg Bool.false_ne_true]
  by_cases hn : n.toNat = 0
  · rw [if_pos hn]
    unfold VolumeFile.available
    rw [hn, Nat.zero_min]
    rfl
  · rw [if_neg hn]
    by_cases hend : offset ≥ f.entry.fileSize.setWidth 64
    · rw [if_pos hend]
      rw [ge_iff_le, BitVec.le_def, fileSize_toNat] at hend
      unfold VolumeFile.available
      rw [Nat.sub_eq_zero_of_le hend, Nat.min_zero]
      rfl
    · rw [if_neg hend]
      rw [ge_iff_le, BitVec.le_def, fileSize_toNat] at hend
      have hlt := size_lt f
      have hinside := f.inside
      have hsize : f.size = f.entry.fileSize.toNat := rfl
      have hoffset := offset_toNat f offset (by omega)
      have hleft : (f.entry.fileSize.setWidth 64 - offset).toNat = f.size - offset.toNat := by
        rw [BitVec.toNat_sub_of_le (by rw [BitVec.le_def, fileSize_toNat]; omega), fileSize_toNat]
      have htoRead : min n.toNat (f.size - offset.toNat) ≤ f.size - offset.toNat := Nat.min_le_right _ _
      have hrange : Io.rangeInBounds (f.entry.offsetInImage + offset)
          (BitVec.ofNat 64 (min n.toNat (f.size - offset.toNat))) f.volume.source.size = true := by
        rw [rangeInBounds_iff, hoffset, BitVec.toNat_ofNat, Nat.mod_eq_of_lt (by omega)]
        omega
      dsimp only
      rw [hleft, hrange]
      exact source_readAt f (by omega)

/-- The file opened is its part of the image. -/
theorem openFile_part : f.volume.openFile f.entry = .ok f.part := by
  have hrange : Io.rangeInBounds f.entry.offsetInImage (f.entry.fileSize.setWidth 64)
      f.volume.source.size = true := by
    rw [rangeInBounds_iff, fileSize_toNat]
    exact f.inside
  unfold XdvdfsVolume.openFile Io.SubrangeByteSource.create
  dsimp only
  rw [f.isFile, if_neg Bool.false_ne_true, hrange]
  rfl

/-- The paths to a file agree on its part. -/
theorem parts_agree : f.PartsAgree where
  opened := openFile_part f
  readAt _ _ h := part_readAt f h
  past _ _ hn h := ⟨_, part_readAt_past f hn h⟩
  readFileAt := readFileAt_eq f

/-! ## Positions -/

variable {f} {v v' : Vfs} {handle : VfsHandle} {position : ℕ}

/-- A read of an open file. -/
theorem OpenOn.read (h : f.OpenOn v handle position) (n : U64) :
    ∃ v', v.read handle n.toNat = .ok (f.bytes position (f.available position n.toNat), v') ∧
      f.OpenOn v' handle (position + f.available position n.toNat) := by
  obtain ⟨hbound, mode, info, hslot, hinfo⟩ := h
  have hposition : (BitVec.ofNat 64 position).toNat = position := by
    rw [BitVec.toNat_ofNat]
    omega
  have hlt := size_lt f
  unfold Vfs.read
  rw [hslot]
  change ∃ v', ite _ _ _ = _ ∧ _
  have hfileSize : (Vfs.fileSize { source := some (subrangeSource f.part)
                                   position := BitVec.ofNat 64 position
                                   mode := mode, info := some info }).toNat = f.size := by
    change info.size.toNat = f.size
    rw [hinfo, fileSize_toNat]
  by_cases hnone : f.size ≤ position ∨ n.toNat = 0
  · have havailable : f.available position n.toNat = 0 := by
      unfold VolumeFile.available
      omega
    rw [havailable, if_pos]
    · exact ⟨v, rfl, hbound, mode, info, hslot, hinfo⟩
    · rw [ge_iff_le, BitVec.le_def, hfileSize, hposition]
      exact hnone
  · have hpast : position + f.available position n.toNat ≤ f.size := by
      unfold VolumeFile.available
      omega
    rw [if_neg]
    · have hleft : (Vfs.fileSize { source := some (subrangeSource f.part)
                                   position := BitVec.ofNat 64 position
                                   mode := mode, info := some info } -
          BitVec.ofNat 64 position).toNat = f.size - position := by
        rw [BitVec.toNat_sub_of_le (by rw [BitVec.le_def, hfileSize, hposition]; omega),
          hfileSize, hposition]
      have hread : f.part.readAt (BitVec.ofNat 64 position) (f.available position n.toNat) =
          .ok (f.bytes position (f.available position n.toNat)) := by
        rw [part_readAt f (by rw [hposition]; exact hpast), hposition]
      refine ⟨v.setPosition handle (BitVec.ofNat 64 (position + f.available position n.toNat)), ?_,
        by omega, mode, info, getFile_setPosition hslot _, hinfo⟩
      dsimp only
      rw [hleft]
      change (subrangeSource f.part).readAt _ (f.available position n.toNat) >>= _ = _
      unfold subrangeSource
      dsimp only
      rw [hread, BitVec.ofNat_add]
      rfl
    · rw [ge_iff_le, BitVec.le_def, hfileSize, hposition]
      exact hnone

/-- A sum at 64 bits is negative exactly when that of exact integers is no position. -/
theorem slt_target {base offset : U64} (hbase : base.toNat < 0x8000000000000000) :
    (base + offset).slt 0 = true ↔
      ¬ (0 ≤ (base.toNat : ℤ) + offset.toInt ∧
        (base.toNat : ℤ) + offset.toInt < 0x8000000000000000) := by
  have hoffset := BitVec.toInt_eq_toNat_cond offset
  have hlt : offset.toNat < 2 ^ 64 := offset.isLt
  have hsign : (base + offset).slt 0 = true ↔ (base + offset).msb = true :=
    BitVec.slt_zero_iff_msb_cond
  rw [hsign, BitVec.msb_eq_decide, decide_eq_true_iff, BitVec.toNat_add]
  omega

/-- A seek that stays in range, as a number. -/
theorem toNat_target {base offset : U64} (hbase : base.toNat < 0x8000000000000000)
    (h : 0 ≤ (base.toNat : ℤ) + offset.toInt ∧
      (base.toNat : ℤ) + offset.toInt < 0x8000000000000000) :
    (base + offset).toNat = ((base.toNat : ℤ) + offset.toInt).toNat := by
  have hoffset := BitVec.toInt_eq_toNat_cond offset
  have hlt : offset.toNat < 2 ^ 64 := offset.isLt
  rw [BitVec.toNat_add]
  omega

/-- Where the code's seek starts. -/
def seekBase (f : VolumeFile) (position : ℕ) : VfsSeekOrigin → U64
  | .begin => 0
  | .current => BitVec.ofNat 64 position
  | .end => f.entry.fileSize.setWidth 64

/-- The target of a seek, from its base. -/
theorem seekBase_target (hbound : position < 0x8000000000000000) (offset : U64)
    (origin : VfsSeekOrigin) : (seekBase f position origin).toNat < 0x8000000000000000 ∧
      f.target position offset origin = (seekBase f position origin).toNat + offset.toInt := by
  have hlt := size_lt f
  cases origin with
  | begin => simp [seekBase, VolumeFile.target]
  | current =>
    have hposition : (BitVec.ofNat 64 position).toNat = position := by
      rw [BitVec.toNat_ofNat]
      omega
    simp [seekBase, VolumeFile.target, hposition, hbound]
  | «end» =>
    refine ⟨?_, ?_⟩
    · unfold seekBase
      dsimp only
      rw [fileSize_toNat]
      omega
    · unfold seekBase VolumeFile.target
      dsimp only
      rw [fileSize_toNat]

/-- A seek of an open file. -/
theorem OpenOn.seek (h : f.OpenOn v handle position) (offset : U64) (origin : VfsSeekOrigin) :
    f.OpenOn ((FileSystemCall.seek handle offset origin).next v) handle
      (f.positionAfter position (.seek offset origin)) := by
  obtain ⟨hbound, mode, info, hslot, hinfo⟩ := h
  obtain ⟨hbase, htarget⟩ := seekBase_target (f := f) hbound offset origin
  have hseek : v.seek handle offset origin =
      if (seekBase f position origin + offset).slt 0 then
        .error { code := .invalidArgument, message := "Cannot seek before beginning of file" }
      else
        .ok (seekBase f position origin + offset,
          v.setPosition handle (seekBase f position origin + offset)) := by
    unfold Vfs.seek
    rw [hslot]
    cases origin with
    | begin => simp [seekBase, Bind.bind, Except.bind]
    | current => rfl
    | «end» =>
      change (if (info.size + offset).slt 0 then _ else
        Except.ok (info.size + offset, v.setPosition handle (info.size + offset))) = _
      rw [hinfo]
      rfl
  unfold FileSystemCall.next FileSystemCall.apply VolumeFile.positionAfter
  dsimp only
  rw [hseek, htarget]
  by_cases hrange : 0 ≤ ((seekBase f position origin).toNat : ℤ) + offset.toInt ∧
      ((seekBase f position origin).toNat : ℤ) + offset.toInt < 0x8000000000000000
  · have hnot : ¬ (seekBase f position origin + offset).slt 0 = true := by
      rw [slt_target hbase]
      exact not_not_intro hrange
    have hnat := toNat_target hbase hrange
    rw [if_neg hnot, if_pos hrange]
    refine ⟨by omega, mode, info, ?_, hinfo⟩
    rw [← hnat, BitVec.ofNat_toNat, BitVec.setWidth_eq]
    exact getFile_setPosition hslot _
  · rw [if_pos ((slt_target hbase).2 hrange), if_neg hrange]
    exact ⟨hbound, mode, info, hslot, hinfo⟩

/-- A use of an open file. -/
theorem OpenOn.next (h : f.OpenOn v handle position) (use : FileUse) :
    f.OpenOn ((use.call handle).next v) handle (f.positionAfter position use) := by
  cases use with
  | read n =>
    obtain ⟨v', hread, hopen⟩ := OpenOn.read h n
    change f.OpenOn (((Vfs.read v handle n.toNat).map Prod.snd).toOption.getD v) _ _
    rw [hread]
    exact hopen
  | seek offset origin => exact OpenOn.seek h offset origin

/-- A file stays open through reads and seeks, at the position they lead to. -/
theorem OpenOn.used (h : f.OpenOn v handle position) (uses : List FileUse) :
    f.OpenOn (usedFile handle v uses) handle (uses.foldl f.positionAfter position) := by
  induction uses generalizing v position with
  | nil => exact h
  | cons use uses ih => exact ih (OpenOn.next h use)

/-! ## Reads one after the other -/

/-- Bytes that are available, and those behind them. -/
theorem available_add (m n : ℕ) : f.available position (m + n) =
    f.available position m + f.available (position + f.available position m) n := by
  unfold VolumeFile.available
  omega

/-- Two stretches of a file, one after the other. -/
theorem bytes_add (offset m n : ℕ) :
    f.bytes offset (m + n) = f.bytes offset m ++ f.bytes (offset + m) n := by
  unfold VolumeFile.bytes
  rw [imageBytes_add, Nat.add_assoc]

/-- Reads in chunks return what one read would. -/
theorem OpenOn.chunks (h : f.OpenOn v handle position) (ns : List U64) :
    ∃ chunks v', readChunks v handle ns = .ok (chunks, v') ∧
      chunks.flatten = f.bytes position (f.available position (totalAsked ns)) ∧
      f.OpenOn v' handle (position + f.available position (totalAsked ns)) := by
  induction ns generalizing v position with
  | nil =>
    have havailable : f.available position 0 = 0 := Nat.zero_min _
    refine ⟨[], v, rfl, ?_, ?_⟩
    · rw [totalAsked, havailable]
      rfl
    · simpa [totalAsked, havailable] using h
  | cons n ns ih =>
    obtain ⟨v₁, hread, hopen⟩ := OpenOn.read h n
    obtain ⟨chunks, v₂, hchunks, hflatten, hopen'⟩ := ih hopen
    refine ⟨f.bytes position (f.available position n.toNat) :: chunks, v₂, ?_, ?_, ?_⟩
    · unfold readChunks
      rw [hread]
      change readChunks v₁ handle ns >>= _ = _
      rw [hchunks]
      rfl
    · rw [List.flatten_cons, hflatten, totalAsked, available_add, bytes_add]
    · rw [totalAsked, available_add, ← Nat.add_assoc]
      exact hopen'

variable (f) in
/-- Every read and seek agrees with the file. -/
theorem reads_agree : f.ReadsAgree where
  used _ _ _ uses h := OpenOn.used h uses
  read _ _ _ n h := OpenOn.read h n
  chunks _ _ _ ns h := OpenOn.chunks h ns

/-! ## Opening by a path -/

variable (f) in
/-- A file is opened at its beginning. -/
theorem opens_at_beginning : f.OpensAtBeginning := by
  intro calls path mode handle v parsed hopen hparsed hvolume hentry
  unfold Vfs.openFile Vfs.findFile at hopen
  obtain ⟨⟨source, info⟩, hfind, hopen⟩ := bind_eq_ok hopen
  obtain ⟨⟨handle', table⟩, halloc, hopen⟩ := bind_eq_ok hopen
  cases hopen
  split at hfind
  · cases hfind
  · rw [hparsed] at hfind
    change ((fileSystemAfter calls).resolveVolume parsed.mountAlias >>= _) = _ at hfind
    rw [hvolume] at hfind
    have hquery : (xdvdfsVfsVolume (some f.volume)).queryInfo parsed.relativePath =
        .ok (entryInfo f.volume f.entry) := by
      change f.volume.findEntry parsed.relativePath >>= _ = _
      rw [hentry]
      rfl
    have hsource : (xdvdfsVfsVolume (some f.volume)).openFile parsed.relativePath =
        .ok (some (subrangeSource f.part)) := by
      change (f.volume.findEntry parsed.relativePath >>= fun entry => f.volume.openFile entry) >>= _ = _
      rw [hentry]
      change f.volume.openFile f.entry >>= _ = _
      rw [openFile_part]
      rfl
    change ((xdvdfsVfsVolume (some f.volume)).queryInfo parsed.relativePath >>= _) = _ at hfind
    rw [hquery] at hfind
    change ite (f.entry.isDirectory = true) _ _ = _ at hfind
    rw [f.isFile, if_neg Bool.false_ne_true, hsource] at hfind
    cases hfind
    unfold VfsHandleTable.allocateFile at halloc
    dsimp only at halloc
    split at halloc
    · cases halloc
    next i t hslot =>
      obtain ⟨s, hvalid, hslot'⟩ := (fileSystem_sound calls).openSlot_filled hslot
        (Except.ok.inj halloc) (fun _ => rfl) (fun _ => rfl) "Handle is stale or closed"
      refine ⟨by decide, mode, entryInfo f.volume f.entry, ?_, rfl⟩
      unfold VfsHandleTable.getFile
      rw [hslot']
      rfl

/-! ## What lies outside -/

variable (f) in
/-- Reads stay within the file. -/
theorem reads_confined : f.Confined where
  readAt other h offset n := by
    by_cases hpast : n ≠ 0 ∧ f.size < offset.toNat + n.toNat
    · rw [part_readAt_past f hpast.1 hpast.2, part_readAt_past (f.onImage other h) hpast.1 hpast.2]
    · by_cases hn : n = 0
      · subst hn
        rfl
      · have hinside : offset.toNat + n.toNat ≤ f.size := Nat.le_of_not_lt fun hlt => hpast ⟨hn, hlt⟩
        rw [part_readAt f hinside, part_readAt (f.onImage other h) hinside]
        rfl
  readFileAt other h offset n :=
    (readFileAt_eq (f.onImage other h) offset n).trans (readFileAt_eq f offset n).symm
  read other h v v' handle position n hopen hopen' := by
    obtain ⟨w, hread, -⟩ := OpenOn.read hopen n
    obtain ⟨w', hread', -⟩ := OpenOn.read hopen' n
    rw [hread, hread']
    rfl

end File

/-! ## Moves of the position -/

/-- The example reads move the position. -/
theorem reads_move : ReadsMove := by
  intro v handle file n hfile hfills
  constructor
  · intro bytes v' hread
    unfold Vfs.read at hread
    rw [hfile] at hread
    change ite _ _ _ = _ at hread
    split at hread
    · cases hread
      simpa using hfile
    · rcases Option.eq_none_or_eq_some file.source with hsource | ⟨source, hsource⟩
      · rw [hsource] at hread
        cases hread
        simpa using hfile
      · rw [hsource] at hread
        obtain ⟨read, hread', hread⟩ := bind_eq_ok hread
        cases hread
        rw [(hfills source hsource).length _ _ _ hread']
        exact getFile_setPosition hfile _
  · intro e hread
    change (((Vfs.read v handle n.toNat).map Prod.snd).toOption.getD v) = v
    rw [hread]
    rfl

/-- The three ways to the bytes of a file agree, on every file whose data lie in the image. -/
theorem file_reads_agree (f : VolumeFile) :
    f.PartsAgree ∧ f.OpensAtBeginning ∧ f.ReadsAgree ∧ f.Confined ∧ ReadsMove :=
  ⟨parts_agree f, opens_at_beginning f, reads_agree f, reads_confined f, reads_move⟩

/-! ## A file of three bytes -/

/-- A source in memory returns its bytes. -/
theorem memorySource_readAt {data : List U8} {offset : U64} {n : ℕ}
    (hfits : data.length < 2 ^ 64) (h : offset.toNat + n ≤ data.length) :
    (Io.memorySource data).readAt offset n =
      .ok (imageBytes (fun i => data.getD i 0) offset.toNat n) := by
  have hsize : (BitVec.ofNat 64 data.length).toNat = data.length := by
    rw [BitVec.toNat_ofNat]
    exact Nat.mod_eq_of_lt hfits
  have hbytes : (data.drop offset.toNat).take n =
      imageBytes (fun i => data.getD i 0) offset.toNat n := by
    apply List.ext_getElem
    · rw [List.length_take, List.length_drop, length_imageBytes]
      omega
    · intro i hi hi'
      rw [length_imageBytes] at hi'
      have hlt : offset.toNat + i < data.length := by omega
      simp [imageBytes, List.getElem?_eq_getElem hlt]
  unfold Io.memorySource
  dsimp only
  rw [hsize, if_neg (by omega), hbytes]

/-- The bytes of the example file. -/
def fiveBytes : List U8 := [1, 2, 3, 4, 5]

/-- The three bytes in the middle of an image of five. -/
def middleFile : VolumeFile where
  volume := { source := Io.memorySource fiveBytes }
  entry :=
    { name := ascii "a", attributes := 0x80, isDirectory := false, startingSector := 0
      fileSize := 3, offsetInImage := 1 }
  isFile := rfl
  inside := Nat.le_succ 4
  image i := fiveBytes.getD i 0
  faithful offset n h := by
    have hstop : offset.toNat + n ≤ 4 := h.2
    exact memorySource_readAt (by decide) (Nat.le_succ_of_le hstop)

/-- The last two bytes of the file are read, and no byte of the image behind them. -/
theorem file_reads_agree_middle :
    middleFile.volume.readFileAt middleFile.entry 1 4 = .ok [3, 4] :=
  (file_reads_agree middleFile).1.readFileAt 1 4

end Xblob.Analysis
