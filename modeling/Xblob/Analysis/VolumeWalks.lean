import Xblob.Analysis.VolumePaths

/-!
# Walks and look-ups

The parser of directory tables and the splitter of paths decide on their own which bytes a name may
have.  What is proved is that the walk and the look-up agree exactly where they decide alike for
every name in the volume.
-/

set_option autoImplicit false

namespace Xblob.Analysis

open Xblob.Computation Xblob.Formats Xblob.Interface Xblob.Vfs

variable {volume : XdvdfsVolume} {sector size : U32}

/-! ## Directories -/

/-- The parser has come to an end: the default is never taken. -/
theorem parseDirectoryTable_eq (volume : XdvdfsVolume) (sector size : U32) {turns : ℕ}
    (h : 65536 < turns) :
    parseDirectoryTableEntries volume.source volume.info.partitionBaseOffset sector size
      volume.budget turns = some (volume.parseDirectoryTable sector size) := by
  obtain ⟨r, hr⟩ := parse_ends volume.source volume.info.partitionBaseOffset sector size volume.budget
  unfold XdvdfsVolume.parseDirectoryTable
  rw [hr turns h, hr 65537 (by omega)]
  rfl

/-- The names of a directory are plain and distinct but for case. -/
theorem directory_names {entries : List XdvdfsEntry}
    (h : volume.parseDirectoryTable sector size = .ok entries) :
    (entries.map fun e => toLowerAscii e.name).Nodup ∧ ∀ e ∈ entries, PlainName e.name := by
  have hparse := parseDirectoryTable_eq volume sector size (show 65536 < 65537 by omega)
  rw [h] at hparse
  exact parse_names hparse

/-- A name in a table has no slash. -/
theorem inTable_unslashed {e : XdvdfsEntry} (h : InTable volume sector size e) :
    Unslashed e.name := by
  obtain ⟨entries, hparse, he⟩ := h
  exact unslashed_of_plain ((directory_names hparse).2 e he)

/-- The names of a chain have no slash. -/
theorem nested_unslashed {chain : List XdvdfsEntry} (h : Nested volume sector size chain) :
    ∀ e ∈ chain, Unslashed e.name := by
  induction chain generalizing sector size with
  | nil => simp
  | cons e chain ih => exact List.forall_mem_cons.2 ⟨inTable_unslashed h.1, ih h.2.2⟩

/-- Where the directory at the end of entries one inside the other is. -/
def dirOf (sector size : U32) (chain : List XdvdfsEntry) : U32 × U32 :=
  (chain.getLast?).elim (sector, size) fun e => (e.startingSector, e.fileSize)

/-- One more entry inside the others. -/
theorem nested_concat {chain : List XdvdfsEntry} {e : XdvdfsEntry} :
    Nested volume sector size (chain ++ [e]) ↔
      Nested volume sector size chain ∧ (∀ d, chain.getLast? = some d → d.isDirectory = true) ∧
        InTable volume (dirOf sector size chain).1 (dirOf sector size chain).2 e := by
  induction chain generalizing sector size with
  | nil => simp [Nested, dirOf]
  | cons d chain ih =>
    rw [List.cons_append]
    unfold Nested
    rw [ih]
    cases chain with
    | nil => simp [Nested, dirOf]
    | cons d' chain =>
      obtain ⟨last, hlast⟩ : ∃ last, (d' :: chain).getLast? = some last :=
        Option.isSome_iff_exists.1 (by simp)
      simp [dirOf, List.getLast?_cons_cons, hlast, and_assoc]

/-! ## Look-ups -/

section LookUps

variable {notFound : String}

/-- An entry that is looked up is in the table, under the name but for case. -/
theorem lookUp_ok {comp : ByteString} {e : XdvdfsEntry}
    (h : volume.lookUp sector size comp notFound = .ok e) :
    InTable volume sector size e ∧ toLowerAscii e.name = toLowerAscii comp := by
  unfold XdvdfsVolume.lookUp at h
  obtain ⟨entries, hparse, h⟩ := bind_eq_ok h
  cases hfind : entries.find? fun e => equalsIgnoreCaseAscii e.name comp with
  | none =>
    rw [hfind] at h
    cases h
  | some e' =>
    rw [hfind] at h
    cases h
    refine ⟨⟨entries, hparse, List.mem_of_find?_eq_some hfind⟩, ?_⟩
    have hequal := List.find?_some hfind
    unfold equalsIgnoreCaseAscii at hequal
    exact beq_iff_eq.1 hequal

/-- An entry is found by its name. -/
theorem lookUp_name {e : XdvdfsEntry} (h : InTable volume sector size e) :
    volume.lookUp sector size e.name notFound = .ok e := by
  obtain ⟨entries, hparse, he⟩ := h
  obtain ⟨hnames, -⟩ := directory_names hparse
  have hfind : entries.find? (fun e' => equalsIgnoreCaseAscii e'.name e.name) = some e := by
    cases hfind : entries.find? fun e' => equalsIgnoreCaseAscii e'.name e.name with
    | none =>
      have hnone := List.find?_eq_none.1 hfind e he
      exact absurd (by simp [equalsIgnoreCaseAscii]) hnone
    | some e' =>
      have hequal := List.find?_some hfind
      unfold equalsIgnoreCaseAscii at hequal
      rw [List.inj_on_of_nodup_map hnames (List.mem_of_find?_eq_some hfind) he (beq_iff_eq.1 hequal)]
  unfold XdvdfsVolume.lookUp
  simp only [hparse, bind, Except.bind, hfind]

/-- The directory test passes for directories. -/
theorem requireDirectory_ok {e : XdvdfsEntry} {comp : ByteString} :
    XdvdfsVolume.requireDirectory e comp = .ok () ↔ e.isDirectory = true := by
  unfold XdvdfsVolume.requireDirectory
  cases e.isDirectory with
  | false => exact ⟨nofun, nofun⟩
  | true => exact ⟨fun _ => rfl, fun _ => rfl⟩

/-- What is found is at the end of entries one inside the other. -/
theorem findFrom_ok {comps : List ByteString} {e : XdvdfsEntry}
    (h : volume.findFrom sector size comps = .ok e) :
    ∃ chain, Nested volume sector size (chain ++ [e]) ∧
      (chain ++ [e]).map (fun e => toLowerAscii e.name) = comps.map toLowerAscii := by
  induction comps generalizing sector size with
  | nil => cases h
  | cons comp comps ih =>
    cases comps with
    | nil =>
      obtain ⟨htable, hname⟩ := lookUp_ok h
      exact ⟨[], ⟨htable, by simp, trivial⟩, by simp [hname]⟩
    | cons comp' comps =>
      unfold XdvdfsVolume.findFrom at h
      obtain ⟨d, hlookUp, h⟩ := bind_eq_ok h
      obtain ⟨⟨⟩, hdirectory, h⟩ := bind_eq_ok h
      obtain ⟨htable, hname⟩ := lookUp_ok hlookUp
      obtain ⟨chain, hnested, hnames⟩ := ih h
      refine ⟨d :: chain, ⟨htable, fun _ => requireDirectory_ok.1 hdirectory, hnested⟩, ?_⟩
      rw [List.cons_append, List.map_cons, hnames, hname]
      simp only [List.map_cons]

/-- The entry at the end of entries one inside the other is found by their names. -/
theorem findFrom_names {chain : List XdvdfsEntry} {e : XdvdfsEntry}
    (h : Nested volume sector size (chain ++ [e])) :
    volume.findFrom sector size ((chain ++ [e]).map XdvdfsEntry.name) = .ok e := by
  induction chain generalizing sector size with
  | nil => exact lookUp_name h.1
  | cons d chain ih =>
    have hrest := ih h.2.2
    have hne : chain ++ [e] ≠ [] := by simp
    rw [List.cons_append, List.map_cons]
    obtain ⟨d', rest, hcons⟩ := List.exists_cons_of_ne_nil hne
    rw [hcons, List.map_cons] at hrest ⊢
    unfold XdvdfsVolume.findFrom
    rw [lookUp_name h.1]
    change XdvdfsVolume.requireDirectory d d.name >>= _ = _
    rw [requireDirectory_ok.2 (h.2.1 hne)]
    exact hrest

end LookUps

/-! ## One directory -/

/-- The frame of a directory that is listed in another. -/
def frameOf (frame : XdvdfsVolume.Frame) (e : XdvdfsEntry) : XdvdfsVolume.Frame where
  sector := e.startingSector
  size := e.fileSize
  pathPrefix := XdvdfsVolume.fullPath frame.pathPrefix e.name
  depth := frame.depth + 1

/-- What the entries of a directory add to a walk. -/
structure Added (frame : XdvdfsVolume.Frame) (entries : List XdvdfsEntry)
    (t t' : XdvdfsVolume.Traversal) : Prop where
  result : t'.result =
    t.result ++ entries.map fun e => (XdvdfsVolume.fullPath frame.pathPrefix e.name, e)
  dirStack : t'.dirStack =
    ((entries.filter XdvdfsEntry.isDirectory).map (frameOf frame)).reverse ++ t.dirStack
  visitedDirs : t'.visitedDirs =
    ((entries.filter XdvdfsEntry.isDirectory).map XdvdfsEntry.startingSector).reverse ++
      t.visitedDirs
  once : t.visitedDirs.Nodup → t'.visitedDirs.Nodup

/-- The entries of a directory that are added. -/
theorem addEntries_ok {frame : XdvdfsVolume.Frame} {entries : List XdvdfsEntry}
    {t t' : XdvdfsVolume.Traversal} (h : volume.addEntries frame entries t = .ok t') :
    Added frame entries t t' := by
  induction entries generalizing t with
  | nil =>
    cases h
    exact ⟨by simp, rfl, rfl, id⟩
  | cons e entries ih =>
    unfold XdvdfsVolume.addEntries at h
    split at h
    · cases h
    · split at h
      next hdirectory =>
        dsimp only at h
        split at h
        · cases h
        next hnew =>
          obtain ⟨hresult, hstack, hvisited, honce⟩ := ih h
          refine ⟨?_, ?_, ?_, fun hnodup => honce ?_⟩
          · simp [hresult]
          · simp [hstack, hdirectory, frameOf]
          · simp [hvisited, hdirectory]
          · refine List.nodup_cons.2 ⟨?_, hnodup⟩
            simpa using hnew
      next hdirectory =>
        obtain ⟨hresult, hstack, hvisited, honce⟩ := ih h
        refine ⟨?_, ?_, ?_, honce⟩
        · simp [hresult]
        · simp [hstack, hdirectory]
        · simp [hvisited, hdirectory]

/-- A directory that is visited adds its entries. -/
theorem visitDirectory_ok {frame : XdvdfsVolume.Frame} {t t' : XdvdfsVolume.Traversal}
    (h : volume.visitDirectory frame t = .ok t') :
    ∃ entries, volume.parseDirectoryTable frame.sector frame.size = .ok entries ∧
      Added frame entries t t' := by
  unfold XdvdfsVolume.visitDirectory at h
  split at h
  · cases h
  · cases hparse : volume.parseDirectoryTable frame.sector frame.size with
    | error e =>
      rw [hparse] at h
      cases h
    | ok entries =>
      rw [hparse] at h
      exact ⟨entries, rfl, addEntries_ok h⟩

/-! ## The walk ends -/

/-- There are `2 ^ 32` sectors. -/
theorem length_sectors {sectors : List U32} (h : sectors.Nodup) : sectors.length ≤ 4294967296 := by
  have hnodup : (sectors.map BitVec.toNat).Nodup :=
    h.map fun _ _ heq => BitVec.eq_of_toNat_eq heq
  have hsubset : sectors.map BitVec.toNat ⊆ List.range 4294967296 := by
    intro n hn
    obtain ⟨s, -, rfl⟩ := List.mem_map.1 hn
    exact List.mem_range.2 s.isLt
  have hle := hnodup.length_le_of_subset hsubset
  rwa [List.length_map, List.length_range] at hle

/-- A turn takes a frame from the stack, and each frame it puts there is a sector that was not
visited before. -/
theorem traverse_ends {t : XdvdfsVolume.Traversal} (hnodup : t.visitedDirs.Nodup) {turns : ℕ}
    (hturns : t.dirStack.length + (4294967296 - t.visitedDirs.length) ≤ turns) :
    ∃ r, volume.traverse turns t = some r := by
  induction turns generalizing t with
  | zero =>
    have hstack : t.dirStack = [] := List.length_eq_zero_iff.1 (by omega)
    unfold XdvdfsVolume.traverse
    rw [hstack]
    exact ⟨_, rfl⟩
  | succ turns ih =>
    unfold XdvdfsVolume.traverse
    cases hstack : t.dirStack with
    | nil => exact ⟨_, rfl⟩
    | cons frame rest =>
      dsimp only
      cases hvisit : volume.visitDirectory frame { t with dirStack := rest } with
      | error e => exact ⟨_, rfl⟩
      | ok t' =>
        obtain ⟨entries, -, hadded⟩ := visitDirectory_ok hvisit
        have hnodup' := hadded.once hnodup
        have hlength := length_sectors hnodup'
        apply ih hnodup'
        rw [hadded.visitedDirs] at hlength
        rw [hadded.dirStack, hadded.visitedDirs]
        rw [hstack, List.length_cons] at hturns
        simp only [List.length_append, List.length_reverse, List.length_map] at hlength ⊢
        omega

/-- A walk that has not begun. -/
def walkStart (volume : XdvdfsVolume) : XdvdfsVolume.Traversal where
  dirStack := [{ sector := volume.info.rootDirSector, size := volume.info.rootDirSize
                 pathPrefix := [], depth := 1 }]
  visitedDirs := [volume.info.rootDirSector]

/-- The walk from the root is the walk from its start. -/
theorem traverseAll_eq (volume : XdvdfsVolume) (turns : ℕ) :
    volume.traverseAll [] turns = volume.traverse turns (walkStart volume) := by
  unfold XdvdfsVolume.traverseAll XdvdfsVolume.startTraversal
  rw [if_pos (.inl rfl)]
  rfl

/-- The walk ends. -/
theorem traverseAll_ends (volume : XdvdfsVolume) :
    ∃ turns r, volume.traverseAll [] turns = some r := by
  have hturns : (walkStart volume).dirStack.length +
      (4294967296 - (walkStart volume).visitedDirs.length) ≤ 4294967296 := by
    simp [walkStart]
  have hnodup : (walkStart volume).visitedDirs.Nodup := List.nodup_singleton _
  obtain ⟨r, hr⟩ := traverse_ends hnodup hturns
  exact ⟨4294967296, r, (traverseAll_eq volume _).trans hr⟩

/-! ## What the walk lists -/

/-- A path and an entry that stand for entries one inside the other. -/
def StandsFor (volume : XdvdfsVolume) (p : ByteString × XdvdfsEntry) : Prop :=
  ∃ chain, InVolume volume (chain ++ [p.2]) ∧ p.1 = pathOf ((chain ++ [p.2]).map XdvdfsEntry.name)

/-- The frame is of the directory at the end of entries one inside the other. -/
structure FrameAt (volume : XdvdfsVolume) (frame : XdvdfsVolume.Frame) (chain : List XdvdfsEntry) :
    Prop where
  inside : InVolume volume chain
  directory : ∀ d, chain.getLast? = some d → d.isDirectory = true
  place : dirOf volume.info.rootDirSector volume.info.rootDirSize chain = (frame.sector, frame.size)
  pathPrefix : frame.pathPrefix = pathOf (chain.map XdvdfsEntry.name)

/-- A directory is still on the stack, or each of its entries is listed. -/
def Covered (volume : XdvdfsVolume) (t : XdvdfsVolume.Traversal) (sector size : U32)
    (pathPrefix : ByteString) : Prop :=
  (∃ frame ∈ t.dirStack, frame.sector = sector ∧ frame.size = size ∧
      frame.pathPrefix = pathPrefix) ∨
    ∀ e, InTable volume sector size e → (XdvdfsVolume.fullPath pathPrefix e.name, e) ∈ t.result

/-- What holds in a walk from the root at any time. -/
structure Walking (volume : XdvdfsVolume) (t : XdvdfsVolume.Traversal) : Prop where
  reached : ∀ p ∈ t.result, StandsFor volume p
  frames : ∀ frame ∈ t.dirStack, ∃ chain, FrameAt volume frame chain
  root : Covered volume t volume.info.rootDirSector volume.info.rootDirSize []
  directories : ∀ p ∈ t.result, p.2.isDirectory = true →
    Covered volume t p.2.startingSector p.2.fileSize p.1

/-- An entry of the directory of a frame is inside the others. -/
theorem FrameAt.entry {frame : XdvdfsVolume.Frame} {chain : List XdvdfsEntry}
    (hframe : FrameAt volume frame chain) {e : XdvdfsEntry}
    (he : InTable volume frame.sector frame.size e) :
    InVolume volume (chain ++ [e]) ∧
      XdvdfsVolume.fullPath frame.pathPrefix e.name =
        pathOf ((chain ++ [e]).map XdvdfsEntry.name) := by
  constructor
  · refine nested_concat.2 ⟨hframe.inside, hframe.directory, ?_⟩
    rw [hframe.place]
    exact he
  · rw [List.map_append, List.map_singleton, pathOf_concat, hframe.pathPrefix]

/-- What was covered stays so, the frame that is taken from the stack with its own entries. -/
theorem Covered.step {frame : XdvdfsVolume.Frame} {rest : List XdvdfsVolume.Frame}
    {entries : List XdvdfsEntry} {t t' : XdvdfsVolume.Traversal} (hstack : t.dirStack = frame :: rest)
    (hparse : volume.parseDirectoryTable frame.sector frame.size = .ok entries)
    (hadded : Added frame entries { t with dirStack := rest } t') {pathPrefix : ByteString}
    (h : Covered volume t sector size pathPrefix) : Covered volume t' sector size pathPrefix := by
  unfold Covered at h ⊢
  rw [hadded.result, hadded.dirStack]
  rcases h with ⟨frame', hmem, hsector, hsize, hprefix⟩ | hlisted
  · rw [hstack] at hmem
    rcases List.mem_cons.1 hmem with rfl | hmem
    · subst hsector hsize hprefix
      refine .inr fun e he => ?_
      obtain ⟨entries', hparse', he⟩ := he
      rw [hparse] at hparse'
      cases hparse'
      simp [he]
    · exact .inl ⟨frame', by simp [hmem], hsector, hsize, hprefix⟩
  · exact .inr fun e he => by simp [hlisted e he]

/-- One directory more keeps the walk walking. -/
theorem Walking.step {frame : XdvdfsVolume.Frame} {rest : List XdvdfsVolume.Frame}
    {t t' : XdvdfsVolume.Traversal} (hw : Walking volume t) (hstack : t.dirStack = frame :: rest)
    (hvisit : volume.visitDirectory frame { t with dirStack := rest } = .ok t') :
    Walking volume t' := by
  obtain ⟨entries, hparse, hadded⟩ := visitDirectory_ok hvisit
  obtain ⟨chain, hframe⟩ := hw.frames frame (by simp [hstack])
  have hentry : ∀ e ∈ entries, InVolume volume (chain ++ [e]) ∧
      XdvdfsVolume.fullPath frame.pathPrefix e.name =
        pathOf ((chain ++ [e]).map XdvdfsEntry.name) :=
    fun e he => hframe.entry ⟨entries, hparse, he⟩
  refine ⟨?_, ?_, hw.root.step hstack hparse hadded, ?_⟩
  · intro p hp
    rw [hadded.result] at hp
    rcases List.mem_append.1 hp with hp | hp
    · exact hw.reached p hp
    · obtain ⟨e, he, rfl⟩ := List.mem_map.1 hp
      exact ⟨chain, hentry e he⟩
  · intro frame' hframe'
    rw [hadded.dirStack] at hframe'
    rcases List.mem_append.1 hframe' with hframe' | hframe'
    · obtain ⟨e, he, rfl⟩ := List.mem_map.1 (List.mem_reverse.1 hframe')
      obtain ⟨he, hdirectory⟩ := List.mem_filter.1 he
      obtain ⟨hinside, hpath⟩ := hentry e he
      refine ⟨chain ++ [e], hinside, ?_, ?_, hpath⟩
      · intro d hd
        rw [List.getLast?_concat] at hd
        cases hd
        exact hdirectory
      · simp [dirOf, frameOf]
    · exact hw.frames frame' (by simp [hstack, hframe'])
  · intro p hp hdirectory
    rw [hadded.result] at hp
    rcases List.mem_append.1 hp with hp | hp
    · exact (hw.directories p hp hdirectory).step hstack hparse hadded
    · obtain ⟨e, he, rfl⟩ := List.mem_map.1 hp
      refine .inl ⟨frameOf frame e, ?_, rfl, rfl, rfl⟩
      rw [hadded.dirStack]
      exact List.mem_append_left _ (List.mem_reverse.2
        (List.mem_map_of_mem (List.mem_filter.2 ⟨he, hdirectory⟩)))

/-- A walk that ends has visited every directory it listed. -/
theorem Walking.run {t : XdvdfsVolume.Traversal} (hw : Walking volume t) {turns : ℕ}
    {list : List (ByteString × XdvdfsEntry)} (h : volume.traverse turns t = some (.ok list)) :
    ∃ t', Walking volume t' ∧ t'.dirStack = [] ∧ t'.result = list := by
  induction turns generalizing t with
  | zero =>
    unfold XdvdfsVolume.traverse at h
    cases hstack : t.dirStack with
    | nil =>
      rw [hstack] at h
      cases h
      exact ⟨t, hw, hstack, rfl⟩
    | cons frame rest =>
      rw [hstack] at h
      cases h
  | succ turns ih =>
    unfold XdvdfsVolume.traverse at h
    cases hstack : t.dirStack with
    | nil =>
      rw [hstack] at h
      cases h
      exact ⟨t, hw, hstack, rfl⟩
    | cons frame rest =>
      rw [hstack] at h
      dsimp only at h
      cases hvisit : volume.visitDirectory frame { t with dirStack := rest } with
      | error e =>
        rw [hvisit] at h
        cases h
      | ok t' =>
        rw [hvisit] at h
        exact ih (hw.step hstack hvisit) h

/-- The entries one inside the other are all listed. -/
theorem Walking.listed {t : XdvdfsVolume.Traversal} (hw : Walking volume t)
    (hdone : t.dirStack = []) {chain : List XdvdfsEntry} {e : XdvdfsEntry}
    (h : InVolume volume (chain ++ [e])) :
    (pathOf ((chain ++ [e]).map XdvdfsEntry.name), e) ∈ t.result := by
  induction chain using List.reverseRecOn generalizing e with
  | nil =>
    obtain ⟨frame, hframe, -⟩ | hall := hw.root
    · rw [hdone] at hframe
      cases hframe
    · exact hall e h.1
  | append_singleton chain d ih =>
    obtain ⟨hinside, hdirectory, htable⟩ := nested_concat.1 h
    obtain ⟨frame, hframe, -⟩ | hall := hw.directories _ (ih hinside) (hdirectory d (by simp))
    · rw [hdone] at hframe
      cases hframe
    · have hlisted := hall e (by simpa [dirOf] using htable)
      rwa [← pathOf_concat, ← List.map_singleton, ← List.map_append] at hlisted

/-- The walk starts walking. -/
theorem walking_start (volume : XdvdfsVolume) : Walking volume (walkStart volume) where
  reached := by simp [walkStart]
  frames frame hframe := by
    cases List.mem_singleton.1 hframe
    exact ⟨[], trivial, by simp, rfl, rfl⟩
  root := .inl ⟨_, List.mem_singleton_self _, rfl, rfl, rfl⟩
  directories := by simp [walkStart]

/-- The walk lists the entries that are one inside the other, under their names. -/
theorem lists_iff {list : List (ByteString × XdvdfsEntry)} (h : Lists volume list)
    {p : ByteString × XdvdfsEntry} : p ∈ list ↔ StandsFor volume p := by
  obtain ⟨turns, h⟩ := h
  rw [traverseAll_eq] at h
  obtain ⟨t, hw, hdone, rfl⟩ := (walking_start volume).run h
  refine ⟨hw.reached p, fun ⟨chain, hinside, hpath⟩ => ?_⟩
  have hlisted := hw.listed hdone hinside
  rwa [← hpath] at hlisted

/-! ## Where the walk and the look-up agree -/

/-- An entry is found by the components of its path. -/
theorem findEntry_eq {path : ByteString} {comps : List ByteString}
    (h : splitAndValidateXboxPath path = .ok comps) :
    volume.findEntry path =
      if comps = [] then .ok volume.rootEntry
      else volume.findFrom volume.info.rootDirSector volume.info.rootDirSize comps := by
  unfold XdvdfsVolume.findEntry
  rw [h]
  rfl

/-- Names that are accepted lead to their entry. -/
theorem found_of_accepted {chain : List XdvdfsEntry} {e : XdvdfsEntry}
    (hinside : InVolume volume (chain ++ [e])) (h : ∀ d ∈ chain ++ [e], NameAccepted d.name) :
    volume.findEntry (pathOf ((chain ++ [e]).map XdvdfsEntry.name)) = .ok e := by
  have hunslashed := List.forall_mem_map.2 (nested_unslashed hinside)
  have hfind := findFrom_names hinside
  obtain ⟨first, rest, hcons⟩ := List.exists_cons_of_ne_nil (List.concat_ne_nil e chain)
  rw [hcons] at h hunslashed hfind ⊢
  have hsplit := split_pathOf (h first (by simp)) hunslashed
  rcases mapM_checkComponent ((first :: rest).map XdvdfsEntry.name) with
    ⟨-, hmap⟩ | ⟨⟨bad, hbad, hnot⟩, -⟩
  · have hcomps := hsplit.trans hmap
    rw [List.map_cons, findEntry_eq hcomps, if_neg (by simp)]
    exact hfind
  · obtain ⟨d, hd, rfl⟩ := List.mem_map.1 hbad
    exact absurd (h d hd) hnot

/-- What is found stands for entries one inside the other, and its path has their names. -/
theorem standsFor_of_found {path : ByteString} {e : XdvdfsEntry}
    (h : volume.findEntry path = .ok e) (hwords : pathWords path ≠ []) :
    ∃ p, StandsFor volume (p, e) ∧ SamePath p path := by
  cases hsplit : splitAndValidateXboxPath path with
  | error err =>
    unfold XdvdfsVolume.findEntry at h
    rw [hsplit] at h
    cases h
  | ok comps =>
    obtain ⟨hpath, haccepted⟩ := split_words hsplit
    have hcomps : comps ≠ [] := by
      rintro rfl
      exact hwords hpath
    rw [findEntry_eq hsplit, if_neg hcomps] at h
    obtain ⟨chain, hinside, hnames⟩ := findFrom_ok h
    refine ⟨pathOf ((chain ++ [e]).map XdvdfsEntry.name), ⟨chain, hinside, rfl⟩, ?_⟩
    have hunslashed := List.forall_mem_map.2 (nested_unslashed hinside)
    obtain ⟨first, rest, hcons⟩ := List.exists_cons_of_ne_nil (List.concat_ne_nil e chain)
    obtain ⟨comp, comps, rfl⟩ := List.exists_cons_of_ne_nil hcomps
    rw [hcons] at hnames hunslashed ⊢
    rw [List.map_cons, List.map_cons] at hnames
    have hfirst : NameAccepted first.name :=
      NameAccepted.of_lower (List.head_eq_of_cons_eq hnames).symm (haccepted comp (by simp))
    have hwords' := pathWords_pathOf hfirst hunslashed
    unfold SamePath
    rw [List.map_cons, hwords', hpath, List.map_cons, List.map_cons, ← hnames, List.map_map]
    rfl

/-- A name that is not accepted keeps its entry from being found under its own path. -/
theorem not_found_of_bad {chain : List XdvdfsEntry} {e : XdvdfsEntry}
    (hinside : InVolume volume (chain ++ [e])) (hbad : ¬ NameAccepted e.name)
    (hfirst : ∀ d, chain.head? = some d → NameAccepted d.name) {e' : XdvdfsEntry}
    (h : volume.findEntry (pathOf ((chain ++ [e]).map XdvdfsEntry.name)) = .ok e') :
    e'.name ≠ e.name := by
  have hunslashed := List.forall_mem_map.2 (nested_unslashed hinside)
  cases chain with
  | nil =>
    -- The path is the name, and a name that is split loses its first two bytes.
    have hname : Unslashed e.name := hunslashed e.name (by simp)
    have hpath : pathOf (([] ++ [e]).map XdvdfsEntry.name) = e.name := by
      simp [pathOf, XdvdfsVolume.fullPath]
    rw [hpath] at h
    cases hsplit : splitAndValidateXboxPath e.name with
    | error err =>
      unfold XdvdfsVolume.findEntry at h
      rw [hsplit] at h
      cases h
    | ok comps =>
      have hshort := split_single hname hbad hsplit
      rw [findEntry_eq hsplit] at h
      split at h
      · cases h
        exact hname.1.symm
      · obtain ⟨chain, -, hnames⟩ := findFrom_ok h
        intro heq
        have hlast : toLowerAscii e'.name ∈ comps.map toLowerAscii := by
          rw [← hnames]
          simp
        obtain ⟨comp, hcomp, hlower⟩ := List.mem_map.1 hlast
        have hlength := congrArg List.length hlower
        have hlt := hshort comp hcomp
        simp only [toLowerAscii, List.length_map, heq] at hlength
        omega
  | cons d chain =>
    have hsplit := split_pathOf (hfirst d rfl) hunslashed
    rcases mapM_checkComponent ((d :: (chain ++ [e])).map XdvdfsEntry.name) with
      ⟨hall, -⟩ | ⟨-, err, hmap⟩
    · exact absurd (hall e.name (by simp)) hbad
    · have herror : splitAndValidateXboxPath (pathOf (d.name :: (chain ++ [e]).map XdvdfsEntry.name)) =
          .error err := hsplit.trans hmap
      unfold XdvdfsVolume.findEntry at h
      rw [List.cons_append, List.map_cons, herror] at h
      cases h

/-- The first entries of those one inside the other. -/
theorem nested_of_append {chain rest : List XdvdfsEntry}
    (h : Nested volume sector size (chain ++ rest)) : Nested volume sector size chain := by
  induction rest using List.reverseRecOn with
  | nil => rwa [List.append_nil] at h
  | append_singleton rest e ih =>
    rw [← List.append_assoc] at h
    exact ih (nested_concat.1 h).1

/-- The walk and the look-up agree where the walk fails, and else exactly where every name in the
volume may stand in a path. -/
theorem walk_agrees_iff (volume : XdvdfsVolume) : WalkAgrees volume ↔ NamesAccepted volume := by
  constructor
  · rintro ⟨-, hfound, -⟩ ⟨list, hlist⟩ chain hinside
    have hgood : ∀ before e, InVolume volume (before ++ [e]) →
        (∀ d, before.head? = some d → NameAccepted d.name) → NameAccepted e.name := by
      intro before e hinside hfirst
      by_contra hbad
      obtain ⟨e', hfind, hsame⟩ := hfound list hlist
        (pathOf ((before ++ [e]).map XdvdfsEntry.name), e) ((lists_iff hlist).2 ⟨before, hinside, rfl⟩)
      exact not_found_of_bad hinside hbad hfirst hfind hsame.name
    intro e he
    obtain ⟨before, after, rfl⟩ := List.append_of_mem he
    have hall : InVolume volume (before ++ [e] ++ after) := by rwa [List.append_assoc]
    have hbefore : InVolume volume (before ++ [e]) := nested_of_append hall
    apply hgood before e hbefore
    intro d hd
    obtain ⟨before, rfl⟩ : ∃ rest, before = d :: rest := by
      cases before with
      | nil => cases hd
      | cons d' rest =>
        cases hd
        exact ⟨rest, rfl⟩
    exact hgood [] d (nested_of_append hbefore) nofun
  · intro hnames
    refine ⟨traverseAll_ends volume, ?_, ?_⟩
    · intro list hlist p hp
      obtain ⟨chain, hinside, hpath⟩ := (lists_iff hlist).1 hp
      refine ⟨p.2, ?_, ⟨rfl, rfl, rfl, rfl⟩⟩
      rw [hpath]
      exact found_of_accepted hinside (hnames ⟨list, hlist⟩ _ hinside)
    · intro list hlist path e hfind hwords
      obtain ⟨p, hstands, hsame⟩ := standsFor_of_found hfind hwords
      exact ⟨(p, e), (lists_iff hlist).2 hstands, rfl, hsame⟩

/-! ## A name that is an asterisk -/

/-- The directory of an image, with one file in it whose name is an asterisk. -/
def asteriskTable : List U8 := [0, 0, 0, 0, 0, 0, 0, 0, 0, 0, 0, 0, 0x80, 1, 0x2A]

/-- An image with this directory in its first sector and the descriptor in its sector 32. -/
def asteriskImage : List U8 :=
  asteriskTable ++ List.replicate 65521 0 ++ ascii "MICROSOFT*XBOX*MEDIA" ++
    [0, 0, 0, 0, 15, 0, 0, 0] ++ List.replicate 2020 0

/-- The length of the example image. -/
theorem length_asteriskImage : asteriskImage.length = 0x10800 := by
  unfold asteriskImage
  repeat rw [List.length_append]
  repeat rw [List.length_replicate]
  rfl

example : (asteriskImage.drop 0x10000).take 20 = ascii "MICROSOFT*XBOX*MEDIA" := by
  have hlength : (asteriskTable ++ List.replicate 65521 (0 : U8)).length = 0x10000 := by
    rw [List.length_append, List.length_replicate]
    rfl
  unfold asteriskImage
  rw [List.append_assoc, List.append_assoc, List.drop_left' hlength]
  rfl

/-- The volume that the descriptor describes. -/
def asteriskVolume : XdvdfsVolume where
  source := Io.memorySource asteriskImage
  info := { rootDirSector := 0, rootDirSize := 15 }

/-- The entry with the name `*`. -/
def asteriskEntry : XdvdfsEntry where
  name := ascii "*"
  attributes := 0x80
  isDirectory := false
  startingSector := 0
  fileSize := 0
  offsetInImage := 0

/-- A source of known size. -/
theorem memorySource_eq {data : List U8} {size : ℕ} (h : data.length = size) :
    Io.memorySource data = {
      size := BitVec.ofNat 64 size
      readAt := fun offset n =>
        if offset.toNat + n > (BitVec.ofNat 64 size).toNat then
          .error { code := .outOfBounds, message := "Leitura fora dos limites do buffer"
                   offset := offset }
        else
          .ok ((data.drop offset.toNat).take n)
      length_readAt := h ▸ (Io.memorySource data).length_readAt } := by
  subst h
  rfl

/-- The example volume lists its one entry. -/
theorem asterisk_lists : Lists asteriskVolume [(ascii "*", asteriskEntry)] := by
  refine ⟨1, ?_⟩
  unfold asteriskVolume
  rw [memorySource_eq length_asteriskImage]
  decide +kernel

/-- The walk lists the file, and it is not found by the path that is listed. -/
theorem asterisk_not_found : ¬ WalkAgrees asteriskVolume := by
  intro h
  obtain ⟨e, hfind, -⟩ := h.found _ asterisk_lists _ (List.mem_singleton_self _)
  have herror : ∃ err, asteriskVolume.findEntry (ascii "*") = .error err := by
    unfold asteriskVolume
    rw [memorySource_eq length_asteriskImage]
    exact ⟨_, rfl⟩
  obtain ⟨err, herror⟩ := herror
  rw [herror] at hfind
  cases hfind

end Xblob.Analysis
