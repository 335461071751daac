import Xblob.Analysis.VolumePaths
import Xblob.Interface.Volumes

/-!
# Normalised paths

The normalisation keeps, at every slash, a path of the components it has seen.  Over such a path
it finds the same components again, and so does the split of the volume.
-/

set_option autoImplicit false

namespace Xblob.Analysis

open Xblob.Formats Xblob.Interface Xblob.Vfs

/-! ## Components -/

/-- The two libraries forbid the same bytes. -/
theorem isInvalidChar_eq (c : U8) : isInvalidChar c = isInvalidComponentChar c := by
  revert c
  decide +kernel

/-- A plain component is an accepted name. -/
theorem accepted_of_plain {comp : ByteString} (h : PlainComponent comp) :
    NameAccepted comp := by
  rw [nameAccepted_iff]
  refine ⟨h.nonempty, h.noDot, h.noDots, fun c hc => ?_⟩
  rw [← isInvalidChar_eq]
  exact h.allowed c hc

/-- A plain component has no slash. -/
theorem unslashed_of_component {comp : ByteString} (h : PlainComponent comp) : Unslashed comp :=
  ⟨h.nonempty, h.unslashed⟩

/-! ## Paths of components -/

/-- A path of components that is not empty goes on with a backslash. -/
theorem foldl_fullPath (front : ByteString) (hfront : front ≠ []) (comps : List ByteString) :
    comps.foldl XdvdfsVolume.fullPath front = front ++ comps.flatMap fun comp => 0x5C :: comp := by
  induction comps generalizing front with
  | nil => simp
  | cons comp comps ih =>
    have hfull : XdvdfsVolume.fullPath front comp = front ++ 0x5C :: comp := by
      rw [XdvdfsVolume.fullPath, if_neg hfront, List.append_assoc]
      rfl
    rw [List.foldl_cons, hfull, ih _ (by simp), List.flatMap_cons, List.append_assoc]

/-- A path is its first component, and a backslash before each of the others. -/
theorem pathOf_cons_eq {comp : ByteString} (hcomp : comp ≠ []) (comps : List ByteString) :
    pathOf (comp :: comps) = comp ++ comps.flatMap fun comp => 0x5C :: comp :=
  foldl_fullPath comp hcomp comps

/-- A path of components is their join. -/
theorem pathOf_eq_intercalate (comps : List ByteString) (h : ∀ comp ∈ comps, comp ≠ []) :
    pathOf comps = (ascii "\\").intercalate comps := by
  cases comps with
  | nil => rfl
  | cons comp comps =>
    rw [List.forall_mem_cons] at h
    rw [pathOf_cons_eq h.1]
    clear h
    induction comps generalizing comp with
    | nil => simp [List.intercalate]
    | cons next comps ih =>
      have hstep : (ascii "\\").intercalate (comp :: next :: comps) =
          comp ++ ascii "\\" ++ (ascii "\\").intercalate (next :: comps) := by
        simp [List.intercalate]
      rw [hstep, ← ih next, List.flatMap_cons, List.append_assoc]
      rfl

/-! ## The loop -/

/-- What is kept at the end of a component. -/
theorem pushComponent_plain {comp : ByteString} (front : ByteString) (h : PlainComponent comp) :
    pushComponent front comp = .ok (XdvdfsVolume.fullPath front comp) := by
  unfold pushComponent XdvdfsVolume.fullPath
  rw [if_neg h.nonempty, if_neg (not_or.2 ⟨h.noDot, h.noDots⟩)]
  split <;> rfl

/-- A component that is kept is plain, or there is none. -/
theorem pushComponent_inversion {front comp r : ByteString} (h : pushComponent front comp = .ok r)
    (hslash : ∀ c ∈ comp, isSlash c = false) (hvalid : ∀ c ∈ comp, isInvalidChar c = false) :
    (comp = [] ∧ r = front) ∨ (PlainComponent comp ∧ r = XdvdfsVolume.fullPath front comp) := by
  by_cases hempty : comp = []
  · rw [pushComponent, if_pos hempty] at h
    cases h
    exact .inl ⟨hempty, rfl⟩
  · by_cases hdots : comp = ascii "." ∨ comp = ascii ".."
    · rw [pushComponent, if_neg hempty, if_pos hdots] at h
      cases h
    · rw [not_or] at hdots
      have hplain : PlainComponent comp := ⟨hempty, hslash, hvalid, hdots.1, hdots.2⟩
      rw [pushComponent_plain front hplain] at h
      cases h
      exact .inr ⟨hplain, rfl⟩

/-- The end of a component of a path of plain components. -/
theorem pushComponent_pathOf {comps : List ByteString} {comp r : ByteString}
    (h : pushComponent (pathOf comps) comp = .ok r) (hcomps : ∀ comp ∈ comps, PlainComponent comp)
    (hslash : ∀ c ∈ comp, isSlash c = false) (hvalid : ∀ c ∈ comp, isInvalidChar c = false) :
    ∃ comps', r = pathOf comps' ∧ ∀ comp ∈ comps', PlainComponent comp := by
  rcases pushComponent_inversion h hslash hvalid with ⟨-, rfl⟩ | ⟨hplain, rfl⟩
  · exact ⟨comps, rfl, hcomps⟩
  · refine ⟨comps ++ [comp], (pathOf_concat comps comp).symm, fun comp' hcomp' => ?_⟩
    rcases List.mem_append.1 hcomp' with hmem | hmem
    · exact hcomps comp' hmem
    · rw [List.mem_singleton.1 hmem]
      exact hplain

/-- The loop ends with a path of plain components. -/
theorem normalize_pathOf {remaining : ByteString} : ∀ {comps : List ByteString} {comp r : ByteString},
    normalize (pathOf comps) comp remaining = .ok r → (∀ comp ∈ comps, PlainComponent comp) →
    (∀ c ∈ comp, isSlash c = false) → (∀ c ∈ comp, isInvalidChar c = false) →
    ∃ comps', r = pathOf comps' ∧ ∀ comp ∈ comps', PlainComponent comp := by
  induction remaining with
  | nil =>
    intro comps comp r h hcomps hslash hvalid
    exact pushComponent_pathOf h hcomps hslash hvalid
  | cons c remaining ih =>
    intro comps comp r h hcomps hslash hvalid
    rw [Vfs.normalize] at h
    by_cases hc : isSlash c = true
    · rw [if_pos hc] at h
      cases hpush : pushComponent (pathOf comps) comp with
      | error e =>
        rw [hpush] at h
        cases h
      | ok front =>
        obtain ⟨comps', rfl, hcomps'⟩ := pushComponent_pathOf hpush hcomps hslash hvalid
        rw [hpush] at h
        exact ih h hcomps' (by simp) (by simp)
    · rw [if_neg hc] at h
      by_cases hinvalid : isInvalidChar c = true
      · rw [if_pos hinvalid] at h
        cases h
      · rw [if_neg hinvalid] at h
        rw [Bool.not_eq_true] at hc hinvalid
        apply ih h hcomps
        · exact List.forall_mem_append.2 ⟨hslash, List.forall_mem_singleton.2 hc⟩
        · exact List.forall_mem_append.2 ⟨hvalid, List.forall_mem_singleton.2 hinvalid⟩

/-- The loop reads a component to its end. -/
theorem normalize_append (front comp rest : ByteString) {more : ByteString}
    (hslash : ∀ c ∈ more, isSlash c = false) (hvalid : ∀ c ∈ more, isInvalidChar c = false) :
    normalize front comp (more ++ rest) = normalize front (comp ++ more) rest := by
  induction more generalizing comp with
  | nil => simp
  | cons c more ih =>
    rw [List.forall_mem_cons] at hslash hvalid
    rw [List.cons_append, Vfs.normalize, hslash.1, hvalid.1]
    simp only [Bool.false_eq_true, ↓reduceIte]
    rw [ih _ hslash.2 hvalid.2, List.append_assoc]
    rfl

/-- The loop over the rest of a path of plain components. -/
theorem normalize_rest (front : ByteString) {comp : ByteString} {comps : List ByteString}
    (hcomp : PlainComponent comp) (hcomps : ∀ comp ∈ comps, PlainComponent comp) :
    normalize front comp (comps.flatMap fun comp => 0x5C :: comp) =
      .ok (comps.foldl XdvdfsVolume.fullPath (XdvdfsVolume.fullPath front comp)) := by
  induction comps generalizing front comp with
  | nil => exact pushComponent_plain front hcomp
  | cons next comps ih =>
    rw [List.forall_mem_cons] at hcomps
    have hslash : isSlash 0x5C = true := rfl
    rw [List.flatMap_cons, List.cons_append, Vfs.normalize, if_pos hslash,
      pushComponent_plain front hcomp]
    dsimp only
    rw [normalize_append _ _ _ hcomps.1.unslashed hcomps.1.allowed, List.nil_append,
      ih _ hcomps.1 hcomps.2, List.foldl_cons]

/-- A path of plain components is normalised already. -/
theorem normalize_self {comps : List ByteString} (h : ∀ comp ∈ comps, PlainComponent comp) :
    normalize [] [] (pathOf comps) = .ok (pathOf comps) := by
  cases comps with
  | nil => rfl
  | cons comp comps =>
    rw [List.forall_mem_cons] at h
    rw [pathOf_cons_eq h.1.nonempty, normalize_append _ _ _ h.1.unslashed h.1.allowed,
      List.nil_append, normalize_rest [] h.1 h.2, ← pathOf_cons_eq h.1.nonempty]
    rfl

/-! ## Drive letters -/

/-- An alias of one byte is a drive letter. -/
theorem splitVolume_single {remaining rest : ByteString} {drive : U8}
    (h : splitVolume remaining = .ok ([drive], rest)) : 0x41 ≤ drive ∧ drive ≤ 0x5A := by
  unfold splitVolume at h
  dsimp only at h
  split at h
  · split at h
    · cases h
    · simp only [Except.ok.injEq, Prod.mk.injEq] at h
      obtain ⟨halias, -⟩ := h
      split at halias
      · cases halias
        decide
      · cases halias
  · split at h
    · split at h
      · cases h
      next hdrive =>
        simp only [Except.ok.injEq, Prod.mk.injEq, List.cons.injEq, and_true] at h
        rw [h.1] at hdrive
        simpa using hdrive
    · cases h
      decide

/-- A drive letter in upper case stays as it is. -/
theorem toUpper_drive : ∀ drive : U8, 0x41 ≤ drive ∧ drive ≤ 0x5A →
    toUpper drive = drive ∧ isSlash drive = false := by
  decide +kernel

/-- The volume of a path with a drive letter. -/
theorem splitVolume_rooted {drive : U8} (hdrive : 0x41 ≤ drive ∧ drive ≤ 0x5A) (r : ByteString) :
    splitVolume (drive :: 0x3A :: 0x5C :: r) = .ok ([drive], 0x5C :: r) := by
  obtain ⟨hupper, hslash⟩ := toUpper_drive drive hdrive
  have hfirst : splitSlash (drive :: 0x3A :: 0x5C :: r) = ([drive, 0x3A], some r) := by
    have hcolon : isSlash 0x3A = false := rfl
    have hback : isSlash 0x5C = true := rfl
    unfold splitSlash
    simp only [List.findIdx?_cons, hslash, hcolon, hback, Bool.false_eq_true, ↓reduceIte,
      Option.map_some]
    rfl
  have hdevice : toUpperAscii [drive, 0x3A] ≠ ascii "DEVICE" := by
    intro h
    have hlength := congrArg List.length h
    cases hlength
  unfold splitVolume
  rw [hfirst]
  dsimp only
  rw [if_neg hdevice, if_pos (by simp), List.headD_cons, hupper, if_neg (by simpa using hdrive)]
  rfl

/-! ## Normalised paths -/

/-- What is parsed is an alias and a path of plain components. -/
theorem parse_inversion {rawPath : ByteString} {parsed : ParsedXboxPath}
    (h : parseAndNormalizeXboxPath rawPath = .ok parsed) :
    ∃ remaining rest comps, splitVolume remaining = .ok (parsed.mountAlias, rest) ∧
      parsed.relativePath = pathOf comps ∧ ∀ comp ∈ comps, PlainComponent comp := by
  unfold parseAndNormalizeXboxPath at h
  cases rawPath with
  | nil => cases h
  | cons c rest =>
    dsimp only at h
    cases hvolume : splitVolume (if isSlash c then rest else c :: rest) with
    | error e =>
      rw [hvolume] at h
      cases h
    | ok volume =>
      rw [hvolume] at h
      dsimp only at h
      cases hnormal : normalize [] [] volume.2 with
      | error e =>
        rw [hnormal] at h
        cases h
      | ok relativePath =>
        rw [hnormal] at h
        cases h
        have hroot : normalize (pathOf []) [] volume.2 = .ok relativePath := hnormal
        obtain ⟨comps, rfl, hcomps⟩ := normalize_pathOf hroot (by simp) (by simp) (by simp)
        exact ⟨_, _, comps, hvolume, rfl, hcomps⟩

/-- A path that is parsed is the join of plain components, which the volume takes it apart into, and
under a drive letter it is parsed to itself. -/
theorem parsed_stable (rawPath : ByteString) (parsed : ParsedXboxPath)
    (h : parseAndNormalizeXboxPath rawPath = .ok parsed) : ∃ comps, StablePath parsed comps := by
  obtain ⟨remaining, rest, comps, hvolume, hpath, hcomps⟩ := parse_inversion h
  refine ⟨comps, ?_, hcomps, ?_, ?_⟩
  · rw [hpath, pathOf_eq_intercalate comps fun comp hcomp => (hcomps comp hcomp).nonempty]
  · rw [hpath]
    cases comps with
    | nil => rfl
    | cons comp comps =>
      have haccepted := accepted_of_plain (hcomps comp List.mem_cons_self)
      rw [split_pathOf haccepted fun comp hcomp => unslashed_of_component (hcomps comp hcomp)]
      rcases mapM_checkComponent (comp :: comps) with ⟨-, hmap⟩ | ⟨⟨bad, hbad, hnot⟩, -⟩
      · exact hmap
      · exact absurd (accepted_of_plain (hcomps bad hbad)) hnot
  · intro drive halias
    rw [halias] at hvolume
    have hdrive := splitVolume_single hvolume
    have hslash := (toUpper_drive drive hdrive).2
    have hback : isSlash 0x5C = true := rfl
    have hrooted : rooted parsed.mountAlias parsed.relativePath =
        drive :: 0x3A :: 0x5C :: pathOf comps := by
      rw [rooted, halias, hpath]
      rfl
    rw [hrooted, parseAndNormalizeXboxPath, hslash]
    simp only [Bool.false_eq_true, ↓reduceIte]
    rw [splitVolume_rooted hdrive]
    simp only [Vfs.normalize, hback, ↓reduceIte, pushComponent, normalize_self hcomps]
    rw [← halias, ← hpath]

/-- A path with a device and slashes of both kinds. -/
theorem parsed_stable_device :
    parseAndNormalizeXboxPath (ascii "\\Device/CdRom0//media\\a.xbx/") =
        .ok ⟨ascii "D", ascii "media\\a.xbx"⟩ ∧
      ∃ comps, StablePath ⟨ascii "D", ascii "media\\a.xbx"⟩ comps := by
  have hparse : parseAndNormalizeXboxPath (ascii "\\Device/CdRom0//media\\a.xbx/") =
      .ok ⟨ascii "D", ascii "media\\a.xbx"⟩ := by decide
  exact ⟨hparse, parsed_stable _ _ hparse⟩

end Xblob.Analysis
