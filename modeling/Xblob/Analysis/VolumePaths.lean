import Xblob.Analysis.DirectoryTables
import Xblob.Interface.Volumes

/-!
# Paths of a volume

Names are put together to a path by the walk and taken apart by the look-up.  A path of names
without slashes is taken apart into the same names, and trimming a path loses no word of it.
-/

set_option autoImplicit false

namespace Xblob.Analysis

open Xblob.Formats Xblob.Interface Xblob.Vfs

/-! ## Words -/

section Words

variable {α : Type} (p : α → Bool)

/-- A separator at the end adds an empty word. -/
theorem splitOnP_concat {x : α} (hx : p x = true) (xs : List α) :
    (xs ++ [x]).splitOnP p = xs.splitOnP p ++ [[]] := by
  rw [List.splitOnP_append_cons xs [] hx, List.splitOnP_nil]

/-- Leading separators add no word. -/
theorem words_dropWhile (xs : List α) :
    ((xs.dropWhile p).splitOnP p).filter (fun word => word ≠ []) =
      (xs.splitOnP p).filter fun word => word ≠ [] := by
  induction xs with
  | nil => rfl
  | cons x xs ih =>
    by_cases hx : p x = true
    · rw [List.dropWhile_cons_of_pos hx, ih, ← List.nil_append (x :: xs),
        List.splitOnP_append_cons [] xs hx]
      simp
    · rw [List.dropWhile_cons_of_neg hx]

/-- Trailing separators add no word. -/
theorem words_rdropWhile (xs : List α) :
    ((xs.rdropWhile p).splitOnP p).filter (fun word => word ≠ []) =
      (xs.splitOnP p).filter fun word => word ≠ [] := by
  induction xs using List.reverseRecOn with
  | nil => rfl
  | append_singleton xs x ih =>
    by_cases hx : p x = true
    · rw [List.rdropWhile_concat_pos p xs x hx, ih, splitOnP_concat p hx]
      simp
    · rw [List.rdropWhile_concat_neg p xs x hx]

end Words

/-- Trimming slashes leaves the words. -/
theorem words_trimSlashes (path : ByteString) :
    ((trimSlashes path).splitOnP isSlash).filter (fun word => word ≠ []) =
      (path.splitOnP isSlash).filter fun word => word ≠ [] := by
  unfold trimSlashes
  rw [words_rdropWhile, words_dropWhile]

/-! ## Components -/

/-- A component that passes is unchanged, and not empty. -/
theorem checkComponent_eq {comp comp' : ByteString} (h : checkComponent comp = .ok comp') :
    comp' = comp ∧ comp ≠ [] := by
  unfold checkComponent at h
  split at h
  · cases h
  next hne =>
    split at h
    · cases h
    · split at h
      · cases h
      · cases h
        exact ⟨rfl, hne⟩

/-- A list of components is checked one by one. -/
theorem mapM_checkComponent (comps : List ByteString) :
    (∀ comp ∈ comps, NameAccepted comp) ∧ comps.mapM checkComponent = .ok comps ∨
      (∃ comp ∈ comps, ¬ NameAccepted comp) ∧ ∃ e, comps.mapM checkComponent = .error e := by
  induction comps with
  | nil => exact .inl ⟨by simp, rfl⟩
  | cons comp comps ih =>
    rw [List.mapM_cons]
    cases hcheck : checkComponent comp with
    | error e =>
      refine .inr ⟨⟨comp, by simp, ?_⟩, e, rfl⟩
      intro haccepted
      unfold NameAccepted at haccepted
      rw [hcheck] at haccepted
      cases haccepted
    | ok comp' =>
      obtain ⟨rfl, -⟩ := checkComponent_eq hcheck
      rcases ih with ⟨hall, hrest⟩ | ⟨⟨bad, hbad, hnot⟩, e, hrest⟩
      · rw [hrest]
        exact .inl ⟨List.forall_mem_cons.2 ⟨hcheck, hall⟩, rfl⟩
      · rw [hrest]
        exact .inr ⟨⟨bad, List.mem_cons_of_mem _ hbad, hnot⟩, e, rfl⟩

/-- A path that keeps its rest has its drive taken off. -/
theorem stripDrive_ok {path rest : ByteString} (h : stripDrive path = .ok rest) :
    rest = withoutDrive path := by
  unfold stripDrive at h
  unfold withoutDrive
  split at h
  next hcolon =>
    rw [if_pos hcolon]
    dsimp only at h
    split at h
    · cases h
      rfl
    · cases h
  next hcolon =>
    rw [if_neg hcolon]
    cases h
    rfl

/-- A path is split once its drive prefix is gone. -/
theorem split_eq {path rest : ByteString} (h : stripDrive path = .ok rest) :
    splitAndValidateXboxPath path =
      if trimSlashes rest = [] then .ok []
      else ((trimSlashes rest).splitOnP isSlash).mapM checkComponent := by
  unfold splitAndValidateXboxPath
  rw [h]
  rfl

/-- The components of a path that is split are the words of it. -/
theorem split_words {path : ByteString} {comps : List ByteString}
    (h : splitAndValidateXboxPath path = .ok comps) :
    pathWords path = comps.map toLowerAscii ∧ ∀ comp ∈ comps, NameAccepted comp := by
  cases hstrip : stripDrive path with
  | error e =>
    unfold splitAndValidateXboxPath at h
    rw [hstrip] at h
    cases h
  | ok rest =>
    rw [split_eq hstrip] at h
    unfold pathWords
    rw [← stripDrive_ok hstrip, ← words_trimSlashes]
    by_cases hempty : trimSlashes rest = []
    · rw [if_pos hempty] at h
      cases h
      rw [hempty]
      exact ⟨rfl, by simp⟩
    · rw [if_neg hempty] at h
      rcases mapM_checkComponent ((trimSlashes rest).splitOnP isSlash) with
        ⟨hall, hmap⟩ | ⟨-, e, hmap⟩
      · rw [hmap] at h
        cases h
        refine ⟨?_, hall⟩
        rw [List.filter_eq_self.2]
        intro comp hcomp
        obtain ⟨-, hnonempty⟩ := checkComponent_eq (hall comp hcomp)
        exact decide_eq_true hnonempty
      · rw [hmap] at h
        cases h

/-! ## Paths of names -/

/-- A name with a byte and no slash. -/
def Unslashed (name : ByteString) : Prop := name ≠ [] ∧ ∀ c ∈ name, isSlash c = false

/-- A plain name has no slash. -/
theorem unslashed_of_plain {name : ByteString} (h : PlainName name) : Unslashed name := by
  refine ⟨h.1, fun c hc => ?_⟩
  have hc' := h.2 c hc
  unfold DirectoryTable.isForbidden at hc'
  unfold isSlash
  simp only [Bool.or_eq_false_iff] at hc' ⊢
  exact ⟨hc'.1.1.2, hc'.1.2⟩

/-- The path of entries one inside the other. -/
def pathOf (names : List ByteString) : ByteString := names.foldl XdvdfsVolume.fullPath []

/-- A path with one name more is the full path of it. -/
theorem pathOf_concat (names : List ByteString) (name : ByteString) :
    pathOf (names ++ [name]) = XdvdfsVolume.fullPath (pathOf names) name := by
  simp [pathOf]

/-- What a path of names looks like: it is split into them, and its ends are no slashes. -/
structure PathOfNames (names : List ByteString) : Prop where
  words : (pathOf names).splitOnP isSlash = names
  nonempty : pathOf names ≠ []
  first : ∃ c rest, pathOf names = c :: rest ∧ isSlash c = false
  last : ∃ c rest, pathOf names = rest ++ [c] ∧ isSlash c = false

/-- The path of names without slashes is split into them. -/
theorem pathOfNames {names : List ByteString} (hne : names ≠ [])
    (h : ∀ name ∈ names, Unslashed name) : PathOfNames names := by
  induction names using List.reverseRecOn with
  | nil => exact absurd rfl hne
  | append_singleton names name ih =>
    obtain ⟨hname, hslash⟩ := h name (by simp)
    have hwords : name.splitOnP isSlash = [name] := List.splitOnP_eq_singleton hslash
    have hfirst : ∃ c rest, name = c :: rest ∧ isSlash c = false := by
      obtain ⟨c, rest, rfl⟩ := List.exists_cons_of_ne_nil hname
      exact ⟨c, rest, rfl, hslash c (by simp)⟩
    have hlast : ∃ c rest, name = rest ++ [c] ∧ isSlash c = false := by
      obtain ⟨rest, c, rfl⟩ := (List.eq_nil_or_concat name).resolve_left hname
      exact ⟨c, rest, by simp, hslash c (by simp)⟩
    by_cases hnil : names = []
    · subst hnil
      have hpath : pathOf ([] ++ [name]) = name := by simp [pathOf, XdvdfsVolume.fullPath]
      exact ⟨by rw [hpath, hwords]; rfl, by rwa [hpath], by rwa [hpath], by rwa [hpath]⟩
    · obtain ⟨hsplit, hpathne, ⟨c, rest, hcons, hc⟩, -⟩ :=
        ih hnil fun name hname => h name (by simp [hname])
      have hpath : pathOf (names ++ [name]) = pathOf names ++ 0x5C :: name := by
        rw [pathOf_concat, XdvdfsVolume.fullPath, if_neg hpathne, List.append_assoc]
        rfl
      obtain ⟨c', rest', hconcat, hc'⟩ := hlast
      refine ⟨?_, by rw [hpath]; simp, ⟨c, rest ++ 0x5C :: name, ?_, hc⟩,
        ⟨c', pathOf names ++ 0x5C :: rest', ?_, hc'⟩⟩
      · rw [hpath, List.splitOnP_append_cons _ _ (by rfl), hsplit, hwords]
      · rw [hpath, hcons, List.cons_append]
      · rw [hpath, hconcat, List.append_assoc, List.cons_append]

/-- Nothing is trimmed of a path of names. -/
theorem PathOfNames.trim {names : List ByteString} (h : PathOfNames names) :
    trimSlashes (pathOf names) = pathOf names := by
  obtain ⟨-, -, ⟨c, rest, hcons, hc⟩, c', rest', hconcat, hc'⟩ := h
  unfold trimSlashes
  have hfront : (pathOf names).dropWhile isSlash = pathOf names := by
    rw [hcons, List.dropWhile_cons_of_neg (by rw [hc]; exact Bool.false_ne_true)]
  rw [hfront, hconcat, List.rdropWhile_concat_neg isSlash rest' c' (by rw [hc']; exact Bool.false_ne_true)]

/-! ## Names that are accepted -/

/-- What a name that is accepted has not in it. -/
theorem nameAccepted_iff {name : ByteString} : NameAccepted name ↔
    name ≠ [] ∧ name ≠ ascii "." ∧ name ≠ ascii ".." ∧ ∀ c ∈ name, isInvalidComponentChar c = false := by
  unfold NameAccepted checkComponent
  by_cases hempty : name = []
  · simp [hempty, invalidPath]
  · rw [if_neg hempty]
    by_cases hdots : name = ascii "." ∨ name = ascii ".."
    · rw [if_pos hdots]
      refine ⟨nofun, fun h => ?_⟩
      rcases hdots with hdot | hdot
      · exact absurd hdot h.2.1
      · exact absurd hdot h.2.2.1
    · rw [if_neg hdots]
      rw [not_or] at hdots
      by_cases hany : name.any isInvalidComponentChar = true
      · rw [if_pos hany]
        refine ⟨nofun, fun h => ?_⟩
        obtain ⟨c, hc, hinvalid⟩ := List.any_eq_true.1 hany
        rw [h.2.2.2 c hc] at hinvalid
        cases hinvalid
      · rw [if_neg hany]
        refine ⟨fun _ => ⟨hempty, hdots.1, hdots.2, ?_⟩, fun _ => rfl⟩
        simpa using hany

/-- The lower case of a letter. -/
def lowerByte (c : U8) : U8 := if 0x41 ≤ c ∧ c ≤ 0x5A then c + 0x20 else c

/-- Lower case does not change whether a character is invalid. -/
theorem invalid_lowerByte : ∀ c : U8, isInvalidComponentChar (lowerByte c) = isInvalidComponentChar c := by
  decide +kernel

/-- A dot in lower case is a dot. -/
theorem dot_lowerByte : ∀ c : U8, lowerByte c = 0x2E ↔ c = 0x2E := by
  decide +kernel

/-- A name of dots has no case. -/
theorem toLowerAscii_dots {name : ByteString} {n : ℕ} :
    toLowerAscii name = List.replicate n 0x2E ↔ name = List.replicate n 0x2E := by
  rw [List.eq_replicate_iff, List.eq_replicate_iff]
  change (name.map lowerByte).length = n ∧ (∀ b ∈ name.map lowerByte, b = 0x2E) ↔ _
  rw [List.length_map, List.forall_mem_map]
  simp only [dot_lowerByte]

/-- Whether a name is accepted does not depend on its case. -/
theorem NameAccepted.of_lower {a b : ByteString} (h : toLowerAscii a = toLowerAscii b)
    (ha : NameAccepted a) : NameAccepted b := by
  rw [nameAccepted_iff] at ha ⊢
  obtain ⟨hempty, hdot, hdots, hchars⟩ := ha
  refine ⟨?_, ?_, ?_, ?_⟩
  · rintro rfl
    exact hempty (List.map_eq_nil_iff.1 h)
  · intro hb
    have hlower : toLowerAscii a = List.replicate 1 0x2E := h.trans (by rw [hb]; rfl)
    exact hdot (toLowerAscii_dots.1 hlower)
  · intro hb
    have hlower : toLowerAscii a = List.replicate 2 0x2E := h.trans (by rw [hb]; rfl)
    exact hdots (toLowerAscii_dots.1 hlower)
  · have hall : ∀ c ∈ toLowerAscii a, isInvalidComponentChar c = false := by
      intro c hc
      obtain ⟨c', hc', rfl⟩ := List.mem_map.1 hc
      exact (invalid_lowerByte c').trans (hchars c' hc')
    intro c hc
    rw [← invalid_lowerByte]
    exact hall _ (h ▸ List.mem_map_of_mem hc)

/-! ## Splitting a path of names -/

/-- A path starts with its first name and a backslash, or ends. -/
theorem pathOf_cons (name : ByteString) (names : List ByteString) (hname : name ≠ []) :
    ∃ rest, pathOf (name :: names) = name ++ rest ∧ ∀ c, rest.head? = some c → c = 0x5C := by
  induction names using List.reverseRecOn with
  | nil => exact ⟨[], by simp [pathOf, XdvdfsVolume.fullPath], by simp⟩
  | append_singleton names last ih =>
    obtain ⟨rest, hpath, hhead⟩ := ih
    refine ⟨rest ++ 0x5C :: last, ?_, ?_⟩
    · rw [← List.cons_append, pathOf_concat, XdvdfsVolume.fullPath, hpath, if_neg (by simp [hname]),
        List.append_assoc, List.append_assoc]
      rfl
    · intro c hc
      cases rest with
      | nil =>
        cases hc
        rfl
      | cons c' rest => exact hhead c hc

/-- A path whose first name is accepted has no drive prefix. -/
theorem stripDrive_pathOf {name : ByteString} (names : List ByteString) (h : NameAccepted name) :
    stripDrive (pathOf (name :: names)) = .ok (pathOf (name :: names)) := by
  obtain ⟨hempty, -, -, hchars⟩ := nameAccepted_iff.1 h
  obtain ⟨rest, hpath, hhead⟩ := pathOf_cons name names hempty
  have hcolon : (pathOf (name :: names))[1]? ≠ some 0x3A := by
    rw [hpath]
    intro hat
    rcases name with _ | ⟨a, _ | ⟨b, tail⟩⟩
    · exact hempty rfl
    · have hslash := hhead 0x3A (by simpa [List.head?_eq_getElem?] using hat)
      cases hslash
    · have hb : b = 0x3A := by simpa using hat
      have hinvalid := hchars b (by simp)
      rw [hb] at hinvalid
      cases hinvalid
  unfold stripDrive
  rw [if_neg hcolon]

/-- The path of accepted names is split into them. -/
theorem split_pathOf {name : ByteString} {names : List ByteString} (h : NameAccepted name)
    (hnames : ∀ n ∈ name :: names, Unslashed n) :
    splitAndValidateXboxPath (pathOf (name :: names)) = (name :: names).mapM checkComponent := by
  have hpath := pathOfNames (List.cons_ne_nil name names) hnames
  rw [split_eq (stripDrive_pathOf names h), hpath.trim, if_neg hpath.nonempty, hpath.words]

/-- The words of a path of names. -/
theorem pathWords_pathOf {name : ByteString} {names : List ByteString} (h : NameAccepted name)
    (hnames : ∀ n ∈ name :: names, Unslashed n) :
    pathWords (pathOf (name :: names)) = (name :: names).map toLowerAscii := by
  have hpath := pathOfNames (List.cons_ne_nil name names) hnames
  unfold pathWords
  rw [← stripDrive_ok (stripDrive_pathOf names h), hpath.words, List.filter_eq_self.2]
  intro n hn
  exact decide_eq_true (hnames n hn).1

/-- A name that is not accepted is no path to itself: what is left of it is not the name. -/
theorem split_single {name : ByteString} (hname : Unslashed name) (h : ¬ NameAccepted name)
    {comps : List ByteString} (hsplit : splitAndValidateXboxPath name = .ok comps) :
    ∀ comp ∈ comps, comp.length < name.length := by
  cases hstrip : stripDrive name with
  | error e =>
    unfold splitAndValidateXboxPath at hsplit
    rw [hstrip] at hsplit
    cases hsplit
  | ok rest =>
    have hrest := stripDrive_ok hstrip
    rw [split_eq hstrip] at hsplit
    have hslash : ∀ c ∈ rest, isSlash c = false := by
      intro c hc
      apply hname.2
      rw [hrest] at hc
      unfold withoutDrive at hc
      split at hc
      · exact List.mem_of_mem_drop hc
      · exact hc
    by_cases hempty : trimSlashes rest = []
    · rw [if_pos hempty] at hsplit
      cases hsplit
      simp
    · have htrim : trimSlashes rest = rest := by
        have hne : rest ≠ [] := by
          rintro rfl
          exact hempty rfl
        have hpath := (pathOfNames (List.cons_ne_nil rest []) (by simpa [Unslashed, hne] using hslash)).trim
        simpa [pathOf, XdvdfsVolume.fullPath] using hpath
      rw [if_neg hempty, htrim, List.splitOnP_eq_singleton hslash] at hsplit
      rcases mapM_checkComponent [rest] with ⟨hall, hmap⟩ | ⟨-, e, hmap⟩
      · rw [hmap] at hsplit
        cases hsplit
        intro comp hcomp
        rw [List.mem_singleton.1 hcomp, hrest]
        rw [hrest] at hall
        unfold withoutDrive at hall ⊢
        split
        next hcolon =>
          have hlong : 1 < name.length := (List.getElem?_eq_some_iff.1 hcolon).1
          rw [List.length_drop]
          omega
        next hcolon =>
          rw [if_neg hcolon] at hall
          exact absurd (hall name (by simp)) h
      · rw [hmap] at hsplit
        cases hsplit

end Xblob.Analysis
