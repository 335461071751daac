import Xblob.Analysis.FileCalls

/-!
# Moves of a file position

`SetFilePointer` puts the distance together with OR, so a negative low half hides the high one.
What is proved is where the sum is that of exact integers all the same.
-/

set_option autoImplicit false

namespace Xblob.Analysis

open Xblob.Computation Xblob.Interface Xblob.Kernel Xblob.Memory Xblob.Memory.AddressSpace Xblob.Vfs

/-! ## The distance -/

/-- A negative low half hides the high one. -/
theorem signExtend_or {low high : U32} (h : low.msb = true) :
    low.signExtend 64 ||| (high.setWidth 64 <<< 32) = low.signExtend 64 := by
  apply BitVec.eq_of_getLsbD_eq
  intro i hi
  rw [BitVec.getLsbD_or, BitVec.getLsbD_shiftLeft, BitVec.getLsbD_signExtend]
  by_cases hlow : i < 32
  · simp [hlow]
  · simp [hlow, hi, h]

/-- A low half that is not negative extends to itself. -/
theorem toNat_signExtend {low : U32} (h : low.msb = false) : (low.signExtend 64).toNat = low.toNat := by
  have hlow : low.toNat < 2 ^ 32 := low.isLt
  rw [BitVec.signExtend_eq_setWidth_of_msb_false h, BitVec.toNat_setWidth]
  omega

/-- The two halves of a distance. -/
theorem toNat_halves {low : U32} (high : U32) (h : low.msb = false) :
    (low.signExtend 64 ||| (high.setWidth 64 <<< 32)).toNat = high.toNat * 0x100000000 + low.toNat := by
  have hlow : low.toNat < 2 ^ 32 := low.isLt
  have hhigh : high.toNat < 2 ^ 32 := high.isLt
  rw [BitVec.or_comm, BitVec.toNat_or, toNat_signExtend h, BitVec.toNat_shiftLeft, BitVec.toNat_setWidth,
    Nat.mod_eq_of_lt (show high.toNat < 2 ^ 64 by omega), Nat.shiftLeft_eq,
    Nat.mod_eq_of_lt (show high.toNat * 2 ^ 32 < 2 ^ 64 by omega), ← Nat.shiftLeft_eq,
    ← Nat.shiftLeft_add_eq_or_of_lt hlow, Nat.shiftLeft_eq]

section Calls

variable {δ : Type} (c : SeekCall δ)

/-- The distance the code moves. -/
def codeDistance : U64 :=
  if c.highPtr = 0 then c.low.signExtend 64
  else c.low.signExtend 64 ||| (c.high.setWidth 64 <<< 32)

/-- The distance the code moves by, as a signed number. -/
theorem codeDistance_toInt :
    (codeDistance c).toInt = if c.low.msb then c.low.toInt else c.distance := by
  unfold codeDistance SeekCall.distance
  by_cases hptr : c.highPtr = 0
  · rw [if_pos hptr, if_pos hptr, BitVec.toInt_signExtend_of_le (by decide), ite_self]
  · rw [if_neg hptr, if_neg hptr]
    cases hmsb : c.low.msb with
    | true => rw [signExtend_or hmsb, BitVec.toInt_signExtend_of_le (by decide), if_pos rfl]
    | false =>
      have hnat := toNat_halves c.high hmsb
      have hhigh := BitVec.toInt_eq_toNat_cond c.high
      have hlow : c.low.toNat < 2 ^ 32 := c.low.isLt
      have hlt : c.high.toNat < 2 ^ 32 := c.high.isLt
      rw [BitVec.toInt_eq_toNat_cond, hnat, if_neg Bool.false_ne_true]
      omega

/-- Where the code's move starts. -/
def codeStart : U64 :=
  match c.origin with
  | .begin => 0
  | .current => c.file.position
  | .end => Vfs.fileSize c.file

/-- The start the code moves from, as a number. -/
theorem codeStart_toNat : (codeStart c).toNat = c.start := by
  unfold codeStart SeekCall.start
  cases c.origin <;> rfl

/-- Where the low half alone leads, in the words of the code. -/
theorem extended_eq : c.extended = ((codeStart c + codeDistance c).toNat : ℤ) := by
  have hdistance := BitVec.toInt_eq_toNat_cond (codeDistance c)
  have hlt : (codeDistance c).toNat < 2 ^ 64 := (codeDistance c).isLt
  unfold SeekCall.extended
  rw [← codeDistance_toInt, BitVec.toNat_add, codeStart_toNat]
  omega

/-! ## The call -/

/-- The seek of the file system, by what the code adds up. -/
theorem seek_eq (distance : U64) : c.vfs.seek (fromU32 c.handleVal) distance c.origin =
    if (codeStart c + distance).slt 0 then
      .error { code := .invalidArgument, message := "Cannot seek before beginning of file" }
    else .ok (codeStart c + distance,
      c.vfs.setPosition (fromU32 c.handleVal) (codeStart c + distance)) := by
  unfold Vfs.seek codeStart
  rw [c.live]
  cases c.origin <;> simp [Bind.bind, Except.bind]

/-- The services after a move. -/
def movedServices : KernelFileServices :=
  { vfs := some (c.vfs.setPosition (fromU32 c.handleVal) (codeStart c + codeDistance c)) }

/-- The call, once the distance is put together. -/
theorem returns_handedOver : ((KernelFileServices.seekAndHandOver c.services c.vfs
    (fromU32 c.handleVal) (codeDistance c) c.origin c.highPtr).run answer).run c.memory =
      .ok (c.status, c.after) c.memoryAfter := by
  have hreturns := c.returns
  unfold KernelFileServices.setFilePointer at hreturns
  rw [c.mounted] at hreturns
  dsimp only at hreturns
  rw [if_neg (by rw [getFile_isValid c.live]; decide), c.method] at hreturns
  dsimp only at hreturns
  unfold codeDistance
  by_cases hptr : c.highPtr = 0
  · rw [if_neg (not_not_intro hptr)] at hreturns
    rw [if_pos hptr]
    exact hreturns
  · rw [if_pos hptr] at hreturns
    rw [if_neg hptr]
    rw [asked_read32 (read32_word (c.readable hptr))] at hreturns
    exact hreturns

/-- The low half of a position, masked or not. -/
theorem lowHalf (x : U64) : (x &&& 0xFFFFFFFF).setWidth 32 = (x.setWidth 32 : U32) := by
  apply BitVec.eq_of_toNat_eq
  rw [BitVec.toNat_setWidth, BitVec.toNat_setWidth, BitVec.toNat_and,
    show (0xFFFFFFFF : U64).toNat = 2 ^ 32 - 1 from rfl, Nat.and_two_pow_sub_one_eq_mod]
  omega

/-- What the call does. -/
theorem seek_returns :
    (0x8000000000000000 ≤ c.extended → c.status = kInvalidHandleValue ∧ c.after = c.services ∧
      c.memoryAfter = c.memory) ∧
    (c.extended < 0x8000000000000000 →
      c.status = (codeStart c + codeDistance c).setWidth 32 ∧ c.after = movedServices c ∧
      (c.highPtr = 0 → c.memoryAfter = c.memory) ∧
      (c.highPtr ≠ 0 → c.memoryAfter = storedAt c.memory c.cell
        (dwordBytes (((codeStart c + codeDistance c) >>> 32).setWidth 32)))) := by
  have hreturns := returns_handedOver c
  have hsign := BitVec.slt_zero_iff_msb_cond (x := codeStart c + codeDistance c)
  have hmsb := BitVec.msb_eq_decide (codeStart c + codeDistance c)
  unfold KernelFileServices.seekAndHandOver at hreturns
  rw [seek_eq] at hreturns
  rw [extended_eq]
  by_cases hout : (codeStart c + codeDistance c).slt 0 = true
  · rw [if_pos hout] at hreturns
    obtain ⟨hvalue, hmemory⟩ := EStateM.Result.ok.inj hreturns
    obtain ⟨hstatus, hafter⟩ := Prod.mk.inj hvalue
    refine ⟨fun _ => ⟨hstatus.symm, hafter.symm, hmemory.symm⟩, fun hlt => ?_⟩
    rw [hsign.1 hout] at hmsb
    have hge := of_decide_eq_true hmsb.symm
    omega
  · rw [if_neg hout] at hreturns
    dsimp only at hreturns
    have hlt : ¬ 2 ^ (64 - 1) ≤ (codeStart c + codeDistance c).toNat := by
      intro hge
      exact hout (hsign.2 (hmsb.trans (decide_eq_true hge)))
    refine ⟨fun hge => absurd hge (by omega), fun _ => ?_⟩
    by_cases hptr : c.highPtr = 0
    · rw [asked_writeOptional_null hptr] at hreturns
      obtain ⟨hvalue, hmemory⟩ := EStateM.Result.ok.inj hreturns
      obtain ⟨hstatus, hafter⟩ := Prod.mk.inj hvalue
      exact ⟨hstatus.symm.trans (lowHalf _), hafter.symm, fun _ => hmemory.symm,
        fun h => absurd hptr h⟩
    · rw [writeOptional_pointer hptr, asked_write32_ok (write32_word (c.writable hptr) _)] at hreturns
      obtain ⟨hvalue, hmemory⟩ := EStateM.Result.ok.inj hreturns
      obtain ⟨hstatus, hafter⟩ := Prod.mk.inj hvalue
      exact ⟨hstatus.symm.trans (lowHalf _), hafter.symm, fun h => absurd h hptr,
        fun _ => hmemory.symm⟩

/-! ## Where the move is exact -/

/-- The position of the file before the call. -/
theorem services_position :
    positionOf c.services (fromU32 c.handleVal) = some c.file.position := by
  unfold positionOf
  rw [c.mounted]
  simp [c.live, Except.toOption]

/-- The position of the file after a move. -/
theorem moved_position : positionOf (movedServices c) (fromU32 c.handleVal) =
    some (codeStart c + codeDistance c) :=
  positionOf_of_getFile (getFile_setPosition c.live _)

/-- The code moves to the end of the move exactly when the sign of the low half does no harm. -/
theorem extended_iff (hrange : c.InRange) : c.extended = c.target ↔ c.SignFits := by
  have hlow := BitVec.toInt_eq_toNat_cond c.low
  have hmsb := BitVec.msb_eq_decide c.low
  have hhigh := BitVec.toInt_eq_toNat_cond c.high
  have hlowlt : c.low.toNat < 2 ^ 32 := c.low.isLt
  have hhighlt : c.high.toNat < 2 ^ 32 := c.high.isLt
  have hones : c.high = 0xFFFFFFFF ↔ c.high.toNat = 0xFFFFFFFF :=
    ⟨fun h => by rw [h]; rfl, fun h => BitVec.eq_of_toNat_eq h⟩
  obtain ⟨hmin, hmax⟩ := hrange
  unfold SeekCall.SignFits SeekCall.extended
  rw [hones]
  unfold SeekCall.target SeekCall.distance at *
  by_cases hptr : c.highPtr = 0
  · rw [if_pos hptr] at *
    rw [ite_self]
    refine ⟨fun _ => .inl hptr, fun _ => by omega⟩
  · rw [if_neg hptr] at *
    cases hneg : c.low.msb with
    | false =>
      rw [if_neg Bool.false_ne_true]
      exact ⟨fun _ => .inr (.inl rfl), fun _ => by omega⟩
    | true =>
      rw [hneg] at hmsb
      have hge := of_decide_eq_true hmsb.symm
      rw [if_pos rfl]
      constructor
      · intro h
        exact .inr (.inr (by omega))
      · rintro (h | h | h)
        · exact absurd h hptr
        · cases h
        · omega

/-- The status of a move. -/
theorem low_toNat : (((codeStart c + codeDistance c).setWidth 32 : U32).toNat : ℤ) =
    c.extended % 0x100000000 := by
  rw [extended_eq, BitVec.toNat_setWidth]
  omega

/-- The high dword of a move. -/
theorem high_toNat : ((((codeStart c + codeDistance c) >>> 32).setWidth 32 : U32).toNat : ℤ) =
    c.extended / 0x100000000 := by
  have hlt : (codeStart c + codeDistance c).toNat < 2 ^ 64 := (codeStart c + codeDistance c).isLt
  rw [extended_eq, BitVec.toNat_setWidth, BitVec.toNat_ushiftRight, Nat.shiftRight_eq_div_pow]
  omega

/-- The pointer moves as it is to exactly where the sign of the low half fits, or the wrong sum
looks failed. -/
theorem moved_iff (hrange : c.InRange) :
    c.Moved ↔ c.SignFits ∨ 0x8000000000000000 ≤ c.extended ∧ c.LooksFailed c.target := by
  have hrange' := hrange
  obtain ⟨hmin, hmax⟩ := hrange'
  rw [← extended_iff c hrange]
  by_cases hout : 0x8000000000000000 ≤ c.extended
  · obtain ⟨hstatus, hafter, hmemory⟩ := (seek_returns c).1 hout
    constructor
    · rintro ⟨hposition, hlow, hhigh⟩
      rw [hafter, services_position, Option.map_some, Option.some.injEq] at hposition
      rw [hstatus] at hlow
      change 0xFFFFFFFF = _ at hlow
      refine .inr ⟨hout, by omega, by omega, fun hptr => ?_⟩
      have hhigh := hhigh hptr
      rw [hmemory] at hhigh
      change c.high.toNat = _ at hhigh
      omega
    · rintro (h | ⟨-, hhere, hlow, hhigh⟩)
      · omega
      · refine ⟨?_, ?_, fun hptr => ?_⟩
        · rw [hafter, services_position, Option.map_some, Option.some.injEq]
          omega
        · rw [hstatus]
          change 0xFFFFFFFF = _
          omega
        · have hhigh := hhigh hptr
          rw [hmemory]
          change c.high.toNat = _
          omega
  · obtain ⟨hstatus, hafter, hnull, hmemory⟩ := (seek_returns c).2 (by omega)
    have hlow := low_toNat c
    have hhigh := high_toNat c
    have hextended := extended_eq c
    rw [← hstatus] at hlow
    constructor
    · rintro ⟨hposition, -, -⟩
      rw [hafter, moved_position, Option.map_some, Option.some.injEq] at hposition
      exact .inl (by omega)
    · rintro (h | h)
      · refine ⟨?_, by omega, fun hptr => ?_⟩
        · rw [hafter, moved_position, Option.map_some, Option.some.injEq]
          omega
        · rw [hmemory hptr, wordAt_stored]
          omega
      · exact absurd h.1 hout

/-- A move fails where the sum of the code is negative, or looks like the failure value. -/
theorem failed_iff :
    c.Failed ↔ 0x8000000000000000 ≤ c.extended ∨ c.LooksFailed c.extended := by
  by_cases hout : 0x8000000000000000 ≤ c.extended
  · obtain ⟨hstatus, hafter, hmemory⟩ := (seek_returns c).1 hout
    exact ⟨fun _ => .inl hout, fun _ => ⟨hstatus, by rw [hafter], hmemory⟩⟩
  · obtain ⟨hstatus, hafter, hnull, hmemory⟩ := (seek_returns c).2 (by omega)
    have hlow := low_toNat c
    have hhigh := high_toNat c
    have hextended := extended_eq c
    rw [← hstatus] at hlow
    constructor
    · rintro ⟨hfailed, hposition, hsame⟩
      rw [hafter, moved_position, services_position, Option.some.injEq] at hposition
      rw [hfailed] at hlow
      change (0xFFFFFFFF : ℤ) = _ at hlow
      refine .inr ⟨by rw [hextended, hposition], by omega, fun hptr => ?_⟩
      have hword := congrArg (wordAt · c.cell) hsame
      rw [hmemory hptr, wordAt_stored] at hword
      rw [← hhigh, hword]
      rfl
    · rintro (h | ⟨hhere, hones, hsame⟩)
      · exact absurd h hout
      · refine ⟨?_, ?_, ?_⟩
        · apply BitVec.eq_of_toNat_eq
          change _ = 0xFFFFFFFF
          omega
        · rw [hafter, moved_position, services_position, Option.some.injEq]
          apply BitVec.eq_of_toNat_eq
          omega
        · by_cases hptr : c.highPtr = 0
          · exact hnull hptr
          · have hword : (((codeStart c + codeDistance c) >>> 32).setWidth 32 : U32) =
                wordAt c.memory c.cell := by
              apply BitVec.eq_of_toNat_eq
              change _ = c.high.toNat
              have hsame := hsame hptr
              omega
            rw [hmemory hptr, hword, storedAt_wordAt]

/-- Where a move of a file position is that of exact integers. -/
theorem file_move_exact_iff : c.Exact ↔ c.Agrees := by
  unfold SeekCall.Exact SeekCall.Agrees
  by_cases hrange : c.InRange
  · rw [if_pos hrange, if_pos hrange]
    exact moved_iff c hrange
  · rw [if_neg hrange, if_neg hrange]
    exact failed_iff c

end Calls

/-! ## A move by two gigabytes -/

/-- A file of four gigabytes. -/
def largeFile : FileSlot ByteSource VfsFileInfo where
  source := some ⟨fun _ n => .ok (List.replicate n 0)⟩
  info := some { size := 0x100000000 }

/-- A file system with the file open. -/
def largeFileOpen : Vfs where
  handleTable := { slots := [{ generation := 1, isOpen := true, type := .file, file := largeFile }] }

/-- A move by 0x80000000 from the beginning of the file, with a high dword of zero. -/
def twoGigabytes : SeekCall Unit where
  services := { vfs := some largeFileOpen }
  vfs := largeFileOpen
  mounted := rfl
  handleVal := 0x10000
  file := largeFile
  live := rfl
  low := 0x80000000
  highPtr := 0x200
  moveMethod := 0
  origin := .begin
  method := rfl
  memory := zeroSpace
  cell := (0, 0x200)
  readable := fun _ => rfl
  writable := fun _ => rfl
  status := kInvalidHandleValue
  after := { vfs := some largeFileOpen }
  memoryAfter := zeroSpace
  returns := rfl

/-- A move by two gigabytes fails. -/
theorem two_gigabytes_fail : twoGigabytes.target = 0x80000000 ∧
    twoGigabytes.status = kInvalidHandleValue ∧ ¬ twoGigabytes.Exact := by
  refine ⟨rfl, rfl, fun h => ?_⟩
  have hrange : twoGigabytes.InRange := by decide
  unfold SeekCall.Exact at h
  rw [if_pos hrange] at h
  have hlow := h.low
  revert hlow
  decide

end Xblob.Analysis
