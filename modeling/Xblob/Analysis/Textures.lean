import Mathlib.Tactic.Ring
import Xblob.Interface.Drawing

/-!
# Swizzled texels are one-to-one, and all texels are where the check looks

The loop that takes bits of the column and the row in turn is followed with the bits it has left to
take.  The sizes it counts bits by are rounded down to powers of two, so that sizes of any kind stay
within the memory of a texture.
-/

set_option autoImplicit false

namespace Xblob.Analysis

open Xblob.Computation Xblob.Gpu Xblob.Interface

variable {width height offset : U32} {shift : ℕ} {stage : TextureStage}

/-! ## The loop -/

/-- The bit of a coordinate that a round looks at. -/
theorem bit_eq (x : U32) (k : ℕ) :
    x.toNat / 2 ^ k % 2 = if x &&& BitVec.twoPow 32 k ≠ 0 then 1 else 0 := by
  rw [← Nat.toNat_testBit, BitVec.testBit_toNat, BitVec.and_twoPow]
  cases hbit : x.getLsbD k with
  | false => simp
  | true =>
    have hk : k < 32 := BitVec.lt_of_getLsbD hbit
    have hne : BitVec.twoPow 32 k ≠ 0 := by
      intro hzero
      have htwo := congrArg BitVec.toNat hzero
      rw [BitVec.toNat_twoPow_of_lt hk] at htwo
      exact absurd htwo (Nat.two_pow_pos k).ne'
    rw [if_pos rfl, if_pos hne]
    rfl

/-- The offset with the next bit set in it, if the coordinate has the bit. -/
theorem toNat_setBit (x : U32) (k : ℕ) (hshift : shift < 32) (hoffset : offset.toNat < 2 ^ shift) :
    (if x &&& BitVec.twoPow 32 k ≠ 0 then offset ||| ((1 <<< shift : ℕ) : U32) else offset).toNat =
        offset.toNat + 2 ^ shift * (x.toNat / 2 ^ k % 2) ∧
      (if x &&& BitVec.twoPow 32 k ≠ 0 then offset ||| ((1 <<< shift : ℕ) : U32)
        else offset).toNat < 2 ^ (shift + 1) := by
  have hdouble : 2 ^ (shift + 1) = 2 ^ shift * 2 := pow_succ 2 shift
  rw [bit_eq]
  by_cases hbit : x &&& BitVec.twoPow 32 k ≠ 0
  · have hlt : 2 ^ shift < 2 ^ 32 := Nat.pow_lt_pow_right (by decide) hshift
    have hone : ((1 <<< shift : ℕ) : U32).toNat = 2 ^ shift * 1 := by
      rw [Nat.one_shiftLeft, Nat.mul_one]
      exact Nat.mod_eq_of_lt hlt
    have hset : (offset ||| ((1 <<< shift : ℕ) : U32)).toNat = offset.toNat + 2 ^ shift * 1 := by
      rw [BitVec.toNat_or, hone, Nat.or_comm, ← Nat.two_pow_add_eq_or_of_lt hoffset, Nat.add_comm]
    rw [if_pos hbit, if_pos hbit, hset]
    exact ⟨rfl, by omega⟩
  · rw [if_neg hbit, if_neg hbit]
    exact ⟨rfl, by omega⟩

/-- The logarithm of a number above one is one more than that of its half. -/
theorem log2_halved {n : U32} (hn : n > 1) : n.toNat.log2 = (n >>> 1).toNat.log2 + 1 := by
  have hn' : 1 < n.toNat := hn
  rw [Nat.log2_def, if_pos (by omega), BitVec.toNat_ushiftRight, Nat.shiftRight_eq_div_pow, pow_one]

/-- The logarithm of zero and one is zero. -/
theorem log2_small {n : U32} (hn : ¬ n > 1) : n.toNat.log2 = 0 := by
  have hn' : ¬ 1 < n.toNat := hn
  rw [Nat.log2_def, if_neg (by omega)]

/-- Shifting a power of two by one doubles it. -/
theorem twoPow_shifted (k : ℕ) : BitVec.twoPow 32 k <<< 1 = BitVec.twoPow 32 (k + 1) := by
  rw [BitVec.twoPow_eq, BitVec.twoPow_eq, ← BitVec.shiftLeft_add]

/-- The loop adds the bits that are left, in turn, above the offset it has. -/
theorem toNat_swizzleRounds (x y : U32) (rounds k : ℕ) (width height offset : U32) (shift : ℕ)
    (hwidth : width.toNat.log2 ≤ rounds) (hheight : height.toNat.log2 ≤ rounds)
    (hshift : shift + width.toNat.log2 + height.toNat.log2 < 32)
    (hoffset : offset.toNat < 2 ^ shift) :
    (swizzleRounds x y rounds width height offset shift (BitVec.twoPow 32 k)).toNat =
      offset.toNat + 2 ^ shift *
        interleave width.toNat.log2 height.toNat.log2 (x.toNat / 2 ^ k) (y.toNat / 2 ^ k) := by
  induction rounds generalizing k width height offset shift with
  | zero =>
    obtain ⟨hw, hh⟩ : width.toNat.log2 = 0 ∧ height.toNat.log2 = 0 := by omega
    rw [hw, hh, interleave]
    rfl
  | succ rounds ih =>
    rw [swizzleRounds, twoPow_shifted]
    by_cases hw : width > 1
    · have hwidth' := log2_halved hw
      obtain ⟨hx, hxlt⟩ := toNat_setBit x k (by omega) hoffset
      by_cases hh : height > 1
      · have hheight' := log2_halved hh
        obtain ⟨hy, hylt⟩ := toNat_setBit y k (show shift + 1 < 32 by omega) hxlt
        simp only [hw, hh, or_self, decide_true, true_and, ↓reduceIte]
        rw [ih (k + 1) (width >>> 1) (height >>> 1) _ (shift + 1 + 1) (by omega) (by omega)
          (by omega) hylt, hy, hx, hwidth', hheight', interleave]
        simp only [pow_succ, Nat.div_div_eq_div_mul]
        ring
      · have hheight' := log2_small hh
        simp only [hw, hh, or_false, decide_true, decide_false, Bool.false_eq_true, true_and, false_and,
          ↓reduceIte]
        rw [ih (k + 1) (width >>> 1) height _ (shift + 1) (by omega) (by omega) (by omega) hxlt, hx,
          hwidth', hheight', interleave]
        simp only [pow_succ, Nat.div_div_eq_div_mul]
        ring
    · have hwidth' := log2_small hw
      by_cases hh : height > 1
      · have hheight' := log2_halved hh
        obtain ⟨hy, hylt⟩ := toNat_setBit y k (by omega) hoffset
        simp only [hw, hh, or_true, decide_true, decide_false, Bool.false_eq_true, true_and, false_and,
          ↓reduceIte]
        rw [ih (k + 1) width (height >>> 1) _ (shift + 1) (by omega) (by omega) (by omega) hylt, hy,
          hwidth', hheight', interleave]
        simp only [pow_succ, Nat.div_div_eq_div_mul]
        ring
      · rw [hwidth', log2_small hh, interleave, if_neg (not_or.2 ⟨hw, hh⟩)]
        rfl

/-- The offset of a texel, for sizes of any kind, is the bits of its column and row in turn. -/
theorem toNat_computeSwizzleOffset (x y : U32)
    (hfits : width.toNat.log2 + height.toNat.log2 < 32) :
    (computeSwizzleOffset x y width height).toNat =
      interleave width.toNat.log2 height.toNat.log2 x.toNat y.toNat := by
  have hone : (1 : U32) = BitVec.twoPow 32 0 := rfl
  rw [computeSwizzleOffset, hone, toNat_swizzleRounds x y 32 0 width height 0 0 (by omega) (by omega)
    (by omega) (by decide)]
  simp

/-! ## Sizes that are powers of two -/

/-- The swizzled offsets of a texture whose sizes are powers of two. -/
theorem swizzle_bijective {a b : ℕ} (hab : a + b ≤ 31) : SwizzleBijective a b := by
  have hoffset (x y : U32) :
      (computeSwizzleOffset x y (BitVec.twoPow 32 a) (BitVec.twoPow 32 b)).toNat =
        interleave a b x.toNat y.toNat := by
    have ha : (BitVec.twoPow 32 a).toNat.log2 = a := by
      rw [BitVec.toNat_twoPow_of_lt (by omega), Nat.log2_two_pow]
    have hb : (BitVec.twoPow 32 b).toNat.log2 = b := by
      rw [BitVec.toNat_twoPow_of_lt (by omega), Nat.log2_two_pow]
    rw [toNat_computeSwizzleOffset x y (by omega), ha, hb]
  have hsmall {n c : ℕ} (hn : n < 2 ^ c) (hc : c ≤ 31) : n < 2 ^ 32 :=
    hn.trans_le (Nat.pow_le_pow_right (by decide) (by omega))
  obtain ⟨hmaps, hinj, hsurj⟩ := interleave_bijOn a b
  refine ⟨?_, ?_, ?_⟩
  · rintro ⟨x, y⟩ ⟨hx, hy⟩
    show (computeSwizzleOffset x y _ _).toNat < _
    rw [hoffset]
    exact hmaps (show (x.toNat, y.toNat) ∈ _ from ⟨hx, hy⟩)
  · rintro ⟨x, y⟩ ⟨hx, hy⟩ ⟨x', y'⟩ ⟨hx', hy'⟩ h
    have hbits := congrArg BitVec.toNat h
    dsimp only at hbits
    rw [hoffset, hoffset] at hbits
    have hpair : (x.toNat, y.toNat) = (x'.toNat, y'.toNat) := hinj ⟨hx, hy⟩ ⟨hx', hy'⟩ hbits
    rw [Prod.mk.injEq] at hpair
    rw [Prod.mk.injEq]
    exact ⟨BitVec.eq_of_toNat_eq hpair.1, BitVec.eq_of_toNat_eq hpair.2⟩
  · rintro offset hlt
    obtain ⟨⟨x, y⟩, ⟨hx, hy⟩, heq⟩ := hsurj hlt
    have hx' : (BitVec.ofNat 32 x).toNat = x := Nat.mod_eq_of_lt (hsmall hx (by omega))
    have hy' : (BitVec.ofNat 32 y).toNat = y := Nat.mod_eq_of_lt (hsmall hy (by omega))
    refine ⟨(BitVec.ofNat 32 x, BitVec.ofNat 32 y), ⟨?_, ?_⟩, ?_⟩
    · show (BitVec.ofNat 32 x).toNat < 2 ^ a
      rw [hx']
      exact hx
    · show (BitVec.ofNat 32 y).toNat < 2 ^ b
      rw [hy']
      exact hy
    · apply BitVec.eq_of_toNat_eq
      dsimp only
      rw [hoffset, hx', hy']
      exact heq

/-! ## Stages that have been validated -/

/-- A word that is not zero is positive. -/
theorem toNat_pos_of_ne_zero {v : U32} (hv : v ≠ 0) : 0 < v.toNat := by
  apply Nat.pos_of_ne_zero
  intro hzero
  exact hv (BitVec.eq_of_toNat_eq hzero)

/-- What the check of an enabled stage has found. -/
structure Checked (stage : TextureStage) : Prop where
  width : 0 < stage.width.toNat ∧ stage.width.toNat ≤ 2048
  height : 0 < stage.height.toNat ∧ stage.height.toNat ≤ 2048
  size : stage.format.bytesPerPixel = 2 ∨ stage.format.bytesPerPixel = 4
  pitch : stage.layout = .linear →
    stage.width.toNat * stage.format.bytesPerPixel.toNat ≤ stage.pitch.toNat
  memory : stage.address.toNat + checkedBytes stage ≤ 2 ^ 32

/-- A checked stage has pixels of one to four bytes. -/
theorem Checked.size_bounds (h : Checked stage) :
    0 < stage.format.bytesPerPixel.toNat ∧ stage.format.bytesPerPixel.toNat ≤ 4 := by
  obtain heq | heq := h.size
  · rw [heq]
    decide
  · rw [heq]
    decide

/-- An enabled stage that validates is checked. -/
theorem checked_of_validate (henabled : stage.enabled) (hvalid : stage.validate = .ok ()) :
    Checked stage := by
  unfold TextureStage.validate at hvalid
  rw [henabled] at hvalid
  simp only [Bool.not_true, Bool.false_eq_true, ↓reduceIte] at hvalid
  split_ifs at hvalid with hsizes hbpp hpitch hrange
  obtain ⟨hw, hh, hw', hh'⟩ : stage.width ≠ 0 ∧ stage.height ≠ 0 ∧ ¬ stage.width > 2048 ∧
      ¬ stage.height > 2048 := by
    simpa only [not_or] using hsizes
  have hwidth : 0 < stage.width.toNat ∧ stage.width.toNat ≤ 2048 :=
    ⟨toNat_pos_of_ne_zero hw, Nat.not_lt.1 hw'⟩
  have hsize := (stage.format.bytesPerPixel_cases).resolve_left hbpp
  refine ⟨hwidth, ⟨toNat_pos_of_ne_zero hh, Nat.not_lt.1 hh'⟩, hsize, ?_, ?_⟩
  · intro hlinear
    have hrow : ¬ stage.pitch.toNat < (stage.width * stage.format.bytesPerPixel).toNat :=
      fun hlt => hpitch ⟨hlinear, hlt⟩
    have hbytes : stage.format.bytesPerPixel.toNat ≤ 4 := by
      obtain heq | heq := hsize
      · rw [heq]
        decide
      · rw [heq]
        decide
    have hmul : stage.width.toNat * stage.format.bytesPerPixel.toNat ≤ 2048 * 4 :=
      Nat.mul_le_mul hwidth.2 hbytes
    rw [BitVec.toNat_mul, Nat.mod_eq_of_lt (by omega)] at hrow
    exact Nat.not_lt.1 hrow
  · exact Nat.not_lt.1 hrange

/-- The texels of a swizzled texture are not more than its columns times its rows. -/
theorem computeSwizzleOffset_lt (hwidth : 0 < width.toNat ∧ width.toNat ≤ 2048)
    (hheight : 0 < height.toNat ∧ height.toNat ≤ 2048) (x y : U32) :
    (computeSwizzleOffset x y width height).toNat < width.toNat * height.toNat := by
  have hlog {n : ℕ} (hn : 0 < n ∧ n ≤ 2048) : n.log2 < 12 ∧ 2 ^ n.log2 ≤ n := by
    have hne : n ≠ 0 := by omega
    exact ⟨(Nat.log2_lt hne).2 (by omega), Nat.log2_self_le hne⟩
  have hw := hlog hwidth
  have hh := hlog hheight
  rw [toNat_computeSwizzleOffset x y (by omega)]
  calc interleave width.toNat.log2 height.toNat.log2 x.toNat y.toNat
      < 2 ^ (width.toNat.log2 + height.toNat.log2) := interleave_lt _ _ _ _
    _ = 2 ^ width.toNat.log2 * 2 ^ height.toNat.log2 := pow_add _ _ _
    _ ≤ width.toNat * height.toNat := Nat.mul_le_mul hw.2 hh.2

/-- A texel ends within the memory that the check is about. -/
theorem texelOffset_le (h : Checked stage) {tx ty : U32} (hx : tx < stage.width) (hy : ty < stage.height) :
    texelOffset stage tx ty + stage.format.bytesPerPixel.toNat ≤ checkedBytes stage := by
  have hx' : tx.toNat + 1 ≤ stage.width.toNat := hx
  have hy' : ty.toNat + 1 ≤ stage.height.toNat := hy
  unfold texelOffset checkedBytes
  cases hlayout : stage.layout with
  | linear =>
    calc ty.toNat * stage.pitch.toNat + tx.toNat * stage.format.bytesPerPixel.toNat +
            stage.format.bytesPerPixel.toNat
        = ty.toNat * stage.pitch.toNat + (tx.toNat + 1) * stage.format.bytesPerPixel.toNat := by ring
      _ ≤ ty.toNat * stage.pitch.toNat + stage.pitch.toNat :=
        Nat.add_le_add_left ((Nat.mul_le_mul_right _ hx').trans (h.pitch hlayout)) _
      _ = (ty.toNat + 1) * stage.pitch.toNat := by ring
      _ ≤ stage.height.toNat * stage.pitch.toNat := Nat.mul_le_mul_right _ hy'
  | swizzled =>
    have hlt := computeSwizzleOffset_lt h.width h.height tx ty
    calc (computeSwizzleOffset tx ty stage.width stage.height).toNat *
            stage.format.bytesPerPixel.toNat + stage.format.bytesPerPixel.toNat
        = ((computeSwizzleOffset tx ty stage.width stage.height).toNat + 1) *
            stage.format.bytesPerPixel.toNat := by ring
      _ ≤ stage.width.toNat * stage.height.toNat * stage.format.bytesPerPixel.toNat :=
        Nat.mul_le_mul_right _ hlt

/-- The address of a texel is the sum as a number, as that ends within 32 bits. -/
theorem toNat_texelAddrAt (h : Checked stage) {tx ty : U32} (hx : tx < stage.width)
    (hy : ty < stage.height) :
    (texelAddrAt stage tx ty).toNat = stage.address.toNat + texelOffset stage tx ty := by
  have hle := texelOffset_le h hx hy
  have hmemory := h.memory
  have hpos := h.size_bounds.1
  revert hle
  unfold texelAddrAt texelOffset
  cases stage.layout with
  | linear =>
    intro hle
    dsimp only at hle ⊢
    rw [BitVec.toNat_add, BitVec.toNat_add, BitVec.toNat_mul, BitVec.toNat_mul]
    simp only [Nat.add_mod_mod, Nat.mod_add_mod]
    exact Nat.mod_eq_of_lt (by omega)
  | swizzled =>
    intro hle
    dsimp only at hle ⊢
    rw [BitVec.toNat_add, BitVec.toNat_mul, Nat.add_mod_mod]
    exact Nat.mod_eq_of_lt (by omega)

/-- A column or row that the sampler takes is one of the texture. -/
theorem texelIndex_lt (fp : FloatUnit) (norm : F32) {size : U32} (hsize : 0 < size.toNat) :
    TextureStage.texelIndex fp norm size < size := by
  unfold TextureStage.texelIndex
  dsimp only
  split_ifs with hlarge
  · show (size - 1).toNat < size.toNat
    have hone : (1 : U32).toNat ≤ size.toNat := hsize
    rw [BitVec.toNat_sub_of_le hone]
    show size.toNat - 1 < size.toNat
    omega
  · exact Nat.not_le.1 hlarge

/-- The sampler looks up a texel of the texture. -/
theorem texelAddr_eq (fp : FloatUnit) (h : Checked stage) (u v : F32) :
    ∃ tx ty, tx < stage.width ∧ ty < stage.height ∧
      stage.texelAddr fp u v = texelAddrAt stage tx ty := by
  refine ⟨_, _, texelIndex_lt fp (TextureStage.normalized fp stage.wrapU u) h.width.1,
    texelIndex_lt fp (TextureStage.normalized fp stage.wrapV v) h.height.1, rfl⟩

/-- The texels of a stage that has been validated are inside the memory that the check is about. -/
theorem texelsInside (h : Checked stage) : TexelsInside stage := by
  refine ⟨h.memory, ?_, fun fp u v => texelAddr_eq fp h u v⟩
  intro tx ty hx hy i hi
  have hle := texelOffset_le h hx hy
  have hmemory := h.memory
  have hbound := h.size_bounds.2
  refine ⟨?_, by omega⟩
  rw [BitVec.toNat_add, toNat_texelAddrAt h hx hy, BitVec.toNat_ofNat, Nat.mod_eq_of_lt (by omega),
    Nat.mod_eq_of_lt (by omega)]

/-- Swizzled offsets are one-to-one for sizes that are powers of two, and the texels of a stage
that has been validated are inside the memory that the check is about. -/
theorem swizzle_bijective_and_inside {a b : ℕ} (hab : a + b ≤ 31) (henabled : stage.enabled)
    (hvalid : stage.validate = .ok ()) : SwizzleBijective a b ∧ TexelsInside stage :=
  ⟨swizzle_bijective hab, texelsInside (checked_of_validate henabled hvalid)⟩

/-- A swizzled texture of three columns and five rows. -/
def oddTexture : TextureStage where
  address := 0x00010000
  width := 3
  height := 5
  format := .r5g6b5
  layout := .swizzled
  enabled := true

/-- The example stage is swizzled one to one, and inside. -/
theorem swizzle_bijective_and_inside_odd : SwizzleBijective 1 2 ∧ TexelsInside oddTexture :=
  swizzle_bijective_and_inside (by decide) rfl (by decide)

end Xblob.Analysis
