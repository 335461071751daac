import Xblob.Model.Gpu.Device
import Xblob.Model.Gpu.Floats

/-!
# Textures

Reading bytes of guest memory by words, and looking up the texel of a texture stage.
-/

set_option autoImplicit false

namespace Xblob.Gpu

/-! ## Bytes of guest memory -/

/-- The loop of `ReadBytes`: the bytes of one word after another.  Every round takes a byte at
least, so there are no more rounds than bytes. -/
def readByteRounds (read : GuestAddr → Result U32) (addr : GuestAddr) :
    ℕ → ℕ → ℕ → Result (List U8)
  | 0, _, _ => .ok []
  | rounds + 1, offset, remaining =>
    if remaining = 0 then .ok []
    else do
      let at_ := addr + BitVec.ofNat 32 offset
      let word ← read (at_ &&& ~~~3)
      let byteInWord := (at_ &&& 3).toNat
      let take := min (4 - byteInWord) remaining
      let rest ← readByteRounds read addr rounds (offset + take) (remaining - take)
      pure ((List.range take).map (fun b => byteOf word (byteInWord + b)) ++ rest)

/-- `ReadBytes` of the vertex fetcher and `ReadBytesFromReader` of the sampler, each with a text
for the case that there is no reader. SOURCE: libs/gpu/src/vertex_fetch.cpp:11-35,
libs/gpu/src/texture_sampler.cpp:10-34 -/
def readBytes (noReader : String) (reader : ReadWordFn) (addr : GuestAddr) (size : ℕ) :
    Result (List U8) :=
  match reader with
  | none => .error { code := .invalidState, message := noReader }
  | some read => readByteRounds read addr size 0 size

/-! ## The sampler -/

/-- The loop of `ComputeSwizzleOffset`: one bit of each coordinate that has bits left. -/
def swizzleRounds (x y : U32) : ℕ → U32 → U32 → U32 → ℕ → U32 → U32
  | 0, _, _, offset, _, _ => offset
  | rounds + 1, width, height, offset, shift, mask =>
    if width > 1 ∨ height > 1 then
      let fromX := decide (width > 1)
      let offset := if fromX ∧ x &&& mask ≠ 0 then offset ||| (1 <<< shift) else offset
      let shift := if fromX then shift + 1 else shift
      let fromY := decide (height > 1)
      let offset := if fromY ∧ y &&& mask ≠ 0 then offset ||| (1 <<< shift) else offset
      let shift := if fromY then shift + 1 else shift
      swizzleRounds x y rounds (if fromX then width >>> 1 else width)
        (if fromY then height >>> 1 else height) offset shift (mask <<< 1)
    else offset

/-- `ComputeSwizzleOffset`: after 32 rounds no size has a bit left.
SOURCE: libs/gpu/src/texture_sampler.cpp:38-60 -/
def computeSwizzleOffset (x y width height : U32) : U32 :=
  swizzleRounds x y 32 width height 0 0 1

namespace TextureStage

/-- `TextureSampler::ValidateStage`. SOURCE: libs/gpu/src/texture_sampler.cpp:62-93 -/
def validate (stage : TextureStage) : Result Unit :=
  if !stage.enabled then .ok ()
  else if stage.width = 0 ∨ stage.height = 0 ∨ stage.width > 2048 ∨ stage.height > 2048 then
    .error { code := .invalidArgument, message := "Invalid texture dimensions" }
  else
    let bpp := stage.format.bytesPerPixel
    if bpp = 0 then
      .error { code := .unsupportedFeature, message := "Unsupported texture format"
               offset := stage.format.setWidth 64 }
    else if stage.layout = .linear ∧ stage.pitch < stage.width * bpp then
      .error { code := .invalidArgument, message := "Texture pitch is smaller than row bytes" }
    else
      let totalBytes := match stage.layout with
        | .linear => stage.height.toNat * stage.pitch.toNat
        | .swizzled => stage.width.toNat * stage.height.toNat * bpp.toNat
      if stage.address.toNat + totalBytes > 0x100000000 then
        .error { code := .outOfBounds
                 message := "Texture memory range exceeds 32-bit guest address space" }
      else .ok ()

variable (fp : FloatUnit)

/-- A coordinate between 0 and 1, by the address mode. -/
def normalized (mode : TextureAddressMode) (u : F32) : F32 :=
  if mode = .clampToEdge ∨ mode = .clampToBorder then fp.clamp u F32.zero F32.one
  else fp.sub u (fp.floor u)

/-- The texel of a normalized coordinate. -/
def texelIndex (norm : F32) (size : U32) : U32 :=
  let t := fp.toU32 (fp.mul norm (fp.ofU32 size))
  if t ≥ size then size - 1 else t

/-- Where a texel is in guest memory. -/
def texelAddr (stage : TextureStage) (u v : F32) : GuestAddr :=
  let bpp := stage.format.bytesPerPixel
  let tx := texelIndex fp (normalized fp stage.wrapU u) stage.width
  let ty := texelIndex fp (normalized fp stage.wrapV v) stage.height
  match stage.layout with
  | .linear => stage.address + (ty * stage.pitch + tx * bpp)
  | .swizzled => stage.address + computeSwizzleOffset tx ty stage.width stage.height * bpp

/-- The color of the bytes of a texel. -/
def texelColor (format : TextureFormat) (raw : List U8) : Result ColorRgba :=
  let byte (i : ℕ) := raw.getD i 0
  if format = .r8g8b8a8 then .ok ⟨byte 0, byte 1, byte 2, byte 3⟩
  else if format = .a8r8g8b8 then .ok ⟨byte 2, byte 1, byte 0, byte 3⟩
  else if format = .x8r8g8b8 then .ok ⟨byte 2, byte 1, byte 0, 255⟩
  else if format = .r5g6b5 then
    let val := (word16 (byte 0) (byte 1)).toNat
    .ok ⟨BitVec.ofNat 8 (val / 2048 % 32 * 255 / 31), BitVec.ofNat 8 (val / 32 % 64 * 255 / 63),
      BitVec.ofNat 8 (val % 32 * 255 / 31), 255⟩
  else
    .error { code := .unsupportedFeature, message := "Unsupported texture format"
             offset := format.setWidth 64 }

/-- The text of the sampler for the case that there is no reader. -/
def noReader : String := "No memory reader configured for texture sampling"

/-- `TextureSampler::SampleNearest`. SOURCE: libs/gpu/src/texture_sampler.cpp:95-168 -/
def sampleNearest (stage : TextureStage) (u v : F32) (reader : ReadWordFn) : Result ColorRgba :=
  if !stage.enabled then .ok {}
  else if stage.format.bytesPerPixel = 0 then
    .error { code := .unsupportedFeature, message := "Unsupported texture format"
             offset := stage.format.setWidth 64 }
  else do
    let raw ← readBytes noReader reader (stage.texelAddr fp u v) stage.format.bytesPerPixel.toNat
    texelColor stage.format raw

end TextureStage

end Xblob.Gpu
