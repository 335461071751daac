import Xblob.Computation.Fallible
import Xblob.Model.Gpu.Vertices

/-!
# The rasterizer

A triangle is set up in fixed point, and the pixels of its box are taken one after the other:
those inside it that pass the depth test are colored.  Only the look-up of a texel can fail, and
what has been drawn before stays drawn.
-/

set_option autoImplicit false

namespace Xblob.Gpu

open Xblob.Computation

/-- `RasterizerState`. SOURCE: libs/gpu/include/xblob/gpu/rasterizer.hpp:14-27 -/
structure RasterizerState where
  cullMode : CullMode := .none
  cullEnabled : Bool := false
  scissor : Scissor := {}
  depthFunc : DepthFunc := .lessEqual
  depthTestEnabled : Bool := false
  depthWriteEnabled : Bool := true
  colorMask : ColorMask := {}
  blendEnabled : Bool := false
  srcBlend : BlendFactor := .one
  dstBlend : BlendFactor := .zero
  blendEquation : BlendEquation := .add
  textureStage0 : TextureStage := {}

/-- What is drawn to, and how many pixels of the triangle have been. -/
structure RasterTarget where
  surface : GpuSurface
  depthBuffer : List F32
  pixelsRasterized : U32 := 0

section

variable (fp : FloatUnit)

/-- `BlendFactorValue`. SOURCE: libs/gpu/src/rasterizer.cpp:12-37 -/
def blendFactorValue (factor : BlendFactor) (srcC srcA dstC dstA : F32) : F32 :=
  if factor = .zero then F32.zero
  else if factor = .one then F32.one
  else if factor = .srcColor then srcC
  else if factor = .invSrcColor then fp.sub F32.one srcC
  else if factor = .srcAlpha then srcA
  else if factor = .invSrcAlpha then fp.sub F32.one srcA
  else if factor = .dstAlpha then dstA
  else if factor = .invDstAlpha then fp.sub F32.one dstA
  else if factor = .dstColor then dstC
  else if factor = .invDstColor then fp.sub F32.one dstC
  else F32.one

/-- `Rasterizer::DepthPasses`. SOURCE: libs/gpu/src/rasterizer.cpp:41-62 -/
def depthPasses (func : DepthFunc) (fragZ bufferZ : F32) : Bool :=
  let above := fp.add bufferZ F32.epsilon
  let below := fp.sub bufferZ F32.epsilon
  let distance := F32.abs (fp.sub fragZ bufferZ)
  if func = .never then false
  else if func = .less then fp.lt fragZ below
  else if func = .equal then fp.le distance F32.epsilon
  else if func = .lessEqual then fp.le fragZ above
  else if func = .greater then fp.lt above fragZ
  else if func = .notEqual then fp.lt F32.epsilon distance
  else if func = .greaterEqual then fp.le below fragZ
  else true

/-- The lambda `apply_eq` of `BlendPixels`. -/
def applyEquation (sTerm dTerm : F32) (eq : BlendEquation) : F32 :=
  if eq = .add then fp.add sTerm dTerm
  else if eq = .subtract then fp.sub sTerm dTerm
  else if eq = .reverseSubtract then fp.sub dTerm sTerm
  else if eq = .min then fp.min sTerm dTerm
  else if eq = .max then fp.max sTerm dTerm
  else fp.add sTerm dTerm

/-- `Rasterizer::BlendPixels`. SOURCE: libs/gpu/src/rasterizer.cpp:64-107 -/
def blendPixels (src dst : ColorRgba) (srcF dstF : BlendFactor) (eq : BlendEquation) : ColorRgba :=
  let scaled (b : U8) := fp.mul (fp.ofU8 b) (fp.div F32.one F32.n255)
  let channel (s d : U8) : U8 :=
    let sVal := blendFactorValue fp srcF (scaled s) (scaled src.a) (scaled d) (scaled dst.a)
    let dVal := blendFactorValue fp dstF (scaled s) (scaled src.a) (scaled d) (scaled dst.a)
    let blended := applyEquation fp (fp.mul (scaled s) sVal) (fp.mul (scaled d) dVal) eq
    fp.toU8 (fp.round (fp.mul (fp.clamp blended F32.zero F32.one) F32.n255))
  ⟨channel src.r dst.r, channel src.g dst.g, channel src.b dst.b, channel src.a dst.a⟩

/-! ## Setting a triangle up.  SOURCE: libs/gpu/src/rasterizer.cpp:112-180 -/

/-- A point in 28.4 fixed point. -/
structure FixedPoint where
  x : ℤ
  y : ℤ

/-- Twice the area of the triangle of three points, or the edge function of a point. -/
def FixedPoint.edge (a b p : FixedPoint) : ℤ :=
  (b.x - a.x) * (p.y - a.y) - (b.y - a.y) * (p.x - a.x)

/-- The top-left rule: the edge is horizontal and points right, or goes up. -/
def FixedPoint.isTopLeft (a b : FixedPoint) : Bool :=
  (b.y - a.y = 0 ∧ b.x - a.x > 0) ∨ b.y - a.y < 0

/-- The vertices in the order in which they are drawn, and the box of the pixels. -/
structure TriangleSetup where
  va : TransformedVertex
  vb : TransformedVertex
  vc : TransformedVertex
  a : FixedPoint
  b : FixedPoint
  c : FixedPoint
  deltaFixed : ℤ
  minX : ℤ
  maxX : ℤ
  minY : ℤ
  maxY : ℤ

/-- The lambda `to_fixed`. -/
def toFixed (val : F32) : ℤ := fp.toI64 (fp.round (fp.mul val F32.n16))

/-- The place of a vertex in fixed point. -/
def fixedPoint (v : TransformedVertex) : FixedPoint := ⟨toFixed fp v.screenX, toFixed fp v.screenY⟩

/-- The lesser of two bounds on a side of the box, and the greater. -/
def boxMin (a b c : F32) : ℤ := Max.max 0 (fp.toInt (fp.floor (fp.min (fp.min a b) c)))

/-- The greater bound. -/
def boxMax (size : U32) (a b c : F32) : ℤ :=
  Min.min (size - 1).toInt (fp.toInt (fp.ceil (fp.max (fp.max a b) c)))

/-- The triangle set up, or nothing if no pixel of it is drawn. -/
def setupTriangle (tri : Triangle) (state : RasterizerState) (width height : U32) :
    Option TriangleSetup :=
  let area2 := fp.sub
    (fp.mul (fp.sub tri.v1.screenX tri.v0.screenX) (fp.sub tri.v2.screenY tri.v0.screenY))
    (fp.mul (fp.sub tri.v1.screenY tri.v0.screenY) (fp.sub tri.v2.screenX tri.v0.screenX))
  if fp.lt (F32.abs area2) F32.epsilon then none
  else if state.cullEnabled ∧ state.cullMode = .cw ∧ fp.lt area2 F32.zero then none
  else if state.cullEnabled ∧ state.cullMode = .ccw ∧ fp.lt F32.zero area2 then none
  else
    let va := tri.v0
    let (vb, vc) := if fp.lt area2 F32.zero then (tri.v2, tri.v1) else (tri.v1, tri.v2)
    let a := fixedPoint fp va
    let b := fixedPoint fp vb
    let c := fixedPoint fp vc
    let deltaFixed := a.edge b c
    if deltaFixed ≤ 0 then none
    else
      let minX := boxMin fp va.screenX vb.screenX vc.screenX
      let maxX := boxMax fp width va.screenX vb.screenX vc.screenX
      let minY := boxMin fp va.screenY vb.screenY vc.screenY
      let maxY := boxMax fp height va.screenY vb.screenY vc.screenY
      let s := state.scissor
      let minX := if s.enabled then Max.max minX s.x.toInt else minX
      let maxX := if s.enabled then Min.min maxX (s.x + s.width - 1).toInt else maxX
      let minY := if s.enabled then Max.max minY s.y.toInt else minY
      let maxY := if s.enabled then Min.min maxY (s.y + s.height - 1).toInt else maxY
      if minX > maxX ∨ minY > maxY then none
      else some ⟨va, vb, vc, a, b, c, deltaFixed, minX, maxX, minY, maxY⟩

/-- The numbers between two, both included. -/
def between (lo hi : ℤ) : List ℤ :=
  (List.range (hi - lo + 1).toNat).map fun i : ℕ => lo + (i : ℤ)

/-- The pixels of the box, row by row. -/
def TriangleSetup.pixels (t : TriangleSetup) : List (ℤ × ℤ) :=
  (between t.minY t.maxY).flatMap fun y => (between t.minX t.maxX).map fun x => (x, y)

/-! ## One pixel.  SOURCE: libs/gpu/src/rasterizer.cpp:185-287 -/

/-- The weights of the vertices at a pixel. -/
structure PixelWeights where
  wa : F64
  wb : F64
  wc : F64

namespace TriangleSetup

variable (t : TriangleSetup) (x y : ℤ)

/-- The weights at a pixel, if its center is in the triangle. -/
def weights : Option PixelWeights :=
  let p : FixedPoint := ⟨x * 16 + 8, y * 16 + 8⟩
  let eBc := t.b.edge t.c p
  let eCa := t.c.edge t.a p
  let eAb := t.a.edge t.b p
  let passes (topLeft : Bool) (e : ℤ) : Bool := if topLeft then e ≥ 0 else e > 0
  if passes (t.b.isTopLeft t.c) eBc && passes (t.c.isTopLeft t.a) eCa &&
      passes (t.a.isTopLeft t.b) eAb then
    let invDelta := fp.divD F64.one (fp.ofI64 t.deltaFixed)
    some ⟨fp.mulD (fp.ofI64 eBc) invDelta, fp.mulD (fp.ofI64 eCa) invDelta,
      fp.mulD (fp.ofI64 eAb) invDelta⟩
  else none

/-- A sum over the vertices, each with its weight. -/
def weighted (w : PixelWeights) (f : TransformedVertex → F64 → F64) : F64 :=
  fp.addD (fp.addD (f t.va w.wa) (f t.vb w.wb)) (f t.vc w.wc)

/-- The depth of a pixel. -/
def depthAt (w : PixelWeights) : F32 :=
  fp.narrow (t.weighted fp w fun v k => fp.mulD k (fp.widen v.screenZ))

/-- The reciprocal of the interpolated `inv_w`. -/
def perspective (w : PixelWeights) : F32 :=
  let invW := fp.narrow (t.weighted fp w fun v k => fp.mulD k (fp.widen v.invW))
  if fp.lt F32.tiny invW then fp.div F32.one invW else F32.one

/-- A perspective-correct attribute. -/
def interpolated (w : PixelWeights) (attr : TransformedVertex → F64) : F32 :=
  let sum := t.weighted fp w fun v k => fp.mulD (fp.mulD k (attr v)) (fp.widen v.invW)
  fp.narrow (fp.mulD sum (fp.widen (t.perspective fp w)))

/-- The color of a pixel. -/
def colorAt (w : PixelWeights) : ColorRgba :=
  let channel (c : ColorRgba → U8) : U8 :=
    let f := t.interpolated fp w fun v => fp.ofI64 (c v.color).toNat
    fp.toU8 (fp.clamp (fp.round f) F32.zero F32.n255)
  ⟨channel ColorRgba.r, channel ColorRgba.g, channel ColorRgba.b, channel ColorRgba.a⟩

/-- The texture coordinates of a pixel. -/
def texCoordsAt (w : PixelWeights) : F32 × F32 :=
  (t.interpolated fp w fun v => fp.widen v.u, t.interpolated fp w fun v => fp.widen v.v)

end TriangleSetup

/-- A color times that of a texel, channel by channel. -/
def ColorRgba.modulate (frag tex : ColorRgba) : ColorRgba :=
  let channel (f t : U8) := BitVec.ofNat 8 (f.toNat * t.toNat / 255)
  ⟨channel frag.r tex.r, channel frag.g tex.g, channel frag.b tex.b, channel frag.a tex.a⟩

/-- The channels of a color that the mask lets through, over those of another. -/
def ColorMask.over (m : ColorMask) (frag dst : ColorRgba) : ColorRgba :=
  ⟨if m.writeR then frag.r else dst.r, if m.writeG then frag.g else dst.g,
    if m.writeB then frag.b else dst.b, if m.writeA then frag.a else dst.a⟩

/-- Where the depth of a pixel is. -/
def depthIndex (surface : GpuSurface) (x y : ℤ) : ℕ := y.toNat * surface.width.toNat + x.toNat

/-- The weights of a pixel that is in the triangle and passes the depth test. -/
def visibleWeights (t : TriangleSetup) (state : RasterizerState) (x y : ℤ) (target : RasterTarget) :
    Option PixelWeights :=
  match t.weights fp x y with
  | none => none
  | some w =>
    let bufferZ := target.depthBuffer.getD (depthIndex target.surface x y) 0
    if state.depthTestEnabled ∧ ¬ depthPasses fp state.depthFunc (t.depthAt fp w) bufferZ then none
    else some w

/-- The color of a pixel before blending. -/
def fragmentColor (t : TriangleSetup) (state : RasterizerState) (reader : ReadWordFn)
    (w : PixelWeights) : Result ColorRgba :=
  let frag := t.colorAt fp w
  if state.textureStage0.enabled then do
    let (u, v) := t.texCoordsAt fp w
    let texCol ← state.textureStage0.sampleNearest fp u v reader
    pure (frag.modulate texCol)
  else .ok frag

/-- Blending a color with the one that is there, and storing color and depth. -/
def storeFragment (t : TriangleSetup) (state : RasterizerState) (x y : ℤ) (w : PixelWeights)
    (frag : ColorRgba) (target : RasterTarget) : RasterTarget :=
  let px := BitVec.ofInt 32 x
  let py := BitVec.ofInt 32 y
  match target.surface.getPixel px py with
  | .error _ => target
  | .ok curPx =>
    let dst := ColorRgba.fromU32 curPx
    let frag := if state.blendEnabled then
        blendPixels fp frag dst state.srcBlend state.dstBlend state.blendEquation
      else frag
    let surface := target.surface.setPixel px py (state.colorMask.over frag dst)
    let depthBuffer := if state.depthWriteEnabled then
        target.depthBuffer.set (depthIndex target.surface x y) (t.depthAt fp w)
      else target.depthBuffer
    { surface := surface, depthBuffer := depthBuffer
      pixelsRasterized := target.pixelsRasterized + 1 }

/-- The body of the loops over the pixels. -/
def rasterizePixel (t : TriangleSetup) (state : RasterizerState) (reader : ReadWordFn)
    (px : ℤ × ℤ) : EStateM Error RasterTarget Unit := do
  match visibleWeights fp t state px.1 px.2 (← get) with
  | none => pure ()
  | some w =>
    let frag ← ofExcept (fragmentColor fp t state reader w)
    modify (storeFragment fp t state px.1 px.2 w frag)

/-- `Rasterizer::RasterizeTriangle`. SOURCE: libs/gpu/src/rasterizer.cpp:109-291 -/
def rasterizeTriangle (tri : Triangle) (state : RasterizerState) (reader : ReadWordFn) :
    EStateM Error RasterTarget U32 := do
  modify fun target => { target with pixelsRasterized := 0 }
  let target ← get
  match setupTriangle fp tri state target.surface.width target.surface.height with
  | none => pure 0
  | some t => do
    t.pixels.forM (rasterizePixel fp t state reader)
    pure (← get).pixelsRasterized

end

end Xblob.Gpu
