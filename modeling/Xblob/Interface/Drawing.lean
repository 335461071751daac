import Mathlib.Data.Set.Function
import Xblob.Computation.Interleavings
import Xblob.Computation.Spans
import Xblob.Computation.Triangles
import Xblob.Model.Gpu.Rasterizer
import Xblob.Model.Gpu.VertexAccesses

/-!
# Drawing

What a draw reads, and which pixels its triangles take.
-/

set_option autoImplicit false

namespace Xblob.Interface

open Xblob.Computation Xblob.Gpu

/-!
## What the GPU is to read

The texels of a swizzled texture whose sizes are powers of two lie one-to-one in its memory, and
the texels of a stage that has been validated lie in the memory that the check was about.  A draw
that has been validated reads vertices and indices where the check has looked for them.
-/

/-! ### Texels -/

/-- The offsets of the texels of `2 ^ a` columns and `2 ^ b` rows are one-to-one. -/
def SwizzleBijective (a b : ℕ) : Prop :=
  Set.BijOn
    (fun p : U32 × U32 => computeSwizzleOffset p.1 p.2 (BitVec.twoPow 32 a) (BitVec.twoPow 32 b))
    {p | p.1.toNat < 2 ^ a ∧ p.2.toNat < 2 ^ b} {offset | offset.toNat < 2 ^ (a + b)}

/-- The size of the memory that the check of a stage is about. -/
def checkedBytes (stage : TextureStage) : ℕ :=
  match stage.layout with
  | .linear => stage.height.toNat * stage.pitch.toNat
  | .swizzled => stage.width.toNat * stage.height.toNat * stage.format.bytesPerPixel.toNat

/-- Where `SampleNearest` finds the texel of a column and a row.
SOURCE: libs/gpu/src/texture_sampler.cpp:133-140 -/
def texelAddrAt (stage : TextureStage) (tx ty : U32) : GuestAddr :=
  match stage.layout with
  | .linear => stage.address + (ty * stage.pitch + tx * stage.format.bytesPerPixel)
  | .swizzled =>
    stage.address + computeSwizzleOffset tx ty stage.width stage.height * stage.format.bytesPerPixel

/-- How far behind the address of a stage a texel is, as a number. -/
def texelOffset (stage : TextureStage) (tx ty : U32) : ℕ :=
  match stage.layout with
  | .linear =>
    ty.toNat * stage.pitch.toNat + tx.toNat * stage.format.bytesPerPixel.toNat
  | .swizzled =>
    (computeSwizzleOffset tx ty stage.width stage.height).toNat * stage.format.bytesPerPixel.toNat

/-- Each byte of each texel is where it would be without a bound on addresses, and in the memory
that the check is about, and what the sampler looks up is a texel. -/
structure TexelsInside (stage : TextureStage) : Prop where
  memory : stage.address.toNat + checkedBytes stage ≤ 2 ^ 32
  texels : ∀ tx ty : U32, tx < stage.width → ty < stage.height →
    ∀ i < stage.format.bytesPerPixel.toNat,
      (texelAddrAt stage tx ty + BitVec.ofNat 32 i).toNat =
          stage.address.toNat + texelOffset stage tx ty + i ∧
        texelOffset stage tx ty + i < checkedBytes stage
  sampled : ∀ (fp : FloatUnit) (u v : F32), ∃ tx ty, tx < stage.width ∧ ty < stage.height ∧
    stage.texelAddr fp u v = texelAddrAt stage tx ty

/-! ### Vertices -/

/-- The bytes of an attribute of a vertex. -/
def attributeSpan (attr : VertexAttribute) (vertexIndex : U32) : Span :=
  ⟨attr.address.toNat + vertexIndex.toNat * attr.stride.toNat, attr.format.bytes.toNat⟩

/-- The size of an index. -/
def indexBytes : IndexFormat → ℕ
  | .none => 0
  | .index16 => 2
  | .index32 => 4

/-- A draw: what to read, and where from. -/
structure DrawSource where
  attributes : VertexAttributes
  indexBinding : IndexBufferBinding
  start : U32
  count : U32
  indexed : Bool
  reader : ReadWordFn

namespace DrawSource

/-- The bytes of the indices of a draw. -/
def indexSpan (d : DrawSource) : Span :=
  ⟨d.indexBinding.address.toNat + d.start.toNat * indexBytes d.indexBinding.format,
    d.count.toNat * indexBytes d.indexBinding.format⟩

/-- A vertex of the draw. -/
def Draws (d : DrawSource) (vertexIndex : U32) : Prop :=
  ∃ i < d.count.toNat,
    vertexAt d.indexBinding d.indexed (d.start + BitVec.ofNat 32 i) d.reader = .ok vertexIndex

/-- A byte of one of the indices, or of an attribute that is used of one of the vertices. -/
def Touches (d : DrawSource) (byte : ℕ) : Prop :=
  (d.indexed = true ∧ d.indexSpan.Holds byte) ∨
    ∃ vertexIndex, d.Draws vertexIndex ∧ ∃ a, (d.attributes a).isUsed = true ∧
      (attributeSpan (d.attributes a) vertexIndex).Holds byte

/-- The address does not wrap; the word has a byte that the draw may read. -/
def Allows (d : DrawSource) : FetchEvent → Prop
  | .address exact => exact < 0x100000000
  | .word addr => ∃ byte, d.Touches byte ∧ addr.toNat = byte / 4 * 4

/-- **The fetches of a draw**: what is recorded of the function that assembles its triangles, which
returns what the function returns, is allowed. -/
structure FetchesAllowed (d : DrawSource) (fp : FloatUnit) (primType : PrimitiveType)
    (viewport : Viewport) : Prop where
  returns : Yields (Fetch.assembled fp primType d.attributes d.indexBinding d.start d.count
      d.indexed viewport d.reader)
    (fetchAndAssemble fp primType d.attributes d.indexBinding d.start d.count d.indexed viewport
      d.reader)
  allowed : ∀ e ∈ stateAfter ((Fetch.assembled fp primType d.attributes d.indexBinding d.start
      d.count d.indexed viewport d.reader).run []), d.Allows e

/-- The check of the draw with a budget of vertices. -/
def validate (d : DrawSource) (maxAllowedVertices : U32) : Result Unit :=
  validateFetch d.attributes d.indexBinding d.start d.count d.indexed maxAllowedVertices d.reader

end DrawSource

/-!
## What the rasterizer is to draw along an edge

Two triangles that have an edge in common are to draw each pixel between them once.  Pixels and
corners are points of a grid, and the triangles are sets of points of the plane.
-/

/-- The point of the plane that a point in fixed point stands for, in units of the grid. -/
def planePoint (p : FixedPoint) : ℝ × ℝ := (p.x, p.y)

/-- The center of a pixel. SOURCE: libs/gpu/src/rasterizer.cpp:186,190 -/
def pixelCenter (x y : ℤ) : FixedPoint := ⟨x * 16 + 8, y * 16 + 8⟩

/-- The sides of a triangle in the order in which they are tested, each with the corner off it. -/
def sidesOf (t : TriangleSetup) : List (FixedPoint × FixedPoint × FixedPoint) :=
  [(t.b, t.c, t.a), (t.c, t.a, t.b), (t.a, t.b, t.c)]

/-- The points of a triangle. -/
def regionOf (t : TriangleSetup) : Set (ℝ × ℝ) :=
  convexHull ℝ {planePoint t.a, planePoint t.b, planePoint t.c}

/-- A point has coordinates below a bound. -/
def Within (bound : ℤ) (p : FixedPoint) : Prop := |p.x| ≤ bound ∧ |p.y| ≤ bound

/-- A triangle that is drawn: its doubled area is positive, and its coordinates are small. -/
structure DrawnTriangle where
  setup : TriangleSetup
  delta : setup.deltaFixed = setup.a.edge setup.b setup.c
  positive : 0 < setup.deltaFixed
  small : ∀ p ∈ [setup.a, setup.b, setup.c], Within (2 ^ 30 - 1) p

/-- The triangles have a side in common, and lie on opposite sides of it. -/
def SharesEdge (t t' : DrawnTriangle) : Prop :=
  ∃ p q r p' q' r', (p, q, r) ∈ sidesOf t.setup ∧ (p', q', r') ∈ sidesOf t'.setup ∧
    ((p' = p ∧ q' = q) ∨ (p' = q ∧ q' = p)) ∧ p.edge q r * p.edge q r' < 0

/-- The pixel passes the test of coverage. -/
def Covered (fp : FloatUnit) (t : DrawnTriangle) (x y : ℤ) : Prop :=
  (t.setup.weights fp x y).isSome

/-- A number is one of 64 bits with a sign. -/
def FitsI64 (n : ℤ) : Prop := -2 ^ 63 ≤ n ∧ n < 2 ^ 63

/-- The differences, products and result of an edge function are numbers of 64 bits. -/
structure EdgeFits (a b p : FixedPoint) : Prop where
  differences : ∀ n ∈ [b.x - a.x, b.y - a.y, p.x - a.x, p.y - a.y], FitsI64 n
  products : FitsI64 ((b.x - a.x) * (p.y - a.y)) ∧ FitsI64 ((b.y - a.y) * (p.x - a.x))
  result : FitsI64 (a.edge b p)

/-- The three edge functions of a triangle at each pixel add up to its doubled area, and are
computed in 64 bits without overflow at the pixels that its box can have. -/
structure EdgesAddUp (t : DrawnTriangle) : Prop where
  sum : ∀ x y, t.setup.b.edge t.setup.c (pixelCenter x y) + t.setup.c.edge t.setup.a (pixelCenter x y) +
    t.setup.a.edge t.setup.b (pixelCenter x y) = t.setup.deltaFixed
  fits : ∀ x y, Within (2 ^ 30 + 8) (pixelCenter x y) →
    ∀ side ∈ sidesOf t.setup, EdgeFits side.1 side.2.1 (pixelCenter x y)

/-- No pixel is covered by both triangles, and one in the interior of both together is covered by
one of them. -/
structure DrawnOnce (fp : FloatUnit) (t t' : DrawnTriangle) : Prop where
  notTwice : ∀ x y, ¬ (Covered fp t x y ∧ Covered fp t' x y)
  once : ∀ x y, planePoint (pixelCenter x y) ∈ interior (regionOf t.setup ∪ regionOf t'.setup) →
    Covered fp t x y ∨ Covered fp t' x y

end Xblob.Interface
