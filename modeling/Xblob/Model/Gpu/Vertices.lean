import Xblob.Model.Gpu.Textures

/-!
# Vertices

Fetching vertices from guest memory, moving them to the screen, and assembling triangles.
-/

set_option autoImplicit false

namespace Xblob.Gpu

/-- `Vertex`. SOURCE: libs/gpu/include/xblob/gpu/vertex_fetch.hpp:15-23 -/
structure Vertex where
  x : F32 := F32.zero
  y : F32 := F32.zero
  z : F32 := F32.zero
  w : F32 := F32.one
  color : ColorRgba := {}
  u : F32 := F32.zero
  v : F32 := F32.zero
  deriving DecidableEq, Repr

/-- `TransformedVertex`. SOURCE: libs/gpu/include/xblob/gpu/vertex_fetch.hpp:25-33 -/
structure TransformedVertex where
  screenX : F32 := F32.zero
  screenY : F32 := F32.zero
  screenZ : F32 := F32.zero
  invW : F32 := F32.one
  color : ColorRgba := {}
  u : F32 := F32.zero
  v : F32 := F32.zero
  deriving DecidableEq, Repr

/-- `Triangle`. SOURCE: libs/gpu/include/xblob/gpu/vertex_fetch.hpp:35-37 -/
structure Triangle where
  v0 : TransformedVertex
  v1 : TransformedVertex
  v2 : TransformedVertex
  deriving DecidableEq, Repr

/-- The attributes of the engine. -/
abbrev VertexAttributes := Fin 16 → VertexAttribute

/-- The text of the vertex fetcher for the case that there is no reader. -/
def noVertexReader : String := "No memory reader configured for vertex fetch"

/-- `ReadFloat`. SOURCE: libs/gpu/src/vertex_fetch.cpp:37-46 -/
def readFloat (reader : ReadWordFn) (addr : GuestAddr) : Result F32 := do
  let bytes ← readBytes noVertexReader reader addr 4
  pure (word32 (bytes.getD 0 0) (bytes.getD 1 0) (bytes.getD 2 0) (bytes.getD 3 0))

/-- Floats one after the other. -/
def readFloats (reader : ReadWordFn) (addr : GuestAddr) (n : ℕ) : Result (List F32) :=
  (List.range n).mapM fun i => readFloat reader (addr + BitVec.ofNat 32 (4 * i))

namespace VertexAttribute

/-- The attribute is on and has a format. -/
def isUsed (attr : VertexAttribute) : Bool := attr.enabled && attr.format ≠ .none

/-- Where the attribute of a vertex is. -/
def vertexAddr (attr : VertexAttribute) (vertexIndex : U32) : GuestAddr :=
  attr.address + vertexIndex * attr.stride

end VertexAttribute

/-! ## Fetching a vertex.  SOURCE: libs/gpu/src/vertex_fetch.cpp:48-163 -/

section Fetch

variable (fp : FloatUnit) (attributes : VertexAttributes) (vertexIndex : U32) (reader : ReadWordFn)

/-- The number of floats of a position, and the text for one that cannot be read. -/
def positionFloats : VertexFormat → Option (ℕ × String)
  | .float2 => some (2, "Failed to read Float2 position")
  | .float3 => some (3, "Failed to read Float3 position")
  | .float4 => some (4, "Failed to read Float4 position")
  | _ => none

/-- Attribute 0, the position. -/
def fetchPosition : Result Vertex := do
  let posAttr := attributes 0
  if !posAttr.isUsed then
    throw { code := .invalidState, message := "Vertex position attribute 0 is not enabled" }
  match positionFloats posAttr.format with
  | none =>
    throw { code := .unsupportedFeature, message := "Unsupported position format"
            offset := BitVec.ofNat 64 posAttr.format.ctorIdx }
  | some (n, text) =>
    let coords ← (readFloats reader (posAttr.vertexAddr vertexIndex) n).mapError
      fun _ => { code := .outOfBounds, message := text }
    let v : Vertex := { x := coords.getD 0 0, y := coords.getD 1 0
                        z := coords.getD 2 F32.zero, w := coords.getD 3 F32.one }
    if [v.x, v.y, v.z, v.w].any F32.isNanOrInf then
      throw { code := .invalidArgument, message := "Vertex coordinate contains NaN or Inf" }
    pure v

/-- Attribute 3 or else 1, the color. -/
def colorAttribute : VertexAttribute :=
  if (attributes 3).enabled then attributes 3 else attributes 1

/-- The color of a vertex. -/
def fetchColor : Result ColorRgba :=
  let colAttr := colorAttribute attributes
  let colAddr := colAttr.vertexAddr vertexIndex
  if !colAttr.isUsed then .ok {}
  else if colAttr.format = .ubyte4 then do
    let b ← (readBytes noVertexReader reader colAddr 4).mapError
      fun _ => { code := .outOfBounds, message := "Failed to read Ubyte4 color" }
    pure ⟨b.getD 0 0, b.getD 1 0, b.getD 2 0, b.getD 3 0⟩
  else if colAttr.format = .float4 then
    match readFloats reader colAddr 4 with
    | .error _ => .ok {}
    | .ok c =>
      let channel (i : ℕ) := fp.toU8 (fp.mul (fp.clamp (c.getD i 0) F32.zero F32.one) F32.n255)
      .ok ⟨channel 0, channel 1, channel 2, channel 3⟩
  else .ok {}

/-- Attribute 8 or else 9, the texture coordinates. -/
def fetchTexCoords : F32 × F32 :=
  let texAttr := if (attributes 8).enabled then attributes 8 else attributes 9
  if texAttr.isUsed ∧ texAttr.format = .float2 then
    match readFloats reader (texAttr.vertexAddr vertexIndex) 2 with
    | .error _ => (F32.zero, F32.zero)
    | .ok c => (c.getD 0 0, c.getD 1 0)
  else (F32.zero, F32.zero)

/-- `FetchVertex`. -/
def fetchVertex : Result Vertex := do
  let v ← fetchPosition attributes vertexIndex reader
  let color ← fetchColor fp attributes vertexIndex reader
  let (tu, tv) := fetchTexCoords attributes vertexIndex reader
  pure { v with color := color, u := tu, v := tv }

end Fetch

/-- `Transform`. SOURCE: libs/gpu/src/vertex_fetch.cpp:156-176 -/
def transform (fp : FloatUnit) (v : Vertex) (vp : Viewport) : TransformedVertex :=
  let w := if v.w.isZero then F32.one else v.w
  let invW := fp.div F32.one w
  let place (scale coord offset : F32) := fp.add (fp.mul scale (fp.mul coord invW)) offset
  let tv : TransformedVertex := { invW := invW, color := v.color, u := v.u, v := v.v }
  if vp.scaleX.isZero ∧ vp.scaleY.isZero then
    { tv with screenX := v.x, screenY := v.y, screenZ := v.z }
  else
    { tv with
      screenX := place vp.scaleX v.x vp.offsetX
      screenY := place vp.scaleY v.y vp.offsetY
      screenZ := place vp.scaleZ v.z vp.offsetZ }

/-- `ReadIndex`. SOURCE: libs/gpu/src/vertex_fetch.cpp:178-199 -/
def readIndex (binding : IndexBufferBinding) (indexOffset : U32) (reader : ReadWordFn) :
    Result U32 :=
  match binding.format with
  | .index16 => do
    let b ← readBytes noVertexReader reader (binding.address + indexOffset * 2) 2
    pure ((word16 (b.getD 0 0) (b.getD 1 0)).setWidth 32)
  | .index32 => do
    let b ← readBytes noVertexReader reader (binding.address + indexOffset * 4) 4
    pure (word32 (b.getD 0 0) (b.getD 1 0) (b.getD 2 0) (b.getD 3 0))
  | .none => .error { code := .invalidField, message := "Unsupported index format" }

/-! ## Validation and assembly -/

/-- The check of `ValidateFetch` that no used attribute of a vertex ends past the address space.
The source computes in 64 bits, which are enough. -/
def checkAttributes (attributes : VertexAttributes) (vertexIndex : U32) : Result Unit :=
  (List.finRange 16).forM fun a =>
    let attr := attributes a
    let requiredOffset := vertexIndex.toNat * attr.stride.toNat + attr.format.bytes.toNat
    if attr.isUsed ∧ attr.address.toNat + requiredOffset > 0x100000000 then
      .error { code := .outOfBounds, message := "Vertex attribute fetch exceeds guest memory" }
    else .ok ()

/-- `VertexFetcher::ValidateFetch`. SOURCE: libs/gpu/src/vertex_fetch.cpp:203-273 -/
def validateFetch (attributes : VertexAttributes) (indexBinding : IndexBufferBinding)
    (start count : U32) (indexed : Bool) (maxAllowedVertices : U32) (reader : ReadWordFn) :
    Result Unit := do
  if count = 0 then
    throw { code := .invalidArgument, message := "Draw vertex count must be greater than zero" }
  if count > maxAllowedVertices then
    throw { code := .limitReached, message := "Draw vertex count exceeds budget" }
  let posAttr := attributes 0
  if !posAttr.isUsed then
    throw { code := .invalidState, message := "Position attribute 0 is not enabled" }
  let posBytes := posAttr.format.bytes
  if posBytes = 0 then
    throw { code := .unsupportedFeature, message := "Unsupported position format" }
  if posAttr.stride < posBytes then
    throw { code := .invalidArgument, message := "Vertex stride smaller than format size" }
  if indexed then
    if indexBinding.format = .none then
      throw { code := .invalidField, message := "Invalid or unspecified index buffer format" }
    let indexElemSize := if indexBinding.format = .index16 then 2 else 4
    if indexBinding.address.toNat + (start + count).toNat * indexElemSize > 0x100000000 then
      throw { code := .outOfBounds, message := "Index buffer read exceeds guest address space" }
    (List.range count.toNat).forM fun i => do
      let vIdx ← readIndex indexBinding (start + BitVec.ofNat 32 i) reader
      checkAttributes attributes vIdx
  else
    checkAttributes attributes (start + count - 1)

/-- The vertex a draw takes in a place: by the index buffer, or the one in that place. -/
def vertexAt (indexBinding : IndexBufferBinding) (indexed : Bool) (place : U32)
    (reader : ReadWordFn) : Result U32 :=
  if indexed then readIndex indexBinding place reader else .ok place

/-- The triangles of a list of vertices. SOURCE: libs/gpu/src/vertex_fetch.cpp:315-337 -/
def assemble (primType : PrimitiveType) (vertices : List TransformedVertex) : List Triangle :=
  let vertex (i : ℕ) := vertices.getD i {}
  let count := vertices.length
  if primType = .triangles then
    (List.range (count / 3)).map fun i => ⟨vertex (i * 3), vertex (i * 3 + 1), vertex (i * 3 + 2)⟩
  else if primType = .triangleStrip then
    (List.range (count - 2)).map fun i =>
      if i % 2 = 0 then ⟨vertex i, vertex (i + 1), vertex (i + 2)⟩
      else ⟨vertex (i + 1), vertex i, vertex (i + 2)⟩
  else if primType = .triangleFan then
    (List.range (count - 2)).map fun i => ⟨vertex 0, vertex (i + 1), vertex (i + 2)⟩
  else []

/-- `VertexFetcher::FetchAndAssemble`. SOURCE: libs/gpu/src/vertex_fetch.cpp:275-338 -/
def fetchAndAssemble (fp : FloatUnit) (primType : PrimitiveType) (attributes : VertexAttributes)
    (indexBinding : IndexBufferBinding) (start count : U32) (indexed : Bool) (viewport : Viewport)
    (reader : ReadWordFn) : Result (List Triangle) :=
  if primType ≠ .triangles ∧ primType ≠ .triangleStrip ∧ primType ≠ .triangleFan then
    .error { code := .unsupportedFeature, message := "Unsupported primitive type for 3D assembly"
             offset := primType.setWidth 64 }
  else if count < 3 then .ok []
  else do
    let vertices ← (List.range count.toNat).mapM fun i => do
      let vIdx ← vertexAt indexBinding indexed (start + BitVec.ofNat 32 i) reader
      let v ← fetchVertex fp attributes vIdx reader
      pure (transform fp v viewport)
    pure (assemble primType vertices)

end Xblob.Gpu
