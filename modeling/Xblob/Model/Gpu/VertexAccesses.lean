import Mathlib.Data.Nat.Bitwise
import Xblob.Computation.Records
import Xblob.Model.Gpu.Vertices

/-!
# Vertices, with a record of the addresses

The functions that fetch vertices once more, statement by statement, with a record of every address
that they compute, as the number it would be without a bound, and of every word that they read.
The address that a function goes on with is that number modulo 2^32.
-/

set_option autoImplicit false

namespace Xblob.Gpu

open Xblob.Computation

/-- What is recorded. -/
inductive FetchEvent where
  | address (exact : ℕ)
  | word (addr : GuestAddr)
  deriving DecidableEq, Repr

/-- A fetch that records the words it reads. -/
abbrev Fetch := Recorded Error FetchEvent

namespace Fetch

/-- An address is computed. -/
def address (exact : ℕ) : Fetch GuestAddr := do
  note (.address exact)
  pure (BitVec.ofNat 32 exact)

/-- A word is read. -/
def word (read : GuestAddr → Result U32) (addr : GuestAddr) : Fetch U32 := do
  note (.word addr)
  ofExcept (read addr)

/-- The loop of `ReadBytes`. SOURCE: libs/gpu/src/vertex_fetch.cpp:16-33 -/
def byteRounds (read : GuestAddr → Result U32) (addr : GuestAddr) : ℕ → ℕ → ℕ → Fetch (List U8)
  | 0, _, _ => pure []
  | rounds + 1, offset, remaining =>
    if remaining = 0 then pure []
    else do
      let at_ ← address (addr.toNat + offset)
      let w ← word read (at_ &&& ~~~3)
      let byteInWord := (at_ &&& 3).toNat
      let take := min (4 - byteInWord) remaining
      let rest ← byteRounds read addr rounds (offset + take) (remaining - take)
      pure ((List.range take).map (fun b => byteOf w (byteInWord + b)) ++ rest)

/-- `ReadBytes`. SOURCE: libs/gpu/src/vertex_fetch.cpp:11-35 -/
def bytes (reader : ReadWordFn) (addr : GuestAddr) (size : ℕ) : Fetch (List U8) :=
  match reader with
  | none => throw { code := .invalidState, message := noVertexReader }
  | some read => byteRounds read addr size 0 size

/-- `ReadFloat`. SOURCE: libs/gpu/src/vertex_fetch.cpp:37-46 -/
def float (reader : ReadWordFn) (addr : GuestAddr) : Fetch F32 := do
  let b ← bytes reader addr 4
  pure (word32 (b.getD 0 0) (b.getD 1 0) (b.getD 2 0) (b.getD 3 0))

/-- Floats one after the other, all of which are read before the first failure counts. -/
def floats (reader : ReadWordFn) (addr : GuestAddr) (n : ℕ) : Fetch (List F32) := do
  let results ← (List.range n).mapM fun i => do
    let at_ ← address (addr.toNat + 4 * i)
    caught (float reader at_)
  ofExcept (results.mapM id)

/-- Where the attribute of a vertex is. -/
def vertexAddr (attr : VertexAttribute) (vertexIndex : U32) : Fetch GuestAddr :=
  address (attr.address.toNat + vertexIndex.toNat * attr.stride.toNat)

section Vertices

variable (fp : FloatUnit) (attributes : VertexAttributes) (vertexIndex : U32) (reader : ReadWordFn)

/-- The attributes are named by numerals. -/
local instance neZero_attributes : NeZero 16 := ⟨by decide⟩

/-- Attribute 0, the position. SOURCE: libs/gpu/src/vertex_fetch.cpp:52-108 -/
def position : Fetch Vertex := do
  let posAttr := attributes 0
  if !posAttr.isUsed then
    throw { code := .invalidState, message := "Vertex position attribute 0 is not enabled" }
  else
    let posAddr ← vertexAddr posAttr vertexIndex
    match positionFloats posAttr.format with
    | none =>
      throw { code := .unsupportedFeature, message := "Unsupported position format"
              offset := BitVec.ofNat 64 posAttr.format.ctorIdx }
    | some (n, text) =>
      let coords ← EStateM.adaptExcept (fun _ => { code := .outOfBounds, message := text })
        (floats reader posAddr n)
      let v : Vertex := { x := coords.getD 0 0, y := coords.getD 1 0
                          z := coords.getD 2 F32.zero, w := coords.getD 3 F32.one }
      if [v.x, v.y, v.z, v.w].any F32.isNanOrInf then
        throw { code := .invalidArgument, message := "Vertex coordinate contains NaN or Inf" }
      else pure v

/-- Attribute 3 or else 1, the color. SOURCE: libs/gpu/src/vertex_fetch.cpp:110-136 -/
def color : Fetch ColorRgba :=
  let colAttr := colorAttribute attributes
  if !colAttr.isUsed then pure {}
  else do
    let colAddr ← vertexAddr colAttr vertexIndex
    if colAttr.format = .ubyte4 then do
      let b ← EStateM.adaptExcept
        (fun _ => { code := .outOfBounds, message := "Failed to read Ubyte4 color" })
        (bytes reader colAddr 4)
      pure ⟨b.getD 0 0, b.getD 1 0, b.getD 2 0, b.getD 3 0⟩
    else if colAttr.format = .float4 then do
      match ← caught (floats reader colAddr 4) with
      | .error _ => pure {}
      | .ok c =>
        let channel (i : ℕ) := fp.toU8 (fp.mul (fp.clamp (c.getD i 0) F32.zero F32.one) F32.n255)
        pure ⟨channel 0, channel 1, channel 2, channel 3⟩
    else pure {}

/-- Attribute 8 or else 9. -/
def texAttribute : VertexAttribute :=
  if (attributes 8).enabled then attributes 8 else attributes 9

/-- The texture coordinates. SOURCE: libs/gpu/src/vertex_fetch.cpp:138-151 -/
def texCoords : Fetch (F32 × F32) :=
  let texAttr := texAttribute attributes
  if !texAttr.isUsed then pure (F32.zero, F32.zero)
  else do
    let texAddr ← vertexAddr texAttr vertexIndex
    if texAttr.format = .float2 then do
      match ← caught (floats reader texAddr 2) with
      | .error _ => pure (F32.zero, F32.zero)
      | .ok c => pure (c.getD 0 0, c.getD 1 0)
    else pure (F32.zero, F32.zero)

/-- `FetchVertex`. SOURCE: libs/gpu/src/vertex_fetch.cpp:48-154 -/
def vertex : Fetch Vertex := do
  let v ← position attributes vertexIndex reader
  let c ← color fp attributes vertexIndex reader
  let t ← texCoords attributes vertexIndex reader
  pure { v with color := c, u := t.1, v := t.2 }

end Vertices

/-- `ReadIndex`. SOURCE: libs/gpu/src/vertex_fetch.cpp:178-199 -/
def index (binding : IndexBufferBinding) (indexOffset : U32) (reader : ReadWordFn) : Fetch U32 :=
  match binding.format with
  | .index16 => do
    let addr ← address (binding.address.toNat + indexOffset.toNat * 2)
    let b ← bytes reader addr 2
    pure ((word16 (b.getD 0 0) (b.getD 1 0)).setWidth 32)
  | .index32 => do
    let addr ← address (binding.address.toNat + indexOffset.toNat * 4)
    let b ← bytes reader addr 4
    pure (word32 (b.getD 0 0) (b.getD 1 0) (b.getD 2 0) (b.getD 3 0))
  | .none => throw { code := .invalidField, message := "Unsupported index format" }

/-- The vertex a draw takes in a place: by the index buffer, or the one in that place. -/
def indexAt (indexBinding : IndexBufferBinding) (indexed : Bool) (place : U32)
    (reader : ReadWordFn) : Fetch U32 :=
  if indexed then index indexBinding place reader else pure place

/-- `VertexFetcher::FetchAndAssemble`. SOURCE: libs/gpu/src/vertex_fetch.cpp:275-338 -/
def assembled (fp : FloatUnit) (primType : PrimitiveType) (attributes : VertexAttributes)
    (indexBinding : IndexBufferBinding) (start count : U32) (indexed : Bool) (viewport : Viewport)
    (reader : ReadWordFn) : Fetch (List Triangle) :=
  if primType ≠ .triangles ∧ primType ≠ .triangleStrip ∧ primType ≠ .triangleFan then
    throw { code := .unsupportedFeature, message := "Unsupported primitive type for 3D assembly"
            offset := primType.setWidth 64 }
  else if count < 3 then pure []
  else do
    let vertices ← (List.range count.toNat).mapM fun i => do
      let vIdx ← indexAt indexBinding indexed (start + BitVec.ofNat 32 i) reader
      let v ← vertex fp attributes vIdx reader
      pure (transform fp v viewport)
    pure (assemble primType vertices)

end Fetch

end Xblob.Gpu
