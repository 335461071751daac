import Xblob.Model.Gpu.Rasterizer

/-!
# The 3D context and its methods

The registers of the 3D engine, a draw, and what each method of the engine does.  A method that
only stores into registers is an entry of a table; the checks of the methods are made against
the registers as they are before the packet.
-/

set_option autoImplicit false

namespace Xblob.Gpu

open Xblob.Computation

/-- `Nv2a3dContext`. SOURCE: libs/gpu/include/xblob/gpu/nv2a_3d_context.hpp:103-131 -/
structure Nv2a3dContext where
  viewport : Viewport := {}
  scissor : Scissor := {}
  cullMode : CullMode := .none
  cullEnabled : Bool := false
  depthFunc : DepthFunc := .lessEqual
  depthTestEnabled : Bool := false
  depthWriteEnabled : Bool := true
  clearDepthValue : F32 := F32.one
  colorMask : ColorMask := {}
  clearColorValue : U32 := 0
  blendEnabled : Bool := false
  blendSrc : BlendFactor := .one
  blendDst : BlendFactor := .zero
  blendEquation : BlendEquation := .add
  primitiveType : PrimitiveType := .triangles
  vertexAttributes : VertexAttributes := fun _ => {}
  indexBuffer : IndexBufferBinding := {}
  textureStages : Fin 4 → TextureStage := fun _ => {}
  depthBuffer : List F32 := []
  depthWidth : U32 := 640
  depthHeight : U32 := 480
  unsupportedMethods : List UnsupportedMethodEntry := []
  totalUnsupportedMethodsCount : U32 := 0

namespace Nv2a3dContext

/-- `SetVertexAttribute`, of an attribute found by its number. -/
def modifyVertexAttribute (ctx : Nv2a3dContext) (idx : U32)
    (f : VertexAttribute → VertexAttribute) : Nv2a3dContext :=
  if h : idx.toNat < 16 then
    let i : Fin 16 := ⟨idx.toNat, h⟩
    let attr := f (ctx.vertexAttributes i)
    { ctx with vertexAttributes := Function.update ctx.vertexAttributes i attr }
  else ctx

/-- `SetTextureStage`, of a stage found by its number. -/
def modifyTextureStage (ctx : Nv2a3dContext) (idx : U32) (f : TextureStage → TextureStage) :
    Nv2a3dContext :=
  if h : idx.toNat < 4 then
    let i : Fin 4 := ⟨idx.toNat, h⟩
    let stage := f (ctx.textureStages i)
    { ctx with textureStages := Function.update ctx.textureStages i stage }
  else ctx

/-- `EnsureDepthBuffer`. SOURCE: libs/gpu/src/nv2a_3d_context.cpp:72-81 -/
def ensureDepthBuffer (ctx : Nv2a3dContext) (width height : U32) : Nv2a3dContext :=
  if width = 0 ∨ height = 0 then ctx
  else if width ≠ ctx.depthWidth ∨ height ≠ ctx.depthHeight ∨ ctx.depthBuffer.isEmpty then
    { ctx with
      depthWidth := width
      depthHeight := height
      depthBuffer := List.replicate (width.toNat * height.toNat) ctx.clearDepthValue }
  else ctx

/-- The constructor. SOURCE: libs/gpu/src/nv2a_3d_context.cpp:12-15 -/
def initial : Nv2a3dContext := ({} : Nv2a3dContext).ensureDepthBuffer 640 480

/-- `ClearDepth`. SOURCE: libs/gpu/src/nv2a_3d_context.cpp:94-96 -/
def clearDepth (ctx : Nv2a3dContext) (depthValue : F32) : Nv2a3dContext :=
  { ctx with depthBuffer := List.replicate ctx.depthBuffer.length depthValue }

/-- `RecordUnsupportedMethod`. SOURCE: libs/gpu/src/nv2a_3d_context.cpp:181-188 -/
def recordUnsupportedMethod (ctx : Nv2a3dContext) (entry : UnsupportedMethodEntry) :
    Nv2a3dContext :=
  { ctx with
    unsupportedMethods :=
      if ctx.unsupportedMethods.length < kMaxUnsupportedDiagnosticEntries then
        ctx.unsupportedMethods ++ [entry]
      else ctx.unsupportedMethods
    totalUnsupportedMethodsCount := ctx.totalUnsupportedMethodsCount + 1 }

/-- What a draw takes from the registers. SOURCE: libs/gpu/src/nv2a_3d_context.cpp:157-169 -/
def rasterizerState (ctx : Nv2a3dContext) : RasterizerState where
  cullMode := ctx.cullMode
  cullEnabled := ctx.cullEnabled
  scissor := ctx.scissor
  depthFunc := ctx.depthFunc
  depthTestEnabled := ctx.depthTestEnabled
  depthWriteEnabled := ctx.depthWriteEnabled
  colorMask := ctx.colorMask
  blendEnabled := ctx.blendEnabled
  srcBlend := ctx.blendSrc
  dstBlend := ctx.blendDst
  blendEquation := ctx.blendEquation
  textureStage0 := ctx.textureStages 0

/-- The check of `ValidateDraw` on the primitive type and the number of vertices. -/
def validatePrimitive (ctx : Nv2a3dContext) (count : U32) : Result Unit :=
  if ctx.primitiveType = .triangles then
    if count < 3 ∨ count % 3 ≠ 0 then
      .error { code := .invalidArgument
               message := "TriangleList vertex count must be multiple of 3" }
    else .ok ()
  else if ctx.primitiveType = .triangleStrip ∨ ctx.primitiveType = .triangleFan then
    if count < 3 then
      .error { code := .invalidArgument, message := "Triangle strip/fan vertex count must be >= 3" }
    else .ok ()
  else
    .error { code := .unsupportedFeature, message := "Unsupported primitive type for 3D draw"
             offset := ctx.primitiveType.setWidth 64 }

/-- `ValidateDraw`. SOURCE: libs/gpu/src/nv2a_3d_context.cpp:111-143 -/
def validateDraw (ctx : Nv2a3dContext) (start count : U32) (indexed : Bool) (reader : ReadWordFn) :
    Result Unit := do
  ctx.validatePrimitive count
  validateFetch ctx.vertexAttributes ctx.indexBuffer start count indexed 65536 reader
  if (ctx.textureStages 0).enabled then (ctx.textureStages 0).validate

end Nv2a3dContext

/-! ## Drawing -/

/-- The context and the surface a draw changes. -/
structure DrawTarget where
  ctx : Nv2a3dContext
  surface : GpuSurface

namespace DrawTarget

/-- What the rasterizer draws to. -/
def rasterTarget (d : DrawTarget) : RasterTarget where
  surface := d.surface
  depthBuffer := d.ctx.depthBuffer

/-- What the rasterizer has drawn, put back. -/
def setRasterTarget (t : RasterTarget) (d : DrawTarget) : DrawTarget where
  ctx := { d.ctx with depthBuffer := t.depthBuffer }
  surface := t.surface

end DrawTarget

section

variable (fp : FloatUnit)

/-- Rasterizing one triangle of a draw. -/
def drawTriangle (state : RasterizerState) (reader : ReadWordFn) (tri : Triangle) :
    EStateM Error DrawTarget U32 :=
  zoom DrawTarget.rasterTarget DrawTarget.setRasterTarget (rasterizeTriangle fp tri state reader)

/-- `Nv2a3dContext::Draw`. SOURCE: libs/gpu/src/nv2a_3d_context.cpp:145-179 -/
def draw (start count : U32) (indexed : Bool) (reader : ReadWordFn) :
    EStateM Error DrawTarget U32 := do
  modify fun d => { d with ctx := d.ctx.ensureDepthBuffer d.surface.width d.surface.height }
  let ctx := (← get).ctx
  let triangles ← ofExcept (fetchAndAssemble fp ctx.primitiveType ctx.vertexAttributes
    ctx.indexBuffer start count indexed ctx.viewport reader)
  triangles.forM fun tri => do
    let _ ← drawTriangle fp ctx.rasterizerState reader tri
  pure (BitVec.ofNat 32 triangles.length)

end

/-! ## Methods -/

/-- `DecodeColorMask`. SOURCE: libs/gpu/src/pushbuffer_3d_methods.cpp:33-47 -/
def decodeColorMask (val : U32) : ColorMask :=
  if val > 0x0F then
    { writeB := val &&& 0x00000001 ≠ 0, writeG := val &&& 0x00000100 ≠ 0
      writeR := val &&& 0x00010000 ≠ 0, writeA := val &&& 0x01000000 ≠ 0 }
  else
    { writeR := val &&& 0x01 ≠ 0, writeG := val &&& 0x02 ≠ 0
      writeB := val &&& 0x04 ≠ 0, writeA := val &&& 0x08 ≠ 0 }

/-- `DecodeVertexFormat`. SOURCE: libs/gpu/src/pushbuffer_3d_methods.cpp:9-23 -/
def decodeVertexFormat (type count : U32) : VertexFormat :=
  if type = 2 then
    if count = 1 then .float1
    else if count = 2 then .float2
    else if count = 3 then .float3
    else if count = 4 then .float4
    else .none
  else if type = 4 ∧ count = 4 then .ubyte4
  else .none

/-- The stores of the two vertex registers. -/
def vertexOffset (val : U32) (attr : VertexAttribute) : VertexAttribute :=
  { attr with address := val, enabled := val ≠ 0 }

/-- The store of the format register. -/
def vertexFormat (val : U32) (attr : VertexAttribute) : VertexAttribute :=
  { attr with
    stride := (val >>> 8) &&& 0xFF
    format := decodeVertexFormat ((val >>> 4) &&& 0x0F) (val &&& 0x0F) }

/-- The switch of `ApplyTextureStageMethod` on the offset within the stage. -/
def textureRegister (subOffset val : U32) (stage : TextureStage) : TextureStage :=
  if subOffset = 0x00 then { stage with address := val }
  else if subOffset = 0x04 then
    { stage with
      layout := if val &&& 1 ≠ 0 then .linear else .swizzled
      format := (val >>> 8) &&& 0xFF }
  else if subOffset = 0x08 then { stage with wrapU := val &&& 0x0F, wrapV := (val >>> 4) &&& 0x0F }
  else if subOffset = 0x0C then { stage with enabled := (val >>> 30) &&& 0x01 ≠ 0 }
  else if subOffset = 0x10 then
    { stage with minFilter := val &&& 0x0F, magFilter := (val >>> 4) &&& 0x0F }
  else if subOffset = 0x14 then
    let width := val &&& 0xFFFF
    { stage with
      width := width
      height := (val >>> 16) &&& 0xFFFF
      pitch := width * stage.format.bytesPerPixel }
  else stage

/-- `ApplyTextureStageMethod`. SOURCE: libs/gpu/src/pushbuffer_3d_methods.cpp:49-84 -/
def applyTextureStageMethod (method val : U32) (ctx : Nv2a3dContext) : Nv2a3dContext :=
  let stageIdx := (method - kMethod3dTextureOffsetBase) / 0x40
  let subOffset := (method - kMethod3dTextureOffsetBase) % 0x40
  ctx.modifyTextureStage stageIdx (textureRegister subOffset val)

/-- The two halves of a clip or scissor register. -/
def setScissorX (val : U32) (ctx : Nv2a3dContext) : Nv2a3dContext :=
  { ctx with scissor :=
      { ctx.scissor with x := val &&& 0xFFFF, width := (val >>> 16) &&& 0xFFFF, enabled := true } }

/-- The other half of the scissor. -/
def setScissorY (val : U32) (ctx : Nv2a3dContext) : Nv2a3dContext :=
  { ctx with scissor :=
      { ctx.scissor with y := val &&& 0xFFFF, height := (val >>> 16) &&& 0xFFFF, enabled := true } }

/-- A store into the viewport; the value is the bit pattern of a float. -/
def setViewport (f : F32 → Viewport → Viewport) (val : U32) (ctx : Nv2a3dContext) :
    Nv2a3dContext :=
  { ctx with viewport := f val ctx.viewport }

/-- The methods that only store into a register of the context, in the order of `Apply3dMethod`.
SOURCE: libs/gpu/src/pushbuffer_3d_methods.cpp:147-233 -/
def registerMethods : List (U32 × (U32 → Nv2a3dContext → Nv2a3dContext)) :=
  [(kMethod3dClearColor, fun val ctx => { ctx with clearColorValue := val }),
    (kMethod3dClearDepth, fun val ctx => { ctx with clearDepthValue := val }),
    (kMethod3dSurfaceClipHorizontal, setScissorX),
    (kMethod3dScissorHorizontal, setScissorX),
    (kMethod3dSurfaceClipVertical, setScissorY),
    (kMethod3dScissorVertical, setScissorY),
    (kMethod3dViewportScaleX, setViewport fun f v => { v with scaleX := f }),
    (kMethod3dViewportScaleY, setViewport fun f v => { v with scaleY := f }),
    (kMethod3dViewportScaleZ, setViewport fun f v => { v with scaleZ := f }),
    (kMethod3dViewportScaleW, setViewport fun f v => { v with scaleW := f }),
    (kMethod3dViewportOffsetX, setViewport fun f v => { v with offsetX := f }),
    (kMethod3dViewportOffsetY, setViewport fun f v => { v with offsetY := f }),
    (kMethod3dViewportOffsetZ, setViewport fun f v => { v with offsetZ := f }),
    (kMethod3dViewportOffsetW, setViewport fun f v => { v with offsetW := f }),
    (kMethod3dBlendEnable, fun val ctx => { ctx with blendEnabled := val ≠ 0 }),
    (kMethod3dBlendFuncSrc, fun val ctx => { ctx with blendSrc := val }),
    (kMethod3dBlendFuncDst, fun val ctx => { ctx with blendDst := val }),
    (kMethod3dBlendEquation, fun val ctx => { ctx with blendEquation := val }),
    (kMethod3dColorMask, fun val ctx => { ctx with colorMask := decodeColorMask val }),
    (kMethod3dDepthMask, fun val ctx => { ctx with depthWriteEnabled := val ≠ 0 }),
    (kMethod3dDepthFunc, fun val ctx => { ctx with depthFunc := val }),
    (kMethod3dDepthTestEnable, fun val ctx => { ctx with depthTestEnabled := val ≠ 0 }),
    (kMethod3dCullFace, fun val ctx => { ctx with cullMode := val }),
    (kMethod3dCullFaceEnable, fun val ctx => { ctx with cullEnabled := val ≠ 0 }),
    (kMethod3dIndexAddress,
      fun val ctx => { ctx with indexBuffer := { ctx.indexBuffer with address := val } }),
    (kMethod3dIndexFormat, fun val ctx =>
      { ctx with indexBuffer :=
          { ctx.indexBuffer with format := if val = 0 then .index16 else .index32 } }),
    (kMethod3dBeginEnd, fun val ctx => { ctx with primitiveType := val })]

/-- The methods `Validate3dMethod` accepts by their number.
SOURCE: libs/gpu/src/pushbuffer_3d_methods.cpp:90-118 -/
def acceptedMethods : List U32 :=
  [kMethod3dClearSurface, kMethod3dClearColor, kMethod3dClearDepth,
    kMethod3dSurfaceClipHorizontal, kMethod3dSurfaceClipVertical, kMethod3dScissorHorizontal,
    kMethod3dScissorVertical, kMethod3dViewportScaleX, kMethod3dViewportScaleY,
    kMethod3dViewportScaleZ, kMethod3dViewportScaleW, kMethod3dViewportOffsetX,
    kMethod3dViewportOffsetY, kMethod3dViewportOffsetZ, kMethod3dViewportOffsetW,
    kMethod3dBlendEnable, kMethod3dBlendFuncSrc, kMethod3dBlendFuncDst, kMethod3dBlendEquation,
    kMethod3dColorMask, kMethod3dDepthMask, kMethod3dDepthFunc, kMethod3dDepthTestEnable,
    kMethod3dCullFace, kMethod3dCullFaceEnable, kMethod3dIndexAddress, kMethod3dIndexFormat,
    kMethod3dBeginEnd]

/-- The three methods that draw. -/
def isDrawMethod (method : U32) : Bool :=
  method = kMethod3dDrawArrays || method = kMethod3dDrawElements32 ||
    method = kMethod3dDrawElements16

/-- The first vertex of a draw, by the parameter of its method. -/
def drawStart (val : U32) : U32 := (val >>> 24) &&& 0xFF

/-- The number of vertices of a draw, by the parameter of its method. -/
def drawCount (val : U32) : U32 := val &&& 0x00FFFFFF

/-- A method is one of the registers that start at a base. -/
def inBank (method base size : U32) : Bool := method ≥ base && method < base + size

/-- `Validate3dMethod`. SOURCE: libs/gpu/src/pushbuffer_3d_methods.cpp:86-139 -/
def validate3dMethod (method val count subchannel classId : U32) (reader : ReadWordFn) :
    EStateM Error Nv2a3dContext Unit := do
  if acceptedMethods.contains method then pure ()
  else if isDrawMethod method then do
    let ctx ← get
    ofExcept (ctx.validateDraw (drawStart val) (drawCount val)
      (decide (method ≠ kMethod3dDrawArrays)) reader)
  else if inBank method kMethod3dVertexOffsetBase 64 || inBank method kMethod3dVertexFormatBase 64 ||
      inBank method kMethod3dTextureOffsetBase 0x100 then pure ()
  else do
    modify fun ctx => ctx.recordUnsupportedMethod ⟨classId, method, subchannel, count, val⟩
    throw { code := .unsupportedFeature, message := "Unsupported pushbuffer method offset"
            offset := method.setWidth 64 }

/-- What a method of the engine changes: the context, the surface drawn to, and the statistics. -/
structure Engine where
  ctx : Nv2a3dContext
  surface : GpuSurface
  stats : PushbufferStats

/-- `Nv2a3dContext::ClearSurface`. SOURCE: libs/gpu/src/nv2a_3d_context.cpp:98-109 -/
def Engine.clearSurface (e : Engine) (flags : U32) : Engine :=
  { e with
    surface := if flags &&& 0x01 ≠ 0 then
        e.surface.clear (ColorRgba.fromU32 e.ctx.clearColorValue)
      else e.surface
    ctx := if flags &&& 0x02 ≠ 0 then e.ctx.clearDepth e.ctx.clearDepthValue else e.ctx }

/-- A draw of `Apply3dMethod`: the result is only counted. -/
def Engine.countedDraw (fp : FloatUnit) (e : Engine) (method val : U32) (reader : ReadWordFn) :
    Engine :=
  let drawn := (draw fp (drawStart val) (drawCount val) (decide (method ≠ kMethod3dDrawArrays))
    reader).run ⟨e.ctx, e.surface⟩
  let after := stateAfter drawn
  let triangles := match outcome drawn with
    | .ok n => n
    | .error _ => 0
  { ctx := after.ctx
    surface := after.surface
    stats :=
      { e.stats with
        verticesProcessed := e.stats.verticesProcessed + drawCount val
        trianglesRasterized := e.stats.trianglesRasterized + triangles } }

/-- `Apply3dMethod`, and whether the method is one of the engine's.
SOURCE: libs/gpu/src/pushbuffer_3d_methods.cpp:141-270 -/
def apply3dMethod (fp : FloatUnit) (method val : U32) (reader : ReadWordFn) (e : Engine) :
    Bool × Engine :=
  if method = kMethod3dClearSurface then (true, e.clearSurface val)
  else if isDrawMethod method then (true, e.countedDraw fp method val reader)
  else
    match registerMethods.lookup method with
    | some store => (true, { e with ctx := store val e.ctx })
    | none =>
      if inBank method kMethod3dVertexOffsetBase 64 then
        let attrIdx := (method - kMethod3dVertexOffsetBase) / 4
        let ctx := e.ctx.modifyVertexAttribute attrIdx (vertexOffset val)
        (true, { e with ctx := ctx })
      else if inBank method kMethod3dVertexFormatBase 64 then
        let attrIdx := (method - kMethod3dVertexFormatBase) / 4
        let ctx := e.ctx.modifyVertexAttribute attrIdx (vertexFormat val)
        (true, { e with ctx := ctx })
      else if inBank method kMethod3dTextureOffsetBase 0x100 then
        (true, { e with ctx := applyTextureStageMethod method val e.ctx })
      else (false, e)

end Xblob.Gpu
