import Xblob.Model.Common

/-!
# The state and the packets of the 3D engine

The registers of the engine, the packets of a pushbuffer, and the numbers of the methods.  An
enumeration that a register value is cast to has every 32-bit number as a value, so it is the
number with names for some of them; the others are inductive types.

A float is its bit pattern.  What the arithmetic of floats computes is the business of the
machine the emulator runs on; which patterns are infinite, not a number or zero is not.
-/

set_option autoImplicit false

namespace Xblob.Gpu

/-- The bit pattern of a `float`. -/
abbrev F32 := U32

/-- The bit pattern of a `double`. -/
abbrev F64 := U64

namespace F32

def one : F32 := 0x3F800000

/-- `std::isnan` or `std::isinf`: all bits of the exponent are set. -/
def isNanOrInf (f : F32) : Bool := f &&& 0x7F800000 = 0x7F800000

/-- `f == 0.0f`, for either sign. -/
def isZero (f : F32) : Bool := f &&& 0x7FFFFFFF = 0

end F32

/-! ## Registers.  SOURCE: libs/gpu/include/xblob/gpu/nv2a_3d_types.hpp:12-199 -/

/-- `enum class PrimitiveType : u32`: any value may be stored. -/
abbrev PrimitiveType := U32

namespace PrimitiveType

def triangles : PrimitiveType := 5
def triangleStrip : PrimitiveType := 6
def triangleFan : PrimitiveType := 7

end PrimitiveType

/-- `enum class CullMode : u32`: any value may be stored. -/
abbrev CullMode := U32

namespace CullMode

def none : CullMode := 0
def cw : CullMode := 0x404
def ccw : CullMode := 0x405

end CullMode

/-- `enum class DepthFunc : u32`: any value may be stored. -/
abbrev DepthFunc := U32

namespace DepthFunc

def never : DepthFunc := 0x200
def less : DepthFunc := 0x201
def equal : DepthFunc := 0x202
def lessEqual : DepthFunc := 0x203
def greater : DepthFunc := 0x204
def notEqual : DepthFunc := 0x205
def greaterEqual : DepthFunc := 0x206

end DepthFunc

/-- `enum class BlendFactor : u32`: any value may be stored. -/
abbrev BlendFactor := U32

namespace BlendFactor

def zero : BlendFactor := 0x0
def one : BlendFactor := 0x1
def srcColor : BlendFactor := 0x300
def invSrcColor : BlendFactor := 0x301
def srcAlpha : BlendFactor := 0x302
def invSrcAlpha : BlendFactor := 0x303
def dstAlpha : BlendFactor := 0x304
def invDstAlpha : BlendFactor := 0x305
def dstColor : BlendFactor := 0x306
def invDstColor : BlendFactor := 0x307

end BlendFactor

/-- `enum class BlendEquation : u32`: any value may be stored. -/
abbrev BlendEquation := U32

namespace BlendEquation

def add : BlendEquation := 0x8006
def min : BlendEquation := 0x8007
def max : BlendEquation := 0x8008
def subtract : BlendEquation := 0x800A
def reverseSubtract : BlendEquation := 0x800B

end BlendEquation

/-- The formats of an attribute that are decoded. -/
inductive VertexFormat where
  | none | float1 | float2 | float3 | float4 | ubyte4
  deriving DecidableEq, Repr

/-- `GetVertexFormatBytes`. -/
def VertexFormat.bytes : VertexFormat → U32
  | .none => 0
  | .float1 => 4
  | .float2 => 8
  | .float3 => 12
  | .float4 => 16
  | .ubyte4 => 4

/-- The formats of the indices. -/
inductive IndexFormat where
  | none | index16 | index32
  deriving DecidableEq, Repr

/-- `enum class TextureFormat : u32`: any value may be stored. -/
abbrev TextureFormat := U32

namespace TextureFormat

def unknown : TextureFormat := 0
def r8g8b8a8 : TextureFormat := 1
def a8r8g8b8 : TextureFormat := 6
def x8r8g8b8 : TextureFormat := 12
def r5g6b5 : TextureFormat := 14

/-- `GetTextureBytesPerPixel`. -/
def bytesPerPixel (fmt : TextureFormat) : U32 :=
  if fmt = r8g8b8a8 ∨ fmt = a8r8g8b8 ∨ fmt = x8r8g8b8 then 4 else if fmt = r5g6b5 then 2 else 0

/-- A texture format takes two bytes, four, or none. -/
theorem bytesPerPixel_cases (fmt : TextureFormat) :
    fmt.bytesPerPixel = 0 ∨ fmt.bytesPerPixel = 2 ∨ fmt.bytesPerPixel = 4 := by
  unfold bytesPerPixel
  split_ifs
  · exact .inr (.inr rfl)
  · exact .inr (.inl rfl)
  · exact .inl rfl

end TextureFormat

/-- The layouts of a texture. -/
inductive TextureLayout where
  | swizzled | linear
  deriving DecidableEq, Repr

/-- `enum class TextureAddressMode : u32`: any value may be stored. -/
abbrev TextureAddressMode := U32

namespace TextureAddressMode

def clampToEdge : TextureAddressMode := 3
def clampToBorder : TextureAddressMode := 4

end TextureAddressMode

/-- `enum class TextureFilter : u32`: any value may be stored. -/
abbrev TextureFilter := U32

def TextureFilter.nearest : TextureFilter := 1

/-- The scale and the offset of the viewport. -/
structure Viewport where
  scaleX : F32 := F32.one
  scaleY : F32 := F32.one
  scaleZ : F32 := F32.one
  scaleW : F32 := F32.one
  offsetX : F32 := 0
  offsetY : F32 := 0
  offsetZ : F32 := 0
  offsetW : F32 := 0
  deriving DecidableEq, Repr

/-- The scissor rectangle. -/
structure Scissor where
  x : U32 := 0
  y : U32 := 0
  width : U32 := 1920
  height : U32 := 1080
  enabled : Bool := false
  deriving DecidableEq, Repr

/-- The channels that are written. -/
structure ColorMask where
  writeR : Bool := true
  writeG : Bool := true
  writeB : Bool := true
  writeA : Bool := true
  deriving DecidableEq, Repr

/-- Where an attribute of the vertices is fetched from. -/
structure VertexAttribute where
  address : GuestAddr := 0
  stride : U32 := 0
  format : VertexFormat := .none
  enabled : Bool := false
  deriving DecidableEq, Repr

/-- Where the indices are fetched from. -/
structure IndexBufferBinding where
  address : GuestAddr := 0
  format : IndexFormat := .none
  deriving DecidableEq, Repr

/-- A texture stage. -/
structure TextureStage where
  address : GuestAddr := 0
  width : U32 := 0
  height : U32 := 0
  pitch : U32 := 0
  format : TextureFormat := .unknown
  layout : TextureLayout := .linear
  wrapU : TextureAddressMode := .clampToEdge
  wrapV : TextureAddressMode := .clampToEdge
  minFilter : TextureFilter := .nearest
  magFilter : TextureFilter := .nearest
  enabled : Bool := false
  deriving DecidableEq, Repr

/-- What is recorded of an unsupported method. -/
structure UnsupportedMethodEntry where
  classId : U32 := 0
  method : U32 := 0
  subchannel : U32 := 0
  count : U32 := 0
  parameter : U32 := 0
  deriving DecidableEq, Repr

def kMaxSubchannels : ℕ := 8
def kMaxUnsupportedDiagnosticEntries : ℕ := 64

/-! ## Object classes and methods
SOURCE: libs/gpu/include/xblob/gpu/nv2a_3d_types.hpp:201-243,
libs/gpu/include/xblob/gpu/pushbuffer_types.hpp:33-44 -/

def kClassNv097Kelvin3D : U32 := 0x0097
def kClassNv096Kelvin3D : U32 := 0x0096
def kClassNv062Surface : U32 := 0x0062
def kClassNv01fBlit : U32 := 0x001F
def kClassNv044Video : U32 := 0x0044
def kClassSynthetic2D : U32 := 0x0000

def kMethodSetObject : U32 := 0x0000

def kMethodSurfaceWidth : U32 := 0x0100
def kMethodSurfaceHeight : U32 := 0x0104
def kMethodSurfacePitch : U32 := 0x0108
def kMethodClearColor : U32 := 0x0120
def kMethodClearSurface : U32 := 0x0124
def kMethodRectX : U32 := 0x0140
def kMethodRectY : U32 := 0x0144
def kMethodRectW : U32 := 0x0148
def kMethodRectH : U32 := 0x014C
def kMethodRectColor : U32 := 0x0150
def kMethodRectDraw : U32 := 0x0154
def kMethodFlip : U32 := 0x0180

def kMethod3dClearSurface : U32 := 0x01D0
def kMethod3dClearColor : U32 := 0x01D4
def kMethod3dClearDepth : U32 := 0x01D8
def kMethod3dSurfaceClipHorizontal : U32 := 0x0200
def kMethod3dSurfaceClipVertical : U32 := 0x0204
def kMethod3dBlendEnable : U32 := 0x0320
def kMethod3dBlendFuncSrc : U32 := 0x0324
def kMethod3dBlendFuncDst : U32 := 0x0328
def kMethod3dBlendEquation : U32 := 0x032C
def kMethod3dColorMask : U32 := 0x0350
def kMethod3dDepthMask : U32 := 0x0354
def kMethod3dDepthFunc : U32 := 0x0358
def kMethod3dDepthTestEnable : U32 := 0x035C
def kMethod3dCullFace : U32 := 0x039C
def kMethod3dCullFaceEnable : U32 := 0x03A0
def kMethod3dScissorHorizontal : U32 := 0x08F8
def kMethod3dScissorVertical : U32 := 0x08FC
def kMethod3dViewportScaleX : U32 := 0x0A00
def kMethod3dViewportScaleY : U32 := 0x0A04
def kMethod3dViewportScaleZ : U32 := 0x0A08
def kMethod3dViewportScaleW : U32 := 0x0A0C
def kMethod3dViewportOffsetX : U32 := 0x0A20
def kMethod3dViewportOffsetY : U32 := 0x0A24
def kMethod3dViewportOffsetZ : U32 := 0x0A28
def kMethod3dViewportOffsetW : U32 := 0x0A2C
def kMethod3dVertexOffsetBase : U32 := 0x1680
def kMethod3dIndexAddress : U32 := 0x16AC
def kMethod3dVertexFormatBase : U32 := 0x1740
def kMethod3dIndexFormat : U32 := 0x1760
def kMethod3dBeginEnd : U32 := 0x17FC
def kMethod3dDrawArrays : U32 := 0x1808
def kMethod3dDrawElements32 : U32 := 0x1818
def kMethod3dDrawElements16 : U32 := 0x181C
def kMethod3dTextureOffsetBase : U32 := 0x1B00
def kMethod3dTextureFormatBase : U32 := 0x1B04
def kMethod3dTextureAddressBase : U32 := 0x1B08
def kMethod3dTextureControlBase : U32 := 0x1B0C
def kMethod3dTextureFilterBase : U32 := 0x1B10
def kMethod3dTextureSizeBase : U32 := 0x1B14

/-! ## Packets.  SOURCE: libs/gpu/include/xblob/gpu/pushbuffer_types.hpp:10-72 -/

/-- The kinds of packets. -/
inductive PacketOpcode where
  | method | jump | call | return
  deriving DecidableEq, Repr

/-- A decoded packet. -/
structure PushbufferPacket where
  opcode : PacketOpcode := .method
  method : U32 := 0
  subchannel : U32 := 0
  count : U32 := 0
  nonIncrementing : Bool := false
  jumpTarget : GuestAddr := 0
  parameters : List U32 := []
  deriving DecidableEq, Repr

/-- The budgets of a call. -/
structure PushbufferBudgets where
  maxWords : U32 := 65536
  maxPackets : U32 := 4096
  maxMethods : U32 := 16384
  maxJumps : U32 := 64
  maxVertices : U32 := 65536
  maxTriangles : U32 := 32768
  deriving DecidableEq, Repr

/-- What the processor counts. -/
structure PushbufferStats where
  wordsProcessed : U32 := 0
  packetsProcessed : U32 := 0
  methodsExecuted : U32 := 0
  jumpsTaken : U32 := 0
  verticesProcessed : U32 := 0
  trianglesRasterized : U32 := 0
  deriving DecidableEq, Repr

/-- `GpuFault`. SOURCE: libs/gpu/include/xblob/gpu/gpu_types.hpp:14-28 -/
inductive GpuFault where
  | none | unknownRegister | misalignedRegisterAccess | readOnlyRegister | pushbufferTruncated
  | unknownOpcode | unknownMethod | invalidSurfaceDimensions | budgetExhausted
  | invalidCoordinates | unsupportedTextureFormat | invalidMemoryAccess | invalidState
  deriving DecidableEq, Repr

/-- `ReadWordFn`: a function to read guest memory with, or none. -/
abbrev ReadWordFn := Option (GuestAddr → Result U32)

end Xblob.Gpu
