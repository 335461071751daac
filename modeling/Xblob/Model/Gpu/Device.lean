import Mathlib.Logic.Function.Basic
import Xblob.Model.Gpu.Types

/-!
# Surfaces and the device

The two surfaces that a pushbuffer is drawn to and shown from, and the registers a flip reports
to.  The PCI side of the device is modelled with the bus bridge.
-/

set_option autoImplicit false

namespace Xblob.Gpu

/-- `ColorRgba`. SOURCE: libs/gpu/include/xblob/gpu/texture_sampler.hpp:11-30 -/
structure ColorRgba where
  r : U8 := 255
  g : U8 := 255
  b : U8 := 255
  a : U8 := 255
  deriving DecidableEq, Repr

/-- `ColorRgba::FromU32`: red is the lowest byte. -/
def ColorRgba.fromU32 (val : U32) : ColorRgba :=
  ⟨byteOf val 0, byteOf val 1, byteOf val 2, byteOf val 3⟩

/-! ## Surfaces -/

def kMaxSurfaceWidth : U32 := 1920
def kMaxSurfaceHeight : U32 := 1080
def kMaxSurfacePitch : U32 := 1920 * 4
def kMaxSurfaceBytes : U32 := 1920 * 1080 * 4

/-- `GpuSurface`. SOURCE: libs/gpu/include/xblob/gpu/gpu_surface.hpp:13-48 -/
structure GpuSurface where
  width : U32 := 0
  height : U32 := 0
  pitch : U32 := 0
  byteSize : U32 := 0
  sequenceNumber : U64 := 0
  pixels : List U8 := []

namespace GpuSurface

/-- `GpuSurface::Create`. SOURCE: libs/gpu/src/gpu_surface.cpp:12-46 -/
def create (width height : U32) (pitch : U32 := 0) : Result GpuSurface := do
  if width = 0 ∨ height = 0 then
    throw { code := .invalidArgument, message := "Surface dimensions must be non-zero" }
  if width > kMaxSurfaceWidth ∨ height > kMaxSurfaceHeight then
    throw { code := .invalidArgument
            message := "Surface dimensions exceed allowed hardware maximums" }
  let pitch ← if pitch ≠ 0 then pure pitch else
    match checkedMul width 4 with
    | some p => pure p
    | none => throw { code := .integerOverflow
                      message := "Integer overflow computing surface pitch" }
  if pitch < width * 4 then
    throw { code := .invalidArgument, message := "Pitch is smaller than width * 4 (RGBA8)" }
  if pitch > kMaxSurfacePitch then
    throw { code := .invalidArgument, message := "Pitch exceeds maximum hardware pitch limit" }
  match checkedMul pitch height with
  | none => throw { code := .integerOverflow
                    message := "Integer overflow computing surface byte size" }
  | some totalBytes =>
    if totalBytes > kMaxSurfaceBytes then
      throw { code := .invalidCapacity
              message := "Surface byte size exceeds conservative hardware cap" }
    pure { width := width, height := height, pitch := pitch, byteSize := totalBytes
           pixels := List.replicate totalBytes.toNat 0 }

/-- Where the bytes of a pixel start. -/
def pixelOffset (s : GpuSurface) (x y : U32) : U32 := y * s.pitch + x * 4

/-- The four stores of a pixel. -/
def storePixel (s : GpuSurface) (x y : U32) (c : ColorRgba) : GpuSurface :=
  let offset := s.pixelOffset x y
  { s with pixels := (((s.pixels.set offset.toNat c.r).set (offset + 1).toNat c.g).set
      (offset + 2).toNat c.b).set (offset + 3).toNat c.a }

/-- The numbers from one to another, the second left out. -/
def indices (start stop : U32) : List U32 :=
  (List.range' start.toNat (stop.toNat - start.toNat)).map (BitVec.ofNat 32)

/-- The rows and columns of a rectangle, stored pixel by pixel. -/
def storeRows (s : GpuSurface) (x y xEnd yEnd : U32) (c : ColorRgba) : GpuSurface :=
  (indices y yEnd).foldl
    (fun s row => (indices x xEnd).foldl (fun s col => s.storePixel col row c) s) s

/-- `GpuSurface::Clear`. SOURCE: libs/gpu/src/gpu_surface.cpp:48-59 -/
def clear (s : GpuSurface) (c : ColorRgba) : GpuSurface := s.storeRows 0 0 s.width s.height c

/-- `GpuSurface::FillRect`. SOURCE: libs/gpu/src/gpu_surface.cpp:61-84 -/
def fillRect (s : GpuSurface) (x y w h : U32) (c : ColorRgba) : Result GpuSurface :=
  match checkedAdd x w with
  | none => .error { code := .outOfBounds
                     message := "Rectangle extends outside surface width bounds" }
  | some xEnd =>
    if xEnd > s.width then
      .error { code := .outOfBounds, message := "Rectangle extends outside surface width bounds" }
    else
      match checkedAdd y h with
      | none => .error { code := .outOfBounds
                         message := "Rectangle extends outside surface height bounds" }
      | some yEnd =>
        if yEnd > s.height then
          .error { code := .outOfBounds
                   message := "Rectangle extends outside surface height bounds" }
        else
          .ok (s.storeRows x y xEnd yEnd c)

/-- `GpuSurface::SetPixel`, whose result the rasterizer drops: out of bounds it does nothing.
SOURCE: libs/gpu/src/gpu_surface.cpp:86-96 -/
def setPixel (s : GpuSurface) (x y : U32) (c : ColorRgba) : GpuSurface :=
  if x ≥ s.width ∨ y ≥ s.height then s else s.storePixel x y c

/-- `GpuSurface::GetPixel`. SOURCE: libs/gpu/src/gpu_surface.cpp:98-108 -/
def getPixel (s : GpuSurface) (x y : U32) : Result U32 :=
  if x ≥ s.width ∨ y ≥ s.height then
    .error { code := .outOfBounds, message := "Pixel coordinates out of bounds" }
  else
    let byte (i : U32) := s.pixels.getD (s.pixelOffset x y + i).toNat 0
    .ok (word32 (byte 0) (byte 1) (byte 2) (byte 3))

end GpuSurface

/-! ## Registers -/

def kRegPvideoIntr : U32 := 0x00680100

/-- The current values of the registers that there are.
SOURCE: libs/gpu/include/xblob/gpu/gpu_register_file.hpp:21-43 -/
structure GpuRegisterFile where
  currentValue : U32 → Option U32

namespace GpuRegisterFile

/-- The registers and their reset values. SOURCE: libs/gpu/src/gpu_register_file.cpp:9-136 -/
def resetValues : List (U32 × U32) :=
  [(0x00000000, 0x02A000A1), (0x00000200, 0x00011001), (0x00009400, 0), (0x00009410, 0),
    (0x00002100, 0), (0x00002140, 0), (0x00002210, 0), (0x00002214, 0), (0x00002218, 0),
    (0x00002500, 0), (0x00400100, 0), (0x00400140, 0), (0x00400700, 0), (kRegPvideoIntr, 0),
    (0x00680140, 0), (0x00680800, 0)]

/-- The registers a device starts with. -/
def initial : GpuRegisterFile where
  currentValue := fun offset => resetValues.lookup offset

/-- `GpuRegisterFile::GetValue`. SOURCE: libs/gpu/src/gpu_register_file.cpp:204-210 -/
def getValue (f : GpuRegisterFile) (offset : U32) : U32 := (f.currentValue offset).getD 0

/-- `GpuRegisterFile::SetValue`. SOURCE: libs/gpu/src/gpu_register_file.cpp:212-217 -/
def setValue (f : GpuRegisterFile) (offset value : U32) : GpuRegisterFile where
  currentValue := Function.update f.currentValue offset
    ((f.currentValue offset).map fun _ => value)

end GpuRegisterFile

/-! ## The device -/

/-- `Nv2aDevice`. SOURCE: libs/gpu/include/xblob/gpu/nv2a_device.hpp:17-72 -/
structure Nv2aDevice where
  registerFile : GpuRegisterFile
  frontSurface : GpuSurface
  backSurface : GpuSurface
  fault : GpuFault := .none
  frameCounter : U64 := 0

namespace Nv2aDevice

/-- A surface of 640 pixels by 480, as `Create(640, 480)` makes it. -/
def blankSurface : GpuSurface where
  width := 640
  height := 480
  pitch := 2560
  byteSize := 1228800
  pixels := List.replicate 1228800 0

/-- The constructor. SOURCE: libs/gpu/src/nv2a_device.cpp:11-15 -/
def initial : Nv2aDevice where
  registerFile := .initial
  frontSurface := blankSurface
  backSurface := blankSurface

/-- A fault recorded in the device. -/
def setFault (d : Nv2aDevice) (f : GpuFault) : Nv2aDevice := { d with fault := f }

/-- `TriggerVideoInterrupt`. SOURCE: libs/gpu/src/nv2a_device.cpp:76-79 -/
def triggerVideoInterrupt (d : Nv2aDevice) (flags : U32) : Nv2aDevice :=
  let current := d.registerFile.getValue kRegPvideoIntr
  { d with registerFile := d.registerFile.setValue kRegPvideoIntr (current ||| flags) }

/-- `Nv2aDevice::Flip`. SOURCE: libs/gpu/src/nv2a_device.cpp:86-91 -/
def flip (d : Nv2aDevice) : Nv2aDevice :=
  let shown := { d.backSurface with sequenceNumber := d.backSurface.sequenceNumber + 1 }
  let d := ({ d with frontSurface := shown } : Nv2aDevice).triggerVideoInterrupt 2
  { d with frameCounter := d.frameCounter + 1 }

end Nv2aDevice

/-- The constructor's surfaces are what `Create` returns. -/
theorem create_blankSurface : GpuSurface.create 640 480 = .ok Nv2aDevice.blankSurface := rfl

end Xblob.Gpu
