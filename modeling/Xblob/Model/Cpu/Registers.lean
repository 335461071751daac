import Xblob.Model.Common

/-!
# The register file and the flag arithmetic of the IA-32 core

`CpuContext` is the whole architectural state of the processor.  The flag
functions compute the new EFLAGS of an operation from its operands and the old
EFLAGS; none of them touches the context.
-/

set_option autoImplicit false

namespace Xblob.Processor

/-! ## Registers -/

/-- `Reg32`. SOURCE: libs/cpu/include/xblob/cpu/registers.hpp:9 -/
inductive Reg32 where
  | eax | ecx | edx | ebx | esp | ebp | esi | edi
  deriving DecidableEq, Repr

/-- The cast of a three-bit register field to `Reg32`. -/
def Reg32.ofIndex (index : U8) : Reg32 :=
  match index.toNat with
  | 0 => .eax
  | 1 => .ecx
  | 2 => .edx
  | 3 => .ebx
  | 4 => .esp
  | 5 => .ebp
  | 6 => .esi
  | _ => .edi

/-- The number of a register. -/
def Reg32.index : Reg32 → U8
  | .eax => 0
  | .ecx => 1
  | .edx => 2
  | .ebx => 3
  | .esp => 4
  | .ebp => 5
  | .esi => 6
  | .edi => 7

/-- `SegmentReg`. SOURCE: libs/cpu/include/xblob/cpu/registers.hpp:11 -/
inductive SegmentReg where
  | cs | ds | ss | es | fs | gs
  deriving DecidableEq, Repr

def kFlagCF : U32 := 0x001
def kFlagReserved1 : U32 := 0x002
def kFlagPF : U32 := 0x004
def kFlagAF : U32 := 0x010
def kFlagZF : U32 := 0x040
def kFlagSF : U32 := 0x080
def kFlagTF : U32 := 0x100
def kFlagIF : U32 := 0x200
def kFlagDF : U32 := 0x400
def kFlagOF : U32 := 0x800

/-- `Idtr`. SOURCE: libs/cpu/include/xblob/cpu/registers.hpp:24-27 -/
structure Idtr where
  base : U32 := 0
  limit : U16 := 0
  deriving DecidableEq, Repr

/-- `CpuContext`, with the values of `Reset` as defaults.
SOURCE: libs/cpu/include/xblob/cpu/registers.hpp:29-37, libs/cpu/src/registers.cpp:5-14 -/
structure CpuContext where
  gpr : Reg32 → U32 := fun _ => 0
  eip : U32 := 0
  eflags : U32 := kFlagReserved1
  segments : SegmentReg → U16 := fun _ => 0
  cr0 : U32 := 0
  cr2 : U32 := 0
  cr3 : U32 := 0
  idtr : Idtr := {}

namespace CpuContext

/-- `CpuContext::SetGpr`. -/
def setGpr (ctx : CpuContext) (reg : Reg32) (val : U32) : CpuContext :=
  { ctx with gpr := Function.update ctx.gpr reg val }

/-- `CpuContext::GetGpr8`: the low bytes of the first four registers, then their second
bytes.  SOURCE: libs/cpu/include/xblob/cpu/registers.hpp:47-52 -/
def getGpr8 (ctx : CpuContext) (reg8 : U8) : U8 :=
  if reg8 < 4 then
    (ctx.gpr (.ofIndex reg8) &&& 0xFF).setWidth 8
  else
    ((ctx.gpr (.ofIndex (reg8 - 4)) >>> 8) &&& 0xFF).setWidth 8

/-- `CpuContext::SetGpr8`. SOURCE: libs/cpu/include/xblob/cpu/registers.hpp:54-60 -/
def setGpr8 (ctx : CpuContext) (reg8 : U8) (val : U8) : CpuContext :=
  if reg8 < 4 then
    let reg := Reg32.ofIndex reg8
    ctx.setGpr reg ((ctx.gpr reg &&& ~~~(0xFF : U32)) ||| val.setWidth 32)
  else
    let reg := Reg32.ofIndex (reg8 - 4)
    ctx.setGpr reg ((ctx.gpr reg &&& ~~~(0xFF00 : U32)) ||| (val.setWidth 32 <<< 8))

/-- `CpuContext::GetGpr16`. -/
def getGpr16 (ctx : CpuContext) (reg : Reg32) : U16 := (ctx.gpr reg &&& 0xFFFF).setWidth 16

/-- `CpuContext::SetGpr16`. SOURCE: libs/cpu/include/xblob/cpu/registers.hpp:66-68 -/
def setGpr16 (ctx : CpuContext) (reg : Reg32) (val : U16) : CpuContext :=
  ctx.setGpr reg ((ctx.gpr reg &&& ~~~(0xFFFF : U32)) ||| val.setWidth 32)

/-- `CpuContext::SetSegment`. -/
def setSegment (ctx : CpuContext) (seg : SegmentReg) (val : U16) : CpuContext :=
  { ctx with segments := Function.update ctx.segments seg val }

/-- `CpuContext::GetFlag`. -/
def getFlag (ctx : CpuContext) (mask : U32) : Bool := (ctx.eflags &&& mask) != 0

/-- `CpuContext::SetFlag`, which also forces the reserved bit 1.
SOURCE: libs/cpu/include/xblob/cpu/registers.hpp:80-87 -/
def setFlag (ctx : CpuContext) (mask : U32) (val : Bool) : CpuContext :=
  { ctx with
    eflags := (if val then ctx.eflags ||| mask else ctx.eflags &&& ~~~mask) ||| kFlagReserved1 }

/-- `CpuContext::SetEflags`. -/
def setEflags (ctx : CpuContext) (val : U32) : CpuContext :=
  { ctx with eflags := val ||| kFlagReserved1 }

end CpuContext

/-! ## Flags -/

def kArithmeticFlagsMask : U32 :=
  kFlagCF ||| kFlagPF ||| kFlagAF ||| kFlagZF ||| kFlagSF ||| kFlagOF

/-- `CalculateParity`: whether the byte has an even number of set bits.
SOURCE: libs/cpu/include/xblob/cpu/flags.hpp:11-19 -/
def calculateParity (byte : U8) : Bool :=
  ((List.range 8).countP fun i => ((byte >>> i) &&& 1) != 0) % 2 == 0

/-- The flag bit `mask` when `c` holds. -/
def flagIf (c : Bool) (mask : U32) : U32 := if c then mask else 0

/-- The end every flag function shares: the bits of `cleared` are dropped from the old
EFLAGS, the reserved bit is forced, and the computed flags are set. -/
def assembleFlags (cleared current : U32) (cf pf af zf sf ovf : Bool) : U32 :=
  ((current &&& ~~~cleared) ||| kFlagReserved1) ||| flagIf cf kFlagCF ||| flagIf pf kFlagPF |||
    flagIf af kFlagAF ||| flagIf zf kFlagZF ||| flagIf sf kFlagSF ||| flagIf ovf kFlagOF

/-- The low byte of a result, whose parity PF shows. -/
def lowByte (res : U32) : U8 := (res &&& 0xFF).setWidth 8

/-- The sign bit of a 32-bit value. -/
def signBit (res : U32) : Bool := (res &&& 0x80000000) != 0

/-- `CalculateAddFlags`. SOURCE: libs/cpu/include/xblob/cpu/flags.hpp:21-47 -/
def calculateAddFlags (a b currentFlags : U32) : U32 :=
  let sum : U64 := a.setWidth 64 + b.setWidth 64
  let res : U32 := sum.setWidth 32
  assembleFlags kArithmeticFlagsMask currentFlags
    (sum > 0xFFFFFFFF) (calculateParity (lowByte res)) ((a &&& 0x0F) + (b &&& 0x0F) > 0x0F)
    (res == 0) (signBit res) (signBit ((a ^^^ res) &&& (b ^^^ res)))

/-- `CalculateAdcFlags`. SOURCE: libs/cpu/include/xblob/cpu/flags.hpp:49-77 -/
def calculateAdcFlags (a b : U32) (cfIn : Bool) (currentFlags : U32) : U32 :=
  let cin : U64 := if cfIn then 1 else 0
  let sum : U64 := a.setWidth 64 + b.setWidth 64 + cin
  let res : U32 := sum.setWidth 32
  assembleFlags kArithmeticFlagsMask currentFlags
    (sum > 0xFFFFFFFF) (calculateParity (lowByte res))
    ((a &&& 0x0F) + (b &&& 0x0F) + cin.setWidth 32 > 0x0F)
    (res == 0) (signBit res) (signBit (~~~(a ^^^ b) &&& (a ^^^ res)))

/-- `CalculateSubFlags`. SOURCE: libs/cpu/include/xblob/cpu/flags.hpp:79-104 -/
def calculateSubFlags (a b currentFlags : U32) : U32 :=
  let res := a - b
  assembleFlags kArithmeticFlagsMask currentFlags
    (a < b) (calculateParity (lowByte res)) ((a &&& 0x0F) < (b &&& 0x0F))
    (res == 0) (signBit res) (signBit ((a ^^^ b) &&& (a ^^^ res)))

/-- `CalculateSubFlags8`. SOURCE: libs/cpu/include/xblob/cpu/flags.hpp:106-131 -/
def calculateSubFlags8 (a b : U8) (currentFlags : U32) : U32 :=
  let res := a - b
  assembleFlags kArithmeticFlagsMask currentFlags
    (a < b) (calculateParity res) ((a &&& 0x0F) < (b &&& 0x0F))
    (res == 0) ((res &&& 0x80) != 0) (((a ^^^ b) &&& (a ^^^ res) &&& 0x80) != 0)

/-- `CalculateSbbFlags`. SOURCE: libs/cpu/include/xblob/cpu/flags.hpp:160-187 -/
def calculateSbbFlags (a b : U32) (cfIn : Bool) (currentFlags : U32) : U32 :=
  let cin : U64 := if cfIn then 1 else 0
  let res := a - b - cin.setWidth 32
  assembleFlags kArithmeticFlagsMask currentFlags
    (a.setWidth 64 < b.setWidth 64 + cin) (calculateParity (lowByte res))
    ((a &&& 0x0F) < (b &&& 0x0F) + cin.setWidth 32)
    (res == 0) (signBit res) (signBit ((a ^^^ b) &&& (a ^^^ res)))

/-- What INC and DEC clear: every arithmetic flag but CF. -/
def kIncDecFlagsMask : U32 := kFlagPF ||| kFlagAF ||| kFlagZF ||| kFlagSF ||| kFlagOF

/-- `CalculateIncFlags`, which preserves CF.
SOURCE: libs/cpu/include/xblob/cpu/flags.hpp:189-213 -/
def calculateIncFlags (a currentFlags : U32) : U32 :=
  let res := a + 1
  assembleFlags kIncDecFlagsMask currentFlags
    false (calculateParity (lowByte res)) ((a &&& 0x0F) == 0x0F)
    (res == 0) (signBit res) (a == 0x7FFFFFFF)

/-- `CalculateDecFlags`, which preserves CF.
SOURCE: libs/cpu/include/xblob/cpu/flags.hpp:215-239 -/
def calculateDecFlags (a currentFlags : U32) : U32 :=
  let res := a - 1
  assembleFlags kIncDecFlagsMask currentFlags
    false (calculateParity (lowByte res)) ((a &&& 0x0F) == 0x00)
    (res == 0) (signBit res) (a == 0x80000000)

/-- `CalculateLogicFlags`: CF, OF and AF are cleared.
SOURCE: libs/cpu/include/xblob/cpu/flags.hpp:241-256 -/
def calculateLogicFlags (res currentFlags : U32) : U32 :=
  assembleFlags kArithmeticFlagsMask currentFlags
    false (calculateParity (lowByte res)) false (res == 0) (signBit res) false

end Xblob.Processor
