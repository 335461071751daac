import Xblob.Computation.Loops
import Xblob.Model.Gpu.Context3d

/-!
# The pushbuffer processor

A packet is validated as a whole and then applied.  Words come from a list or from guest memory,
and the two main loops differ only in where they take a packet from and where a jump leads; they
are one loop over a stream.
-/

set_option autoImplicit false

namespace Xblob.Gpu

open Xblob.Computation

/-! ## The decoder.  SOURCE: libs/gpu/src/pushbuffer_decoder.cpp -/

/-- The packet of a header word, without its parameters, if it has a known prefix. -/
def decodeHeader (header : U32) : Result PushbufferPacket :=
  if header &&& 0x00000001 ≠ 0 then
    .ok { opcode := .jump, jumpTarget := header &&& ~~~0x00000003 }
  else
    let kind := (header >>> 30) &&& 0x03
    if kind ≠ 0b00 ∧ kind ≠ 0b10 then
      .error { code := .invalidField, message := "Unknown pushbuffer packet prefix opcode" }
    else
      .ok { opcode := .method
            subchannel := (header >>> 13) &&& 0x07
            method := header &&& 0x00001FFC
            count := (header >>> 18) &&& 0x000007FF
            nonIncrementing := kind = 0b10 ∨ header &&& (1 <<< 29) ≠ 0 }

/-- The error for a packet that is longer than what is left. -/
def truncated (text : String) : Error := { code := .truncatedData, message := text }

/-- `DecodeFromSpan`, and the offset after the packet.
SOURCE: libs/gpu/src/pushbuffer_decoder.cpp:7-48 -/
def decodeFromSpan (words : List U32) (offset : ℕ) : Result (PushbufferPacket × ℕ) :=
  match words[offset]? with
  | none =>
    .error { code := .unexpectedEof, message := "Pushbuffer stream ended before next command" }
  | some header => do
    let pkt ← decodeHeader header
    if pkt.opcode = .jump then pure (pkt, offset + 1)
    else if offset + 1 + pkt.count.toNat > words.length then
      throw (truncated "Pushbuffer packet payload ends before declared count")
    else
      let parameters := (words.drop (offset + 1)).take pkt.count.toNat
      pure ({ pkt with parameters := parameters }, offset + 1 + pkt.count.toNat)

/-- One parameter of `DecodeFromMemory`. -/
def readParameter (read : GuestAddr → Result U32) (currentAddr : GuestAddr) (i : ℕ) : Result U32 :=
  match checkedAdd currentAddr (BitVec.ofNat 32 ((i + 1) * 4)) with
  | none => .error { code := .integerOverflow, message := "Pushbuffer address wrapped around"
                     offset := currentAddr.setWidth 64 }
  | some paramAddr =>
    (read paramAddr).mapError fun _ =>
      truncated "Failed to fetch parameter word before declared count"

/-- `DecodeFromMemory`. SOURCE: libs/gpu/src/pushbuffer_decoder.cpp:50-108 -/
def decodeFromMemory (currentAddr : GuestAddr) (read : GuestAddr → Result U32)
    (wordsAvailable : U32) : Result PushbufferPacket := do
  if wordsAvailable = 0 then
    throw { code := .unexpectedEof, message := "No words available in pushbuffer stream" }
  if currentAddr % 4 ≠ 0 then
    throw { code := .invalidArgument, message := "Pushbuffer address misaligned"
            offset := currentAddr.setWidth 64 }
  let header ← read currentAddr
  let pkt ← decodeHeader header
  if pkt.opcode = .jump then pure pkt
  else if pkt.count + 1 > wordsAvailable then
    throw (truncated "Pushbuffer packet payload ends before declared count")
  else do
    let parameters ← (List.range pkt.count.toNat).mapM (readParameter read currentAddr)
    pure { pkt with parameters := parameters }

/-! ## The processor -/

/-- `PushbufferProcessor`, with its device.
SOURCE: libs/gpu/include/xblob/gpu/pushbuffer_processor.hpp:52-67 -/
structure PushbufferProcessor where
  device : Nv2aDevice
  stats : PushbufferStats := {}
  ctx3d : Nv2a3dContext
  subchannelClasses : Fin 8 → U32
  memoryReader : ReadWordFn := none
  rectX : U32 := 0
  rectY : U32 := 0
  rectW : U32 := 0
  rectH : U32 := 0
  rectColor : U32 := 0xFFFFFFFF
  clearColor : U32 := 0x000000FF
  surfaceW : U32 := 640
  surfaceH : U32 := 480
  surfacePitch : U32 := 640 * 4

/-- `CheckBudgetExhausted`. SOURCE: libs/gpu/src/pushbuffer_processor.cpp:9-14 -/
def checkBudgetExhausted (stats : PushbufferStats) (b : PushbufferBudgets) : Bool :=
  stats.wordsProcessed ≥ b.maxWords || stats.packetsProcessed ≥ b.maxPackets ||
    stats.methodsExecuted ≥ b.maxMethods || stats.jumpsTaken ≥ b.maxJumps ||
    stats.verticesProcessed ≥ b.maxVertices || stats.trianglesRasterized ≥ b.maxTriangles

/-- The method and the parameter in a place of a packet. -/
def PushbufferPacket.methodAt (packet : PushbufferPacket) (i : ℕ) : U32 × U32 :=
  (if packet.nonIncrementing then packet.method else packet.method + BitVec.ofNat 32 i * 4,
    packet.parameters.getD i 0)

/-- The methods of a packet with their parameters, in order. -/
def PushbufferPacket.methods (packet : PushbufferPacket) : List (U32 × U32) :=
  (List.range packet.count.toNat).map packet.methodAt

/-- The object classes that can be bound to a subchannel. -/
def objectClasses : List U32 :=
  [kClassNv097Kelvin3D, kClassNv096Kelvin3D, kClassNv062Surface, kClassNv01fBlit, kClassNv044Video,
    kClassSynthetic2D]

/-- The 2D methods that `ValidatePacket` accepts by their number. -/
def accepted2dMethods : List U32 :=
  [kMethodSurfaceWidth, kMethodSurfaceHeight, kMethodSurfacePitch, kMethodClearColor,
    kMethodClearSurface, kMethodRectColor, kMethodFlip]

/-- The rectangle as the validation of a packet follows it. -/
structure StagedRect where
  x : U32
  y : U32
  w : U32
  h : U32
  deriving DecidableEq, Repr

namespace PushbufferProcessor

/-- The constructor. SOURCE: libs/gpu/src/pushbuffer_processor.cpp:18-21 -/
def initial : PushbufferProcessor where
  device := .initial
  ctx3d := .initial
  subchannelClasses := fun i => if i = 0 then kClassNv097Kelvin3D else 0

/-- A fault recorded in the processor. -/
def setFault (p : PushbufferProcessor) (f : GpuFault) : PushbufferProcessor :=
  { p with device := p.device.setFault f }

/-- The class bound to a subchannel. -/
def classOf (p : PushbufferProcessor) (subchannel : U32) : U32 :=
  if h : subchannel.toNat < 8 then p.subchannelClasses ⟨subchannel.toNat, h⟩ else 0

/-- The rectangle of the registers. -/
def rect (p : PushbufferProcessor) : StagedRect := ⟨p.rectX, p.rectY, p.rectW, p.rectH⟩

end PushbufferProcessor

/-- A computation on the 3D context. -/
def onContext {α : Type} (f : EStateM Error Nv2a3dContext α) : EStateM Error PushbufferProcessor α :=
  zoom PushbufferProcessor.ctx3d (fun ctx p => { p with ctx3d := ctx }) f

/-- The check of one method, and the rectangle after it.
SOURCE: libs/gpu/src/pushbuffer_processor.cpp:45-103 -/
def validateMethod (packet : PushbufferPacket) (temp : StagedRect) (method val : U32) :
    EStateM Error PushbufferProcessor StagedRect := do
  let p ← get
  if method = kMethodSetObject then
    if objectClasses.contains val then pure temp
    else do
      onContext (modify fun ctx => ctx.recordUnsupportedMethod
        ⟨p.classOf packet.subchannel, method, packet.subchannel, packet.count, val⟩)
      throw { code := .unsupportedFeature, message := "Unsupported object class ID"
              offset := val.setWidth 64 }
  else if accepted2dMethods.contains method then pure temp
  else if method = kMethodRectX then pure { temp with x := val }
  else if method = kMethodRectY then pure { temp with y := val }
  else if method = kMethodRectW then pure { temp with w := val }
  else if method = kMethodRectH then pure { temp with h := val }
  else if method = kMethodRectDraw then
    let surf := p.device.backSurface
    if temp.x.toNat + temp.w.toNat > surf.width.toNat ∨
        temp.y.toNat + temp.h.toNat > surf.height.toNat then
      throw { code := .outOfBounds, message := "FillRect bounds exceed surface dimensions" }
    else pure temp
  else do
    onContext (validate3dMethod method val packet.count packet.subchannel
      (p.classOf packet.subchannel) p.memoryReader)
    pure temp

/-- The checks of a list of methods. -/
def validateMethods (packet : PushbufferPacket) :
    List (U32 × U32) → StagedRect → EStateM Error PushbufferProcessor Unit
  | [], _ => pure ()
  | m :: rest, temp => do
    let temp ← validateMethod packet temp m.1 m.2
    validateMethods packet rest temp

/-- `ValidatePacket`. SOURCE: libs/gpu/src/pushbuffer_processor.cpp:23-103 -/
def validatePacket (packet : PushbufferPacket) : EStateM Error PushbufferProcessor Unit := do
  if packet.opcode = .jump then
    if packet.jumpTarget % 4 ≠ 0 then
      throw { code := .invalidArgument, message := "Misaligned pushbuffer jump target"
              offset := packet.jumpTarget.setWidth 64 }
    else pure ()
  else if packet.opcode ≠ .method then
    throw { code := .invalidField, message := "Unknown pushbuffer packet opcode" }
  else if packet.subchannel.toNat ≥ kMaxSubchannels then
    throw { code := .outOfBounds, message := "Invalid subchannel index" }
  else do
    let p ← get
    validateMethods packet packet.methods p.rect

section

variable (fp : FloatUnit)

namespace PushbufferProcessor

/-- Binding an object class to a subchannel. -/
def setSubchannelClass (p : PushbufferProcessor) (subchannel val : U32) : PushbufferProcessor :=
  if h : subchannel.toNat < 8 then
    let i : Fin 8 := ⟨subchannel.toNat, h⟩
    { p with subchannelClasses := Function.update p.subchannelClasses i val }
  else p

/-- The back surface, put back. -/
def setBackSurface (p : PushbufferProcessor) (s : GpuSurface) : PushbufferProcessor :=
  { p with device := { p.device with backSurface := s } }

/-- What the methods of the 3D engine work on. -/
def engine (p : PushbufferProcessor) : Engine := ⟨p.ctx3d, p.device.backSurface, p.stats⟩

/-- The engine, put back. -/
def setEngine (p : PushbufferProcessor) (e : Engine) : PushbufferProcessor :=
  { p.setBackSurface e.surface with ctx3d := e.ctx, stats := e.stats }

/-- The rectangle of the registers, filled. -/
def fillRect (p : PushbufferProcessor) : Result GpuSurface :=
  p.device.backSurface.fillRect p.rectX p.rectY p.rectW p.rectH (ColorRgba.fromU32 p.rectColor)

/-- The effect of one method; failures are dropped.
SOURCE: libs/gpu/src/pushbuffer_processor.cpp:119-163 -/
def performMethod (p : PushbufferProcessor) (subchannel method val : U32) : PushbufferProcessor :=
  if method = kMethodSetObject then p.setSubchannelClass subchannel val
  else if method = kMethodSurfaceWidth then { p with surfaceW := val }
  else if method = kMethodSurfaceHeight then { p with surfaceH := val }
  else if method = kMethodSurfacePitch then { p with surfacePitch := val }
  else if method = kMethodClearColor then { p with clearColor := val }
  else if method = kMethodClearSurface then
    p.setBackSurface (p.device.backSurface.clear (ColorRgba.fromU32 p.clearColor))
  else if method = kMethodRectX then { p with rectX := val }
  else if method = kMethodRectY then { p with rectY := val }
  else if method = kMethodRectW then { p with rectW := val }
  else if method = kMethodRectH then { p with rectH := val }
  else if method = kMethodRectColor then { p with rectColor := val }
  else if method = kMethodRectDraw then
    match p.fillRect with
    | .ok s => p.setBackSurface s
    | .error _ => p
  else if method = kMethodFlip then { p with device := p.device.flip }
  else p.setEngine (apply3dMethod fp method val p.memoryReader p.engine).2

/-- One method applied and counted. -/
def applyMethod (p : PushbufferProcessor) (subchannel : U32) (m : U32 × U32) :
    PushbufferProcessor :=
  let p := p.performMethod fp subchannel m.1 m.2
  { p with stats := { p.stats with methodsExecuted := p.stats.methodsExecuted + 1 } }

/-- `ApplyPacket`, which does not fail. SOURCE: libs/gpu/src/pushbuffer_processor.cpp:105-170 -/
def applyPacket (p : PushbufferProcessor) (packet : PushbufferPacket) : PushbufferProcessor :=
  if packet.opcode = .jump then p
  else packet.methods.foldl (fun p m => p.applyMethod fp packet.subchannel m) p

end PushbufferProcessor

/-- `find("texture format")` on the text of an error. -/
def namesTextureFormat (e : Error) : Bool :=
  (List.range e.message.length).any fun i =>
    "texture format".toList.isPrefixOf (e.message.toList.drop i)

/-- The fault `ExecutePacket` reports for an error of `ValidatePacket`. -/
def faultOf (e : Error) : GpuFault :=
  match e.code with
  | .outOfBounds => .invalidCoordinates
  | .unsupportedFeature =>
    if namesTextureFormat e then .unsupportedTextureFormat else .unknownMethod
  | .limitReached => .budgetExhausted
  | .invalidState => .invalidState
  | _ => .unknownOpcode

/-- `ExecutePacket`. SOURCE: libs/gpu/src/pushbuffer_processor.cpp:172-193 -/
def executePacket (packet : PushbufferPacket) : EStateM Error PushbufferProcessor Unit := do
  tryCatch (validatePacket packet) fun e => do
    modify fun p => p.setFault (faultOf e)
    throw e
  modify fun p => p.applyPacket fp packet

/-! ## The main loop -/

/-- Where packets are taken from, and where a jump leads. -/
structure PacketStream (π κ : Type) where
  /-- whether there are words left -/
  more : π → Bool
  /-- the packet at a position, the number of its words, and the position after it -/
  decode : π → Result (PushbufferPacket × U32 × π)
  /-- the target of a jump that has been decoded, and the position there -/
  jump : GuestAddr → π → Result (κ × π)
  /-- the text for a target that has been jumped to already -/
  loopText : String

/-- The processor, the position and the jump targets at the head of the loop. -/
structure StreamLoop (π κ : Type) where
  processor : PushbufferProcessor
  position : π
  visited : List κ := []

/-- What a call returns and the processor after it. -/
abbrev CallResult := Result PushbufferStats × PushbufferProcessor

namespace PushbufferProcessor

/-- A packet and its words are counted when it has been decoded. -/
def countPacket (p : PushbufferProcessor) (words : U32) : PushbufferProcessor :=
  { p with stats :=
      { p.stats with
        wordsProcessed := p.stats.wordsProcessed + words
        packetsProcessed := p.stats.packetsProcessed + 1 } }

/-- A jump counted. -/
def countJump (p : PushbufferProcessor) : PushbufferProcessor :=
  { p with stats := { p.stats with jumpsTaken := p.stats.jumpsTaken + 1 } }

end PushbufferProcessor

/-- The error of a call that has used up a budget, for the given reason. -/
def limitReached (text : String) : Error := { code := .limitReached, message := text }

section

variable {π κ : Type} [DecidableEq κ]

/-- A call that ends with an error. -/
def refused (p : PushbufferProcessor) (e : Error) :
    Iteration (StreamLoop π κ) CallResult := .done (.error e, p)

/-- The jump of an iteration, counted and checked. -/
def followJump (s : PacketStream π κ) (budgets : PushbufferBudgets) (visited : List κ)
    (p : PushbufferProcessor) (target : GuestAddr) (after : π) :
    Iteration (StreamLoop π κ) CallResult :=
  let p := p.countJump
  if p.stats.jumpsTaken > budgets.maxJumps then
    refused (p.setFault .budgetExhausted) (limitReached "Pushbuffer jump loop budget exceeded")
  else
    match s.jump target after with
    | .error e => refused (p.setFault .budgetExhausted) e
    | .ok (key, position) =>
      if visited.contains key then
        refused (p.setFault .budgetExhausted) (limitReached s.loopText)
      else .again ⟨p, position, key :: visited⟩

/-- One iteration of the main loop.
SOURCE: libs/gpu/src/pushbuffer_processor.cpp:200-246, 258-303 -/
def streamIteration (s : PacketStream π κ) (budgets : PushbufferBudgets) (l : StreamLoop π κ) :
    Iteration (StreamLoop π κ) CallResult :=
  let p := l.processor
  if !s.more l.position then .done (.ok p.stats, p)
  else if checkBudgetExhausted p.stats budgets then
    refused (p.setFault .budgetExhausted) (limitReached "Pushbuffer budget exhausted")
  else
    match s.decode l.position with
    | .error e => refused (if e.code = .truncatedData then p.setFault .pushbufferTruncated else p) e
    | .ok (pkt, words, after) =>
      let p := p.countPacket words
      if pkt.opcode = .jump then followJump s budgets l.visited p pkt.jumpTarget after
      else
        match (executePacket fp pkt).run p with
        | .error e p => refused p e
        | .ok _ p => .again ⟨p, after, l.visited⟩

end

/-- A list of words, by the offset of the next one. -/
def bufferStream (words : List U32) : PacketStream ℕ ℕ where
  more offset := decide (offset < words.length)
  decode offset := do
    let (pkt, after) ← decodeFromSpan words offset
    pure (pkt, BitVec.ofNat 32 (after - offset), after)
  jump target _ :=
    let targetWordIdx := target.toNat / 4
    if targetWordIdx ≥ words.length then
      .error { code := .outOfBounds, message := "Jump target out of pushbuffer bounds" }
    else .ok (targetWordIdx, targetWordIdx)
  loopText := "Cyclic pushbuffer loop detected"

/-- The next address of guest memory, and how many words may still be read. -/
structure MemoryPosition where
  currentAddr : GuestAddr
  wordsRemaining : U32
  deriving DecidableEq, Repr

/-- Guest memory, by the next address and the number of words that may still be read. -/
def memoryStream (read : GuestAddr → Result U32) : PacketStream MemoryPosition GuestAddr where
  more position := decide (position.wordsRemaining > 0)
  decode position := do
    let pkt ← decodeFromMemory position.currentAddr read position.wordsRemaining
    let wordsConsumed := if pkt.opcode = .jump then 1 else 1 + pkt.count
    let wordsRemaining := if position.wordsRemaining > wordsConsumed then
        position.wordsRemaining - wordsConsumed
      else 0
    pure (pkt, wordsConsumed, ⟨position.currentAddr + wordsConsumed * 4, wordsRemaining⟩)
  jump target position := .ok (target, { position with currentAddr := target })
  loopText := "Pushbuffer loop detected"

/-- `ExecuteBuffer`.  Every iteration comes to an offset for the first time since the last jump,
and every jump to a target for the first time, so the bound is not met.
SOURCE: libs/gpu/src/pushbuffer_processor.cpp:195-249 -/
def executeBuffer (p : PushbufferProcessor) (words : List U32) (budgets : PushbufferBudgets) :
    Option CallResult :=
  loopWithin (streamIteration fp (bufferStream words) budgets)
    ((words.length + 1) * (words.length + 1)) ⟨p, 0, []⟩

/-- `ExecuteFromMemory`.  Every iteration takes a word at least, so the bound is not met.
SOURCE: libs/gpu/src/pushbuffer_processor.cpp:251-306 -/
def executeFromMemory (p : PushbufferProcessor) (startAddr : GuestAddr)
    (read : GuestAddr → Result U32) (maxWords : U32) (budgets : PushbufferBudgets) :
    Option CallResult :=
  loopWithin (streamIteration fp (memoryStream read) budgets) (maxWords.toNat + 1)
    ⟨{ p with memoryReader := some read }, ⟨startAddr, maxWords⟩, []⟩

end

end Xblob.Gpu
