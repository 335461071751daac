import Xblob.Computation.Runs
import Xblob.Interface.SchedulerRuns
import Xblob.Model.Gpu.Context3d
import Xblob.Model.Gpu.Pushbuffer
import Xblob.Model.Machine.Pushbuffers

/-!
# Pushbuffers

What a pushbuffer is to do: as a program, over the updates of a session, and to the registers of
the engine.
-/

set_option autoImplicit false

namespace Xblob.Interface

open Xblob.Computation Xblob.Core Xblob.Gpu Xblob.Machine

/-!
## Runs of the pushbuffer processor

What a call does between its start and its end: the packets it passes, the jump targets it
follows, the words and methods it takes; and what of the processor is the state of the GPU.
-/

section PushbufferRuns

variable {π κ : Type} [DecidableEq κ]

/-! ### The state of the GPU -/

/-- A context without its diagnostics. -/
def withoutDiagnostics (ctx : Nv2a3dContext) : Nv2a3dContext :=
  { ctx with unsupportedMethods := [], totalUnsupportedMethodsCount := 0 }

/-- The surfaces, the registers and the bindings, without the fault code, the statistics and the
diagnostics. -/
def gpuState (p : PushbufferProcessor) : PushbufferProcessor :=
  { p with device := p.device.setFault .none, stats := {}, ctx3d := withoutDiagnostics p.ctx3d }

/-- A processor after packets, one executed after the other. -/
def executed (fp : FloatUnit) (p : PushbufferProcessor) (pkts : List PushbufferPacket) :
    PushbufferProcessor :=
  pkts.foldl (fun p pkt => stateAfter ((executePacket fp pkt).run p)) p

/-- None of the packets is refused when they are executed one after the other. -/
def NoneRefused (fp : FloatUnit) (p : PushbufferProcessor) (pkts : List PushbufferPacket) : Prop :=
  ∀ before pkt after, pkts = before ++ pkt :: after →
    outcome ((executePacket fp pkt).run (executed fp p before)) = .ok ()

/-! ### The heads of the main loop -/

/-- The packet at the head of an iteration. -/
def packetAt (s : PacketStream π κ) (l : StreamLoop π κ) : Option PushbufferPacket :=
  (s.decode l.position).toOption.map fun r => r.1

/-- The number of its words. -/
def wordsAt (s : PacketStream π κ) (l : StreamLoop π κ) : ℕ :=
  ((s.decode l.position).toOption.map fun r => r.2.1.toNat).getD 0

/-- The number of its methods. -/
def methodsAt (s : PacketStream π κ) (l : StreamLoop π κ) : ℕ :=
  ((packetAt s l).map fun pkt => if pkt.opcode = .jump then 0 else pkt.count.toNat).getD 0

/-- The target it jumps to. -/
def targetAt (s : PacketStream π κ) (l : StreamLoop π κ) : Option κ :=
  match s.decode l.position with
  | .error _ => none
  | .ok (pkt, _, after) =>
    if pkt.opcode = .jump then (s.jump pkt.jumpTarget after).toOption.map fun r => r.1 else none

/-- The processor after an iteration. -/
def processorAfter : Iteration (StreamLoop π κ) CallResult → PushbufferProcessor
  | .done r => r.2
  | .again l => l.processor

/-- The packets a stream gives from one position to another, whatever they do. -/
inductive Gives (s : PacketStream π κ) : π → List PushbufferPacket → π → Prop
  | nil (x : π) : Gives s x [] x
  | method {x after y : π} {pkt : PushbufferPacket} {words : U32} {pkts : List PushbufferPacket}
      (hmore : s.more x = true) (hdecode : s.decode x = .ok (pkt, words, after))
      (hkind : pkt.opcode ≠ .jump) (hrest : Gives s after pkts y) : Gives s x (pkt :: pkts) y
  | jump {x after x' y : π} {key : κ} {pkt : PushbufferPacket} {words : U32}
      {pkts : List PushbufferPacket} (hmore : s.more x = true)
      (hdecode : s.decode x = .ok (pkt, words, after)) (hkind : pkt.opcode = .jump)
      (hjump : s.jump pkt.jumpTarget after = .ok (key, x')) (hrest : Gives s x' pkts y) :
      Gives s x (pkt :: pkts) y

section

variable (fp : FloatUnit) (s : PacketStream π κ) (budgets : PushbufferBudgets)

/-- The iterations from one head to another. -/
abbrev Iterates (heads : List (StreamLoop π κ)) (l t : StreamLoop π κ) : Prop :=
  Goes (streamIteration fp s budgets) heads l t

/-- An iteration starts a packet if it counts one. -/
def StartsPacket (l : StreamLoop π κ) : Prop :=
  (processorAfter (streamIteration fp s budgets l)).stats.packetsProcessed ≠
    l.processor.stats.packetsProcessed

/-- A statistic is below its budget, each of the six. -/
structure BelowBudgets (stats : PushbufferStats) (b : PushbufferBudgets) : Prop where
  words : stats.wordsProcessed < b.maxWords
  packets : stats.packetsProcessed < b.maxPackets
  methods : stats.methodsExecuted < b.maxMethods
  jumps : stats.jumpsTaken < b.maxJumps
  vertices : stats.verticesProcessed < b.maxVertices
  triangles : stats.trianglesRasterized < b.maxTriangles

/-- The words up to a head: those counted before the call, and those of the packets passed. -/
def wordsSoFar (l : StreamLoop π κ) (heads : List (StreamLoop π κ)) : ℕ :=
  heads.foldr (fun t n => wordsAt s t + n) l.processor.stats.wordsProcessed.toNat

/-- The methods up to a head. -/
def methodsSoFar (l : StreamLoop π κ) (heads : List (StreamLoop π κ)) : ℕ :=
  heads.foldr (fun t n => methodsAt s t + n) l.processor.stats.methodsExecuted.toNat

/-- A run follows no jump target twice, starts packets below the budgets only, and exceeds the
budgets of words and methods by less than one packet. -/
structure RunBounded (l : StreamLoop π κ) : Prop where
  targets : ∀ heads t, Iterates fp s budgets heads l t → (heads.filterMap (targetAt s)).Nodup
  starts : ∀ heads t, Iterates fp s budgets heads l t → StartsPacket fp s budgets t →
    BelowBudgets t.processor.stats budgets
  words : ∀ heads t, Iterates fp s budgets heads l t → StartsPacket fp s budgets t →
    wordsSoFar s l heads + wordsAt s t < budgets.maxWords.toNat + wordsAt s t
  methods : ∀ heads t, Iterates fp s budgets heads l t → StartsPacket fp s budgets t →
    methodsSoFar s l heads + methodsAt s t < budgets.maxMethods.toNat + methodsAt s t

/-- No packet that another one follows carries the 32-bit count of words or methods beyond its
range. -/
def CountsFit (l : StreamLoop π κ) : Prop :=
  ∀ heads u t, Iterates fp s budgets heads l u → streamIteration fp s budgets u = .again t →
    StartsPacket fp s budgets t →
    u.processor.stats.wordsProcessed.toNat + wordsAt s u < 0x100000000 ∧
      u.processor.stats.methodsExecuted.toNat + methodsAt s u < 0x100000000

/-- The packets a call passes and the status it returns. -/
def EndsWith (l : StreamLoop π κ) (pkts : List PushbufferPacket) (status : Result Unit)
    (p' : PushbufferProcessor) : Prop :=
  ∃ heads t r, Iterates fp s budgets heads l t ∧ streamIteration fp s budgets t = .done (r, p') ∧
    pkts = heads.filterMap (packetAt s) ∧ status = r.map fun _ => ()

/-- At each packet that two calls come to, the budgets are used up for both or for neither. -/
def BudgetsAgree (l l' : StreamLoop π κ) : Prop :=
  ∀ heads t heads' t', Iterates fp s budgets heads l t → Iterates fp s budgets heads' l' t' →
    heads.length = heads'.length → s.more t.position = true →
    checkBudgetExhausted t.processor.stats budgets =
      checkBudgetExhausted t'.processor.stats budgets

end

/-! ### Calls -/

/-- A call of the processor. -/
inductive PushbufferCall where
  | executeBuffer (words : List U32) (budgets : PushbufferBudgets)
  | executeFromMemory (startAddr : GuestAddr) (read : GuestAddr → Result U32) (maxWords : U32)
      (budgets : PushbufferBudgets)

/-- The first heads of the two loops. -/
def bufferStart (p : PushbufferProcessor) : StreamLoop ℕ ℕ := ⟨p, 0, []⟩

/-- The first head of the loop on memory. -/
def memoryStart (p : PushbufferProcessor) (startAddr : GuestAddr) (read : GuestAddr → Result U32)
    (maxWords : U32) : StreamLoop MemoryPosition GuestAddr :=
  ⟨{ p with memoryReader := some read }, ⟨startAddr, maxWords⟩, []⟩

namespace PushbufferCall

variable (fp : FloatUnit)

/-- What a call returns, if it ends. -/
def run (p : PushbufferProcessor) : PushbufferCall → Option CallResult
  | .executeBuffer words budgets => Gpu.executeBuffer fp p words budgets
  | .executeFromMemory startAddr read maxWords budgets =>
    Gpu.executeFromMemory fp p startAddr read maxWords budgets

/-- The processor after a call. -/
def next (p : PushbufferProcessor) (c : PushbufferCall) : PushbufferProcessor :=
  (c.run fp p).elim p fun r => r.2

/-- The processor at the first head of a call, which reads memory where the call says. -/
def start (p : PushbufferProcessor) : PushbufferCall → PushbufferProcessor
  | .executeBuffer _ _ => p
  | .executeFromMemory _ read _ _ => { p with memoryReader := some read }

/-- `RunBounded`, of the run of a call. -/
def Bounded (p : PushbufferProcessor) : PushbufferCall → Prop
  | .executeBuffer words budgets => RunBounded fp (bufferStream words) budgets (bufferStart p)
  | .executeFromMemory startAddr read maxWords budgets =>
    RunBounded fp (memoryStream read) budgets (memoryStart p startAddr read maxWords)

/-- `CountsFit`, of the run of a call. -/
def CountsFit (p : PushbufferProcessor) : PushbufferCall → Prop
  | .executeBuffer words budgets =>
    Interface.CountsFit fp (bufferStream words) budgets (bufferStart p)
  | .executeFromMemory startAddr read maxWords budgets =>
    Interface.CountsFit fp (memoryStream read) budgets (memoryStart p startAddr read maxWords)

/-- `EndsWith`, of the run of a call. -/
def EndsWith (p : PushbufferProcessor) (pkts : List PushbufferPacket) (status : Result Unit)
    (p' : PushbufferProcessor) : PushbufferCall → Prop
  | .executeBuffer words budgets =>
    Interface.EndsWith fp (bufferStream words) budgets (bufferStart p) pkts status p'
  | .executeFromMemory startAddr read maxWords budgets =>
    Interface.EndsWith fp (memoryStream read) budgets (memoryStart p startAddr read maxWords) pkts
      status p'

/-- `BudgetsAgree`, of the runs of a call from two processors. -/
def BudgetsAgree (p q : PushbufferProcessor) : PushbufferCall → Prop
  | .executeBuffer words budgets =>
    Interface.BudgetsAgree fp (bufferStream words) budgets (bufferStart p) (bufferStart q)
  | .executeFromMemory startAddr read maxWords budgets =>
    Interface.BudgetsAgree fp (memoryStream read) budgets (memoryStart p startAddr read maxWords)
      (memoryStart q startAddr read maxWords)

/-- A call from two processors returns the same status, applies the same packets and leaves the
same state of the GPU. -/
def SameFrom (p q : PushbufferProcessor) (c : PushbufferCall) : Prop :=
  ∀ pkts status p' pkts' status' q', c.EndsWith fp p pkts status p' →
    c.EndsWith fp q pkts' status' q' →
    status = status' ∧ pkts = pkts' ∧ gpuState p' = gpuState q'

end PushbufferCall

/-! ### Words in memory -/

/-- No packet that a list of words gives is a jump. -/
def JumpFree (words : List U32) : Prop :=
  ∀ pkts offset pkt after, Gives (bufferStream words) 0 pkts offset →
    decodeFromSpan words offset = .ok (pkt, after) → pkt.opcode ≠ .jump

/-- A list of words is stored at an address that is a multiple of four, in a range that does not
wrap. -/
structure StoredAt (read : GuestAddr → Result U32) (addr : GuestAddr) (words : List U32) : Prop where
  aligned : addr.toNat % 4 = 0
  noWrap : addr.toNat + 4 * words.length ≤ 0x100000000
  stored : ∀ i (h : i < words.length), read (addr + BitVec.ofNat 32 (4 * i)) = .ok words[i]

end PushbufferRuns

/-!
## What packets and draws may touch

A packet that is accepted should be carried out, and nothing that is drawn should be outside of
what it is drawn to.
-/

section GpuAccesses

/-- The methods that the processor carries out by itself. -/
def handledMethods : List U32 :=
  [kMethodSetObject, kMethodSurfaceWidth, kMethodSurfaceHeight, kMethodSurfacePitch,
    kMethodClearColor, kMethodClearSurface, kMethodRectX, kMethodRectY, kMethodRectW, kMethodRectH,
    kMethodRectColor, kMethodRectDraw, kMethodFlip]

/-- A method can be carried out from a processor: the engine has it, if the processor does not,
and a rectangle that is drawn is inside of the surface. -/
structure Performed (fp : FloatUnit) (p : PushbufferProcessor) (method val : U32) : Prop where
  recognised : method ∉ handledMethods →
    (apply3dMethod fp method val p.memoryReader p.engine).1 = true
  drawn : method = kMethodRectDraw → ∃ s, p.fillRect = .ok s

/-- The methods of a packet, each of which can be carried out after those before it. -/
def AllPerformed (fp : FloatUnit) (p : PushbufferProcessor) (pkt : PushbufferPacket) : Prop :=
  ∀ before m after, pkt.methods = before ++ m :: after →
    Performed fp (before.foldl (fun p m => p.applyMethod fp pkt.subchannel m) p) m.1 m.2

/-- A surface has the bytes of its rows, within the limits of the hardware. -/
structure SoundSurface (s : GpuSurface) : Prop where
  width : s.width ≤ kMaxSurfaceWidth
  height : s.height ≤ kMaxSurfaceHeight
  rows : 4 * s.width.toNat ≤ s.pitch.toNat
  limit : s.pitch.toNat * s.height.toNat ≤ kMaxSurfaceBytes.toNat
  bytes : s.pixels.length = s.pitch.toNat * s.height.toNat

/-- The surfaces and the depth buffer have the sizes they are used with, and only the known classes
are bound. -/
structure SoundGpu (p : PushbufferProcessor) : Prop where
  front : SoundSurface p.device.frontSurface
  back : SoundSurface p.device.backSurface
  depth : p.ctx3d.depthBuffer.length = p.ctx3d.depthWidth.toNat * p.ctx3d.depthHeight.toNat
  classes : ∀ i, p.subchannelClasses i = 0 ∨ p.subchannelClasses i ∈ objectClasses

/-- The four bytes of a pixel are bytes of the surface. -/
def StoredInside (s : GpuSurface) (x y : U32) : Prop :=
  (s.pixelOffset x y).toNat + 4 ≤ s.pixels.length

/-- Nothing that is drawn to the back surface is outside of it or of the depth buffer, which has
been made as large as the surface. -/
structure DrawsInside (fp : FloatUnit) (p : PushbufferProcessor) : Prop where
  clears : ∀ row ∈ GpuSurface.indices 0 p.device.backSurface.height,
    ∀ col ∈ GpuSurface.indices 0 p.device.backSurface.width,
      StoredInside p.device.backSurface col row
  fills : ∀ x y w h c s, p.device.backSurface.fillRect x y w h c = .ok s →
    ∀ row ∈ GpuSurface.indices y (y + h), ∀ col ∈ GpuSurface.indices x (x + w),
      StoredInside p.device.backSurface col row
  pixels : ∀ tri state t,
    setupTriangle fp tri state p.device.backSurface.width p.device.backSurface.height = some t →
      ∀ px ∈ t.pixels, 0 ≤ px.1 ∧ 0 ≤ px.2 ∧
        StoredInside p.device.backSurface (BitVec.ofInt 32 px.1) (BitVec.ofInt 32 px.2) ∧
        depthIndex p.device.backSurface px.1 px.2 <
          (p.ctx3d.ensureDepthBuffer p.device.backSurface.width
            p.device.backSurface.height).depthBuffer.length

end GpuAccesses

/-!
## Runs with pushbuffers

Host calls and instructions of the worker in any order.  Every event that was registered for a
pushbuffer and has fired should have executed it, once, and no thread should ask for a lock it
has.
-/

section Pushbuffers

variable {ω : Type}

/-- A session with its scheduler. -/
abbrev PushbufferHost (ω : Type) := Host SessionCallback (PushbufferWorld ω)

/-- A host call or an instruction. -/
inductive PushbufferEvent (ω : Type) where
  | schedulePushbuffer (addr : GuestAddr) (wordCount : U32) (delay : Cycle)
  | executePushbuffer (addr : GuestAddr) (wordCount : U32)
  | hostCycles (delta : Cycle)
  | instruction (work : ω → ω) (cycles : Cycle)

/-- What the event does. -/
def PushbufferEvent.program (g : GpuParts ω) : PushbufferEvent ω → SessionProgram ω Unit
  | .schedulePushbuffer addr wordCount delay => do
    let _ ← Machine.schedulePushbuffer g addr wordCount delay
    pure ()
  | .executePushbuffer addr wordCount => do
    let _ ← Machine.executePushbuffer g addr wordCount false
    pure ()
  | .hostCycles delta => Machine.hostCycles delta
  | .instruction work cycles => Machine.instruction work cycles

/-- The callback executes a pushbuffer. -/
def pushbufferOf (ev : Event SessionCallback) : Option (GuestAddr × U32) :=
  match ev.callback with
  | some (.pushbuffer addr wordCount) => some (addr, wordCount)
  | _ => none

/-- Turns for a run of the scheduler: each event takes one, and that of a pushbuffer another
one for the flip it may schedule. -/
def enoughTurns (queue : List (Event SessionCallback)) : ℕ :=
  queue.length + queue.countP (fun ev => (pushbufferOf ev).isSome) + 1

/-- The session after an event. -/
def PushbufferEvent.next (g : GpuParts ω) (h : PushbufferHost ω) (e : PushbufferEvent ω) :
    PushbufferHost ω :=
  stateAfter (((e.program g).run
    (Host.answer (Host.runLoop (behaveSession g) (enoughTurns h.scheduler.eventQueue) 0))).run h)

/-- The pushbuffers whose events have fired, the newest first. -/
def pushbuffersFired (h : PushbufferHost ω) : List (GuestAddr × U32) :=
  (firedEvents h).filterMap pushbufferOf

/-- Every pushbuffer whose event has fired was executed, once and in this order, and no thread
has asked for a lock it had. -/
structure PushbuffersRun (h : PushbufferHost ω) : Prop where
  executed : h.world.executed = pushbuffersFired h
  relocked : h.world.relocked = false

/-- A pushbuffer is among the events a run up to a cycle fires. -/
def firesPushbuffer (targetCycle : Cycle) (maxEvents : U64) :
    U64 → List (Event SessionCallback) → Finset EventId → Bool
  | _, [], _ => false
  | eventsFired, top :: rest, canceled =>
    if top.id ∈ canceled then
      firesPushbuffer targetCycle maxEvents eventsFired rest (canceled.erase top.id)
    else if top.targetCycle > targetCycle || eventsFired ≥ maxEvents then
      false
    else
      (pushbufferOf top).isSome ||
        firesPushbuffer targetCycle maxEvents (eventsFired + 1) rest canceled

/-- A pushbuffer comes due while an instruction moves the clock. -/
def pushbufferDue (h : PushbufferHost ω) : PushbufferEvent ω → Bool
  | .instruction _ cycles =>
    cycles > 0 && ((checkedAdd h.scheduler.currentCycle cycles).map fun targetCycle =>
      firesPushbuffer targetCycle kAllEvents 0 h.scheduler.eventQueue
        h.scheduler.canceledIds).getD false
  | _ => false

/-- The event does not bring a pushbuffer to the worker. -/
def NoPushbufferDue (h : PushbufferHost ω) (e : PushbufferEvent ω) : Prop :=
  pushbufferDue h e = false

end Pushbuffers

/-!
## What the methods of the 3D engine are to store

The methods of a texture stage and of a vertex attribute, by the register they name.  Writes to
different registers of a stage do not depend on their order, and a method of an attribute changes
nothing but that attribute.
-/

section EngineRegisters

/-! ### Texture stages -/

/-- The registers of a texture stage. -/
inductive TextureMethod where
  | offset | format | address | control | filter | size
  deriving DecidableEq, Repr

namespace TextureMethod

/-- The method of the register in the first stage. -/
def base : TextureMethod → U32
  | .offset => kMethod3dTextureOffsetBase
  | .format => kMethod3dTextureFormatBase
  | .address => kMethod3dTextureAddressBase
  | .control => kMethod3dTextureControlBase
  | .filter => kMethod3dTextureFilterBase
  | .size => kMethod3dTextureSizeBase

/-- The method of the register in a stage. -/
def method (m : TextureMethod) (i : Fin 4) : U32 := m.base + 0x40 * BitVec.ofNat 32 i

end TextureMethod

/-- A register and the value written to it. -/
abbrev TextureWrite := TextureMethod × U32

/-- The stage after the writes, from the first to the last. -/
def stageAfter (i : Fin 4) (writes : List TextureWrite) (ctx : Nv2a3dContext) : TextureStage :=
  (writes.foldl (fun ctx w => applyTextureStageMethod (w.1.method i) w.2 ctx) ctx).textureStages i

/-- The writes leave the same stage in every order, and the pitch of the format and the width they
leave. -/
structure OrderFree (i : Fin 4) (writes : List TextureWrite) (ctx : Nv2a3dContext) : Prop where
  sameStage : ∀ writes', writes'.Perm writes → stageAfter i writes' ctx = stageAfter i writes ctx
  pitch : .format ∈ writes.map Prod.fst → .size ∈ writes.map Prod.fst →
    let stage := stageAfter i writes ctx
    stage.pitch = stage.width * stage.format.bytesPerPixel

/-- A format and a size that are both written: the width is zero, or the pixels of the format are
as long as those of the format before. -/
def PitchSettled (i : Fin 4) (writes : List TextureWrite) (ctx : Nv2a3dContext) : Prop :=
  ∀ format size, (.format, format) ∈ writes → (.size, size) ∈ writes → size &&& 0xFFFF = 0 ∨
    (ctx.textureStages i).format.bytesPerPixel =
      TextureFormat.bytesPerPixel ((format >>> 8) &&& 0xFF)

/-! ### Vertex attributes -/

/-- The methods of an attribute. -/
def offsetMethod (i : Fin 16) : U32 := kMethod3dVertexOffsetBase + 4 * BitVec.ofNat 32 i

/-- The method of the format of an attribute. -/
def formatMethod (i : Fin 16) : U32 := kMethod3dVertexFormatBase + 4 * BitVec.ofNat 32 i

/-- Nothing but an attribute changes. -/
structure OnlyAttribute (i : Fin 16) (e e' : Engine) : Prop where
  ctx : e'.ctx = { e.ctx with vertexAttributes := e'.ctx.vertexAttributes }
  others : ∀ j ≠ i, e'.ctx.vertexAttributes j = e.ctx.vertexAttributes j
  surface : e'.surface = e.surface
  stats : e'.stats = e.stats

section

variable (fp : FloatUnit) (reader : ReadWordFn) (val : U32) (i : Fin 16) (e : Engine)

/-- The engine after the offset method of an attribute. -/
def afterOffset : Engine :=
  (apply3dMethod fp (offsetMethod i) val reader e).2

/-- The engine after the format method of an attribute. -/
def afterFormat : Engine :=
  (apply3dMethod fp (formatMethod i) val reader e).2

/-- The offset method changes only the address and the enable of the attribute it names. -/
structure ChangesOffset : Prop extends OnlyAttribute i e (afterOffset fp reader val i e) where
  stride : ((afterOffset fp reader val i e).ctx.vertexAttributes i).stride =
    (e.ctx.vertexAttributes i).stride
  format : ((afterOffset fp reader val i e).ctx.vertexAttributes i).format =
    (e.ctx.vertexAttributes i).format

/-- The format method changes only the stride and the format of the attribute it names. -/
structure ChangesFormat : Prop extends OnlyAttribute i e (afterFormat fp reader val i e) where
  address : ((afterFormat fp reader val i e).ctx.vertexAttributes i).address =
    (e.ctx.vertexAttributes i).address
  enabled : ((afterFormat fp reader val i e).ctx.vertexAttributes i).enabled =
    (e.ctx.vertexAttributes i).enabled

end

end EngineRegisters

end Xblob.Interface
