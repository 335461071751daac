import Xblob.Analysis.PushbufferStates
import Xblob.Computation.Stores

/-!
# What packets and draws may touch

The validation of a packet follows the rectangle through the packet and leaves the rest to the
numbers of the methods, so what it accepts is carried out.  The sizes of the surfaces and of the
depth buffer are kept by everything that draws, and the box of a triangle is cut to the surface.
-/

set_option autoImplicit false

namespace Xblob.Analysis

open Xblob.Computation Xblob.Gpu Xblob.Interface

variable {fp : FloatUnit} {p p' : PushbufferProcessor} {pkt : PushbufferPacket}

/-! ## Accepted methods -/

/-- The engine has a method of this number. -/
def isEngineMethod (method : U32) : Bool :=
  acceptedMethods.contains method || isDrawMethod method ||
    inBank method kMethod3dVertexOffsetBase 64 || inBank method kMethod3dVertexFormatBase 64 ||
    inBank method kMethod3dTextureOffsetBase 0x100

/-- What the validation has found out about a method. -/
structure Accepted (p : PushbufferProcessor) (temp : StagedRect) (m : U32 × U32) : Prop where
  object : m.1 = kMethodSetObject → m.2 ∈ objectClasses
  drawn : m.1 = kMethodRectDraw →
    temp.x.toNat + temp.w.toNat ≤ p.device.backSurface.width.toNat ∧
      temp.y.toNat + temp.h.toNat ≤ p.device.backSurface.height.toNat
  engine : m.1 ∉ handledMethods → isEngineMethod m.1 = true

/-- A method that is accepted is one of the engine. -/
theorem validate3dMethod_ok {method val count subchannel classId : U32} {reader : ReadWordFn}
    {ctx ctx' : Nv2a3dContext}
    (h : (validate3dMethod method val count subchannel classId reader).run ctx = .ok () ctx') :
    isEngineMethod method = true := by
  unfold validate3dMethod at h
  unfold isEngineMethod
  by_cases haccepted : acceptedMethods.contains method = true
  · rw [haccepted]
    rfl
  by_cases hdraw : isDrawMethod method = true
  · rw [hdraw]
    simp
  rw [if_neg haccepted, if_neg hdraw] at h
  split at h
  next hbank =>
    simp only [Bool.or_assoc] at hbank ⊢
    rw [hbank]
    simp
  · cases h

/-- The methods that leave the rectangle as it is and are accepted by their number. -/
theorem staged_accepted2d {temp : StagedRect} {method val : U32}
    (h : accepted2dMethods.contains method = true) :
    Accepted p temp (method, val) ∧ staged temp (method, val) = temp := by
  have hcases : method ≠ kMethodSetObject ∧ method ≠ kMethodRectDraw ∧ method ∈ handledMethods ∧
      method ≠ kMethodRectX ∧ method ≠ kMethodRectY ∧ method ≠ kMethodRectW ∧
      method ≠ kMethodRectH := by
    have hmem : method ∈ accepted2dMethods := List.contains_iff_mem.1 h
    simp only [accepted2dMethods, List.mem_cons, List.not_mem_nil, or_false] at hmem
    obtain rfl | rfl | rfl | rfl | rfl | rfl | rfl := hmem <;> decide
  obtain ⟨hobject, hdraw, hhandled, hx, hy, hw, hh⟩ := hcases
  refine ⟨⟨fun heq => absurd heq hobject, fun heq => absurd heq hdraw,
    fun hengine => absurd hhandled hengine⟩, ?_⟩
  simp only [staged, hx, hy, hw, hh, if_false]

/-- A method that is accepted. -/
theorem validateMethod_ok {temp temp' : StagedRect} {m : U32 × U32}
    (h : (validateMethod pkt temp m.1 m.2).run p = .ok temp' p') :
    Accepted p temp m ∧ temp' = staged temp m := by
  obtain ⟨method, val⟩ := m
  unfold validateMethod at h
  rw [EStateM.run_bind] at h
  simp only [EStateM.run_get] at h
  by_cases hobject : method = kMethodSetObject
  · subst hobject
    rw [if_pos rfl] at h
    by_cases hclass : objectClasses.contains val = true
    · rw [if_pos hclass] at h
      cases h
      refine ⟨⟨fun _ => List.contains_iff_mem.1 hclass, fun heq => ?_, fun hengine => ?_⟩, rfl⟩
      · exact absurd (show kMethodSetObject = kMethodRectDraw from heq) (by decide)
      · exact absurd (show kMethodSetObject ∈ handledMethods by decide) hengine
    · rw [if_neg hclass] at h
      cases h
  rw [if_neg hobject] at h
  by_cases h2d : accepted2dMethods.contains method = true
  · rw [if_pos h2d] at h
    cases h
    obtain ⟨haccepted, hstaged⟩ := staged_accepted2d h2d
    exact ⟨haccepted, hstaged.symm⟩
  rw [if_neg h2d] at h
  have hside (hmethod : method ∈ [kMethodRectX, kMethodRectY, kMethodRectW, kMethodRectH]) :
      Accepted p temp (method, val) := by
    have hcases : method ≠ kMethodRectDraw ∧ method ∈ handledMethods := by
      simp only [List.mem_cons, List.not_mem_nil, or_false] at hmethod
      obtain rfl | rfl | rfl | rfl := hmethod <;> decide
    exact ⟨fun heq => absurd heq hobject, fun heq => absurd heq hcases.1,
      fun hengine => absurd hcases.2 hengine⟩
  by_cases hx : method = kMethodRectX
  · rw [if_pos hx] at h
    cases h
    exact ⟨hside (by simp [hx]), by rw [staged, if_pos hx]⟩
  rw [if_neg hx] at h
  by_cases hy : method = kMethodRectY
  · rw [if_pos hy] at h
    cases h
    exact ⟨hside (by simp [hy]), by rw [staged, if_neg hx, if_pos hy]⟩
  rw [if_neg hy] at h
  by_cases hw : method = kMethodRectW
  · rw [if_pos hw] at h
    cases h
    exact ⟨hside (by simp [hw]), by rw [staged, if_neg hx, if_neg hy, if_pos hw]⟩
  rw [if_neg hw] at h
  by_cases hh : method = kMethodRectH
  · rw [if_pos hh] at h
    cases h
    exact ⟨hside (by simp [hh]), by rw [staged, if_neg hx, if_neg hy, if_neg hw, if_pos hh]⟩
  rw [if_neg hh] at h
  have hstaged : staged temp (method, val) = temp := by
    simp only [staged, hx, hy, hw, hh, if_false]
  by_cases hdraw : method = kMethodRectDraw
  · rw [if_pos hdraw] at h
    split at h
    · cases h
    next hinside =>
      cases h
      refine ⟨⟨fun heq => absurd heq hobject, fun _ => by omega, fun hengine => ?_⟩, hstaged.symm⟩
      exact absurd (show method ∈ handledMethods by rw [hdraw]; decide) hengine
  · rw [if_neg hdraw] at h
    obtain ⟨_, q, hvalid, hpure⟩ := run_bind_ok h
    cases hpure
    refine ⟨⟨fun heq => absurd heq hobject, fun heq => absurd heq hdraw, fun _ => ?_⟩, hstaged.symm⟩
    rw [onContext, run_zoom] at hvalid
    split at hvalid
    next hrun => exact validate3dMethod_ok hrun
    · cases hvalid

/-- Methods that are accepted, each with the rectangle after those before it. -/
theorem validateMethods_ok {methods : List (U32 × U32)} {temp : StagedRect}
    (h : (validateMethods pkt methods temp).run p = .ok () p') :
    ∀ before m after, methods = before ++ m :: after → Accepted p (before.foldl staged temp) m := by
  induction methods generalizing temp p with
  | nil =>
    intro before m after heq
    simp at heq
  | cons first rest ih =>
    obtain ⟨temp', q, hfirst, hrest⟩ := run_bind_ok h
    obtain ⟨haccepted, rfl⟩ := validateMethod_ok hfirst
    intro before m after heq
    cases before with
    | nil =>
      cases heq
      exact haccepted
    | cons b before =>
      cases heq
      have hsame : gpuState q = gpuState p :=
        congrArg Prod.fst ((keeps_validateMethod pkt temp first.1 first.2 p).ok hfirst)
      have hsurface : q.device.backSurface = p.device.backSurface :=
        congrArg (fun p => p.device.backSurface) hsame
      obtain ⟨hobject, hdrawn, hengine⟩ := ih hrest before m after rfl
      rw [hsurface] at hdrawn
      exact ⟨hobject, hdrawn, hengine⟩

/-- Every method of a packet that is accepted is accepted in its place. -/
theorem validatePacket_ok (hkind : pkt.opcode ≠ .jump)
    (h : (validatePacket pkt).run p = .ok () p') :
    ∀ before m after, pkt.methods = before ++ m :: after →
      Accepted p (before.foldl staged p.rect) m := by
  unfold validatePacket at h
  rw [if_neg hkind] at h
  split at h
  · cases h
  split at h
  · cases h
  rw [EStateM.run_bind] at h
  exact validateMethods_ok h

/-! ## What a method keeps -/

/-- A method performed leaves the rectangle as staged. -/
theorem rect_performMethod (p : PushbufferProcessor) (subchannel : U32) (m : U32 × U32) :
    (p.performMethod fp subchannel m.1 m.2).rect = staged p.rect m := by
  have hother {c : U32} (hc : staged p.rect (c, m.2) = p.rect) (h : m.1 = c) :
      p.rect = staged p.rect m := by
    subst h
    exact hc.symm
  refine performMethod_induction (P := fun q => q.rect = staged p.rect m) p subchannel m
    (fun h => ?_) (fun q _ _ _ _ hrect => hrect) (hother rfl) (fun h _ _ => hother rfl h)
    (hother rfl) fun h => ?_
  · rw [← hother rfl h]
    unfold PushbufferProcessor.setSubchannelClass
    split <;> rfl
  · have hcases : m.1 ≠ kMethodRectX ∧ m.1 ≠ kMethodRectY ∧ m.1 ≠ kMethodRectW ∧
        m.1 ≠ kMethodRectH := by
      simp only [handledMethods, List.mem_cons, not_or] at h
      exact ⟨h.2.2.2.2.2.2.1, h.2.2.2.2.2.2.2.1, h.2.2.2.2.2.2.2.2.1, h.2.2.2.2.2.2.2.2.2.1⟩
    rw [staged, if_neg hcases.1, if_neg hcases.2.1, if_neg hcases.2.2.1, if_neg hcases.2.2.2]
    rfl

/-! ### Sizes -/

/-- What a store into a surface keeps. -/
def sizes (s : GpuSurface) : U32 × U32 × U32 × ℕ := (s.width, s.height, s.pitch, s.pixels.length)

/-- A pixel stored leaves the sizes of the surface. -/
theorem sizes_storePixel (s : GpuSurface) (x y : U32) (c : ColorRgba) :
    sizes (s.storePixel x y c) = sizes s := by
  simp [sizes, GpuSurface.storePixel]

/-- Rows stored leave the sizes of the surface. -/
theorem sizes_storeRows (s : GpuSurface) (x y xEnd yEnd : U32) (c : ColorRgba) :
    sizes (s.storeRows x y xEnd yEnd c) = sizes s :=
  foldl_unchanged (fun row _ s =>
    foldl_unchanged (fun col _ s => sizes_storePixel s col row c) s) s

/-- A pixel set leaves the sizes of the surface. -/
theorem sizes_setPixel (s : GpuSurface) (x y : U32) (c : ColorRgba) :
    sizes (s.setPixel x y c) = sizes s := by
  unfold GpuSurface.setPixel
  split
  · rfl
  · exact sizes_storePixel s x y c

/-- A rectangle that is filled is inside of the surface. -/
theorem fillRect_ok {s s' : GpuSurface} {x y w h : U32} {c : ColorRgba}
    (hfill : s.fillRect x y w h c = .ok s') :
    x + w ≤ s.width ∧ y + h ≤ s.height ∧ s' = s.storeRows x y (x + w) (y + h) c := by
  unfold GpuSurface.fillRect checkedAdd at hfill
  by_cases hx : x.toNat > (BitVec.allOnes 32).toNat - w.toNat
  · rw [if_pos hx] at hfill
    cases hfill
  rw [if_neg hx] at hfill
  by_cases hwidth : x + w > s.width
  · simp only [if_pos hwidth] at hfill
    cases hfill
  simp only [if_neg hwidth] at hfill
  by_cases hy : y.toNat > (BitVec.allOnes 32).toNat - h.toNat
  · rw [if_pos hy] at hfill
    cases hfill
  rw [if_neg hy] at hfill
  by_cases hheight : y + h > s.height
  · simp only [if_pos hheight] at hfill
    cases hfill
  simp only [if_neg hheight] at hfill
  cases hfill
  exact ⟨BitVec.not_lt.1 hwidth, BitVec.not_lt.1 hheight, rfl⟩

/-- A rectangle filled leaves the sizes of the surface. -/
theorem sizes_fillRect {s s' : GpuSurface} {x y w h : U32} {c : ColorRgba}
    (hfill : s.fillRect x y w h c = .ok s') : sizes s' = sizes s := by
  rw [(fillRect_ok hfill).2.2]
  exact sizes_storeRows ..

/-- What is kept of a target while a triangle is drawn to it. -/
def targetSizes (t : RasterTarget) : (U32 × U32 × U32 × ℕ) × ℕ :=
  (sizes t.surface, t.depthBuffer.length)

/-- A fragment stored leaves the sizes of the target. -/
theorem targetSizes_storeFragment (t : TriangleSetup) (state : RasterizerState) (x y : ℤ)
    (w : PixelWeights) (frag : ColorRgba) (target : RasterTarget) :
    targetSizes (storeFragment fp t state x y w frag target) = targetSizes target := by
  cases hpixel : target.surface.getPixel (BitVec.ofInt 32 x) (BitVec.ofInt 32 y) with
  | error e => simp only [storeFragment, hpixel]
  | ok curPx =>
    simp only [storeFragment, hpixel]
    refine Prod.ext (sizes_setPixel ..) ?_
    dsimp only [targetSizes]
    split
    · exact List.length_set
    · rfl

/-- A pixel rasterized leaves the sizes of the target. -/
theorem keeps_rasterizePixel (t : TriangleSetup) (state : RasterizerState) (reader : ReadWordFn)
    (px : ℤ × ℤ) (target : RasterTarget) :
    Keeps targetSizes (rasterizePixel fp t state reader px) target := by
  unfold rasterizePixel
  refine ((quiet_get target).keeps _).bind fun _ s _ => ?_
  split
  · rfl
  · refine ((quiet_ofExcept _ s).keeps _).bind fun frag s' _ => ?_
    exact targetSizes_storeFragment ..

/-- A triangle rasterized leaves the sizes of the target. -/
theorem keeps_rasterizeTriangle (tri : Triangle) (state : RasterizerState) (reader : ReadWordFn)
    (target : RasterTarget) :
    Keeps targetSizes (rasterizeTriangle fp tri state reader) target := by
  unfold rasterizeTriangle
  refine Keeps.bind (x := modify _) rfl fun _ s _ => ?_
  refine ((quiet_get s).keeps _).bind fun _ s' _ => ?_
  split
  · rfl
  · refine (keeps_forM _ (fun px _ s => keeps_rasterizePixel _ state reader px s) s').bind ?_
    exact fun _ _ _ => rfl

/-- What is kept of the target of a draw, once the depth buffer has the size of the surface. -/
def drawSizes (d : DrawTarget) : (U32 × U32 × U32 × ℕ) × ℕ × U32 × U32 :=
  (sizes d.surface, d.ctx.depthBuffer.length, d.ctx.depthWidth, d.ctx.depthHeight)

/-- A triangle drawn leaves the sizes of the target. -/
theorem keeps_drawTriangle (state : RasterizerState) (reader : ReadWordFn) (tri : Triangle)
    (d : DrawTarget) : Keeps drawSizes (drawTriangle fp state reader tri) d := by
  refine (keeps_rasterizeTriangle tri state reader d.rasterTarget).zoom fun t ht => ?_
  simp only [targetSizes, DrawTarget.rasterTarget, Prod.mk.injEq] at ht
  simp only [drawSizes, DrawTarget.setRasterTarget, ht.1, ht.2]

/-- The depth buffer has the size that is noted with it. -/
def DepthFits (ctx : Nv2a3dContext) : Prop :=
  ctx.depthBuffer.length = ctx.depthWidth.toNat * ctx.depthHeight.toNat

/-- The depth buffer fits after it was ensured. -/
theorem depthFits_ensureDepthBuffer {ctx : Nv2a3dContext} (h : DepthFits ctx) (width height : U32) :
    DepthFits (ctx.ensureDepthBuffer width height) := by
  unfold Nv2a3dContext.ensureDepthBuffer
  split
  · exact h
  split
  · exact List.length_replicate
  · exact h

/-- Before a draw the depth buffer is made as large as the surface. -/
theorem length_ensureDepthBuffer {ctx : Nv2a3dContext} (h : DepthFits ctx) {width height : U32}
    (hwidth : width ≠ 0) (hheight : height ≠ 0) :
    (ctx.ensureDepthBuffer width height).depthBuffer.length = width.toNat * height.toNat := by
  unfold Nv2a3dContext.ensureDepthBuffer
  rw [if_neg (not_or.2 ⟨hwidth, hheight⟩)]
  split
  · exact List.length_replicate
  next hsame =>
    obtain ⟨hw, hh, -⟩ := not_or.1 hsame |>.imp_right not_or.1
    rw [not_ne_iff.1 hw, not_ne_iff.1 hh]
    exact h

/-- Triangles keep the sizes of what they are drawn to. -/
theorem keeps_drawTriangles (state : RasterizerState) (reader : ReadWordFn)
    (triangles : List Triangle) (d : DrawTarget) :
    Keeps drawSizes (triangles.forM fun tri => do
      let _ ← drawTriangle fp state reader tri) d :=
  keeps_forM triangles (fun tri _ d => (keeps_drawTriangle state reader tri d).bind
    fun _ d _ => (quiet_pure () d).keeps drawSizes) d

/-- A draw leaves the sizes of the surface. -/
theorem keeps_draw (start count : U32) (indexed : Bool) (reader : ReadWordFn) (d : DrawTarget) :
    Keeps (fun d => sizes d.surface) (draw fp start count indexed reader) d := by
  unfold draw
  refine Keeps.bind (x := modify _) rfl fun _ d _ => ?_
  refine ((quiet_get d).keeps _).bind fun _ d _ => ?_
  refine ((quiet_ofExcept _ d).keeps _).bind fun triangles d _ => ?_
  refine Keeps.bind ?_ fun _ d _ => (quiet_pure _ d).keeps _
  exact congrArg Prod.fst (keeps_drawTriangles _ reader triangles d)

/-- A draw leaves a depth buffer that fits. -/
theorem maintains_draw (start count : U32) (indexed : Bool) (reader : ReadWordFn)
    (d : DrawTarget) :
    Maintains (fun d => DepthFits d.ctx) (draw fp start count indexed reader) d := by
  unfold draw
  refine Maintains.bind (x := modify _) (fun h => depthFits_ensureDepthBuffer h _ _) fun _ d _ => ?_
  refine ((quiet_get d).maintains _).bind fun _ d _ => ?_
  refine ((quiet_ofExcept _ d).maintains _).bind fun triangles d _ => ?_
  refine Maintains.bind ?_ fun _ d _ => (quiet_pure _ d).maintains _
  exact (keeps_drawTriangles _ reader triangles d).maintains
    fun c => c.2.1 = c.2.2.1.toNat * c.2.2.2.toNat

/-- The parts of a context that the depth buffer is. -/
def depthOf (ctx : Nv2a3dContext) : List F32 × U32 × U32 :=
  (ctx.depthBuffer, ctx.depthWidth, ctx.depthHeight)

/-- The depth buffer fits where it is the same. -/
theorem DepthFits.congr {ctx ctx' : Nv2a3dContext} (h : DepthFits ctx)
    (hsame : depthOf ctx' = depthOf ctx) : DepthFits ctx' := by
  simp only [depthOf, Prod.mk.injEq] at hsame
  unfold DepthFits
  rw [hsame.1, hsame.2.1, hsame.2.2]
  exact h

/-- A register of the engine leaves the depth buffer. -/
theorem depthOf_register {method : U32} {store : U32 → Nv2a3dContext → Nv2a3dContext}
    (h : registerMethods.lookup method = some store) (val : U32) (ctx : Nv2a3dContext) :
    depthOf (store val ctx) = depthOf ctx := by
  have hall : ∀ entry ∈ registerMethods, depthOf (entry.2 val ctx) = depthOf ctx := by
    simp only [registerMethods, List.forall_mem_cons, List.not_mem_nil, false_imp_iff,
      implies_true, and_true]
    and_intros <;> rfl
  obtain ⟨front, rest, hentries, -⟩ := List.lookup_eq_some_iff.1 h
  exact hall (method, store) (hentries ▸ by simp)

/-- A vertex attribute leaves the depth buffer. -/
theorem depthOf_modifyVertexAttribute (ctx : Nv2a3dContext) (idx : U32)
    (f : VertexAttribute → VertexAttribute) :
    depthOf (ctx.modifyVertexAttribute idx f) = depthOf ctx := by
  unfold Nv2a3dContext.modifyVertexAttribute
  split <;> rfl

/-- A texture stage leaves the depth buffer. -/
theorem depthOf_modifyTextureStage (ctx : Nv2a3dContext) (idx : U32)
    (f : TextureStage → TextureStage) : depthOf (ctx.modifyTextureStage idx f) = depthOf ctx := by
  unfold Nv2a3dContext.modifyTextureStage
  split <;> rfl

/-- A method of the engine keeps the sizes of what it draws to. -/
theorem sizes_apply3dMethod (fp : FloatUnit) (method val : U32) (reader : ReadWordFn) (e : Engine) :
    sizes (apply3dMethod fp method val reader e).2.surface = sizes e.surface ∧
      (DepthFits e.ctx → DepthFits (apply3dMethod fp method val reader e).2.ctx) := by
  unfold apply3dMethod
  split
  · unfold Engine.clearSurface
    constructor
    · dsimp only
      split
      · exact sizes_storeRows ..
      · rfl
    · intro h
      dsimp only
      split
      · exact List.length_replicate.trans h
      · exact h
  split
  · exact ⟨keeps_draw _ _ _ reader ⟨e.ctx, e.surface⟩, maintains_draw _ _ _ reader ⟨e.ctx, e.surface⟩⟩
  cases hstore : registerMethods.lookup method with
  | some store => exact ⟨rfl, fun h => h.congr (depthOf_register hstore val e.ctx)⟩
  | none =>
    dsimp only
    split
    · exact ⟨rfl, fun h => h.congr (depthOf_modifyVertexAttribute ..)⟩
    split
    · exact ⟨rfl, fun h => h.congr (depthOf_modifyVertexAttribute ..)⟩
    split
    · exact ⟨rfl, fun h => h.congr (depthOf_modifyTextureStage ..)⟩
    · exact ⟨rfl, id⟩

/-- A method performed leaves the sizes of the back surface. -/
theorem sizes_performMethod (p : PushbufferProcessor) (subchannel : U32) (m : U32 × U32) :
    sizes (p.performMethod fp subchannel m.1 m.2).device.backSurface =
      sizes p.device.backSurface := by
  refine performMethod_induction
    (P := fun q => sizes q.device.backSurface = sizes p.device.backSurface) p subchannel m
    (fun _ => ?_) (fun q hdevice _ _ _ _ => by rw [hdevice]) (fun _ => sizes_storeRows ..)
    (fun _ s hfill => sizes_fillRect hfill) (fun _ => rfl)
    fun _ => (sizes_apply3dMethod fp m.1 m.2 p.memoryReader p.engine).1
  unfold PushbufferProcessor.setSubchannelClass
  split <;> rfl

/-! ## Accepted packets -/

/-- The numbers that the validation accepts are those of the engine. -/
theorem recognised_of_isEngineMethod {method : U32} (h : isEngineMethod method = true) (val : U32)
    (reader : ReadWordFn) (e : Engine) : (apply3dMethod fp method val reader e).1 = true := by
  have hregisters : ∀ m ∈ acceptedMethods,
      m = kMethod3dClearSurface ∨ (registerMethods.lookup m).isSome = true := by
    simp only [acceptedMethods, List.forall_mem_cons, List.not_mem_nil, false_imp_iff,
      implies_true, and_true]
    and_intros
    any_goals exact .inr rfl
    exact .inl trivial
  unfold apply3dMethod
  by_cases hclear : method = kMethod3dClearSurface
  · rw [if_pos hclear]
  rw [if_neg hclear]
  by_cases hdraw : isDrawMethod method = true
  · rw [if_pos hdraw]
  rw [if_neg hdraw]
  cases hstore : registerMethods.lookup method with
  | some store => rfl
  | none =>
    have haccepted : acceptedMethods.contains method = false := by
      rw [Bool.eq_false_iff]
      intro hcontains
      rcases hregisters method (List.contains_iff_mem.1 hcontains) with heq | hsome
      · exact hclear heq
      · rw [hstore] at hsome
        cases hsome
    rw [isEngineMethod, haccepted, Bool.eq_false_iff.2 hdraw] at h
    dsimp only
    split
    · rfl
    split
    · rfl
    split
    · rfl
    next h₁ h₂ h₃ =>
      rw [Bool.eq_false_iff.2 h₁, Bool.eq_false_iff.2 h₂, Bool.eq_false_iff.2 h₃] at h
      cases h

/-- The rectangle and the size of the surface after some methods of a packet. -/
theorem applyMethods_rect (fp : FloatUnit) (p : PushbufferProcessor) (subchannel : U32)
    (methods : List (U32 × U32)) :
    (methods.foldl (fun p m => p.applyMethod fp subchannel m) p).rect =
        methods.foldl staged p.rect ∧
      sizes (methods.foldl (fun p m => p.applyMethod fp subchannel m) p).device.backSurface =
        sizes p.device.backSurface := by
  induction methods generalizing p with
  | nil => exact ⟨rfl, rfl⟩
  | cons m rest ih =>
    obtain ⟨hrect, hsizes⟩ := ih (p.applyMethod fp subchannel m)
    refine ⟨hrect.trans ?_, hsizes.trans (sizes_performMethod p subchannel m)⟩
    exact congrArg (rest.foldl staged) (rect_performMethod p subchannel m)

/-- A rectangle inside of the surface is filled. -/
theorem fillRect_inside {s : GpuSurface} {x y w h : U32}
    (hwidth : x.toNat + w.toNat ≤ s.width.toNat) (hheight : y.toNat + h.toNat ≤ s.height.toNat)
    (c : ColorRgba) : s.fillRect x y w h c = .ok (s.storeRows x y (x + w) (y + h) c) := by
  have hadd {a b size : U32} (hinside : a.toNat + b.toNat ≤ size.toNat) :
      checkedAdd a b = some (a + b) ∧ ¬a + b > size := by
    have hsize := size.isLt
    refine ⟨?_, ?_⟩
    · rw [checkedAdd, if_neg]
      rw [BitVec.toNat_allOnes]
      omega
    · bv_omega
  obtain ⟨hx, hxEnd⟩ := hadd hwidth
  obtain ⟨hy, hyEnd⟩ := hadd hheight
  simp only [GpuSurface.fillRect, hx, if_neg hxEnd, hy, if_neg hyEnd]

/-- A method that is accepted is performed. -/
theorem performed_of_accepted {m : U32 × U32} (h : Accepted p p.rect m) :
    Performed fp p m.1 m.2 := by
  refine ⟨fun hengine => recognised_of_isEngineMethod (h.engine hengine) _ _ _, fun hdraw => ?_⟩
  obtain ⟨hwidth, hheight⟩ := h.drawn hdraw
  exact ⟨_, fillRect_inside hwidth hheight _⟩

/-- **Accepted packets are carried out**: every method of a packet that the validation accepts is
known to the processor or to the engine, and every rectangle that it draws is drawn; from the
processor before the validation, and from the one that the validation leaves. -/
theorem accepted_packets_performed (fp : FloatUnit) (hkind : pkt.opcode ≠ .jump)
    (h : (validatePacket pkt).run p = .ok () p') :
    AllPerformed fp p pkt ∧ AllPerformed fp p' pkt := by
  have hperformed : ∀ q : PushbufferProcessor, gpuState q = gpuState p → AllPerformed fp q pkt := by
    intro q hstate before m after hmethods
    have hq : q.rect = p.rect ∧ q.device.backSurface = p.device.backSurface :=
      ⟨congrArg (fun p => p.rect) hstate, congrArg (fun p => p.device.backSurface) hstate⟩
    obtain ⟨hrect, hsizes⟩ := applyMethods_rect fp q pkt.subchannel before
    obtain ⟨hobject, hdrawn, hengine⟩ := validatePacket_ok hkind h before m after hmethods
    refine performed_of_accepted ⟨hobject, fun hdraw => ?_, hengine⟩
    have hsame := hdrawn hdraw
    simp only [sizes, Prod.mk.injEq] at hsizes
    rw [hrect, hsizes.1, hsizes.2.1, hq.1, hq.2]
    exact hsame
  exact ⟨hperformed p rfl, hperformed p' (congrArg Prod.fst ((keeps_validatePacket pkt p).ok h))⟩

/-- A processor that draws to a small surface. -/
def smallProcessor : PushbufferProcessor :=
  (idleProcessor {}).setBackSurface { width := 8, height := 8 }

/-- A rectangle that is placed and drawn in one packet. -/
theorem accepted_packets_performed_rect :
    AllPerformed idleUnit smallProcessor
      { method := kMethodRectX, count := 6, parameters := [2, 2, 4, 6, 0xFFFFFFFF, 1] } :=
  (accepted_packets_performed idleUnit (by decide)
    (show (validatePacket _).run smallProcessor = .ok () smallProcessor from rfl)).1

/-! ## Reachable processors -/

/-- A surface is sound where its sizes are those of a sound one. -/
theorem soundSurface_congr {s s' : GpuSurface} (h : SoundSurface s) (hsame : sizes s' = sizes s) :
    SoundSurface s' := by
  simp only [sizes, Prod.mk.injEq] at hsame
  obtain ⟨hwidth, hheight, hpitch, hlength⟩ := hsame
  refine ⟨hwidth ▸ h.width, hheight ▸ h.height, ?_, ?_, ?_⟩
  · rw [hwidth, hpitch]
    exact h.rows
  · rw [hheight, hpitch]
    exact h.limit
  · rw [hlength, hpitch, hheight]
    exact h.bytes

/-- Whether a processor is sound depends on the state of the GPU. -/
theorem soundGpu_congr (h : SoundGpu p) (hsame : SameGpu p p') : SoundGpu p' := by
  obtain ⟨b, rfl⟩ := hsame.books
  exact ⟨h.front, h.back, h.depth, h.classes⟩

/-- A method performed leaves a sound GPU. -/
theorem soundGpu_performMethod (fp : FloatUnit) (h : SoundGpu p) (subchannel : U32) {m : U32 × U32}
    (hobject : m.1 = kMethodSetObject → m.2 ∈ objectClasses) :
    SoundGpu (p.performMethod fp subchannel m.1 m.2) := by
  refine performMethod_induction p subchannel m (fun hm => ?_) (fun q hdevice hctx _ hclasses _ => ?_)
    (fun _ => ?_) (fun _ s hfill => ?_) (fun _ => ?_) fun _ => ?_
  · unfold PushbufferProcessor.setSubchannelClass
    split
    next hsub =>
      refine ⟨h.front, h.back, h.depth, fun i => ?_⟩
      dsimp only
      by_cases hi : i = ⟨subchannel.toNat, hsub⟩
      · rw [hi, Function.update_self]
        exact .inr (hobject hm)
      · rw [Function.update_of_ne hi]
        exact h.classes i
    · exact h
  · refine ⟨?_, ?_, ?_, ?_⟩
    · rw [hdevice]
      exact h.front
    · rw [hdevice]
      exact h.back
    · rw [hctx]
      exact h.depth
    · rw [hclasses]
      exact h.classes
  · exact ⟨h.front, soundSurface_congr h.back (sizes_storeRows ..), h.depth, h.classes⟩
  · exact ⟨h.front, soundSurface_congr h.back (sizes_fillRect hfill), h.depth, h.classes⟩
  · exact ⟨soundSurface_congr h.back rfl, h.back, h.depth, h.classes⟩
  · obtain ⟨hsizes, hdepth⟩ := sizes_apply3dMethod fp m.1 m.2 p.memoryReader p.engine
    exact ⟨h.front, soundSurface_congr h.back hsizes, hdepth h.depth, h.classes⟩

/-- The methods of a packet leave a sound GPU. -/
theorem soundGpu_applyMethods (h : SoundGpu p) (subchannel : U32) {methods : List (U32 × U32)}
    (hobjects : ∀ m ∈ methods, m.1 = kMethodSetObject → m.2 ∈ objectClasses) :
    SoundGpu (methods.foldl (fun p m => p.applyMethod fp subchannel m) p) := by
  induction methods generalizing p with
  | nil => exact h
  | cons m rest ih =>
    rw [List.forall_mem_cons] at hobjects
    have hm := soundGpu_performMethod fp h subchannel hobjects.1
    exact ih ⟨hm.front, hm.back, hm.depth, hm.classes⟩ hobjects.2

/-- A packet leaves a sound GPU, refused or not. -/
theorem soundGpu_executePacket (h : SoundGpu p) (pkt : PushbufferPacket) :
    SoundGpu (stateAfter ((executePacket fp pkt).run p)) := by
  cases hrun : (executePacket fp pkt).run p with
  | error e p' => exact soundGpu_congr h (executePacket_error hrun).symm
  | ok _ p' =>
    obtain ⟨q, hvalid, hq, rfl⟩ := executePacket_ok hrun
    have hsound : SoundGpu q := soundGpu_congr h (congrArg Prod.fst hq).symm
    unfold PushbufferProcessor.applyPacket
    rw [stateAfter_ok]
    split
    · exact hsound
    next hkind =>
      refine soundGpu_applyMethods hsound pkt.subchannel fun m hm => ?_
      obtain ⟨before, after, hmethods⟩ := List.append_of_mem hm
      exact (validatePacket_ok hkind hvalid before m after hmethods).object

/-- A call leaves a sound GPU. -/
theorem soundGpu_next (h : SoundGpu p) (c : PushbufferCall) : SoundGpu (c.next fp p) := by
  obtain ⟨pkts, r, hrun, -, -, hgpu⟩ := call_executes_packets fp p c
  have hstart : SoundGpu (c.start p) := by
    cases c with
    | executeBuffer => exact h
    | executeFromMemory => exact ⟨h.front, h.back, h.depth, h.classes⟩
  have hexecuted : SoundGpu (executed fp (c.start p) pkts) :=
    foldl_keeps (P := SoundGpu) (fun pkt _ p hp => soundGpu_executePacket hp pkt) _ hstart
  unfold PushbufferCall.next
  rw [hrun]
  exact soundGpu_congr hexecuted hgpu.symm

/-- A product that `checkedMul` gives is exact. -/
theorem checkedMul_some {a b r : U32} (h : checkedMul a b = some r) :
    r.toNat = a.toNat * b.toNat := by
  unfold checkedMul at h
  split at h
  · cases h
  next hfits =>
    obtain rfl := Option.some.inj h
    have hlt : a.toNat * b.toNat < 2 ^ 32 := by
      by_cases hzero : a = 0
      · subst hzero
        simp
      · have hle : b.toNat ≤ (BitVec.allOnes 32 / a).toNat :=
          Nat.not_lt.1 (not_and.1 hfits hzero)
        rw [BitVec.toNat_udiv, BitVec.toNat_allOnes] at hle
        have hpos : 0 < a.toNat := by
          rw [Nat.pos_iff_ne_zero]
          intro h0
          exact hzero (BitVec.eq_of_toNat_eq h0)
        have hmul := (Nat.le_div_iff_mul_le hpos).1 hle
        rw [Nat.mul_comm] at hmul
        omega
    rw [BitVec.toNat_mul, Nat.mod_eq_of_lt hlt]

/-- Every surface that `Create` returns is sound: it has the bytes of its rows. -/
theorem soundSurface_create {width height pitch : U32} {s : GpuSurface}
    (h : GpuSurface.create width height pitch = .ok s) : SoundSurface s := by
  simp only [GpuSurface.create, bind, Except.bind, pure, Except.pure, throw, throwThe,
    MonadExceptOf.throw] at h
  split at h
  · cases h
  split at h
  · cases h
  next hsize =>
    obtain ⟨hwidth, hheight⟩ := not_or.1 hsize
    have hsound : ∀ {p total : U32}, ¬ p < width * 4 → checkedMul p height = some total →
        ¬ total > kMaxSurfaceBytes →
        SoundSurface { width := width, height := height, pitch := p, byteSize := total,
                       pixels := List.replicate total.toNat 0 } := by
      intro p total hrow htotal hbytes
      have hproduct := checkedMul_some htotal
      have hrows : (width * 4).toNat = width.toNat * 4 := by
        have hlimit : width.toNat ≤ 1920 := Nat.not_lt.1 hwidth
        rw [BitVec.toNat_mul]
        change width.toNat * 4 % 2 ^ 32 = _
        omega
      have hpitch : (width * 4).toNat ≤ p.toNat := Nat.not_lt.1 hrow
      refine ⟨Nat.not_lt.1 hwidth, Nat.not_lt.1 hheight, ?_, ?_, ?_⟩
      · change 4 * width.toNat ≤ p.toNat
        omega
      · rw [← hproduct]
        exact Nat.not_lt.1 hbytes
      · rw [List.length_replicate]
        exact hproduct
    split at h
    · split at h
      · cases h
      next hrow =>
        split at h
        · cases h
        split at h
        · cases h
        next total htotal =>
          split at h
          · cases h
          next hbytes =>
            cases h
            exact hsound hrow htotal hbytes
    · split at h
      next p hp =>
        split at h
        · cases h
        next hrow =>
          split at h
          · cases h
          split at h
          · cases h
          next total htotal =>
            split at h
            · cases h
            next hbytes =>
              cases h
              exact hsound hrow htotal hbytes
      · cases h

/-- The blank surface is sound. -/
theorem soundSurface_blank : SoundSurface Nv2aDevice.blankSurface :=
  soundSurface_create create_blankSurface

/-- The GPU starts sound. -/
theorem soundGpu_initial : SoundGpu .initial := by
  refine ⟨soundSurface_blank, soundSurface_blank, ?_, fun i => ?_⟩
  · show (Nv2a3dContext.ensureDepthBuffer {} 640 480).depthBuffer.length = _
    unfold Nv2a3dContext.ensureDepthBuffer
    rw [if_neg (by decide), if_pos (by simp)]
    exact List.length_replicate
  · by_cases hi : i = 0
    · subst hi
      exact .inr (by decide)
    · exact .inl (if_neg hi)

/-! ## Draws -/

/-- A pixel within the dimensions is stored inside the surface. -/
theorem storedInside {s : GpuSurface} (h : SoundSurface s) {x y : U32}
    (hx : x.toNat < s.width.toNat) (hy : y.toNat < s.height.toNat) : StoredInside s x y := by
  have hrows := h.rows
  have hlimit : s.pitch.toNat * s.height.toNat ≤ 8294400 := h.limit
  have hrow : (y.toNat + 1) * s.pitch.toNat ≤ s.height.toNat * s.pitch.toNat :=
    Nat.mul_le_mul_right _ hy
  rw [Nat.add_mul, Nat.one_mul, Nat.mul_comm s.height.toNat] at hrow
  have hoffset : (s.pixelOffset x y).toNat = y.toNat * s.pitch.toNat + x.toNat * 4 := by
    unfold GpuSurface.pixelOffset
    rw [BitVec.toNat_add, BitVec.toNat_mul, BitVec.toNat_mul]
    rw [Nat.mod_eq_of_lt (a := y.toNat * s.pitch.toNat) (by omega)]
    show (_ + x.toNat * 4 % 2 ^ 32) % 2 ^ 32 = _
    omega
  unfold StoredInside
  rw [hoffset, h.bytes]
  omega

/-- The indices of a row are below its end. -/
theorem mem_indices {start stop i : U32} (h : i ∈ GpuSurface.indices start stop) :
    i.toNat < stop.toNat := by
  obtain ⟨n, hn, rfl⟩ := List.mem_map.1 h
  have hrange := List.mem_range'_1.1 hn
  have hstop := stop.isLt
  rw [BitVec.toNat_ofNat]
  omega

/-- The box of a triangle is cut to the surface. -/
theorem setupTriangle_inside {tri : Triangle} {state : RasterizerState} {width height : U32}
    {t : TriangleSetup} (h : setupTriangle fp tri state width height = some t) :
    0 ≤ t.minX ∧ t.maxX ≤ (width - 1).toInt ∧ 0 ≤ t.minY ∧ t.maxY ≤ (height - 1).toInt := by
  have hmin (a b c : F32) (enabled : Bool) (lo : ℤ) :
      0 ≤ if enabled then Max.max (boxMin fp a b c) lo else boxMin fp a b c := by
    have hzero : 0 ≤ boxMin fp a b c := le_max_left _ _
    split
    · exact hzero.trans (le_max_left _ _)
    · exact hzero
  have hmax (size : U32) (a b c : F32) (enabled : Bool) (hi : ℤ) :
      (if enabled then Min.min (boxMax fp size a b c) hi else boxMax fp size a b c) ≤
        (size - 1).toInt := by
    have hsize : boxMax fp size a b c ≤ (size - 1).toInt := min_le_left _ _
    split
    · exact (min_le_left _ _).trans hsize
    · exact hsize
  simp only [setupTriangle, Option.ite_none_left_eq_some, Option.some.injEq] at h
  obtain ⟨-, -, -, -, -, rfl⟩ := h
  exact ⟨hmin .., hmax .., hmin .., hmax ..⟩

/-- The integers between two bounds are. -/
theorem mem_between {lo hi i : ℤ} (h : i ∈ between lo hi) : lo ≤ i ∧ i ≤ hi := by
  obtain ⟨n, hn, rfl⟩ := List.mem_map.1 h
  have hlt := List.mem_range.1 hn
  omega

/-- A coordinate of a pixel in a box that is cut to a side of the surface. -/
theorem toNat_pixel {size limit : U32} (hsize : size ≤ limit) (hlimit : limit.toNat < 0x80000000)
    {i : ℤ} (hlo : 0 ≤ i) (hhi : i ≤ (size - 1).toInt) :
    i.toNat < size.toNat ∧ (BitVec.ofInt 32 i).toNat = i.toNat := by
  have hle : size.toNat ≤ limit.toNat := hsize
  have hlt : i < size.toNat := by
    rw [BitVec.toInt_eq_toNat_cond] at hhi
    split at hhi
    · bv_omega
    · bv_omega
  refine ⟨by omega, ?_⟩
  rw [BitVec.toNat_ofInt]
  omega

/-- A sound GPU draws inside its surfaces. -/
theorem drawsInside_of_soundGpu (h : SoundGpu p) : DrawsInside fp p := by
  have hback := h.back
  refine ⟨fun row hrow col hcol => ?_, fun x y w hh c s hfill row hrow col hcol => ?_,
    fun tri state t hsetup px hpx => ?_⟩
  · exact storedInside hback (mem_indices hcol) (mem_indices hrow)
  · obtain ⟨hwidth, hheight, -⟩ := fillRect_ok hfill
    exact storedInside hback ((mem_indices hcol).trans_le hwidth)
      ((mem_indices hrow).trans_le hheight)
  · obtain ⟨hminX, hmaxX, hminY, hmaxY⟩ := setupTriangle_inside hsetup
    obtain ⟨y, hy, hpx⟩ := List.mem_flatMap.1 hpx
    obtain ⟨x, hx, rfl⟩ := List.mem_map.1 hpx
    obtain ⟨hx₀, hx₁⟩ := mem_between hx
    obtain ⟨hy₀, hy₁⟩ := mem_between hy
    obtain ⟨hwidth, hcol⟩ := toNat_pixel hback.width (by decide) (hminX.trans hx₀) (hx₁.trans hmaxX)
    obtain ⟨hheight, hrow⟩ :=
      toNat_pixel hback.height (by decide) (hminY.trans hy₀) (hy₁.trans hmaxY)
    refine ⟨hminX.trans hx₀, hminY.trans hy₀, ?_, ?_⟩
    · exact storedInside hback (by rw [hcol]; exact hwidth) (by rw [hrow]; exact hheight)
    · rw [length_ensureDepthBuffer h.depth (by bv_omega) (by bv_omega)]
      have hrows : (y.toNat + 1) * p.device.backSurface.width.toNat ≤
          p.device.backSurface.height.toNat * p.device.backSurface.width.toNat :=
        Nat.mul_le_mul_right _ hheight
      rw [Nat.add_mul, Nat.one_mul, Nat.mul_comm p.device.backSurface.height.toNat] at hrows
      unfold depthIndex
      dsimp only
      omega

/-- **What is drawn stays inside**: in every state that calls lead to, the surfaces and the depth
buffer have the sizes they are used with, and no store of a clear, of a rectangle or of a triangle
is outside of them. -/
theorem reachable_draws_inside (fp : FloatUnit) (calls : List PushbufferCall) :
    let p := calls.foldl (PushbufferCall.next fp) .initial
    SoundGpu p ∧ DrawsInside fp p := by
  have hsound : SoundGpu (calls.foldl (PushbufferCall.next fp) .initial) :=
    foldl_keeps (P := SoundGpu) (fun c _ p hp => soundGpu_next hp c) _ soundGpu_initial
  exact ⟨hsound, drawsInside_of_soundGpu hsound⟩

end Xblob.Analysis
