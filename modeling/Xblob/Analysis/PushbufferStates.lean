import Xblob.Analysis.EngineRegisters
import Xblob.Analysis.PushbufferRuns
import Xblob.Computation.Lockstep

/-!
# The state of the GPU over calls

The fault code, the statistics and the diagnostics are kept beside the state of the GPU and never
looked at by what changes it.  So packets do from two processors with one state what they do from
either, and a call does what its packets do one after the other, up to the one that is refused.
-/

set_option autoImplicit false

namespace Xblob.Analysis

open Xblob.Computation Xblob.Gpu Xblob.Interface

/-! ## What is kept beside the state -/

/-- What of a processor is no state of the GPU. -/
structure Books where
  fault : GpuFault
  stats : PushbufferStats
  entries : List UnsupportedMethodEntry
  total : U32

namespace Books

variable (b : Books)

/-- A context with the books. -/
def context (ctx : Nv2a3dContext) : Nv2a3dContext :=
  { ctx with unsupportedMethods := b.entries, totalUnsupportedMethodsCount := b.total }

/-- An engine with the books. -/
def engine (e : Engine) : Engine := ⟨b.context e.ctx, e.surface, b.stats⟩

/-- A processor with the books. -/
def processor (p : PushbufferProcessor) : PushbufferProcessor :=
  { p with device := p.device.setFault b.fault, stats := b.stats, ctx3d := b.context p.ctx3d }

/-- A target of a draw with the books. -/
def target (d : DrawTarget) : DrawTarget := ⟨b.context d.ctx, d.surface⟩

end Books

/-- Two processors have the same state of the GPU. -/
def SameGpu (p q : PushbufferProcessor) : Prop := gpuState p = gpuState q

/-- The same for two contexts. -/
def SameContext (ctx ctx' : Nv2a3dContext) : Prop :=
  withoutDiagnostics ctx = withoutDiagnostics ctx'

/-- The same for the engine. -/
def SameEngine (e e' : Engine) : Prop := SameContext e.ctx e'.ctx ∧ e.surface = e'.surface

/-- Processors with the same GPU differ in their books. -/
theorem SameGpu.books {p q : PushbufferProcessor} (h : SameGpu p q) :
    ∃ b : Books, q = b.processor p := by
  let b : Books :=
    ⟨q.device.fault, q.stats, q.ctx3d.unsupportedMethods, q.ctx3d.totalUnsupportedMethodsCount⟩
  refine ⟨b, ?_⟩
  calc q = b.processor (gpuState q) := rfl
    _ = b.processor (gpuState p) := by rw [show gpuState p = gpuState q from h]
    _ = b.processor p := rfl

/-- Contexts that are the same differ in their books. -/
theorem SameContext.books {ctx ctx' : Nv2a3dContext} (h : SameContext ctx ctx')
    (stats : PushbufferStats) : ∃ b : Books, b.stats = stats ∧ ctx' = b.context ctx := by
  let b : Books := ⟨.none, stats, ctx'.unsupportedMethods, ctx'.totalUnsupportedMethodsCount⟩
  refine ⟨b, rfl, ?_⟩
  calc ctx' = b.context (withoutDiagnostics ctx') := rfl
    _ = b.context (withoutDiagnostics ctx) := by
      rw [show withoutDiagnostics ctx = withoutDiagnostics ctx' from h]
    _ = b.context ctx := rfl

/-- Engines that are the same differ in their books. -/
theorem SameEngine.books {e e' : Engine} (h : SameEngine e e') : ∃ b : Books, e' = b.engine e := by
  obtain ⟨b, hstats, hctx⟩ := h.1.books e'.stats
  refine ⟨b, ?_⟩
  calc e' = ⟨e'.ctx, e'.surface, e'.stats⟩ := rfl
    _ = b.engine e := by
      rw [hctx, ← h.2, ← hstats]
      rfl

/-- Other books leave the engine the same. -/
theorem sameEngine_books (b : Books) (e : Engine) : SameEngine e (b.engine e) := ⟨rfl, rfl⟩

/-! ## Methods -/

section Methods

variable (fp : FloatUnit) (b : Books)

/-- The depth buffer is ensured whatever the books. -/
theorem ensureDepthBuffer_books (ctx : Nv2a3dContext) (width height : U32) :
    (b.context ctx).ensureDepthBuffer width height =
      b.context (ctx.ensureDepthBuffer width height) := by
  unfold Nv2a3dContext.ensureDepthBuffer
  rw [apply_ite b.context, apply_ite b.context]
  rfl

/-- A vertex attribute is modified whatever the books. -/
theorem modifyVertexAttribute_books (ctx : Nv2a3dContext) (idx : U32)
    (f : VertexAttribute → VertexAttribute) :
    (b.context ctx).modifyVertexAttribute idx f = b.context (ctx.modifyVertexAttribute idx f) := by
  unfold Nv2a3dContext.modifyVertexAttribute
  rw [apply_dite b.context]
  rfl

/-- A texture stage is modified whatever the books. -/
theorem modifyTextureStage_books (ctx : Nv2a3dContext) (idx : U32)
    (f : TextureStage → TextureStage) :
    (b.context ctx).modifyTextureStage idx f = b.context (ctx.modifyTextureStage idx f) := by
  unfold Nv2a3dContext.modifyTextureStage
  rw [apply_dite b.context]
  rfl

/-- A draw neither looks at the diagnostics nor changes them. -/
theorem lockstep_draw (start count : U32) (indexed : Bool) (reader : ReadWordFn) (d : DrawTarget) :
    Lockstep (draw fp start count indexed reader) (fun _ d d' => d' = b.target d)
      (fun d d' => d' = b.target d) d (b.target d) := by
  unfold draw
  refine Lockstep.bind (Q := fun _ d d' => d' = b.target d) ⟨rfl, ?_⟩ ?_
  · exact congrArg (DrawTarget.mk · d.surface) (ensureDepthBuffer_books b d.ctx _ _)
  rintro - d _ rfl
  refine lockstep_get_bind rfl (Lockstep.bind (Q := fun _ d d' => d' = b.target d)
    (lockstep_ofExcept _ (fun _ => rfl) rfl) ?_)
  rintro triangles d _ rfl
  refine .bind (lockstep_forM triangles (fun tri _ d d' hd => ?_) rfl) ?_
  · subst hd
    refine Lockstep.bind (Q := fun _ d d' => d' = b.target d) ?_ fun _ _ _ h => lockstep_pure h
    refine Lockstep.zoom (t := b.target d) (lockstep_refl _ d.rasterTarget) ?_ ?_
    · rintro _ t _ rfl
      rfl
    · rintro t _ rfl
      rfl
  · exact fun _ d d' h => lockstep_pure h

/-- A draw leaves the same whatever the books. -/
theorem stateAfter_draw_books (start count : U32) (indexed : Bool) (reader : ReadWordFn)
    (d : DrawTarget) :
    stateAfter ((draw fp start count indexed reader).run (b.target d)) =
      b.target (stateAfter ((draw fp start count indexed reader).run d)) := by
  obtain ⟨n, d', _, hd, hd', rfl⟩ | ⟨e, d', _, hd, hd', rfl⟩ :=
    Agree.cases (lockstep_draw fp b start count indexed reader d)
  · rw [hd, hd']
    rfl
  · rw [hd, hd']
    rfl

/-- No register of the table has to do with the diagnostics. -/
theorem registerMethods_books {method : U32} {store : U32 → Nv2a3dContext → Nv2a3dContext}
    (h : registerMethods.lookup method = some store) (val : U32) (ctx : Nv2a3dContext) :
    store val (b.context ctx) = b.context (store val ctx) := by
  have hall : ∀ entry ∈ registerMethods,
      entry.2 val (b.context ctx) = b.context (entry.2 val ctx) := by
    simp only [registerMethods, List.forall_mem_cons, List.not_mem_nil, false_imp_iff,
      implies_true, and_true]
    and_intros <;> rfl
  obtain ⟨front, rest, hentries, -⟩ := List.lookup_eq_some_iff.1 h
  exact hall (method, store) (hentries ▸ by simp)

/-- Engines whose contexts differ in their books are the same. -/
theorem sameEngine_of_books {ctx ctx' : Nv2a3dContext} (surface : GpuSurface)
    (stats stats' : PushbufferStats) (h : ctx' = b.context ctx) :
    SameEngine ⟨ctx, surface, stats⟩ ⟨ctx', surface, stats'⟩ := by
  subst h
  exact ⟨rfl, rfl⟩

/-- A method does the same on engines that are the same. -/
theorem sameEngine_apply3dMethod (method val : U32) (reader : ReadWordFn) {e e' : Engine}
    (h : SameEngine e e') :
    (apply3dMethod fp method val reader e).1 = (apply3dMethod fp method val reader e').1 ∧
      SameEngine (apply3dMethod fp method val reader e).2
        (apply3dMethod fp method val reader e').2 := by
  obtain ⟨b, rfl⟩ := h.books
  unfold apply3dMethod
  by_cases hclear : method = kMethod3dClearSurface
  · rw [if_pos hclear, if_pos hclear]
    refine ⟨rfl, ?_, rfl⟩
    simp only [Engine.clearSurface, Books.engine]
    split <;> rfl
  rw [if_neg hclear, if_neg hclear]
  by_cases hdraw : isDrawMethod method = true
  · rw [if_pos hdraw, if_pos hdraw]
    have hafter := stateAfter_draw_books fp b (drawStart val) (drawCount val)
      (decide (method ≠ kMethod3dDrawArrays)) reader ⟨e.ctx, e.surface⟩
    have hctx := congrArg (fun d => withoutDiagnostics d.ctx) hafter.symm
    have hsurface := congrArg DrawTarget.surface hafter.symm
    exact ⟨rfl, hctx, hsurface⟩
  rw [if_neg hdraw, if_neg hdraw]
  cases hstore : registerMethods.lookup method with
  | some store =>
    exact ⟨rfl, sameEngine_of_books b _ _ _ (registerMethods_books b hstore val e.ctx)⟩
  | none =>
    simp only
    split
    · exact ⟨rfl, sameEngine_of_books b _ _ _ (modifyVertexAttribute_books b e.ctx _ _)⟩
    split
    · exact ⟨rfl, sameEngine_of_books b _ _ _ (modifyVertexAttribute_books b e.ctx _ _)⟩
    split
    · exact ⟨rfl, sameEngine_of_books b _ _ _ (modifyTextureStage_books b e.ctx _ _)⟩
    · exact ⟨rfl, rfl, rfl⟩

end Methods

/-! ## Packets -/

section Packets

variable (fp : FloatUnit) {p q : PushbufferProcessor}

/-- The same engine put back leaves the same GPU. -/
theorem SameGpu.setEngine (h : SameGpu p q) {e e' : Engine} (he : SameEngine e e') :
    SameGpu (p.setEngine e) (q.setEngine e') := by
  obtain ⟨b, rfl⟩ := h.books
  obtain ⟨b', rfl⟩ := he.books
  rfl

/-- A method does to the state of the GPU what it does to it from any other processor. -/
theorem SameGpu.performMethod (h : SameGpu p q) (subchannel method val : U32) :
    SameGpu (p.performMethod fp subchannel method val)
      (q.performMethod fp subchannel method val) := by
  obtain ⟨b, rfl⟩ := h.books
  have hsame (c : Prop) [Decidable c] {x y x' y' : PushbufferProcessor} (hx : SameGpu x x')
      (hy : SameGpu y y') : SameGpu (if c then x else y) (if c then x' else y') := by
    split
    · exact hx
    · exact hy
  refine hsame _ ?_ <| hsame _ rfl <| hsame _ rfl <| hsame _ rfl <| hsame _ rfl <| hsame _ rfl <|
    hsame _ rfl <| hsame _ rfl <| hsame _ rfl <| hsame _ rfl <| hsame _ rfl <| hsame _ ?_ <|
    hsame _ rfl ?_
  · unfold PushbufferProcessor.setSubchannelClass
    split <;> rfl
  · have hfill : (b.processor p).fillRect = p.fillRect := rfl
    rw [hfill]
    cases p.fillRect <;> rfl
  · exact h.setEngine (sameEngine_apply3dMethod fp method val p.memoryReader
      (sameEngine_books b p.engine)).2

/-- A method applied leaves the same GPU. -/
theorem SameGpu.applyMethod (h : SameGpu p q) (subchannel : U32) (m : U32 × U32) :
    SameGpu (p.applyMethod fp subchannel m) (q.applyMethod fp subchannel m) :=
  h.performMethod fp subchannel m.1 m.2

/-- A packet applied leaves the same GPU. -/
theorem SameGpu.applyPacket (h : SameGpu p q) (pkt : PushbufferPacket) :
    SameGpu (p.applyPacket fp pkt) (q.applyPacket fp pkt) := by
  unfold PushbufferProcessor.applyPacket
  split
  · exact h
  · generalize pkt.methods = methods
    induction methods generalizing p q with
    | nil => exact h
    | cons m rest ih => exact ih (h.applyMethod fp pkt.subchannel m)

/-! ### Validation -/

/-- A computation in lockstep on the contexts is so on the processors. -/
theorem lockstep_onContext3d {α : Type} {f : EStateM Error Nv2a3dContext α}
    (hf : ∀ ctx ctx', SameContext ctx ctx' →
      Lockstep f (fun _ => SameContext) SameContext ctx ctx') (h : SameGpu p q) :
    Lockstep (onContext f) (fun _ => SameGpu) SameGpu p q := by
  have hput (ctx ctx' : Nv2a3dContext) (hctx : SameContext ctx ctx') :
      SameGpu { p with ctx3d := ctx } { q with ctx3d := ctx' } := by
    obtain ⟨b, rfl⟩ := h.books
    obtain ⟨b', -, rfl⟩ := hctx.books {}
    rfl
  refine (hf p.ctx3d q.ctx3d ?_).zoom (fun _ => hput) hput
  obtain ⟨b, rfl⟩ := h.books
  rfl

/-- An unsupported method is recorded in lockstep. -/
theorem lockstep_recordUnsupported (entry : UnsupportedMethodEntry) {ctx ctx' : Nv2a3dContext}
    (h : SameContext ctx ctx') :
    Lockstep (modify fun ctx => ctx.recordUnsupportedMethod entry :
      EStateM Error Nv2a3dContext Unit) (fun _ => SameContext) SameContext ctx ctx' :=
  ⟨rfl, h⟩

/-- A method of the engine is validated in lockstep. -/
theorem lockstep_validate3dMethod (method val count subchannel classId : U32)
    (reader : ReadWordFn) {ctx ctx' : Nv2a3dContext} (h : SameContext ctx ctx') :
    Lockstep (validate3dMethod method val count subchannel classId reader) (fun _ => SameContext)
      SameContext ctx ctx' := by
  unfold validate3dMethod
  split
  · exact lockstep_pure h
  split
  · refine lockstep_get_bind ?_ (lockstep_ofExcept _ (fun _ => h) h)
    obtain ⟨b, -, rfl⟩ := h.books {}
    rfl
  split
  · exact lockstep_pure h
  · exact (lockstep_recordUnsupported _ h).bind fun _ _ _ h' => lockstep_throw h'

/-- A method is validated in lockstep. -/
theorem lockstep_validateMethod (packet : PushbufferPacket) (temp : StagedRect)
    (method val : U32) (h : SameGpu p q) :
    Lockstep (validateMethod packet temp method val) (fun _ => SameGpu) SameGpu p q := by
  unfold validateMethod
  refine lockstep_get_bind ?_ ?_
  · obtain ⟨b, rfl⟩ := h.books
    rfl
  split
  · split
    · exact lockstep_pure h
    · refine (lockstep_onContext3d (fun _ _ => lockstep_recordUnsupported _) h).bind ?_
      exact fun _ _ _ h' => lockstep_throw h'
  split
  · exact lockstep_pure h
  split
  · exact lockstep_pure h
  split
  · exact lockstep_pure h
  split
  · exact lockstep_pure h
  split
  · exact lockstep_pure h
  split
  · dsimp only
    split
    · exact lockstep_throw h
    · exact lockstep_pure h
  · refine (lockstep_onContext3d (fun _ _ => lockstep_validate3dMethod _ _ _ _ _ _) h).bind ?_
    exact fun _ _ _ h' => lockstep_pure h'

/-- The methods are validated in lockstep. -/
theorem lockstep_validateMethods (packet : PushbufferPacket) (methods : List (U32 × U32))
    (temp : StagedRect) (h : SameGpu p q) :
    Lockstep (validateMethods packet methods temp) (fun _ => SameGpu) SameGpu p q := by
  induction methods generalizing temp p q with
  | nil => exact lockstep_pure h
  | cons m rest ih =>
    exact (lockstep_validateMethod packet temp m.1 m.2 h).bind fun temp' _ _ h' => ih temp' h'

/-- A packet is validated in lockstep. -/
theorem lockstep_validatePacket (packet : PushbufferPacket) (h : SameGpu p q) :
    Lockstep (validatePacket packet) (fun _ => SameGpu) SameGpu p q := by
  unfold validatePacket
  split
  · split
    · exact lockstep_throw h
    · exact lockstep_pure h
  split
  · exact lockstep_throw h
  split
  · exact lockstep_throw h
  · refine lockstep_get_bind ?_ (lockstep_validateMethods packet packet.methods p.rect h)
    obtain ⟨b, rfl⟩ := h.books
    rfl

/-- **A packet depends on the state of the GPU alone**: from two processors with one state it is
refused alike, for the same reason, and leaves one state. -/
theorem lockstep_executePacket (packet : PushbufferPacket) (h : SameGpu p q) :
    Lockstep (executePacket fp packet) (fun _ => SameGpu) SameGpu p q := by
  unfold executePacket
  refine Lockstep.bind (Q := fun _ => SameGpu) ?_ fun _ p' q' h' =>
    ⟨rfl, h'.applyPacket fp packet⟩
  obtain ⟨_, p', q', hp, hq, h'⟩ | ⟨e, p', q', hp, hq, h'⟩ :=
    Agree.cases (lockstep_validatePacket packet h)
  · unfold Lockstep
    rw [run_tryCatch_ok hp, run_tryCatch_ok hq]
    exact ⟨rfl, h'⟩
  · unfold Lockstep
    rw [run_tryCatch_error hp, run_tryCatch_error hq]
    exact ⟨rfl, h'⟩

end Packets

/-! ## Runs -/

section Runs

variable {π κ : Type} [DecidableEq κ] {fp : FloatUnit} {s : PacketStream π κ}
variable {budgets : PushbufferBudgets} {l u t : StreamLoop π κ} {heads : List (StreamLoop π κ)}

/-- The jumps of a stream lead to multiples of four. -/
def JumpsAligned (s : PacketStream π κ) : Prop :=
  ∀ x pkt words after, s.decode x = .ok (pkt, words, after) → pkt.opcode = .jump →
    pkt.jumpTarget % 4 = 0

omit [DecidableEq κ] in
/-- The packet decoded at a place is the one there. -/
theorem packetAt_eq {pkt : PushbufferPacket} {words : U32} {after : π}
    (hdecode : s.decode u.position = .ok (pkt, words, after)) : packetAt s u = some pkt := by
  simp [packetAt, hdecode, Except.toOption]

/-- One packet more is executed last. -/
theorem executed_snoc (p : PushbufferProcessor) (pkts : List PushbufferPacket)
    (pkt : PushbufferPacket) :
    executed fp p (pkts ++ [pkt]) =
      stateAfter ((executePacket fp pkt).run (executed fp p pkts)) := by
  simp [executed]

/-- None refused so far, nor the next one. -/
theorem noneRefused_snoc {p : PushbufferProcessor} {pkts : List PushbufferPacket}
    {pkt : PushbufferPacket} (h : NoneRefused fp p pkts)
    (hlast : outcome ((executePacket fp pkt).run (executed fp p pkts)) = .ok ()) :
    NoneRefused fp p (pkts ++ [pkt]) := by
  intro before pkt' after heq
  obtain ⟨rfl, hpkt⟩ | ⟨rest, rfl, rfl⟩ : (pkts = before ∧ pkt' = pkt) ∨
      ∃ rest, pkts = before ++ pkt' :: rest ∧ after = rest ++ [pkt] := by
    rcases List.eq_nil_or_concat after with rfl | ⟨rest, last, rfl⟩
    · obtain ⟨hbefore, hsingle⟩ := List.append_inj' heq rfl
      exact .inl ⟨hbefore, (List.cons.inj hsingle).1.symm⟩
    · rw [List.concat_eq_append, ← List.cons_append, ← List.append_assoc] at heq
      obtain ⟨hbefore, hsingle⟩ := List.append_inj' heq rfl
      exact .inr ⟨rest, hbefore, by rw [(List.cons.inj hsingle).1, List.concat_eq_append]⟩
  · rw [hpkt]
    exact hlast
  · exact h before pkt' rest rfl

/-- A packet of a run does the same after the packets before it alone. -/
theorem executed_iterates (haligned : JumpsAligned s) (h : Iterates fp s budgets heads l t) :
    NoneRefused fp l.processor (heads.filterMap (packetAt s)) ∧
      SameGpu t.processor (executed fp l.processor (heads.filterMap (packetAt s))) := by
  induction heads using List.reverseRecOn generalizing t with
  | nil =>
    cases h
    exact ⟨fun before pkt after heq => by simp at heq, rfl⟩
  | append_singleton heads u ih =>
    obtain ⟨hgoes, hlast⟩ := h.of_snoc
    obtain ⟨hnone, hsame⟩ := ih hgoes
    suffices hpacket : ∃ pkt p', packetAt s u = some pkt ∧ SameGpu u.processor p' ∧
        ∃ q, (executePacket fp pkt).run p' = .ok () q ∧ SameGpu q t.processor by
      obtain ⟨pkt, p', hpkt, hp', q, hrun, hq⟩ := hpacket
      rw [List.filterMap_append, List.filterMap_cons_some hpkt, List.filterMap_nil]
      have hlock := lockstep_executePacket fp pkt (hp'.symm.trans hsame)
      unfold Lockstep at hlock
      rw [hrun] at hlock
      obtain ⟨_, q₁, q', hq₁, hrun', hqq'⟩ | ⟨e, q₁, q', hq₁, -, -⟩ := Agree.cases hlock
      · cases hq₁
        refine ⟨noneRefused_snoc hnone (by rw [hrun']; rfl), ?_⟩
        rw [executed_snoc, hrun']
        exact hq.symm.trans hqq'
      · cases hq₁
    cases turn_of_eq hlast with
    | @jump pkt words after position key hmore hbudget hdecode hkind hjump hnew =>
      have htarget : pkt.jumpTarget % 4#32 = 0#32 := haligned _ _ _ _ hdecode hkind
      have hquiet : (executePacket fp pkt).run u.processor = .ok () u.processor := by
        have hvalid : (validatePacket pkt).run u.processor = .ok () u.processor := by
          simp [validatePacket, hkind, htarget]
        rw [executePacket, EStateM.run_bind, run_tryCatch_ok hvalid]
        simp [PushbufferProcessor.applyPacket, hkind]
      exact ⟨pkt, u.processor, packetAt_eq hdecode, rfl, u.processor, hquiet, rfl⟩
    | @method pkt words after p hmore hbudget hdecode hkind hrun =>
      exact ⟨pkt, u.processor.countPacket words, packetAt_eq hdecode, rfl, p, hrun, rfl⟩

/-- The iteration that ends a run leaves the state of the GPU as it was. -/
theorem sameGpu_of_done {r : CallResult} (h : streamIteration fp s budgets t = .done r) :
    SameGpu t.processor r.2 := by
  cases turn_of_eq h with
  | finished => rfl
  | exhausted => rfl
  | undecoded =>
    dsimp only
    split <;> rfl
  | unreachable => rfl
  | revisited => rfl
  | refused hmore hbudget hdecode hkind hrun => exact (executePacket_error hrun).symm

/-- What a call that has ended has executed. -/
theorem executed_of_loopWithin (haligned : JumpsAligned s) {n : ℕ} {r : CallResult}
    (h : loopWithin (streamIteration fp s budgets) n l = some r) :
    ∃ pkts, EndsWith fp s budgets l pkts (r.1.map fun _ => ()) r.2 ∧
      NoneRefused fp l.processor pkts ∧ SameGpu r.2 (executed fp l.processor pkts) := by
  obtain ⟨heads, t, hgoes, hlast⟩ := goes_of_loopWithin h
  obtain ⟨hnone, hsame⟩ := executed_iterates haligned hgoes
  exact ⟨_, ⟨heads, t, r.1, hgoes, hlast, rfl, rfl⟩, hnone, (sameGpu_of_done hlast).symm.trans hsame⟩

end Runs

/-! ## Histories -/

section Histories

variable {π κ : Type} [DecidableEq κ] {fp : FloatUnit} {s : PacketStream π κ}
variable {budgets : PushbufferBudgets} {l l' : StreamLoop π κ}

/-- Two heads that differ in what is kept beside the state of the GPU. -/
structure SameHead (l l' : StreamLoop π κ) : Prop where
  position : l.position = l'.position
  visited : l.visited = l'.visited
  gpu : SameGpu l.processor l'.processor

/-- Two calls that end alike. -/
def SameEnd (r r' : CallResult) : Prop :=
  (r.1.map fun _ => ()) = (r'.1.map fun _ => ()) ∧ SameGpu r.2 r'.2

/-- Two heads that differ in the statistics only come to the same, if the budgets are used up for
both or for neither. -/
theorem agree_of_sameHead (h : SameHead l l')
    (hbudgets : s.more l.position = true → checkBudgetExhausted l.processor.stats budgets =
      checkBudgetExhausted l'.processor.stats budgets) :
    (streamIteration fp s budgets l).Agree SameHead SameEnd (streamIteration fp s budgets l') := by
  obtain ⟨hposition, hvisited, hgpu⟩ := h
  obtain ⟨i, hturn⟩ := exists_turn fp s budgets l
  rw [hturn.eq]
  have hcounted (words : U32) : SameGpu (l.processor.countPacket words)
      (l'.processor.countPacket words) := hgpu
  cases hturn with
  | finished hmore =>
    rw [(Turn.finished (hposition ▸ hmore)).eq]
    exact .done ⟨rfl, hgpu⟩
  | exhausted hmore hbudget =>
    rw [(Turn.exhausted (hposition ▸ hmore) (hbudgets hmore ▸ hbudget)).eq]
    exact .done ⟨rfl, hgpu⟩
  | undecoded hmore hbudget hdecode =>
    rw [(Turn.undecoded (hposition ▸ hmore) (hbudgets hmore ▸ hbudget)
      (hposition ▸ hdecode)).eq]
    refine .done ⟨rfl, ?_⟩
    dsimp only
    split <;> exact hgpu
  | unreachable hmore hbudget hdecode hkind hjump =>
    rw [(Turn.unreachable (hposition ▸ hmore) (hbudgets hmore ▸ hbudget) (hposition ▸ hdecode)
      hkind hjump).eq]
    exact .done ⟨rfl, hgpu⟩
  | revisited hmore hbudget hdecode hkind hjump hold =>
    rw [(Turn.revisited (hposition ▸ hmore) (hbudgets hmore ▸ hbudget) (hposition ▸ hdecode)
      hkind hjump (hvisited ▸ hold)).eq]
    exact .done ⟨rfl, hgpu⟩
  | jump hmore hbudget hdecode hkind hjump hnew =>
    rw [(Turn.jump (hposition ▸ hmore) (hbudgets hmore ▸ hbudget) (hposition ▸ hdecode)
      hkind hjump (hvisited ▸ hnew)).eq]
    exact .again ⟨rfl, congrArg (_ :: ·) hvisited, hgpu⟩
  | @refused pkt words after e p hmore hbudget hdecode hkind hrun =>
    have hlock := lockstep_executePacket fp pkt (hcounted words)
    obtain ⟨_, q, q', hq, -, -⟩ | ⟨e', q, q', hq, hq', hqq'⟩ := Agree.cases hlock
    · cases hrun.symm.trans hq
    · cases hrun.symm.trans hq
      rw [(Turn.refused (hposition ▸ hmore) (hbudgets hmore ▸ hbudget) (hposition ▸ hdecode)
        hkind hq').eq]
      exact .done ⟨rfl, hqq'⟩
  | @method pkt words after p hmore hbudget hdecode hkind hrun =>
    have hlock := lockstep_executePacket fp pkt (hcounted words)
    obtain ⟨_, q, q', hq, hq', hqq'⟩ | ⟨e', q, q', hq, -, -⟩ := Agree.cases hlock
    · cases hrun.symm.trans hq
      rw [(Turn.method (hposition ▸ hmore) (hbudgets hmore ▸ hbudget) (hposition ▸ hdecode)
        hkind hq').eq]
      exact .again ⟨rfl, hvisited, hqq'⟩
    · cases hrun.symm.trans hq

/-- Runs from two heads that differ in the statistics only pass the same packets and end alike. -/
theorem sameEnd_of_budgetsAgree (h : SameHead l l') (hbudgets : BudgetsAgree fp s budgets l l')
    {pkts pkts' : List PushbufferPacket} {status status' : Result Unit}
    {p p' : PushbufferProcessor} (hends : EndsWith fp s budgets l pkts status p)
    (hends' : EndsWith fp s budgets l' pkts' status' p') :
    status = status' ∧ pkts = pkts' ∧ gpuState p = gpuState p' := by
  obtain ⟨heads, t, r, hgoes, hlast, rfl, rfl⟩ := hends
  obtain ⟨heads', t', r', hgoes', hlast', rfl, rfl⟩ := hends'
  obtain ⟨hheads, -, hstatus, hgpu⟩ := Goes.lockstep
    (fun heads heads' v v' hv hv' hlength hsame => agree_of_sameHead hsame fun hmore =>
      hbudgets heads v heads' v' hv hv' hlength hmore) h hgoes hlast hgoes' hlast'
  refine ⟨hstatus, ?_, hgpu⟩
  clear hgoes hgoes'
  induction hheads with
  | nil => rfl
  | @cons u u' rest rest' hu _ ih =>
    have hpacket : packetAt s u = packetAt s u' := by
      unfold packetAt
      rw [hu.position]
    rw [List.filterMap_cons, List.filterMap_cons, hpacket, ih]

end Histories

/-- The jumps within a buffer are aligned. -/
theorem jumpsAligned_bufferStream (words : List U32) : JumpsAligned (bufferStream words) := by
  intro offset pkt count after h hkind
  obtain ⟨⟨pkt', after'⟩, hspan, hpkt⟩ := bind_eq_ok h
  cases hpkt
  exact (decodeFromSpan_ok hspan).2.2.2.2 hkind

/-- The jumps within memory are aligned. -/
theorem jumpsAligned_memoryStream (read : GuestAddr → Result U32) :
    JumpsAligned (memoryStream read) := by
  intro position pkt count after h hkind
  obtain ⟨pkt', hmemory, hpkt⟩ := bind_eq_ok h
  cases hpkt
  exact (decodeFromMemory_ok hmemory).2.2.2 hkind

section Calls

variable (fp : FloatUnit) (p : PushbufferProcessor)

/-- **A call does what its packets do**: it ends, and however it ends, the state of the GPU is that
after the packets it has passed, executed one after the other, none of which was refused. -/
theorem call_executes_packets (c : PushbufferCall) :
    ∃ pkts r, c.run fp p = some r ∧ c.EndsWith fp p pkts (r.1.map fun _ => ()) r.2 ∧
      NoneRefused fp (c.start p) pkts ∧ gpuState r.2 = gpuState (executed fp (c.start p) pkts) := by
  cases c with
  | executeBuffer words budgets =>
    obtain ⟨r, hr⟩ := executeBuffer_ends fp p budgets words
    obtain ⟨pkts, hends, hexecuted⟩ :=
      executed_of_loopWithin (jumpsAligned_bufferStream words) hr
    exact ⟨pkts, r, hr, hends, hexecuted⟩
  | executeFromMemory startAddr read maxWords budgets =>
    obtain ⟨r, hr⟩ := executeFromMemory_ends fp p budgets startAddr read maxWords
    obtain ⟨pkts, hends, hexecuted⟩ :=
      executed_of_loopWithin (jumpsAligned_memoryStream read) hr
    exact ⟨pkts, r, hr, hends, hexecuted⟩

/-- **Histories do not matter** to a call from processors with one state of the GPU, as long as
the budgets are used up for both or for neither at every packet. -/
theorem sameFrom_of_budgetsAgree (p q : PushbufferProcessor) (c : PushbufferCall)
    (hstate : gpuState p = gpuState q) (hbudgets : c.BudgetsAgree fp p q) : c.SameFrom fp p q := by
  intro pkts status p' pkts' status' q' hp hq
  cases c with
  | executeBuffer words budgets =>
    have hstart : SameHead (bufferStart p) (bufferStart q) := ⟨rfl, rfl, hstate⟩
    exact sameEnd_of_budgetsAgree hstart hbudgets hp hq
  | executeFromMemory startAddr read maxWords budgets =>
    have hstart : SameHead (memoryStart p startAddr read maxWords)
        (memoryStart q startAddr read maxWords) := by
      obtain ⟨b, rfl⟩ := SameGpu.books hstate
      exact ⟨rfl, rfl, rfl⟩
    exact sameEnd_of_budgetsAgree hstart hbudgets hp hq

/-- A processor without surfaces, with the given statistics. -/
def idleProcessor (stats : PushbufferStats) : PushbufferProcessor where
  device := { registerFile := .initial, frontSurface := {}, backSurface := {} }
  stats := stats
  ctx3d := {}
  subchannelClasses := fun _ => 0

/-- One method, from a fresh processor and from one that has executed another before. -/
theorem sameFrom_surface_width :
    (PushbufferCall.executeBuffer [0x00040000 ||| kMethodSurfaceWidth, 320] {}).SameFrom idleUnit
      (idleProcessor {}) (idleProcessor { wordsProcessed := 2, packetsProcessed := 1 }) := by
  refine sameFrom_of_budgetsAgree idleUnit _ _ _ rfl
    fun heads t heads' t' hgoes hgoes' hlength hmore => ?_
  cases hgoes with
  | nil =>
    cases List.length_eq_zero_iff.1 hlength.symm
    cases hgoes'
    decide
  | cons hstep hrest =>
    -- The list has ended after its only packet.
    obtain ⟨p, hfirst⟩ : ∃ p, streamIteration idleUnit (bufferStream
        [0x00040000 ||| kMethodSurfaceWidth, 320]) {} (bufferStart (idleProcessor {})) =
          .again ⟨p, 2, []⟩ := ⟨_, rfl⟩
    cases hfirst.symm.trans hstep
    cases hrest with
    | nil => cases hmore
    | cons hstep' _ => cases hstep'

end Calls

end Xblob.Analysis
