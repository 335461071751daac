import Mathlib.Tactic.Ring
import Xblob.Computation.Alignment
import Xblob.Interface.Pushbuffers

/-!
# Calls of the pushbuffer processor

A call ends: in a list of words every jump leads to an offset for the first time and every other
packet leads further on, and in memory every packet takes a word at least.  In the run of a call
the statistics are the counts of what has been passed, as 32-bit numbers, so a run keeps to its
budgets if and only if the counts fit.
-/

set_option autoImplicit false

namespace Xblob.Analysis

open Xblob.Computation Xblob.Gpu Xblob.Interface

section Iterations

variable {π κ : Type} [DecidableEq κ] {fp : FloatUnit} {s : PacketStream π κ}
variable {budgets : PushbufferBudgets} {l : StreamLoop π κ}

/-! ## One iteration -/

/-- A jump that is counted below the budget is not over it. -/
theorem countJump_within {p : PushbufferProcessor} (words : U32)
    (hbudget : checkBudgetExhausted p.stats budgets = false) :
    ¬(p.countPacket words).countJump.stats.jumpsTaken > budgets.maxJumps := by
  simp only [checkBudgetExhausted, Bool.or_eq_false_iff, decide_eq_false_iff_not] at hbudget
  have hjumps := hbudget.1.1.2
  simp only [PushbufferProcessor.countPacket, PushbufferProcessor.countJump]
  bv_omega

/-- What an iteration comes to from a head, and why. -/
inductive Turn (fp : FloatUnit) (s : PacketStream π κ) (budgets : PushbufferBudgets)
    (l : StreamLoop π κ) : Iteration (StreamLoop π κ) CallResult → Prop
  | finished (hmore : s.more l.position = false) :
      Turn fp s budgets l (.done (.ok l.processor.stats, l.processor))
  | exhausted (hmore : s.more l.position = true)
      (hbudget : checkBudgetExhausted l.processor.stats budgets = true) :
      Turn fp s budgets l (.done (.error (limitReached "Pushbuffer budget exhausted"),
        l.processor.setFault .budgetExhausted))
  | undecoded {e : Error} (hmore : s.more l.position = true)
      (hbudget : checkBudgetExhausted l.processor.stats budgets = false)
      (hdecode : s.decode l.position = .error e) :
      Turn fp s budgets l (.done (.error e, if e.code = .truncatedData then
        l.processor.setFault .pushbufferTruncated else l.processor))
  | unreachable {pkt : PushbufferPacket} {words : U32} {after : π} {e : Error}
      (hmore : s.more l.position = true)
      (hbudget : checkBudgetExhausted l.processor.stats budgets = false)
      (hdecode : s.decode l.position = .ok (pkt, words, after)) (hkind : pkt.opcode = .jump)
      (hjump : s.jump pkt.jumpTarget after = .error e) :
      Turn fp s budgets l (.done (.error e,
        (l.processor.countPacket words).countJump.setFault .budgetExhausted))
  | revisited {pkt : PushbufferPacket} {words : U32} {after position : π} {key : κ}
      (hmore : s.more l.position = true)
      (hbudget : checkBudgetExhausted l.processor.stats budgets = false)
      (hdecode : s.decode l.position = .ok (pkt, words, after)) (hkind : pkt.opcode = .jump)
      (hjump : s.jump pkt.jumpTarget after = .ok (key, position)) (hold : key ∈ l.visited) :
      Turn fp s budgets l (.done (.error (limitReached s.loopText),
        (l.processor.countPacket words).countJump.setFault .budgetExhausted))
  | jump {pkt : PushbufferPacket} {words : U32} {after position : π} {key : κ}
      (hmore : s.more l.position = true)
      (hbudget : checkBudgetExhausted l.processor.stats budgets = false)
      (hdecode : s.decode l.position = .ok (pkt, words, after)) (hkind : pkt.opcode = .jump)
      (hjump : s.jump pkt.jumpTarget after = .ok (key, position)) (hnew : key ∉ l.visited) :
      Turn fp s budgets l
        (.again ⟨(l.processor.countPacket words).countJump, position, key :: l.visited⟩)
  | refused {pkt : PushbufferPacket} {words : U32} {after : π} {e : Error}
      {p : PushbufferProcessor} (hmore : s.more l.position = true)
      (hbudget : checkBudgetExhausted l.processor.stats budgets = false)
      (hdecode : s.decode l.position = .ok (pkt, words, after)) (hkind : pkt.opcode ≠ .jump)
      (hrun : (executePacket fp pkt).run (l.processor.countPacket words) = .error e p) :
      Turn fp s budgets l (.done (.error e, p))
  | method {pkt : PushbufferPacket} {words : U32} {after : π} {p : PushbufferProcessor}
      (hmore : s.more l.position = true)
      (hbudget : checkBudgetExhausted l.processor.stats budgets = false)
      (hdecode : s.decode l.position = .ok (pkt, words, after)) (hkind : pkt.opcode ≠ .jump)
      (hrun : (executePacket fp pkt).run (l.processor.countPacket words) = .ok () p) :
      Turn fp s budgets l (.again ⟨p, after, l.visited⟩)

variable {i : Iteration (StreamLoop π κ) CallResult}

/-- A turn of the loop tells its iteration. -/
theorem Turn.eq (h : Turn fp s budgets l i) : streamIteration fp s budgets l = i := by
  cases h with
  | finished hmore => simp [streamIteration, hmore]
  | exhausted hmore hbudget => simp [streamIteration, hmore, hbudget, Gpu.refused]
  | undecoded hmore hbudget hdecode =>
    simp [streamIteration, hmore, hbudget, hdecode, Gpu.refused]
  | unreachable hmore hbudget hdecode hkind hjump =>
    simp [streamIteration, hmore, hbudget, hdecode, hkind, followJump,
      countJump_within _ hbudget, hjump, Gpu.refused]
  | revisited hmore hbudget hdecode hkind hjump hold =>
    simp [streamIteration, hmore, hbudget, hdecode, hkind, followJump,
      countJump_within _ hbudget, hjump, hold, Gpu.refused]
  | jump hmore hbudget hdecode hkind hjump hnew =>
    simp [streamIteration, hmore, hbudget, hdecode, hkind, followJump,
      countJump_within _ hbudget, hjump, hnew]
  | refused hmore hbudget hdecode hkind hrun =>
    simp [streamIteration, hmore, hbudget, hdecode, hkind, hrun, Gpu.refused]
  | method hmore hbudget hdecode hkind hrun =>
    simp [streamIteration, hmore, hbudget, hdecode, hkind, hrun]

/-- Every iteration is a turn of the loop. -/
theorem exists_turn (fp : FloatUnit) (s : PacketStream π κ) (budgets : PushbufferBudgets)
    (l : StreamLoop π κ) : ∃ i, Turn fp s budgets l i := by
  cases hmore : s.more l.position with
  | false => exact ⟨_, .finished hmore⟩
  | true =>
    cases hbudget : checkBudgetExhausted l.processor.stats budgets with
    | true => exact ⟨_, .exhausted hmore hbudget⟩
    | false =>
      match hdecode : s.decode l.position with
      | .error e => exact ⟨_, .undecoded hmore hbudget hdecode⟩
      | .ok (pkt, words, after) =>
        by_cases hkind : pkt.opcode = .jump
        · match hjump : s.jump pkt.jumpTarget after with
          | .error e => exact ⟨_, .unreachable hmore hbudget hdecode hkind hjump⟩
          | .ok (key, position) =>
            by_cases hkey : key ∈ l.visited
            · exact ⟨_, .revisited hmore hbudget hdecode hkind hjump hkey⟩
            · exact ⟨_, .jump hmore hbudget hdecode hkind hjump hkey⟩
        · match hrun : (executePacket fp pkt).run (l.processor.countPacket words) with
          | .error e p => exact ⟨_, .refused hmore hbudget hdecode hkind hrun⟩
          | .ok () p => exact ⟨_, .method hmore hbudget hdecode hkind hrun⟩

/-- An iteration is one of these. -/
theorem turn_of_eq (h : streamIteration fp s budgets l = i) : Turn fp s budgets l i := by
  obtain ⟨i', hturn⟩ := exists_turn fp s budgets l
  rw [← h, hturn.eq]
  exact hturn

end Iterations

/-! ## The statistics of a run -/

/-- The statistics that do not depend on what is drawn: words, packets, methods and jumps. -/
def counts (stats : PushbufferStats) : U32 × U32 × U32 × U32 :=
  (stats.wordsProcessed, stats.packetsProcessed, stats.methodsExecuted, stats.jumpsTaken)

/-- A method of the engine leaves the counts. -/
theorem counts_apply3dMethod (fp : FloatUnit) (method val : U32) (reader : ReadWordFn)
    (e : Engine) : counts (apply3dMethod fp method val reader e).2.stats = counts e.stats := by
  unfold apply3dMethod
  split
  · rfl
  split
  · rfl
  split
  · rfl
  split
  · rfl
  split
  · rfl
  split
  · rfl
  · rfl

/-- The rectangle after a method. -/
def staged (temp : StagedRect) (m : U32 × U32) : StagedRect :=
  if m.1 = kMethodRectX then { temp with x := m.2 }
  else if m.1 = kMethodRectY then { temp with y := m.2 }
  else if m.1 = kMethodRectW then { temp with w := m.2 }
  else if m.1 = kMethodRectH then { temp with h := m.2 }
  else temp

/-- What holds of a processor after each kind of method holds after every method. -/
theorem performMethod_induction {fp : FloatUnit} {P : PushbufferProcessor → Prop}
    (p : PushbufferProcessor) (subchannel : U32) (m : U32 × U32)
    (hobject : m.1 = kMethodSetObject → P (p.setSubchannelClass subchannel m.2))
    (hregister : ∀ q, q.device = p.device → q.ctx3d = p.ctx3d → q.stats = p.stats →
      q.subchannelClasses = p.subchannelClasses → q.rect = staged p.rect m → P q)
    (hclear : m.1 = kMethodClearSurface →
      P (p.setBackSurface (p.device.backSurface.clear (ColorRgba.fromU32 p.clearColor))))
    (hfill : m.1 = kMethodRectDraw → ∀ s, p.fillRect = .ok s → P (p.setBackSurface s))
    (hflip : m.1 = kMethodFlip → P { p with device := p.device.flip })
    (hengine : m.1 ∉ handledMethods →
      P (p.setEngine (apply3dMethod fp m.1 m.2 p.memoryReader p.engine).2)) :
    P (p.performMethod fp subchannel m.1 m.2) := by
  obtain ⟨method, val⟩ := m
  have hstored {c : U32} (q : PushbufferProcessor) (hc : method = c)
      (hq : q.device = p.device ∧ q.ctx3d = p.ctx3d ∧ q.stats = p.stats ∧
        q.subchannelClasses = p.subchannelClasses)
      (hrect : q.rect = staged p.rect (c, val)) : P q :=
    hregister q hq.1 hq.2.1 hq.2.2.1 hq.2.2.2 (hc ▸ hrect)
  unfold PushbufferProcessor.performMethod
  refine iteInduction (motive := P) hobject fun h₁ => ?_
  refine iteInduction (motive := P) (fun h => hstored _ h ⟨rfl, rfl, rfl, rfl⟩ rfl) fun h₂ => ?_
  refine iteInduction (motive := P) (fun h => hstored _ h ⟨rfl, rfl, rfl, rfl⟩ rfl) fun h₃ => ?_
  refine iteInduction (motive := P) (fun h => hstored _ h ⟨rfl, rfl, rfl, rfl⟩ rfl) fun h₄ => ?_
  refine iteInduction (motive := P) (fun h => hstored _ h ⟨rfl, rfl, rfl, rfl⟩ rfl) fun h₅ => ?_
  refine iteInduction (motive := P) hclear fun h₆ => ?_
  refine iteInduction (motive := P) (fun h => hstored _ h ⟨rfl, rfl, rfl, rfl⟩ rfl) fun h₇ => ?_
  refine iteInduction (motive := P) (fun h => hstored _ h ⟨rfl, rfl, rfl, rfl⟩ rfl) fun h₈ => ?_
  refine iteInduction (motive := P) (fun h => hstored _ h ⟨rfl, rfl, rfl, rfl⟩ rfl) fun h₉ => ?_
  refine iteInduction (motive := P) (fun h => hstored _ h ⟨rfl, rfl, rfl, rfl⟩ rfl) fun h₁₀ => ?_
  refine iteInduction (motive := P) (fun h => hstored _ h ⟨rfl, rfl, rfl, rfl⟩ rfl) fun h₁₁ => ?_
  refine iteInduction (motive := P) (fun h => ?_) fun h₁₂ => ?_
  · match hrect : p.fillRect with
    | .ok s => exact hfill h s hrect
    | .error _ => exact hstored p h ⟨rfl, rfl, rfl, rfl⟩ rfl
  refine iteInduction (motive := P) hflip fun h₁₃ => hengine ?_
  simp [handledMethods, h₁, h₂, h₃, h₄, h₅, h₆, h₇, h₈, h₉, h₁₀, h₁₁, h₁₂, h₁₃]

/-- A method performed leaves the counts. -/
theorem counts_performMethod (fp : FloatUnit) (p : PushbufferProcessor)
    (subchannel method val : U32) :
    counts (p.performMethod fp subchannel method val).stats = counts p.stats := by
  refine performMethod_induction (P := fun q => counts q.stats = counts p.stats) p subchannel
    (method, val) (fun _ => ?_) (fun q _ _ hstats _ _ => by rw [hstats]) (fun _ => rfl)
    (fun _ _ _ => rfl) (fun _ => rfl)
    fun _ => counts_apply3dMethod fp method val p.memoryReader p.engine
  unfold PushbufferProcessor.setSubchannelClass
  split <;> rfl

/-- Methods are counted one by one. -/
theorem counts_applyMethods (fp : FloatUnit) (subchannel : U32) (methods : List (U32 × U32))
    (p : PushbufferProcessor) :
    counts (methods.foldl (fun p m => p.applyMethod fp subchannel m) p).stats =
      (p.stats.wordsProcessed, p.stats.packetsProcessed,
        p.stats.methodsExecuted + BitVec.ofNat 32 methods.length, p.stats.jumpsTaken) := by
  induction methods generalizing p with
  | nil => simp [counts]
  | cons m rest ih =>
    have hperform := counts_performMethod fp p subchannel m.1 m.2
    simp only [counts, Prod.mk.injEq] at hperform
    obtain ⟨hwords, hpackets, hmethods, hjumps⟩ := hperform
    have hlength : 1 + BitVec.ofNat 32 rest.length = BitVec.ofNat 32 (rest.length + 1) := by
      rw [Nat.add_comm, BitVec.ofNat_add]
      rfl
    rw [List.foldl_cons, ih]
    simp only [PushbufferProcessor.applyMethod, hwords, hpackets, hmethods, hjumps,
      BitVec.add_assoc, hlength, List.length_cons]

/-- A packet that has been executed has had its methods counted. -/
theorem counts_applyPacket (fp : FloatUnit) (p : PushbufferProcessor) {pkt : PushbufferPacket}
    (hkind : pkt.opcode ≠ .jump) :
    counts (p.applyPacket fp pkt).stats =
      (p.stats.wordsProcessed, p.stats.packetsProcessed, p.stats.methodsExecuted + pkt.count,
        p.stats.jumpsTaken) := by
  unfold PushbufferProcessor.applyPacket
  rw [if_neg hkind, counts_applyMethods]
  simp [PushbufferPacket.methods]

/-! ## Validation -/

/-- What a validation keeps: the state of the GPU and the statistics. -/
def validated (p : PushbufferProcessor) : PushbufferProcessor × PushbufferStats :=
  (gpuState p, p.stats)

/-- Validating a method of the engine changes diagnostics only. -/
theorem keeps_validate3dMethod (method val count subchannel classId : U32) (reader : ReadWordFn)
    (ctx : Nv2a3dContext) :
    Keeps withoutDiagnostics (validate3dMethod method val count subchannel classId reader) ctx := by
  unfold validate3dMethod
  split
  · exact rfl
  split
  · exact ((quiet_get ctx).bind fun _ _ => quiet_ofExcept _ _).keeps _
  split
  · exact rfl
  · exact rfl

/-- A computation on the context that changes diagnostics only changes no more of the processor.
-/
theorem keeps_onContext {α : Type} {f : EStateM Error Nv2a3dContext α} {p : PushbufferProcessor}
    (h : Keeps withoutDiagnostics f p.ctx3d) : Keeps validated (onContext f) p := by
  refine h.zoom fun ctx hctx => ?_
  simp only [validated, gpuState, hctx]

/-- Only the diagnostics change. -/
theorem keeps_recordUnsupported (entry : UnsupportedMethodEntry) (ctx : Nv2a3dContext) :
    Keeps withoutDiagnostics
      (modify fun ctx => ctx.recordUnsupportedMethod entry : EStateM Error Nv2a3dContext Unit)
      ctx := rfl

/-- Validating a method changes diagnostics only. -/
theorem keeps_validateMethod (packet : PushbufferPacket) (temp : StagedRect) (method val : U32)
    (p : PushbufferProcessor) : Keeps validated (validateMethod packet temp method val) p := by
  unfold validateMethod
  refine ((quiet_get p).keeps _).bind fun q s' hget => ?_
  split
  · split
    · exact rfl
    · exact Keeps.bind (keeps_onContext (keeps_recordUnsupported ..)) fun _ _ _ => rfl
  split
  · exact rfl
  split
  · exact rfl
  split
  · exact rfl
  split
  · exact rfl
  split
  · exact rfl
  split
  · dsimp only
    split <;> exact rfl
  · exact (keeps_onContext (keeps_validate3dMethod ..)).bind fun _ _ _ => rfl

/-- Validating the methods changes diagnostics only. -/
theorem keeps_validateMethods (packet : PushbufferPacket) (methods : List (U32 × U32))
    (temp : StagedRect) (p : PushbufferProcessor) :
    Keeps validated (validateMethods packet methods temp) p := by
  induction methods generalizing temp p with
  | nil => rfl
  | cons m rest ih => exact (keeps_validateMethod packet temp m.1 m.2 p).bind fun _ _ _ => ih _ _

/-- Validating a packet changes diagnostics only. -/
theorem keeps_validatePacket (packet : PushbufferPacket) (p : PushbufferProcessor) :
    Keeps validated (validatePacket packet) p := by
  unfold validatePacket
  split
  · split <;> exact rfl
  split
  · exact rfl
  split
  · exact rfl
  · exact ((quiet_get p).keeps _).bind fun _ _ _ => keeps_validateMethods ..

/-- A packet that has been executed has passed its validation and been applied. -/
theorem executePacket_ok {fp : FloatUnit} {pkt : PushbufferPacket} {p p' : PushbufferProcessor}
    (h : (executePacket fp pkt).run p = .ok () p') :
    ∃ q, (validatePacket pkt).run p = .ok () q ∧ validated q = validated p ∧
      p' = q.applyPacket fp pkt := by
  unfold executePacket at h
  obtain ⟨_, q, hvalidate, happly⟩ := run_bind_ok h
  have hq := run_ok_of_tryCatch (fun e s₁ => ⟨_, rfl⟩) hvalidate
  refine ⟨q, hq, (keeps_validatePacket pkt p).ok hq, ?_⟩
  cases happly
  rfl

/-- A packet that has been refused has left the state of the GPU as it was. -/
theorem executePacket_error {fp : FloatUnit} {pkt : PushbufferPacket}
    {p p' : PushbufferProcessor} {e : Error} (h : (executePacket fp pkt).run p = .error e p') :
    gpuState p' = gpuState p := by
  cases hvalidate : (validatePacket pkt).run p with
  | ok _ q =>
    rw [executePacket, EStateM.run_bind, run_tryCatch_ok hvalidate] at h
    cases h
  | error e' q =>
    rw [executePacket, EStateM.run_bind, run_tryCatch_error hvalidate] at h
    cases h
    exact congrArg Prod.fst ((keeps_validatePacket pkt p).error hvalidate)

section Runs

variable {π κ : Type} [DecidableEq κ] {fp : FloatUnit} {s : PacketStream π κ}
variable {budgets : PushbufferBudgets} {l u t : StreamLoop π κ} {heads : List (StreamLoop π κ)}

omit [DecidableEq κ] in
/-- One turn more adds the words it takes. -/
theorem wordsSoFar_snoc (s : PacketStream π κ) (l u : StreamLoop π κ)
    (heads : List (StreamLoop π κ)) :
    wordsSoFar s l (heads ++ [u]) = wordsSoFar s l heads + wordsAt s u := by
  induction heads with
  | nil => exact Nat.add_comm _ _
  | cons v heads ih =>
    have hfirst : wordsSoFar s l (v :: heads ++ [u]) = wordsAt s v + _ :=
      congrArg (wordsAt s v + ·) ih
    rw [hfirst, ← Nat.add_assoc]
    rfl

omit [DecidableEq κ] in
/-- One turn more adds the methods it executes. -/
theorem methodsSoFar_snoc (s : PacketStream π κ) (l u : StreamLoop π κ)
    (heads : List (StreamLoop π κ)) :
    methodsSoFar s l (heads ++ [u]) = methodsSoFar s l heads + methodsAt s u := by
  induction heads with
  | nil => exact Nat.add_comm _ _
  | cons v heads ih =>
    have hfirst : methodsSoFar s l (v :: heads ++ [u]) = methodsAt s v + _ :=
      congrArg (methodsAt s v + ·) ih
    rw [hfirst, ← Nat.add_assoc]
    rfl

/-- What an iteration that another one follows adds to the statistics. -/
theorem counts_again (h : streamIteration fp s budgets u = .again t) :
    counts t.processor.stats =
      (u.processor.stats.wordsProcessed + BitVec.ofNat 32 (wordsAt s u),
        u.processor.stats.packetsProcessed + 1,
        u.processor.stats.methodsExecuted + BitVec.ofNat 32 (methodsAt s u),
        t.processor.stats.jumpsTaken) := by
  cases turn_of_eq h with
  | jump hmore hbudget hdecode hkind hjump hnew =>
    simp [counts, wordsAt, methodsAt, packetAt, hdecode, hkind, Except.toOption,
      PushbufferProcessor.countJump, PushbufferProcessor.countPacket]
  | @method pkt words after p hmore hbudget hdecode hkind hrun =>
    obtain ⟨q, -, hq, rfl⟩ := executePacket_ok hrun
    have hstats : q.stats = (u.processor.countPacket words).stats := congrArg Prod.snd hq
    have hcounts := counts_applyPacket fp q hkind
    simp only [counts, Prod.mk.injEq] at hcounts ⊢
    simp [hcounts, hstats, wordsAt, methodsAt, packetAt, hdecode, hkind, Except.toOption,
      PushbufferProcessor.countPacket]

/-- An iteration that another one follows has started its packet. -/
theorem startsPacket_of_again (h : streamIteration fp s budgets u = .again t) :
    StartsPacket fp s budgets u := by
  have hcounts := counts_again h
  simp only [counts, Prod.mk.injEq] at hcounts
  unfold StartsPacket
  rw [h]
  simp only [processorAfter, hcounts.2.1]
  bv_omega

/-- Packets are started below the budgets only. -/
theorem belowBudgets_of_startsPacket (h : StartsPacket fp s budgets t) :
    BelowBudgets t.processor.stats budgets := by
  have hbudget : checkBudgetExhausted t.processor.stats budgets = false := by
    obtain ⟨i, hturn⟩ := exists_turn fp s budgets t
    unfold StartsPacket at h
    rw [hturn.eq] at h
    cases hturn with
    | finished => exact absurd rfl h
    | exhausted => exact absurd rfl h
    | undecoded hmore hbudget => exact hbudget
    | unreachable hmore hbudget => exact hbudget
    | revisited hmore hbudget => exact hbudget
    | jump hmore hbudget => exact hbudget
    | refused hmore hbudget => exact hbudget
    | method hmore hbudget => exact hbudget
  simp only [checkBudgetExhausted, Bool.or_eq_false_iff, decide_eq_false_iff_not, ge_iff_le,
    BitVec.not_le] at hbudget
  obtain ⟨⟨⟨⟨⟨hwords, hpackets⟩, hmethods⟩, hjumps⟩, hvertices⟩, htriangles⟩ := hbudget
  exact ⟨hwords, hpackets, hmethods, hjumps, hvertices, htriangles⟩

/-- The statistics at a head are the counts up to it, as 32-bit numbers. -/
theorem counted_of_iterates (h : Iterates fp s budgets heads l t) :
    t.processor.stats.wordsProcessed = BitVec.ofNat 32 (wordsSoFar s l heads) ∧
      t.processor.stats.methodsExecuted = BitVec.ofNat 32 (methodsSoFar s l heads) := by
  induction heads using List.reverseRecOn generalizing t with
  | nil =>
    cases h
    simp [wordsSoFar, methodsSoFar]
  | append_singleton heads u ih =>
    obtain ⟨hgoes, hlast⟩ := h.of_snoc
    obtain ⟨hwords, hmethods⟩ := ih hgoes
    have hcounts := counts_again hlast
    simp only [counts, Prod.mk.injEq] at hcounts
    rw [hcounts.1, hcounts.2.2.1, hwords, hmethods, wordsSoFar_snoc, methodsSoFar_snoc,
      BitVec.ofNat_add, BitVec.ofNat_add]
    exact ⟨rfl, rfl⟩

/-- The targets that a run has followed have been added to those before it. -/
theorem visited_of_iterates (h : Iterates fp s budgets heads l t) :
    t.visited = (heads.filterMap (targetAt s)).reverse ++ l.visited ∧
      (l.visited.Nodup → t.visited.Nodup) := by
  induction heads using List.reverseRecOn generalizing t with
  | nil =>
    cases h
    exact ⟨rfl, id⟩
  | append_singleton heads u ih =>
    obtain ⟨hgoes, hlast⟩ := h.of_snoc
    obtain ⟨hvisited, hnodup⟩ := ih hgoes
    cases turn_of_eq hlast with
    | jump hmore hbudget hdecode hkind hjump hnew =>
      refine ⟨?_, fun hl => List.nodup_cons.2 ⟨hnew, hnodup hl⟩⟩
      simp [targetAt, hdecode, hkind, hjump, Except.toOption, hvisited]
    | method hmore hbudget hdecode hkind hrun =>
      refine ⟨?_, hnodup⟩
      simp [targetAt, hdecode, hkind, hvisited]

/-- No packet of a run is over the budgets when it starts, as long as the counts fit. -/
theorem below_of_countsFit (hfit : CountsFit fp s budgets l)
    (h : Iterates fp s budgets heads l t) (hstarts : StartsPacket fp s budgets t) :
    wordsSoFar s l heads < budgets.maxWords.toNat ∧
      methodsSoFar s l heads < budgets.maxMethods.toNat := by
  have hbelow := belowBudgets_of_startsPacket hstarts
  obtain ⟨hwords, hmethods⟩ := counted_of_iterates h
  have hbelowWords : t.processor.stats.wordsProcessed.toNat < budgets.maxWords.toNat :=
    hbelow.words
  have hbelowMethods : t.processor.stats.methodsExecuted.toNat < budgets.maxMethods.toNat :=
    hbelow.methods
  suffices hexact : wordsSoFar s l heads < 0x100000000 ∧ methodsSoFar s l heads < 0x100000000 by
    rw [hwords, BitVec.toNat_ofNat, Nat.mod_eq_of_lt hexact.1] at hbelowWords
    rw [hmethods, BitVec.toNat_ofNat, Nat.mod_eq_of_lt hexact.2] at hbelowMethods
    exact ⟨hbelowWords, hbelowMethods⟩
  -- The counts up to the packet before are exact, and its own words and methods fit.
  induction heads using List.reverseRecOn generalizing t with
  | nil =>
    simp only [wordsSoFar, methodsSoFar, List.foldr_nil]
    exact ⟨BitVec.isLt _, BitVec.isLt _⟩
  | append_singleton heads u ih =>
    obtain ⟨hgoes, hlast⟩ := h.of_snoc
    have hustarts := startsPacket_of_again hlast
    have hu := belowBudgets_of_startsPacket hustarts
    obtain ⟨huwords, humethods⟩ := counted_of_iterates hgoes
    obtain ⟨hexactWords, hexactMethods⟩ := ih hgoes hustarts hu huwords humethods hu.words hu.methods
    obtain ⟨hfitWords, hfitMethods⟩ := hfit heads u t hgoes hlast hstarts
    rw [huwords, BitVec.toNat_ofNat, Nat.mod_eq_of_lt hexactWords] at hfitWords
    rw [humethods, BitVec.toNat_ofNat, Nat.mod_eq_of_lt hexactMethods] at hfitMethods
    rw [wordsSoFar_snoc, methodsSoFar_snoc]
    exact ⟨hfitWords, hfitMethods⟩

/-- A run keeps to its budgets if and only if its counts fit. -/
theorem runBounded_iff (hfresh : l.visited = []) :
    RunBounded fp s budgets l ↔ CountsFit fp s budgets l := by
  constructor
  · intro hbounded heads u t hgoes hlast hstarts
    have hwords := hbounded.words _ _ (hgoes.snoc hlast) hstarts
    have hmethods := hbounded.methods _ _ (hgoes.snoc hlast) hstarts
    rw [wordsSoFar_snoc] at hwords
    rw [methodsSoFar_snoc] at hmethods
    obtain ⟨huwords, humethods⟩ := counted_of_iterates hgoes
    have hmodWords := Nat.mod_le (wordsSoFar s l heads) 0x100000000
    have hmodMethods := Nat.mod_le (methodsSoFar s l heads) 0x100000000
    have hmaxWords := budgets.maxWords.isLt
    have hmaxMethods := budgets.maxMethods.isLt
    rw [huwords, humethods, BitVec.toNat_ofNat, BitVec.toNat_ofNat]
    omega
  · intro hfit
    refine ⟨fun heads t hgoes => ?_, fun heads t hgoes => belowBudgets_of_startsPacket,
      fun heads t hgoes hstarts => ?_, fun heads t hgoes hstarts => ?_⟩
    · obtain ⟨hvisited, hnodup⟩ := visited_of_iterates hgoes
      rw [hfresh, List.append_nil] at hvisited
      have htargets := hnodup (by rw [hfresh]; exact List.nodup_nil)
      rw [hvisited] at htargets
      exact List.nodup_reverse.1 htargets
    · have hbelow := below_of_countsFit hfit hgoes hstarts
      omega
    · have hbelow := below_of_countsFit hfit hgoes hstarts
      omega

end Runs

/-! ## The decoder -/

section Decoder

variable {pkt : PushbufferPacket} {words : List U32} {offset after : ℕ} {header : U32}

/-- The target of a jump is aligned. -/
theorem jumpTarget_aligned (header : U32) : (header &&& ~~~0x00000003) % 4 = 0 := by
  apply BitVec.eq_of_toNat_eq
  have hclear := toNat_and_not_pred header 4 (k := 2) rfl
  rw [BitVec.toNat_umod]
  exact Nat.mod_eq_zero_of_dvd ⟨_, hclear.trans (Nat.mul_comm _ _)⟩

/-- What a header word can name. -/
theorem decodeHeader_ok (h : decodeHeader header = .ok pkt) :
    pkt.count.toNat ≤ 0x7FF ∧ (pkt.opcode = .jump → pkt.jumpTarget % 4 = 0) := by
  unfold decodeHeader at h
  split at h
  · cases h
    exact ⟨Nat.zero_le _, fun _ => jumpTarget_aligned header⟩
  · dsimp only at h
    split at h
    · cases h
    · cases h
      refine ⟨?_, fun hkind => by cases hkind⟩
      rw [BitVec.toNat_and]
      exact Nat.and_le_right

/-- A packet of a list ends within it. -/
theorem decodeFromSpan_ok (h : decodeFromSpan words offset = .ok (pkt, after)) :
    offset < after ∧ after ≤ words.length ∧ pkt.count.toNat ≤ 0x7FF ∧
      (pkt.opcode ≠ .jump → after = offset + 1 + pkt.count.toNat) ∧
      (pkt.opcode = .jump → pkt.jumpTarget % 4 = 0) := by
  unfold decodeFromSpan at h
  cases hheader : words[offset]? with
  | none => simp [hheader] at h
  | some header =>
    have hoffset : offset < words.length := (List.getElem?_eq_some_iff.1 hheader).1
    rw [hheader] at h
    obtain ⟨pkt', hdecode, hpkt⟩ := bind_eq_ok h
    have hpkt' := decodeHeader_ok hdecode
    split at hpkt
    next hkind =>
      cases hpkt
      exact ⟨by omega, by omega, hpkt'.1, fun hmethod => absurd hkind hmethod, hpkt'.2⟩
    split at hpkt
    · cases hpkt
    next hkind hinside =>
      cases hpkt
      exact ⟨by omega, by omega, hpkt'.1, fun _ => rfl, fun hjump => absurd hjump hkind⟩

/-- A packet of guest memory has no more words than are left. -/
theorem decodeFromMemory_ok {read : GuestAddr → Result U32} {addr : GuestAddr}
    {wordsAvailable : U32} (h : decodeFromMemory addr read wordsAvailable = .ok pkt) :
    0 < wordsAvailable.toNat ∧ pkt.count.toNat ≤ 0x7FF ∧
      (pkt.opcode ≠ .jump → pkt.count.toNat + 1 ≤ wordsAvailable.toNat) ∧
      (pkt.opcode = .jump → pkt.jumpTarget % 4 = 0) := by
  unfold decodeFromMemory at h
  simp only [bind_pure_comp] at h
  split at h
  · cases h
  next hsome =>
    have hpositive : 0 < wordsAvailable.toNat := by bv_omega
    split at h
    · cases h
    obtain ⟨header, -, h⟩ := bind_eq_ok h
    obtain ⟨pkt', hdecode, h⟩ := bind_eq_ok h
    have hpkt' := decodeHeader_ok hdecode
    split at h
    · cases h
      exact ⟨hpositive, hpkt'.1, by simp_all, hpkt'.2⟩
    split at h
    · cases h
    next hkind hinside =>
      obtain ⟨parameters, -, h⟩ := exists_of_map_ok h
      subst h
      exact ⟨hpositive, hpkt'.1, fun _ => by bv_omega, fun hjump => absurd hjump hkind⟩

end Decoder

/-! ## Calls end -/

section Calls

variable (fp : FloatUnit) (p : PushbufferProcessor) (budgets : PushbufferBudgets)

/-- The targets of a list of words are different offsets of it. -/
structure InBuffer (words : List U32) (l : StreamLoop ℕ ℕ) : Prop where
  position : l.position ≤ words.length
  nodup : l.visited.Nodup
  targets : ∀ target ∈ l.visited, target < words.length

/-- A call on a buffer visits no more places than there are words. -/
theorem InBuffer.length_le {words : List U32} {l : StreamLoop ℕ ℕ} (h : InBuffer words l) :
    l.visited.length ≤ words.length := by
  have hsubset : l.visited ⊆ List.range words.length :=
    fun target htarget => List.mem_range.2 (h.targets target htarget)
  simpa using (h.nodup.subperm hsubset).length_le

/-- Jumps that are left count more than all offsets. -/
theorem executeBuffer_ends (words : List U32) :
    ∃ r, executeBuffer fp p words budgets = some r := by
  let n := words.length
  refine exists_loopWithin (I := InBuffer words)
    (fun l => (n - l.visited.length) * (n + 1) + (n - l.position)) (fun l l' hl hstep => ?_)
    ⟨Nat.zero_le _, List.nodup_nil, by simp⟩ ?_
  · cases turn_of_eq hstep with
    | @jump pkt words' after position key hmore hbudget hdecode hkind hjump hnew =>
      obtain ⟨⟨pkt', after'⟩, hspan, hpkt⟩ := bind_eq_ok hdecode
      have htarget : position = key ∧ key < n := by
        simp only [bufferStream] at hjump
        split at hjump
        · cases hjump
        · cases hjump
          exact ⟨rfl, by omega⟩
      have hl' : InBuffer words ⟨(l.processor.countPacket words').countJump, position,
          key :: l.visited⟩ := by
        refine ⟨?_, List.nodup_cons.2 ⟨hnew, hl.nodup⟩, ?_⟩
        · exact htarget.1 ▸ htarget.2.le
        · exact List.forall_mem_cons.2 ⟨htarget.2, hl.targets⟩
      refine ⟨hl', ?_⟩
      have hlength := hl'.length_le
      simp only [List.length_cons] at hlength ⊢
      have hfewer : n - l.visited.length = n - (l.visited.length + 1) + 1 := by omega
      rw [hfewer, Nat.add_mul]
      omega
    | method hmore hbudget hdecode hkind hrun =>
      obtain ⟨⟨pkt', after'⟩, hspan, hpkt⟩ := bind_eq_ok hdecode
      cases hpkt
      obtain ⟨hlater, hinside, -, -, -⟩ := decodeFromSpan_ok hspan
      refine ⟨⟨hinside, hl.nodup, hl.targets⟩, ?_⟩
      have hposition := hl.position
      dsimp only
      omega
  · show n * (n + 1) + n < (n + 1) * (n + 1)
    have hsquare : (n + 1) * (n + 1) = n * (n + 1) + n + 1 := by ring
    omega

/-- Every packet takes a word at least. -/
theorem executeFromMemory_ends (startAddr : GuestAddr) (read : GuestAddr → Result U32)
    (maxWords : U32) : ∃ r, executeFromMemory fp p startAddr read maxWords budgets = some r := by
  refine exists_loopWithin (I := fun _ => True) (fun l => l.position.wordsRemaining.toNat)
    (fun l l' _ hstep => ⟨trivial, ?_⟩) trivial (Nat.lt_succ_self _)
  cases turn_of_eq hstep with
  | jump hmore hbudget hdecode hkind hjump hnew =>
    obtain ⟨pkt', hmemory, hpkt⟩ := bind_eq_ok hdecode
    cases hpkt
    cases hjump
    obtain ⟨hpositive, -, -, -⟩ := decodeFromMemory_ok hmemory
    simp only [hkind, if_true]
    split <;> bv_omega
  | method hmore hbudget hdecode hkind hrun =>
    obtain ⟨pkt', hmemory, hpkt⟩ := bind_eq_ok hdecode
    cases hpkt
    obtain ⟨hpositive, hcount, hinside, -⟩ := decodeFromMemory_ok hmemory
    have hwords := hinside hkind
    simp only [hkind, if_false]
    split <;> bv_omega

/-- **Calls are bounded**: every call ends, and its run follows no jump target twice and keeps to
its budgets up to one packet if and only if the counts of its run fit. -/
theorem call_bounded_iff (c : PushbufferCall) :
    (∃ r, c.run fp p = some r) ∧ (c.Bounded fp p ↔ c.CountsFit fp p) := by
  cases c with
  | executeBuffer words budgets =>
    exact ⟨executeBuffer_ends fp p budgets words, runBounded_iff rfl⟩
  | executeFromMemory startAddr read maxWords budgets =>
    exact ⟨executeFromMemory_ends fp p budgets startAddr read maxWords, runBounded_iff rfl⟩

end Calls

end Xblob.Analysis
