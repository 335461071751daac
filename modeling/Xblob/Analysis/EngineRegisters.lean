import Mathlib.Data.List.Nodup
import Xblob.Computation.Stores
import Xblob.Interface.Pushbuffers

/-!
# Registers of the 3D engine

A size register computes the pitch from the format that the stage has then, so it is the one
register whose store depends on another.  A vertex method is found by its bank only when no
register of the engine has its number, and one number of each bank is a register's.
-/

set_option autoImplicit false

namespace Xblob.Analysis

open Xblob.Computation Xblob.Gpu Xblob.Interface

/-! ## Texture stages -/

/-- Where a register is within its stage. -/
def subOffset : TextureMethod → U32
  | .offset => 0x00
  | .format => 0x04
  | .address => 0x08
  | .control => 0x0C
  | .filter => 0x10
  | .size => 0x14

/-- What a write stores in its stage. -/
def stageStore (stage : TextureStage) (w : TextureWrite) : TextureStage :=
  textureRegister (subOffset w.1) w.2 stage

/-- A texture method names its stage. -/
theorem stageIndex_method (m : TextureMethod) (i : Fin 4) :
    ((m.method i - kMethod3dTextureOffsetBase) / 0x40).toNat = i := by
  cases m <;> revert i <;> decide

/-- A texture method names its register. -/
theorem subOffset_method (m : TextureMethod) (i : Fin 4) :
    (m.method i - kMethod3dTextureOffsetBase) % 0x40 = subOffset m := by
  cases m <;> revert i <;> decide

/-- A write of a stage goes to that stage. -/
theorem applyTextureStageMethod_stage (i : Fin 4) (w : TextureWrite) (ctx : Nv2a3dContext) :
    (applyTextureStageMethod (w.1.method i) w.2 ctx).textureStages i =
      stageStore (ctx.textureStages i) w := by
  have hidx := stageIndex_method w.1 i
  unfold applyTextureStageMethod Nv2a3dContext.modifyTextureStage
  rw [subOffset_method]
  simp only [hidx, Fin.is_lt, ↓reduceDIte, Fin.eta, Function.update_self]
  rfl

/-- What the writes leave of a stage, as a fold of stores. -/
theorem stageAfter_eq (i : Fin 4) (writes : List TextureWrite) (ctx : Nv2a3dContext) :
    stageAfter i writes ctx = writes.foldl stageStore (ctx.textureStages i) := by
  induction writes generalizing ctx with
  | nil => rfl
  | cons w rest ih =>
    rw [List.foldl_cons, ← applyTextureStageMethod_stage]
    exact ih _

section

variable {w : TextureWrite}

/-- The two registers that depend on each other. -/
@[simp] theorem stageStore_format (f : U32) (stage : TextureStage) :
    stageStore stage (.format, f) =
      { stage with
        layout := if f &&& 1 ≠ 0 then .linear else .swizzled
        format := (f >>> 8) &&& 0xFF } := by
  simp [stageStore, subOffset, textureRegister]

/-- A size stored sets the dimensions, and the pitch from the format of the stage. -/
@[simp] theorem stageStore_size (s : U32) (stage : TextureStage) :
    stageStore stage (.size, s) =
      { stage with
        width := s &&& 0xFFFF
        height := (s >>> 16) &&& 0xFFFF
        pitch := (s &&& 0xFFFF) * stage.format.bytesPerPixel } := by
  simp [stageStore, subOffset, textureRegister]

/-- Only a format changes the format. -/
theorem stageStore_format_unchanged (h : w.1 ≠ .format) (stage : TextureStage) :
    (stageStore stage w).format = stage.format := by
  obtain ⟨m, v⟩ := w
  cases m <;> simp_all [stageStore, subOffset, textureRegister]

/-- Only a size changes the pitch and the width. -/
theorem stageStore_pitch_unchanged (h : w.1 ≠ .size) (stage : TextureStage) :
    (stageStore stage w).pitch = stage.pitch ∧ (stageStore stage w).width = stage.width := by
  obtain ⟨m, v⟩ := w
  cases m <;> simp_all [stageStore, subOffset, textureRegister]

/-- Two stores commute, unless one of them is of the format and the other of the size. -/
theorem stageStore_comm {w w' : TextureWrite} (hne : w.1 ≠ w'.1)
    (h : ¬(w.1 = .format ∧ w'.1 = .size)) (h' : ¬(w.1 = .size ∧ w'.1 = .format))
    (stage : TextureStage) :
    stageStore (stageStore stage w) w' = stageStore (stageStore stage w') w := by
  obtain ⟨m, v⟩ := w
  obtain ⟨m', v'⟩ := w'
  cases m <;> cases m' <;> simp_all [stageStore, subOffset, textureRegister]

/-! ### The pitch -/

/-- A row of so few pixels is as long in two formats only if the pixels are, or there are none. -/
theorem row_eq_iff (s : U32) (fmt fmt' : TextureFormat) :
    (s &&& 0xFFFF) * fmt.bytesPerPixel = (s &&& 0xFFFF) * fmt'.bytesPerPixel ↔
      s &&& 0xFFFF = 0 ∨ fmt.bytesPerPixel = fmt'.bytesPerPixel := by
  have hwidth : (s &&& 0xFFFF).toNat ≤ 0xFFFF := by
    rw [BitVec.toNat_and]
    exact Nat.and_le_right
  generalize s &&& 0xFFFF = width at hwidth
  by_cases hsame : fmt.bytesPerPixel = fmt'.bytesPerPixel
  · simp [hsame]
  · rcases TextureFormat.bytesPerPixel_cases fmt with h | h | h <;>
      rcases TextureFormat.bytesPerPixel_cases fmt' with h' | h' | h' <;>
      rw [h, h'] at hsame ⊢ <;> first | exact absurd rfl hsame | bv_omega

/-- A format and a size that are stored in both orders. -/
theorem format_size_comm_iff (f s : U32) (stage : TextureStage) :
    stageStore (stageStore stage (.format, f)) (.size, s) =
        stageStore (stageStore stage (.size, s)) (.format, f) ↔
      s &&& 0xFFFF = 0 ∨
        stage.format.bytesPerPixel = TextureFormat.bytesPerPixel ((f >>> 8) &&& 0xFF) := by
  rw [stageStore_format, stageStore_size, stageStore_size, stageStore_format]
  simp only [TextureStage.mk.injEq, and_true, true_and]
  rw [row_eq_iff, eq_comm (a := stage.format.bytesPerPixel)]

/-- Every format in the list has pixels as long as those of the stage, or the width is zero. -/
def Settled (writes : List TextureWrite) (stage : TextureStage) : Prop :=
  ∀ format size, (.format, format) ∈ writes → (.size, size) ∈ writes → size &&& 0xFFFF = 0 ∨
    stage.format.bytesPerPixel = TextureFormat.bytesPerPixel ((format >>> 8) &&& 0xFF)

section

variable {writes : List TextureWrite} {stage : TextureStage}
  (hdistinct : (writes.map Prod.fst).Nodup)

include hdistinct

/-- A stage that is settled for the writes stays so. -/
theorem settled_stageStore (hw : w ∈ writes) (h : Settled writes stage) :
    Settled writes (stageStore stage w) := by
  intro f s hf hs
  by_cases hformat : w.1 = .format
  · have hsame : w = (.format, f) := List.inj_on_of_nodup_map hdistinct hw hf hformat
    subst hsame
    exact .inr (by rw [stageStore_format])
  · rw [stageStore_format_unchanged hformat]
    exact h f s hf hs

/-- Under the condition any two writes of the list commute. -/
theorem settled_comm {w' : TextureWrite} (hw : w ∈ writes) (hw' : w' ∈ writes)
    (h : Settled writes stage) :
    stageStore (stageStore stage w) w' = stageStore (stageStore stage w') w := by
  by_cases hkey : w.1 = w'.1
  · rw [List.inj_on_of_nodup_map hdistinct hw hw' hkey]
  · by_cases hfs : w.1 = .format ∧ w'.1 = .size
    · obtain ⟨f, rfl⟩ : ∃ f, w = (.format, f) := ⟨w.2, Prod.ext hfs.1 rfl⟩
      obtain ⟨s, rfl⟩ : ∃ s, w' = (.size, s) := ⟨w'.2, Prod.ext hfs.2 rfl⟩
      exact (format_size_comm_iff f s stage).2 (h f s hw hw')
    · by_cases hsf : w.1 = .size ∧ w'.1 = .format
      · obtain ⟨s, rfl⟩ : ∃ s, w = (.size, s) := ⟨w.2, Prod.ext hsf.1 rfl⟩
        obtain ⟨f, rfl⟩ : ∃ f, w' = (.format, f) := ⟨w'.2, Prod.ext hsf.2 rfl⟩
        exact ((format_size_comm_iff f s stage).2 (h f s hw' hw)).symm
      · exact stageStore_comm hkey hfs hsf stage

/-- The list with its format and its size first. -/
theorem format_size_first {f s : U32} (hf : (.format, f) ∈ writes) (hs : (.size, s) ∈ writes) :
    ∃ rest, writes.Perm ((.format, f) :: (.size, s) :: rest) ∧
      ∀ w ∈ rest, w.1 ≠ .format ∧ w.1 ≠ .size := by
  have hf' := List.perm_cons_erase hf
  have hs' : (.size, s) ∈ writes.erase (.format, f) := (List.mem_erase_of_ne (by simp)).2 hs
  have hperm := hf'.trans ((List.perm_cons_erase hs').cons _)
  refine ⟨_, hperm, ?_⟩
  have hnodup := (hperm.map Prod.fst).nodup_iff.1 hdistinct
  simp only [List.map_cons, List.nodup_cons, List.mem_cons, List.mem_map, not_or,
    not_exists, not_and] at hnodup
  exact fun w hw => ⟨hnodup.1.2 w hw, hnodup.2.1 w hw⟩

end

/-- Writes of neither format nor size leave both, and the pitch. -/
theorem foldl_rest_pitch {rest : List TextureWrite}
    (hrest : ∀ w ∈ rest, w.1 ≠ .format ∧ w.1 ≠ .size) (stage : TextureStage) :
    (rest.foldl stageStore stage).pitch = stage.pitch ∧
      (rest.foldl stageStore stage).width = stage.width ∧
      (rest.foldl stageStore stage).format = stage.format :=
  ⟨foldl_unchanged (fun w hw t => (stageStore_pitch_unchanged (hrest w hw).2 t).1) stage,
    foldl_unchanged (fun w hw t => (stageStore_pitch_unchanged (hrest w hw).2 t).2) stage,
    foldl_unchanged (fun w hw t => stageStore_format_unchanged (hrest w hw).1 t) stage⟩

end

/-- The writes of a stage do not depend on their order exactly when the width is zero or the
format keeps the length of a pixel. -/
theorem texture_writes_orderFree_iff (ctx : Nv2a3dContext) (i : Fin 4) (writes : List TextureWrite)
    (hdistinct : (writes.map Prod.fst).Nodup) :
    OrderFree i writes ctx ↔ PitchSettled i writes ctx := by
  constructor
  · intro h f s hf hs
    obtain ⟨rest, hperm, hrest⟩ := format_size_first hdistinct hf hs
    have hforth := h.sameStage _ hperm.symm
    have hback := h.sameStage _ ((List.Perm.swap _ _ rest).trans hperm.symm)
    have hpitch := congrArg TextureStage.pitch (hforth.trans hback.symm)
    rw [stageAfter_eq, stageAfter_eq, List.foldl_cons, List.foldl_cons, List.foldl_cons,
      List.foldl_cons, (foldl_rest_pitch hrest _).1, (foldl_rest_pitch hrest _).1] at hpitch
    simp only [stageStore_format, stageStore_size] at hpitch
    rw [row_eq_iff] at hpitch
    exact hpitch.imp_right Eq.symm
  · intro h
    have hsame : ∀ writes', writes'.Perm writes →
        stageAfter i writes' ctx = stageAfter i writes ctx := by
      intro writes' hperm
      rw [stageAfter_eq, stageAfter_eq]
      symm
      apply foldl_eq_of_perm hperm.symm (P := Settled writes)
      · exact fun w hw stage hst => settled_stageStore hdistinct hw hst
      · exact fun w hw w' hw' stage hst => settled_comm hdistinct hw hw' hst
      · exact h
    refine ⟨hsame, fun hformat hsize => ?_⟩
    obtain ⟨⟨_, f⟩, hf, rfl⟩ := List.mem_map.1 hformat
    obtain ⟨⟨_, s⟩, hs, rfl⟩ := List.mem_map.1 hsize
    obtain ⟨rest, hperm, hrest⟩ := format_size_first hdistinct hf hs
    rw [← hsame _ hperm.symm, stageAfter_eq, List.foldl_cons, List.foldl_cons]
    obtain ⟨hpitch, hwidth, hfmt⟩ := foldl_rest_pitch hrest
      (stageStore (stageStore (ctx.textureStages i) (.format, f)) (.size, s))
    dsimp only
    rw [hpitch, hwidth, hfmt]
    simp

/-- From one format of four bytes a pixel to another. -/
theorem texture_writes_orderFree_a8r8g8b8 :
    (([(.size, 0x00400040), (.format, 0x00000C01)] : List TextureWrite).map Prod.fst).Nodup ∧
      OrderFree 0 [(.size, 0x00400040), (.format, 0x00000C01)]
        { textureStages := fun _ => { format := .a8r8g8b8 } } := by
  have hdistinct :
      (([(.size, 0x00400040), (.format, 0x00000C01)] : List TextureWrite).map Prod.fst).Nodup := by
    decide
  refine ⟨hdistinct, (texture_writes_orderFree_iff _ 0 _ hdistinct).2 fun f s hf hs => ?_⟩
  simp at hf hs
  subst hf
  exact .inr (by decide)

/-- A size written before its format keeps the pitch of the format before. -/
theorem size_before_format :
    ¬∀ (ctx : Nv2a3dContext) (i : Fin 4) (writes : List TextureWrite),
      (writes.map Prod.fst).Nodup → OrderFree i writes ctx := by
  intro h
  have hpitch := (h {} 0 [(.size, 0x00400040), (.format, 0x00000C01)] (by decide)).pitch
    (by decide) (by decide)
  revert hpitch
  decide

/-! ## Vertex attributes -/

section

variable (fp : FloatUnit) (reader : ReadWordFn) (val : U32) {i : Fin 16} (e : Engine)

/-- A method that neither draws nor clears, and is no register's, is one of a bank's. -/
theorem apply3dMethod_bank {method : U32} (hclear : method ≠ kMethod3dClearSurface)
    (hdraw : isDrawMethod method = false) (hfree : registerMethods.lookup method = none) :
    (apply3dMethod fp method val reader e).2 =
      { e with
        ctx :=
          if inBank method kMethod3dVertexOffsetBase 64 then
            e.ctx.modifyVertexAttribute ((method - kMethod3dVertexOffsetBase) / 4)
              (vertexOffset val)
          else if inBank method kMethod3dVertexFormatBase 64 then
            e.ctx.modifyVertexAttribute ((method - kMethod3dVertexFormatBase) / 4)
              (vertexFormat val)
          else if inBank method kMethod3dTextureOffsetBase 0x100 then
            applyTextureStageMethod method val e.ctx
          else e.ctx } := by
  unfold apply3dMethod
  rw [if_neg hclear, hdraw, hfree]
  split_ifs <;> first | contradiction | rfl

/-- A method that is not in the table has no register. -/
theorem lookup_eq_none {method : U32} (h : method ∉ registerMethods.map Prod.fst) :
    registerMethods.lookup method = none := by
  rw [List.lookup_eq_none_iff]
  intro p hp
  have hne : method ≠ p.1 := fun heq => h (heq ▸ List.mem_map_of_mem hp)
  simpa using hne

/-- The engine with another attribute in the place of one. -/
def withAttribute (i : Fin 16) (attr : VertexAttribute) (e : Engine) : Engine :=
  { e with ctx :=
      { e.ctx with vertexAttributes := Function.update e.ctx.vertexAttributes i attr } }

/-- Setting an attribute changes only it. -/
theorem withAttribute_only (i : Fin 16) (attr : VertexAttribute) (e : Engine) :
    OnlyAttribute i e (withAttribute i attr e) where
  ctx := rfl
  others := fun j hj => by simp [withAttribute, hj]
  surface := rfl
  stats := rfl

/-- An attribute that is set is read back. -/
@[simp] theorem withAttribute_self (i : Fin 16) (attr : VertexAttribute) (e : Engine) :
    (withAttribute i attr e).ctx.vertexAttributes i = attr := by
  simp [withAttribute]

/-- Modifying an attribute by its index is setting it. -/
theorem modifyVertexAttribute_eq {idx : U32} (hidx : idx.toNat = i)
    (f : VertexAttribute → VertexAttribute) :
    { e with ctx := e.ctx.modifyVertexAttribute idx f } =
      withAttribute i (f (e.ctx.vertexAttributes i)) e := by
  simp [Nv2a3dContext.modifyVertexAttribute, withAttribute, hidx]

/-- The offset method, unless it has the number of the index address. -/
theorem afterOffset_free (hi : i ≠ 11) :
    afterOffset fp reader val i e =
      withAttribute i (vertexOffset val (e.ctx.vertexAttributes i)) e := by
  have hplain : offsetMethod i ≠ kMethod3dClearSurface ∧
      isDrawMethod (offsetMethod i) = false ∧
      offsetMethod i ∉ registerMethods.map Prod.fst ∧
      inBank (offsetMethod i) kMethod3dVertexOffsetBase 64 ∧
      ((offsetMethod i - kMethod3dVertexOffsetBase) / 4).toNat = i := by
    revert i
    decide
  obtain ⟨hclear, hdraw, hfree, hbank, hidx⟩ := hplain
  rw [afterOffset, apply3dMethod_bank fp reader val e hclear hdraw (lookup_eq_none hfree),
    if_pos hbank, modifyVertexAttribute_eq e hidx]

/-- The format method, unless it has the number of the index format. -/
theorem afterFormat_free (hi : i ≠ 8) :
    afterFormat fp reader val i e =
      withAttribute i (vertexFormat val (e.ctx.vertexAttributes i)) e := by
  have hplain : formatMethod i ≠ kMethod3dClearSurface ∧
      isDrawMethod (formatMethod i) = false ∧
      formatMethod i ∉ registerMethods.map Prod.fst ∧
      ¬inBank (formatMethod i) kMethod3dVertexOffsetBase 64 ∧
      inBank (formatMethod i) kMethod3dVertexFormatBase 64 ∧
      ((formatMethod i - kMethod3dVertexFormatBase) / 4).toNat = i := by
    revert i
    decide
  obtain ⟨hclear, hdraw, hfree, hother, hbank, hidx⟩ := hplain
  rw [afterFormat, apply3dMethod_bank fp reader val e hclear hdraw (lookup_eq_none hfree),
    if_neg hother, if_pos hbank, modifyVertexAttribute_eq e hidx]

/-- The format that a value gives to the index buffer. -/
def indexFormat (val : U32) : IndexFormat := if val = 0 then .index16 else .index32

/-- The methods that are taken for those of the index buffer. -/
theorem afterOffset_eleven :
    afterOffset fp reader val 11 e =
      { e with ctx := { e.ctx with indexBuffer := { e.ctx.indexBuffer with address := val } } } :=
  rfl

/-- Method 8 of the formats is the index format. -/
theorem afterFormat_eight :
    afterFormat fp reader val 8 e =
      { e with ctx :=
          { e.ctx with indexBuffer := { e.ctx.indexBuffer with format := indexFormat val } } } :=
  rfl

/-- Nothing changed is nothing but an attribute changed. -/
theorem onlyAttribute_refl (i : Fin 16) (e : Engine) : OnlyAttribute i e e :=
  ⟨rfl, fun _ _ => rfl, rfl, rfl⟩

/-- What the offset method is to change, by the attribute it names. -/
theorem changesOffset_iff (i : Fin 16) :
    ChangesOffset fp reader val i e ↔ (i = 11 → e.ctx.indexBuffer.address = val) := by
  by_cases hi : i = 11
  · subst hi
    constructor
    · intro h _
      have hctx := congrArg (·.indexBuffer.address) h.ctx
      rw [afterOffset_eleven] at hctx
      exact hctx.symm
    · intro h
      have hsame : afterOffset fp reader val 11 e = e := by rw [afterOffset_eleven, ← h rfl]
      refine { toOnlyAttribute := ?_, stride := ?_, format := ?_ } <;> rw [hsame]
      exact onlyAttribute_refl 11 e
  · refine ⟨fun _ h => absurd h hi, fun _ => ?_⟩
    refine { toOnlyAttribute := ?_, stride := ?_, format := ?_ } <;>
      rw [afterOffset_free fp reader val e hi]
    · exact withAttribute_only i _ e
    · simp [vertexOffset]
    · simp [vertexOffset]

/-- What the format method is to change, by the attribute it names. -/
theorem changesFormat_iff (i : Fin 16) :
    ChangesFormat fp reader val i e ↔
      (i = 8 → e.ctx.indexBuffer.format = indexFormat val) := by
  by_cases hi : i = 8
  · subst hi
    constructor
    · intro h _
      have hctx := congrArg (·.indexBuffer.format) h.ctx
      rw [afterFormat_eight] at hctx
      exact hctx.symm
    · intro h
      have hsame : afterFormat fp reader val 8 e = e := by rw [afterFormat_eight, ← h rfl]
      refine { toOnlyAttribute := ?_, address := ?_, enabled := ?_ } <;> rw [hsame]
      exact onlyAttribute_refl 8 e
  · refine ⟨fun _ h => absurd h hi, fun _ => ?_⟩
    refine { toOnlyAttribute := ?_, address := ?_, enabled := ?_ } <;>
      rw [afterFormat_free fp reader val e hi]
    · exact withAttribute_only i _ e
    · simp [vertexFormat]
    · simp [vertexFormat]

/-- The methods of an attribute change only what they name, but for the offset of attribute 11 and
the format of attribute 8, whose methods have the numbers of the index buffer's. -/
theorem vertex_methods_iff (i : Fin 16) :
    (ChangesOffset fp reader val i e ∧ ChangesFormat fp reader val i e ↔
      (i = 11 → e.ctx.indexBuffer.address = val) ∧
        (i = 8 → e.ctx.indexBuffer.format = indexFormat val)) ∧
    (i ≠ 11 → (afterOffset fp reader val i e).ctx.vertexAttributes i =
      vertexOffset val (e.ctx.vertexAttributes i)) ∧
    (i ≠ 8 → (afterFormat fp reader val i e).ctx.vertexAttributes i =
      vertexFormat val (e.ctx.vertexAttributes i)) := by
  refine ⟨and_congr (changesOffset_iff fp reader val e i) (changesFormat_iff fp reader val e i),
    fun hi => ?_, fun hi => ?_⟩
  · rw [afterOffset_free fp reader val e hi, withAttribute_self]
  · rw [afterFormat_free fp reader val e hi, withAttribute_self]

/-- A unit for methods that compute no float. -/
def idleUnit : FloatUnit where
  add := fun f _ => f
  sub := fun f _ => f
  mul := fun f _ => f
  div := fun f _ => f
  lt := fun _ _ => false
  le := fun _ _ => false
  round := id
  floor := id
  ceil := id
  ofU32 := id
  toU32 := id
  toU8 := BitVec.setWidth 8
  toInt := BitVec.toInt
  toI64 := BitVec.toInt
  ofI64 := BitVec.ofInt 64
  widen := BitVec.setWidth 64
  narrow := BitVec.setWidth 32
  addD := fun f _ => f
  mulD := fun f _ => f
  divD := fun f _ => f

/-- The offset method of attribute 11 stores the address of the index buffer. -/
theorem offset_of_attribute_eleven :
    ¬∀ (fp : FloatUnit) (reader : ReadWordFn) (val : U32) (i : Fin 16) (e : Engine),
      ChangesOffset fp reader val i e ∧ ChangesFormat fp reader val i e := by
  intro h
  have hctx := (h idleUnit none 0x1000 11 ⟨{}, {}, {}⟩).1.ctx
  rw [afterOffset_eleven] at hctx
  have haddress := congrArg (·.indexBuffer.address) hctx
  revert haddress
  decide

end

end Xblob.Analysis
