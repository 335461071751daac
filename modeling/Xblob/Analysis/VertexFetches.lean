import Xblob.Analysis.EngineRegisters
import Xblob.Computation.Alignment
import Xblob.Interface.Drawing

/-!
# Validated draws read where the check has looked

The check is made in 64 bits, for all attributes and all vertices; the fetches are made in 32 bits,
for the attributes they select.  Each function of the fetch notes what it is allowed to if the bytes
it was asked for are in the address space and are bytes of the draw.
-/

set_option autoImplicit false

namespace Xblob.Analysis

open Xblob.Computation Xblob.Gpu Xblob.Interface

variable {d : DrawSource} {α : Type}

/-! ## What the fetches return -/

/-- An address that is computed is the number modulo 2^32. -/
theorem yields_address_bind {exact : ℕ} {f : GuestAddr → Fetch α} {r : Result α}
    (h : Yields (f (BitVec.ofNat 32 exact)) r) : Yields (Fetch.address exact >>= f) r :=
  fun record => h (.address exact :: record)

/-- A word fetched is the word read. -/
theorem yields_word (read : GuestAddr → Result U32) (addr : GuestAddr) :
    Yields (Fetch.word read addr) (read addr) :=
  (yields_note _).bind fun _ _ => yields_ofExcept _

/-- Bytes fetched in rounds are the bytes read. -/
theorem yields_byteRounds (read : GuestAddr → Result U32) (addr : GuestAddr) (rounds : ℕ) :
    ∀ offset remaining, Yields (Fetch.byteRounds read addr rounds offset remaining)
      (readByteRounds read addr rounds offset remaining) := by
  induction rounds with
  | zero => exact fun offset remaining => yields_pure []
  | succ rounds ih =>
    intro offset remaining
    rw [Fetch.byteRounds, readByteRounds]
    refine Yields.ite (fun _ => yields_pure []) fun _ => ?_
    apply yields_address_bind
    have hat : BitVec.ofNat 32 (addr.toNat + offset) = addr + BitVec.ofNat 32 offset := by
      rw [BitVec.ofNat_add, BitVec.ofNat_toNat, BitVec.setWidth_eq]
    rw [hat]
    refine (yields_word read _).bind fun w _ => ?_
    exact (ih _ _).bind fun rest _ => yields_pure _

/-- Bytes fetched are the bytes read. -/
theorem yields_bytes (reader : ReadWordFn) (addr : GuestAddr) (size : ℕ) :
    Yields (Fetch.bytes reader addr size) (readBytes noVertexReader reader addr size) := by
  cases reader with
  | none => exact yields_throw _
  | some read => exact yields_byteRounds read addr size 0 size

/-- A float fetched is the float read. -/
theorem yields_float (reader : ReadWordFn) (addr : GuestAddr) :
    Yields (Fetch.float reader addr) (readFloat reader addr) :=
  (yields_bytes reader addr 4).bind fun _ _ => yields_pure _

/-- Reading all and failing at the first failure is failing at the first failure. -/
theorem mapM_caught {β : Type} (g : α → Result β) (l : List α) :
    (l.mapM fun a => (.ok (g a) : Result (Result β))) >>= (fun results => results.mapM id) =
      l.mapM g := by
  have hpure : (l.mapM fun a => (.ok (g a) : Result (Result β))) = .ok (l.map g) :=
    List.mapM_pure
  rw [hpure]
  clear hpure
  change (l.map g).mapM id = l.mapM g
  induction l with
  | nil => rfl
  | cons a l ih =>
    rw [List.map_cons, List.mapM_cons, List.mapM_cons, ih]
    rfl

/-- Each float is read, whether the others can be or not. -/
theorem yields_eachFloat (reader : ReadWordFn) (addr : GuestAddr) (n : ℕ) :
    Yields ((List.range n).mapM fun i => do
        let at_ ← Fetch.address (addr.toNat + 4 * i)
        caught (Fetch.float reader at_))
      ((List.range n).mapM fun i => .ok (readFloat reader (addr + BitVec.ofNat 32 (4 * i)))) := by
  refine Yields.mapM (fun i => ?_) _
  apply yields_address_bind
  have hat : BitVec.ofNat 32 (addr.toNat + 4 * i) = addr + BitVec.ofNat 32 (4 * i) := by
    rw [BitVec.ofNat_add, BitVec.ofNat_toNat, BitVec.setWidth_eq]
  rw [hat]
  exact (yields_float reader _).caught

/-- Floats fetched are the floats read. -/
theorem yields_floats (reader : ReadWordFn) (addr : GuestAddr) (n : ℕ) :
    Yields (Fetch.floats reader addr n) (readFloats reader addr n) := by
  rw [readFloats, ← mapM_caught]
  exact (yields_eachFloat reader addr n).bind fun results _ => yields_ofExcept _

/-- The address of an attribute is the one that the fetch computes. -/
theorem ofNat_vertexAddr (attr : VertexAttribute) (vertexIndex : U32) :
    BitVec.ofNat 32 (attr.address.toNat + vertexIndex.toNat * attr.stride.toNat) =
      attr.vertexAddr vertexIndex := by
  rw [VertexAttribute.vertexAddr, BitVec.ofNat_add, BitVec.ofNat_mul]
  simp only [BitVec.ofNat_toNat, BitVec.setWidth_eq]

/-- A position fetched is the position read. -/
theorem yields_position (attributes : VertexAttributes) (vertexIndex : U32)
    (reader : ReadWordFn) :
    Yields (Fetch.position attributes vertexIndex reader)
      (fetchPosition attributes vertexIndex reader) := by
  unfold Fetch.position fetchPosition
  refine Yields.ite (fun _ => yields_throw _) fun _ => ?_
  apply yields_address_bind
  rw [ofNat_vertexAddr]
  cases positionFloats (attributes 0).format with
  | none => exact yields_throw _
  | some format =>
    obtain ⟨n, text⟩ := format
    refine ((yields_floats reader _ n).adaptExcept _).bind fun coords _ => ?_
    exact Yields.ite (fun _ => yields_throw _) fun _ => yields_pure _

/-- A colour fetched is the colour read. -/
theorem yields_color (fp : FloatUnit) (attributes : VertexAttributes) (vertexIndex : U32)
    (reader : ReadWordFn) :
    Yields (Fetch.color fp attributes vertexIndex reader)
      (fetchColor fp attributes vertexIndex reader) := by
  unfold Fetch.color fetchColor
  refine Yields.ite (fun _ => yields_pure _) fun _ => ?_
  apply yields_address_bind
  rw [ofNat_vertexAddr]
  refine Yields.ite (fun _ => ?_) fun _ => Yields.ite (fun _ => ?_) fun _ => yields_pure _
  · exact ((yields_bytes reader _ 4).adaptExcept _).bind fun b _ => yields_pure _
  · apply (yields_floats reader _ 4).caught_bind
    cases readFloats reader ((colorAttribute attributes).vertexAddr vertexIndex) 4 with
    | error e => exact yields_pure _
    | ok c => exact yields_pure _

/-- Texture coordinates fetched are those read. -/
theorem yields_texCoords (attributes : VertexAttributes) (vertexIndex : U32)
    (reader : ReadWordFn) :
    Yields (Fetch.texCoords attributes vertexIndex reader)
      (.ok (fetchTexCoords attributes vertexIndex reader)) := by
  unfold Fetch.texCoords fetchTexCoords
  dsimp only
  rw [← Fetch.texAttribute]
  generalize Fetch.texAttribute attributes = texAttr
  cases hused : texAttr.isUsed with
  | false => exact yields_pure _
  | true =>
    rw [Bool.not_true, if_neg Bool.false_ne_true]
    apply yields_address_bind
    rw [ofNat_vertexAddr]
    by_cases hformat : texAttr.format = .float2
    · rw [if_pos hformat, if_pos ⟨rfl, hformat⟩]
      apply (yields_floats reader _ 2).caught_bind
      cases readFloats reader (texAttr.vertexAddr vertexIndex) 2 with
      | error e => exact yields_pure _
      | ok c => exact yields_pure _
    · rw [if_neg hformat, if_neg fun h => hformat h.2]
      exact yields_pure _

/-- A vertex fetched is the vertex read. -/
theorem yields_vertex (fp : FloatUnit) (attributes : VertexAttributes) (vertexIndex : U32)
    (reader : ReadWordFn) :
    Yields (Fetch.vertex fp attributes vertexIndex reader)
      (fetchVertex fp attributes vertexIndex reader) := by
  unfold Fetch.vertex fetchVertex
  refine (yields_position attributes vertexIndex reader).bind fun v _ => ?_
  refine (yields_color fp attributes vertexIndex reader).bind fun c _ => ?_
  exact (yields_texCoords attributes vertexIndex reader).bind fun t _ => yields_pure _

/-- The address of an index, at 32 bits. -/
theorem ofNat_indexAddr (binding : IndexBufferBinding) (indexOffset : U32) (size : ℕ) :
    BitVec.ofNat 32 (binding.address.toNat + indexOffset.toNat * size) =
      binding.address + indexOffset * BitVec.ofNat 32 size := by
  rw [BitVec.ofNat_add, BitVec.ofNat_mul]
  simp only [BitVec.ofNat_toNat, BitVec.setWidth_eq]

/-- An index fetched is the index read. -/
theorem yields_index (binding : IndexBufferBinding) (indexOffset : U32) (reader : ReadWordFn) :
    Yields (Fetch.index binding indexOffset reader) (readIndex binding indexOffset reader) := by
  unfold Fetch.index readIndex
  cases binding.format with
  | none => exact yields_throw _
  | index16 =>
    apply yields_address_bind
    rw [ofNat_indexAddr]
    exact (yields_bytes reader _ 2).bind fun b _ => yields_pure _
  | index32 =>
    apply yields_address_bind
    rw [ofNat_indexAddr]
    exact (yields_bytes reader _ 4).bind fun b _ => yields_pure _

/-- The recorded index of a vertex is that of the draw. -/
theorem yields_vertexAt (binding : IndexBufferBinding) (indexed : Bool) (place : U32)
    (reader : ReadWordFn) :
    Yields (Fetch.indexAt binding indexed place reader)
      (vertexAt binding indexed place reader) :=
  Yields.ite (fun _ => yields_index binding place reader) fun _ => yields_pure _

/-- Each vertex is fetched and moved to the screen. -/
theorem yields_eachVertex (fp : FloatUnit) (attributes : VertexAttributes)
    (indexBinding : IndexBufferBinding) (start count : U32) (indexed : Bool) (viewport : Viewport)
    (reader : ReadWordFn) :
    Yields
      ((List.range count.toNat).mapM fun i => do
        let vIdx ← Fetch.indexAt indexBinding indexed (start + BitVec.ofNat 32 i) reader
        let v ← Fetch.vertex fp attributes vIdx reader
        pure (transform fp v viewport))
      ((List.range count.toNat).mapM fun i => do
        let vIdx ← vertexAt indexBinding indexed (start + BitVec.ofNat 32 i) reader
        let v ← fetchVertex fp attributes vIdx reader
        pure (transform fp v viewport)) := by
  refine Yields.mapM (fun i => ?_) _
  refine (yields_vertexAt indexBinding indexed _ reader).bind fun vIdx _ => ?_
  exact (yields_vertex fp attributes vIdx reader).bind fun v _ => yields_pure _

/-- The triangles fetched are those assembled. -/
theorem yields_assembled (fp : FloatUnit) (primType : PrimitiveType)
    (attributes : VertexAttributes) (indexBinding : IndexBufferBinding) (start count : U32)
    (indexed : Bool) (viewport : Viewport) (reader : ReadWordFn) :
    Yields
      (Fetch.assembled fp primType attributes indexBinding start count indexed viewport reader)
      (fetchAndAssemble fp primType attributes indexBinding start count indexed viewport
        reader) := by
  unfold Fetch.assembled fetchAndAssemble
  refine Yields.ite (fun _ => yields_throw _) fun _ => Yields.ite (fun _ => yields_pure _)
    fun _ => ?_
  exact (yields_eachVertex fp attributes indexBinding start count indexed viewport reader).bind
    fun vertices _ => yields_pure _

/-! ## What the fetches note -/

/-- The bytes are in the address space, and are bytes of the draw. -/
structure Legible (d : DrawSource) (s : Span) : Prop where
  inSpace : s.stop ≤ 0x100000000
  touched : ∀ byte, s.Holds byte → d.Touches byte

/-- A part of a legible span is legible. -/
theorem Legible.part {s t : Span} (h : Legible d t) (hpart : s.Inside t) : Legible d s where
  inSpace := hpart.2.trans h.inSpace
  touched byte hbyte := h.touched byte ⟨hpart.1.trans hbyte.1, hbyte.2.trans_le hpart.2⟩

/-- An address that does not wrap is the number. -/
theorem notes_address_bind {exact : ℕ} {f : GuestAddr → Fetch α} (hexact : exact < 0x100000000)
    (hf : ∀ addr : GuestAddr, addr.toNat = exact → Notes d.Allows (f addr)) :
    Notes d.Allows (Fetch.address exact >>= f) := by
  have haddr : (BitVec.ofNat 32 exact).toNat = exact := by
    rw [BitVec.toNat_ofNat]
    exact Nat.mod_eq_of_lt hexact
  have hallowed : d.Allows (.address exact) := hexact
  refine Notes.bind (r := .ok (BitVec.ofNat 32 exact)) ?_ ?_ fun addr hr => ?_
  · exact (notes_note hallowed).bind (yields_note _) fun _ _ => notes_pure _
  · exact (yields_note _).bind fun _ _ => yields_pure _
  · rw [← Except.ok.inj hr]
    exact hf _ haddr

/-- The word of a byte of the draw. -/
theorem notes_word (read : GuestAddr → Result U32) {addr : GuestAddr}
    (hbyte : d.Touches addr.toNat) : Notes d.Allows (Fetch.word read (addr &&& ~~~3)) := by
  have hallowed : d.Allows (.word (addr &&& ~~~3)) :=
    ⟨addr.toNat, hbyte, toNat_and_not_pred (k := 2) addr 4 rfl⟩
  exact (notes_note hallowed).bind (yields_note _) fun _ _ => notes_ofExcept _

/-- Bytes fetched from a legible span are allowed. -/
theorem notes_byteRounds (read : GuestAddr → Result U32) (addr : GuestAddr) (rounds : ℕ) :
    ∀ offset remaining, Legible d ⟨addr.toNat + offset, remaining⟩ →
      Notes d.Allows (Fetch.byteRounds read addr rounds offset remaining) := by
  induction rounds with
  | zero => exact fun offset remaining _ => notes_pure []
  | succ rounds ih =>
    intro offset remaining hreadable
    rw [Fetch.byteRounds]
    refine Notes.ite (fun _ => notes_pure []) fun hsome => ?_
    have hspace : addr.toNat + offset + remaining ≤ 0x100000000 := hreadable.inSpace
    refine notes_address_bind (by omega) fun at_ hat => ?_
    have hbyte : d.Touches at_.toNat := by
      rw [hat]
      exact hreadable.touched _ ⟨le_rfl, by simp only [Span.stop]; omega⟩
    refine (notes_word read hbyte).bind (yields_word read _) fun w _ => ?_
    refine Notes.bind (ih _ _ (hreadable.part ?_)) (yields_byteRounds read addr rounds _ _)
      fun rest _ => notes_pure _
    have htake : min (4 - (at_ &&& 3).toNat) remaining ≤ remaining := Nat.min_le_right _ _
    constructor
    · dsimp only
      omega
    · simp only [Span.stop]
      omega

/-- A block fetched from a legible span is allowed. -/
theorem notes_bytes (reader : ReadWordFn) {addr : GuestAddr} {size : ℕ}
    (hreadable : Legible d ⟨addr.toNat, size⟩) : Notes d.Allows (Fetch.bytes reader addr size) := by
  cases reader with
  | none => exact notes_throw _
  | some read => exact notes_byteRounds read addr size 0 size hreadable

/-- A float fetched from a legible span is allowed. -/
theorem notes_float (reader : ReadWordFn) {addr : GuestAddr}
    (hreadable : Legible d ⟨addr.toNat, 4⟩) : Notes d.Allows (Fetch.float reader addr) :=
  (notes_bytes reader hreadable).bind (yields_bytes reader addr 4) fun _ _ => notes_pure _

/-- Each of the floats is in the range that they are in together. -/
theorem notes_floats (reader : ReadWordFn) {addr : GuestAddr} {n : ℕ}
    (hreadable : Legible d ⟨addr.toNat, 4 * n⟩) : Notes d.Allows (Fetch.floats reader addr n) := by
  refine Notes.bind (Notes.mapM fun i hi => ?_) (yields_eachFloat reader addr n)
    fun results _ => notes_ofExcept _
  have hi' : i < n := List.mem_range.1 hi
  have hspace : addr.toNat + 4 * n ≤ 0x100000000 := hreadable.inSpace
  refine notes_address_bind (by omega) fun at_ hat => ?_
  refine (notes_float reader (hreadable.part ?_)).caught
  rw [hat]
  constructor
  · dsimp only
    omega
  · simp only [Span.stop]
    omega

/-! ## Vertices -/

/-- The attributes of a vertex that are used can be read. -/
def AttributesReadable (d : DrawSource) (vertexIndex : U32) : Prop :=
  ∀ a, (d.attributes a).isUsed = true → Legible d (attributeSpan (d.attributes a) vertexIndex)

/-- An attribute is used where it is enabled and has a format. -/
theorem isUsed_iff (attr : VertexAttribute) :
    attr.isUsed = true ↔ attr.enabled = true ∧ attr.format ≠ .none := by
  rw [VertexAttribute.isUsed, Bool.and_eq_true, decide_eq_true_iff]

/-- A used attribute takes four bytes at least. -/
theorem bytes_pos {attr : VertexAttribute} (hused : attr.isUsed = true) :
    4 ≤ attr.format.bytes.toNat := by
  have hformat := ((isUsed_iff attr).1 hused).2
  cases h : attr.format with
  | none => exact absurd h hformat
  | float1 => decide
  | float2 => decide
  | float3 => decide
  | float4 => decide
  | ubyte4 => decide

/-- The address of an attribute, and what follows with the bytes behind it. -/
theorem notes_vertexAddr_bind {attr : VertexAttribute} {vertexIndex : U32}
    {f : GuestAddr → Fetch α} (hused : attr.isUsed = true)
    (hreadable : Legible d (attributeSpan attr vertexIndex))
    (hf : ∀ addr : GuestAddr, Legible d ⟨addr.toNat, attr.format.bytes.toNat⟩ →
      Notes d.Allows (f addr)) :
    Notes d.Allows (Fetch.vertexAddr attr vertexIndex >>= f) := by
  have hspace := hreadable.inSpace
  have hpos := bytes_pos hused
  simp only [attributeSpan, Span.stop] at hspace
  refine notes_address_bind (by omega) fun addr haddr => hf addr ?_
  rw [haddr]
  exact hreadable

/-- A position format takes four bytes for each float. -/
theorem positionFloats_bytes {format : VertexFormat} {n : ℕ} {text : String}
    (h : positionFloats format = some (n, text)) : format.bytes.toNat = 4 * n := by
  cases format <;> cases h <;> rfl

/-- The position of a readable vertex is allowed. -/
theorem notes_position {vertexIndex : U32} (h : AttributesReadable d vertexIndex) :
    Notes d.Allows (Fetch.position d.attributes vertexIndex d.reader) := by
  unfold Fetch.position
  refine Notes.ite (fun _ => notes_throw _) fun hunused => ?_
  have hused : (d.attributes 0).isUsed = true := by simpa using hunused
  refine notes_vertexAddr_bind hused (h 0 hused) fun addr hreadable => ?_
  cases hformat : positionFloats (d.attributes 0).format with
  | none => exact notes_throw _
  | some format =>
    obtain ⟨n, text⟩ := format
    rw [positionFloats_bytes hformat] at hreadable
    refine ((notes_floats d.reader hreadable).adaptExcept _).bind
      ((yields_floats d.reader addr n).adaptExcept _) fun coords _ => ?_
    exact Notes.ite (fun _ => notes_throw _) fun _ => notes_pure _

/-- Which attribute the color or the texture coordinates are taken from. -/
theorem notes_color (fp : FloatUnit) {vertexIndex : U32} (h : AttributesReadable d vertexIndex) :
    Notes d.Allows (Fetch.color fp d.attributes vertexIndex d.reader) := by
  have hcolor : (colorAttribute d.attributes).isUsed = true →
      Legible d (attributeSpan (colorAttribute d.attributes) vertexIndex) := by
    unfold colorAttribute
    split
    · exact h 3
    · exact h 1
  unfold Fetch.color
  refine Notes.ite (fun _ => notes_pure _) fun hunused => ?_
  have hused : (colorAttribute d.attributes).isUsed = true := by simpa using hunused
  refine notes_vertexAddr_bind hused (hcolor hused) fun addr hreadable => ?_
  refine Notes.ite (fun hformat => ?_) fun _ => Notes.ite (fun hformat => ?_) fun _ => notes_pure _
  · rw [hformat] at hreadable
    exact ((notes_bytes d.reader hreadable).adaptExcept _).bind
      ((yields_bytes d.reader addr 4).adaptExcept _) fun b _ => notes_pure _
  · rw [hformat] at hreadable
    refine (notes_floats d.reader (n := 4) hreadable).caught.bind
      (yields_floats d.reader addr 4).caught fun c _ => ?_
    cases c with
    | error e => exact notes_pure _
    | ok c => exact notes_pure _

/-- The texture coordinates of a readable vertex are allowed. -/
theorem notes_texCoords {vertexIndex : U32} (h : AttributesReadable d vertexIndex) :
    Notes d.Allows (Fetch.texCoords d.attributes vertexIndex d.reader) := by
  have htex : (Fetch.texAttribute d.attributes).isUsed = true →
      Legible d (attributeSpan (Fetch.texAttribute d.attributes) vertexIndex) := by
    unfold Fetch.texAttribute
    split
    · exact h 8
    · exact h 9
  unfold Fetch.texCoords
  refine Notes.ite (fun _ => notes_pure _) fun hunused => ?_
  have hused : (Fetch.texAttribute d.attributes).isUsed = true := by simpa using hunused
  refine notes_vertexAddr_bind hused (htex hused) fun addr hreadable => ?_
  refine Notes.ite (fun hformat => ?_) fun _ => notes_pure _
  rw [hformat] at hreadable
  refine (notes_floats d.reader (n := 2) hreadable).caught.bind
    (yields_floats d.reader addr 2).caught fun c _ => ?_
  cases c with
  | error e => exact notes_pure _
  | ok c => exact notes_pure _

/-- Every fetch of a readable vertex is allowed. -/
theorem notes_vertex (fp : FloatUnit) {vertexIndex : U32} (h : AttributesReadable d vertexIndex) :
    Notes d.Allows (Fetch.vertex fp d.attributes vertexIndex d.reader) := by
  refine (notes_position h).bind (yields_position _ _ _) fun v _ => ?_
  refine (notes_color fp h).bind (yields_color fp _ _ _) fun c _ => ?_
  exact (notes_texCoords h).bind (yields_texCoords _ _ _) fun t _ => notes_pure _

/-! ## The check -/

/-- A check that passes for a list passes for its members. -/
theorem forM_ok {f : α → Result Unit} {l : List α} (h : l.forM f = .ok ()) :
    ∀ a ∈ l, f a = .ok () := by
  induction l with
  | nil => simp
  | cons a l ih =>
    rw [List.forM_eq_forM, List.forM_cons] at h
    obtain ⟨_, ha, hl⟩ := bind_eq_ok h
    intro b hb
    obtain rfl | hb := List.mem_cons.1 hb
    · exact ha
    · exact ih hl b hb

/-- No attribute of the vertex that is used ends past the address space. -/
def AttributesFit (attributes : VertexAttributes) (vertexIndex : ℕ) : Prop :=
  ∀ a, (attributes a).isUsed = true →
    (attributes a).address.toNat + (vertexIndex * (attributes a).stride.toNat +
      (attributes a).format.bytes.toNat) ≤ 0x100000000

/-- Attributes that pass their check fit. -/
theorem attributesFit_of_check {attributes : VertexAttributes} {vertexIndex : U32}
    (h : checkAttributes attributes vertexIndex = .ok ()) :
    AttributesFit attributes vertexIndex.toNat := by
  intro a hused
  have hone := forM_ok h a (List.mem_finRange a)
  by_contra hpast
  rw [if_pos ⟨hused, Nat.not_le.1 hpast⟩] at hone
  cases hone

/-- The attributes of an earlier vertex end before those of a later one. -/
theorem AttributesFit.earlier {attributes : VertexAttributes} {i j : ℕ}
    (h : AttributesFit attributes j) (hij : i ≤ j) : AttributesFit attributes i := by
  intro a hused
  have hj := h a hused
  have hmul := Nat.mul_le_mul_right (attributes a).stride.toNat hij
  omega

/-- What a draw that has been validated may count on. -/
structure Validated (d : DrawSource) (maxAllowedVertices : U32) : Prop where
  budget : d.count.toNat ≤ maxAllowedVertices.toNat
  positive : 0 < d.count.toNat
  indices : d.indexed = true → d.indexBinding.address.toNat +
    (d.start + d.count).toNat * indexBytes d.indexBinding.format ≤ 0x100000000
  direct : d.indexed = false → checkAttributes d.attributes (d.start + d.count - 1) = .ok ()
  fetched : d.indexed = true → ∀ i < d.count.toNat, ∀ vertexIndex,
    readIndex d.indexBinding (d.start + BitVec.ofNat 32 i) d.reader = .ok vertexIndex →
      checkAttributes d.attributes vertexIndex = .ok ()

/-- A guard that is passed. -/
theorem guard_passed {c : Prop} [Decidable c] {e : Error} {k : PUnit → Result α} {x : α}
    (h : (if c then (throw e : Result PUnit) >>= k else k ⟨⟩) = .ok x) : ¬ c ∧ k ⟨⟩ = .ok x := by
  split at h
  · cases h
  next hc => exact ⟨hc, h⟩

/-- A draw that validates is validated. -/
theorem validated_of_validate {maxAllowedVertices : U32}
    (h : d.validate maxAllowedVertices = .ok ()) : Validated d maxAllowedVertices := by
  unfold DrawSource.validate validateFetch at h
  obtain ⟨hzero, h⟩ := guard_passed h
  obtain ⟨hbudget, h⟩ := guard_passed h
  obtain ⟨_, h⟩ := guard_passed h
  obtain ⟨_, h⟩ := guard_passed h
  obtain ⟨_, h⟩ := guard_passed h
  have hpositive : 0 < d.count.toNat := by
    have hne : d.count.toNat ≠ 0 := fun h0 => hzero (BitVec.eq_of_toNat_eq h0)
    omega
  have hcount : d.count.toNat ≤ maxAllowedVertices.toNat := Nat.not_lt.1 hbudget
  dsimp only at h
  cases hindexed : d.indexed with
  | false =>
    rw [hindexed, if_neg Bool.false_ne_true] at h
    exact ⟨hcount, hpositive, by simp [hindexed], fun _ => h, by simp [hindexed]⟩
  | true =>
    rw [hindexed, if_pos rfl] at h
    obtain ⟨hformat, h⟩ := guard_passed h
    obtain ⟨hspace, h⟩ := guard_passed h
    refine ⟨hcount, hpositive, fun _ => ?_, by simp [hindexed], fun _ i hi vertexIndex hread => ?_⟩
    · have hsize : indexBytes d.indexBinding.format =
          if d.indexBinding.format = .index16 then 2 else 4 := by
        cases hf : d.indexBinding.format with
        | none => exact absurd hf hformat
        | index16 => rfl
        | index32 => rfl
      rw [hsize]
      exact Nat.not_lt.1 hspace
    · have hone := forM_ok h i (List.mem_range.2 hi)
      rw [hread] at hone
      exact hone

/-! ## The draw -/

section Draw

variable {maxAllowedVertices : U32} (hstart : d.start ≤ 255) (hmax : maxAllowedVertices ≤ 65536)
  (hvalid : Validated d maxAllowedVertices)

include hstart hmax hvalid

/-- The last vertex of a validated draw is small. -/
theorem draw_small : d.start.toNat + d.count.toNat ≤ 65791 := by
  have hstart' : d.start.toNat ≤ 255 := hstart
  have hmax' : maxAllowedVertices.toNat ≤ 65536 := hmax
  have hbudget := hvalid.budget
  omega

/-- The place of a vertex does not wrap. -/
theorem place_toNat {i : ℕ} (hi : i < d.count.toNat) :
    (d.start + BitVec.ofNat 32 i).toNat = d.start.toNat + i := by
  have hsmall := draw_small hstart hmax hvalid
  rw [BitVec.toNat_add, BitVec.toNat_ofNat]
  omega

/-- The attributes of every vertex of the draw fit. -/
theorem attributesFit_of_draws {vertexIndex : U32} (hdraws : d.Draws vertexIndex) :
    AttributesFit d.attributes vertexIndex.toNat := by
  obtain ⟨i, hi, hvertex⟩ := hdraws
  unfold vertexAt at hvertex
  cases hindexed : d.indexed with
  | true =>
    rw [hindexed, if_pos rfl] at hvertex
    exact attributesFit_of_check (hvalid.fetched hindexed i hi vertexIndex hvertex)
  | false =>
    rw [hindexed, if_neg Bool.false_ne_true] at hvertex
    obtain rfl := Except.ok.inj hvertex
    refine (attributesFit_of_check (hvalid.direct hindexed)).earlier ?_
    have hsmall := draw_small hstart hmax hvalid
    have hpositive := hvalid.positive
    rw [place_toNat hstart hmax hvalid hi]
    have hone : (1 : U32).toNat = 1 := rfl
    rw [BitVec.toNat_sub, BitVec.toNat_add, hone]
    omega

/-- The attributes of every vertex of the draw can be read. -/
theorem attributesReadable_of_draws {vertexIndex : U32} (hdraws : d.Draws vertexIndex) :
    AttributesReadable d vertexIndex := by
  intro a hused
  have hfit := attributesFit_of_draws hstart hmax hvalid hdraws a hused
  constructor
  · simp only [attributeSpan, Span.stop]
    omega
  · exact fun byte hbyte => .inr ⟨vertexIndex, hdraws, a, hused, hbyte⟩

/-- So can its indices. -/
theorem indexReadable {i : ℕ} (hi : i < d.count.toNat) (hindexed : d.indexed = true) :
    Legible d ⟨d.indexBinding.address.toNat +
      (d.start + BitVec.ofNat 32 i).toNat * indexBytes d.indexBinding.format,
        indexBytes d.indexBinding.format⟩ := by
  have hspace := hvalid.indices hindexed
  have hsmall := draw_small hstart hmax hvalid
  have hsum : (d.start + d.count).toNat = d.start.toNat + d.count.toNat := by
    rw [BitVec.toNat_add]
    omega
  have hlast : (d.start.toNat + i) * indexBytes d.indexBinding.format +
      indexBytes d.indexBinding.format ≤
        (d.start.toNat + d.count.toNat) * indexBytes d.indexBinding.format := by
    rw [← Nat.succ_mul]
    exact Nat.mul_le_mul_right _ (by omega)
  rw [place_toNat hstart hmax hvalid hi]
  rw [hsum] at hspace
  have hinside : Span.Inside ⟨d.indexBinding.address.toNat +
      (d.start.toNat + i) * indexBytes d.indexBinding.format,
        indexBytes d.indexBinding.format⟩ d.indexSpan := by
    rw [Nat.add_mul, Nat.add_mul] at hlast
    simp only [Span.Inside, Span.stop, DrawSource.indexSpan, Nat.add_mul]
    omega
  constructor
  · simp only [Span.stop]
    omega
  · exact fun byte hbyte => .inl ⟨hindexed, hinside.1.trans hbyte.1, hbyte.2.trans_le hinside.2⟩

/-- The indices of a validated draw are allowed. -/
theorem notes_indexAt {i : ℕ} (hi : i < d.count.toNat) :
    Notes d.Allows (Fetch.indexAt d.indexBinding d.indexed (d.start + BitVec.ofNat 32 i)
      d.reader) := by
  unfold Fetch.indexAt
  refine Notes.ite (fun hindexed => ?_) fun _ => notes_pure _
  have hreadable := indexReadable hstart hmax hvalid hi hindexed
  have hspace := hreadable.inSpace
  simp only [Span.stop] at hspace
  unfold Fetch.index
  cases hformat : d.indexBinding.format with
  | none => exact notes_throw _
  | index16 =>
    rw [hformat, indexBytes] at hreadable hspace
    refine notes_address_bind (by omega) fun addr haddr => ?_
    rw [← haddr] at hreadable
    exact (notes_bytes d.reader hreadable).bind (yields_bytes _ _ _) fun b _ => notes_pure _
  | index32 =>
    rw [hformat, indexBytes] at hreadable hspace
    refine notes_address_bind (by omega) fun addr haddr => ?_
    rw [← haddr] at hreadable
    exact (notes_bytes d.reader hreadable).bind (yields_bytes _ _ _) fun b _ => notes_pure _

/-- Every fetch of a validated draw is allowed. -/
theorem notes_assembled (fp : FloatUnit) (primType : PrimitiveType) (viewport : Viewport) :
    Notes d.Allows (Fetch.assembled fp primType d.attributes d.indexBinding d.start d.count
      d.indexed viewport d.reader) := by
  unfold Fetch.assembled
  refine Notes.ite (fun _ => notes_throw _) fun _ => Notes.ite (fun _ => notes_pure _) fun _ => ?_
  refine (Notes.mapM fun i hi => ?_).bind
    (yields_eachVertex fp d.attributes d.indexBinding d.start d.count d.indexed viewport d.reader)
    fun vertices _ => notes_pure _
  have hi' : i < d.count.toNat := List.mem_range.1 hi
  refine (notes_indexAt hstart hmax hvalid hi').bind (yields_vertexAt _ _ _ _) fun vIdx hvIdx => ?_
  have hreadable := attributesReadable_of_draws hstart hmax hvalid ⟨i, hi', hvIdx⟩
  exact (notes_vertex fp hreadable).bind (yields_vertex _ _ _ _) fun v _ => notes_pure _

end Draw

/-- **A draw that has been validated fetches what the check has looked at**: no address wraps, and
every word that is read has a byte of one of its indices or vertices. -/
theorem validated_fetches_allowed {maxAllowedVertices : U32} (hstart : d.start ≤ 255)
    (hmax : maxAllowedVertices ≤ 65536) (hvalid : d.validate maxAllowedVertices = .ok ()) :
    ∀ fp primType viewport, d.FetchesAllowed fp primType viewport := by
  intro fp primType viewport
  have hnotes := notes_assembled hstart hmax (validated_of_validate hvalid) fp primType viewport
  exact ⟨yields_assembled _ _ _ _ _ _ _ _ _, hnotes [] (by simp)⟩

/-- Three vertices by 16-bit indices, with two floats each. -/
def indexedTriangle : DrawSource where
  attributes a := if a.val = 0 then
      { address := 0x1000, stride := 8, format := .float2, enabled := true }
    else {}
  indexBinding := { address := 0x2001, format := .index16 }
  start := 1
  count := 3
  indexed := true
  reader := some fun addr => if addr < 0x2000 then .ok 0x3F800000 else .ok 0x00020100

/-- The fetches of the example are allowed. -/
theorem validated_fetches_indexed : indexedTriangle.FetchesAllowed idleUnit .triangles {} := by
  have hvalid : indexedTriangle.validate 65536 = .ok () := by
    decide +kernel
  exact validated_fetches_allowed (by decide) (by decide) hvalid idleUnit .triangles {}

end Xblob.Analysis
