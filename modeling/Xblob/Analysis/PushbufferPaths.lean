import Xblob.Analysis.PushbufferStates

/-!
# Words from a list and from memory

The decoder and the main loop are written twice, for words of a list and for words of guest
memory.  On words that are stored in memory and give no jump, the two calls go by the same
packets, and are one.
-/

set_option autoImplicit false

namespace Xblob.Analysis

open Xblob.Computation Xblob.Gpu Xblob.Interface

/-! ## The two decoders -/

/-- Steps that all succeed, one for each member of a list. -/
theorem mapM_eq_ok {ε α β : Type} {f : α → Except ε β} {g : α → β} (l : List α)
    (hf : ∀ a ∈ l, f a = .ok (g a)) : l.mapM f = .ok (l.map g) := by
  induction l with
  | nil => rfl
  | cons a l ih =>
    rw [List.forall_mem_cons] at hf
    rw [List.mapM_cons, hf.1, ih hf.2]
    rfl

section Decoders

variable {read : GuestAddr → Result U32} {addr : GuestAddr} {words : List U32} {offset : ℕ}

/-- The address of a word. -/
def wordAddr (addr : GuestAddr) (offset : ℕ) : GuestAddr := addr + BitVec.ofNat 32 (4 * offset)

/-- The position in memory of an offset in a list. -/
def memoryPosition (addr : GuestAddr) (words : List U32) (offset : ℕ) : MemoryPosition :=
  ⟨wordAddr addr offset, BitVec.ofNat 32 (words.length - offset)⟩

/-- The address of a stored word does not wrap. -/
theorem toNat_wordAddr (hstored : StoredAt read addr words) (h : offset < words.length) :
    (wordAddr addr offset).toNat = addr.toNat + 4 * offset := by
  have hnoWrap := hstored.noWrap
  unfold wordAddr
  bv_omega

/-- The words remaining, as a number. -/
theorem toNat_wordsRemaining (hstored : StoredAt read addr words) (offset : ℕ) :
    (BitVec.ofNat 32 (words.length - offset)).toNat = words.length - offset := by
  have hnoWrap := hstored.noWrap
  rw [BitVec.toNat_ofNat]
  omega

/-- A stored word is read at its address. -/
theorem read_wordAddr (hstored : StoredAt read addr words) (h : offset < words.length) :
    read (wordAddr addr offset) = .ok words[offset] :=
  hstored.stored offset h

/-- The parameters of a packet are the words after its header. -/
theorem readParameters (hstored : StoredAt read addr words) {count : ℕ} (hcount : count ≤ 0x7FF)
    (h : offset + 1 + count ≤ words.length) :
    (List.range count).mapM (readParameter read (wordAddr addr offset)) =
      .ok ((words.drop (offset + 1)).take count) := by
  have hparameter (i : ℕ) (hi : i ∈ List.range count) :
      readParameter read (wordAddr addr offset) i = .ok (words.getD (offset + 1 + i) 0) := by
    have hi' : i < count := List.mem_range.1 hi
    have hinside : offset + 1 + i < words.length := by omega
    have hbase := toNat_wordAddr hstored (show offset < words.length by omega)
    have hstep : (BitVec.ofNat 32 ((i + 1) * 4)).toNat = (i + 1) * 4 := by
      rw [BitVec.toNat_ofNat]
      omega
    have hsum : checkedAdd (wordAddr addr offset) (BitVec.ofNat 32 ((i + 1) * 4)) =
        some (wordAddr addr (offset + 1 + i)) := by
      have hnoWrap := hstored.noWrap
      unfold checkedAdd
      rw [if_neg (by rw [hbase, hstep, BitVec.toNat_allOnes]; omega)]
      unfold wordAddr
      congr 1
      bv_omega
    unfold readParameter
    rw [hsum]
    simp only [read_wordAddr hstored hinside, List.getD_eq_getElem _ _ hinside]
    rfl
  rw [mapM_eq_ok _ hparameter]
  congr 1
  apply List.ext_getElem
  · simp only [List.length_map, List.length_range, List.length_take, List.length_drop]
    omega
  · intro i hi hi'
    simp only [List.length_map, List.length_range] at hi
    rw [List.getElem_map, List.getElem_range, List.getElem_take, List.getElem_drop,
      List.getD_eq_getElem _ _ (by omega)]

/-- The decoder of memory gives the packets of the decoder of lists. -/
theorem decodeFromMemory_stored (hstored : StoredAt read addr words)
    (h : offset < words.length) :
    decodeFromMemory (wordAddr addr offset) read (BitVec.ofNat 32 (words.length - offset)) =
      (decodeFromSpan words offset).map Prod.fst := by
  have hheader := read_wordAddr hstored h
  have hremaining := toNat_wordsRemaining hstored offset
  have hnoWrap := hstored.noWrap
  have haligned : ¬wordAddr addr offset % 4 ≠ 0 := by
    rw [not_not]
    apply BitVec.eq_of_toNat_eq
    have haddr := hstored.aligned
    rw [BitVec.toNat_umod, toNat_wordAddr hstored h]
    show (addr.toNat + 4 * offset) % 4 = 0
    omega
  have hmore : ¬BitVec.ofNat 32 (words.length - offset) = 0 := by
    intro hzero
    rw [hzero] at hremaining
    have hpositive : 0 < words.length - offset := Nat.sub_pos_of_lt h
    exact absurd hremaining hpositive.ne
  unfold decodeFromMemory decodeFromSpan
  rw [if_neg hmore, if_neg haligned, hheader, List.getElem?_eq_getElem h]
  simp only [bind, Except.bind]
  cases hdecode : decodeHeader words[offset] with
  | error e => rfl
  | ok pkt =>
    obtain ⟨hcount, -⟩ := decodeHeader_ok hdecode
    simp only
    by_cases hkind : pkt.opcode = .jump
    · rw [if_pos hkind, if_pos hkind]
      rfl
    rw [if_neg hkind, if_neg hkind]
    have hcount' : (pkt.count + 1).toNat = pkt.count.toNat + 1 := by bv_omega
    by_cases hlong : offset + 1 + pkt.count.toNat > words.length
    · rw [if_pos hlong, if_pos (by rw [gt_iff_lt, BitVec.lt_def, hremaining, hcount']; omega)]
      rfl
    · rw [if_neg hlong, if_neg (by rw [gt_iff_lt, BitVec.lt_def, hremaining, hcount']; omega),
        readParameters hstored hcount (by omega)]
      rfl

/-- The two streams agree on a packet that is no jump. -/
theorem decode_stored (hstored : StoredAt read addr words) (h : offset < words.length)
    (hjumpFree : ∀ pkt after, decodeFromSpan words offset = .ok (pkt, after) →
      pkt.opcode ≠ .jump) :
    (memoryStream read).decode (memoryPosition addr words offset) =
      ((bufferStream words).decode offset).map fun r =>
        (r.1, r.2.1, memoryPosition addr words r.2.2) := by
  have hnoWrap := hstored.noWrap
  simp only [memoryStream, bufferStream, memoryPosition, decodeFromMemory_stored hstored h]
  cases hspan : decodeFromSpan words offset with
  | error e => rfl
  | ok r =>
    obtain ⟨pkt, after⟩ := r
    have hkind := hjumpFree pkt after hspan
    obtain ⟨hlater, hinside, hcount, hafter, -⟩ := decodeFromSpan_ok hspan
    have hend := hafter hkind
    have hremaining := toNat_wordsRemaining hstored offset
    have hconsumed : (1 + pkt.count).toNat = after - offset := by bv_omega
    have hwords : BitVec.ofNat 32 (after - offset) = 1 + pkt.count := by bv_omega
    have hnext : wordAddr addr offset + (1 + pkt.count) * 4 = wordAddr addr after := by
      unfold wordAddr
      bv_omega
    have hleft : (if BitVec.ofNat 32 (words.length - offset) > 1 + pkt.count then
        BitVec.ofNat 32 (words.length - offset) - (1 + pkt.count) else 0) =
          BitVec.ofNat 32 (words.length - after) := by
      split <;> bv_omega
    simp only [bind, Except.bind, Except.map, pure, Except.pure, hkind, if_false, hwords, hnext,
      hleft]

end Decoders

/-! ## The two loops -/

section Loops

variable {fp : FloatUnit} {budgets : PushbufferBudgets} {read : GuestAddr → Result U32}
variable {addr : GuestAddr} {words : List U32} {l : StreamLoop ℕ ℕ}
variable {l' : StreamLoop MemoryPosition GuestAddr}

/-- Two heads at the same packet of a list that gives no jump. -/
structure SamePacket (addr : GuestAddr) (words : List U32) (l : StreamLoop ℕ ℕ)
    (l' : StreamLoop MemoryPosition GuestAddr) : Prop where
  processor : l'.processor = l.processor
  position : l'.position = memoryPosition addr words l.position
  inside : l.position ≤ words.length
  given : ∃ pkts, Gives (bufferStream words) 0 pkts l.position

omit l' in
/-- A packet that a list gives after others. -/
theorem gives_snoc {pkts : List PushbufferPacket} {x y after : ℕ} {pkt : PushbufferPacket}
    {count : U32} (h : Gives (bufferStream words) x pkts y)
    (hmore : (bufferStream words).more y = true)
    (hdecode : (bufferStream words).decode y = .ok (pkt, count, after))
    (hkind : pkt.opcode ≠ .jump) : Gives (bufferStream words) x (pkts ++ [pkt]) after := by
  induction h with
  | nil y => exact .method hmore hdecode hkind (.nil after)
  | method hmore' hdecode' hkind' _ ih => exact .method hmore' hdecode' hkind' (ih hmore hdecode)
  | jump hmore' hdecode' hkind' hjump' _ ih =>
    exact .jump hmore' hdecode' hkind' hjump' (ih hmore hdecode)

omit l' in
/-- What the list gives at an offset is a packet, and no jump, and ends within the list. -/
theorem decode_ok_of_jumpFree (hfree : JumpFree words) {pkts : List PushbufferPacket}
    {offset after : ℕ} {pkt : PushbufferPacket} {count : U32}
    (hgiven : Gives (bufferStream words) 0 pkts offset)
    (hdecode : (bufferStream words).decode offset = .ok (pkt, count, after)) :
    pkt.opcode ≠ .jump ∧ after ≤ words.length := by
  obtain ⟨⟨pkt', after'⟩, hspan, hpkt⟩ := bind_eq_ok hdecode
  cases hpkt
  exact ⟨hfree pkts offset pkt after hgiven hspan, (decodeFromSpan_ok hspan).2.1⟩

/-- Two heads at the same packet come to the same. -/
theorem agree_of_samePacket (hstored : StoredAt read addr words) (hfree : JumpFree words)
    (h : SamePacket addr words l l') :
    (streamIteration fp (bufferStream words) budgets l).Agree (SamePacket addr words) Eq
      (streamIteration fp (memoryStream read) budgets l') := by
  obtain ⟨hprocessor, hposition, hinside, pkts, hgiven⟩ := h
  have hmore : (memoryStream read).more l'.position = (bufferStream words).more l.position := by
    have hremaining := toNat_wordsRemaining hstored l.position
    rw [hposition]
    simp only [memoryStream, bufferStream, memoryPosition, decide_eq_decide]
    rw [gt_iff_lt, BitVec.lt_def, hremaining]
    simp
  have hdecodes (hm : (bufferStream words).more l.position = true) :=
    hposition ▸ decode_stored hstored (of_decide_eq_true hm) fun pkt after hdecode =>
      hfree pkts l.position pkt after hgiven hdecode
  obtain ⟨i, hturn⟩ := exists_turn fp (bufferStream words) budgets l
  rw [hturn.eq]
  cases hturn with
  | finished hm =>
    rw [(Turn.finished (hmore.trans hm)).eq, hprocessor]
    exact .done rfl
  | exhausted hm hbudget =>
    rw [(Turn.exhausted (hmore.trans hm) (hprocessor ▸ hbudget)).eq, hprocessor]
    exact .done rfl
  | undecoded hm hbudget hdecode =>
    have hdecode' := hdecodes hm
    rw [hdecode] at hdecode'
    rw [(Turn.undecoded (hmore.trans hm) (hprocessor ▸ hbudget) hdecode').eq, hprocessor]
    exact .done rfl
  | unreachable hm hbudget hdecode hkind hjump =>
    exact absurd hkind (decode_ok_of_jumpFree hfree hgiven hdecode).1
  | revisited hm hbudget hdecode hkind hjump hold =>
    exact absurd hkind (decode_ok_of_jumpFree hfree hgiven hdecode).1
  | jump hm hbudget hdecode hkind hjump hnew =>
    exact absurd hkind (decode_ok_of_jumpFree hfree hgiven hdecode).1
  | refused hm hbudget hdecode hkind hrun =>
    have hdecode' := hdecodes hm
    rw [hdecode] at hdecode'
    rw [(Turn.refused (hmore.trans hm) (hprocessor ▸ hbudget) hdecode' hkind
      (hprocessor ▸ hrun)).eq]
    exact .done rfl
  | method hm hbudget hdecode hkind hrun =>
    have hdecode' := hdecodes hm
    rw [hdecode] at hdecode'
    rw [(Turn.method (hmore.trans hm) (hprocessor ▸ hbudget) hdecode' hkind
      (hprocessor ▸ hrun)).eq]
    exact .again ⟨rfl, rfl, (decode_ok_of_jumpFree hfree hgiven hdecode).2, _,
      gives_snoc hgiven hm hdecode hkind⟩

/-- **One call**: on words that are stored in guest memory and give no jump, the call that reads
memory and the call that is given the list return the same and leave the same processor. -/
theorem executeFromMemory_stored (fp : FloatUnit) {p : PushbufferProcessor}
    (hreader : p.memoryReader = some read) (hstored : StoredAt read addr words)
    (hfree : JumpFree words) (budgets : PushbufferBudgets) :
    executeFromMemory fp p addr read (BitVec.ofNat 32 words.length) budgets =
      executeBuffer fp p words budgets := by
  obtain ⟨r, hbuffer⟩ := executeBuffer_ends fp p budgets words
  obtain ⟨r', hmemory⟩ :=
    executeFromMemory_ends fp p budgets addr read (BitVec.ofNat 32 words.length)
  obtain ⟨heads, t, hgoes, hlast⟩ := goes_of_loopWithin hbuffer
  obtain ⟨heads', t', hgoes', hlast'⟩ := goes_of_loopWithin hmemory
  have hstart : SamePacket addr words (bufferStart p)
      (memoryStart p addr read (BitVec.ofNat 32 words.length)) := by
    refine ⟨?_, ?_, Nat.zero_le _, [], .nil 0⟩
    · simp [memoryStart, bufferStart, ← hreader]
    · simp [memoryStart, bufferStart, memoryPosition, wordAddr]
  obtain ⟨-, -, rfl⟩ := Goes.lockstep
    (fun _ _ _ _ _ _ _ hsame => agree_of_samePacket hstored hfree hsame) hstart hgoes hlast
    hgoes' hlast'
  rw [hbuffer, hmemory]

/-- The words of one method, and a guest memory that has them at two addresses. -/
def surfaceWidth : List U32 := [0x00040000 ||| kMethodSurfaceWidth, 320]

/-- The pushbuffer in memory. -/
def surfaceWidthAt (addr : GuestAddr) : Result U32 :=
  if addr = 0x1000 then .ok (0x00040000 ||| kMethodSurfaceWidth) else .ok 320

/-- Both paths execute the example alike. -/
theorem executeFromMemory_surface_width :
    executeFromMemory idleUnit { idleProcessor {} with memoryReader := some surfaceWidthAt } 0x1000
        surfaceWidthAt (BitVec.ofNat 32 surfaceWidth.length) {} =
      executeBuffer idleUnit { idleProcessor {} with memoryReader := some surfaceWidthAt }
        surfaceWidth {} := by
  have hstored : StoredAt surfaceWidthAt 0x1000 surfaceWidth := by
    refine ⟨by decide, by decide, fun i hi => ?_⟩
    match i, hi with
    | 0, _ => rfl
    | 1, _ => rfl
  have hfree : JumpFree surfaceWidth := by
    intro pkts offset pkt after hgiven hspan
    -- The packet at the first word is a method, and ends the list.
    cases hgiven with
    | nil =>
      cases hspan
      decide
    | method _ hdecode _ hrest =>
      cases hdecode
      cases hrest with
      | nil => cases hspan
      | method hmore => cases hmore
      | jump hmore => cases hmore
    | jump _ hdecode hkind =>
      cases hdecode
      cases hkind
  exact executeFromMemory_stored idleUnit rfl hstored hfree {}

end Loops

end Xblob.Analysis
