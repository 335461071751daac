import Xblob.Analysis.PreciseFaults
import Xblob.Interface.Encodings

/-!
# What a decoded instruction was decoded from

The decoder is a program over its stream.  A successful decoding is taken apart from the
front: the prefixes and the opcode, then the alternative that recognises the opcode, then
the operand of its ModRM byte, which stands at the address the manual gives.
-/

set_option autoImplicit false

namespace Xblob.Analysis

open Xblob.Computation Xblob.Computation.Program Xblob.Interface Xblob.Processor
  Xblob.Processor.Decoding

section Stream

variable {M : Type} [GuestMemory M] {α β : Type} {s s' : InstructionStream M}

/-- Running a part of the decoder on the stream. -/
abbrev decoding (x : Decoding α) (s : InstructionStream M) :
    EStateM.Result DecodeError (InstructionStream M) α :=
  (x.run InstructionStream.answer).run s

/-- A sequence that decodes has decoded its two parts. -/
theorem decoding_bind_ok {x : Decoding α} {f : α → Decoding β} {b : β}
    {s'' : InstructionStream M} (h : decoding (x >>= f) s = .ok b s'') :
    ∃ a s', decoding x s = .ok a s' ∧ decoding (f a) s' = .ok b s'' := by
  unfold decoding at h
  rw [Program.run_bind] at h
  exact run_bind_ok h

/-- Returning a value takes no byte. -/
theorem decoding_pure_ok {a b : α} (h : decoding (pure a) s = .ok b s') : b = a ∧ s' = s := by
  cases h
  exact ⟨rfl, rfl⟩

/-- The next byte is taken from the stream, which has room for it. -/
theorem nextByte_taken {b : U8} (h : decoding nextByte s = .ok b s') :
    s.rawBytes.length < 15 ∧ s'.rawBytes = s.rawBytes ++ [b] := by
  unfold decoding nextByte at h
  rw [run_request] at h
  change (InstructionStream.nextByte (M := M)).run s = .ok b s' at h
  unfold InstructionStream.nextByte at h
  by_cases hlen : s.rawBytes.length ≥ 15
  · simp [hlen] at h
  · refine ⟨by omega, ?_⟩
    obtain ⟨s₀, s₁, hget, h⟩ := run_bind_ok h
    cases hget
    rw [if_neg hlen] at h
    obtain ⟨b', s₂, hfetch, h⟩ := run_bind_ok h
    obtain ⟨_, s₃, hmodify, h⟩ := run_bind_ok h
    cases hmodify
    cases h
    rw [run_zoom] at hfetch
    split at hfetch
    · cases hfetch
      rfl
    · cases hfetch

/-- Decoding only ever adds to the bytes taken. -/
theorem decoding_extends {x : Decoding α} {a : α} (h : decoding x s = .ok a s') :
    ∃ more, s'.rawBytes = s.rawBytes ++ more := by
  induction x generalizing s with
  | done a' =>
    cases h
    exact ⟨[], by simp⟩
  | fail e => cases h
  | ask r k ih =>
    obtain ⟨b, s₁, hask, hrest⟩ := run_bind_ok h
    obtain ⟨more, hmore⟩ := ih b hrest
    cases r with
    | nextByte =>
      have hask' : decoding nextByte s = .ok b s₁ := by
        unfold decoding nextByte
        rw [run_request]
        exact hask
      rw [(nextByte_taken hask').2] at hmore
      exact ⟨b :: more, by simpa using hmore⟩
    | rawBytes =>
      cases hask
      exact ⟨more, hmore⟩

/-! ## Prefixes and opcode -/

/-- A byte that adds to no prefix is none. -/
theorem add_eq_none {p : Prefixes} {b : U8} : p.add b = none ↔ isPrefix b = false := by
  unfold Prefixes.add isPrefix
  split_ifs <;> simp_all

/-- The prefixes taken are those in front of the opcode. -/
theorem readPrefixes_taken {n : ℕ} {p p' : Prefixes} {b : U8}
    (h : decoding (readPrefixes n p) s = .ok (b, p') s') (hn : s.rawBytes.length + n = 15) :
    ∃ before, (∀ c ∈ before, isPrefix c = true) ∧ isPrefix b = false ∧
      s'.rawBytes = s.rawBytes ++ before ++ [b] := by
  induction n generalizing s p with
  | zero =>
    obtain ⟨b', s₁, hnext, -⟩ := decoding_bind_ok h
    have hlen := (nextByte_taken hnext).1
    omega
  | succ n ih =>
    obtain ⟨b', s₁, hnext, h⟩ := decoding_bind_ok h
    obtain ⟨hlen, hraw⟩ := nextByte_taken hnext
    cases hadd : p.add b' with
    | none =>
      rw [hadd] at h
      cases h
      exact ⟨[], by simp, add_eq_none.1 hadd, by simp [hraw]⟩
    | some p₁ =>
      rw [hadd] at h
      have hpre : isPrefix b' = true := by
        cases hb : isPrefix b' with
        | true => rfl
        | false =>
          rw [add_eq_none.2 hb] at hadd
          cases hadd
      obtain ⟨before, hbefore, hopcode, hrest⟩ := ih h (by simp [hraw]; omega)
      refine ⟨b' :: before, List.forall_mem_cons.2 ⟨hpre, hbefore⟩, hopcode, ?_⟩
      simp [hrest, hraw]

/-- The bytes from the opcode on are those behind the prefixes. -/
theorem fromOpcode_append {before after : List U8} {b : U8}
    (hbefore : ∀ c ∈ before, isPrefix c = true) (hb : isPrefix b = false) :
    fromOpcode (before ++ b :: after) = b :: after := by
  unfold fromOpcode
  induction before with
  | nil => simp [hb]
  | cons c before ih =>
    rw [List.forall_mem_cons] at hbefore
    simpa [List.dropWhile, hbefore.1] using ih hbefore.2

/-- The alternatives of `Decode`, in their order. -/
def alternatives (opcode : U8) (eip : GuestAddr) (ctx : CpuContext) :
    List (Decoding (Option DecodedInstruction)) :=
  [ tryDecodeShift opcode eip ctx,
    tryDecodeString opcode,
    tryDecodeMulDiv opcode ctx,
    tryDecodeBitExt opcode,
    tryDecodeAtomic opcode ctx,
    tryDecodeAlu opcode eip ctx,
    tryDecodeData opcode ctx,
    decodeControl opcode eip ctx ]

/-- An unsupported instruction does not decode. -/
theorem unsupported_fails {code : ErrorCode} {eip : GuestAddr} {reason : String} {a : α}
    (h : decoding (unsupported code eip reason) s = .ok a s') : False := by
  obtain ⟨bytes, s₁, hraw, h⟩ := decoding_bind_ok h
  cases h

/-- Checking the prefixes takes no byte. -/
theorem checkPrefixes_run {p : Prefixes} {eip : GuestAddr} {u : Unit}
    (h : decoding (checkPrefixes p eip) s = .ok u s') : s' = s := by
  unfold checkPrefixes at h
  split at h
  · exact (unsupported_fails h).elim
  · split at h
    · exact (unsupported_fails h).elim
    · split at h
      · exact (unsupported_fails h).elim
      · exact (decoding_pure_ok h).2

/-- What a form found, with the prefixes attached. -/
theorem finalize_run {p : Prefixes} {eip : GuestAddr} {inst₀ inst : DecodedInstruction}
    (h : decoding (finalize p eip inst₀) s = .ok inst s') :
    inst = { inst₀ with rep := p.rep, repne := p.repne, lock := p.lock } ∧ s' = s := by
  unfold finalize at h
  split at h
  · exact (unsupported_fails h).elim
  · split at h
    · exact (unsupported_fails h).elim
    · exact decoding_pure_ok h

/-- A decoded instruction has an opcode behind its prefixes, and one of the alternatives
recognised it on the stream as it stood behind the opcode. -/
theorem decode_inversion {ctx : CpuContext} {eip : GuestAddr} {mem : M}
    {inst : DecodedInstruction} {stream : InstructionStream M}
    (h : decodeAt ctx eip mem = .ok inst stream) :
    ∃ opcode before p inst₀ s₁, (∀ c ∈ before, isPrefix c = true) ∧ isPrefix opcode = false ∧
      s₁.rawBytes = before ++ [opcode] ∧
      decoding (firstOf (alternatives opcode eip ctx)) s₁ = .ok (some inst₀) stream ∧
      inst = { inst₀ with rep := Prefixes.rep p, repne := p.repne, lock := p.lock } := by
  obtain ⟨⟨opcode, p⟩, s₁, hprees, h⟩ := decoding_bind_ok (x := readPrefixes 15 {}) h
  obtain ⟨before, hbefore, hopcode, hraw⟩ := readPrefixes_taken hprees rfl
  obtain ⟨u, s₂, hcheck, h⟩ := decoding_bind_ok h
  cases checkPrefixes_run hcheck
  obtain ⟨o, s₃, hfirst, h⟩ := decoding_bind_ok h
  cases o with
  | none => cases h
  | some inst₀ =>
    obtain ⟨hinst, rfl⟩ := finalize_run h
    exact ⟨opcode, before, p, inst₀, s₁, hbefore, hopcode, by simpa using hraw, hfirst, hinst⟩

/-- An instruction found is returned with its length, and no byte is taken. -/
theorem decoding_found {inst : DecodedInstruction} {o : Option DecodedInstruction} (h : decoding (found inst) s = .ok o s') :
    ∃ length, o = some { inst with length := length } ∧ s' = s := by
  cases h
  exact ⟨_, rfl, rfl⟩

/-! ## The ModRM operand -/

/-- A byte immediate is the next byte taken. -/
theorem readImm8_taken {v : U32} (h : decoding readImm8 s = .ok v s') :
    ∃ after, s'.rawBytes = s.rawBytes ++ after ∧ ∀ more, v = disp8 (after ++ more) := by
  obtain ⟨b, s₁, hnext, h⟩ := decoding_bind_ok h
  cases h
  exact ⟨[b], (nextByte_taken hnext).2, fun more => rfl⟩

/-- A dword immediate is the next four bytes taken. -/
theorem readImm32_taken {v : U32} (h : decoding readImm32 s = .ok v s') :
    ∃ after, s'.rawBytes = s.rawBytes ++ after ∧ ∀ more, v = disp32 (after ++ more) := by
  obtain ⟨b0, s₁, h0, h⟩ := decoding_bind_ok h
  obtain ⟨b1, s₂, h1, h⟩ := decoding_bind_ok h
  obtain ⟨b2, s₃, h2, h⟩ := decoding_bind_ok h
  obtain ⟨b3, s₄, h3, h⟩ := decoding_bind_ok h
  cases h
  refine ⟨[b0, b1, b2, b3], ?_, fun more => rfl⟩
  simp [(nextByte_taken h0).2, (nextByte_taken h1).2, (nextByte_taken h2).2, (nextByte_taken h3).2]

/-- The displacement is the bytes its mode takes. -/
theorem displacement_taken {mod : U8} {v : U32} (h : decoding (displacement mod) s = .ok v s') :
    ∃ after, s'.rawBytes = s.rawBytes ++ after ∧ ∀ more, v = dispOf mod (after ++ more) := by
  unfold displacement at h
  unfold dispOf
  split_ifs at h ⊢ with h1 h2
  · exact readImm8_taken h
  · exact readImm32_taken h
  · cases h
    exact ⟨[], by simp, fun more => rfl⟩

/-- The address of a SIB byte is that of the bytes taken. -/
theorem sibAddress_taken {ctx : CpuContext} {mod : U8} {ea : GuestAddr}
    (h : decoding (sibAddress ctx mod) s = .ok ea s') :
    ∃ after, s'.rawBytes = s.rawBytes ++ after ∧ ∀ more, ea = sibEffective ctx mod (after ++ more) := by
  obtain ⟨sib, s₁, hsib, h⟩ := decoding_bind_ok h
  obtain ⟨-, hraw⟩ := nextByte_taken hsib
  dsimp only at h
  by_cases hbase : sib &&& 7 = 5 ∧ mod = 0
  · rw [if_pos hbase] at h
    obtain ⟨disp, s₂, hdisp, h⟩ := decoding_bind_ok h
    cases h
    obtain ⟨after, hafter, hvalue⟩ := readImm32_taken hdisp
    refine ⟨sib :: after, by simp [hafter, hraw], fun more => ?_⟩
    rw [List.cons_append, sibEffective, if_pos hbase, ← hvalue more]
    simp only [ne_eq, ite_not]
  · rw [if_neg hbase] at h
    obtain ⟨disp, s₂, hdisp, h⟩ := decoding_bind_ok h
    cases h
    obtain ⟨after, hafter, hvalue⟩ := displacement_taken hdisp
    refine ⟨sib :: after, by simp [hafter, hraw], fun more => ?_⟩
    rw [List.cons_append, sibEffective, if_neg hbase, ← hvalue more]
    simp only [ne_eq, ite_not]

/-- The operand that the bytes from a ModRM byte on stand for. -/
def modRmOperand (ctx : CpuContext) (sizeBytes : U8) (modrm : U8) (after : List U8) : Operand :=
  if modField modrm = 3 then
    if sizeBytes = 1 then .makeReg8 (rmField modrm)
    else if sizeBytes = 2 then .makeReg (.ofIndex (rmField modrm)) 2
    else .makeReg (.ofIndex (rmField modrm))
  else .makeMem (effectiveAddress ctx (modrm :: after)) sizeBytes

/-- The operand of a ModRM byte is that of the bytes taken. -/
theorem parseModRm_taken {ctx : CpuContext} {sizeBytes reg : U8} {op : Operand}
    (h : decoding (parseModRm ctx sizeBytes) s = .ok (op, reg) s') :
    ∃ modrm after, s'.rawBytes = s.rawBytes ++ modrm :: after ∧ reg = regField modrm ∧
      ∀ more, op = modRmOperand ctx sizeBytes modrm (after ++ more) := by
  obtain ⟨modrm, s₁, hnext, h⟩ := decoding_bind_ok h
  obtain ⟨-, hraw⟩ := nextByte_taken hnext
  dsimp only at h
  unfold modRmOperand
  by_cases h3 : modField modrm = 3
  · have h3' : (modrm >>> 6) &&& 3 = 3 := h3
    rw [if_pos h3'] at h
    refine ⟨modrm, [], ?_⟩
    by_cases h1 : sizeBytes = 1
    · rw [if_pos h1] at h
      cases h
      refine ⟨hraw, rfl, fun more => ?_⟩
      rw [if_pos h3, if_pos h1]
      rfl
    · rw [if_neg h1] at h
      by_cases h2 : sizeBytes = 2
      · rw [if_pos h2] at h
        cases h
        refine ⟨hraw, rfl, fun more => ?_⟩
        rw [if_pos h3, if_neg h1, if_pos h2]
        rfl
      · rw [if_neg h2] at h
        cases h
        refine ⟨hraw, rfl, fun more => ?_⟩
        rw [if_pos h3, if_neg h1, if_neg h2]
        rfl
  · have h3' : ¬ (modrm >>> 6) &&& 3 = 3 := h3
    rw [if_neg h3'] at h
    by_cases h4 : rmField modrm = 4
    · have h4' : ¬ modrm &&& 7 ≠ 4 := not_not_intro h4
      rw [if_neg h4'] at h
      obtain ⟨ea, s₂, hea, h⟩ := decoding_bind_ok h
      cases h
      obtain ⟨after, hafter, hvalue⟩ := sibAddress_taken hea
      refine ⟨modrm, after, by simp [hafter, hraw], rfl, fun more => ?_⟩
      rw [if_neg h3, effectiveAddress, if_pos h4]
      exact congrArg (Operand.makeMem · sizeBytes) (hvalue more)
    · have h4' : modrm &&& 7 ≠ 4 := h4
      rw [if_pos h4'] at h
      by_cases h5 : modField modrm = 0 ∧ rmField modrm = 5
      · have h5' : (modrm >>> 6) &&& 3 = 0 ∧ modrm &&& 7 = 5 := h5
        rw [if_pos h5'] at h
        obtain ⟨ea, s₂, hea, h⟩ := decoding_bind_ok h
        cases h
        obtain ⟨after, hafter, hvalue⟩ := readImm32_taken hea
        refine ⟨modrm, after, by simp [hafter, hraw], rfl, fun more => ?_⟩
        rw [if_neg h3, effectiveAddress, if_neg h4, if_pos h5]
        exact congrArg (Operand.makeMem · sizeBytes) (hvalue more)
      · have h5' : ¬ ((modrm >>> 6) &&& 3 = 0 ∧ modrm &&& 7 = 5) := h5
        rw [if_neg h5'] at h
        obtain ⟨disp, s₂, hdisp, h⟩ := decoding_bind_ok h
        cases h
        obtain ⟨after, hafter, hvalue⟩ := displacement_taken hdisp
        refine ⟨modrm, after, by simp [hafter, hraw], rfl, fun more => ?_⟩
        rw [if_neg h3, effectiveAddress, if_neg h4, if_neg h5, modField, ← hvalue more]
        rfl

/-! ## Decoded instructions with a known opcode -/

/-- The alternatives ran behind the opcode, on the instruction's remaining bytes. -/
theorem decoded_recognised (d : Decoded M) {opcode : U8} (hop : d.HasOpcode opcode) :
    ∃ p inst₀ s₁ after, d.stream.rawBytes = s₁.rawBytes ++ after ∧ d.bytes = opcode :: after ∧
      decoding (firstOf (alternatives opcode d.ctx.eip d.ctx)) s₁ = .ok (some inst₀) d.stream ∧
      d.inst = { inst₀ with rep := Prefixes.rep p, repne := p.repne, lock := p.lock } := by
  obtain ⟨opcode', before, p, inst₀, s₁, hbefore, hopcode, hraw, hfirst, hinst⟩ :=
    decode_inversion d.decodes
  obtain ⟨after, hafter⟩ := decoding_extends hfirst
  have hbytes : d.bytes = opcode' :: after := by
    unfold Decoded.bytes
    rw [hafter, hraw, List.append_assoc]
    exact fromOpcode_append hbefore hopcode
  have hsame : opcode' = opcode := by
    unfold Decoded.HasOpcode at hop
    rw [hbytes] at hop
    exact Option.some.inj hop
  subst hsame
  exact ⟨p, inst₀, s₁, after, hafter, hbytes, hfirst, hinst⟩

end Stream

end Xblob.Analysis
