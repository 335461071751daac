import Xblob.Analysis.DecodedForms
import Xblob.Analysis.RepeatedStrings
import Xblob.Interface.Encodings

/-!
# A decoded instruction is its own bytes

A decoding that succeeds is repeated on any stream that gives the bytes it took.  The length is set
from the stream at the end of every form, so it counts these bytes.
-/

set_option autoImplicit false

namespace Xblob.Analysis

open Xblob.Computation Xblob.Interface Xblob.Memory Xblob.Processor Xblob.Processor.Decoding

/-! ## The bytes taken -/

section Taken

variable {δ δ' : Type} {α : Type} {s s' : InstructionStream (AddressSpace δ)}

/-- A fetch leaves memory as it is. -/
theorem fetch8_of_outcome {space : AddressSpace δ} {addr : GuestAddr} {b : U8}
    (h : outcome ((AddressSpace.fetch8 addr).run space) = .ok b) :
    (AddressSpace.fetch8 addr).run space = .ok b space := by
  have hquiet := AddressSpace.quiet_fetch8 space addr
  unfold Quiet at hquiet
  cases hrun : (AddressSpace.fetch8 addr).run space with
  | ok b' space' =>
    rw [hrun] at h hquiet
    cases h
    rw [stateAfter_ok] at hquiet
    rw [hquiet]
  | error e space' =>
    rw [hrun] at h
    cases h

/-- A byte is taken where the stream stands, and memory stays as it is. -/
theorem nextByte_fetched {b : U8} (h : decoding nextByte s = .ok b s') :
    s.rawBytes.length < 15 ∧ s' = { s with rawBytes := s.rawBytes ++ [b] } ∧
      (AddressSpace.fetch8 (s.eip + BitVec.ofNat 32 s.rawBytes.length)).run s.mem = .ok b s.mem := by
  have hlen := (nextByte_taken h).1
  unfold decoding nextByte at h
  rw [Program.run_request] at h
  have h : (InstructionStream.nextByte (M := AddressSpace δ)).run s = .ok b s' := h
  have hquiet := AddressSpace.quiet_fetch8 s.mem (s.eip + BitVec.ofNat 32 s.rawBytes.length)
  unfold Quiet at hquiet
  cases hfetch : (AddressSpace.fetch8 (s.eip + BitVec.ofNat 32 s.rawBytes.length)).run s.mem with
  | ok b' space =>
    rw [hfetch, stateAfter_ok] at hquiet
    subst hquiet
    rw [nextByte_ok hlen hfetch] at h
    cases h
    exact ⟨hlen, rfl, rfl⟩
  | error e space =>
    have hlen' : ¬s.rawBytes.length ≥ 15 := by omega
    unfold InstructionStream.nextByte at h
    simp [hlen', asDecodeError, GuestMemory.fetch8, hfetch] at h

/-- A successful part of the decoder leaves memory as it is, and the stream within its bound. -/
theorem decoding_bounded {x : Decoding α} {a : α} (h : decoding x s = .ok a s')
    (hroom : s.rawBytes.length ≤ 15) :
    s'.mem = s.mem ∧ s'.eip = s.eip ∧ s'.rawBytes.length ≤ 15 := by
  induction x generalizing s with
  | done a' =>
    cases h
    exact ⟨rfl, rfl, hroom⟩
  | fail e => cases h
  | ask r k ih =>
    obtain ⟨b, s₁, hask, hrest⟩ := run_bind_ok h
    cases r with
    | nextByte =>
      have hask' : decoding nextByte s = .ok b s₁ := by
        unfold decoding nextByte
        rw [Program.run_request]
        exact hask
      obtain ⟨hlen, rfl, -⟩ := nextByte_fetched hask'
      have hafter := ih b hrest (by simpa using Nat.succ_le_of_lt hlen)
      exact hafter
    | rawBytes =>
      cases hask
      exact ih _ hrest hroom

/-- The stream in another memory. -/
def inMemory (mem : AddressSpace δ') (s : InstructionStream (AddressSpace δ)) :
    InstructionStream (AddressSpace δ') where
  mem := mem
  eip := s.eip
  rawBytes := s.rawBytes

/-- A successful part of the decoder does the same in a memory with the bytes it takes. -/
theorem decoding_replay {x : Decoding α} {a : α} (h : decoding x s = .ok a s')
    {mem : AddressSpace δ'} (hsame : SameCode s.eip s'.rawBytes.length s.mem mem) :
    decoding x (inMemory mem s) = .ok a (inMemory mem s') := by
  induction x generalizing s with
  | done a' =>
    cases h
    rfl
  | fail e => cases h
  | ask r k ih =>
    obtain ⟨b, s₁, hask, hrest⟩ := run_bind_ok h
    cases r with
    | nextByte =>
      have hask' : decoding nextByte s = .ok b s₁ := by
        unfold decoding nextByte
        rw [Program.run_request]
        exact hask
      obtain ⟨hlen, rfl, hfetch⟩ := nextByte_fetched hask'
      obtain ⟨more, hmore⟩ := decoding_extends hrest
      have hat : s.rawBytes.length < s'.rawBytes.length := by simp [hmore]
      obtain ⟨b', hb', hother⟩ := hsame _ hat
      rw [hfetch] at hb'
      cases hb'
      have hnext := nextByte_ok hlen (fetch8_of_outcome hother)
      have hrest' := ih b hrest hsame
      unfold decoding at hrest' ⊢
      rw [Program.run, EStateM.run_bind]
      have hanswer : (InstructionStream.answer (M := AddressSpace δ') .nextByte).run (inMemory mem s) =
          .ok b (inMemory mem { s with rawBytes := s.rawBytes ++ [b] }) := hnext
      rw [hanswer]
      exact hrest'
    | rawBytes =>
      cases hask
      exact ih _ hrest hsame

end Taken

/-! ## The length -/

section Lengths

variable {M : Type} [GuestMemory M]

/-- What a form finds has the number of bytes taken from the stream as its length. -/
def Measured (M : Type) [GuestMemory M] (x : Decoding (Option DecodedInstruction)) : Prop :=
  ∀ (s : InstructionStream M) o s', decoding x s = .ok o s' →
    ∀ inst, o = some inst → inst.length = BitVec.ofNat 8 s'.rawBytes.length

/-- Nothing found measures nothing. -/
theorem measured_none : Measured M (pure none) := by
  intro s o s' h inst hinst
  cases h
  cases hinst

/-- An instruction found has the length of the bytes taken. -/
theorem measured_found (inst : DecodedInstruction) : Measured M (found inst) := by
  intro s o s' h inst' hinst
  cases h
  cases hinst
  rfl

/-- A branch has the length of the bytes taken. -/
theorem measured_branch (eip : GuestAddr) (disp : U32) (inst : DecodedInstruction) :
    Measured M (branch eip disp inst) := by
  intro s o s' h inst' hinst
  cases h
  cases hinst
  rfl

/-- A branch by an immediate has the length of the bytes taken. -/
theorem measured_branchImm (eip : GuestAddr) (disp : U32) (inst : DecodedInstruction) :
    Measured M (branchImm eip disp inst) := by
  intro s o s' h inst' hinst
  cases h
  cases hinst
  rfl

/-- A rejection finds no instruction. -/
theorem measured_reject (code : ErrorCode) (message : String) (offset : U64) :
    Measured M (reject code message offset) := by
  intro s o s' h
  cases h

/-- What is unsupported finds no instruction. -/
theorem measured_unsupported (code : ErrorCode) (eip : GuestAddr) (reason : String) :
    Measured M (unsupported code eip reason) :=
  fun _ _ _ h => (unsupported_fails h).elim

/-- What is read before the form is found does not matter. -/
theorem measured_bind {α : Type} {x : Decoding α} {f : α → Decoding (Option DecodedInstruction)}
    (hf : ∀ a, Measured M (f a)) : Measured M (x >>= f) := by
  intro s o s' h
  obtain ⟨a, s₁, -, hrest⟩ := decoding_bind_ok h
  exact hf a s₁ o s' hrest

/-- A choice is measured where both branches are. -/
theorem measured_ite {c : Prop} [Decidable c] {x y : Decoding (Option DecodedInstruction)}
    (hx : Measured M x) (hy : Measured M y) : Measured M (if c then x else y) := by
  split
  · exact hx
  · exact hy

/-- The shifts have the length of the bytes taken. -/
theorem measured_shift (opcode : U8) (eip : GuestAddr) (ctx : CpuContext) :
    Measured M (tryDecodeShift opcode eip ctx) := by
  unfold tryDecodeShift
  split
  · refine measured_bind fun ⟨op1, regOp⟩ => ?_
    dsimp only
    cases shiftId regOp with
    | some id => exact measured_bind fun op2 => measured_found _
    | none => exact measured_unsupported _ _ _
  · exact measured_none

/-- The string instructions have the length of the bytes taken. -/
theorem measured_string (opcode : U8) : Measured M (tryDecodeString opcode) := by
  unfold tryDecodeString stringOp
  split_ifs <;> first | exact measured_found _ | exact measured_none

/-- Multiplication and division have the length of the bytes taken. -/
theorem measured_mulDiv (opcode : U8) (ctx : CpuContext) :
    Measured M (tryDecodeMulDiv opcode ctx) := by
  unfold tryDecodeMulDiv
  split
  · exact measured_bind fun _ => measured_bind fun _ => measured_found _
  · exact measured_none

/-- The bit instructions have the length of the bytes taken. -/
theorem measured_bitExt (opcode : U8) : Measured M (tryDecodeBitExt opcode) := by
  unfold tryDecodeBitExt
  split
  · exact measured_found _
  · exact measured_none

/-- The further two-byte opcodes have the length of the bytes taken. -/
theorem measured_twoByteExtended (second : U8) (eip : GuestAddr) (ctx : CpuContext) :
    Measured M (tryDecodeTwoByteExtended second eip ctx) := by
  unfold tryDecodeTwoByteExtended
  repeat' refine measured_ite ?_ ?_
  all_goals first
    | exact measured_none
    | exact measured_bind fun _ => measured_found _
    | refine measured_bind fun ⟨rm, reg⟩ => measured_ite (measured_unsupported _ _ _) ?_
  exact measured_bind fun _ => measured_found _

/-- The atomic instructions have the length of the bytes taken. -/
theorem measured_atomic (opcode : U8) (ctx : CpuContext) :
    Measured M (tryDecodeAtomic opcode ctx) := by
  unfold tryDecodeAtomic
  split_ifs
  · exact measured_found _
  · exact measured_bind fun _ => measured_found _
  · exact measured_none

/-- Group 3 has the length of the bytes taken. -/
theorem measured_group3 (opcode : U8) (eip : GuestAddr) (ctx : CpuContext) :
    Measured M (decodeGroup3 opcode eip ctx) := by
  unfold decodeGroup3
  refine measured_bind fun ⟨op1, regOp⟩ => ?_
  dsimp only
  split
  · exact measured_bind fun _ => measured_found _
  · exact measured_found _
  · exact measured_found _
  · exact measured_found _
  · exact measured_found _
  · exact measured_unsupported _ _ _

/-- Group 1 has the length of the bytes taken. -/
theorem measured_group1 (opcode : U8) (ctx : CpuContext) : Measured M (decodeGroup1 opcode ctx) := by
  unfold decodeGroup1
  refine measured_bind fun ⟨op1, reg⟩ => measured_bind fun imm => ?_
  cases group1Id reg with
  | some id => exact measured_found _
  | none => exact measured_reject _ _ _

/-- The arithmetic opcodes have the length of the bytes taken. -/
theorem measured_alu (opcode : U8) (eip : GuestAddr) (ctx : CpuContext) :
    Measured M (tryDecodeAlu opcode eip ctx) := by
  unfold tryDecodeAlu
  split
  · unfold parseTwoOp
    split <;> exact measured_bind fun _ => measured_found _
  · split_ifs
    · exact measured_group3 opcode eip ctx
    · exact measured_group1 opcode ctx
    · exact measured_none

/-- The data moves have the length of the bytes taken. -/
theorem measured_data (opcode : U8) (ctx : CpuContext) : Measured M (tryDecodeData opcode ctx) := by
  unfold tryDecodeData
  repeat' refine measured_ite ?_ ?_
  all_goals first
    | exact measured_none
    | exact measured_found _
    | exact measured_bind fun _ => measured_found _
    | refine measured_bind fun ⟨rm, reg⟩ => measured_ite (measured_reject _ _ _) ?_
  · exact measured_bind fun _ => measured_found _
  · exact measured_found _

/-- Group 5 has the length of the bytes taken. -/
theorem measured_group5 (ctx : CpuContext) : Measured M (decodeGroup5 ctx) := by
  unfold decodeGroup5
  refine measured_bind fun ⟨op1, reg⟩ => ?_
  dsimp only
  split <;> first | exact measured_found _ | exact measured_reject _ _ _

/-- The two-byte opcodes have the length of the bytes taken. -/
theorem measured_twoByte (eip : GuestAddr) (ctx : CpuContext) :
    Measured M (decodeTwoByte eip ctx) := by
  unfold decodeTwoByte
  refine measured_bind fun second => ?_
  split
  · exact measured_bind fun _ => measured_branch _ _ _
  · intro s o s' h
    obtain ⟨o', s₁, hextended, hrest⟩ := decoding_bind_ok h
    cases o' with
    | some inst =>
      cases hrest
      exact measured_twoByteExtended second eip ctx s _ s' hextended
    | none => cases hrest

/-- The control opcodes have the length of the bytes taken. -/
theorem measured_control (opcode : U8) (eip : GuestAddr) (ctx : CpuContext) :
    Measured M (decodeControl opcode eip ctx) := by
  unfold decodeControl
  repeat' refine measured_ite ?_ ?_
  all_goals first
    | exact measured_none
    | exact measured_found _
    | exact measured_group5 ctx
    | exact measured_twoByte eip ctx
    | exact measured_bind fun _ => measured_found _
    | exact measured_bind fun _ => measured_branch _ _ _
    | exact measured_bind fun _ => measured_branchImm _ _ _
    | exact measured_bind fun ⟨rm, reg⟩ => measured_ite (measured_reject _ _ _) (measured_found _)

/-- The first decoder that finds an instruction has measured it. -/
theorem measured_firstOf {ds : List (Decoding (Option DecodedInstruction))}
    (h : ∀ d ∈ ds, Measured M d) : Measured M (firstOf ds) := by
  induction ds with
  | nil => exact measured_none
  | cons d ds ih =>
    rw [List.forall_mem_cons] at h
    intro s o s' hrun
    obtain ⟨o', s₁, hd, hrest⟩ := decoding_bind_ok hrun
    cases o' with
    | some inst =>
      cases hrest
      exact h.1 s _ s' hd
    | none => exact ih h.2 s₁ o s' hrest

/-- Every instruction has the length of the bytes taken. -/
theorem measured_alternatives (opcode : U8) (eip : GuestAddr) (ctx : CpuContext) :
    Measured M (firstOf (alternatives opcode eip ctx)) := by
  apply measured_firstOf
  simp only [alternatives, List.forall_mem_cons, List.not_mem_nil, false_implies, implies_true,
    and_true]
  exact ⟨measured_shift opcode eip ctx, measured_string opcode, measured_mulDiv opcode ctx,
    measured_bitExt opcode, measured_atomic opcode ctx, measured_alu opcode eip ctx,
    measured_data opcode ctx, measured_control opcode eip ctx⟩

/-- The length of a decoded instruction counts the bytes taken, of which the opcode is one. -/
theorem decode_length {ctx : CpuContext} {eip : GuestAddr} {mem : M} {inst : DecodedInstruction}
    {stream : InstructionStream M} (h : decodeAt ctx eip mem = .ok inst stream) :
    inst.length = BitVec.ofNat 8 stream.rawBytes.length ∧ 1 ≤ stream.rawBytes.length := by
  obtain ⟨opcode, before, p, inst₀, s₁, -, -, hraw, hfirst, rfl⟩ := decode_inversion h
  obtain ⟨after, hafter⟩ := decoding_extends hfirst
  refine ⟨measured_alternatives opcode eip ctx s₁ _ stream hfirst inst₀ rfl, ?_⟩
  rw [hafter, hraw]
  simp
  omega

end Lengths

/-! ## The prefix loop -/

/-- With the stream at its bound, no byte is taken. -/
theorem nextByte_full {M : Type} [GuestMemory M] {s : InstructionStream M}
    (hfull : 15 ≤ s.rawBytes.length) {b : U8} {s' : InstructionStream M} :
    decoding nextByte s ≠ .ok b s' := by
  intro h
  have hroom := (nextByte_taken h).1
  omega

/-- As many turns as the stream has room for, and one more, end the loop. -/
theorem prefixLoop_run {M : Type} [GuestMemory M] {n turns : ℕ} {p : Prefixes}
    {s : InstructionStream M} (hn : 15 ≤ s.rawBytes.length + n)
    (hturns : 16 ≤ s.rawBytes.length + turns) (hroom : s.rawBytes.length ≤ 15) :
    decoding (prefixLoop turns p) s =
      (some <$> (readPrefixes n p).run InstructionStream.answer).run s := by
  induction n generalizing turns p s with
  | zero =>
    obtain ⟨turns, rfl⟩ : ∃ t, turns = t + 1 := ⟨turns - 1, by omega⟩
    unfold decoding
    rw [prefixLoop, readPrefixes, Program.run_bind, Program.run_bind, map_bind, EStateM.run_bind,
      EStateM.run_bind]
    cases hnext : decoding nextByte s with
    | ok b s' => exact absurd hnext (nextByte_full (by omega))
    | error e s' =>
      unfold decoding at hnext
      rw [hnext]
  | succ n ih =>
    obtain ⟨turns, rfl⟩ : ∃ t, turns = t + 1 := ⟨turns - 1, by omega⟩
    unfold decoding
    rw [prefixLoop, readPrefixes, Program.run_bind, Program.run_bind, map_bind, EStateM.run_bind,
      EStateM.run_bind]
    cases hnext : decoding nextByte s with
    | ok b s' =>
      obtain ⟨hlen, hraw⟩ := nextByte_taken hnext
      have hlength : s'.rawBytes.length = s.rawBytes.length + 1 := by simp [hraw]
      unfold decoding at hnext
      rw [hnext]
      dsimp only
      cases p.add b with
      | none => rfl
      | some p' => exact ih (by omega) (by omega) (by omega)
    | error e s' =>
      unfold decoding at hnext
      rw [hnext]

/-! ## Decoding -/

/-- Decoding ends, finds an instruction of one to fifteen bytes, and finds it in every memory with
these bytes. -/
theorem decode_alone {δ : Type} (ctx : CpuContext) (eip : GuestAddr) (mem : AddressSpace δ) :
    DecodesAlone ctx eip mem := by
  have hlength (inst : DecodedInstruction) (stream : InstructionStream (AddressSpace δ))
      (h : decodeAt ctx eip mem = .ok inst stream) :
      inst.length.toNat = stream.rawBytes.length ∧ 1 ≤ stream.rawBytes.length ∧
        stream.rawBytes.length ≤ 15 := by
    obtain ⟨hinst, hone⟩ := decode_length h
    obtain ⟨-, -, hmax⟩ := decoding_bounded (s := startOf eip mem) h (Nat.zero_le 15)
    rw [hinst, BitVec.toNat_ofNat, Nat.mod_eq_of_lt (by omega)]
    exact ⟨rfl, hone, hmax⟩
  refine ⟨fun turns hturns => ?_, fun inst stream h => ?_, fun inst stream h δ' mem' hsame => ?_⟩
  · exact prefixLoop_run (s := startOf eip mem) (by simp [startOf]) (by simpa [startOf] using hturns)
      (by simp [startOf])
  · obtain ⟨heq, hone, hmax⟩ := hlength inst stream h
    exact ⟨heq ▸ hone, heq ▸ hmax⟩
  · rw [(hlength inst stream h).1] at hsame
    exact ⟨_, decoding_replay (s := startOf eip mem) h hsame⟩

end Xblob.Analysis
