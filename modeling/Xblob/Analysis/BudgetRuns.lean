import Xblob.Analysis.PreciseFaults
import Xblob.Interface.BudgetRuns

/-!
# Cutting a run in two

The loop is followed by induction on what is left of the instruction budget.  While the
counter is never found at the largest budget, the cycle test never fails, and then the
counters have no influence on the run: they can be taken out of it (`runLoop_shift`), and a
run can be cut anywhere (`runLoop_append`).
-/

set_option autoImplicit false

namespace Xblob.Analysis

open Xblob.Memory Xblob.Processor Xblob.Interface Xblob.Computation

variable {M : Type} [GuestMemory M] {trap : Option (TrapHandler M)}

/-- The loop of a run without an interrupt source. -/
abbrev quietLoop (trap : Option (TrapHandler M)) (maxCycles : Cycle) (n : ℕ) (out : RunOutcome)
    (cpu : Cpu) (mem : M) : RunOutcome × Cpu × M :=
  runLoop (fun _ => none) trap maxCycles n out cpu mem

/-- An outcome with its two counters replaced. -/
def counted (out : RunOutcome) (instructions : U64) (cycles : Cycle) : RunOutcome :=
  { out with instructionsExecuted := instructions, cyclesConsumed := cycles }

/-- An outcome with its two counters raised. -/
def raised (out : RunOutcome) (instructions : U64) (cycles : Cycle) : RunOutcome :=
  counted out (out.instructionsExecuted + instructions) (out.cyclesConsumed + cycles)

/-- Below the largest budget, the cycle test succeeds. -/
theorem lt_unlimited {c : Cycle} (h : c ≠ kUnlimitedCycles) : c < kUnlimitedCycles := by
  have hc := c.isLt
  have hne : c.toNat ≠ kUnlimitedCycles.toNat := fun he => h (BitVec.eq_of_toNat_eq he)
  have hmax : kUnlimitedCycles.toNat = 2 ^ 64 - 1 := rfl
  rw [BitVec.lt_def]
  omega

/-- Two summands change places behind a third. -/
theorem add_swap {w : ℕ} (x y z : BitVec w) : x + y + z = x + z + y := by
  rw [BitVec.add_assoc, BitVec.add_comm y z, ← BitVec.add_assoc]

/-- One turn of the loop whose cycle test succeeds. -/
theorem quietLoop_succ {maxCycles : Cycle} {out : RunOutcome}
    (h : out.cyclesConsumed < maxCycles) (n : ℕ) (cpu : Cpu) (mem : M) :
    quietLoop trap maxCycles (n + 1) out cpu mem =
      let r := step none trap cpu mem
      let cycles := out.cyclesConsumed + r.1.cyclesConsumed
      match r.1.result with
      | .halted => ({ counted out (out.instructionsExecuted + 1) cycles with status := .halted }, r.2)
      | .faulted =>
        ({ counted out out.instructionsExecuted cycles with
           status := .faulted, fault := r.1.fault, exception := r.1.exception
           unsupportedForm := r.1.unsupportedForm }, r.2)
      | .ok =>
        quietLoop trap maxCycles n (counted out (out.instructionsExecuted + 1) cycles) r.2.1 r.2.2 := by
  unfold quietLoop
  rw [runLoop, if_pos h]
  rfl

/-- Closing a run leaves its counts. -/
theorem finishRun_counters (out : RunOutcome) (cpu : Cpu) :
    (finishRun out cpu).instructionsExecuted = out.instructionsExecuted ∧
      (finishRun out cpu).cyclesConsumed = out.cyclesConsumed := by
  unfold finishRun
  split_ifs <;> exact ⟨rfl, rfl⟩

/-- The loop ends when its cycle test fails. -/
theorem quietLoop_spent {maxCycles : Cycle} {out : RunOutcome}
    (h : ¬ out.cyclesConsumed < maxCycles) (n : ℕ) (cpu : Cpu) (mem : M) :
    quietLoop trap maxCycles (n + 1) out cpu mem = (finishRun out cpu, cpu, mem) := by
  rw [quietLoop, runLoop, if_neg h]

/-- **The counters have no influence** on a run that finds neither the counter it has nor
the raised one at the largest budget. -/
theorem runLoop_shift (n : ℕ) {out : RunOutcome} {cpu : Cpu} {mem : M} (i : U64) (c : Cycle)
    (h : NeverFull trap n out.cyclesConsumed cpu mem)
    (hraised : NeverFull trap n (out.cyclesConsumed + c) cpu mem) :
    quietLoop trap kUnlimitedCycles n (raised out i c) cpu mem =
      (raised (quietLoop trap kUnlimitedCycles n out cpu mem).1 i c,
        (quietLoop trap kUnlimitedCycles n out cpu mem).2) := by
  induction n generalizing out cpu mem with
  | zero =>
    simp only [quietLoop, runLoop, finishRun]
    split_ifs <;> rfl
  | succ n ih =>
    obtain ⟨hne, hrest⟩ := h
    obtain ⟨hne', hrest'⟩ := hraised
    have hless : (raised out i c).cyclesConsumed < kUnlimitedCycles := lt_unlimited hne'
    rw [quietLoop_succ (lt_unlimited hne), quietLoop_succ hless]
    dsimp only at hrest hrest' ⊢
    generalize step none trap cpu mem = r at hrest hrest'
    have hcycles : (raised out i c).cyclesConsumed + r.1.cyclesConsumed =
        out.cyclesConsumed + r.1.cyclesConsumed + c := add_swap _ _ _
    have hcount : (raised out i c).instructionsExecuted + 1 =
        out.instructionsExecuted + 1 + i := add_swap _ _ _
    rw [hcycles, hcount]
    cases hr : r.1.result with
    | halted => rfl
    | faulted => rfl
    | ok =>
      have hnext : NeverFull trap n (out.cyclesConsumed + r.1.cyclesConsumed + c) r.2.1 r.2.2 := by
        rw [← hcycles]
        exact hrest' hr
      exact @ih (counted out (out.instructionsExecuted + 1)
        (out.cyclesConsumed + r.1.cyclesConsumed)) r.2.1 r.2.2 (hrest hr) hnext

/-- What the first part of a run leaves for the second: it has executed all its
instructions, changed nothing in its outcome but the counters, and the counter is not found
at the largest budget from there on either. -/
structure Cut (trap : Option (TrapHandler M)) (m n : ℕ) (out : RunOutcome) (cpu : Cpu) (mem : M)
    (first : RunOutcome × Cpu × M) : Prop where
  whole : quietLoop trap kUnlimitedCycles (m + n) out cpu mem =
    quietLoop trap kUnlimitedCycles n first.1 first.2.1 first.2.2
  counters : first.1 = counted out first.1.instructionsExecuted first.1.cyclesConsumed
  rest : NeverFull trap n first.1.cyclesConsumed first.2.1 first.2.2

/-- **A run can be cut anywhere.** -/
theorem runLoop_append (m n : ℕ) {out : RunOutcome} {cpu : Cpu} {mem : M}
    (hout : out.status = .budgetExhausted)
    (h : NeverFull trap (m + n) out.cyclesConsumed cpu mem)
    (hex : (quietLoop trap kUnlimitedCycles m out cpu mem).1.status = .budgetExhausted) :
    Cut trap m n out cpu mem (quietLoop trap kUnlimitedCycles m out cpu mem) := by
  induction m generalizing out cpu mem with
  | zero =>
    have hfinish : finishRun out cpu = out := by
      unfold finishRun
      by_cases hl : cpu.lifecycle = .halted
      · rw [quietLoop, runLoop, finishRun, if_pos hl] at hex
        cases hex
      · rw [if_neg hl]
    have hfirst : quietLoop trap kUnlimitedCycles 0 out cpu mem = (out, cpu, mem) := by
      rw [quietLoop, runLoop, hfinish]
    rw [hfirst]
    rw [Nat.zero_add] at h
    exact ⟨by rw [Nat.zero_add], rfl, h⟩
  | succ m ih =>
    have hsucc : m + 1 + n = (m + n) + 1 := by omega
    rw [hsucc] at h
    obtain ⟨hne, hrest⟩ := h
    have hwhole : quietLoop trap kUnlimitedCycles (m + n + 1) out cpu mem = _ :=
      quietLoop_succ (lt_unlimited hne) (m + n) cpu mem
    rw [quietLoop_succ (lt_unlimited hne)] at hex ⊢
    dsimp only at hrest hex hwhole ⊢
    generalize step none trap cpu mem = r at hrest hex hwhole ⊢
    cases hr : r.1.result with
    | halted =>
      rw [hr] at hex
      cases hex
    | faulted =>
      rw [hr] at hex
      cases hex
    | ok =>
      rw [hr] at hex hwhole
      dsimp only at hex hwhole ⊢
      have hstatus : (counted out (out.instructionsExecuted + 1)
          (out.cyclesConsumed + r.1.cyclesConsumed)).status = .budgetExhausted := hout
      obtain ⟨hcut, hcounters, hleft⟩ := ih hstatus (hrest hr) hex
      refine ⟨?_, hcounters, hleft⟩
      rw [hsucc, hwhole, hcut]

/-- A run whose counters are never found at the largest budget splits alike. -/
theorem splitsAlike_of_neverFull {a b : U64} {cpu : Cpu} {mem : M}
    (hsum : a.toNat + b.toNat < 0x10000000000000000)
    (hwhole : NeverFull trap (a.toNat + b.toNat) 0 cpu mem)
    (hsecond : NeverFull trap b.toNat 0 (budgetRun trap a kUnlimitedCycles cpu mem).2.1
      (budgetRun trap a kUnlimitedCycles cpu mem).2.2) :
    SplitsAlike trap a b cpu mem := by
  unfold SplitsAlike
  intro first second whole hex
  have hadd : (a + b).toNat = a.toNat + b.toNat := by
    rw [BitVec.toNat_add, Nat.mod_eq_of_lt hsum]
  have hzero : ∀ v : U64, 0 + v = v := fun v => BitVec.zero_add v
  have hcut : Cut trap a.toNat b.toNat { status := .budgetExhausted } cpu mem first :=
    runLoop_append a.toNat b.toNat rfl hwhole hex
  have hfirst : first.1 = raised { status := .budgetExhausted } first.1.instructionsExecuted
      first.1.cyclesConsumed := by
    unfold raised
    dsimp only
    rw [hzero, hzero]
    exact hcut.counters
  have hrest : NeverFull trap b.toNat (0 + first.1.cyclesConsumed) first.2.1 first.2.2 := by
    rw [hzero]
    exact hcut.rest
  have hrun : whole = (raised second.1 first.1.instructionsExecuted first.1.cyclesConsumed,
      second.2) := by
    have hshift : quietLoop trap kUnlimitedCycles b.toNat
        (raised { status := .budgetExhausted } first.1.instructionsExecuted first.1.cyclesConsumed)
        first.2.1 first.2.2 = _ :=
      runLoop_shift b.toNat first.1.instructionsExecuted first.1.cyclesConsumed hsecond hrest
    have hstart := hcut.whole
    rw [hfirst] at hstart
    have hbudget : whole = quietLoop trap kUnlimitedCycles (a.toNat + b.toNat)
        { status := .budgetExhausted } cpu mem := by
      rw [← hadd]
      rfl
    rw [hbudget, hstart]
    exact hshift
  rw [hrun]
  exact ⟨rfl, rfl, BitVec.add_comm _ _, BitVec.add_comm _ _⟩

/-- What a run has done of its budgets, from any point of the loop on. -/
theorem quietLoop_budgets {c : Cycle} (n : ℕ) {out : RunOutcome} {cpu : Cpu} {mem : M}
    (hfit : out.instructionsExecuted.toNat + n < 0x10000000000000000) :
    let r := (quietLoop trap c n out cpu mem).1
    r.instructionsExecuted.toNat ≤ out.instructionsExecuted.toNat + n ∧
      (r.status = .budgetExhausted →
        r.instructionsExecuted.toNat < out.instructionsExecuted.toNat + n →
        ¬ out.cyclesConsumed < c ∧ r.cyclesConsumed = out.cyclesConsumed ∧
          r.instructionsExecuted = out.instructionsExecuted ∨
        ∃ k, out.instructionsExecuted.toNat + k + 1 = r.instructionsExecuted.toNat ∧
          r.cyclesConsumed.toNat < c.toNat + (step none trap (stepped trap k cpu mem).1
            (stepped trap k cpu mem).2).1.cyclesConsumed.toNat) := by
  induction n generalizing out cpu mem with
  | zero =>
    have hcount : (quietLoop trap c 0 out cpu mem).1.instructionsExecuted =
        out.instructionsExecuted := (finishRun_counters out cpu).1
    dsimp only
    rw [hcount]
    exact ⟨Nat.le_refl _, fun _ hlt => absurd hlt (Nat.lt_irrefl _)⟩
  | succ n ih =>
    intro r
    by_cases hlt : out.cyclesConsumed < c
    · -- one more instruction is executed
      have hsucc : quietLoop trap c (n + 1) out cpu mem = _ := quietLoop_succ hlt n cpu mem
      dsimp only at hsucc
      have hnext : (out.instructionsExecuted + 1).toNat = out.instructionsExecuted.toNat + 1 := by
        rw [BitVec.toNat_add, Nat.mod_eq_of_lt]
        · rfl
        · change _ + 1 < _
          omega
      cases hr : (step none trap cpu mem).1.result with
      | halted =>
        have hrun : r = (quietLoop trap c (n + 1) out cpu mem).1 := rfl
        rw [hsucc, hr] at hrun
        rw [hrun]
        refine ⟨?_, nofun⟩
        change (out.instructionsExecuted + 1).toNat ≤ _
        omega
      | faulted =>
        have hrun : r = (quietLoop trap c (n + 1) out cpu mem).1 := rfl
        rw [hsucc, hr] at hrun
        rw [hrun]
        refine ⟨?_, nofun⟩
        change out.instructionsExecuted.toNat ≤ _
        omega
      | ok =>
        have hrun : r = (quietLoop trap c (n + 1) out cpu mem).1 := rfl
        rw [hsucc, hr] at hrun
        dsimp only at hrun
        have hih := @ih (counted out (out.instructionsExecuted + 1)
          (out.cyclesConsumed + (step none trap cpu mem).1.cyclesConsumed))
          (step none trap cpu mem).2.1 (step none trap cpu mem).2.2
          (by change (out.instructionsExecuted + 1).toNat + n < _; omega)
        dsimp only at hih
        rw [← hrun] at hih
        simp only [counted] at hih
        rw [hnext] at hih
        obtain ⟨hle, hstop⟩ := hih
        refine ⟨by omega, fun hex hfew => .inr ?_⟩
        obtain ⟨-, hcycles, hcount⟩ | ⟨k, hk, hcycles⟩ := hstop hex (by omega)
        · refine ⟨0, ?_, ?_⟩
          · rw [hcount, hnext]
          · rw [BitVec.lt_def] at hlt
            rw [hcycles, BitVec.toNat_add]
            refine Nat.lt_of_le_of_lt (Nat.mod_le _ _) ?_
            change _ < c.toNat + (step none trap cpu mem).1.cyclesConsumed.toNat
            omega
        · exact ⟨k + 1, by omega, hcycles⟩
    · -- the cycle budget is spent
      have hstop : r = finishRun out cpu := by
        change (quietLoop trap c (n + 1) out cpu mem).1 = _
        rw [quietLoop_spent hlt]
      rw [hstop, (finishRun_counters out cpu).1, (finishRun_counters out cpu).2]
      exact ⟨by omega, fun _ _ => .inl ⟨hlt, rfl, rfl⟩⟩

/-- Every run keeps its budgets. -/
theorem keepsBudgets (n : U64) (c : Cycle) (cpu : Cpu) (mem : M) :
    KeepsBudgets trap n c cpu mem := by
  have hfit : ({ status := .budgetExhausted } : RunOutcome).instructionsExecuted.toNat + n.toNat <
      0x10000000000000000 := by
    change 0 + n.toNat < _
    rw [Nat.zero_add]
    exact n.isLt
  obtain ⟨hle, hstop⟩ := @quietLoop_budgets M _ trap c n.toNat _ cpu mem hfit
  change _ ≤ 0 + n.toNat at hle
  refine ⟨?_, fun hex hfew => ?_⟩
  · rw [BitVec.le_def]
    rwa [Nat.zero_add] at hle
  · obtain ⟨hc, hcycles, -⟩ | ⟨k, hk, hcycles⟩ := hstop hex (by
      change _ < 0 + n.toNat
      rw [Nat.zero_add]
      exact hfew)
    · refine .inl ⟨?_, hcycles⟩
      apply BitVec.eq_of_toNat_eq
      rw [BitVec.lt_def] at hc
      change ¬ 0 < c.toNat at hc
      change c.toNat = 0
      omega
    · refine .inr ⟨k, ?_, hcycles⟩
      refine Eq.trans ?_ hk
      change k + 1 = 0 + k + 1
      rw [Nat.zero_add]

/-- **Budgets.**  A run is cut in two by its instruction budget without a difference, unless
the run or its second part counts exactly the largest cycle budget before an instruction;
and every run keeps both its budgets. -/
theorem budget_splitting (trap : Option (TrapHandler M)) (a b : U64) (cpu : Cpu) (mem : M) :
    (a.toNat + b.toNat < 0x10000000000000000 →
      NeverFull trap (a.toNat + b.toNat) 0 cpu mem →
      NeverFull trap b.toNat 0 (budgetRun trap a kUnlimitedCycles cpu mem).2.1
        (budgetRun trap a kUnlimitedCycles cpu mem).2.2 →
      SplitsAlike trap a b cpu mem) ∧
    ∀ n c, KeepsBudgets trap n c cpu mem :=
  ⟨splitsAlike_of_neverFull, fun n c => keepsBudgets n c cpu mem⟩

/-! ## The largest cycle budget is a limit -/

/-- A bank with a NOP at 0x100 and a jump through EAX at 0x101. -/
def spinSpace : AddressSpace Unit where
  regions := [⟨0, 0x4000000, .all, .ram 0 0⟩]
  rams := fun _ => ⟨kRamSizeRetail, fun offset => [0x90, 0xFF, 0xE0].getD (offset - 0x100) (0 : U8)⟩
  devices := ()

/-- A processor at `eip` with the address of the jump in EAX. -/
def spinCpu (eip : U32) : Cpu :=
  { context := { gpr := fun r => if r = .eax then 0x101 else 0, eip := eip } }

/-- The two instructions of the spinning program. -/
theorem spin_decodes :
    outcome (decodeAt (spinCpu 0x100).context 0x100 spinSpace) =
        .ok { id := .nop, length := 1, cycles := 1 } ∧
      outcome (decodeAt (spinCpu 0x101).context 0x101 spinSpace) =
        .ok { id := .jmp, length := 2, cycles := 2, op1 := { kind := .register } } := by
  decide +kernel

/-- The NOP costs one cycle and leads to the jump. -/
theorem step_spin_nop :
    step none none (spinCpu 0x100) spinSpace =
      ({ result := .ok, cyclesConsumed := 1 }, spinCpu 0x101, spinSpace) := by
  have hrun : (spinCpu 0x100).lifecycle = .running := rfl
  exact step_decoded hrun spin_decodes.1 (r := {}) rfl rfl

/-- The jump costs two cycles and leads to itself. -/
theorem step_spin_jump :
    step none none (spinCpu 0x101) spinSpace =
      ({ result := .ok, cyclesConsumed := 2 }, spinCpu 0x101, spinSpace) := by
  have hrun : (spinCpu 0x101).lifecycle = .running := rfl
  exact step_decoded hrun spin_decodes.2 (r := { branched := true, nextEip := 0x101 }) rfl rfl

/-- The jump, run for `n` instructions that stay below the cycle budget. -/
theorem quietLoop_spin {maxCycles : Cycle} (n : ℕ) {left : ℕ} {out : RunOutcome}
    (h : out.cyclesConsumed.toNat + 2 * n ≤ maxCycles.toNat + 1) :
    quietLoop none maxCycles (n + left) out (spinCpu 0x101) spinSpace =
      quietLoop none maxCycles left
        (counted out (out.instructionsExecuted + BitVec.ofNat 64 n)
          (out.cyclesConsumed + BitVec.ofNat 64 (2 * n))) (spinCpu 0x101) spinSpace := by
  induction n generalizing out with
  | zero =>
    rw [Nat.zero_add]
    have hz : ∀ v : U64, v + BitVec.ofNat 64 0 = v := BitVec.add_zero
    rw [hz, Nat.mul_zero, hz]
    rfl
  | succ n ih =>
    have hlt : out.cyclesConsumed < maxCycles := by
      rw [BitVec.lt_def]
      omega
    have hsucc : n + 1 + left = (n + left) + 1 := by omega
    rw [hsucc, quietLoop_succ hlt, step_spin_jump]
    dsimp only
    have hnext : (counted out (out.instructionsExecuted + 1)
        (out.cyclesConsumed + 2)).cyclesConsumed.toNat + 2 * n ≤ maxCycles.toNat + 1 := by
      have hle : (out.cyclesConsumed + 2).toNat ≤ out.cyclesConsumed.toNat + 2 := by
        rw [BitVec.toNat_add]
        exact Nat.mod_le _ _
      change (out.cyclesConsumed + 2).toNat + 2 * n ≤ _
      omega
    rw [ih hnext]
    have hinst : out.instructionsExecuted + 1 + BitVec.ofNat 64 n =
        out.instructionsExecuted + BitVec.ofNat 64 (n + 1) := by
      rw [Nat.add_comm n 1, BitVec.ofNat_add, ← BitVec.add_assoc]
      rfl
    have hcycles : out.cyclesConsumed + 2 + BitVec.ofNat 64 (2 * n) =
        out.cyclesConsumed + BitVec.ofNat 64 (2 * (n + 1)) := by
      rw [show 2 * (n + 1) = 2 + 2 * n by omega, BitVec.ofNat_add, ← BitVec.add_assoc]
      rfl
    unfold counted
    dsimp only
    rw [hinst, hcycles]

/-- Two instructions, then three more. -/
theorem budget_splitting_spin :
    (budgetRun none 2 kUnlimitedCycles (spinCpu 0x100) spinSpace).1.status = .budgetExhausted ∧
      SplitsAlike none 2 3 (spinCpu 0x100) spinSpace := by
  refine ⟨by decide +kernel, ?_⟩
  exact (budget_splitting none 2 3 (spinCpu 0x100) spinSpace).1 (by decide) (by decide +kernel)
    (by decide +kernel)

/-- A budgeted run without an observer is the quiet loop. -/
theorem budgetRun_eq {M : Type} [GuestMemory M] (trap : Option (TrapHandler M)) (n : U64)
    (c : Cycle) (cpu : Cpu) (mem : M) :
    budgetRun trap n c cpu mem =
      quietLoop trap c n.toNat { status := .budgetExhausted } cpu mem := rfl

/-- The jump alone, for as many instructions as half the cycle budget holds. -/
theorem budgetRun_jump {b : U64} (hb : 2 * b.toNat ≤ kUnlimitedCycles.toNat + 1) :
    (budgetRun none b kUnlimitedCycles (spinCpu 0x101) spinSpace).1.instructionsExecuted = b := by
  rw [budgetRun_eq, ← Nat.add_zero b.toNat, quietLoop_spin b.toNat (by change 0 + _ ≤ _; omega)]
  change 0 + BitVec.ofNat 64 b.toNat = b
  rw [BitVec.ofNat_toNat, BitVec.setWidth_eq]
  exact BitVec.zero_add b

/-- The NOP and the jump: the run stops when the cycles reach the budget. -/
theorem budgetRun_nop_jump {b n : U64} (hb : b.toNat = n.toNat + 2)
    (hn : 1 + 2 * n.toNat = kUnlimitedCycles.toNat) :
    (budgetRun none b kUnlimitedCycles (spinCpu 0x100) spinSpace).1.instructionsExecuted = 1 + n := by
  have hcycles : (1 + BitVec.ofNat 64 (2 * n.toNat) : U64) = kUnlimitedCycles := by
    apply BitVec.eq_of_toNat_eq
    rw [← hn, BitVec.toNat_add, BitVec.toNat_ofNat]
    have hmax : kUnlimitedCycles.toNat < 2 ^ 64 := kUnlimitedCycles.isLt
    change (1 + 2 * n.toNat % 2 ^ 64) % 2 ^ 64 = _
    omega
  have hstart : ({ status := .budgetExhausted } : RunOutcome).cyclesConsumed < kUnlimitedCycles := by
    decide
  have hsum : n.toNat + 2 = (n.toNat + 1) + 1 := rfl
  rw [budgetRun_eq, hb, hsum, quietLoop_succ hstart, step_spin_nop]
  dsimp only
  rw [quietLoop_spin n.toNat (by change 1 + _ ≤ _; omega)]
  generalize hout : counted _ _ (_ + BitVec.ofNat 64 (2 * n.toNat)) = out
  have hspent : out.cyclesConsumed = kUnlimitedCycles := by
    rw [← hout]
    exact hcycles
  have hcount : out.instructionsExecuted = 1 + n := by
    rw [← hout]
    change 1 + BitVec.ofNat 64 n.toNat = 1 + n
    rw [BitVec.ofNat_toNat, BitVec.setWidth_eq]
  have hstop : ¬ out.cyclesConsumed < kUnlimitedCycles := by
    rw [hspent, BitVec.lt_def]
    exact Nat.lt_irrefl _
  rw [quietLoop_spent hstop, (finishRun_counters out _).1, hcount]

/-- The instruction counts of a run that splits alike add up. -/
theorem instructions_of_splitsAlike {M : Type} [GuestMemory M] {trap : Option (TrapHandler M)}
    {a b : U64} {cpu : Cpu} {mem : M} (h : SplitsAlike trap a b cpu mem)
    {out : RunOutcome} {cpu' : Cpu} {mem' : M}
    (hfirst : budgetRun trap a kUnlimitedCycles cpu mem = (out, cpu', mem'))
    (hex : out.status = .budgetExhausted) :
    (budgetRun trap (a + b) kUnlimitedCycles cpu mem).1.instructionsExecuted =
      out.instructionsExecuted +
        (budgetRun trap b kUnlimitedCycles cpu' mem').1.instructionsExecuted := by
  unfold SplitsAlike at h
  rw [hfirst] at h
  exact (h hex).2.2.1

/-- **A long run does stop at the default cycle budget.**  After a NOP, 2^63 - 1 jumps of two
cycles each reach the budget exactly; cut after the NOP, the same run goes on. -/
theorem budget_split_differs :
    (budgetRun none 1 kUnlimitedCycles (spinCpu 0x100) spinSpace).1.status = .budgetExhausted ∧
      ¬ SplitsAlike none 1 0x8000000000000000 (spinCpu 0x100) spinSpace := by
  have hfirst : budgetRun none 1 kUnlimitedCycles (spinCpu 0x100) spinSpace =
      (⟨.budgetExhausted, 1, 1, none, none, none⟩, spinCpu 0x101, spinSpace) := by
    have hone : (1 : U64).toNat = 0 + 1 := rfl
    have hstart : ({ status := .budgetExhausted } : RunOutcome).cyclesConsumed <
        kUnlimitedCycles := by
      decide
    rw [budgetRun_eq, hone, quietLoop_succ hstart, step_spin_nop]
    rfl
  have hwhole := budgetRun_nop_jump (b := 1 + 0x8000000000000000) (n := 0x7FFFFFFFFFFFFFFF)
    (by decide) (by decide)
  have hsecond := budgetRun_jump (b := 0x8000000000000000) (by decide)
  refine ⟨by rw [hfirst], fun hsplit => ?_⟩
  have hcount := instructions_of_splitsAlike hsplit hfirst rfl
  rw [hwhole, hsecond] at hcount
  exact absurd hcount (by decide)

end Xblob.Analysis
