import Xblob.Model.Cpu.Step

/-!
# Runs under a budget

A run stops when it has executed its instructions or consumed its cycles.  Cutting a run
in two by its instruction budget should make no difference: the second part goes on
where the first one stopped.  A cycle budget is checked before each instruction, so the
last instruction may carry a run past it.

There is no unlimited cycle budget.  The largest one is `kUnlimitedCycles`, the default
of the source, and a run whose counter happens to reach exactly that value stops.
-/

set_option autoImplicit false

namespace Xblob.Interface

open Xblob.Processor

variable {M : Type} [GuestMemory M]

/-- The default cycle budget, `std::numeric_limits<Cycle>::max()`. -/
def kUnlimitedCycles : Cycle := 0xFFFFFFFFFFFFFFFF

/-- A run without an interrupt source. -/
def budgetRun (trap : Option (TrapHandler M)) (maxInstructions : U64) (maxCycles : Cycle)
    (cpu : Cpu) (mem : M) : RunOutcome × Cpu × M :=
  runWithBudget (fun _ => none) trap maxInstructions maxCycles cpu mem

/-- The processor and memory after `k` steps without an interrupt source. -/
def stepped (trap : Option (TrapHandler M)) : ℕ → Cpu → M → Cpu × M
  | 0, cpu, mem => (cpu, mem)
  | k + 1, cpu, mem =>
    let r := step none trap cpu mem
    stepped trap k r.2.1 r.2.2

/-- No cycle test before up to `n` instructions finds the counter, which starts at `count`,
at the largest budget: the steps end with the first that does not succeed. -/
def NeverFull (trap : Option (TrapHandler M)) : ℕ → Cycle → Cpu → M → Prop
  | 0, _, _, _ => True
  | n + 1, count, cpu, mem =>
    let r := step none trap cpu mem
    count ≠ kUnlimitedCycles ∧
      (r.1.result = .ok → NeverFull trap n (count + r.1.cyclesConsumed) r.2.1 r.2.2)

/-- The counter is followed step by step. -/
instance decNeverFull (trap : Option (TrapHandler M)) :
    ∀ (n : ℕ) (count : Cycle) (cpu : Cpu) (mem : M), Decidable (NeverFull trap n count cpu mem)
  | 0, _, _, _ => isTrue trivial
  | n + 1, count, cpu, mem =>
    let r := step none trap cpu mem
    have := decNeverFull trap n (count + r.1.cyclesConsumed) r.2.1 r.2.2
    inferInstanceAs (Decidable (_ ∧ (_ → _)))

/-- A run of `a` instructions that exhausts its budget, continued for `b` more, ends like
one run of `a + b`, and the counts add up. -/
def SplitsAlike (trap : Option (TrapHandler M)) (a b : U64) (cpu : Cpu) (mem : M) : Prop :=
  let first := budgetRun trap a kUnlimitedCycles cpu mem
  let second := budgetRun trap b kUnlimitedCycles first.2.1 first.2.2
  let whole := budgetRun trap (a + b) kUnlimitedCycles cpu mem
  first.1.status = .budgetExhausted →
    whole.2 = second.2 ∧ whole.1.status = second.1.status ∧
    whole.1.instructionsExecuted = first.1.instructionsExecuted + second.1.instructionsExecuted ∧
    whole.1.cyclesConsumed = first.1.cyclesConsumed + second.1.cyclesConsumed

/-- A run executes no more instructions than its budget; when the cycle budget stops it, it
has consumed fewer cycles than the budget plus the cost of the last instruction (and none
at all under an empty budget). -/
def KeepsBudgets (trap : Option (TrapHandler M)) (n : U64) (c : Cycle) (cpu : Cpu) (mem : M) :
    Prop :=
  let r := (budgetRun trap n c cpu mem).1
  r.instructionsExecuted ≤ n ∧
    (r.status = .budgetExhausted → r.instructionsExecuted < n →
      c = 0 ∧ r.cyclesConsumed = 0 ∨
      ∃ k, k + 1 = r.instructionsExecuted.toNat ∧
        r.cyclesConsumed.toNat < c.toNat +
          (step none trap (stepped trap k cpu mem).1 (stepped trap k cpu mem).2).1.cyclesConsumed.toNat)

end Xblob.Interface
