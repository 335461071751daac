import Xblob.Model.Cpu.Decoder
import Xblob.Model.Cpu.Executor

/-!
# Executors look first and store once

Every instruction but two is a transaction: its executor reads what it needs, makes
one change, of memory or of the context, and from there on only touches the context
and cannot fail.  The exceptions are CMPXCHG, which sets the flags of its comparison
before it writes its destination, and INT, whose stack frame is several stores.
XCHG is a transaction because the decoder only ever gives it a register as its second
operand.

Divide errors are returned as values; a transaction that has stored something never
returns one.
-/

set_option autoImplicit false

namespace Xblob.Analysis

open Xblob.Computation Xblob.Computation.Program Xblob.Processor Xblob.Processor.Exec

/-- The requests that only look: at the context or at memory. -/
def Looks : ExecRequest → Prop
  | .context => True
  | .read8 _ => True
  | .read16 _ => True
  | .read32 _ => True
  | _ => False

/-- The requests on the context alone. -/
def OnContext : ExecRequest → Prop
  | .context => True
  | .setContext _ => True
  | _ => False

/-- A result without an exception. -/
def NoException (r : ExecutionResult) : Prop := r.exception = none

/-- A computation that only looks. -/
abbrev Looking {α : Type} (x : Exec α) : Prop := x.Within Looks fun _ => True

/-- A computation on the context alone that does not fail. -/
abbrev Committing {α : Type} (x : Exec α) (Q : α → Prop) : Prop := x.Settled OnContext Q

/-- A computation that looks, makes one change, and is then committed. -/
abbrev Storing {α : Type} (x : Exec α) (Q : α → Prop) : Prop :=
  x.Transactional Looks OnContext Q

section Rules

variable {α β : Type} {x : Exec α} {f : α → Exec β} {Q : β → Prop}

/-- A sequence of parts that only look only looks. -/
theorem looking_bind (hx : Looking x) (hf : ∀ a, Looking (f a)) : Looking (x >>= f) :=
  hx.bind fun a _ => hf a

/-- Looking before a store leaves the store the only one. -/
theorem looking_then (hx : Looking x) (hf : ∀ a, Storing (f a) Q) : Storing (x >>= f) Q :=
  hx.bind_transactional fun a _ => hf a

/-- A store is followed by what cannot fail. -/
theorem storing_then {P : α → Prop} (hx : Storing x P) (hf : ∀ a, Committing (f a) Q) :
    Storing (x >>= f) Q :=
  hx.bind_settled hf

end Rules

/-- Reading the context looks. -/
theorem looking_context : Looking context := ⟨trivial, fun _ => trivial⟩

/-- Reading a byte looks. -/
theorem looking_read8 (addr : GuestAddr) : Looking (read8 addr) := ⟨trivial, fun _ => trivial⟩

/-- Reading a word looks. -/
theorem looking_read16 (addr : GuestAddr) : Looking (read16 addr) := ⟨trivial, fun _ => trivial⟩

/-- Reading a dword looks. -/
theorem looking_read32 (addr : GuestAddr) : Looking (read32 addr) := ⟨trivial, fun _ => trivial⟩

/-- Writing a byte is one store. -/
theorem storing_write8 (addr : GuestAddr) (v : U8) : Storing (write8 addr v) fun _ => True :=
  .inr fun _ => trivial

/-- Writing a word is one store. -/
theorem storing_write16 (addr : GuestAddr) (v : U16) : Storing (write16 addr v) fun _ => True :=
  .inr fun _ => trivial

/-- Writing a dword is one store. -/
theorem storing_write32 (addr : GuestAddr) (v : U32) : Storing (write32 addr v) fun _ => True :=
  .inr fun _ => trivial

/-- Changing the context and returning a result is committed. -/
theorem committing_modify {α : Type} {Q : α → Prop} (g : CpuContext → CpuContext) {a : α}
    (hQ : Q a) : Committing (do modifyContext g; pure a) Q :=
  ⟨trivial, fun _ => ⟨trivial, fun _ => hQ⟩⟩

/-- Setting the context and returning a result is committed. -/
theorem committing_set {α : Type} {Q : α → Prop} (ctx : CpuContext) {a : α} (hQ : Q a) :
    Committing (do setContext ctx; pure a) Q :=
  ⟨trivial, fun _ => hQ⟩

/-! ## Operands -/

/-- Reading an operand looks. -/
theorem looking_readOperand (op : Operand) : Looking (readOperand op) := by
  unfold readOperand
  split
  · refine looking_bind looking_context fun ctx => ?_
    split_ifs <;> trivial
  · split_ifs <;> trivial
  · split_ifs
    · exact looking_bind (looking_read8 _) fun v => trivial
    · exact looking_bind (looking_read16 _) fun v => trivial
    · exact looking_read32 _
  · trivial

/-- Writing a register changes the context alone. -/
theorem committing_writeRegister {op : Operand} (hop : op.kind = .register) (value : U32) :
    Committing (writeOperand op value) fun _ => True := by
  unfold writeOperand
  rw [hop]
  split_ifs
  all_goals exact ⟨trivial, fun _ => ⟨trivial, fun _ => trivial⟩⟩

/-- Writing an operand is at most one store. -/
theorem storing_writeOperand (op : Operand) (value : U32) :
    Storing (writeOperand op value) fun _ => True := by
  cases hop : op.kind with
  | register => exact (committing_writeRegister hop value).transactional
  | memory =>
    unfold writeOperand
    rw [hop]
    split_ifs
    · exact storing_write8 _ _
    · exact storing_write16 _ _
    · exact storing_write32 _ _
  | immediate =>
    unfold writeOperand
    rw [hop]
    trivial
  | none =>
    unfold writeOperand
    rw [hop]
    trivial

/-- Writing an operand and then the context is a transaction. -/
theorem storing_writeOperand_modify (op : Operand) (value : U32) (g : CpuContext → CpuContext)
    {r : ExecutionResult} (hr : NoException r) :
    Storing (do writeOperand op value; modifyContext g; pure r) NoException :=
  storing_then (storing_writeOperand op value) fun _ => committing_modify g hr

/-- Writing an operand is a transaction. -/
theorem storing_writeOperand_pure (op : Operand) (value : U32) {r : ExecutionResult}
    (hr : NoException r) : Storing (do writeOperand op value; pure r) NoException :=
  storing_then (storing_writeOperand op value) fun _ => hr

/-- Pushing a dword is a transaction. -/
theorem storing_push (addr : GuestAddr) (value : U32) (g : CpuContext → CpuContext)
    {r : ExecutionResult} (hr : NoException r) :
    Storing (do write32 addr value; modifyContext g; pure r) NoException :=
  storing_then (storing_write32 addr value) fun _ => committing_modify g hr

/-! ## The executors -/

/-- The data moves look, make one change and are then committed. -/
theorem storing_executeData (inst : DecodedInstruction) :
    Storing (executeData inst) NoException := by
  unfold executeData
  split
  · exact looking_then (looking_readOperand _) fun val => storing_writeOperand_pure _ _ rfl
  · exact storing_writeOperand_pure _ _ rfl
  · trivial

/-- The target of a branch is looked up. -/
theorem looking_branchTarget (inst : DecodedInstruction) : Looking (branchTarget inst) := by
  unfold branchTarget
  split_ifs
  · trivial
  · exact looking_readOperand _

/-- The stack instructions look, make one change and are then committed. -/
theorem storing_executeStack (inst : DecodedInstruction) (currentEip : U32) :
    Storing (executeStack inst currentEip) NoException := by
  unfold executeStack
  refine looking_then looking_context fun ctx => ?_
  split
  · exact looking_then (looking_readOperand _) fun val => storing_push _ _ _ rfl
  · exact looking_then (looking_read32 _) fun val => storing_writeOperand_modify _ _ _ rfl
  · exact storing_push _ _ _ rfl
  · exact looking_then (looking_read32 _) fun val => (committing_modify _ rfl).transactional
  · exact looking_then (looking_branchTarget _) fun target => storing_push _ _ _ rfl
  · exact looking_then (looking_read32 _) fun ret => (committing_modify _ rfl).transactional
  · trivial

/-- The arithmetic instructions look, make one change and are then committed. -/
theorem storing_executeAlu (inst : DecodedInstruction) :
    Storing (executeAlu inst) NoException := by
  unfold executeAlu
  split
  · unfold executeIncDec
    refine looking_then (looking_readOperand _) fun a => ?_
    exact looking_then looking_context fun ctx => storing_writeOperand_modify _ _ _ rfl
  · refine looking_then (looking_readOperand _) fun a => ?_
    refine looking_then (looking_readOperand _) fun b => ?_
    refine looking_then looking_context fun ctx => ?_
    split
    · unfold commitAlu
      split
      · exact storing_writeOperand_modify _ _ _ rfl
      · exact (committing_modify _ rfl).transactional
    · trivial

/-- The shifts look, make one change and are then committed. -/
theorem storing_executeShift (inst : DecodedInstruction) :
    Storing (executeShift inst) NoException := by
  unfold executeShift
  refine looking_then (looking_readOperand _) fun val => ?_
  refine looking_then (looking_readOperand _) fun count => ?_
  dsimp only
  split
  · trivial
  · split
    · trivial
    · trivial
    · exact storing_writeOperand_modify _ _ _ rfl

/-- A product is stored once. -/
theorem storing_writeProduct (inst : DecodedInstruction) (product : U64) :
    Storing (writeProduct inst product) NoException :=
  storing_writeOperand_modify _ _ _ rfl

/-- IMUL looks, makes one change and is then committed. -/
theorem storing_executeImul (inst : DecodedInstruction) :
    Storing (executeImul inst) NoException := by
  unfold executeImul
  split_ifs
  · refine looking_then (looking_readOperand _) fun src => ?_
    exact looking_then (looking_readOperand _) fun imm => storing_writeProduct _ _
  · refine looking_then (looking_readOperand _) fun dst => ?_
    exact looking_then (looking_readOperand _) fun src => storing_writeProduct _ _
  · exact looking_then (looking_readOperand _) fun src => (committing_modify _ rfl).transactional

/-- A division either writes the registers or returns its exception untouched. -/
theorem storing_commitDivision (currentEip : U32) (qr : Option (U32 × U32)) :
    Storing (commitDivision currentEip qr) NoException := by
  cases qr with
  | none => trivial
  | some qr => exact (committing_modify _ rfl).transactional

/-- Multiplication and division look, make one change and are then committed. -/
theorem storing_executeMulDiv (inst : DecodedInstruction) (currentEip : U32) :
    Storing (executeMulDiv inst currentEip) NoException := by
  unfold executeMulDiv
  split
  · exact looking_then (looking_readOperand _) fun src => (committing_modify _ rfl).transactional
  · exact storing_executeImul inst
  · refine looking_then (looking_readOperand _) fun divisor => ?_
    exact looking_then looking_context fun ctx => storing_commitDivision _ _
  · refine looking_then (looking_readOperand _) fun divisor => ?_
    exact looking_then looking_context fun ctx => storing_commitDivision _ _
  · trivial

/-- The bit tested is looked up. -/
theorem looking_bitTested (inst : DecodedInstruction) (count : U32) :
    Looking (bitTested inst count) := by
  unfold bitTested
  split_ifs
  · exact looking_bind (looking_readOperand _) fun val => trivial
  · exact looking_bind (looking_read32 _) fun word => trivial

/-- The bit instructions look, make one change and are then committed. -/
theorem storing_executeBitExt (inst : DecodedInstruction) :
    Storing (executeBitExt inst) NoException := by
  unfold executeBitExt
  split
  · exact looking_then (looking_readOperand _) fun src => storing_writeOperand_pure _ _ rfl
  · exact looking_then (looking_readOperand _) fun src => storing_writeOperand_pure _ _ rfl
  · exact (committing_modify _ rfl).transactional
  · refine looking_then (looking_readOperand _) fun count => ?_
    exact looking_then (looking_bitTested _ _) fun bit => (committing_modify _ rfl).transactional
  · exact looking_then looking_context fun ctx => storing_writeOperand_pure _ _ rfl
  · trivial

/-- Copying an element is one store. -/
theorem storing_copyElement (byteForm : Bool) (src dst : GuestAddr) :
    Storing (copyElement byteForm src dst) fun _ => True := by
  unfold copyElement
  split
  · exact looking_then (looking_read8 _) fun v => storing_write8 _ _
  · exact looking_then (looking_read32 _) fun v => storing_write32 _ _

/-- Storing an element is one store. -/
theorem storing_storeElement (byteForm : Bool) (ctx : CpuContext) (dst : GuestAddr) :
    Storing (storeElement byteForm ctx dst) fun _ => True := by
  unfold storeElement
  split
  · exact storing_write8 _ _
  · exact storing_write32 _ _

/-- Loading an element looks. -/
theorem looking_loadElement (byteForm : Bool) (ctx : CpuContext) (src : GuestAddr) :
    Looking (loadElement byteForm ctx src) := by
  unfold loadElement
  split
  · exact looking_bind (looking_read8 _) fun v => trivial
  · exact looking_bind (looking_read32 _) fun v => trivial

/-- Comparing two elements looks. -/
theorem looking_compareElements (byteForm : Bool) (ctx : CpuContext) (s1 s2 : GuestAddr) :
    Looking (compareElements byteForm ctx s1 s2) := by
  unfold compareElements
  split
  · refine looking_bind (looking_read8 _) fun r1 => ?_
    exact looking_bind (looking_read8 _) fun r2 => trivial
  · refine looking_bind (looking_read32 _) fun r1 => ?_
    exact looking_bind (looking_read32 _) fun r2 => trivial

/-- Scanning an element looks. -/
theorem looking_scanElement (byteForm : Bool) (ctx : CpuContext) (dst : GuestAddr) :
    Looking (scanElement byteForm ctx dst) := by
  unfold scanElement
  split
  · exact looking_bind (looking_read8 _) fun r => trivial
  · exact looking_bind (looking_read32 _) fun r => trivial

/-- An element of a string instruction is at most one store. -/
theorem storing_stringElement (inst : DecodedInstruction) (ctx : CpuContext) :
    Storing (stringElement inst ctx) fun _ => True := by
  unfold stringElement
  dsimp only
  split
  · exact storing_then (storing_copyElement _ _ _) fun _ => committing_set _ trivial
  · exact storing_then (storing_storeElement _ _ _) fun _ => committing_set _ trivial
  · exact looking_then (looking_loadElement _ _ _) fun loaded =>
      (committing_set _ trivial).transactional
  · exact looking_then (looking_compareElements _ _ _ _) fun eflags =>
      (committing_set _ trivial).transactional
  · exact looking_then (looking_scanElement _ _ _) fun eflags =>
      (committing_set _ trivial).transactional
  · trivial

/-- Finishing an element changes the context only. -/
theorem committing_finishElement (inst : DecodedInstruction) (currentEip : U32) (stop : Bool) :
    Committing (finishElement inst currentEip stop) NoException := by
  unfold finishElement
  split
  · refine ⟨trivial, fun ctx => ⟨trivial, fun _ => ?_⟩⟩
    dsimp only
    split
    · exact rfl
    · exact rfl
  · exact rfl

/-- A string instruction looks, makes one change and is then committed. -/
theorem storing_executeString (inst : DecodedInstruction) (currentEip : U32) :
    Storing (executeString inst currentEip) NoException := by
  unfold executeString
  split_ifs
  · exact (committing_modify _ rfl).transactional
  · exact (committing_modify _ rfl).transactional
  · refine looking_then looking_context fun ctx => ?_
    split_ifs
    · trivial
    · exact storing_then (storing_stringElement _ _) fun stop => committing_finishElement _ _ _

/-- XCHG is a transaction when its second operand is a register. -/
theorem storing_executeXchg {inst : DecodedInstruction} (hid : inst.id = .xchg)
    (hop : inst.op2.kind = .register) : Storing (executeAtomic inst) NoException := by
  unfold executeAtomic
  rw [hid]
  refine looking_then (looking_readOperand _) fun v1 => ?_
  refine looking_then (looking_readOperand _) fun v2 => ?_
  refine storing_then (storing_writeOperand _ _) fun _ => ?_
  exact (committing_writeRegister hop v1).bind fun _ _ => rfl

/-- The branches look, up to the jump itself. -/
theorem looking_executeBranch (inst : DecodedInstruction) : Looking (executeBranch inst) := by
  unfold executeBranch
  split
  · exact looking_bind (looking_branchTarget _) fun target => trivial
  · refine looking_bind looking_context fun ctx => ?_
    split_ifs <;> trivial
  · trivial

/-- IRET looks, makes one change and is then committed. -/
theorem storing_executeIret : Storing executeIret fun _ => True := by
  unfold executeIret
  refine looking_then looking_context fun ctx => ?_
  refine looking_then (looking_read32 _) fun eip => ?_
  refine looking_then (looking_read32 _) fun cs => ?_
  refine looking_then (looking_read32 _) fun eflags => ?_
  dsimp only
  split
  · trivial
  · exact .inr fun _ => trivial

/-- A branch taken is committed. -/
theorem committing_branchedToEip : Committing branchedToEip NoException :=
  ⟨trivial, fun _ => rfl⟩

/-- The interrupt instructions but INT look, make one change and are then committed. -/
theorem storing_executeInterruptInstruction {inst : DecodedInstruction} (hid : inst.id ≠ .int)
    (currentEip : U32) : Storing (executeInterruptInstruction inst currentEip) NoException := by
  unfold executeInterruptInstruction
  split
  · exact (committing_modify _ rfl).transactional
  · exact (committing_modify _ rfl).transactional
  · exact storing_then storing_executeIret fun _ => committing_branchedToEip
  · contradiction
  · trivial

/-- **Every instruction but CMPXCHG and INT is a transaction.** -/
theorem storing_execute {inst : DecodedInstruction}
    (hxchg : inst.id = .xchg → inst.op2.kind = .register) (hcmp : inst.id ≠ .cmpxchg)
    (hint : inst.id ≠ .int) (currentEip : U32) :
    Storing (execute inst currentEip) NoException := by
  unfold execute
  split
  all_goals first
    | exact storing_executeData inst
    | exact storing_executeStack inst _
    | exact storing_executeAlu inst
    | exact storing_executeShift inst
    | exact storing_executeMulDiv inst _
    | exact storing_executeBitExt inst
    | exact storing_executeString inst _
    | exact storing_executeXchg ‹_› (hxchg ‹_›)
    | exact (looking_executeBranch inst).transactional
    | exact storing_executeInterruptInstruction hint _
    | contradiction
    | trivial

/-- The requests that leave memory as it is and run no trap handler. -/
def NoStore : ExecRequest → Prop
  | .setContext _ => True
  | r => Looks r

/-- Looking stores nothing. -/
theorem looks_noStore (r : ExecRequest) (hr : Looks r) : NoStore r := by
  cases r with
  | setContext ctx => trivial
  | _ => exact hr

/-- CMPXCHG stores once: it may set its flags and then fail to write. -/
theorem oneStore_cmpxchg {inst : DecodedInstruction} (hid : inst.id = .cmpxchg) :
    (executeAtomic inst).OneStore NoStore OnContext NoException := by
  have hwrite : ∀ op value, (do writeOperand op value; pure {} : Exec ExecutionResult).OneStore
      NoStore OnContext NoException := by
    intro op value
    exact (storing_writeOperand_pure (r := {}) op value rfl).oneStore looks_noStore fun _ h => h
  have hmodify : ∀ g, (do modifyContext g; pure {} : Exec ExecutionResult).OneStore
      NoStore OnContext NoException := by
    intro g
    exact (committing_modify g rfl).within.oneStore
  unfold executeAtomic
  rw [hid]
  refine ((looking_readOperand _).mono looks_noStore fun _ h => h).bind_oneStore fun dest _ => ?_
  refine ((looking_readOperand _).mono looks_noStore fun _ h => h).bind_oneStore fun src _ => ?_
  refine (looking_context.mono looks_noStore fun _ h => h).bind_oneStore fun ctx _ => ?_
  split_ifs
  all_goals refine .inl ⟨trivial, fun _ => ?_⟩
  all_goals dsimp only
  all_goals split_ifs
  · exact hwrite _ _
  · exact hmodify _
  · exact hwrite _ _
  · exact hmodify _

/-- **Every instruction but INT stores once.** -/
theorem oneStore_execute {inst : DecodedInstruction}
    (hxchg : inst.id = .xchg → inst.op2.kind = .register) (hint : inst.id ≠ .int)
    (currentEip : U32) : (execute inst currentEip).OneStore NoStore OnContext NoException := by
  by_cases hcmp : inst.id = .cmpxchg
  · have hatomic : execute inst currentEip = executeAtomic inst := by
      unfold execute
      rw [hcmp]
    rw [hatomic]
    exact oneStore_cmpxchg hcmp
  · exact (storing_execute hxchg hcmp hint currentEip).oneStore looks_noStore fun _ h => h

/-! ## The exceptions instructions raise -/

/-- A result without an exception, or with a divide error at `eip`. -/
def DividesAt (eip : U32) (r : ExecutionResult) : Prop :=
  r.exception = none ∨ r.exception = some ⟨.divideError, none, eip, 0⟩

/-- A computation that raises nothing but a divide error at `eip`. -/
abbrev Raises (eip : U32) (x : Exec ExecutionResult) : Prop :=
  x.Within (fun _ => True) (DividesAt eip)

/-- A result without exception raises none. -/
theorem raises_pure {eip : U32} {r : ExecutionResult} (h : r.exception = none) :
    Raises eip (pure r) :=
  .inl h

/-- A division raises a divide error or nothing. -/
theorem raises_commitDivision (eip : U32) (qr : Option (U32 × U32)) :
    Raises eip (commitDivision eip qr) := by
  cases qr with
  | none => exact .inr rfl
  | some qr => exact within_then fun _ => raises_pure rfl

/-- Multiplication and division raise at the instruction only. -/
theorem raises_executeMulDiv (eip : U32) (inst : DecodedInstruction) :
    Raises eip (executeMulDiv inst eip) := by
  unfold executeMulDiv executeImul writeProduct
  split
  · exact within_then fun _ => within_then fun _ => raises_pure rfl
  · split_ifs
    · exact within_then fun _ => within_then fun _ => within_then fun _ => within_then fun _ =>
        raises_pure rfl
    · exact within_then fun _ => within_then fun _ => within_then fun _ => within_then fun _ =>
        raises_pure rfl
    · exact within_then fun _ => within_then fun _ => raises_pure rfl
  · exact within_then fun _ => within_then fun _ => raises_commitDivision eip _
  · exact within_then fun _ => within_then fun _ => raises_commitDivision eip _
  · trivial

/-- The data moves raise at the instruction only. -/
theorem raises_executeData (eip : U32) (inst : DecodedInstruction) :
    Raises eip (executeData inst) := by
  unfold executeData
  repeat' first
    | exact raises_pure rfl
    | exact trivial
    | refine within_then fun _ => ?_
    | split

/-- The stack instructions raise at the instruction only. -/
theorem raises_executeStack (eip : U32) (inst : DecodedInstruction) :
    Raises eip (executeStack inst eip) := by
  unfold executeStack
  repeat' first
    | exact raises_pure rfl
    | exact trivial
    | refine within_then fun _ => ?_
    | split

/-- The arithmetic instructions raise at the instruction only. -/
theorem raises_executeAlu (eip : U32) (inst : DecodedInstruction) :
    Raises eip (executeAlu inst) := by
  unfold executeAlu executeIncDec commitAlu
  repeat' first
    | exact raises_pure rfl
    | exact trivial
    | refine within_then fun _ => ?_
    | split

/-- The shifts raise at the instruction only. -/
theorem raises_executeShift (eip : U32) (inst : DecodedInstruction) :
    Raises eip (executeShift inst) := by
  unfold executeShift
  repeat' first
    | exact raises_pure rfl
    | exact trivial
    | refine within_then fun _ => ?_
    | split
    | dsimp only

/-- The bit instructions raise at the instruction only. -/
theorem raises_executeBitExt (eip : U32) (inst : DecodedInstruction) :
    Raises eip (executeBitExt inst) := by
  unfold executeBitExt
  repeat' first
    | exact raises_pure rfl
    | exact trivial
    | refine within_then fun _ => ?_
    | split

/-- The string instructions raise at the instruction only. -/
theorem raises_executeString (eip : U32) (inst : DecodedInstruction) :
    Raises eip (executeString inst eip) := by
  unfold executeString finishElement
  repeat' first
    | exact raises_pure rfl
    | exact trivial
    | refine within_then fun _ => ?_
    | split

/-- The atomic instructions raise at the instruction only. -/
theorem raises_executeAtomic (eip : U32) (inst : DecodedInstruction) :
    Raises eip (executeAtomic inst) := by
  unfold executeAtomic
  repeat' first
    | exact raises_pure rfl
    | exact trivial
    | refine within_then fun _ => ?_
    | split

/-- The branches raise at the instruction only. -/
theorem raises_executeBranch (eip : U32) (inst : DecodedInstruction) :
    Raises eip (executeBranch inst) := by
  unfold executeBranch
  repeat' first
    | exact raises_pure rfl
    | exact trivial
    | refine within_then fun _ => ?_
    | split

/-- The interrupt instructions raise at the instruction only. -/
theorem raises_executeInterruptInstruction (eip : U32) (inst : DecodedInstruction) :
    Raises eip (executeInterruptInstruction inst eip) := by
  unfold executeInterruptInstruction branchedToEip
  repeat' first
    | exact raises_pure rfl
    | exact trivial
    | refine within_then fun _ => ?_
    | split

/-- **Every instruction raises a divide error at its own address, or nothing.** -/
theorem raises_execute (inst : DecodedInstruction) (eip : U32) :
    Raises eip (execute inst eip) := by
  unfold execute
  split
  all_goals first
    | exact raises_pure rfl
    | exact raises_executeData eip inst
    | exact raises_executeStack eip inst
    | exact raises_executeAlu eip inst
    | exact raises_executeShift eip inst
    | exact raises_executeMulDiv eip inst
    | exact raises_executeBitExt eip inst
    | exact raises_executeString eip inst
    | exact raises_executeAtomic eip inst
    | exact raises_executeBranch eip inst
    | exact raises_executeInterruptInstruction eip inst
    | trivial

/-! ## What the decoder makes of the exchanges -/

/-- The form of a decoded exchange: XCHG and CMPXCHG have a register as their second
operand, and the destination of CMPXCHG is a register or memory of the operand size. -/
structure ExchangeForm (inst : DecodedInstruction) : Prop where
  xchg : inst.id = .xchg → inst.op2.kind = .register
  source : inst.id = .cmpxchg → inst.op2.kind = .register
  destination : inst.id = .cmpxchg → inst.op1.kind = .register ∨ inst.op1.kind = .memory
  size : inst.id = .cmpxchg → inst.op1.sizeBytes = inst.dataSize
  width : inst.id = .cmpxchg → inst.dataSize = 1 ∨ inst.dataSize = 4

/-- An instruction that is no exchange has the form for want of anything to check. -/
theorem exchangeForm_of_ne {inst : DecodedInstruction} (hx : inst.id ≠ .xchg)
    (hc : inst.id ≠ .cmpxchg) : ExchangeForm inst :=
  ⟨fun h => absurd h hx, fun h => absurd h hc, fun h => absurd h hc, fun h => absurd h hc,
    fun h => absurd h hc⟩

/-- A decoding that returns only values of `Q`. -/
abbrev Decodes {α : Type} (x : Decoding α) (Q : α → Prop) : Prop := x.Within (fun _ => True) Q

/-- A decoding that returns well-formed exchanges, if it returns anything. -/
abbrev DecodesForm (x : Decoding (Option DecodedInstruction)) : Prop :=
  Decodes x fun o => ∀ inst ∈ o, ExchangeForm inst

section Decoder

open Xblob.Processor.Decoding

variable {α β : Type}

/-- What follows any decoding decides what is returned. -/
theorem decodes_then {x : Decoding α} {f : α → Decoding β} {Q : β → Prop}
    (hf : ∀ a, Decodes (f a) Q) : Decodes (x >>= f) Q :=
  within_then hf

/-- A choice decodes to what both branches decode to. -/
theorem decodes_ite {c : Prop} [Decidable c] {x y : Decoding α} {Q : α → Prop}
    (hx : Decodes x Q) (hy : Decodes y Q) : Decodes (if c then x else y) Q := by
  by_cases hc : c
  · rwa [if_pos hc]
  · rwa [if_neg hc]

/-- An instruction found has the form, whatever its length. -/
theorem decodesForm_found {inst : DecodedInstruction}
    (h : ∀ length, ExchangeForm { inst with length := length }) : DecodesForm (found inst) := by
  refine decodes_then fun len => ?_
  intro inst' hinst
  cases hinst
  exact h len

/-- An instruction that is no exchange. -/
theorem decodesForm_other {inst : DecodedInstruction} (hx : inst.id ≠ .xchg)
    (hc : inst.id ≠ .cmpxchg) : DecodesForm (found inst) :=
  decodesForm_found fun _ => exchangeForm_of_ne hx hc

/-- Nothing found has no form to keep. -/
theorem decodesForm_none : DecodesForm (pure none) := by
  intro inst hinst
  cases hinst

/-- The operand of a ModRM byte: a register or memory, of the size asked for. -/
theorem parseModRm_operand (ctx : CpuContext) {size : U8} (hsize : size = 1 ∨ size = 4) :
    Decodes (parseModRm ctx size) fun r =>
      (r.1.kind = .register ∨ r.1.kind = .memory) ∧ r.1.sizeBytes = size := by
  unfold parseModRm
  refine decodes_then fun modrm => ?_
  dsimp only
  split_ifs with h3 h1 h2
  · exact ⟨.inl rfl, h1.symm⟩
  · rcases hsize with rfl | rfl <;> contradiction
  · exact ⟨.inl rfl, (hsize.resolve_left h1).symm⟩
  · exact decodes_then fun ea => ⟨.inr rfl, rfl⟩
  · exact decodes_then fun disp => ⟨.inr rfl, rfl⟩
  · exact decodes_then fun ea => ⟨.inr rfl, rfl⟩

/-- A register operand is a register. -/
theorem kind_regOperand (is8bit : Bool) (reg : U8) :
    (regOperand is8bit reg).kind = .register := by
  unfold regOperand
  split <;> rfl

/-- No shift is an exchange. -/
theorem shiftId_ne {regOp : U8} {id : InstructionId} (h : shiftId regOp = some id) :
    id ≠ .xchg ∧ id ≠ .cmpxchg := by
  unfold shiftId at h
  split at h <;> cases h <;> decide

/-- No instruction of Group 1 is an exchange. -/
theorem group1Id_ne {reg : U8} {id : InstructionId} (h : group1Id reg = some id) :
    id ≠ .xchg ∧ id ≠ .cmpxchg := by
  unfold group1Id at h
  split at h <;> cases h <;> decide

/-- No arithmetic form is an exchange. -/
theorem twoOpForm_ne {opcode : U8} {id : InstructionId} {form : AluForm}
    (h : twoOpForm opcode = some (id, form)) : id ≠ .xchg ∧ id ≠ .cmpxchg := by
  unfold twoOpForm at h
  split at h <;> cases h <;> decide

/-- The shifts decode to instructions of the form. -/
theorem decodesForm_shift (opcode : U8) (eip : GuestAddr) (ctx : CpuContext) :
    DecodesForm (tryDecodeShift opcode eip ctx) := by
  unfold tryDecodeShift
  split
  · refine decodes_then fun modrm => ?_
    dsimp only
    cases hid : shiftId modrm.2 with
    | none => exact decodes_then fun bytes => trivial
    | some id =>
      exact decodes_then fun op2 => decodesForm_other (shiftId_ne hid).1 (shiftId_ne hid).2
  · exact decodesForm_none

/-- The string instructions decode to instructions of the form. -/
theorem decodesForm_string (opcode : U8) : DecodesForm (tryDecodeString opcode) := by
  unfold tryDecodeString stringOp
  split_ifs <;> first
    | exact decodesForm_none
    | exact decodesForm_other nofun nofun

/-- Multiplication and division decode to instructions of the form. -/
theorem decodesForm_mulDiv (opcode : U8) (ctx : CpuContext) :
    DecodesForm (tryDecodeMulDiv opcode ctx) := by
  unfold tryDecodeMulDiv
  split
  · refine decodes_then fun modrm => ?_
    exact decodes_then fun imm => decodesForm_other nofun nofun
  · exact decodesForm_none

/-- The bit instructions decode to instructions of the form. -/
theorem decodesForm_bitExt (opcode : U8) : DecodesForm (tryDecodeBitExt opcode) := by
  unfold tryDecodeBitExt
  split
  · exact decodesForm_other nofun nofun
  · exact decodesForm_none

/-- The operand size of an 8- or 32-bit form. -/
theorem sizeBytes_cases (is8bit : Bool) :
    (if is8bit then 1 else 4 : U8) = 1 ∨ (if is8bit then 1 else 4 : U8) = 4 := by
  cases is8bit <;> simp

/-- The further two-byte opcodes decode to instructions of the form. -/
theorem decodesForm_twoByteExtended (second : U8) (eip : GuestAddr) (ctx : CpuContext) :
    DecodesForm (tryDecodeTwoByteExtended second eip ctx) := by
  unfold tryDecodeTwoByteExtended
  refine decodes_ite (decodes_then fun modrm => decodesForm_other nofun nofun) ?_
  refine decodes_ite (decodes_then fun modrm => decodesForm_other nofun nofun) ?_
  refine decodes_ite (decodes_then fun modrm => decodesForm_other nofun nofun) ?_
  refine decodes_ite (decodes_then fun modrm => ?_) ?_
  · refine decodes_ite (decodes_then fun bytes => trivial) ?_
    exact decodes_then fun imm => decodesForm_other nofun nofun
  refine decodes_ite (decodes_then fun modrm => decodesForm_other nofun nofun) ?_
  refine decodes_ite (decodes_then fun modrm => decodesForm_other nofun nofun) ?_
  refine decodes_ite ?_ decodesForm_none
  -- CMPXCHG
  refine (parseModRm_operand ctx (sizeBytes_cases _)).bind fun modrm hrm => ?_
  exact decodesForm_found fun _ =>
    ⟨nofun, fun _ => kind_regOperand _ _, fun _ => hrm.1, fun _ => hrm.2,
      fun _ => sizeBytes_cases _⟩

/-- The atomic instructions decode to instructions of the form. -/
theorem decodesForm_atomic (opcode : U8) (ctx : CpuContext) :
    DecodesForm (tryDecodeAtomic opcode ctx) := by
  unfold tryDecodeAtomic
  refine decodes_ite ?_ (decodes_ite (decodes_then fun modrm => ?_) decodesForm_none)
  · exact decodesForm_found fun _ => ⟨fun _ => rfl, nofun, nofun, nofun, nofun⟩
  · exact decodesForm_found fun _ => ⟨fun _ => kind_regOperand _ _, nofun, nofun, nofun, nofun⟩

/-- Group 3 decodes to instructions of the form. -/
theorem decodesForm_group3 (opcode : U8) (eip : GuestAddr) (ctx : CpuContext) :
    DecodesForm (decodeGroup3 opcode eip ctx) := by
  unfold decodeGroup3
  refine decodes_then fun modrm => ?_
  dsimp only
  split
  · exact decodes_then fun op2 => decodesForm_other nofun nofun
  · exact decodesForm_other nofun nofun
  · exact decodesForm_other nofun nofun
  · exact decodesForm_other nofun nofun
  · exact decodesForm_other nofun nofun
  · exact decodes_then fun bytes => trivial

/-- Group 1 decodes to instructions of the form. -/
theorem decodesForm_group1 (opcode : U8) (ctx : CpuContext) :
    DecodesForm (decodeGroup1 opcode ctx) := by
  unfold decodeGroup1
  refine decodes_then fun modrm => decodes_then fun imm => ?_
  cases hid : group1Id modrm.2 with
  | none => trivial
  | some id => exact decodesForm_other (group1Id_ne hid).1 (group1Id_ne hid).2

/-- The arithmetic opcodes decode to instructions of the form. -/
theorem decodesForm_alu (opcode : U8) (eip : GuestAddr) (ctx : CpuContext) :
    DecodesForm (tryDecodeAlu opcode eip ctx) := by
  unfold tryDecodeAlu
  split
  case h_1 id form hform =>
    have hne := twoOpForm_ne hform
    unfold parseTwoOp
    cases form with
    | eaxImm => exact decodes_then fun imm => decodesForm_other hne.1 hne.2
    | rmReg => exact decodes_then fun modrm => decodesForm_other hne.1 hne.2
    | regRm => exact decodes_then fun modrm => decodesForm_other hne.1 hne.2
  case h_2 =>
    refine decodes_ite (decodesForm_group3 _ _ _) ?_
    exact decodes_ite (decodesForm_group1 _ _) decodesForm_none

/-- The data moves decode to instructions of the form. -/
theorem decodesForm_data (opcode : U8) (ctx : CpuContext) :
    DecodesForm (tryDecodeData opcode ctx) := by
  unfold tryDecodeData
  refine decodes_ite (decodesForm_other nofun nofun) ?_
  refine decodes_ite (decodesForm_other nofun nofun) ?_
  refine decodes_ite (decodes_then fun imm => decodesForm_other nofun nofun) ?_
  refine decodes_ite (decodes_then fun modrm => decodesForm_other nofun nofun) ?_
  refine decodes_ite (decodes_then fun modrm => decodesForm_other nofun nofun) ?_
  refine decodes_ite (decodes_then fun modrm => decodes_ite trivial ?_) ?_
  · exact decodes_then fun imm => decodesForm_other nofun nofun
  refine decodes_ite (decodes_then fun addr => decodesForm_other nofun nofun) ?_
  refine decodes_ite (decodes_then fun addr => decodesForm_other nofun nofun) ?_
  refine decodes_ite (decodes_then fun modrm => decodes_ite trivial ?_) ?_
  · exact decodesForm_other nofun nofun
  refine decodes_ite (decodesForm_other nofun nofun) ?_
  refine decodes_ite (decodes_then fun imm => decodesForm_other nofun nofun) ?_
  refine decodes_ite (decodes_then fun imm => decodesForm_other nofun nofun) ?_
  refine decodes_ite (decodesForm_other nofun nofun) ?_
  refine decodes_ite (decodesForm_other nofun nofun) ?_
  exact decodes_ite (decodesForm_other nofun nofun) decodesForm_none

/-- A branch is no exchange. -/
theorem decodesForm_branch (eip : GuestAddr) (disp : U32) {inst : DecodedInstruction}
    (hx : inst.id ≠ .xchg) (hc : inst.id ≠ .cmpxchg) : DecodesForm (branch eip disp inst) := by
  refine decodes_then fun len => ?_
  intro inst' hinst
  cases hinst
  exact exchangeForm_of_ne hx hc

/-- A branch by a displacement has the form. -/
theorem decodesForm_branchImm (eip : GuestAddr) (disp : U32) {inst : DecodedInstruction}
    (hx : inst.id ≠ .xchg) (hc : inst.id ≠ .cmpxchg) :
    DecodesForm (branchImm eip disp inst) := by
  refine decodes_then fun len => ?_
  intro inst' hinst
  cases hinst
  exact exchangeForm_of_ne hx hc

/-- Group 5 decodes to instructions of the form. -/
theorem decodesForm_group5 (ctx : CpuContext) : DecodesForm (decodeGroup5 ctx) := by
  unfold decodeGroup5
  refine decodes_then fun modrm => ?_
  dsimp only
  split
  · exact decodesForm_other nofun nofun
  · exact decodesForm_other nofun nofun
  · exact decodesForm_other nofun nofun
  · exact decodesForm_other nofun nofun
  · exact decodesForm_other nofun nofun
  · trivial

/-- The two-byte opcodes decode to instructions of the form. -/
theorem decodesForm_twoByte (eip : GuestAddr) (ctx : CpuContext) :
    DecodesForm (decodeTwoByte eip ctx) := by
  unfold decodeTwoByte
  refine decodes_then fun second => ?_
  split
  · exact decodes_then fun disp => decodesForm_branch _ _ nofun nofun
  · refine (decodesForm_twoByteExtended second eip ctx).bind fun o ho => ?_
    cases o with
    | none => trivial
    | some inst => exact ho

/-- The control opcodes decode to instructions of the form. -/
theorem decodesForm_control (opcode : U8) (eip : GuestAddr) (ctx : CpuContext) :
    DecodesForm (decodeControl opcode eip ctx) := by
  unfold decodeControl
  refine decodes_ite (decodes_then fun disp => decodesForm_branchImm _ _ nofun nofun) ?_
  refine decodes_ite (decodesForm_other nofun nofun) ?_
  refine decodes_ite (decodes_then fun pop => decodesForm_other nofun nofun) ?_
  refine decodes_ite (decodes_then fun disp => decodesForm_branchImm _ _ nofun nofun) ?_
  refine decodes_ite (decodes_then fun disp => decodesForm_branchImm _ _ nofun nofun) ?_
  refine decodes_ite (decodesForm_group5 ctx) ?_
  refine decodes_ite (decodesForm_other nofun nofun) ?_
  refine decodes_ite (decodesForm_other nofun nofun) ?_
  refine decodes_ite (decodes_then fun modrm => decodes_ite trivial ?_) ?_
  · exact decodesForm_other nofun nofun
  refine decodes_ite (decodes_then fun disp => decodesForm_branch _ _ nofun nofun) ?_
  refine decodes_ite (decodesForm_twoByte eip ctx) ?_
  refine decodes_ite (decodesForm_other nofun nofun) ?_
  refine decodes_ite (decodesForm_other nofun nofun) ?_
  refine decodes_ite (decodesForm_other nofun nofun) ?_
  exact decodes_ite (decodes_then fun vec => decodesForm_other nofun nofun) decodesForm_none

/-- The first decoder that finds an instruction finds one of the form. -/
theorem decodesForm_firstOf {ds : List (Decoding (Option DecodedInstruction))}
    (h : ∀ d ∈ ds, DecodesForm d) : DecodesForm (firstOf ds) := by
  induction ds with
  | nil => exact decodesForm_none
  | cons d ds ih =>
    refine (h d (by simp)).bind fun o ho => ?_
    cases o with
    | none => exact ih fun d' hd' => h d' (by simp [hd'])
    | some inst => exact ho

/-- **The decoder gives exchanges their form.** -/
theorem decode_exchangeForm (ctx : CpuContext) (eip : GuestAddr) :
    Decodes (decode ctx eip) ExchangeForm := by
  unfold decode
  refine decodes_then fun opcode => decodes_then fun _ => ?_
  refine Within.bind (P := fun o => ∀ inst ∈ o, ExchangeForm inst)
    (decodesForm_firstOf fun d hd => ?_) fun o ho => ?_
  · simp only [List.mem_cons, List.not_mem_nil, or_false] at hd
    rcases hd with rfl | rfl | rfl | rfl | rfl | rfl | rfl | rfl
    · exact decodesForm_shift _ _ _
    · exact decodesForm_string _
    · exact decodesForm_mulDiv _ _
    · exact decodesForm_bitExt _
    · exact decodesForm_atomic _ _
    · exact decodesForm_alu _ _ _
    · exact decodesForm_data _ _
    · exact decodesForm_control _ _ _
  · cases o with
    | none => trivial
    | some inst =>
      have hform := ho inst rfl
      dsimp only
      unfold finalize
      split_ifs
      · exact decodes_then fun bytes => trivial
      · exact decodes_then fun bytes => trivial
      · exact ⟨hform.xchg, hform.source, hform.destination, hform.size, hform.width⟩

end Decoder

end Xblob.Analysis
