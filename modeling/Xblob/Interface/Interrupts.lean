import Xblob.Interface.DataPages
import Xblob.Interface.SplitWrite
import Xblob.Interface.XbeLoads
import Xblob.Model.Cpu.Step

/-!
# Interrupts

What an interrupt that goes through a gate is to push, and what IRET is to bring back of it.
-/

set_option autoImplicit false

namespace Xblob.Interface

open Xblob.Computation Xblob.Memory Xblob.Processor Xblob.Processor.Exec

/-!
## Delivery through a gate

`DeliverGate` reads a gate, checks it and pushes a frame of three or four dwords.  The pushes
are stores like any others: when one is refused, those before it stay.  This file has the
property that a failed delivery leaves no trace and the exact case in which it does not hold,
for both memories the source instantiates the function with.
-/

section GateDelivery

variable {M β : Type} [GuestMemory M]

/-- The arguments of a delivery. -/
structure Delivery where
  vector : U8
  errorCode : Option U32
  isSoftwareInt : Bool
  returnEip : U32

namespace Delivery

/-- The delivery, on a machine with or without a trap handler. -/
def run (d : Delivery) (trap : Option (TrapHandler M)) (s : Machine M) :
    EStateM.Result Error (Machine M) Unit :=
  runExec trap (deliverGate d.vector d.errorCode d.isSoftwareInt d.returnEip) s

/-- A delivery that fails leaves the context and every byte as they were. -/
def Atomic (bytes : M → β) (d : Delivery) (trap : Option (TrapHandler M)) (s : Machine M) : Prop :=
  ∀ e s', d.run trap s = .error e s' → s'.ctx = s.ctx ∧ bytes s'.mem = bytes s.mem

/-- The gate can be read and passes the checks; `mem` is the memory after reading it. -/
def Accepted (d : Delivery) (trap : Option (TrapHandler M)) (s : Machine M) (mem : M) : Prop :=
  runExec trap (do
    let g ← readGate s.ctx d.vector
    checkGate s.ctx d.vector d.isSoftwareInt g) s = .ok () { s with mem := mem }

/-- The dwords of the frame, in the order in which they are pushed. -/
def frame (d : Delivery) (ctx : CpuContext) : List (GuestAddr × U32) :=
  let esp := ctx.gpr .esp
  [(esp - 4, ctx.eflags), (esp - 8, (ctx.segments .cs).setWidth 32), (esp - 12, d.returnEip)] ++
    (d.errorCode.map fun code => (esp - 16, code)).toList

end Delivery

end GateDelivery

/-!
## Torn frames

Which bytes of RAM hold a part of the frame when a dword of it is refused.  As for the split
writes, nothing here runs the code's own stores: the pages, the regions, the permissions, the
sizes of the banks and the devices decide.
-/

section TornFrames

variable {δ M : Type}

/-- A store that physical memory takes or refuses as a whole: a dword, or one byte of a dword
that does not lie in one page. -/
inductive Piece where
  | dword (addr : GuestAddr) (value : U32)
  | byte (addr : GuestAddr) (b : U8)

/-- What a device window answers to a dword, and the devices after it. -/
def deviceTakesDword (h : MmioHandler δ) (reg : Region δ) (addr : GuestAddr) (value : U32) (d : δ) :
    Option δ :=
  match h.write with
  | none => none
  | some write =>
    match (write (addr - reg.base) .dword value).run d with
    | .ok _ d' => some d'
    | .error _ _ => none

/-- The cells a piece goes to, with the bytes it puts there, and the devices after it, if physical
memory takes the piece. -/
def Piece.taken (space : AddressSpace δ) : Piece → Option (List (Cell × U8) × δ)
  | .dword addr value =>
    match space.resolveRegion addr 4 .write with
    | .error _ => none
    | .ok reg =>
      match reg.type with
      | .ram ram ramOffset =>
        let pos := AddressSpace.ramPos reg ramOffset addr
        some ([((ram, pos), byteOf value 0), ((ram, pos + 1), byteOf value 1),
          ((ram, pos + 2), byteOf value 2), ((ram, pos + 3), byteOf value 3)], space.devices)
      | .mmio h => (deviceTakesDword h reg addr value space.devices).map fun d => ([], d)
  | .byte addr b =>
    match space.byteTarget addr with
    | .refused _ => none
    | .cell ram offset => some ([((ram, offset), b)], space.devices)
    | .device h reg => (deviceTakes h reg addr b space.devices).map fun d => ([], d)

/-- The last of the bytes that are put into a cell. -/
def lastPut (c : Cell) : List (Cell × U8) → Option U8
  | [] => none
  | (d, b) :: rest => (lastPut c rest).or (if d = c then some b else none)

/-- The banks with bytes put into their cells. -/
def putCells (rams : ℕ → Ram) (stored : List (Cell × U8)) : ℕ → Ram := fun ram =>
  { rams ram with
    data := fun offset => (lastPut (ram, offset) stored).getD ((rams ram).data offset) }

/-- The bytes that pieces put into cells before one is refused, and the physical memory after
them if none is. -/
def piecesTaken (space : AddressSpace δ) : List Piece → List (Cell × U8) × Option (AddressSpace δ)
  | [] => ([], some space)
  | p :: ps =>
    match p.taken space with
    | none => ([], none)
    | some (cells, d) =>
      let rest := piecesTaken { space with rams := putCells space.rams cells, devices := d } ps
      (cells ++ rest.1, rest.2)

/-- A guest memory with a physical memory in it, and the pieces it stores a dword in. -/
structure PiecedMemory (δ M : Type) where
  space : M → AddressSpace δ
  put : AddressSpace δ → M → M
  pieces : GuestAddr → U32 → EStateM Error M (List Piece)

/-- Physical memory stores a dword at once. -/
def physicalPieces (δ : Type) : PiecedMemory δ (AddressSpace δ) where
  space := id
  put space _ := space
  pieces addr value := pure [.dword addr value]

/-- Virtual memory stores a dword at once if it lies in a page, and byte by byte if it does not;
all of its pages are looked up before the first byte. -/
def virtualPieces (δ : Type) : PiecedMemory δ (VirtualMemory δ) where
  space := VirtualMemory.physicalSpace
  put space vm := { vm with physicalSpace := space }
  pieces vaddr value :=
    if vaddr &&& 0xFFF ≤ 0xFFC then do
      let trans ← VirtualMemory.translate vaddr .write
      pure [.dword trans.physicalAddress value]
    else do
      let phys ← VirtualMemory.translateBytes vaddr 4
      pure ((phys.zip [byteOf value 0, byteOf value 1, byteOf value 2, byteOf value 3]).map
        fun store => .byte store.1 store.2)

/-- The bytes that are in cells when a dword of a frame is refused, in the order in which they
were put there; nothing if the whole frame is taken.  A dword may lie in the page tables of those
after it, so that each is looked up in the memory the ones before it have left. -/
def PiecedMemory.cutShort (m : PiecedMemory δ M) :
    List (GuestAddr × U32) → M → Option (List (Cell × U8))
  | [], _ => none
  | (addr, value) :: words, mem =>
    match (m.pieces addr value).run mem with
    | .error _ _ => some []
    | .ok ps mem₁ =>
      match piecesTaken (m.space mem₁) ps with
      | (stored, none) => some stored
      | (stored, some space) => (m.cutShort words (m.put space mem₁)).map (stored ++ ·)

/-- A dword of the frame is refused when a cell already has another byte than it had. -/
def TornFrame (m : PiecedMemory δ M) (words : List (GuestAddr × U32)) (mem : M) : Prop :=
  ∃ stored, m.cutShort words mem = some stored ∧
    ∃ c b, lastPut c stored = some b ∧ b ≠ ((m.space mem).rams c.1).data c.2

end TornFrames

/-!
## Return from an interrupt

Which bytes of the banks a dword of the stack is read from, over physical and over virtual
memory, and when the frame of a delivery has bytes of its own.
-/

section InterruptReturns

variable {δ : Type}

/-- The cells from a cell on. -/
def cellsFrom (c : Cell) (n : ℕ) : List Cell := (List.range n).map fun i => (c.1, c.2 + i)

/-- The cells a dword of physical memory is read from, if it can be read and is in RAM. -/
def wordCells (space : AddressSpace δ) (addr : GuestAddr) : Option (List Cell) :=
  (blockAt space addr 4 .read).map fun c => cellsFrom c 4

/-- The cell a byte of virtual memory is read from. -/
def byteCell (vm : VirtualMemory δ) (vaddr : GuestAddr) : Option Cell :=
  (dataAddr vm vaddr).bind fun addr => blockAt vm.physicalSpace addr 1 .read

/-- The cells a dword of virtual memory is read from: at once if it lies in a page, byte by byte
if it does not. -/
def pagedCells (vm : VirtualMemory δ) (vaddr : GuestAddr) : Option (List Cell) :=
  if vaddr &&& 0xFFF ≤ 0xFFC then
    (dataAddr vm vaddr).bind (wordCells vm.physicalSpace)
  else do
    let c₀ ← byteCell vm vaddr
    let c₁ ← byteCell vm (vaddr + 1)
    let c₂ ← byteCell vm (vaddr + 2)
    let c₃ ← byteCell vm (vaddr + 3)
    some [c₀, c₁, c₂, c₃]

/-- The three dwords below a stack pointer are in RAM that can be read, and no two of their bytes
are one byte of RAM. -/
def FrameInRam (cells : GuestAddr → Option (List Cell)) (esp : U32) : Prop :=
  ∃ c₀ c₁ c₂, cells (esp - 4) = some c₀ ∧ cells (esp - 8) = some c₁ ∧ cells (esp - 12) = some c₂ ∧
    (c₀ ++ c₁ ++ c₂).Nodup

/-- The gate a delivery goes through. -/
def Delivery.Through {M : Type} [GuestMemory M] (d : Delivery) (trap : Option (TrapHandler M))
    (s : Machine M) (g : Exec.Gate) : Prop :=
  ∃ s₁, runExec trap (Exec.readGate s.ctx d.vector) s = .ok g s₁

/-- Each dword of the frame lies in a RAM region that grants a permission. -/
def Delivery.FrameGrants (d : Delivery) (s : Machine (AddressSpace δ)) (perm : MemoryPermission) :
    Prop :=
  ∀ w ∈ d.frame s.ctx, (blockAt s.mem w.1 4 perm).isSome

/-- Whether memory grants the frame is decidable. -/
instance (d : Delivery) (s : Machine (AddressSpace δ)) (perm : MemoryPermission) :
    Decidable (d.FrameGrants s perm) :=
  List.decidableBAll (fun w : GuestAddr × U32 => (blockAt s.mem w.1 4 perm).isSome) (d.frame s.ctx)

/-- The context before the delivery, at the return address. -/
def Delivery.returned (d : Delivery) (ctx : CpuContext) : CpuContext :=
  { ctx with eip := d.returnEip }

end InterruptReturns

end Xblob.Interface
