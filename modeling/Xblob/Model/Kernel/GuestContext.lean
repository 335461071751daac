import Xblob.Computation.Program
import Xblob.Model.Cpu.Registers
import Xblob.Model.Memory.AddressSpace
import Xblob.Model.Vfs.Path

/-!
# What an export asks of guest memory

An export of the kernel reads its arguments from the guest's stack and works on guest memory
through the pointers among them.  Both are requests here: a handler is a program that makes
them and is answered with the value or the error, which most handlers turn into a status.
Reading an argument is a request of its own, though it is answered by the memory as well.
-/

set_option autoImplicit false

namespace Xblob.Kernel

open Xblob.Computation Xblob.Memory Xblob.Processor Xblob.Vfs

/-- What a handler may ask for. -/
inductive GuestRequest where
  | arg (esp : U32) (index : ℕ)
  | read8 (addr : GuestAddr)
  | read32 (addr : GuestAddr)
  | write8 (addr : GuestAddr) (val : U8)
  | write32 (addr : GuestAddr) (val : U32)
  | readBytes (addr : GuestAddr) (n : ℕ)
  | writeBytes (addr : GuestAddr) (src : List U8)
  | validateRange (addr : GuestAddr) (len : GuestSize) (requiredPerm : MemoryPermission)

/-- What it is answered with. -/
def GuestRequest.Answer : GuestRequest → Type
  | .arg _ _ | .read32 _ => Result U32
  | .read8 _ => Result U8
  | .readBytes _ _ => Result (List U8)
  | .write8 _ _ | .write32 _ _ | .writeBytes _ _ | .validateRange _ _ _ => Result Unit

/-- The requests of handlers. -/
abbrev guestSignature : Signature := ⟨GuestRequest, GuestRequest.Answer⟩

/-- Programs over guest memory. -/
abbrev Guest (α : Type) := Program guestSignature Error α

/-- The address of an argument: behind the return address, four bytes each.
SOURCE: libs/kernel/src/registry.cpp:7-15 -/
def argAddr (esp : U32) (index : ℕ) : GuestAddr := esp + BitVec.ofNat 32 ((index + 1) * 4)

/-- A call whose failure is an answer as well. -/
def attempt {ε σ α : Type} (f : EStateM ε σ α) : EStateM ε σ (Except ε α) := fun s =>
  match f.run s with
  | .ok a s' => .ok (.ok a) s'
  | .error e s' => .ok (.error e) s'

/-- The memory answers. -/
def answer {δ : Type} : (r : GuestRequest) → EStateM Error (AddressSpace δ) r.Answer
  | .arg esp index => attempt (AddressSpace.read32 (argAddr esp index))
  | .read8 addr => attempt (AddressSpace.read8 addr)
  | .read32 addr => attempt (AddressSpace.read32 addr)
  | .write8 addr val => attempt (AddressSpace.write8 addr val)
  | .write32 addr val => attempt (AddressSpace.write32 addr val)
  | .readBytes addr n => attempt (AddressSpace.readBytes addr n)
  | .writeBytes addr src => attempt (AddressSpace.writeBytes addr src)
  | .validateRange addr len requiredPerm => do
    let space ← get
    pure (space.validateRange addr len requiredPerm)

namespace Guest

/-- The program that makes one request. -/
def ask (r : GuestRequest) : Guest r.Answer := Program.request (S := guestSignature) r

/-- `ReadArg`, from the stack of the live context. SOURCE: libs/kernel/src/registry.cpp:7-15 -/
def readArg (cpu : CpuContext) (index : ℕ) : Guest (Result U32) :=
  ask (.arg (cpu.gpr .esp) index)

/-- `Read32`. SOURCE: libs/kernel/src/registry.cpp:32-34 -/
def read32 (addr : GuestAddr) : Guest (Result U32) := ask (.read32 addr)

/-- `Write32`. SOURCE: libs/kernel/src/registry.cpp:36-38 -/
def write32 (addr : GuestAddr) (val : U32) : Guest (Result Unit) :=
  ask (.write32 addr val)

/-- `mem.Read8`. -/
def read8 (addr : GuestAddr) : Guest (Result U8) := ask (.read8 addr)

/-- `mem.Write8`. -/
def write8 (addr : GuestAddr) (val : U8) : Guest (Result Unit) :=
  ask (.write8 addr val)

/-- `mem.ReadBytes`. -/
def readBytes (addr : GuestAddr) (n : ℕ) : Guest (Result (List U8)) :=
  ask (.readBytes addr n)

/-- `mem.WriteBytes`. -/
def writeBytes (addr : GuestAddr) (src : List U8) : Guest (Result Unit) :=
  ask (.writeBytes addr src)

/-- `mem.ValidateRange`. -/
def validateRange (addr : GuestAddr) (len : GuestSize) (requiredPerm : MemoryPermission) :
    Guest (Result Unit) :=
  ask (.validateRange addr len requiredPerm)

/-- The loop of `ReadString` and of `ReadGuestStringBounded`, which differ in the limit and in
the error for a string that reaches it.
SOURCE: libs/kernel/src/registry.cpp:17-30, libs/kernel/src/file_services.cpp:39-55 -/
def readStringUpTo (tooLong : Error) : ℕ → GuestAddr → Guest (Result ByteString)
  | 0, _ => pure (.error tooLong)
  | n + 1, addr => do
    match ← read8 addr with
    | .error e => pure (.error e)
    | .ok c =>
      if c = 0 then
        pure (.ok [])
      else
        match ← readStringUpTo tooLong n (addr + 1) with
        | .error e => pure (.error e)
        | .ok s => pure (.ok (c :: s))

/-- `ReadString`. SOURCE: libs/kernel/src/registry.cpp:17-30 -/
def readString (addr : GuestAddr) : Guest (Result ByteString) :=
  readStringUpTo
    { code := .limitReached, message := "String excede tamanho máximo sem terminador nulo" }
    1024 addr

/-- Words written one after the other, with the failures ignored. -/
def writeWords : List (GuestAddr × U32) → Guest Unit
  | [] => pure ()
  | (addr, val) :: rest => do
    let _ ← write32 addr val
    writeWords rest

end Guest

end Xblob.Kernel
