import Xblob.Interface.PhysicalMemory
import Xblob.Model.Memory.VirtualMemory

/-!
# When a split write is torn

A virtual write that crosses a page is carried out byte by byte.  All addresses are
translated first, so a page fault costs nothing; but a translation says nothing
about the physical side, where each byte still has to find a region that takes it.

This file says which sequences of byte stores end torn: the physical memory takes
some bytes, refuses the next, and a RAM cell already holds another value than before.
Nothing here runs the code's own loop; the regions, the bank sizes and the devices
decide.
-/

set_option autoImplicit false

namespace Xblob.Interface

open Xblob.Computation Xblob.Memory

variable {δ : Type}

/-- The bytes of all RAM banks. -/
def ramBytes (vm : VirtualMemory δ) : ℕ → ℕ → U8 := fun ram => (vm.physicalSpace.rams ram).data

/-- If the call returns an error, no byte of physical RAM has changed. -/
def AllOrNothing {α : Type} (call : EStateM Error (VirtualMemory δ) α) (vm : VirtualMemory δ) :
    Prop :=
  ∀ e vm', call.run vm = .error e vm' →
    ∀ ram offset, ramBytes vm' ram offset = ramBytes vm ram offset

/-- What a device window answers to a byte, and the devices after it. -/
def deviceTakes (h : MmioHandler δ) (reg : Region δ) (addr : GuestAddr) (b : U8) (d : δ) :
    Option δ :=
  match h.write with
  | none => none
  | some write =>
    match (write (addr - reg.base) .byte (b.setWidth 32)).run d with
    | .ok _ d' => some d'
    | .error _ _ => none

/-- How many bytes of a sequence of stores the physical memory takes before it
refuses one, if it refuses one.  The devices see the bytes in order. -/
def refusedAt (space : AddressSpace δ) : δ → List (GuestAddr × U8) → Option ℕ
  | _, [] => none
  | d, (addr, b) :: rest =>
    match space.byteTarget addr with
    | .refused _ => some 0
    | .cell _ _ => (refusedAt space d rest).map (· + 1)
    | .device h reg =>
      match deviceTakes h reg addr b d with
      | none => some 0
      | some d' => (refusedAt space d' rest).map (· + 1)

/-- The byte a store puts into a RAM cell, if that is where it goes. -/
def storesTo (space : AddressSpace δ) (ram offset : ℕ) (store : GuestAddr × U8) : Option U8 :=
  match space.byteTarget store.1 with
  | .cell ram' offset' => if ram' = ram ∧ offset' = offset then some store.2 else none
  | _ => none

/-- The byte a sequence of stores leaves in a RAM cell: the last one that goes there. -/
def lastStored (space : AddressSpace δ) (ram offset : ℕ) : List (GuestAddr × U8) → Option U8
  | [] => none
  | store :: rest => (lastStored space ram offset rest).or (storesTo space ram offset store)

/-- The sequence of stores is cut short after it has changed a RAM cell. -/
def TornStores (space : AddressSpace δ) (stores : List (GuestAddr × U8)) : Prop :=
  ∃ j, refusedAt space space.devices stores = some j ∧
    ∃ ram offset b, lastStored space ram offset (stores.take j) = some b ∧
      b ≠ (space.rams ram).data offset

/-- A split write of `bytes` at `vaddr` is torn: every address translates, and the
stores at the translated addresses are torn. -/
def TornWrite (vm : VirtualMemory δ) (vaddr : GuestAddr) (bytes : List U8) : Prop :=
  ∃ phys vm', (VirtualMemory.translateBytes vaddr bytes.length).run vm = .ok phys vm' ∧
    TornStores vm'.physicalSpace (phys.zip bytes)

/-- The offset in its page is too large for an access of `n` bytes to stay in it. -/
def CrossesPage (vaddr : GuestAddr) (n : ℕ) : Prop := (vaddr &&& 0xFFF).toNat + n > 0x1000

end Xblob.Interface
