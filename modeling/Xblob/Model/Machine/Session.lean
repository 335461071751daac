import Xblob.Model.Memory.AddressSpace

/-!
# A prepared session

What a session maps into its address space when it is made, and where the loader puts the
image and the first stack.  Loading the image writes to the address space and maps nothing.
-/

set_option autoImplicit false

namespace Xblob.Machine

open Xblob.Memory

/-- The place of an image that `XbeLoader::Plan` accepts.
SOURCE: libs/loader/src/xbe_loader.cpp:46-63, 75-77 -/
structure XbeLoadPlan where
  baseAddress : GuestAddr
  imageSize : GuestSize
  nonempty : imageSize ≠ 0
  bounded : baseAddress.toNat + imageSize.toNat ≤ 0x100000000

/-- The default arguments of `CreateInitialContext`.
SOURCE: libs/loader/include/xblob/loader/xbe_loader.hpp:25-27 -/
def kInitialStackTop : GuestAddr := 0x00070000
def kInitialStackSize : GuestSize := 0x00010000

/-- A session after `Prepare`: its RAM, which `Ram::Create` made, the handlers of its two bus
windows with the devices behind them, and the plan of the image.
SOURCE: libs/machine/src/machine_session.cpp:11-17, 107-159 -/
structure MachineSession (δ : Type) where
  ram : Ram
  created : ∃ sizeBytes, Ram.create sizeBytes = .ok ram
  gpuWindow : MmioHandler δ
  usbWindow : MmioHandler δ
  devices : δ
  loadPlan : XbeLoadPlan

namespace MachineSession

variable {δ : Type}

/-- A mapping whose failure is ignored. -/
def mapped (space : AddressSpace δ) (result : Result (AddressSpace δ)) : AddressSpace δ :=
  match result with
  | .ok space' => space'
  | .error _ => space

/-- The address space: the window of the graphics device, the window of the USB controller, and
RAM from address 0.  `Prepare` finds the RAM mapped and leaves it.
SOURCE: libs/machine/src/machine_session.cpp:34-43, 114-131 -/
def space (s : MachineSession δ) : AddressSpace δ :=
  let space : AddressSpace δ := { regions := [], rams := fun _ => s.ram, devices := s.devices }
  let space := mapped space (space.mapMmio 0xFD000000 0x01000000 s.gpuWindow)
  let space := mapped space (space.mapMmio 0xFED00000 0x1000 s.usbWindow)
  mapped space (space.mapRam 0x00000000 (BitVec.ofNat 32 s.ram.size) 0 0 .all)

end MachineSession

end Xblob.Machine
