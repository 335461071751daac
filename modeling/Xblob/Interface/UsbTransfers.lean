import Xblob.Computation.Newest
import Xblob.Model.Input.XidController
import Xblob.Model.Usb.OhciTraversal

/-!
# USB transfers

What is to hold of the buffer of a transfer, and of the reports of a gamepad.
-/

set_option autoImplicit false

namespace Xblob.Interface

open Xblob.Computation Xblob.Input Xblob.Usb Xblob.Usb.Ohci Xblob.Vfs

/-!
## The buffers of transfer descriptors

A general transfer descriptor names the first and the last byte of its buffer, which lies in two
pages at most, wherever the second of them is.
-/

section TransferBuffers

variable {δ : Type}

/-- The 4 KiB page of a byte. -/
def guestPage (addr : GuestAddr) : ℕ := addr.toNat / 0x1000

/-- The bytes of a buffer in their order: from the first to the last where these are in one page,
and otherwise to the end of the first page and from the start of the last. -/
def ohciBuffer (cbp be : GuestAddr) : List ℕ :=
  if guestPage be = guestPage cbp then List.range' cbp.toNat (be.toNat + 1 - cbp.toNat)
  else List.range' cbp.toNat (0x1000 - cbp.toNat % 0x1000) ++
    List.range' (guestPage be * 0x1000) (be.toNat % 0x1000 + 1)

/-- The bytes of guest memory that a request takes for a device or gets from it; what is written
back to a descriptor are none of them. -/
def transferred : UsbRequest δ → List ℕ
  | .readGuest addr size => List.range' addr.toNat size
  | .writeGuest addr bytes => List.range' addr.toNat bytes.length
  | _ => []

/-- **The two-page rule**: the length of a descriptor's buffer is that of the bytes it names, two
pages at most, and every transfer for the descriptor takes these bytes from the first on. -/
structure TwoPageRule (δ : Type) (td : GeneralTransferDescriptor) : Prop where
  length : td.bufferLength.toNat = (ohciBuffer td.cbp td.be).length
  bounded : td.bufferLength.toNat ≤ 8192
  transfers : ∀ (tdAddr : GuestAddr) (ed : EndpointDescriptor) (edAddr : GuestAddr)
    (sessions : ControlSessions) (doneHead : U32) (device : Option δ),
      (processSingleTd tdAddr td ed edAddr sessions doneHead device).Within
        (fun r => transferred r <+: ohciBuffer td.cbp td.be) fun _ => True

/-- The last byte is in the page of the first, or in the next one. -/
def FollowingPages (td : GeneralTransferDescriptor) : Prop :=
  guestPage td.be = guestPage td.cbp ∨ guestPage td.be = guestPage td.cbp + 1

end TransferBuffers

/-!
## What the gamepad is to report

The host's threads submit snapshots in any order, between the transfers of the guest.  The gamepad
is to end with the newest of them, and to report it.
-/

/-- A call of the gamepad, by the host or by the controller of the bus. -/
inductive GamepadCall where
  | submitSnapshot (snapshot : HostInputSnapshot)
  | handleControlTransfer (setup : UsbSetupPacket) (payload buffer : ByteString)
  | handleInterruptTransfer (endpointAddress : U8) (buffer : ByteString)
  | setAddress (address : U8)
  | connect
  | disconnect
  | reset
  deriving DecidableEq, Repr

namespace GamepadCall

/-- The gamepad after a call. -/
def next (d : XidController) : GamepadCall → XidController
  | .submitSnapshot snapshot => (d.submitSnapshot snapshot).2
  | .handleControlTransfer setup payload buffer => (d.handleControlTransfer setup payload buffer).device
  | .handleInterruptTransfer endpointAddress buffer =>
    (d.handleInterruptTransfer endpointAddress buffer).device
  | .setAddress address => d.setAddress address
  | .connect => d.connect
  | .disconnect => d.disconnect
  | .reset => d.reset

end GamepadCall

end Xblob.Interface
