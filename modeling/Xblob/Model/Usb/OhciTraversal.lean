import Xblob.Computation.Program
import Xblob.Model.Usb.UsbTypes

/-!
# The transfers of the host controller

The host controller takes general transfer descriptors off the queue of an endpoint, and moves
bytes between guest memory and a device for each.  Both are interfaces of the source, so what is
done for a descriptor is a program over the requests it makes of them.
-/

set_option autoImplicit false

namespace Xblob.Usb.Ohci

open Xblob.Computation Xblob.Vfs

/-! ## Descriptors -/

/-- SOURCE: libs/usb/include/xblob/usb/ohci_descriptors.hpp:9 -/
def kDescriptorAlignment : U32 := 16

/-- The size of either descriptor. -/
def kDescriptorSize : GuestSize := 16

/-- `EndpointDescriptor`. SOURCE: libs/usb/include/xblob/usb/ohci_descriptors.hpp:13-71 -/
structure EndpointDescriptor where
  flags : U32 := 0
  tailP : U32 := 0
  headP : U32 := 0
  nextEd : U32 := 0
  deriving DecidableEq, Repr

namespace EndpointDescriptor

/-- The address of the function. -/
def functionAddress (ed : EndpointDescriptor) : U8 := (ed.flags &&& 0x7F).setWidth 8

/-- The number of the endpoint. -/
def endpointNumber (ed : EndpointDescriptor) : U8 := ((ed.flags >>> 7) &&& 0x0F).setWidth 8

/-- 00b: from the transfer descriptor, 01b: OUT, 10b: IN, 11b: from the transfer descriptor. -/
def direction (ed : EndpointDescriptor) : U8 := ((ed.flags >>> 11) &&& 0x03).setWidth 8

/-- The halted bit, set or cleared. -/
def setHalted (ed : EndpointDescriptor) (halted : Bool) : EndpointDescriptor :=
  { ed with headP := if halted then ed.headP ||| 0x01 else ed.headP &&& ~~~0x01 }

/-- The head of the queue, set with the bits beside it kept. -/
def setHeadPointer (ed : EndpointDescriptor) (pointer : U32) : EndpointDescriptor :=
  { ed with headP := (pointer &&& ~~~0x0F) ||| (ed.headP &&& 0x0F) }

end EndpointDescriptor

/-- `GeneralTransferDescriptor`.
SOURCE: libs/usb/include/xblob/usb/ohci_descriptors.hpp:73-132 -/
structure GeneralTransferDescriptor where
  flags : U32 := 0
  cbp : U32 := 0
  nextTd : U32 := 0
  be : U32 := 0
  deriving DecidableEq, Repr

namespace GeneralTransferDescriptor

/-- The direction of the transfer. -/
def pidDirection (td : GeneralTransferDescriptor) : UsbPid :=
  let dp := (td.flags >>> 19) &&& 0x03
  if dp = 0 then .setup else if dp = 1 then .out else if dp = 2 then .in_ else .reserved

/-- The interrupt delay. -/
def delayInterrupt (td : GeneralTransferDescriptor) : U8 :=
  ((td.flags >>> 21) &&& 0x07).setWidth 8

/-- The condition code, set. -/
def setConditionCode (td : GeneralTransferDescriptor) (cc : U8) : GeneralTransferDescriptor :=
  { td with
    flags := (td.flags &&& ~~~((0x0F : U32) <<< 28)) ||| ((cc &&& 0x0F).setWidth 32 <<< 28) }

/-- `buffer_length`. SOURCE: libs/usb/include/xblob/usb/ohci_descriptors.hpp:115-129 -/
def bufferLength (td : GeneralTransferDescriptor) : U32 :=
  if td.cbp = 0 then 0
  else if td.be < td.cbp then
    let cbpPage := td.cbp &&& ~~~0xFFF
    let bePage := td.be &&& ~~~0xFFF
    if bePage > cbpPage then (0x1000 - (td.cbp &&& 0xFFF)) + (td.be &&& 0xFFF) + 1
    else 0
  else (td.be - td.cbp) + 1

/-- The next descriptor. -/
def nextTdPointer (td : GeneralTransferDescriptor) : U32 := td.nextTd &&& ~~~0x0F

end GeneralTransferDescriptor

/-! ## Requests -/

variable {δ : Type}

/-- What the controller asks of guest memory and of a device.
SOURCE: libs/usb/include/xblob/usb/usb_memory.hpp:9-39 and usb_device.hpp:11-30 -/
inductive UsbRequest (δ : Type) where
  | isValidRange (addr : GuestAddr) (size : GuestSize)
  | write32 (addr : GuestAddr) (value : U32)
  | readGuest (addr : GuestAddr) (size : ℕ)
  | writeGuest (addr : GuestAddr) (bytes : ByteString)
  | isConnected (device : δ)
  | handleControlTransfer (device : δ) (setup : UsbSetupPacket) (outPayload : ByteString)
      (inSize : ℕ)
  | handleInterruptTransfer (device : δ) (endpointAddress : U8) (inSize : ℕ)

/-- The requests with their answers: what is read fills the buffer it is read to. -/
abbrev usbSig (δ : Type) : Signature where
  Request := UsbRequest δ
  Answer
    | .isValidRange _ _ => Bool
    | .write32 _ _ => Result Unit
    | .readGuest _ size => Result (Vector U8 size)
    | .writeGuest _ _ => Result Unit
    | .isConnected _ => Bool
    | .handleControlTransfer _ _ _ inSize => UsbTransferResult × Vector U8 inSize
    | .handleInterruptTransfer _ _ inSize => UsbTransferResult × Vector U8 inSize

/-- Transfer computations. -/
abbrev Transfer (δ : Type) := Program (usbSig δ) Error

namespace Transfer

/-- A range of the guest, checked. -/
def isValidRange (addr : GuestAddr) (size : GuestSize) : Transfer δ Bool :=
  Program.request (S := usbSig δ) (.isValidRange addr size)

/-- A dword written to the guest. -/
def write32 (addr : GuestAddr) (value : U32) : Transfer δ (Result Unit) :=
  Program.request (S := usbSig δ) (.write32 addr value)

/-- A block read from the guest. -/
def readGuest (addr : GuestAddr) (size : ℕ) : Transfer δ (Result (Vector U8 size)) :=
  Program.request (S := usbSig δ) (.readGuest addr size)

/-- A block written to the guest. -/
def writeGuest (addr : GuestAddr) (bytes : ByteString) : Transfer δ (Result Unit) :=
  Program.request (S := usbSig δ) (.writeGuest addr bytes)

/-- Whether the device is connected. -/
def isConnected (device : δ) : Transfer δ Bool :=
  Program.request (S := usbSig δ) (.isConnected device)

/-- A control transfer of the device. -/
def handleControlTransfer (device : δ) (setup : UsbSetupPacket) (outPayload : ByteString)
    (inSize : ℕ) : Transfer δ (UsbTransferResult × Vector U8 inSize) :=
  Program.request (S := usbSig δ) (.handleControlTransfer device setup outPayload inSize)

/-- An interrupt transfer of the device. -/
def handleInterruptTransfer (device : δ) (endpointAddress : U8) (inSize : ℕ) :
    Transfer δ (UsbTransferResult × Vector U8 inSize) :=
  Program.request (S := usbSig δ) (.handleInterruptTransfer device endpointAddress inSize)

end Transfer

/-- Four dwords are written at a descriptor's address, if it is aligned and in range; the texts of
the errors name the kind of descriptor. -/
def writeDescriptor (misaligned outOfRange failed : String) (addr : GuestAddr)
    (w0 w1 w2 w3 : U32) : Transfer δ (Result Unit) :=
  if addr &&& (kDescriptorAlignment - 1) ≠ 0 then
    pure (.error { code := .outOfBounds, message := misaligned, offset := addr.setWidth 64 })
  else do
    if !(← Transfer.isValidRange addr kDescriptorSize) then
      pure (.error { code := .accessViolation, message := outOfRange
                     offset := addr.setWidth 64 })
    else
      let r0 ← Transfer.write32 addr w0
      let r1 ← Transfer.write32 (addr + 4) w1
      let r2 ← Transfer.write32 (addr + 8) w2
      let r3 ← Transfer.write32 (addr + 12) w3
      match r0, r1, r2, r3 with
      | .ok (), .ok (), .ok (), .ok () => pure (.ok ())
      | _, _, _, _ =>
        pure (.error { code := .accessViolation, message := failed, offset := addr.setWidth 64 })

/-- `WriteEndpointDescriptor`. SOURCE: libs/usb/src/ohci_traversal.cpp:32-50 -/
def writeEndpointDescriptor (addr : GuestAddr) (ed : EndpointDescriptor) :
    Transfer δ (Result Unit) :=
  writeDescriptor "Endereço de ED desalinhado" "Endereço de ED fora dos limites"
    "Falha ao gravar ED na memória guest" addr ed.flags ed.tailP ed.headP ed.nextEd

/-- `WriteTransferDescriptor`. SOURCE: libs/usb/src/ohci_traversal.cpp:76-94 -/
def writeTransferDescriptor (addr : GuestAddr) (td : GeneralTransferDescriptor) :
    Transfer δ (Result Unit) :=
  writeDescriptor "Endereço de TD desalinhado" "Endereço de TD fora dos limites"
    "Falha ao gravar TD na memória guest" addr td.flags td.cbp td.nextTd td.be

/-! ## Transfers -/

/-- `ControlTransferSession`. SOURCE: libs/usb/src/ohci_traversal.hpp:35-40 -/
structure ControlTransferSession where
  setup : UsbSetupPacket := {}
  inBuffer : ByteString := []
  inOffset : U32 := 0
  active : Bool := false
  deriving DecidableEq, Repr

/-- What a transfer works on. -/
structure Stage where
  td : GeneralTransferDescriptor
  ed : EndpointDescriptor
  session : ControlTransferSession
  advanceAndRetire : Bool := true
  deriving DecidableEq, Repr

namespace Stage

/-- The transfer has failed: the endpoint is halted. -/
def fail (s : Stage) (status : UsbTransferStatus) : Stage :=
  { s with
    td := s.td.setConditionCode status.toU8
    ed := s.ed.setHalted true
    advanceAndRetire := false }

/-- The transfer has taken the whole buffer. -/
def complete (s : Stage) : Stage :=
  { s with td := { s.td.setConditionCode 0 with cbp := 0 } }

/-- The transfer was a status stage: the session ends. -/
def endSession (s : Stage) : Stage :=
  { s with td := s.td.setConditionCode 0, session := { s.session with active := false } }

end Stage

/-- `resize` of a vector of bytes. -/
def resized (bytes : ByteString) (size : ℕ) : ByteString :=
  bytes.take size ++ List.replicate (size - bytes.length) 0

/-- A SETUP transfer. SOURCE: libs/usb/src/ohci_traversal.cpp:122-166 -/
def setupTransfer (device : δ) (s : Stage) : Transfer δ Stage :=
  if s.td.bufferLength < 8 ∨ s.td.cbp = 0 then
    pure (s.fail .invalidDescriptor)
  else do
    match ← Transfer.readGuest s.td.cbp 8 with
    | .error _ => pure (s.fail .memoryFault)
    | .ok raw =>
      match UsbSetupPacket.fromBytes raw.toList with
      | .error _ => pure (s.fail .invalidDescriptor)
      | .ok parsed =>
        let session : ControlTransferSession := { setup := parsed, active := true }
        if parsed.isDeviceToHost && 0 < parsed.length then do
          let (xfer, bytes) ← Transfer.handleControlTransfer device parsed [] parsed.length.toNat
          if !xfer.isOk then
            pure ({ s with session := { session with inBuffer := bytes.toList
                                                     active := false } }.fail xfer.status)
          else
            pure { s with session := { session with
              inBuffer := resized bytes.toList xfer.bytesTransferred.toNat } }.complete
        else
          pure { s with session := session }.complete

/-- The bytes of the session that a data stage is given. -/
def pendingBytes (session : ControlTransferSession) (toCopy : U32) : ByteString :=
  (session.inBuffer.drop session.inOffset.toNat).take toCopy.toNat

/-- A control IN transfer: data, or the status of a request that has sent data.
SOURCE: libs/usb/src/ohci_traversal.cpp:171-201 -/
def controlIn (s : Stage) : Transfer δ Stage :=
  if !s.session.active then
    pure (s.fail .stalled)
  else if s.td.bufferLength = 0 ∨ s.td.cbp = 0 then
    pure s.endSession
  else
    let available := BitVec.ofNat 32 s.session.inBuffer.length - s.session.inOffset
    let toCopy := if s.td.bufferLength < available then s.td.bufferLength else available
    if 0 < toCopy then do
      match ← Transfer.writeGuest s.td.cbp (pendingBytes s.session toCopy) with
      | .error _ => pure (s.fail .memoryFault)
      | .ok () =>
        pure { s with session := { s.session with
          inOffset := s.session.inOffset + toCopy } }.complete
    else
      pure s.complete

/-- An interrupt or bulk IN transfer. SOURCE: libs/usb/src/ohci_traversal.cpp:203-229 -/
def interruptIn (device : δ) (s : Stage) : Transfer δ Stage := do
  let bufLen := s.td.bufferLength
  let readSize := if 0 < bufLen then bufLen.toNat else 64
  let (xfer, bytes) ← Transfer.handleInterruptTransfer device s.ed.endpointNumber readSize
  if !xfer.isOk then
    pure (s.fail xfer.status)
  else
    let toWrite := if xfer.bytesTransferred < bufLen then xfer.bytesTransferred else bufLen
    if 0 < toWrite ∧ s.td.cbp ≠ 0 then
      match ← Transfer.writeGuest s.td.cbp (bytes.toList.take toWrite.toNat) with
      | .error _ => pure (s.fail .memoryFault)
      | .ok () => pure s.complete
    else
      pure s.complete

/-- A control OUT transfer: data, or the status of a request that was sent data.
SOURCE: libs/usb/src/ohci_traversal.cpp:232-263 -/
def controlOut (device : δ) (s : Stage) : Transfer δ Stage :=
  if !s.session.active ∧ 0 < s.td.bufferLength then
    pure (s.fail .stalled)
  else if s.td.bufferLength = 0 ∨ s.td.cbp = 0 then
    pure s.endSession
  else do
    match ← Transfer.readGuest s.td.cbp s.td.bufferLength.toNat with
    | .error _ => pure (s.fail .memoryFault)
    | .ok payload =>
      let (xfer, _) ← Transfer.handleControlTransfer device s.session.setup payload.toList 0
      if !xfer.isOk then pure (s.fail xfer.status) else pure s.complete

/-- The transfer of a descriptor, by the direction that it or its endpoint names.
SOURCE: libs/usb/src/ohci_traversal.cpp:105-111 and 121-269 -/
def transferStage (device : δ) (s : Stage) : Transfer δ Stage :=
  let pid := if s.ed.direction = 1 then .out else if s.ed.direction = 2 then .in_
    else s.td.pidDirection
  match pid with
  | .setup => setupTransfer device s
  | .in_ => if s.ed.endpointNumber = 0 then controlIn s else interruptIn device s
  | .out => if s.ed.endpointNumber = 0 then controlOut device s else pure s.complete
  | .reserved => pure s

/-- The sessions of the control endpoints, `control_sessions_`. -/
abbrev ControlSessions := U16 → ControlTransferSession

/-- The key of the session of an endpoint. SOURCE: libs/usb/src/ohci_traversal.cpp:113-114 -/
def sessionKey (ed : EndpointDescriptor) : U16 :=
  (ed.functionAddress.setWidth 16 <<< 4) ||| (ed.endpointNumber.setWidth 16 &&& 0x0F)

/-- What `ProcessSingleTd` leaves of what it is given by reference, and what it returns. -/
structure TdOutcome where
  td : GeneralTransferDescriptor
  ed : EndpointDescriptor
  sessions : ControlSessions
  doneHeadAccumulator : U32
  retired : Bool

/-- The device of an endpoint, if there is one and it is connected. -/
def connectedDevice : Option δ → Transfer δ (Option δ)
  | none => pure none
  | some dev => do
    if ← Transfer.isConnected dev then pure (some dev) else pure none

/-- Both descriptors are written back, whatever becomes of it. -/
def writeBack (tdAddr : GuestAddr) (edAddr : GuestAddr) (o : TdOutcome) : Transfer δ TdOutcome := do
  let _ ← writeTransferDescriptor tdAddr o.td
  let _ ← writeEndpointDescriptor edAddr o.ed
  pure o

/-- The end of `ProcessSingleTd`: a descriptor that is retired goes off the queue of the endpoint,
and to the done queue if it asks for it. SOURCE: libs/usb/src/ohci_traversal.cpp:271-282 -/
def retire (tdAddr : GuestAddr) (edAddr : GuestAddr) (sessions : ControlSessions)
    (doneHeadAccumulator : U32) (s : Stage) : Transfer δ TdOutcome :=
  if s.advanceAndRetire then
    let ed := s.ed.setHeadPointer s.td.nextTdPointer
    if s.td.delayInterrupt ≠ 7 then
      writeBack tdAddr edAddr
        ⟨{ s.td with nextTd := doneHeadAccumulator }, ed, sessions, tdAddr, true⟩
    else writeBack tdAddr edAddr ⟨s.td, ed, sessions, doneHeadAccumulator, true⟩
  else writeBack tdAddr edAddr ⟨s.td, s.ed, sessions, doneHeadAccumulator, false⟩

/-- `ProcessSingleTd`. SOURCE: libs/usb/src/ohci_traversal.cpp:97-283 -/
def processSingleTd (tdAddr : GuestAddr) (td : GeneralTransferDescriptor)
    (ed : EndpointDescriptor) (edAddr : GuestAddr) (sessions : ControlSessions)
    (doneHeadAccumulator : U32) (device : Option δ) : Transfer δ TdOutcome := do
  match ← connectedDevice device with
  | none =>
    let td := td.setConditionCode UsbTransferStatus.deviceNotResponding.toU8
    writeBack tdAddr edAddr ⟨td, ed.setHalted true, sessions, doneHeadAccumulator, false⟩
  | some dev =>
    let key := sessionKey ed
    let s ← transferStage dev { td := td, ed := ed, session := sessions key }
    retire tdAddr edAddr (Function.update sessions key s.session) doneHeadAccumulator s

end Xblob.Usb.Ohci
