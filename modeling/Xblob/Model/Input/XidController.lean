import Xblob.Model.Usb.UsbTypes

/-!
# The gamepad

A USB device that answers with a report of the last snapshot of the host's input.  Snapshots come
from the threads of the host, each with a sequence number, and one that is not newer than the last
is dropped.
-/

set_option autoImplicit false

namespace Xblob.Input

open Xblob.Usb Xblob.Vfs

/-- A signed 16-bit integer (`i16`); its sign is that of `BitVec.toInt`. -/
abbrev I16 := BitVec 16

/-! ## Snapshots and reports -/

/-- `HostInputSnapshot`. SOURCE: libs/input/include/xblob/input/input_types.hpp:24-47 -/
structure HostInputSnapshot where
  sequence : U64 := 0
  connected : Bool := true
  digitalButtons : U8 := 0
  buttonA : U8 := 0
  buttonB : U8 := 0
  buttonX : U8 := 0
  buttonY : U8 := 0
  buttonBlack : U8 := 0
  buttonWhite : U8 := 0
  triggerLeft : U8 := 0
  triggerRight : U8 := 0
  thumbLx : I16 := 0
  thumbLy : I16 := 0
  thumbRx : I16 := 0
  thumbRy : I16 := 0
  deriving DecidableEq, Repr

/-- `std::clamp` on signed 16-bit integers. -/
def clamp (v low high : I16) : I16 :=
  if v.slt low then low else if high.slt v then high else v

/-- `ClampAndNormalize`. SOURCE: libs/input/include/xblob/input/input_types.hpp:49-55 -/
def HostInputSnapshot.clampAndNormalize (s : HostInputSnapshot) : HostInputSnapshot :=
  { s with
    thumbLx := clamp s.thumbLx (-32768) 32767
    thumbLy := clamp s.thumbLy (-32768) 32767
    thumbRx := clamp s.thumbRx (-32768) 32767
    thumbRy := clamp s.thumbRy (-32768) 32767 }

/-- `kXidGamepadReportSize`. SOURCE: libs/input/include/xblob/input/input_types.hpp:58 -/
def xidGamepadReportSize : ℕ := 20

/-- `XidGamepadReport`. SOURCE: libs/input/include/xblob/input/input_types.hpp:60-76 -/
structure XidGamepadReport where
  reportId : U8 := 0x00
  reportSize : U8 := 20
  buttons : U8 := 0x00
  reserved : U8 := 0x00
  a : U8 := 0
  b : U8 := 0
  x : U8 := 0
  y : U8 := 0
  black : U8 := 0
  white : U8 := 0
  leftTrigger : U8 := 0
  rightTrigger : U8 := 0
  thumbLx : I16 := 0
  thumbLy : I16 := 0
  thumbRx : I16 := 0
  thumbRy : I16 := 0
  deriving DecidableEq, Repr

namespace XidGamepadReport

/-- `FromSnapshot`. SOURCE: libs/input/include/xblob/input/input_types.hpp:78-97 -/
def fromSnapshot (s : HostInputSnapshot) : XidGamepadReport where
  reportId := 0x00
  reportSize := 20
  buttons := s.digitalButtons
  reserved := 0x00
  a := s.buttonA
  b := s.buttonB
  x := s.buttonX
  y := s.buttonY
  black := s.buttonBlack
  white := s.buttonWhite
  leftTrigger := s.triggerLeft
  rightTrigger := s.triggerRight
  thumbLx := s.thumbLx
  thumbLy := s.thumbLy
  thumbRx := s.thumbRx
  thumbRy := s.thumbRy

/-- The bytes of a report; the axes are little-endian.
SOURCE: libs/input/include/xblob/input/input_types.hpp:104-132 -/
def toBytes (r : XidGamepadReport) : ByteString :=
  [r.reportId, r.reportSize, r.buttons, r.reserved, r.a, r.b, r.x, r.y, r.black, r.white,
    r.leftTrigger, r.rightTrigger, byteOf r.thumbLx 0, byteOf r.thumbLx 1, byteOf r.thumbLy 0,
    byteOf r.thumbLy 1, byteOf r.thumbRx 0, byteOf r.thumbRx 1, byteOf r.thumbRy 0,
    byteOf r.thumbRy 1]

/-- `Serialize`: the buffer with the report at its start.
SOURCE: libs/input/include/xblob/input/input_types.hpp:99-135 -/
def serialize (r : XidGamepadReport) (dest : ByteString) : Result ByteString :=
  if dest.length < xidGamepadReportSize then
    .error ⟨.outOfBounds, "Buffer de destino pequeno demais para report XID",
      BitVec.ofNat 64 dest.length⟩
  else
    .ok (r.toBytes ++ dest.drop xidGamepadReportSize)

end XidGamepadReport

/-! ## The device -/

/-- `UnsupportedUsbRequest`. SOURCE: libs/input/include/xblob/input/xid_controller.hpp:12-18 -/
structure UnsupportedUsbRequest where
  requestType : U8
  request : U8
  value : U16
  index : U16
  count : U64
  deriving DecidableEq, Repr

/-- `XidController`, without its name.
SOURCE: libs/input/include/xblob/input/xid_controller.hpp:66-78 -/
structure XidController where
  address : U8 := 0
  configuration : U8 := 0
  connected : Bool := true
  endpoint1Halted : Bool := false
  lastSequence : U64 := 0
  currentReport : XidGamepadReport := {}
  rumbleLeft : U16 := 0
  rumbleRight : U16 := 0
  unsupportedRequests : List UnsupportedUsbRequest := []
  deriving DecidableEq, Repr

/-- What a transfer leaves: its result, the buffer for data to the host, and the device. -/
structure TransferOutcome where
  result : UsbTransferResult
  buffer : ByteString
  device : XidController
  deriving DecidableEq, Repr

/-- `kDeviceDescriptor`. SOURCE: libs/input/src/xid_controller.cpp:11-26 -/
def deviceDescriptor : ByteString :=
  [18, 0x01, 0x10, 0x01, 0x00, 0x00, 0x00, 0x08, 0x5E, 0x04, 0x89, 0x02, 0x00, 0x01, 0x00, 0x00,
    0x00, 0x01]

/-- `kConfigurationDescriptor`. SOURCE: libs/input/src/xid_controller.cpp:29-66 -/
def configurationDescriptor : ByteString :=
  [9, 0x02, 32, 0x00, 0x01, 0x01, 0x00, 0x80, 0x32,
    9, 0x04, 0x00, 0x00, 0x02, 0x58, 0x42, 0x00, 0x00,
    7, 0x05, 0x81, 0x03, 0x20, 0x00, 0x04,
    7, 0x05, 0x02, 0x03, 0x20, 0x00, 0x04]

/-- `kXidDescriptor`. SOURCE: libs/input/src/xid_controller.cpp:69-80 -/
def xidDescriptor : ByteString :=
  [16, 0x42, 0x00, 0x01, 0x01, 0x01, 0x14, 0x06, 0xFF, 0xFF, 0xFF, 0x00, 0x00, 0x00, 0x00, 0x00]

namespace XidController

/-- `set_address`. SOURCE: libs/input/src/xid_controller.cpp:93-96 -/
def setAddress (d : XidController) (address : U8) : XidController := { d with address := address }

/-- `Reset`. SOURCE: libs/input/src/xid_controller.cpp:103-112 -/
def reset (d : XidController) : XidController :=
  { d with
    address := 0
    configuration := 0
    endpoint1Halted := false
    currentReport := {}
    rumbleLeft := 0
    rumbleRight := 0
    unsupportedRequests := [] }

/-- `Connect`. SOURCE: libs/input/src/xid_controller.cpp:114-117 -/
def connect (d : XidController) : XidController := { d with connected := true }

/-- `Disconnect`. SOURCE: libs/input/src/xid_controller.cpp:119-122 -/
def disconnect (d : XidController) : XidController := { d with connected := false }

/-- `SubmitSnapshot`. SOURCE: libs/input/src/xid_controller.cpp:144-159 -/
def submitSnapshot (d : XidController) (snapshot : HostInputSnapshot) : Bool × XidController :=
  if snapshot.sequence ≤ d.lastSequence then
    (false, d)
  else
    (true, { d with
      lastSequence := snapshot.sequence
      connected := snapshot.connected
      currentReport := .fromSnapshot snapshot.clampAndNormalize })

/-- `RecordUnsupportedRequestLocked`. SOURCE: libs/input/src/xid_controller.cpp:304-322 -/
def recordUnsupportedRequest (d : XidController) (requestType request : U8) (value index : U16) :
    XidController :=
  match d.unsupportedRequests.findIdx? fun item =>
      item.requestType == requestType && item.request == request && item.value == value &&
        item.index == index with
  | some i =>
    { d with unsupportedRequests :=
        d.unsupportedRequests.modify i fun item => { item with count := item.count + 1 } }
  | none =>
    if d.unsupportedRequests.length < 64 then
      { d with unsupportedRequests :=
          d.unsupportedRequests ++ [⟨requestType, request, value, index, 1⟩] }
    else
      d

/-- A request that the device refuses. -/
def stalled (d : XidController) (requestType request : U8) (value index : U16) (buffer : ByteString) :
    TransferOutcome :=
  ⟨⟨.stalled, 0, 4⟩, buffer, d.recordUnsupportedRequest requestType request value index⟩

/-- `HandleGetDescriptor`. SOURCE: libs/input/src/xid_controller.cpp:161-192 -/
def handleGetDescriptor (d : XidController) (descType descIndex : U8) (maxLen : U16)
    (dest : ByteString) : TransferOutcome :=
  let send (src : ByteString) : TransferOutcome :=
    let toCopy := min (min dest.length maxLen.toNat) src.length
    ⟨⟨.success, BitVec.ofNat 32 toCopy, 0⟩, src.take toCopy ++ dest.drop toCopy, d⟩
  if descType = Descriptors.device then send deviceDescriptor
  else if descType = Descriptors.configuration then send configurationDescriptor
  else if descType = Descriptors.xid then send xidDescriptor
  else
    d.stalled 0x80 Requests.getDescriptor (descType.setWidth 16 <<< 8 ||| descIndex.setWidth 16) 0
      dest

/-- The standard requests. SOURCE: libs/input/src/xid_controller.cpp:207-257 -/
def handleStandardRequest (d : XidController) (setup : UsbSetupPacket) (buffer : ByteString) :
    TransferOutcome :=
  let success (n : U32) (buffer : ByteString) (d : XidController) : TransferOutcome :=
    ⟨⟨.success, n, 0⟩, buffer, d⟩
  if setup.request = Requests.getDescriptor then
    d.handleGetDescriptor (byteOf setup.value 1) (byteOf setup.value 0) setup.length buffer
  else if setup.request = Requests.setAddress then
    success 0 buffer { d with address := (setup.value &&& 0x7F).setWidth 8 }
  else if setup.request = Requests.getConfiguration then
    if buffer ≠ [] then success 1 (buffer.set 0 d.configuration) d else success 0 buffer d
  else if setup.request = Requests.setConfiguration then
    success 0 buffer { d with configuration := (setup.value &&& 0xFF).setWidth 8 }
  else if setup.request = Requests.getStatus then
    if 2 ≤ buffer.length then
      let halted : U8 := if setup.recipient = 2 ∧ d.endpoint1Halted then 0x01 else 0x00
      success 2 ((buffer.set 0 halted).set 1 0x00) d
    else
      success 0 buffer d
  else if setup.request = Requests.clearFeature then
    success 0 buffer
      (if setup.recipient = 2 ∧ setup.value = 0 then { d with endpoint1Halted := false } else d)
  else if setup.request = Requests.setFeature then
    success 0 buffer
      (if setup.recipient = 2 ∧ setup.value = 0 then { d with endpoint1Halted := true } else d)
  else if setup.request = Requests.getInterface then
    if buffer ≠ [] then success 1 (buffer.set 0 0) d else success 0 buffer d
  else if setup.request = Requests.setInterface then
    success 0 buffer d
  else
    d.stalled setup.requestType setup.request setup.value setup.index buffer

/-- The class and vendor requests. SOURCE: libs/input/src/xid_controller.cpp:258-284 -/
def handleClassRequest (d : XidController) (setup : UsbSetupPacket) (payload buffer : ByteString) :
    TransferOutcome :=
  if setup.request = 0x01 ∨ setup.request = 0x06 then
    d.handleGetDescriptor Descriptors.xid 0 setup.length buffer
  else if setup.request = 0x09 then
    if 6 ≤ payload.length then
      ⟨⟨.success, BitVec.ofNat 32 payload.length, 0⟩, buffer,
        { d with
          rumbleLeft := word16 (payload.getD 2 0) (payload.getD 3 0)
          rumbleRight := word16 (payload.getD 4 0) (payload.getD 5 0) }⟩
    else
      ⟨⟨.success, 0, 0⟩, buffer, d⟩
  else
    d.stalled setup.requestType setup.request setup.value setup.index buffer

/-- `HandleControlTransfer`. SOURCE: libs/input/src/xid_controller.cpp:194-288 -/
def handleControlTransfer (d : XidController) (setup : UsbSetupPacket) (payload buffer : ByteString) :
    TransferOutcome :=
  if !d.connected then
    ⟨⟨.deviceDisconnected, 0, 5⟩, buffer, d⟩
  else if setup.type = 0 then
    d.handleStandardRequest setup buffer
  else if setup.type = 1 ∨ setup.type = 2 then
    d.handleClassRequest setup payload buffer
  else
    d.stalled setup.requestType setup.request setup.value setup.index buffer

/-- `HandleInterruptTransfer`. SOURCE: libs/input/src/xid_controller.cpp:324-352 -/
def handleInterruptTransfer (d : XidController) (endpointAddress : U8) (buffer : ByteString) :
    TransferOutcome :=
  if !d.connected then
    ⟨⟨.deviceDisconnected, 0, 5⟩, buffer, d⟩
  else if endpointAddress &&& 0x0F ≠ 1 then
    ⟨⟨.stalled, 0, 4⟩, buffer, d⟩
  else if d.endpoint1Halted then
    ⟨⟨.stalled, 0, 4⟩, buffer, d⟩
  else if buffer.length < xidGamepadReportSize then
    ⟨⟨.bufferUnderrun, 0, 11⟩, buffer, d⟩
  else
    match d.currentReport.serialize buffer with
    | .error _ => ⟨⟨.memoryFault, 0, 17⟩, buffer, d⟩
    | .ok buffer => ⟨⟨.success, BitVec.ofNat 32 xidGamepadReportSize, 0⟩, buffer, d⟩

end XidController

end Xblob.Input
