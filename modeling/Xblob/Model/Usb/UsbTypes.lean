import Xblob.Model.Vfs.Path

/-!
# USB transfers

What the host controller and the devices say to each other: setup packets, and how a transfer has
ended.
-/

set_option autoImplicit false

namespace Xblob.Usb

open Xblob.Vfs

/-- `UsbPid`. SOURCE: libs/usb/include/xblob/usb/usb_types.hpp:17-22 -/
inductive UsbPid where
  | setup | out | in_ | reserved
  deriving DecidableEq, Repr

/-- `UsbTransferStatus`. SOURCE: libs/usb/include/xblob/usb/usb_types.hpp:24-42 -/
inductive UsbTransferStatus where
  | success | crcError | bitStuffing | dataToggleMismatch | stalled | deviceNotResponding
  | pidCheckFailure | unexpectedPid | dataOverrun | dataUnderrun | bufferOverrun | bufferUnderrun
  | notAccessed | traversalLimitExceeded | invalidDescriptor | memoryFault | deviceDisconnected
  deriving DecidableEq, Repr

/-- The number of a status. SOURCE: libs/usb/include/xblob/usb/usb_types.hpp:24-42 -/
def UsbTransferStatus.toU8 : UsbTransferStatus → U8
  | .success => 0
  | .crcError => 1
  | .bitStuffing => 2
  | .dataToggleMismatch => 3
  | .stalled => 4
  | .deviceNotResponding => 5
  | .pidCheckFailure => 6
  | .unexpectedPid => 7
  | .dataOverrun => 8
  | .dataUnderrun => 9
  | .bufferOverrun => 10
  | .bufferUnderrun => 11
  | .notAccessed => 14
  | .traversalLimitExceeded => 15
  | .invalidDescriptor => 16
  | .memoryFault => 17
  | .deviceDisconnected => 18

/-- `UsbTransferResult`. SOURCE: libs/usb/include/xblob/usb/usb_types.hpp:89-95 -/
structure UsbTransferResult where
  status : UsbTransferStatus := .success
  bytesTransferred : U32 := 0
  conditionCode : U8 := 0
  deriving DecidableEq, Repr

/-- `ok`. SOURCE: libs/usb/include/xblob/usb/usb_types.hpp:94 -/
def UsbTransferResult.isOk (r : UsbTransferResult) : Bool := r.status == .success

/-- `UsbSetupPacket`. SOURCE: libs/usb/include/xblob/usb/usb_types.hpp:97-102 -/
structure UsbSetupPacket where
  requestType : U8 := 0
  request : U8 := 0
  value : U16 := 0
  index : U16 := 0
  length : U16 := 0
  deriving DecidableEq, Repr

namespace UsbSetupPacket

/-- `FromBytes`. SOURCE: libs/usb/include/xblob/usb/usb_types.hpp:104-116 -/
def fromBytes (bytes : ByteString) : Result UsbSetupPacket :=
  if bytes.length < 8 then
    .error ⟨.truncatedData, "USB Setup packet precisa de ao menos 8 bytes", 0⟩
  else
    .ok {
      requestType := bytes.getD 0 0
      request := bytes.getD 1 0
      value := word16 (bytes.getD 2 0) (bytes.getD 3 0)
      index := word16 (bytes.getD 4 0) (bytes.getD 5 0)
      length := word16 (bytes.getD 6 0) (bytes.getD 7 0) }

/-- `is_device_to_host`. SOURCE: libs/usb/include/xblob/usb/usb_types.hpp:118 -/
def isDeviceToHost (p : UsbSetupPacket) : Bool := p.requestType &&& 0x80 != 0

/-- `type`. SOURCE: libs/usb/include/xblob/usb/usb_types.hpp:120 -/
def type (p : UsbSetupPacket) : U8 := (p.requestType >>> 5) &&& 0x03

/-- `recipient`. SOURCE: libs/usb/include/xblob/usb/usb_types.hpp:122 -/
def recipient (p : UsbSetupPacket) : U8 := p.requestType &&& 0x1F

end UsbSetupPacket

/-! ## Requests and descriptors

SOURCE: libs/usb/include/xblob/usb/usb_types.hpp:125-145 -/

namespace Requests

def getStatus : U8 := 0x00
def clearFeature : U8 := 0x01
def setFeature : U8 := 0x03
def setAddress : U8 := 0x05
def getDescriptor : U8 := 0x06
def getConfiguration : U8 := 0x08
def setConfiguration : U8 := 0x09
def getInterface : U8 := 0x0A
def setInterface : U8 := 0x0B

end Requests

namespace Descriptors

def device : U8 := 0x01
def configuration : U8 := 0x02
def xid : U8 := 0x42

end Descriptors

end Xblob.Usb
