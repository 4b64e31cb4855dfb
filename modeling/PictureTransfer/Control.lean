import PictureTransfer.Bus
import PictureTransfer.Operation

/-!
# Control requests

Requests on endpoint zero that concern the still-image interface. None of them ever stalls: the
host drops a camera that rejects one of its class requests.
-/

namespace PictureTransfer

/-- The SETUP packet of a control transfer. -/
structure Setup where
  requestType : UInt8
  request : UInt8
  value : UInt16
  index : UInt16
  length : UInt16
  deriving DecidableEq, Repr

namespace Setup

/-- The packet in eight bytes; missing bytes count as zero. -/
def ofBytes (bytes : Bytes) : Setup :=
  let at? (i : Nat) : UInt8 := bytes.getD i 0
  { requestType := at? 0
    request := at? 1
    value := Bytes.word16 (at? 2) (at? 3)
    index := Bytes.word16 (at? 4) (at? 5)
    length := Bytes.word16 (at? 6) (at? 7) }

def isDeviceToHost (s : Setup) : Bool := s.requestType &&& 0x80 ≠ 0
def isStandard (s : Setup) : Bool := s.requestType &&& 0x60 = 0x00
def isClass (s : Setup) : Bool := s.requestType &&& 0x60 = 0x20
def toInterface (s : Setup) : Bool := s.requestType &&& 0x1F = 0x01
def toEndpoint (s : Setup) : Bool := s.requestType &&& 0x1F = 0x02

/-- The low byte of the index, which names an interface or an endpoint. -/
def target (s : Setup) : UInt8 := s.index.toUInt8

end Setup

/-- How a control transfer ends: with bytes for the host, with a bare acknowledgement, or left to
the device stack. -/
inductive ControlResponse where
  | data (bytes : Bytes)
  | ack
  | unhandled
  deriving DecidableEq, Repr

namespace Control

/-- CLEAR_FEATURE, which with the value zero ends the halt of an endpoint. -/
def clearFeature : UInt8 := 0x01

def cancel : UInt8 := 0x64
def getExtendedEvent : UInt8 := 0x65
def reset : UInt8 := 0x66
def getDeviceStatus : UInt8 := 0x67

/-- The most bytes of a control data stage. -/
def maxData : Nat := 64

/-- What a request leads to: bus operations, the answer, and whether the responder must drop its
transaction state. -/
structure Outcome where
  ops : List Bus.Op := []
  response : ControlResponse
  reset : Bool := false
  deriving DecidableEq, Repr

/-- Ends the halt of an endpoint that is halted. -/
def clearIfHalted (view : Bus.View) (ep : UInt8) : List Bus.Op :=
  if view.halted ep then [.clearStall ep] else []

/-- The answer to a class request for the interface. A reset empties the bulk-IN queue and ends
the halt of both bulk endpoints; requests that mean nothing to the device are acknowledged. -/
def classOutcome (view : Bus.View) (setup : Setup) : Outcome :=
  if setup.request = getDeviceStatus then
    { response := .data (Bytes.ofWord16 4 ++ Bytes.ofWord16 ResponseCode.ok) }
  else if setup.request = reset then
    { ops := .abortIn Endpoint.bulkIn
        :: clearIfHalted view Endpoint.bulkOut ++ clearIfHalted view Endpoint.bulkIn
      response := .ack
      reset := true }
  else if setup.request = getExtendedEvent then
    { response := .data (List.replicate (min setup.length.toNat maxData) 0) }
  else { response := .ack }

/-- The answer to a request, for a responder that owns one interface. -/
def outcome (view : Bus.View) (setup : Setup) (interface : UInt8) : Outcome :=
  if setup.isStandard && setup.toEndpoint then
    if setup.request = clearFeature ∧ setup.value = 0 then
      { ops := clearIfHalted view setup.target, response := .ack }
    else { response := .ack }
  else if setup.isClass && setup.toInterface && setup.target = interface then
    classOutcome view setup
  else { response := .unhandled }

end Control

end PictureTransfer
