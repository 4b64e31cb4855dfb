import PictureTransfer.Camera.Port
import PictureTransfer.Descriptors

/-!
# The cameras of a host

Which devices are attached to the host, and the opening of the first one with a still-image
interface. `locate` tries the devices in their order and does not go on to another one when the
first that fits cannot be opened.
-/

namespace PictureTransfer.Camera

/-- An interface of a device: its number, class, subclass and protocol. -/
structure Interface where
  number : UInt8
  triple : UInt8 × UInt8 × UInt8
  deriving DecidableEq, Repr

/-- An endpoint of an interface, in one of the alternate settings of that interface. -/
structure Endpoint where
  interface : UInt8
  setting : Nat
  address : UInt8
  type : TransferType
  deriving DecidableEq, Repr

namespace Endpoint

def isIn (e : Endpoint) : Bool := e.address &&& 0x80 ≠ 0

end Endpoint

/-- A device on the bus that may be a camera, with the texts of the failures that opening it and
claiming an interface of it meet. -/
structure Candidate where
  vid : UInt16
  pid : UInt16
  interfaces : List Interface
  endpoints : List Endpoint
  openFault : Option String := none
  claimFault : Option String := none
  deriving DecidableEq, Repr

/-- A camera that has been opened. -/
structure Located where
  vid : UInt16
  pid : UInt16
  interface : UInt8
  deriving DecidableEq, Repr

namespace Candidate

/-- Whether the device has the numbers that are asked for. -/
def fits (vid pid : Option UInt16) (d : Candidate) : Bool :=
  vid.all (· = d.vid) && pid.all (· = d.pid)

/-- The number of the first still-image interface. -/
def stillImage? (d : Candidate) : Option UInt8 :=
  (d.interfaces.find? (·.triple = stillImageClass)).map (·.number)

/-- The endpoints of an interface, by alternate setting. -/
def endpointsOf (interface : UInt8) (d : Candidate) : List Endpoint :=
  let own := d.endpoints.filter (·.interface = interface)
  own.filter (·.setting = 0) ++ own.filter (·.setting = 1)

/-- The address of the last bulk endpoint in one direction. -/
def bulkAddress? (toHost : Bool) (endpoints : List Endpoint) : Option UInt8 :=
  ((endpoints.filter fun e => e.type = .bulk ∧ e.isIn = toHost).getLast?).map (·.address)

/-- What using an endpoint says that the claimed interface does not have as it stands. -/
def missingText : String := "specified endpoint does not exist on this interface"

/-- Opens the two bulk endpoints of an interface. An OUT endpoint with the address zero counts as
missing. -/
def openPipes (interface : UInt8) (d : Candidate) : Except Error Unit := do
  let endpoints := d.endpointsOf interface
  let active (address : UInt8) : Bool :=
    endpoints.any fun e => e.setting = 0 && e.address = address
  match bulkAddress? true endpoints, (bulkAddress? false endpoints).filter (· ≠ 0) with
  | none, _ => throw (.endpointMissing .toHost)
  | some _, none => throw (.endpointMissing .toDevice)
  | some input, some output =>
    if active input && active output then pure () else throw (.transfer missingText)

/-- Opens the device and claims its still-image interface. -/
def openInterface (interface : UInt8) (d : Candidate) : Except Error Located := do
  if let some text := d.openFault then throw (.openFailed text)
  if let some text := d.claimFault then throw (.claimFailed interface text)
  d.openPipes interface
  pure ⟨d.vid, d.pid, interface⟩

end Candidate

/-- The devices of a host, or the text with which listing them fails. -/
structure Host where
  devices : List Candidate := []
  listFault : Option String := none
  deriving DecidableEq, Repr

namespace Host

/-- Opens the first camera with the numbers that are asked for. -/
def locate (vid pid : Option UInt16) (h : Host) : Except Error Located := do
  if let some text := h.listFault then throw (.openFailed text)
  let candidate := h.devices.findSome? fun d =>
    if d.fits vid pid then d.stillImage?.map fun interface => (d, interface) else none
  match candidate with
  | none => throw (.notFound vid pid)
  | some (d, interface) => d.openInterface interface

end Host

end PictureTransfer.Camera
