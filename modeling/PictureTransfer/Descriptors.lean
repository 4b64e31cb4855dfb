import PictureTransfer.Bus
import PictureTransfer.Container.Transfers
import PictureTransfer.Identity
import PictureTransfer.Personality
import PictureTransfer.Text.Utf16

/-!
# USB descriptors

Every personality has one configuration with one still-image interface. The standard one adds the
interrupt endpoint for events; the others have the two bulk endpoints only.
-/

namespace PictureTransfer

/-- Class, subclass and protocol of a still-image interface. -/
def stillImageClass : UInt8 × UInt8 × UInt8 := (6, 1, 1)

/-- How an endpoint transfers. -/
inductive TransferType where
  | bulk
  | interrupt
  deriving DecidableEq, Repr

def TransferType.attributes : TransferType → UInt8
  | bulk => 0x02
  | interrupt => 0x03

/-- An endpoint: its address, how it transfers, its packet size and its polling interval. -/
structure EndpointDescriptor where
  address : UInt8
  type : TransferType
  maxPacket : UInt16
  interval : UInt8
  deriving DecidableEq, Repr

namespace EndpointDescriptor

def bulk (address : UInt8) : EndpointDescriptor := ⟨address, .bulk, 64, 0⟩

def isIn (e : EndpointDescriptor) : Bool := e.address &&& 0x80 ≠ 0

def number (e : EndpointDescriptor) : UInt8 := e.address &&& 0x0F

def encode (e : EndpointDescriptor) : Bytes :=
  [7, 5, e.address, e.type.attributes] ++ Bytes.ofWord16 e.maxPacket ++ [e.interval]

end EndpointDescriptor

/-- All that the device says about itself on endpoint zero. -/
structure Descriptors where
  vid : UInt16
  pid : UInt16
  bcdDevice : UInt16
  endpoints : List EndpointDescriptor
  strings : List String
  deriving DecidableEq, Repr

namespace Descriptors

/-- The descriptors of a personality under an identity. -/
def ofPersonality (p : Personality) (identity : Identity) : Descriptors where
  vid := identity.vid
  pid := identity.pid
  bcdDevice := identity.bcdDevice
  endpoints :=
    (if p = .standard then [⟨Endpoint.eventIn, .interrupt, 64, 1⟩] else [])
      ++ [.bulk Endpoint.bulkOut, .bulk Endpoint.bulkIn]
  strings := [identity.manufacturer, identity.product, identity.serial, "PTP"]

/-- The number of the one configuration. -/
def configurationValue : UInt8 := 1

/-- The device descriptor. The class is left to the interface. -/
def device (d : Descriptors) : Bytes :=
  [18, 1] ++ Bytes.ofWord16 0x0200 ++ [0, 0, 0, UInt8.ofNat packetSize] ++ Bytes.ofWord16 d.vid
    ++ Bytes.ofWord16 d.pid ++ Bytes.ofWord16 d.bcdDevice ++ [1, 2, 3, 1]

/-- The configuration descriptor with its interface and its endpoints. -/
def configuration (d : Descriptors) : Bytes :=
  let total := 18 + 7 * d.endpoints.length
  let (cls, sub, proto) := stillImageClass
  [9, 2] ++ Bytes.ofWord16 (UInt16.ofNat total) ++ [1, configurationValue, 0, 0x80, 50]
    ++ [9, 4, 0, 0, UInt8.ofNat d.endpoints.length, cls, sub, proto, 4]
    ++ d.endpoints.flatMap EndpointDescriptor.encode

/-- The most UTF-16 units of a string descriptor. -/
def maxUnits : Nat := 126

/-- A string descriptor: the language table, or one of the strings, counted from one. -/
def string? (d : Descriptors) (index : UInt8) : Option Bytes :=
  if index = 0 then some ([4, 3] ++ Bytes.ofWord16 0x0409)
  else d.strings[index.toNat - 1]?.map fun text =>
    let units := (Text.Utf16.units text.toList).take maxUnits
    [UInt8.ofNat (2 + 2 * units.length), 3] ++ units.flatMap Bytes.ofWord16

/-- The endpoint with the given address. -/
def endpoint? (d : Descriptors) (address : UInt8) : Option EndpointDescriptor :=
  d.endpoints.find? (·.address = address)

end Descriptors

end PictureTransfer
