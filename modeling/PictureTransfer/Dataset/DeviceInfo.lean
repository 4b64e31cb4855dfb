import PictureTransfer.Dataset.Field
import PictureTransfer.Operation

/-!
# DeviceInfo and StorageInfo

The dataset in which a camera describes itself, with its writer and its reader, and the dataset of
the one storage the camera reports.
-/

namespace PictureTransfer

/-- How a camera describes itself. -/
structure DeviceInfo where
  standardVersion : UInt16
  vendorExtensionId : UInt32
  vendorExtensionVersion : UInt16
  vendorExtensionDesc : String
  functionalMode : UInt16
  operations : List UInt16
  events : List UInt16
  deviceProperties : List UInt16
  captureFormats : List UInt16
  imageFormats : List UInt16
  manufacturer : String
  model : String
  deviceVersion : String
  serialNumber : String
  deriving DecidableEq, Repr

namespace DeviceInfo

open Dataset

/-- The fields in the order of the wire. -/
def fields (info : DeviceInfo) : List Field :=
  [.word16 info.standardVersion, .word32 info.vendorExtensionId,
   .word16 info.vendorExtensionVersion, .text info.vendorExtensionDesc,
   .word16 info.functionalMode, .array16 info.operations, .array16 info.events,
   .array16 info.deviceProperties, .array16 info.captureFormats, .array16 info.imageFormats,
   .text info.manufacturer, .text info.model, .text info.deviceVersion,
   .text info.serialNumber]

def encode (info : DeviceInfo) : Bytes := Dataset.encode info.fields

/-- Reads the fields in the order of the wire and leaves what follows them. -/
def reader : Reader DeviceInfo := do
  let standardVersion ← Reader.word16
  let vendorExtensionId ← Reader.word32
  let vendorExtensionVersion ← Reader.word16
  let vendorExtensionDesc ← Reader.text
  let functionalMode ← Reader.word16
  let operations ← Reader.array16
  let events ← Reader.array16
  let deviceProperties ← Reader.array16
  let captureFormats ← Reader.array16
  let imageFormats ← Reader.array16
  let manufacturer ← Reader.text
  let model ← Reader.text
  let deviceVersion ← Reader.text
  let serialNumber ← Reader.text
  pure { standardVersion, vendorExtensionId, vendorExtensionVersion, vendorExtensionDesc,
         functionalMode, operations, events, deviceProperties, captureFormats, imageFormats,
         manufacturer, model, deviceVersion, serialNumber }

/-- The description at the front of some bytes; what follows it is ignored. -/
def decode (bytes : Bytes) : Except Dataset.Error DeviceInfo :=
  (reader.run bytes).map (·.1)

/-- The description of a camera that only says who it is and opens sessions. -/
def minimal (manufacturer model serial : String) : DeviceInfo where
  standardVersion := 100
  vendorExtensionId := 0
  vendorExtensionVersion := 100
  vendorExtensionDesc := ""
  functionalMode := 0
  operations := [Operation.getDeviceInfo, Operation.openSession]
  events := []
  deviceProperties := []
  captureFormats := []
  imageFormats := []
  manufacturer := manufacturer
  model := model
  deviceVersion := "1.00"
  serialNumber := serial

end DeviceInfo

/-- The one storage of the camera: fixed, hierarchical and writable, 32 GiB with 31 GiB free and
no limit on the number of objects. -/
def storageInfo : Bytes :=
  Dataset.encode
    [.word16 2, .word16 2, .word16 0, .word64 0x800000000, .word64 0x7C0000000,
     .word32 0xFFFFFFFF, .text "Internal Storage", .text "SONY"]

end PictureTransfer
