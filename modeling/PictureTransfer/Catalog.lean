import PictureTransfer.Catalog.Recorded
import PictureTransfer.Dataset.DeviceInfo

/-!
# The catalog of answers

The dataset the camera sends for each operation it can answer with one.
-/

namespace PictureTransfer

namespace Catalog

/-- The dataset for an operation, if the operation has one. -/
def lookup (code : UInt16) : Option Bytes :=
  if code = Operation.getDeviceInfo then some deviceInfo
  else if code = Operation.getStorageIds then some storageIds
  else if code = Operation.getStorageInfo then some storageInfo
  else if code = Operation.getNumObjects then some [0, 0, 0, 0]
  else if code = Operation.getObjectHandles then some [0, 0, 0, 0]
  else if code = Operation.vendorStatus then some [0, 0, 0, 0, 0, 0, 0, 0]
  else if code = Operation.vendorProperties then some vendorProperties
  else if code = Operation.vendorDescriptions then some vendorDescriptions
  else none

end Catalog

end PictureTransfer
