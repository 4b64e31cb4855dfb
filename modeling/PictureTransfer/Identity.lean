/-!
# Who the device says it is
-/

namespace PictureTransfer

/-- Vendor and product numbers, the device release, and the three names. -/
structure Identity where
  vid : UInt16 := 0x054C
  pid : UInt16 := 0x0994
  bcdDevice : UInt16 := 0x0100
  manufacturer : String := "Sony"
  product : String := "ILCE-5100"
  serial : String := "0001"
  deriving DecidableEq, Repr

end PictureTransfer
