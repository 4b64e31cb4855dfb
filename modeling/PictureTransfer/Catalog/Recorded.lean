import PictureTransfer.Bytes

/-!
# Recorded datasets

What a camera of this model answers to the operations whose datasets are not computed. The host
compares vendor extension, operation list and model name, so the bytes are kept as they are.
-/

namespace PictureTransfer.Catalog

/-- The camera's own description, with its vendor extension and all its operations. -/
def deviceInfo : Bytes :=
  [0x64, 0x00, 0x11, 0x00, 0x00, 0x00, 0x64, 0x00, 0x14, 0x53, 0x00, 0x6F, 0x00, 0x6E, 0x00, 0x79,
   0x00, 0x20, 0x00, 0x50, 0x00, 0x54, 0x00, 0x50, 0x00, 0x20, 0x00, 0x45, 0x00, 0x78, 0x00, 0x74,
   0x00, 0x65, 0x00, 0x6E, 0x00, 0x73, 0x00, 0x69, 0x00, 0x6F, 0x00, 0x6E, 0x00, 0x73, 0x00, 0x00,
   0x00, 0x00, 0x00, 0x10, 0x00, 0x00, 0x00, 0x02, 0x10, 0x03, 0x10, 0x01, 0x10, 0x04, 0x10, 0x05,
   0x10, 0x06, 0x10, 0x07, 0x10, 0x08, 0x10, 0x09, 0x10, 0x0A, 0x10, 0x1B, 0x10, 0x01, 0x92, 0x02,
   0x92, 0x05, 0x92, 0x07, 0x92, 0x09, 0x92, 0x03, 0x00, 0x00, 0x00, 0x01, 0xC2, 0x02, 0xC2, 0x03,
   0xC2, 0x00, 0x00, 0x00, 0x00, 0x00, 0x00, 0x00, 0x00, 0x03, 0x00, 0x00, 0x00, 0x01, 0x38, 0x01,
   0xB3, 0x01, 0xB1, 0x11, 0x53, 0x00, 0x6F, 0x00, 0x6E, 0x00, 0x79, 0x00, 0x20, 0x00, 0x43, 0x00,
   0x6F, 0x00, 0x72, 0x00, 0x70, 0x00, 0x6F, 0x00, 0x72, 0x00, 0x61, 0x00, 0x74, 0x00, 0x69, 0x00,
   0x6F, 0x00, 0x6E, 0x00, 0x00, 0x00, 0x0A, 0x49, 0x00, 0x4C, 0x00, 0x43, 0x00, 0x45, 0x00, 0x2D,
   0x00, 0x35, 0x00, 0x31, 0x00, 0x30, 0x00, 0x30, 0x00, 0x00, 0x00, 0x04, 0x33, 0x00, 0x2E, 0x00,
   0x30, 0x00, 0x00, 0x00, 0x21, 0x30, 0x00, 0x30, 0x00, 0x30, 0x00, 0x30, 0x00, 0x30, 0x00, 0x30,
   0x00, 0x30, 0x00, 0x30, 0x00, 0x30, 0x00, 0x30, 0x00, 0x30, 0x00, 0x30, 0x00, 0x30, 0x00, 0x30,
   0x00, 0x30, 0x00, 0x30, 0x00, 0x33, 0x00, 0x32, 0x00, 0x38, 0x00, 0x32, 0x00, 0x37, 0x00, 0x36,
   0x00, 0x33, 0x00, 0x30, 0x00, 0x30, 0x00, 0x33, 0x00, 0x38, 0x00, 0x35, 0x00, 0x39, 0x00, 0x30,
   0x00, 0x38, 0x00, 0x37, 0x00, 0x00, 0x00]

/-- One storage, with the id `0x00010000`. -/
def storageIds : Bytes := [0x01, 0x00, 0x00, 0x00, 0x00, 0x00, 0x01, 0x00]

/-- The supported device properties. -/
def vendorProperties : Bytes :=
  [0xC8, 0x00, 0x1F, 0x00, 0x00, 0x00, 0x04, 0x50, 0x05, 0x50, 0x07, 0x50, 0x0A, 0x50, 0x0B, 0x50,
   0x0C, 0x50, 0x0E, 0x50, 0x10, 0x50, 0x13, 0x50, 0x00, 0xD2, 0x01, 0xD2, 0x03, 0xD2, 0x0D, 0xD2,
   0x0E, 0xD2, 0x0F, 0xD2, 0x10, 0xD2, 0x1C, 0xD2, 0x11, 0xD2, 0x13, 0xD2, 0x1E, 0xD2, 0x1B, 0xD2,
   0x1D, 0xD2, 0x1F, 0xD2, 0x17, 0xD2, 0x18, 0xD2, 0x19, 0xD2, 0x12, 0xD2, 0x21, 0xD2, 0x14, 0xD2,
   0x15, 0xD2, 0x20, 0xD2, 0x06, 0x00, 0x00, 0x00, 0xC1, 0xD2, 0xC2, 0xD2, 0xC3, 0xD2, 0xC8, 0xD2,
   0xC5, 0xD2, 0xC7, 0xD2]

/-- The descriptions of all device properties. -/
def vendorDescriptions : Bytes :=
  [0x24, 0x00, 0x00, 0x00, 0x00, 0x00, 0x00, 0x00, 0x04, 0x50, 0x02, 0x00, 0x01, 0x00, 0x02, 0x03,
   0x02, 0x07, 0x00, 0x01, 0x02, 0x03, 0x10, 0x13, 0x20, 0x23, 0x05, 0x50, 0x04, 0x00, 0x01, 0x01,
   0x02, 0x00, 0x02, 0x00, 0x02, 0x0C, 0x00, 0x02, 0x00, 0x04, 0x00, 0x11, 0x80, 0x10, 0x80, 0x06,
   0x00, 0x01, 0x80, 0x02, 0x80, 0x03, 0x80, 0x04, 0x80, 0x30, 0x80, 0x12, 0x80, 0x23, 0x80, 0x07,
   0x50, 0x04, 0x00, 0x00, 0x01, 0xFF, 0xFF, 0xC8, 0x00, 0x01, 0x00, 0x00, 0xFF, 0xFF, 0x01, 0x00,
   0x0A, 0x50, 0x04, 0x00, 0x00, 0x02, 0x01, 0x00, 0x04, 0x80, 0x02, 0x07, 0x00, 0x01, 0x00, 0x02,
   0x00, 0x03, 0x00, 0x04, 0x80, 0x05, 0x80, 0x06, 0x80, 0x07, 0x80, 0x0B, 0x50, 0x04, 0x00, 0x00,
   0x02, 0x01, 0x00, 0x01, 0x00, 0x02, 0x03, 0x00, 0x04, 0x00, 0x01, 0x00, 0x02, 0x80, 0x0C, 0x50,
   0x04, 0x00, 0x00, 0x00, 0x01, 0x00, 0x00, 0x00, 0x02, 0x09, 0x00, 0x02, 0x00, 0x01, 0x00, 0x04,
   0x00, 0x03, 0x00, 0x05, 0x00, 0x01, 0x80, 0x03, 0x80, 0x31, 0x80, 0x32, 0x80, 0x0E, 0x50, 0x04,
   0x00, 0x00, 0x02, 0x01, 0x00, 0x51, 0x80, 0x02, 0x15, 0x00, 0x00, 0x80, 0x01, 0x80, 0x02, 0x00,
   0x03, 0x00, 0x04, 0x00, 0x01, 0x00, 0x50, 0x80, 0x51, 0x80, 0x52, 0x80, 0x53, 0x80, 0x54, 0x80,
   0x41, 0x80, 0x07, 0x00, 0x11, 0x80, 0x15, 0x80, 0x14, 0x80, 0x12, 0x80, 0x13, 0x80, 0x16, 0x80,
   0x17, 0x80, 0x18, 0x80, 0x10, 0x50, 0x03, 0x00, 0x00, 0x01, 0x00, 0x00, 0xD4, 0xFE, 0x02, 0x2B,
   0x00, 0x00, 0x00, 0x01, 0x00, 0x02, 0x00, 0x88, 0x13, 0x5C, 0x12, 0x94, 0x11, 0xCC, 0x10, 0xA0,
   0x0F, 0x74, 0x0E, 0xAC, 0x0D, 0xE4, 0x0C, 0xB8, 0x0B, 0x8C, 0x0A, 0xC4, 0x09, 0xFC, 0x08, 0xD0,
   0x07, 0xA4, 0x06, 0xDC, 0x05, 0x14, 0x05, 0xE8, 0x03, 0xBC, 0x02, 0xF4, 0x01, 0x2C, 0x01, 0xD4,
   0xFE, 0x0C, 0xFE, 0x44, 0xFD, 0x18, 0xFC, 0xEC, 0xFA, 0x24, 0xFA, 0x5C, 0xF9, 0x30, 0xF8, 0x04,
   0xF7, 0x3C, 0xF6, 0x74, 0xF5, 0x48, 0xF4, 0x1C, 0xF3, 0x54, 0xF2, 0x8C, 0xF1, 0x60, 0xF0, 0x34,
   0xEF, 0x6C, 0xEE, 0xA4, 0xED, 0x78, 0xEC, 0x13, 0x50, 0x04, 0x00, 0x01, 0x00, 0x01, 0x00, 0x01,
   0x00, 0x02, 0x1D, 0x00, 0x01, 0x00, 0x02, 0x00, 0x12, 0x80, 0x05, 0x80, 0x04, 0x80, 0x08, 0x80,
   0x09, 0x80, 0x37, 0x83, 0x37, 0x85, 0x57, 0x83, 0x57, 0x85, 0x77, 0x83, 0x77, 0x85, 0x11, 0x83,
   0x21, 0x83, 0x31, 0x83, 0x36, 0x83, 0x36, 0x85, 0x56, 0x83, 0x56, 0x85, 0x76, 0x83, 0x76, 0x85,
   0x10, 0x83, 0x20, 0x83, 0x30, 0x83, 0x18, 0x80, 0x28, 0x80, 0x19, 0x80, 0x29, 0x80, 0x00, 0xD2,
   0x03, 0x00, 0x00, 0x01, 0x00, 0x00, 0x00, 0x00, 0x02, 0x1B, 0x00, 0x00, 0x00, 0x01, 0x00, 0x02,
   0x00, 0xB8, 0x0B, 0x8C, 0x0A, 0xC4, 0x09, 0xFC, 0x08, 0xD0, 0x07, 0xA4, 0x06, 0xDC, 0x05, 0x14,
   0x05, 0xE8, 0x03, 0xBC, 0x02, 0xF4, 0x01, 0x2C, 0x01, 0xD4, 0xFE, 0x0C, 0xFE, 0x44, 0xFD, 0x18,
   0xFC, 0xEC, 0xFA, 0x24, 0xFA, 0x5C, 0xF9, 0x30, 0xF8, 0x04, 0xF7, 0x3C, 0xF6, 0x74, 0xF5, 0x48,
   0xF4, 0x01, 0xD2, 0x02, 0x00, 0x01, 0x01, 0x01, 0x01, 0x02, 0x07, 0x00, 0x01, 0x1F, 0x11, 0x12,
   0x13, 0x14, 0x15, 0x03, 0xD2, 0x02, 0x00, 0x01, 0x01, 0x04, 0x01, 0x02, 0x03, 0x00, 0x01, 0x02,
   0x03, 0x0D, 0xD2, 0x06, 0x00, 0x00, 0x02, 0xFF, 0xFF, 0xFF, 0xFF, 0x64, 0x00, 0x01, 0x00, 0x01,
   0x00, 0x00, 0x00, 0x00, 0xFF, 0xFF, 0xFF, 0xFF, 0x01, 0x00, 0x00, 0x00, 0x0E, 0xD2, 0x02, 0x00,
   0x00, 0x02, 0x01, 0x05, 0x02, 0x0A, 0x00, 0x01, 0x02, 0x03, 0x08, 0x09, 0x0A, 0x04, 0x05, 0x06,
   0x07, 0x0F, 0xD2, 0x04, 0x00, 0x01, 0x00, 0x7C, 0x15, 0x00, 0x00, 0x01, 0xC4, 0x09, 0xAC, 0x26,
   0x64, 0x00, 0x10, 0xD2, 0x02, 0x00, 0x01, 0x01, 0x80, 0x80, 0x01, 0x79, 0x87, 0x01, 0x1C, 0xD2,
   0x02, 0x00, 0x01, 0x01, 0x80, 0x80, 0x01, 0x79, 0x87, 0x01, 0x11, 0xD2, 0x02, 0x00, 0x01, 0x01,
   0x01, 0x02, 0x02, 0x02, 0x00, 0x01, 0x02, 0x13, 0xD2, 0x02, 0x00, 0x00, 0x02, 0x01, 0x01, 0x02,
   0x06, 0x00, 0x01, 0x02, 0x03, 0x05, 0x06, 0x07, 0x1E, 0xD2, 0x06, 0x00, 0x00, 0x01, 0xFF, 0xFF,
   0xFF, 0x00, 0xFF, 0xFF, 0xFF, 0x00, 0x02, 0x1D, 0x00, 0xFF, 0xFF, 0xFF, 0x00, 0x19, 0x00, 0x00,
   0x00, 0x64, 0x00, 0x00, 0x00, 0x7D, 0x00, 0x00, 0x00, 0xA0, 0x00, 0x00, 0x00, 0xC8, 0x00, 0x00,
   0x00, 0xFA, 0x00, 0x00, 0x00, 0x40, 0x01, 0x00, 0x00, 0x90, 0x01, 0x00, 0x00, 0xF4, 0x01, 0x00,
   0x00, 0x80, 0x02, 0x00, 0x00, 0x20, 0x03, 0x00, 0x00, 0xE8, 0x03, 0x00, 0x00, 0xE2, 0x04, 0x00,
   0x00, 0x40, 0x06, 0x00, 0x00, 0xD0, 0x07, 0x00, 0x00, 0xC4, 0x09, 0x00, 0x00, 0x80, 0x0C, 0x00,
   0x00, 0xA0, 0x0F, 0x00, 0x00, 0x88, 0x13, 0x00, 0x00, 0x00, 0x19, 0x00, 0x00, 0x40, 0x1F, 0x00,
   0x00, 0x10, 0x27, 0x00, 0x00, 0x00, 0x32, 0x00, 0x00, 0x80, 0x3E, 0x00, 0x00, 0x20, 0x4E, 0x00,
   0x00, 0x00, 0x64, 0x00, 0x00, 0x00, 0x90, 0x01, 0x00, 0x10, 0x27, 0x00, 0x01, 0x1B, 0xD2, 0x04,
   0x00, 0x01, 0x01, 0x00, 0x80, 0x00, 0x80, 0x02, 0x10, 0x00, 0x00, 0x80, 0x01, 0x80, 0x02, 0x80,
   0x03, 0x80, 0x04, 0x80, 0x05, 0x80, 0x10, 0x80, 0x20, 0x80, 0x21, 0x80, 0x30, 0x80, 0x40, 0x80,
   0x50, 0x80, 0x51, 0x80, 0x52, 0x80, 0x53, 0x80, 0x60, 0x80, 0x1D, 0xD2, 0x02, 0x00, 0x00, 0x02,
   0x00, 0x00, 0x01, 0x00, 0x02, 0x01, 0x1F, 0xD2, 0x02, 0x00, 0x00, 0x02, 0x01, 0x00, 0x02, 0x00,
   0x00, 0x17, 0xD2, 0x02, 0x00, 0x00, 0x02, 0x01, 0x01, 0x02, 0x02, 0x00, 0x02, 0x01, 0x18, 0xD2,
   0x01, 0x00, 0x00, 0x02, 0xFF, 0x31, 0x01, 0xFF, 0x64, 0x01, 0x19, 0xD2, 0x02, 0x00, 0x00, 0x02,
   0x01, 0x02, 0x02, 0x02, 0x00, 0x02, 0x01, 0xC1, 0xD2, 0x04, 0x00, 0x81, 0x01, 0x01, 0x00, 0x01,
   0x00, 0x02, 0x02, 0x00, 0x01, 0x00, 0x02, 0x00, 0xC2, 0xD2, 0x04, 0x00, 0x81, 0x01, 0x01, 0x00,
   0x01, 0x00, 0x02, 0x02, 0x00, 0x01, 0x00, 0x02, 0x00, 0xC3, 0xD2, 0x04, 0x00, 0x81, 0x01, 0x01,
   0x00, 0x01, 0x00, 0x02, 0x02, 0x00, 0x01, 0x00, 0x02, 0x00, 0xC8, 0xD2, 0x04, 0x00, 0x81, 0x01,
   0x01, 0x00, 0x01, 0x00, 0x02, 0x02, 0x00, 0x01, 0x00, 0x02, 0x00, 0x12, 0xD2, 0x02, 0x00, 0x00,
   0x01, 0x00, 0x00, 0x01, 0x00, 0x0F, 0x01, 0x21, 0xD2, 0x02, 0x00, 0x01, 0x01, 0x00, 0x00, 0x02,
   0x03, 0x00, 0x00, 0x01, 0x02, 0x14, 0xD2, 0x06, 0x00, 0x00, 0x01, 0xFF, 0xFF, 0xFF, 0xFF, 0xFF,
   0xFF, 0xFF, 0xFF, 0x01, 0x00, 0x00, 0x00, 0x00, 0xFF, 0xFF, 0xFF, 0xFF, 0x01, 0x00, 0x00, 0x00,
   0x15, 0xD2, 0x04, 0x00, 0x00, 0x01, 0x00, 0x00, 0x00, 0x00, 0x01, 0x00, 0x00, 0xFF, 0xFF, 0x01,
   0x00, 0xC5, 0xD2, 0x04, 0x00, 0x83, 0x01, 0x01, 0x00, 0x01, 0x00, 0x02, 0x02, 0x00, 0x01, 0x00,
   0x02, 0x00, 0xC7, 0xD2, 0x04, 0x00, 0x81, 0x01, 0x01, 0x00, 0x01, 0x00, 0x02, 0x02, 0x00, 0x01,
   0x00, 0x02, 0x00]

end PictureTransfer.Catalog
