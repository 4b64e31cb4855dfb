import PictureTransfer.Camera.Host

/-!
# A report on a camera

What the probe of a camera prints: where it was found, what it says about itself, its operations
in rows of eight, and how many of everything else it has.
-/

namespace PictureTransfer.Camera

namespace Report

/-- A version in hundredths, with two places. -/
def versionText (version : UInt16) : String :=
  let hundredths := version.toNat % 100
  toString (version.toNat / 100) ++ "."
    ++ (if hundredths < 10 then "0" else "") ++ toString hundredths

/-- How many operations a row has. -/
def rowLength : Nat := 8

/-- The operations in rows. -/
def rows (operations : List UInt16) : List String :=
  (Bytes.pieces rowLength operations).map fun row =>
    "    " ++ String.intercalate " " (row.map hex16)

/-- The lines of a report. -/
def lines (found : Located) (info : DeviceInfo) : List String :=
  ["Camera " ++ Bytes.hex 4 found.vid.toNat ++ ":" ++ Bytes.hex 4 found.pid.toNat
      ++ " (interface " ++ toString found.interface.toNat ++ ")",
   "  Manufacturer:   " ++ info.manufacturer,
   "  Model:          " ++ info.model,
   "  Version:        " ++ info.deviceVersion,
   "  Serial:         " ++ info.serialNumber,
   "  PTP version:    " ++ versionText info.standardVersion,
   "  Vendor ext:     0x" ++ Bytes.hex 8 info.vendorExtensionId.toNat
      ++ " v" ++ toString info.vendorExtensionVersion.toNat
      ++ " \"" ++ info.vendorExtensionDesc ++ "\"",
   "  Operations (" ++ toString info.operations.length ++ "):"]
  ++ rows info.operations
  ++ ["  Events: " ++ toString info.events.length
      ++ "  Properties: " ++ toString info.deviceProperties.length
      ++ "  Capture formats: " ++ toString info.captureFormats.length
      ++ "  Image formats: " ++ toString info.imageFormats.length]

/-- The report as a text; every line ends in a line feed. -/
def text (found : Located) (info : DeviceInfo) : String :=
  String.join ((lines found info).map (· ++ "\n"))

end Report

end PictureTransfer.Camera
