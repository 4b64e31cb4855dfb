/-!
# Operation and response codes

The operations the camera and its host exchange, the codes a RESPONSE carries, and the words of
the record button.
-/

namespace PictureTransfer

namespace Operation

def getDeviceInfo : UInt16 := 0x1001
def openSession : UInt16 := 0x1002
def closeSession : UInt16 := 0x1003
def getStorageIds : UInt16 := 0x1004
def getStorageInfo : UInt16 := 0x1005
def getNumObjects : UInt16 := 0x1006
def getObjectHandles : UInt16 := 0x1007

/-- Vendor dataset of eight zero bytes. -/
def vendorStatus : UInt16 := 0x9201

/-- Vendor list of the supported device properties. -/
def vendorProperties : UInt16 := 0x9202

/-- The record button: a COMMAND, then DATA from the host. -/
def recButton : UInt16 := 0x9207

/-- Vendor descriptions of all device properties. -/
def vendorDescriptions : UInt16 := 0x9209

/-- The name under which messages show a known operation. -/
def name? (code : UInt16) : Option String :=
  if code = getDeviceInfo then some "GetDeviceInfo"
  else if code = openSession then some "OpenSession"
  else if code = closeSession then some "CloseSession"
  else if code = getStorageIds then some "GetStorageIDs"
  else if code = getStorageInfo then some "GetStorageInfo"
  else if code = getNumObjects then some "GetNumObjects"
  else if code = getObjectHandles then some "GetObjectHandles"
  else if code = vendorStatus then some "Sony 0x9201"
  else if code = vendorProperties then some "Sony 0x9202"
  else if code = recButton then some "Sony REC"
  else if code = vendorDescriptions then some "Sony 0x9209"
  else none

end Operation

namespace ResponseCode

def ok : UInt16 := 0x2001
def generalError : UInt16 := 0x2002
def operationNotSupported : UInt16 := 0x2005
def invalidParameter : UInt16 := 0x201D
def sessionAlreadyOpen : UInt16 := 0x201E

end ResponseCode

namespace RecButton

/-- First parameter of a full press; a half press, or any other, never moves the recording. -/
def fullPress : UInt32 := 0xD2C8

/-- First DATA byte that starts a recording. -/
def startByte : UInt8 := 0x02

/-- First DATA byte that stops a recording. -/
def stopByte : UInt8 := 0x01

end RecButton

end PictureTransfer
