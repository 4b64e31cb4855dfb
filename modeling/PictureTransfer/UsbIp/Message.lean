import PictureTransfer.Channel
import PictureTransfer.Descriptors
import PictureTransfer.Text.Numeral
import PictureTransfer.Text.Utf8

/-!
# USB/IP messages

A host first asks for the list of devices or imports one by its bus id. After an import the stream
carries URBs, the host's transfers, and the replies to them. All numbers are big-endian.
`Urb.length_of_read` says that an URB takes at least its header.
-/

namespace PictureTransfer.UsbIp

/-- The protocol version. -/
def version : UInt16 := 0x0111

/-- Why a connection ends. -/
inductive Error where
  | badVersion (version : UInt16)
  | unknownOp (code : UInt16)
  | unknownCommand (command : UInt32)
  | unknownBusId (requested exported : String)
  | badLength (length : UInt32)
  | closed
  | io (reason : String)
  deriving DecidableEq, Repr

namespace Error

def message : Error → String
  | badVersion v => "Unsupported USB/IP version " ++ hex16 v
  | unknownOp code => "Unknown operation " ++ hex16 code
  | unknownCommand command => "Unknown URB command 0x" ++ Bytes.hex 8 command.toNat
  | unknownBusId requested exported =>
    "Host asked for bus id '" ++ requested ++ "', exporting '" ++ exported ++ "'"
  | badLength length => "Transfer buffer length " ++ toString length.toNat ++ " is too large"
  | closed => "Connection closed"
  | io reason => "IO error: " ++ reason

/-- What a failed read means for a connection. -/
def ofFault : Fault → Error
  | .closed => closed
  | .reset => io "connection reset"
  | .timedOut => io "timed out"

/-- A write that was cut short. -/
def brokenPipe : Error := io "broken pipe"

end Error

/-- Reads some bytes from a connection. -/
def readBytes (n : Nat) : EStateM Error Source Bytes := fun s =>
  match Source.take n s with
  | .ok bytes s => .ok bytes s
  | .error fault s => .error (.ofFault fault) s

theorem length_of_readBytes {n : Nat} {s t : Source} {bytes : Bytes}
    (h : readBytes n s = .ok bytes t) : t.length + n = s.length := by
  unfold readBytes at h
  split at h
  · next taken u read =>
    simp only [EStateM.Result.ok.injEq] at h
    obtain ⟨rfl, rfl⟩ := h
    exact Source.length_of_take read
  · cases h

/-- The 16-bit number at an offset. -/
def word16At (bytes : Bytes) (i : Nat) : UInt16 :=
  UInt16.ofNat (Bytes.bigValue ((bytes.drop i).take 2))

/-- The 32-bit number at an offset. -/
def word32At (bytes : Bytes) (i : Nat) : UInt32 :=
  UInt32.ofNat (Bytes.bigValue ((bytes.drop i).take 4))

/-- A big-endian 16-bit number. -/
def put16 (v : UInt16) : Bytes := Bytes.big 2 v.toNat

/-- A big-endian 32-bit number. -/
def put32 (v : UInt32) : Bytes := Bytes.big 4 v.toNat

/-! ## Before the import -/

/-- What a host asks for first. -/
inductive OpRequest where
  | deviceList
  | import_ (busId : String)
  deriving DecidableEq, Repr

namespace OpRequest

/-- The bytes of a bus id, which ends at its first zero byte. -/
def busIdSize : Nat := 32

/-- The text in a field of fixed size: what stands before the first zero byte. -/
def fieldText (raw : Bytes) : String :=
  String.ofList (Text.Utf8.decodeLossy (raw.takeWhile (· ≠ 0)))

/-- Reads a request. The version is looked at before the operation. -/
def read : EStateM Error Source OpRequest := do
  let head ← readBytes 8
  let v := word16At head 0
  let code := word16At head 2
  if v ≠ version then throw (.badVersion v)
  else if code = 0x8005 then return .deviceList
  else if code = 0x8003 then
    let raw ← readBytes busIdSize
    return .import_ (fieldText raw)
  else throw (.unknownOp code)

end OpRequest

/-! ## After the import -/

/-- A transfer of the host, with its data if it goes to the device. -/
structure Submit where
  seqnum : UInt32
  devid : UInt32
  direction : UInt32
  ep : UInt32
  flags : UInt32
  length : UInt32
  interval : UInt32
  setup : Bytes
  data : Bytes
  deriving DecidableEq, Repr

namespace Submit

/-- Whether the transfer goes to the host. -/
def isIn (s : Submit) : Bool := s.direction = 1

/-- The endpoint address, with the bit for the direction. -/
def address (s : Submit) : UInt8 :=
  let number := (s.ep &&& 0x0F).toUInt8
  if s.isIn then number ||| 0x80 else number

end Submit

/-- A command of the host. -/
inductive Urb where
  | submit (s : Submit)
  | unlink (seqnum target : UInt32)
  deriving DecidableEq, Repr

namespace Urb

/-- The most data of one transfer to the device. -/
def maxData : UInt32 := 1048576

/-- The command and the four fields that all commands have. -/
def headSize : Nat := 20

/-- What follows them: the rest of a header of 48 bytes. -/
def bodySize : Nat := 28

/-- Reads a command. Data follows a transfer to the device and nothing else. -/
def read : EStateM Error Source Urb := fun s =>
  match readBytes headSize s with
  | .error e s => .error e s
  | .ok head s =>
    let command := word32At head 0
    let seqnum := word32At head 4
    if command = 1 then
      match readBytes bodySize s with
      | .error e s => .error e s
      | .ok body s =>
        let direction := word32At head 12
        let length := word32At body 4
        if maxData < length then .error (.badLength length) s
        else
          match readBytes (if direction = 0 then length.toNat else 0) s with
          | .error e s => .error e s
          | .ok data s =>
            .ok (.submit
              { seqnum, devid := word32At head 8, direction, ep := word32At head 16
                flags := word32At body 0, length, interval := word32At body 16
                setup := body.drop 20, data }) s
    else if command = 2 then
      match readBytes bodySize s with
      | .error e s => .error e s
      | .ok body s => .ok (.unlink seqnum (word32At body 0)) s
    else .error (.unknownCommand command) s

theorem length_of_read {s t : Source} {urb : Urb} (h : read s = .ok urb t) :
    t.length + 48 ≤ s.length := by
  unfold read at h
  split at h
  · cases h
  · next head s₁ first =>
    have := length_of_readBytes first
    dsimp only at h
    split at h
    · split at h
      · cases h
      · next body s₂ second =>
        have := length_of_readBytes second
        split at h
        · cases h
        · split at h
          · cases h
          · next data s₃ third =>
            have := length_of_readBytes third
            simp only [EStateM.Result.ok.injEq] at h
            obtain ⟨-, rfl⟩ := h
            simp only [headSize, bodySize] at *
            omega
    · split at h
      · split at h
        · cases h
        · next body s₂ second =>
          have := length_of_readBytes second
          simp only [EStateM.Result.ok.injEq] at h
          obtain ⟨-, rfl⟩ := h
          simp only [headSize, bodySize] at *
          omega
      · cases h

end Urb

/-! ## Replies -/

/-- The device as a host sees it before the import. -/
structure Exported where
  busId : String
  busnum : UInt32
  vid : UInt16
  pid : UInt16
  bcdDevice : UInt16
  deriving DecidableEq, Repr

namespace Exported

/-- A 32-bit decimal number, which may have a plus sign. -/
def parseNumber? (text : List Char) : Option UInt32 :=
  let digits := match text with
    | '+' :: rest => rest
    | _ => text
  let n := Text.Numeral.value 10 digits
  if !digits.isEmpty && digits.all (Text.Numeral.isDigit 10) && n < UInt32.size then
    some (UInt32.ofNat n)
  else none

/-- A device under a bus id. The bus number stands before the first hyphen of the id, and is one
if no number stands there. -/
def ofDescriptors (busId : String) (d : Descriptors) : Exported where
  busId := busId
  busnum := (parseNumber? (busId.toList.takeWhile (· ≠ '-'))).getD 1
  vid := d.vid
  pid := d.pid
  bcdDevice := d.bcdDevice

/-- The number of the device on its bus. -/
def devnum : UInt32 := 2

/-- Where the host's system would show the device. -/
def path (e : Exported) : String :=
  "/sys/devices/platform/ptpcam/usb" ++ toString e.busnum.toNat ++ "/" ++ e.busId

/-- Bus number and device number in one; the high bits of the bus number are lost. -/
def devid (e : Exported) : UInt32 := (e.busnum <<< 16) ||| devnum

/-- A text in a field of fixed size: cut so that a zero byte follows, and filled up with zeros. -/
def field (size : Nat) (text : String) : Bytes :=
  let kept := (Text.Utf8.encode text.toList).take (size - 1)
  kept ++ List.replicate (size - kept.length) 0

/-- The record of the device, full speed with one configuration and one interface. -/
def record (e : Exported) : Bytes :=
  field 256 e.path ++ field OpRequest.busIdSize e.busId ++ put32 e.busnum ++ put32 devnum
    ++ put32 2 ++ put16 e.vid ++ put16 e.pid ++ put16 e.bcdDevice
    ++ [0, 0, 0, Descriptors.configurationValue, 1, 1]

end Exported

/-- What the device writes to a host. -/
inductive Reply where
  | deviceList (device : Exported)
  | imported (device : Exported)
  | refused
  | submitted (seqnum : UInt32) (status : Int) (actual : UInt32) (data : Bytes)
  | unlinked (seqnum : UInt32) (status : Int)
  deriving DecidableEq, Repr

namespace Reply

/-- The status of a transfer on an endpoint that cannot be used. -/
def brokenPipe : Int := -32

/-- The status of an unlink that took back a transfer. -/
def connectionReset : Int := -104

/-- The head of a reply before URBs. -/
def opHead (code : UInt16) (status : UInt32) : Bytes := put16 version ++ put16 code ++ put32 status

/-- The head of a reply to an URB; its last three fields are zero. -/
def urbHead (command seqnum : UInt32) (status : Int) : Bytes :=
  put32 command ++ put32 seqnum ++ List.replicate 12 0
    ++ Bytes.big 4 (status % UInt32.size).toNat

/-- The reply on the wire. -/
def encode : Reply → Bytes
  | deviceList e =>
    let (cls, sub, proto) := stillImageClass
    opHead 0x0005 0 ++ put32 1 ++ e.record ++ [cls, sub, proto, 0]
  | imported e => opHead 0x0003 0 ++ e.record
  | refused => opHead 0x0003 1
  | submitted seqnum status actual data =>
    urbHead 3 seqnum status ++ put32 actual ++ List.replicate 20 0 ++ data
  | unlinked seqnum status => urbHead 4 seqnum status ++ List.replicate 24 0

end Reply

end PictureTransfer.UsbIp
