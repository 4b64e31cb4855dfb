import PictureTransfer.Bytes

/-!
# Events

What a responder tells those who watch it: short status lines, containers on the bulk pipes,
resets, and the record button.
-/

namespace PictureTransfer

/-- What the record button did. -/
inductive RecKind where
  | start
  | stop
  deriving DecidableEq, Repr

namespace RecKind

def name : RecKind → String
  | start => "START"
  | stop => "STOP"

/-- Whether the camera records after the event. -/
def recording : RecKind → Bool
  | start => true
  | stop => false

end RecKind

/-- A recording started or stopped on the host's command. -/
structure RecEvent where
  kind : RecKind
  tid : UInt32
  payload : Bytes
  deriving DecidableEq, Repr

namespace RecEvent

/-- How many bytes of the host's DATA an event keeps. -/
def maxPayload : Nat := 5

/-- The event for the host's DATA. -/
def ofData (kind : RecKind) (tid : UInt32) (data : Bytes) : RecEvent :=
  ⟨kind, tid, data.take maxPayload⟩

/-- Whether the camera records after the event. -/
def recording (e : RecEvent) : Bool := e.kind.recording

end RecEvent

/-- Why the transaction state was dropped. -/
inductive ResetReason where
  | bus
  | classRequest
  deriving DecidableEq, Repr

def ResetReason.name : ResetReason → String
  | bus => "bus reset"
  | classRequest => "class RESET"

/-- Which way a container goes, as the host sees it. -/
inductive Direction where
  | toDevice
  | toHost
  deriving DecidableEq, Repr

def Direction.name : Direction → String
  | toDevice => "OUT"
  | toHost => "IN"

/-- An event of a responder. -/
inductive Event where
  | interfaceOpened (interface : UInt8)
  | reset (reason : ResetReason)
  | status (line : String)
  | container (direction : Direction) (summary : String) (length : Nat)
  | recording (event : RecEvent)
  deriving DecidableEq, Repr

end PictureTransfer
