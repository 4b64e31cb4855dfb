import PictureTransfer.Bus
import PictureTransfer.Container.Transfers

/-!
# Endpoint queues

The bus behind an exported device. IN transfers wait, endpoint by endpoint and in order, until the
host collects them, and one receive may be armed for the host's next OUT transfer.
-/

namespace PictureTransfer.Bus

/-- The size of the armed receive, the IN transfers that wait, each with its endpoint and in the
order in which they came, and the halted endpoints. -/
structure Endpoints where
  armed : Option Nat := none
  waiting : List (UInt8 × Bytes) := []
  stalled : List UInt8 := []
  deriving DecidableEq, Repr

namespace Endpoints

/-- The transfers that wait on an endpoint, the next one first. -/
def queue (bus : Endpoints) (ep : UInt8) : List Bytes :=
  (bus.waiting.filter (·.1 = ep)).map (·.2)

/-- How many transfers wait on an endpoint. -/
def queued (bus : Endpoints) (ep : UInt8) : Nat := (bus.queue ep).length

/-- A transfer longer than the device can send at once is refused; all else is done. -/
def request (op : Op) (bus : Endpoints) : Except Error Endpoints :=
  match op with
  | .armOut _ size => .ok { bus with armed := some size }
  | .submitIn ep data =>
    if transferSize < data.length then .error (.tooLarge ep data.length transferSize)
    else .ok { bus with waiting := bus.waiting ++ [(ep, data)] }
  | .abortIn ep => .ok { bus with waiting := bus.waiting.filter (·.1 ≠ ep) }
  | .clearStall ep => .ok { bus with stalled := bus.stalled.filter (· ≠ ep) }

instance : Bus Endpoints where
  view bus := { connected := true, halted := bus.stalled.contains, queued := bus.queued }
  request := request

/-- Uses up the armed receive. -/
def disarm (bus : Endpoints) : Endpoints := { bus with armed := none }

/-- Takes the transfer that waits longest on an endpoint. -/
def pop? (bus : Endpoints) (ep : UInt8) : Option (Bytes × Endpoints) :=
  (bus.queue ep).head?.map fun data =>
    (data, { bus with waiting := bus.waiting.eraseP (·.1 = ep) })

end Endpoints

end PictureTransfer.Bus
