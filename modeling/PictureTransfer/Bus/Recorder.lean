import PictureTransfer.Bus

/-!
# A bus that writes down what it is asked for

Nothing is delivered anywhere. The operations are kept in the order in which they came, and the
host side is played by halting endpoints and by going away.
-/

namespace PictureTransfer.Bus

/-- The operations so far, the halted endpoints, and whether the host is there. -/
structure Recorder where
  ops : List Op := []
  stalled : List UInt8 := []
  connected : Bool := true
  deriving DecidableEq, Repr

namespace Recorder

/-- Without a host no receive is armed and nothing is sent, and neither is written down. -/
def request (op : Op) (bus : Recorder) : Except Error Recorder :=
  match op with
  | .armOut .. | .submitIn .. =>
    if bus.connected then .ok { bus with ops := bus.ops ++ [op] } else .error .disconnected
  | .abortIn _ => .ok { bus with ops := bus.ops ++ [op] }
  | .clearStall ep =>
    .ok { bus with ops := bus.ops ++ [op], stalled := bus.stalled.filter (· ≠ ep) }

instance : Bus Recorder where
  view bus :=
    { connected := bus.connected, halted := bus.stalled.contains, queued := fun _ => 0 }
  request := request

/-- The host halts an endpoint. -/
def stall (ep : UInt8) (bus : Recorder) : Recorder :=
  { bus with stalled := ep :: bus.stalled }

/-- The host goes away. -/
def disconnect (bus : Recorder) : Recorder := { bus with connected := false }

/-- Forgets the operations. -/
def clear (bus : Recorder) : Recorder := { bus with ops := [] }

/-- The payloads sent to the host, in order. -/
def transfers (bus : Recorder) : List Bytes := bus.ops.filterMap Op.transfer?

/-- How many receives were armed. -/
def armCount (bus : Recorder) : Nat :=
  bus.ops.countP fun op => match op with
    | .armOut .. => true
    | _ => false

end Recorder

end PictureTransfer.Bus
