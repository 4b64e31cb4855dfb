import PictureTransfer.Relay.Frame

/-!
# Links to a relay

The class `Link` is the device's end of a connection over which frames go to a relay and come back.
Two links stand in for a connection: one answers from a queue of frames, the other reads and writes
bytes.
-/

namespace PictureTransfer.Relay

/-- A link to a relay, which may be down and may fail at any call. -/
class Link (L : Type) where
  isConnected : L → Bool
  send : Frame → L → Except Error Unit × L
  receive : L → Except Error Frame × L

/-- A link that answers from a queue and keeps what it was given. An empty queue is a relay that
does not answer. -/
structure QueueLink where
  connected : Bool := false
  replies : List Frame := []
  sent : List Frame := []
  deriving DecidableEq, Repr

namespace QueueLink

def send (frame : Frame) (l : QueueLink) : Except Error Unit × QueueLink :=
  if l.connected then (.ok (), { l with sent := l.sent ++ [frame] }) else (.error .notConnected, l)

def receive (l : QueueLink) : Except Error Frame × QueueLink :=
  match l.replies with
  | [] => (.error .timeout, l)
  | frame :: rest => (.ok frame, { l with replies := rest })

/-- Queues a frame for the device. -/
def reply (frame : Frame) (l : QueueLink) : QueueLink :=
  { l with replies := l.replies ++ [frame] }

instance : Link QueueLink where
  isConnected := connected
  send := send
  receive := receive

end QueueLink

/-- A link over bytes: what the relay wrote and what the device wrote. -/
structure WireLink where
  connected : Bool := false
  incoming : Source := ⟨[], .timedOut⟩
  sent : Bytes := []
  deriving DecidableEq, Repr

namespace WireLink

def send (frame : Frame) (l : WireLink) : Except Error Unit × WireLink :=
  (.ok (), { l with sent := l.sent ++ frame.encode })

/-- Reads a frame of the size the device takes. -/
def receive (l : WireLink) : Except Error Frame × WireLink :=
  match Frame.read Frame.maxPayload l.incoming with
  | .ok frame incoming => (.ok frame, { l with incoming })
  | .error e incoming => (.error e, { l with incoming })

/-- The relay writes some bytes. -/
def push (bytes : Bytes) (l : WireLink) : WireLink :=
  { l with incoming := l.incoming.push bytes }

/-- What reading past the relay's bytes does from now on. -/
def endWith (fault : Fault) (l : WireLink) : WireLink :=
  { l with incoming := { l.incoming with ending := fault } }

instance : Link WireLink where
  isConnected := connected
  send := send
  receive := receive

end WireLink

end PictureTransfer.Relay
