import PictureTransfer.Relay.Backend
import PictureTransfer.Relay.Frame

/-!
# The relay's side of a link

The relay reads frames from the device, answers each transfer of the host from its backend, and
marks the end of each answer.
-/

namespace PictureTransfer.Relay

/-- The backend, and how many answers have been written in full. -/
structure Client (B : Type) where
  backend : B
  exchanges : Nat := 0

namespace Client

variable {B : Type} [Backend B]

/-- The largest transfer of the host that is taken. -/
def maxRawOut : Nat := 65536

/-- An answer on the wire: one frame for each transfer, then the end. -/
def answer (transfers : List Bytes) : Bytes :=
  (transfers.map Frame.rawIn ++ [Frame.done]).flatMap Frame.encode

/-- Serves a link until the device closes it, which is no error, or until it fails. Frames other
than transfers of the host are passed over. -/
def run (c : Client B) (source : Source) (sink : Sink) : Except Error Unit × Client B × Sink :=
  match h : Frame.read maxRawOut source with
  | .error .closed _ => (.ok (), c, sink)
  | .error e _ => (.error e, c, sink)
  | .ok frame rest =>
    have _shorter := Frame.length_of_read h
    if frame.kind? = some .rawOut then
      let (transfers, backend) := Backend.exchange frame.payload c.backend
      match sink.write (answer transfers) with
      | (true, sink) => run { backend, exchanges := c.exchanges + 1 } rest sink
      | (false, sink) => (.error .brokenPipe, { c with backend }, sink)
    else run c rest sink
termination_by source.length
decreasing_by all_goals omega

end Client

end PictureTransfer.Relay
