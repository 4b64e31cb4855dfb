import PictureTransfer.Camera.Port
import PictureTransfer.Relay.Backend
import PictureTransfer.Relay.Translator

/-!
# A relay to a real camera

`CameraRelay` answers the host from a camera behind a port. A transfer of the host is rebuilt for
the camera, and the containers that come back are rebuilt for the host and cut into transfers. At
most `readBudget` containers are taken for one transfer, and none after a RESPONSE.
-/

namespace PictureTransfer.Relay

open Camera (Port)

/-- A camera and the translation under way. -/
structure CameraRelay (P : Type) where
  port : P
  translator : Translator

namespace CameraRelay

variable {P : Type} [Port P]

/-- Containers taken from the camera for one transfer of the host. -/
def readBudget : Nat := 8

/-- How long a container may take, in milliseconds. After a COMMAND the camera may be waiting for
DATA, so the wait is short. -/
def patience : Stage → Nat
  | .command => 200
  | .data => 4000

/-- Takes containers from the camera up to a RESPONSE, a failure or the end of the budget, and gives
the transfers for the host. -/
def collect (request : Request) : Nat → CameraRelay P → List Bytes × CameraRelay P
  | 0, r => ([], r)
  | budget + 1, r =>
    match Port.receive (patience request.stage) r.port with
    | .error _ port => ([], { r with port })
    | .ok container port =>
      match r.translator.toHost container request with
      | (.error _, translator) => ([], { port, translator })
      | (.ok (kind, reply), translator) =>
        let transfers := containerTransfers reply
        if kind = .response then (transfers, { port, translator })
        else
          let (more, last) := collect request budget { port, translator }
          (transfers ++ more, last)

/-- Hands a transfer of the host to the camera and collects the answer. -/
def exchange (out : Bytes) (r : CameraRelay P) : List Bytes × CameraRelay P :=
  match r.translator.toCamera out with
  | (.error _, translator) | (.ok none, translator) => ([], { r with translator })
  | (.ok (some request), translator) =>
    match Port.send request.container r.port with
    | .error _ port => ([], { port, translator })
    | .ok () port => collect request readBudget { port, translator }

instance : Backend (CameraRelay P) where
  exchange := exchange

/-- A relay to a camera that no session is open with any more. -/
def start (layout : ReplyLayout) (port : P) : CameraRelay P :=
  match (Port.closeStaleSession : Camera.Use P Unit) port with
  | .ok () port | .error _ port => { port, translator := { replyLayout := layout } }

end CameraRelay

end PictureTransfer.Relay
