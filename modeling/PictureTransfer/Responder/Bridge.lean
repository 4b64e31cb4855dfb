import PictureTransfer.Relay.Link
import PictureTransfer.Responder

/-!
# The raw-proxy personality

Nothing is read into the host's transfers. Each goes to a relay, the relay's answer is collected up
to its end, and the transfers of the answer are sent to the host one after another, the next one
when the last one has been collected.
-/

namespace PictureTransfer

/-- The link to the relay, the most frames that are read for one transfer, the part of the answer
that has not been sent, and the number of the interface. -/
structure Bridge (L : Type) where
  link : L
  budget : Nat
  queue : List Bytes := []
  interface : UInt8 := 0
  deriving DecidableEq, Repr

namespace Bridge

variable {L : Type} [Relay.Link L]

/-- The budget where no other is set. -/
def defaultBudget : Nat := 8

/-- Reads up to so many frames and keeps the transfers in them. The answer ends at its last frame,
at a frame of another type, or when the link fails; a frame over the limit is passed over. -/
def collect : Nat → L → List Bytes × L
  | 0, link => ([], link)
  | n + 1, link =>
    match Relay.Link.receive link with
    | (.ok frame, link) =>
      if frame.kind? = some .rawIn then
        let (transfers, link) := collect n link
        (frame.payload :: transfers, link)
      else ([], link)
    | (.error (.frameTooLarge _ _), link) => collect n link
    | (.error _, link) => ([], link)

/-- Hands a transfer to the relay and collects the answer. -/
def forward (data : Bytes) (b : Bridge L) : Bridge L :=
  match Relay.Link.send (.rawOut data) b.link with
  | (.error _, link) => { b with link, queue := [] }
  | (.ok (), link) =>
    let (queue, link) := collect b.budget link
    { b with link, queue }

/-- Sends the next transfer of the answer, if there is one. -/
def sendNext (b : Bridge L) : Reaction (Bridge L) :=
  match b.queue with
  | [] => (b, [])
  | data :: rest =>
    ({ b with queue := rest }, [.report (.container .toHost "raw" data.length), .submit data])

/-- A transfer came in. It replaces what is left of the last answer, unless the relay is not
there. -/
def outCompleted (data : Bytes) (b : Bridge L) : Reaction (Bridge L) :=
  let seen : Reaction (Bridge L) := (b, [.report (.container .toDevice "raw" data.length)])
  let relayed := seen.andThen fun b =>
    if Relay.Link.isConnected b.link then (b.forward data).sendNext else (b, [])
  relayed.followedBy [.armOut]

def inCompleted (ep : UInt8) (b : Bridge L) : Reaction (Bridge L) :=
  if ep = Endpoint.bulkIn then b.sendNext else (b, [])

/-- Drops what is left of the answer. -/
def clear (b : Bridge L) : Bridge L := { b with queue := [] }

def busReset (b : Bridge L) : Bridge L × List Event := (b.clear, [.reset .bus])

def interfaceOpened (interface : UInt8) (b : Bridge L) : Reaction (Bridge L) :=
  ({ b.clear with interface }, [.report (.interfaceOpened interface), .armOut])

def control (view : Bus.View) (setup : Setup) (b : Bridge L) :
    Reaction (Bridge L) × ControlResponse :=
  let outcome := Control.outcome view setup b.interface
  let acted : Reaction (Bridge L) := (b, outcome.ops.map Action.request)
  if outcome.reset then
    (acted.andThen fun b => (b.clear, [.report (.reset .classRequest)]), outcome.response)
  else (acted, outcome.response)

instance : Responder (Bridge L) where
  busReset := busReset
  interfaceOpened _ := interfaceOpened
  control view setup _ := control view setup
  outCompleted _ := outCompleted
  inCompleted _ := inCompleted

end Bridge

end PictureTransfer
