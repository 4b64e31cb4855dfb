import PictureTransfer.Responder.Legacy

/-!
# Where a relay takes its answers from

The class `Backend` gives the transfers that answer one transfer of the host. `Emulated` takes them
from a legacy responder whose transfers are all collected at once.
-/

namespace PictureTransfer

namespace Legacy

/-- A bound on the transfers that completions can still bring forth. -/
def backlog (s : Legacy) : Nat :=
  match s.transaction with
  | .streaming stream => stream.remaining
  | _ => 0

/-- A completion brings forth at most one transfer, and takes it from the backlog. -/
theorem backlog_inCompleted (ep : UInt8) (s : Legacy) :
    ((s.inCompleted ep).2.filterMap Action.transfer?).length + (s.inCompleted ep).1.backlog
      ≤ s.backlog := by
  unfold inCompleted
  split
  · rcases s with ⟨session, transaction, recording, lastOp⟩
    cases transaction with
    | idle => simp [Transaction.inCompleted, backlog]
    | awaitingData op => simp [Transaction.inCompleted, backlog]
    | streaming stream =>
      simp only [Transaction.inCompleted]
      cases step : stream.next? with
      | some sent =>
        have := DataStream.remaining_of_next? step
        simp [backlog]
        omega
      | none =>
        cases owes : stream.owed with
        | none => simp [backlog]
        | some tid =>
          simp [respond, backlog, DataStream.remaining, List.filterMap_cons]
  · simp

end Legacy

namespace Relay

/-- Answers a transfer of the host with transfers for it; an empty one is a zero-length packet. -/
class Backend (B : Type) where
  exchange : Bytes → B → List Bytes × B

/-- A camera in the same process, with the events so far. -/
structure Emulated where
  responder : Legacy
  events : List Event := []
  deriving DecidableEq, Repr

namespace Emulated

/-- A camera whose interface has been opened. -/
def fresh : Emulated := { responder := (Legacy.interfaceOpened 0 {}).1 }

/-- Collects the waiting transfers and all that their completions bring forth. -/
def drain (s : Legacy) : List Bytes → List Bytes × Legacy × List Event
  | [] => ([], s, [])
  | transfer :: waiting =>
    let r := s.inCompleted Endpoint.bulkIn
    let (transfers, last, events) := drain r.1 (waiting ++ r.2.filterMap Action.transfer?)
    (transfer :: transfers, last, r.2.filterMap Action.event? ++ events)
termination_by waiting => waiting.length + s.backlog
decreasing_by
  have := s.backlog_inCompleted Endpoint.bulkIn
  simp only [List.length_append, List.length_cons]
  omega

/-- Hands a transfer to the camera and collects the whole answer. -/
def exchange (out : Bytes) (e : Emulated) : List Bytes × Emulated :=
  let r := e.responder.outCompleted out
  let (transfers, responder, events) := drain r.1 (r.2.filterMap Action.transfer?)
  (transfers,
   { responder, events := e.events ++ r.2.filterMap Action.event? ++ events })

instance : Backend Emulated where
  exchange := exchange

end Emulated

end Relay

end PictureTransfer
