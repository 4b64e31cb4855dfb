import PictureTransfer.Proofs.Standard.Ledger

/-!
# How the standard camera describes itself

The description goes out as a stream, one transfer at a time. Until another COMMAND or a reset
comes, each completion sends the next transfer of it, and then its RESPONSE. Nothing else is sent
meanwhile but a RESPONSE to each transfer that came in and is no COMMAND (`describes_in_order`).
Such a RESPONSE goes out at once, and so it can stand in the middle of the description
(`describes_interrupted`).
-/

namespace PictureTransfer.Standard

open Callback (collected)

/-- The transfer with a whole header that comes in with a callback. -/
def received? : Callback → Option Received
  | .outCompleted data => Received.ofBytes? data
  | _ => none

/-- The COMMAND that comes in with a callback. -/
def command? (x : Callback) : Option Received := (received? x).filter (·.isCommand)

/-- The RESPONSE to a transfer that comes in with a callback and holds no whole COMMAND. -/
def refusal? (x : Callback) : Option Bytes :=
  ((received? x).filter fun r => !r.isCommand).map fun r =>
    responseContainer ResponseCode.generalError r.tid

/-- Whether a run goes on without a reset and without a COMMAND, from the interface in use at its
start. -/
def uncut : UInt8 → List Callback → Bool
  | _, [] => true
  | interface, x :: rest =>
    !(x.resets interface || (command? x).isSome) && uncut (x.selects interface) rest

theorem uncut_append {interface : UInt8} {front back : List Callback} :
    uncut interface (front ++ back) =
      (uncut interface front && uncut (front.foldl Callback.selects interface) back) := by
  induction front generalizing interface with
  | nil => rfl
  | cons x rest ih => rw [List.cons_append, uncut, uncut, ih, Bool.and_assoc]; rfl

namespace Ledger

theorem entry_of_command {l : Ledger} {x : Callback} {r : Received}
    (command : command? x = some r) : l.entry x = l.onCommand r := by
  obtain ⟨received, whole⟩ := Option.filter_eq_some_iff.1 command
  cases x with
  | outCompleted data =>
    have received : Received.ofBytes? data = some r := received
    simp only [entry, received, if_pos whole]
  | _ => cases received

theorem interface_sessionAfter (l : Ledger) (r : Received) :
    (l.sessionAfter r).interface = l.session.interface := by
  rw [sessionAfter]
  split
  · cases opening r l.session <;> rfl
  · rfl

/-- The ledger knows the interface in use. -/
theorem interface_entry (l : Ledger) (x : Callback) :
    (l.entry x).after.session.interface = x.selects l.session.interface := by
  cases x with
  | busReset => rfl
  | interfaceOpened interface => rfl
  | control setup data =>
    rw [entry]
    cases setup.resets l.session.interface <;> rfl
  | outCompleted data =>
    rw [entry]
    split
    · next r _ =>
      split
      · exact l.interface_sessionAfter r
      · rfl
    · rfl
  | inCompleted ep =>
    rw [entry]
    split <;> rfl

/-- A callback that neither resets anything nor brings a COMMAND sends what is due when a transfer
is collected, and refuses what comes in. -/
theorem entry_of_uncut {l : Ledger} {x : Callback}
    (kept : (x.resets l.session.interface || (command? x).isSome) = false) :
    (l.entry x).sends = l.due.take (collected [x]) ++ (refusal? x).toList ∧
      (l.entry x).after.due = l.due.drop (collected [x]) := by
  obtain ⟨kept, other⟩ := Bool.or_eq_false_iff.1 kept
  cases x with
  | busReset => cases kept
  | interfaceOpened interface => exact ⟨rfl, rfl⟩
  | control setup data =>
    have kept : setup.resets l.session.interface = false := kept
    simp [entry, kept, collected, refusal?, received?]
  | outCompleted data =>
    cases received : Received.ofBytes? data with
    | none => simp [entry, received, collected, refusal?, received?]
    | some r =>
      -- a whole COMMAND would be a cut
      have command : r.isCommand = false := by
        simpa [command?, received?, received, Option.filter] using other
      simp [entry, received, collected, refusal?, received?, command, Option.filter]
  | inCompleted ep =>
    by_cases bulk : ep = Endpoint.bulkIn
    · simp [entry, bulk, collected, refusal?, received?]
    · simp [entry, bulk, collected, refusal?, received?]

theorem due_of_uncut {l : Ledger} {since : List Callback}
    (whole : uncut l.session.interface since) :
    (l.run since).due = l.due.drop (collected since) := by
  induction since generalizing l with
  | nil => rfl
  | cons x rest ih =>
    rw [uncut, Bool.and_eq_true, Bool.not_eq_true'] at whole
    obtain ⟨-, due⟩ := entry_of_uncut whole.1
    have later := @ih (l.entry x).after (l.interface_entry x ▸ whole.2)
    show ((l.entry x).after.run rest).due = _
    rw [later, due, Callback.collected_cons x rest, List.drop_drop]

/-- Where nothing is refused, what is due goes out, one transfer for each that is collected. -/
theorem sent_of_uncut {l : Ledger} {since : List Callback}
    (whole : uncut l.session.interface since) (accepted : ∀ x ∈ since, refusal? x = none) :
    l.sent since = l.due.take (collected since) := by
  induction since generalizing l with
  | nil => rfl
  | cons x rest ih =>
    rw [uncut, Bool.and_eq_true, Bool.not_eq_true'] at whole
    obtain ⟨first, others⟩ := List.forall_mem_cons.1 accepted
    obtain ⟨sends, due⟩ := entry_of_uncut whole.1
    have later := @ih (l.entry x).after (l.interface_entry x ▸ whole.2) others
    rw [sent, later, sends, first, due, Callback.collected_cons x rest, List.take_add]
    simp

theorem interface_run (l : Ledger) (callbacks : List Callback) :
    (l.run callbacks).session.interface = callbacks.foldl Callback.selects l.session.interface := by
  induction callbacks generalizing l with
  | nil => rfl
  | cons x rest ih =>
    show ((l.entry x).after.run rest).session.interface = _
    rw [ih, interface_entry]
    rfl

end Ledger

/-! ## Runs of the responder -/

/-- A COMMAND leaves the interface in use. -/
theorem selects_of_command {x : Callback} {r : Received} (command : command? x = some r)
    (interface : UInt8) : x.selects interface = interface := by
  obtain ⟨received, -⟩ := Option.filter_eq_some_iff.1 command
  cases x with
  | interfaceOpened opened => cases received
  | _ => rfl

/-- On every bus, from every state in which the camera is asked to describe itself, and as long as
no reset and no other COMMAND comes: the description begins at once, each completion hands the next
transfer of it to the bus, and the RESPONSE is the last of them. Between two of these nothing is
handed to the bus but the refusals of transfers that came in meanwhile, each when it came; where
there are none, the description and its RESPONSE are all that is sent. -/
theorem describes_in_order {β : Type} [Bus β] (a : Attached β Standard) {x : Callback}
    {r : Received} {since : List Callback} (command : command? x = some r)
    (describes : r.code = Operation.getDeviceInfo)
    (whole : uncut a.responder.session.interface since) :
    let transfers := containerTransfers (dataContainer r.code r.tid a.responder.deviceInfo)
      ++ [responseContainer ResponseCode.ok r.tid]
    a.handed [x] = (transfers.take 1).map (Endpoint.bulkIn, ·) ∧
    (∀ front y back, since = front ++ y :: back →
      (a.run (x :: front)).handed [y] = ((transfers.drop (1 + collected front)).take (collected [y])
        ++ (refusal? y).toList).map (Endpoint.bulkIn, ·)) ∧
    ∀ front back, since = front ++ back → (∀ y ∈ front, refusal? y = none) →
      a.handed (x :: front) = (transfers.take (1 + collected front)).map (Endpoint.bulkIn, ·) := by
  intro transfers
  have answers : a.responder.ledger.answerTo r = transfers := if_pos describes
  have entry : a.responder.ledger.entry x = a.responder.ledger.onCommand r :=
    Ledger.entry_of_command command
  have sends : (a.responder.ledger.entry x).sends = transfers.take 1 := by
    rw [entry, Ledger.onCommand, answers]
  have due : (a.responder.ledger.entry x).after.due = transfers.drop 1 := by
    rw [entry, Ledger.onCommand, answers]
  have interface : (a.responder.ledger.entry x).after.session.interface
      = a.responder.session.interface := by
    rw [Ledger.interface_entry, selects_of_command command]
    rfl
  refine ⟨?_, ?_, ?_⟩
  · rw [handed_eq, Ledger.sent, Ledger.sent, List.append_nil, sends]
  · rintro front y back rfl
    rw [← interface, uncut_append, Bool.and_eq_true, uncut, Bool.and_eq_true,
      Bool.not_eq_true'] at whole
    obtain ⟨before, here, -⟩ := whole
    -- what is due has lost its first transfers to the completions so far
    have left : (a.run (x :: front)).responder.ledger
        = (a.responder.ledger.entry x).after.run front := ledger_run a (x :: front)
    rw [← Ledger.interface_run] at here
    obtain ⟨next, -⟩ := Ledger.entry_of_uncut here
    rw [handed_eq, left, Ledger.sent, Ledger.sent, List.append_nil, next,
      Ledger.due_of_uncut before, due, List.drop_drop]
  · rintro front back rfl accepted
    rw [← interface, uncut_append, Bool.and_eq_true] at whole
    rw [handed_eq, Ledger.sent, Ledger.sent_of_uncut whole.1 accepted, sends, due, ← List.take_add]

/-- A standard camera on a bus that writes down what it is asked for. -/
def recorded : Attached Bus.Recorder Standard where
  bus := {}
  responder := { name := ⟨"Maker", "Model", "0001"⟩ }

/-- The transfers in which it describes itself, with the RESPONSE. -/
def description : List Bytes :=
  containerTransfers (dataContainer Operation.getDeviceInfo 7 recorded.responder.deviceInfo)
    ++ [responseContainer ResponseCode.ok 7]

/-- It is asked to describe itself. -/
def asked : Callback := .outCompleted (commandContainer Operation.getDeviceInfo 7 [])

/-- Where nothing comes in meanwhile, the description is sent whole. -/
theorem describes_recorded :
    command? asked = some ⟨12, 1, Operation.getDeviceInfo, 7, []⟩ ∧
      uncut 0 [.inCompleted Endpoint.bulkIn] = true ∧
      recorded.handed [asked, .inCompleted Endpoint.bulkIn]
        = description.map (Endpoint.bulkIn, ·) := by
  have command : command? asked = some ⟨12, 1, Operation.getDeviceInfo, 7, []⟩ := by decide
  refine ⟨command, rfl, ?_⟩
  have whole : uncut recorded.responder.session.interface [.inCompleted Endpoint.bulkIn] := rfl
  have sent := (describes_in_order recorded command rfl whole).2.2 [.inCompleted Endpoint.bulkIn] []
    rfl (List.forall_mem_singleton.2 rfl)
  rw [sent]
  decide +kernel

/-- DATA of the host that comes in behind the first transfer of the description is refused at once,
and so its RESPONSE stands in front of the one that ends the description. -/
theorem describes_interrupted :
    let data := dataContainer Operation.recButton 8 [2]
    let since := [.outCompleted data, .inCompleted Endpoint.bulkIn]
    uncut 0 since = true ∧
      recorded.handed (asked :: since)
        = [(Endpoint.bulkIn, dataContainer Operation.getDeviceInfo 7 recorded.responder.deviceInfo),
            (Endpoint.bulkIn, responseContainer ResponseCode.generalError 8),
            (Endpoint.bulkIn, responseContainer ResponseCode.ok 7)] ∧
      ¬recorded.handed (asked :: since) <+: description.map (Endpoint.bulkIn, ·) := by
  decide +kernel

end PictureTransfer.Standard
