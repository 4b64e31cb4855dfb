import PictureTransfer.Proofs.Legacy.Ledger

/-!
# The answers of the legacy responder

A run of callbacks is cut at each COMMAND and at each reset. `answer` says, from the COMMAND that
opens a segment and the callbacks since, which transfers the segment has sent; a segment that no
COMMAND opens sends nothing. `submissions_by_segment` states this for every run on every bus that
takes transfers of up to 512 bytes.
-/

namespace PictureTransfer

namespace Callback

/-- Whether a run is cut at a callback, for a responder that owns the given interface. -/
def cuts (interface : UInt8) (x : Callback) : Bool := x.resets interface || x.command?.isSome

/-- Whether a run goes on without a cut, from the interface in use at its start. -/
def uncut : UInt8 → List Callback → Bool
  | _, [] => true
  | interface, x :: rest => !x.cuts interface && uncut (x.selects interface) rest

end Callback

namespace Legacy

open Callback

/-- The transfers sent for a COMMAND and the callbacks since, none of which is a cut. -/
def answer (c : Container) (since : List Callback) : List Bytes :=
  let code := c.header.code
  let tid := c.header.tid
  match Catalog.lookup code with
  | some payload =>
    let transfers := containerTransfers (dataContainer code tid payload)
      ++ [responseContainer ResponseCode.ok tid]
    transfers.take (min (1 + collected since) transfers.length)
  | none =>
    if code = Operation.openSession ∨ code = Operation.closeSession then
      [responseContainer ResponseCode.ok tid]
    else if code = Operation.recButton then
      if since.any (isDataFor code tid) then [responseContainer ResponseCode.ok tid] else []
    else [responseContainer ResponseCode.operationNotSupported tid]

namespace Ledger

theorem ignored_of_foreign {l : Ledger} {x : Callback} {op : PendingOp}
    (pending : l.pending = some op) (foreign : x.isDataFor op.code op.tid = false) (c : Container)
    (data : x.data? = some c) : l.onData c = ⟨l, [], []⟩ := by
  apply onData_of_foreign pending
  intro same
  rw [isDataFor_iff.2 ⟨c, data, same.1.symm, same.2.symm⟩] at foreign
  cases foreign

/-- A callback that is no cut and brings no DATA that counts sends what is due when a transfer is
collected, and nothing else. -/
theorem entry_of_uncut {l : Ledger} {x : Callback} (uncut : x.cuts l.interface = false)
    (ignored : ∀ c, x.data? = some c → l.onData c = ⟨l, [], []⟩) :
    l.entry x = ⟨{ l with
        due := l.due.drop (collected [x])
        interface := x.selects l.interface }, l.due.take (collected [x]), []⟩ := by
  obtain ⟨kept, silent⟩ := Bool.or_eq_false_iff.1 uncut
  cases x with
  | busReset => cases kept
  | interfaceOpened interface => rfl
  | control setup data =>
    have kept : setup.resets l.interface = false := kept
    simp [entry, kept, collected, selects]
  | outCompleted data =>
    cases classified : Container.classify data with
    | error e =>
      rw [entry_of_error classified]
      rfl
    | ok c =>
      have container := container?_eq_some.2 ⟨data, rfl, classified⟩
      rw [entry_of_ok classified]
      -- a COMMAND would be a cut, and DATA is ignored
      cases kind : c.header.kind with
      | command =>
        rw [command?_eq_some.2 ⟨container, kind⟩] at silent
        cases silent
      | data =>
        rw [ignored c (data?_eq_some.2 ⟨container, kind⟩)]
        rfl
      | response => rfl
      | event => rfl
  | inCompleted ep =>
    by_cases bulk : ep = Endpoint.bulkIn
    · subst bulk
      rfl
    · simp [entry, bulk, collected, selects]

/-- Without a cut the transfers that are due go out, one for each that is collected. -/
theorem sent_of_uncut {l : Ledger} {since : List Callback} (uncut : uncut l.interface since)
    (pending : l.pending = none) : l.sent since = l.due.take (collected since) := by
  induction since generalizing l with
  | nil => rfl
  | cons x rest ih =>
    rw [Callback.uncut, Bool.and_eq_true, Bool.not_eq_true'] at uncut
    have later := ih
      (l := { l with due := l.due.drop (collected [x]), interface := x.selects l.interface })
      uncut.2 pending
    rw [sent, entry_of_uncut uncut.1 fun c _ => onData_of_none pending c, later,
      collected_cons x rest, List.take_add]

theorem entry_of_own {l : Ledger} {x : Callback} {op : PendingOp} (pending : l.pending = some op)
    (own : x.isDataFor op.code op.tid = true) :
    (l.entry x).sends = [responseContainer ResponseCode.ok op.tid] ∧
      (l.entry x).after.due = l.due ∧ (l.entry x).after.pending = none := by
  obtain ⟨c, data, code, tid⟩ := isDataFor_iff.1 own
  rw [entry_of_data data]
  simp [onData, pending, code, tid]

/-- Without a cut an operation that waits for DATA is answered once, when its DATA comes in. -/
theorem sent_of_waiting {l : Ledger} {since : List Callback} {op : PendingOp}
    (uncut : uncut l.interface since) (pending : l.pending = some op) (due : l.due = []) :
    l.sent since = if since.any (isDataFor op.code op.tid) then
      [responseContainer ResponseCode.ok op.tid] else [] := by
  induction since generalizing l with
  | nil => rfl
  | cons x rest ih =>
    rw [Callback.uncut, Bool.and_eq_true, Bool.not_eq_true'] at uncut
    -- its DATA ends the wait, and nothing is due behind the RESPONSE
    cases own : x.isDataFor op.code op.tid with
    | true =>
      obtain ⟨sends, after_due, after_pending⟩ := entry_of_own pending own
      rw [sent, sends, sent_of_uncut (interface_entry l x ▸ uncut.2) after_pending, after_due, due]
      simp [own]
    | false =>
      rw [sent, entry_of_uncut uncut.1 (ignored_of_foreign pending own), due, List.take_nil,
        List.drop_nil, List.nil_append, List.any_cons, own, Bool.false_or]
      exact ih (l := { l with due := [], interface := x.selects l.interface }) uncut.2 pending rfl

/-- What a COMMAND and the callbacks since have sent. -/
theorem sent_of_command {l : Ledger} {x : Callback} {c : Container} {since : List Callback}
    (command : x.command? = some c) (uncut : uncut l.interface since) :
    l.sent (x :: since) = answer c since := by
  rw [sent, entry_of_command command]
  show (answerTo c).take 1 ++ sent since (l.onCommand c).after = _
  unfold answer
  -- only the record button waits for DATA, every other COMMAND is answered from what is due
  by_cases press : c.header.code = Operation.recButton
  · have waits : (l.onCommand c).after.pending
        = some ⟨c.header.code, c.header.tid, c.param0⟩ := if_pos press
    have nothing : (l.onCommand c).after.due = [] := by
      show (answerTo c).drop 1 = []
      rw [answerTo_of_recButton press, List.drop_nil]
    have apart : ¬(c.header.code = Operation.openSession ∨
        c.header.code = Operation.closeSession) := by
      rw [press]
      decide
    rw [answerTo_of_recButton press, List.take_nil, List.nil_append,
      sent_of_waiting (l := (l.onCommand c).after) uncut waits nothing]
    simp only [lookup_eq_none (.inr (.inr press)), if_neg apart, if_pos press]
  · have idle : (l.onCommand c).after.pending = none := if_neg press
    rw [sent_of_uncut (l := (l.onCommand c).after) uncut idle]
    show (answerTo c).take 1 ++ ((answerTo c).drop 1).take (collected since) = _
    rw [← List.take_add]
    cases found : Catalog.lookup c.header.code with
    | some payload =>
      rw [answerTo_of_lookup found, List.take_eq_take_min]
      simp only [found]
    | none =>
      have whole : ∀ response : Bytes, [response].take (1 + collected since) = [response] := by
        intro response
        exact List.take_of_length_le (Nat.le_add_right 1 _)
      by_cases session : c.header.code = Operation.openSession ∨
          c.header.code = Operation.closeSession
      · rw [answerTo_of_session session, whole]
        simp only [found, if_pos session]
      · rw [answerTo_of_unknown found session press, whole]
        simp only [found, if_neg session, if_neg press]

end Ledger

/-! ## Runs of the responder -/

variable {β : Type} [Bus β]

/-- A responder that nothing has happened to. -/
def attachedTo (bus : β) : Attached β Legacy := { bus, responder := {} }

/-- The ledger knows the interface in use. -/
theorem Ledger.interface_run (l : Ledger) (callbacks : List Callback) :
    (l.run callbacks).interface = callbacks.foldl selects l.interface := by
  induction callbacks generalizing l with
  | nil => rfl
  | cons x rest ih =>
    show ((l.entry x).after.run rest).interface = _
    rw [ih, interface_entry]
    rfl

/-- On every bus that takes transfers of up to 512 bytes, and for every run: a segment that no
COMMAND opens sends nothing, and a segment that a COMMAND opens has sent the answer to it. -/
theorem submissions_by_segment {bus : β} (accepting : Bus.Accepting bus) :
    (∀ since, uncut 0 since → (attachedTo bus).submissions since = []) ∧
    (∀ before x since, x.resets (lastInterface before) →
      uncut (lastInterface (before ++ [x])) since →
      ((attachedTo bus).run before).submissions (x :: since) = []) ∧
    (∀ before x c since, x.command? = some c → uncut (lastInterface before) since →
      ((attachedTo bus).run before).submissions (x :: since)
        = (answer c since).map Submission.bulkIn) := by
  have interface : ∀ before, ((attachedTo bus).run before).responder.ledger.interface
      = lastInterface before := by
    intro before
    rw [ledger_run, Ledger.interface_run]
    rfl
  have taken : ∀ before callbacks, ((attachedTo bus).run before).submissions callbacks
      = (((attachedTo bus).run before).responder.ledger.sent callbacks).map Submission.bulkIn := by
    intro before callbacks
    exact submissions_eq (Attached.accepting_run accepting before) callbacks
  refine ⟨?_, ?_, ?_⟩
  · intro since uncut
    have start := taken [] since
    rw [Attached.run_nil, Ledger.sent_of_uncut uncut rfl] at start
    rw [start]
    exact congrArg _ List.take_nil
  · intro before x since resets uncut
    -- the segment begins with an empty ledger, so that nothing is due in it
    rw [← interface] at resets
    have cleared := Ledger.entry_of_resets resets
    rw [lastInterface_concat, ← interface, ← Ledger.interface_entry, cleared] at uncut
    rw [taken, Ledger.sent, cleared, Ledger.sent_of_uncut uncut rfl]
    exact congrArg _ List.take_nil
  · intro before x c since command uncut
    rw [← interface] at uncut
    rw [taken, Ledger.sent_of_command command uncut]

/-- A full press of the record button, as a COMMAND in the shortest layout. -/
def fullPress : Bytes := [0, 1, 0, 0x07, 0x92, 7, 0, 0, 0, 0xC8, 0xD2, 0, 0]

/-- The DATA that starts the recording in the same transaction. -/
def startPressed : Bytes := [0, 2, 0, 0x07, 0x92, 7, 0, 0, 0, 0x02]

/-- On endpoint queues a press of the record button is answered once, at its DATA. -/
theorem submissions_of_press :
    ((attachedTo ({} : Bus.Endpoints)).run [.interfaceOpened 0]).submissions
      [.outCompleted fullPress, .inCompleted Endpoint.bulkIn, .outCompleted startPressed]
      = [Submission.bulkIn (responseContainer ResponseCode.ok 7)] :=
  (submissions_by_segment (Bus.Endpoints.accepting {})).2.2 [.interfaceOpened 0]
    (.outCompleted fullPress) ⟨.pad1, ⟨.command, Operation.recButton, 7⟩, [0xC8, 0xD2, 0, 0]⟩
    [.inCompleted Endpoint.bulkIn, .outCompleted startPressed] (by decide) (by decide)

end Legacy

end PictureTransfer
