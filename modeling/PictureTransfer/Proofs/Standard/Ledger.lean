import PictureTransfer.Proofs.Transaction
import PictureTransfer.Responder.Standard

/-!
# The ledger of the standard responder

A run of the standard responder shows of its state its name, its session and what it still owes its
host. `Ledger` holds these, and `Ledger.entry` says what a callback makes of them and what is sent
at it. The responder keeps such a ledger at every callback, whatever its bus looks like
(`entry_ledger`), and all it does to the bus is regular (`forward_reaction`).
-/

namespace PictureTransfer

namespace Standard

open PictureTransfer.Action (Forward Silent)

/-! ## What is owed -/

/-- The session that an OpenSession opens, or the code with which it fails. -/
def opening (r : Received) (session : Session) : Except UInt16 UInt32 :=
  if session.isOpen then .error ResponseCode.sessionAlreadyOpen
  else match r.param0? with
    | none => .error ResponseCode.invalidParameter
    | some id => if id = 0 then .error ResponseCode.invalidParameter else .ok id

/-- The camera's name and session, and the transfers that completions still bring forth. -/
structure Ledger where
  name : CameraName
  session : Session := {}
  due : List Bytes := []
  deriving DecidableEq, Repr

def ledger (s : Standard) : Ledger :=
  { name := s.name, session := s.session, due := s.transaction.due }

namespace Ledger

/-- What a callback makes of a ledger, and what is sent at it. -/
structure Entry where
  after : Ledger
  sends : List Bytes := []
  deriving DecidableEq, Repr

/-- All transfers that answer a COMMAND which nothing interrupts. -/
def answerTo (l : Ledger) (r : Received) : List Bytes :=
  if r.code = Operation.getDeviceInfo then
    containerTransfers (dataContainer r.code r.tid (deviceInfo { name := l.name }))
      ++ [responseContainer ResponseCode.ok r.tid]
  else if r.code = Operation.openSession then
    match opening r l.session with
    | .ok _ => [responseContainer ResponseCode.ok r.tid]
    | .error code => [responseContainer code r.tid]
  else [responseContainer ResponseCode.operationNotSupported r.tid]

/-- The session after a COMMAND. -/
def sessionAfter (l : Ledger) (r : Received) : Session :=
  if r.code = Operation.openSession then
    match opening r l.session with
    | .ok id => { l.session with id := some id }
    | .error _ => l.session
  else l.session

/-- A COMMAND drops what was owed and is answered. -/
def onCommand (l : Ledger) (r : Received) : Entry :=
  { after := { l with session := l.sessionAfter r, due := (l.answerTo r).drop 1 }
    sends := (l.answerTo r).take 1 }

/-- The session has ended, and nothing is owed any more. -/
def cleared (l : Ledger) : Ledger := { l with session := { l.session with id := none }, due := [] }

/-- What happens at a callback. -/
def entry (l : Ledger) : Callback → Entry
  | .busReset => ⟨{ l with session := l.session.busReset, due := [] }, []⟩
  | .interfaceOpened interface => ⟨{ l with session := l.session.openInterface interface }, []⟩
  | .control setup _ => ⟨if setup.resets l.session.interface then l.cleared else l, []⟩
  | .outCompleted data =>
    match Received.ofBytes? data with
    | some r =>
      if r.isCommand then l.onCommand r
      else ⟨l, [responseContainer ResponseCode.generalError r.tid]⟩
    | none => ⟨l, []⟩
  | .inCompleted ep =>
    if ep = Endpoint.bulkIn then ⟨{ l with due := l.due.drop 1 }, l.due.take 1⟩ else ⟨l, []⟩

end Ledger

/-! ## The responder keeps its ledger -/

/-- What a reaction makes of the ledger, and what it sends. -/
def entryOf (r : Reaction Standard) : Ledger.Entry :=
  { after := r.1.ledger, sends := r.2.filterMap Action.transfer? }

/-- Actions in front of a reaction that send nothing do not show in its entry. -/
theorem entryOf_andThen {s : Standard} {actions : List Action}
    {next : Standard → Reaction Standard} (silent : actions.filterMap Action.transfer? = []) :
    entryOf (Reaction.andThen (s, actions) next) = entryOf (next s) := by
  simp [entryOf, Reaction.andThen, List.filterMap_append, silent]

theorem entryOf_followedBy_armOut (r : Reaction Standard) :
    entryOf (r.followedBy [.armOut]) = entryOf r := by
  simp [entryOf, Reaction.followedBy, List.filterMap_append, Action.armOut, Action.transfer?,
    Bus.Op.transfer?]

theorem entryOf_respond (s : Standard) (code : UInt16) (tid : UInt32) :
    entryOf (s, respond code tid) = ⟨s.ledger, [responseContainer code tid]⟩ := rfl

/-- A completion sends the next transfer that is due. -/
theorem entryOf_inCompleted (s : Standard) :
    entryOf (s.inCompleted Endpoint.bulkIn)
      = ⟨{ s.ledger with due := s.ledger.due.drop 1 }, s.ledger.due.take 1⟩ := by
  obtain ⟨sends, due⟩ := s.transaction.sends_inCompleted
  have owed : s.ledger.due = s.transaction.due := rfl
  rw [inCompleted, if_pos rfl, owed, ← sends, ← due]
  rcases s.transaction.inCompleted with ⟨completion, transaction⟩
  cases completion with
  | none => rfl
  | sent transfer => rfl
  | finished op tid => cases tid <;> rfl

theorem openSession_eq (r : Received) (s : Standard) :
    s.openSession r = match opening r s.session with
      | .ok id =>
        ({ s with session := { s.session with id := some id } }, respond ResponseCode.ok r.tid)
      | .error code => (s, respond code r.tid) := by
  rw [openSession, opening]
  split
  · rfl
  · cases r.param0? with
    | none => rfl
    | some id => by_cases zero : id = 0 <;> simp [zero]

/-- OpenSession is answered with one RESPONSE. -/
theorem entryOf_openSession {s : Standard} (idle : s.transaction = .idle) {r : Received}
    (opens : r.code = Operation.openSession) :
    entryOf (s.openSession r) = s.ledger.onCommand r := by
  have apart : r.code ≠ Operation.getDeviceInfo := by
    rw [opens]
    decide
  have same : s.ledger.session = s.session := rfl
  have nothing : s.transaction.due = [] := by rw [idle]; rfl
  rw [openSession_eq, Ledger.onCommand, Ledger.answerTo, Ledger.sessionAfter, if_neg apart,
    if_pos opens, if_pos opens, same]
  cases opening r s.session <;> simp [entryOf_respond, ledger, nothing]

/-- GetDeviceInfo starts a stream. -/
theorem entryOf_describe {s : Standard} (idle : s.transaction = .idle) {r : Received}
    (describes : r.code = Operation.getDeviceInfo) :
    entryOf (match s.transaction.startStream r.code r.tid s.deviceInfo true with
      | .ok (transfer, transaction) => ({ s with transaction }, [.submit transfer])
      | .error _ => (s, respond ResponseCode.generalError r.tid)) = s.ledger.onCommand r := by
  have other : r.code ≠ Operation.openSession := by
    rw [describes]
    decide
  have described : deviceInfo { name := s.ledger.name } = deviceInfo s := rfl
  rw [Ledger.onCommand, Ledger.answerTo, Ledger.sessionAfter, if_pos describes, if_neg other,
    described]
  split
  · next transfer transaction started =>
    -- what the stream sends first and what it then owes are the transfers of its container
    obtain ⟨whole, -, -⟩ := Transaction.due_of_startStream started
    rw [← whole]
    rfl
  · next refused =>
    rw [idle] at refused
    cases refused

theorem entryOf_onCommand (s : Standard) (r : Received) :
    entryOf (s.onCommand r) = s.ledger.onCommand r := by
  have silent := s.transaction.silent_superseded.transfers
  -- what was under way is dropped without a trace, and the cases are those of `answerTo`
  rw [onCommand, entryOf_andThen silent]
  by_cases describes : r.code = Operation.getDeviceInfo
  · rw [if_pos describes]
    exact @entryOf_describe { s with transaction := .idle } rfl r describes
  · rw [if_neg describes]
    by_cases opens : r.code = Operation.openSession
    · rw [if_pos opens, entryOf_openSession rfl opens]
      rfl
    · rw [if_neg opens, entryOf_respond, Ledger.onCommand, Ledger.answerTo, Ledger.sessionAfter,
        if_neg describes, if_neg opens, if_neg opens]
      rfl

theorem entryOf_control (view : Bus.View) (setup : Setup) (s : Standard) :
    entryOf (s.control view setup).1
      = ⟨if setup.resets s.session.interface then s.ledger.cleared else s.ledger, []⟩ := by
  have silent := (Action.silent_control view setup s.session.interface).transfers
  simp only [control, Control.reset_outcome]
  cases setup.resets s.session.interface with
  | true =>
    rw [if_pos rfl, if_pos rfl, entryOf_andThen silent]
    rfl
  | false =>
    rw [if_neg Bool.false_ne_true, if_neg Bool.false_ne_true, entryOf, silent]

/-- The responder keeps its ledger at every callback. -/
theorem entry_ledger (view : Bus.View) (x : Callback) (s : Standard) :
    entryOf (Responder.reaction view x s) = s.ledger.entry x := by
  cases x with
  | busReset => rfl
  | interfaceOpened interface => rfl
  | control setup data => exact entryOf_control view setup s
  | outCompleted data =>
    show entryOf (s.outCompleted data) = _
    rw [outCompleted, entryOf_followedBy_armOut, Ledger.entry]
    cases Received.ofBytes? data with
    | none => rfl
    | some r =>
      dsimp only
      rw [onReceived, entryOf_andThen rfl]
      by_cases command : r.isCommand = true
      · rw [if_pos command, if_pos command]
        exact entryOf_onCommand s r
      · rw [if_neg command, if_neg command]
        rfl
  | inCompleted ep =>
    show entryOf (s.inCompleted ep) = _
    by_cases bulk : ep = Endpoint.bulkIn
    · subst bulk
      exact entryOf_inCompleted s
    · rw [inCompleted, if_neg bulk, Ledger.entry, if_neg bulk]
      rfl

/-! ## The responder keeps its bus in order -/

theorem plain_respond (code : UInt16) (tid : UInt32) : ∀ x ∈ respond code tid, x.Plain :=
  List.forall_mem_singleton.2 (.submit _ (length_responseContainer_le code tid))

/-- The answer to a COMMAND, once what was under way is dropped. -/
theorem actions_onCommand (s : Standard) (r : Received) :
    ∃ back, (s.onCommand r).2 = s.transaction.superseded.map Action.request ++ back ∧
      ∀ x ∈ back, x.Plain := by
  refine ⟨_, rfl, ?_⟩
  dsimp only
  split
  · split
    · next started =>
      obtain ⟨-, fits, -⟩ := Transaction.due_of_startStream started
      exact List.forall_mem_singleton.2 (.submit _ fits)
    · exact plain_respond _ _
  · split
    · rw [openSession_eq]
      split <;> exact plain_respond _ _
    · exact plain_respond _ _

theorem forward_onCommand (s : Standard) (r : Received) : Forward (s.onCommand r).2 := by
  obtain ⟨back, actions, plain⟩ := s.actions_onCommand r
  rw [actions]
  exact (Action.forward_of_plain plain).after s.transaction.silent_superseded

theorem plain_inCompleted (s : Standard) (ep : UInt8) : ∀ x ∈ (s.inCompleted ep).2, x.Plain := by
  have short : ∀ data ∈ s.transaction.inCompleted.1.sends, data.length ≤ transferSize :=
    fun data => Transaction.length_le_of_mem_sends
  rw [inCompleted]
  split
  · generalize s.transaction.inCompleted = outcome at short ⊢
    obtain ⟨completion, transaction⟩ := outcome
    cases completion with
    | none => exact List.forall_mem_nil _
    | sent transfer => exact List.forall_mem_singleton.2 (.submit _ (short _ List.mem_cons_self))
    | finished op tid =>
      cases tid with
      | none => exact List.forall_mem_nil _
      | some tid => exact plain_respond _ _
  · exact List.forall_mem_nil _

theorem forward_control (view : Bus.View) (setup : Setup) (s : Standard) :
    Forward (s.control view setup).1.2 := by
  have acts := Action.silent_control view setup s.session.interface
  unfold control
  dsimp only
  split
  · exact (Action.forward_of_plain (List.forall_mem_singleton.2 (.report _))).after acts
  · exact Action.forward_of_silent acts

/-- Whatever the callback, the responder sends at most `transferSize` bytes at a time, and on bulk
IN only, and it drops nothing that it has just sent. -/
theorem forward_reaction (view : Bus.View) (x : Callback) (s : Standard) :
    Forward (Responder.reaction view x s).2 := by
  cases x with
  | busReset =>
    apply Action.forward_of_plain
    intro y hy
    obtain ⟨event, -, rfl⟩ := List.mem_map.1 hy
    exact .report event
  | interfaceOpened interface =>
    apply Action.forward_of_plain
    exact List.forall_mem_cons.2 ⟨.report _, List.forall_mem_singleton.2 .armOut⟩
  | control setup data => exact forward_control view setup s
  | outCompleted data =>
    refine Forward.before ?_ (List.forall_mem_singleton.2 .armOut)
    split
    · next r _ =>
      refine Forward.after ?_ ?_
      · split
        · exact forward_onCommand s r
        · exact Action.forward_of_plain (plain_respond _ _)
      · exact List.forall_mem_singleton.2 ⟨.plain (.report _), rfl⟩
    · exact Action.forward_of_plain (List.forall_mem_nil _)
  | inCompleted ep => exact Action.forward_of_plain (plain_inCompleted s ep)

/-! ## Runs -/

namespace Ledger

/-- A ledger after some callbacks. -/
def run (callbacks : List Callback) (l : Ledger) : Ledger :=
  callbacks.foldl (fun l x => (l.entry x).after) l

/-- The transfers sent at some callbacks. -/
def sent : List Callback → Ledger → List Bytes
  | [], _ => []
  | x :: rest, l => (l.entry x).sends ++ sent rest (l.entry x).after

end Ledger

variable {β : Type} [Bus β]

theorem ledger_step (a : Attached β Standard) (x : Callback) :
    (a.step x).responder.ledger = (a.responder.ledger.entry x).after := by
  rw [Attached.responder_step, ← entry_ledger (Bus.view a.bus)]
  rfl

theorem transfers_actions (a : Attached β Standard) (x : Callback) :
    (a.actions x).filterMap Action.transfer? = (a.responder.ledger.entry x).sends := by
  rw [← entry_ledger (Bus.view a.bus)]
  rfl

/-- A run of the responder is a run of its ledger. -/
theorem ledger_run (a : Attached β Standard) (callbacks : List Callback) :
    (a.run callbacks).responder.ledger = a.responder.ledger.run callbacks := by
  induction callbacks generalizing a with
  | nil => rfl
  | cons x rest ih =>
    rw [Attached.run_cons, ih, ledger_step]
    rfl

/-- All that the ledger sends is handed to the bus. -/
theorem handed_eq (a : Attached β Standard) (callbacks : List Callback) :
    a.handed callbacks = (a.responder.ledger.sent callbacks).map (Endpoint.bulkIn, ·) := by
  induction callbacks generalizing a with
  | nil => rfl
  | cons x rest ih =>
    have regular : ∀ y ∈ a.actions x, y.Regular := (forward_reaction _ x _).regular
    have first := Attached.handed_of_regular (a := a) regular
    rw [transfers_actions] at first
    rw [Attached.handed, Attached.submissions, List.map_append, first, Ledger.sent, List.map_append,
      ← ledger_step]
    exact congrArg _ (ih (a.step x))

end Standard

end PictureTransfer
