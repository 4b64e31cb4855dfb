import PictureTransfer.Proofs.Transaction
import PictureTransfer.Responder.Legacy

/-!
# The ledger of the legacy responder

What a run of the legacy responder shows of its state is what it still owes its host: the transfers
that completions bring forth, the operation that waits for DATA, whether it records, and the
interface it answers for. `Ledger` holds these four, and `Ledger.entry` says what a callback makes
of them, what is sent at it and which record events are reported. The responder keeps such a ledger
at every callback, whatever its bus looks like (`entry_ledger`), and all it does to the bus is
regular (`forward_reaction`).
-/

namespace PictureTransfer

namespace Callback

/-- The container that comes in with a callback. -/
def container? : Callback → Option Container
  | .outCompleted data => (Container.classify data).toOption
  | _ => none

/-- The COMMAND that comes in with a callback. -/
def command? (x : Callback) : Option Container := x.container?.filter (·.header.kind = .command)

/-- The DATA that comes in with a callback. -/
def data? (x : Callback) : Option Container := x.container?.filter (·.header.kind = .data)

/-- Whether the host's DATA for an operation comes in. -/
def isDataFor (code : UInt16) (tid : UInt32) (x : Callback) : Bool :=
  x.data?.any fun c => c.header.code = code ∧ c.header.tid = tid

theorem container?_eq_some {x : Callback} {c : Container} :
    x.container? = some c ↔ ∃ data, x = .outCompleted data ∧ Container.classify data = .ok c := by
  cases x with
  | outCompleted data =>
    cases classified : Container.classify data <;> simp [container?, classified, Except.toOption]
  | _ => simp [container?]

theorem command?_eq_some {x : Callback} {c : Container} :
    x.command? = some c ↔ x.container? = some c ∧ c.header.kind = .command := by
  simp [command?, Option.filter_eq_some_iff]

theorem data?_eq_some {x : Callback} {c : Container} :
    x.data? = some c ↔ x.container? = some c ∧ c.header.kind = .data := by
  simp [data?, Option.filter_eq_some_iff]

theorem isDataFor_iff {code : UInt16} {tid : UInt32} {x : Callback} :
    x.isDataFor code tid = true ↔
      ∃ c, x.data? = some c ∧ c.header.code = code ∧ c.header.tid = tid := by
  simp [isDataFor, Option.any_eq_true]

end Callback

/-- The record event among actions. -/
def Action.recording? : Action → Option RecEvent
  | .report (.recording e) => some e
  | _ => none

@[simp] theorem Action.recording?_submit (data : Bytes) : (submit data).recording? = none := rfl

@[simp] theorem Action.recording?_status (line : String) : (status line).recording? = none := rfl

namespace Legacy

/-! ## What is owed -/

/-- All transfers that answer a COMMAND which nothing interrupts. -/
def answerTo (c : Container) : List Bytes :=
  let code := c.header.code
  let tid := c.header.tid
  match Catalog.lookup code with
  | some payload =>
    containerTransfers (dataContainer code tid payload) ++ [responseContainer ResponseCode.ok tid]
  | none =>
    if code = Operation.openSession ∨ code = Operation.closeSession then
      [responseContainer ResponseCode.ok tid]
    else if code = Operation.recButton then []
    else [responseContainer ResponseCode.operationNotSupported tid]

theorem answerTo_of_lookup {c : Container} {payload : Bytes}
    (h : Catalog.lookup c.header.code = some payload) :
    answerTo c = containerTransfers (dataContainer c.header.code c.header.tid payload)
      ++ [responseContainer ResponseCode.ok c.header.tid] := by
  simp only [answerTo, h]

/-- The operations with an answer of their own are not in the catalog. -/
theorem lookup_eq_none {code : UInt16} (h : code = Operation.openSession ∨
    code = Operation.closeSession ∨ code = Operation.recButton) : Catalog.lookup code = none := by
  rcases h with rfl | rfl | rfl <;> decide

theorem answerTo_of_session {c : Container} (h : c.header.code = Operation.openSession ∨
    c.header.code = Operation.closeSession) :
    answerTo c = [responseContainer ResponseCode.ok c.header.tid] := by
  have unlisted : Catalog.lookup c.header.code = none := lookup_eq_none (h.imp_right .inl)
  simp only [answerTo, unlisted, h, if_true]

theorem answerTo_of_recButton {c : Container} (h : c.header.code = Operation.recButton) :
    answerTo c = [] := by
  have unlisted : Catalog.lookup c.header.code = none := lookup_eq_none (.inr (.inr h))
  have apart : ¬(c.header.code = Operation.openSession ∨
      c.header.code = Operation.closeSession) := by
    rw [h]
    decide
  simp only [answerTo, unlisted, apart, if_false]
  rw [if_pos h]

theorem answerTo_of_unknown {c : Container} (unlisted : Catalog.lookup c.header.code = none)
    (ordinary : ¬(c.header.code = Operation.openSession ∨
      c.header.code = Operation.closeSession))
    (plain : c.header.code ≠ Operation.recButton) :
    answerTo c = [responseContainer ResponseCode.operationNotSupported c.header.tid] := by
  simp only [answerTo, unlisted, ordinary, plain, if_false]

/-- The operation that waits for DATA after a COMMAND. -/
def awaited? (c : Container) : Option PendingOp :=
  if c.header.code = Operation.recButton then some ⟨c.header.code, c.header.tid, c.param0⟩
  else none

/-- The record event of DATA for an operation that waited for it. -/
def press? (op : PendingOp) (c : Container) : Option RecEvent :=
  (recKind? op.param0 c.tail).map fun kind => .ofData kind c.header.tid c.tail

/-- The transfers that completions still bring forth. -/
def due (s : Legacy) : List Bytes :=
  match s.transaction with
  | .streaming stream =>
    stream.rest ++ (stream.owed.map (responseContainer ResponseCode.ok)).toList
  | _ => []

/-- What the responder owes its host, and what it is in. -/
structure Ledger where
  due : List Bytes := []
  pending : Option PendingOp := none
  recording : Bool := false
  interface : UInt8 := 0
  deriving DecidableEq, Repr

def ledger (s : Legacy) : Ledger :=
  { due := s.due
    pending := s.transaction.pending?
    recording := s.recording
    interface := s.session.interface }

namespace Ledger

/-- What a callback makes of a ledger, what is sent at it, and what is recorded. -/
structure Entry where
  after : Ledger
  sends : List Bytes := []
  records : List RecEvent := []
  deriving DecidableEq, Repr

/-- The answer at a callback, when all that is sent is collected: what is due comes behind what is
sent at once, and not at all if nothing is. -/
def Entry.answer (entry : Entry) : List Bytes :=
  match entry.sends with
  | [] => []
  | first :: rest => first :: rest ++ entry.after.due

/-- Nothing is owed any more. -/
def cleared (l : Ledger) : Ledger := { l with due := [], pending := none }

/-- A COMMAND drops what was owed and is answered. -/
def onCommand (l : Ledger) (c : Container) : Entry :=
  { after := { l with due := (answerTo c).drop 1, pending := awaited? c }
    sends := (answerTo c).take 1 }

/-- DATA ends the operation that waits for it. -/
def onData (l : Ledger) (c : Container) : Entry :=
  match l.pending with
  | some op =>
    if op.code = c.header.code ∧ op.tid = c.header.tid then
      { after :=
          { l with
            pending := none
            recording := ((press? op c).map RecEvent.recording).getD l.recording }
        sends := [responseContainer ResponseCode.ok c.header.tid]
        records := (press? op c).toList }
    else ⟨l, [], []⟩
  | none => ⟨l, [], []⟩

/-- What happens at a callback. -/
def entry (l : Ledger) : Callback → Entry
  | .busReset => ⟨l.cleared, [], []⟩
  | .interfaceOpened interface => ⟨{ l with interface }, [], []⟩
  | .control setup _ => ⟨if setup.resets l.interface then l.cleared else l, [], []⟩
  | .outCompleted data =>
    match Container.classify data with
    | .ok c =>
      match c.header.kind with
      | .command => l.onCommand c
      | .data => l.onData c
      | .response | .event => ⟨l, [], []⟩
    | .error _ => ⟨l, [], []⟩
  | .inCompleted ep =>
    if ep = Endpoint.bulkIn then ⟨{ l with due := l.due.drop 1 }, l.due.take 1, []⟩
    else ⟨l, [], []⟩

end Ledger

theorem Ledger.onData_of_none {l : Ledger} (pending : l.pending = none) (c : Container) :
    l.onData c = ⟨l, [], []⟩ := by
  simp only [onData, pending]

theorem Ledger.onData_of_foreign {l : Ledger} {op : PendingOp} (pending : l.pending = some op)
    {c : Container} (foreign : ¬(op.code = c.header.code ∧ op.tid = c.header.tid)) :
    l.onData c = ⟨l, [], []⟩ := by
  simp only [onData, pending, if_neg foreign]

theorem Ledger.entry_of_error {l : Ledger} {data : Bytes} {e : HeaderError}
    (h : Container.classify data = .error e) : l.entry (.outCompleted data) = ⟨l, [], []⟩ := by
  simp only [entry, h]

theorem Ledger.entry_of_ok {l : Ledger} {data : Bytes} {c : Container}
    (h : Container.classify data = .ok c) :
    l.entry (.outCompleted data) = match c.header.kind with
      | .command => l.onCommand c
      | .data => l.onData c
      | .response | .event => ⟨l, [], []⟩ := by
  simp only [entry, h]

theorem Ledger.entry_of_command {l : Ledger} {x : Callback} {c : Container}
    (h : x.command? = some c) : l.entry x = l.onCommand c := by
  obtain ⟨container, kind⟩ := Callback.command?_eq_some.1 h
  obtain ⟨data, rfl, classified⟩ := Callback.container?_eq_some.1 container
  rw [entry_of_ok classified, kind]

theorem Ledger.entry_of_data {l : Ledger} {x : Callback} {c : Container}
    (h : x.data? = some c) : l.entry x = l.onData c := by
  obtain ⟨container, kind⟩ := Callback.data?_eq_some.1 h
  obtain ⟨data, rfl, classified⟩ := Callback.container?_eq_some.1 container
  rw [entry_of_ok classified, kind]

/-- A reset leaves nothing owed. -/
theorem Ledger.entry_of_resets {l : Ledger} {x : Callback} (h : x.resets l.interface = true) :
    l.entry x = ⟨l.cleared, [], []⟩ := by
  cases x with
  | busReset => rfl
  | control setup data =>
    have resets : setup.resets l.interface = true := h
    simp only [entry, resets, if_true]
  | interfaceOpened interface => cases h
  | outCompleted data => cases h
  | inCompleted ep => cases h

/-- Only the opening of an interface changes the interface in use. -/
theorem Ledger.interface_entry (l : Ledger) (x : Callback) :
    (l.entry x).after.interface = x.selects l.interface := by
  cases x with
  | busReset => rfl
  | interfaceOpened interface => rfl
  | control setup data =>
    simp only [entry]
    split <;> rfl
  | outCompleted data =>
    cases classified : Container.classify data with
    | error e =>
      rw [entry_of_error classified]
      rfl
    | ok c =>
      rw [entry_of_ok classified]
      cases c.header.kind with
      | command => rfl
      | data =>
        show (l.onData c).after.interface = l.interface
        simp only [onData]
        split
        · split <;> rfl
        · rfl
      | response => rfl
      | event => rfl
  | inCompleted ep =>
    simp only [entry]
    split <;> rfl

/-! ## The responder keeps its ledger -/

/-- The entry that a reaction amounts to. -/
def entryOf (r : Reaction Legacy) : Ledger.Entry :=
  ⟨r.1.ledger, r.2.filterMap Action.transfer?, r.2.filterMap Action.recording?⟩

/-- While an operation waits for DATA nothing is due. -/
theorem due_of_pending {s : Legacy} {op : PendingOp} (h : s.ledger.pending = some op) :
    s.ledger.due = [] := by
  rcases s with ⟨session, transaction, recording, lastOp⟩
  cases transaction with
  | idle => rfl
  | awaitingData waiting => rfl
  | streaming stream => cases h

/-- Actions in front of a reaction that neither send nor record do not show in its entry. -/
theorem entryOf_andThen {s : Legacy} {actions : List Action} {next : Legacy → Reaction Legacy}
    (silent : actions.filterMap Action.transfer? = [])
    (quiet : actions.filterMap Action.recording? = []) :
    entryOf (Reaction.andThen (s, actions) next) = entryOf (next s) := by
  simp [entryOf, Reaction.andThen, List.filterMap_append, silent, quiet]

theorem entryOf_followedBy_armOut (r : Reaction Legacy) :
    entryOf (r.followedBy [.armOut]) = entryOf r := by
  simp [entryOf, Reaction.followedBy, List.filterMap_append, Action.armOut, Action.transfer?,
    Action.recording?, Bus.Op.transfer?]

/-- Bus operations that send nothing do not show in an entry. -/
theorem entryOf_requests {s : Legacy} {ops : List Bus.Op}
    (silent : ∀ op ∈ ops, op.transfer? = none) :
    entryOf (s, ops.map Action.request) = ⟨s.ledger, [], []⟩ := by
  have sends : (ops.map Action.request).filterMap Action.transfer? = [] := by
    rw [List.filterMap_map, List.filterMap_eq_nil_iff]
    exact silent
  have records : (ops.map Action.request).filterMap Action.recording? = [] := by
    rw [List.filterMap_map, List.filterMap_eq_nil_iff]
    intro op _
    rfl
  rw [entryOf, sends, records]

theorem entryOf_respond (s t : Legacy) (code : UInt16) (tid : UInt32) :
    entryOf (t, s.respond code tid) = ⟨t.ledger, [responseContainer code tid], []⟩ := rfl

/-- A completion sends the next transfer that is due. -/
theorem entryOf_inCompleted (s : Legacy) :
    entryOf (s.inCompleted Endpoint.bulkIn)
      = ⟨{ s.ledger with due := s.due.drop 1 }, s.due.take 1, []⟩ := by
  obtain ⟨sends, due⟩ := s.transaction.sends_inCompleted
  have owed : s.due = s.transaction.due := rfl
  rw [inCompleted, if_pos rfl, owed, ← sends, ← due, ledger,
    ← s.transaction.pending?_inCompleted]
  -- what the completion led to decides what is sent, and the responder keeps the rest
  rcases s.transaction.inCompleted with ⟨completion, transaction⟩
  cases completion with
  | none => rfl
  | sent transfer => rfl
  | finished op tid => cases tid <;> rfl

theorem entryOf_stream {s : Legacy} (idle : s.transaction = .idle) {c : Container}
    (ordinary : ¬(c.header.code = Operation.openSession ∨ c.header.code = Operation.closeSession))
    (plain : c.header.code ≠ Operation.recButton) :
    entryOf (stream c.header.code c.header.tid s) = s.ledger.onCommand c := by
  simp only [stream, Ledger.onCommand]
  cases found : Catalog.lookup c.header.code with
  | none =>
    rw [answerTo_of_unknown found ordinary plain]
    simp [entryOf_respond, plain, awaited?, ledger, due, idle, Transaction.pending?]
  | some payload =>
    rw [answerTo_of_lookup found, idle]
    dsimp only
    split
    · next transfer transaction started =>
      -- what the stream sends first and what it then owes are the transfers of its container
      obtain ⟨whole, -, streams⟩ := Transaction.due_of_startStream started
      rw [← whole]
      cases transaction with
      | streaming stream =>
        simp [entryOf, ledger, due, Transaction.due, awaited?, plain, Transaction.pending?]
      | idle => cases streams
      | awaitingData op => cases streams
    · next refused => cases refused

theorem entryOf_onCommand (s : Legacy) (c : Container) :
    entryOf (s.onCommand c) = s.ledger.onCommand c := by
  have silent : (s.transaction.superseded.map Action.request).filterMap Action.transfer? = [] := by
    cases s.transaction <;> rfl
  have quiet : (s.transaction.superseded.map Action.request).filterMap Action.recording? = [] := by
    cases s.transaction <;> rfl
  -- what was under way is dropped without a trace, and the cases are those of `answerTo`
  rw [onCommand, entryOf_andThen silent quiet]
  by_cases opens : c.header.code = Operation.openSession
  · rw [if_pos opens, entryOf_respond, Ledger.onCommand, answerTo_of_session (.inl opens)]
    simp [awaited?, opens, Operation.openSession, Operation.recButton, ledger, due,
      Transaction.pending?]
  · rw [if_neg opens]
    by_cases closes : c.header.code = Operation.closeSession
    · rw [if_pos closes, entryOf_respond, Ledger.onCommand, answerTo_of_session (.inr closes)]
      simp [awaited?, closes, Operation.closeSession, Operation.recButton, ledger, due,
        Transaction.pending?]
    · rw [if_neg closes]
      by_cases presses : c.header.code = Operation.recButton
      · rw [if_pos presses, Ledger.onCommand, answerTo_of_recButton presses]
        simp [awaited?, presses, entryOf, ledger, due, Transaction.pending?]
      · rw [if_neg presses, entryOf_stream rfl (not_or.2 ⟨opens, closes⟩) presses]
        rfl

theorem entryOf_onData (s : Legacy) (c : Container) :
    entryOf (s.onData c) = s.ledger.onData c := by
  rcases s with ⟨session, transaction, recording, lastOp⟩
  cases transaction with
  | idle => rfl
  | streaming stream => rfl
  | awaitingData op =>
    simp only [onData, Ledger.onData]
    simp only [Transaction.takePending?, ledger, Transaction.pending?]
    by_cases own : op.code = c.header.code ∧ op.tid = c.header.tid
    · simp only [own, and_self, if_true, press?]
      cases recKind? op.param0 c.tail <;> rfl
    · simp only [own, if_false]
      rfl

theorem entryOf_control (view : Bus.View) (setup : Setup) (s : Legacy) :
    entryOf (s.control view setup).1
      = ⟨if setup.resets s.session.interface then s.ledger.cleared else s.ledger, [], []⟩ := by
  have silent : ∀ op ∈ (Control.outcome view setup s.session.interface).ops,
      op.transfer? = none := by
    intro op h
    rcases Control.ops_outcome h with rfl | ⟨ep, rfl⟩ <;> rfl
  have acted := entryOf_requests (s := s) silent
  -- the bus is served in the same way whether or not the request resets
  simp only [control, Control.reset_outcome]
  cases setup.resets s.session.interface with
  | true =>
    rw [if_pos rfl, if_pos rfl, entryOf_andThen (congrArg Ledger.Entry.sends acted)
      (congrArg Ledger.Entry.records acted)]
    rfl
  | false =>
    rw [if_neg Bool.false_ne_true, if_neg Bool.false_ne_true]
    exact acted

/-- The responder keeps its ledger at every callback. -/
theorem entry_ledger (view : Bus.View) (x : Callback) (s : Legacy) :
    entryOf (Responder.reaction view x s) = s.ledger.entry x := by
  cases x with
  | busReset => rfl
  | interfaceOpened interface => rfl
  | control setup data => exact entryOf_control view setup s
  | outCompleted data =>
    show entryOf (s.outCompleted data) = _
    rw [outCompleted, entryOf_followedBy_armOut]
    cases classified : Container.classify data with
    | error e =>
      rw [Ledger.entry_of_error classified]
      rfl
    | ok c =>
      simp only [onContainer]
      rw [entryOf_andThen rfl rfl, Ledger.entry_of_ok classified]
      cases c.header.kind with
      | command => exact entryOf_onCommand _ c
      | data => exact entryOf_onData _ c
      | response => rfl
      | event => rfl
  | inCompleted ep =>
    show entryOf (s.inCompleted ep) = _
    by_cases bulk : ep = Endpoint.bulkIn
    · subst bulk
      exact entryOf_inCompleted s
    · rw [inCompleted, if_neg bulk, Ledger.entry, if_neg bulk]
      rfl

/-! ## The responder keeps its bus in order -/

open PictureTransfer.Action (Forward Silent silent_requests)

theorem plain_respond (s : Legacy) (code : UInt16) (tid : UInt32) :
    ∀ x ∈ s.respond code tid, x.Plain := by
  simp only [respond, List.mem_cons, List.not_mem_nil, or_false]
  rintro x (rfl | rfl)
  · exact .submit _ (length_responseContainer_le code tid)
  · exact .report _

theorem plain_stream (s : Legacy) (code : UInt16) (tid : UInt32) :
    ∀ x ∈ (s.stream code tid).2, x.Plain := by
  simp only [stream]
  split
  · exact plain_respond _ _ _
  · split
    · next started =>
      obtain ⟨-, fits, -⟩ := Transaction.due_of_startStream started
      simp only [List.mem_cons, List.not_mem_nil, or_false]
      rintro x (rfl | rfl)
      · exact .submit _ fits
      · exact .report _
    · exact List.forall_mem_nil _

/-- The answer to a COMMAND, once what was under way is dropped. -/
theorem actions_onCommand (s : Legacy) (c : Container) :
    ∃ back, (s.onCommand c).2 = s.transaction.superseded.map Action.request ++ back ∧
      ∀ x ∈ back, x.Plain := by
  refine ⟨_, rfl, ?_⟩
  dsimp only
  split
  · exact plain_respond _ _ _
  · split
    · exact plain_respond _ _ _
    · split
      · exact List.forall_mem_nil _
      · exact plain_stream _ _ _

theorem forward_onCommand (s : Legacy) (c : Container) : Forward (s.onCommand c).2 := by
  obtain ⟨back, actions, plain⟩ := s.actions_onCommand c
  rw [actions]
  exact (Action.forward_of_plain plain).after s.transaction.silent_superseded

theorem plain_onData (s : Legacy) (c : Container) : ∀ x ∈ (s.onData c).2, x.Plain := by
  simp only [onData]
  split
  · exact List.forall_mem_nil _
  · refine List.forall_mem_append.2 ⟨?_, plain_respond _ _ _⟩
    split
    · simp only [applyRec, List.mem_cons, List.not_mem_nil, or_false]
      rintro x (rfl | rfl) <;> exact .report _
    · exact List.forall_mem_nil _

theorem forward_onContainer (s : Legacy) (c : Container) : Forward (s.onContainer c).2 := by
  refine Forward.after ?_ ?_
  · dsimp only
    split
    · exact forward_onCommand _ _
    · exact Action.forward_of_plain (plain_onData _ _)
    · exact Action.forward_of_plain (List.forall_mem_nil _)
    · exact Action.forward_of_plain (List.forall_mem_nil _)
  · intro x hx
    simp only [List.mem_cons, List.not_mem_nil, or_false] at hx
    rcases hx with rfl | rfl <;> exact ⟨.plain (.report _), rfl⟩

theorem forward_outCompleted (s : Legacy) (data : Bytes) :
    Forward (s.outCompleted data).2 := by
  refine Forward.before ?_ ?_
  · split
    · exact forward_onContainer _ _
    · exact Action.forward_of_plain (List.forall_mem_nil _)
  · intro x hx
    obtain rfl := List.mem_singleton.1 hx
    exact .armOut

theorem plain_inCompleted (s : Legacy) (ep : UInt8) : ∀ x ∈ (s.inCompleted ep).2, x.Plain := by
  have short : ∀ data ∈ s.transaction.inCompleted.1.sends, data.length ≤ transferSize :=
    fun data => Transaction.length_le_of_mem_sends
  rw [inCompleted]
  split
  · generalize s.transaction.inCompleted = outcome at short ⊢
    obtain ⟨completion, transaction⟩ := outcome
    cases completion with
    | none => exact List.forall_mem_nil _
    | sent transfer => exact List.forall_mem_singleton.2 (.submit _ (short _ List.mem_cons_self))
    | finished op tid =>
      cases tid with
      | none => exact List.forall_mem_nil _
      | some tid => exact plain_respond _ _ _
  · exact List.forall_mem_nil _

theorem forward_control (view : Bus.View) (setup : Setup) (s : Legacy) :
    Forward (s.control view setup).1.2 := by
  have acts := Action.silent_control view setup s.session.interface
  unfold control
  dsimp only
  split
  · exact (Action.forward_of_plain (List.forall_mem_singleton.2 (.report _))).after acts
  · exact Action.forward_of_silent acts

/-- Whatever the callback, the responder sends at most `transferSize` bytes at a time, and on bulk
IN only, and it drops nothing that it has just sent. -/
theorem forward_reaction (view : Bus.View) (x : Callback) (s : Legacy) :
    Forward (Responder.reaction view x s).2 := by
  cases x with
  | busReset =>
    apply Action.forward_of_plain
    intro y hy
    obtain ⟨event, -, rfl⟩ := List.mem_map.1 hy
    exact .report event
  | interfaceOpened interface =>
    show Forward [.report (.interfaceOpened interface), .armOut]
    apply Action.forward_of_plain
    simp only [List.mem_cons, List.not_mem_nil, or_false]
    rintro y (rfl | rfl)
    · exact .report _
    · exact .armOut
  | control setup data => exact forward_control view setup s
  | outCompleted data => exact forward_outCompleted s data
  | inCompleted ep => exact Action.forward_of_plain (plain_inCompleted s ep)

/-! ## Runs -/

namespace Ledger

/-- A ledger after some callbacks. -/
def run (callbacks : List Callback) (l : Ledger) : Ledger :=
  callbacks.foldl (fun l x => (l.entry x).after) l

/-- The transfers sent at some callbacks. -/
def sent : List Callback → Ledger → List Bytes
  | [], _ => []
  | x :: rest, l => (l.entry x).sends ++ sent rest (l.entry x).after

/-- The record events of some callbacks. -/
def recorded : List Callback → Ledger → List RecEvent
  | [], _ => []
  | x :: rest, l => (l.entry x).records ++ recorded rest (l.entry x).after

theorem run_append (before after : List Callback) (l : Ledger) :
    l.run (before ++ after) = (l.run before).run after := List.foldl_append

end Ledger

variable {β : Type} [Bus β]

theorem ledger_step (a : Attached β Legacy) (x : Callback) :
    (a.step x).responder.ledger = (a.responder.ledger.entry x).after := by
  rw [Attached.responder_step, ← entry_ledger (Bus.view a.bus)]
  rfl

theorem transfers_actions (a : Attached β Legacy) (x : Callback) :
    (a.actions x).filterMap Action.transfer? = (a.responder.ledger.entry x).sends := by
  rw [← entry_ledger (Bus.view a.bus)]
  rfl

theorem recordings_actions (a : Attached β Legacy) (x : Callback) :
    (a.actions x).filterMap Action.recording? = (a.responder.ledger.entry x).records := by
  rw [← entry_ledger (Bus.view a.bus)]
  rfl

/-- A run of the responder is a run of its ledger. -/
theorem ledger_run (a : Attached β Legacy) (callbacks : List Callback) :
    (a.run callbacks).responder.ledger = a.responder.ledger.run callbacks := by
  induction callbacks generalizing a with
  | nil => rfl
  | cons x rest ih =>
    rw [Attached.run_cons, ih, ledger_step]
    rfl

/-- On an accepting bus all that the ledger sends is taken. -/
theorem submissions_eq {a : Attached β Legacy} (h : Bus.Accepting a.bus)
    (callbacks : List Callback) :
    a.submissions callbacks = (a.responder.ledger.sent callbacks).map Submission.bulkIn := by
  induction callbacks generalizing a with
  | nil => rfl
  | cons x rest ih =>
    -- the bus accepts what is regular, and it is still an accepting bus behind it
    have regular : ∀ y ∈ a.actions x, y.Regular := (forward_reaction _ x _).regular
    rw [Attached.submissions, Attached.submissions_of_regular h regular,
      transfers_actions, ih (Attached.accepting_step h x), ledger_step, Ledger.sent,
      List.map_append]

end Legacy

end PictureTransfer
