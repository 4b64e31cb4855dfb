import PictureTransfer.Proofs.Relay.Batches

/-!
# An outline of the emulated camera

What the emulated camera answers depends on three things: the open session, a press of the record
button that waits for its DATA, and whether the camera records. `Outline` keeps these, and nothing
is ever under way in it. `exchanges_outlined` says that the camera answers as its outline does, for
every sequence of transfers, and that an answer is collected to its end.
-/

namespace PictureTransfer

namespace Legacy

/-- The responder once nothing streams any more. -/
def settled (s : Legacy) : Legacy :=
  match s.transaction with
  | .streaming _ => { s with transaction := .idle }
  | _ => s

/-- A completion lets a stream go on or ends it, and changes nothing else. -/
theorem settled_inCompleted (s : Legacy) :
    (s.inCompleted Endpoint.bulkIn).1.settled = s.settled := by
  rcases s with ⟨session, transaction, recording, lastOp⟩
  cases transaction with
  | idle => rfl
  | awaitingData op => rfl
  | streaming stream =>
    simp only [inCompleted, Transaction.inCompleted, if_true]
    cases stream.next? with
    | some sent => rfl
    | none => cases stream.owed <;> rfl

/-- A completion that sends nothing leaves no stream. -/
theorem settled_of_unsent {s : Legacy}
    (unsent : (s.inCompleted Endpoint.bulkIn).2.filterMap Action.transfer? = []) :
    (s.inCompleted Endpoint.bulkIn).1.settled = (s.inCompleted Endpoint.bulkIn).1 := by
  rcases s with ⟨session, transaction, recording, lastOp⟩
  cases transaction with
  | idle => rfl
  | awaitingData op => rfl
  | streaming stream =>
    simp only [inCompleted, Transaction.inCompleted, if_true] at unsent ⊢
    cases next : stream.next? with
    | some sent =>
      rw [next] at unsent
      cases unsent
    | none => cases stream.owed <;> rfl

end Legacy

namespace Relay.Emulated

/-- Once something waits, it is collected until nothing streams. -/
theorem drain_settles {s : Legacy} {waiting : List Bytes} (some_waits : waiting ≠ []) :
    (drain s waiting).2.1 = s.settled := by
  fun_induction drain s waiting with
  | case1 s => exact absurd rfl some_waits
  | case2 s transfer waiting r transfers last events later ih =>
    rw [later] at ih
    by_cases nothing : waiting ++ r.2.filterMap Action.transfer? = []
    · rw [nothing, drain_nil] at later
      obtain ⟨-, rfl, -⟩ := later
      rw [← Legacy.settled_inCompleted]
      exact (Legacy.settled_of_unsent (List.append_eq_nil_iff.1 nothing).2).symm
    · exact (ih nothing).trans s.settled_inCompleted

/-- A press of the record button. -/
structure Press where
  tid : UInt32
  param0 : UInt32
  deriving DecidableEq, Repr

namespace Press

/-- The operation that waits for the DATA of a press. -/
def pending (p : Press) : PendingOp := ⟨Operation.recButton, p.tid, p.param0⟩

/-- Whether the camera records after the DATA of a press, if it did so before or not. -/
def recording (p : Press) (data : Bytes) (before : Bool) : Bool :=
  if p.param0 = RecButton.fullPress ∧ data.head? = some RecButton.startByte then true
  else if p.param0 = RecButton.fullPress ∧ data.head? = some RecButton.stopByte then false
  else before

end Press

/-- The open session, the press that waits for its DATA, and whether the camera records. -/
structure Outline where
  session : Option UInt32 := none
  press : Option Press := none
  recording : Bool := false
  deriving DecidableEq, Repr

namespace Outline

/-- What is under way between two answers. -/
def phase (o : Outline) : Transaction :=
  match o.press with
  | some p => .awaitingData p.pending
  | none => .idle

/-- A COMMAND is answered at once. It ends the wait of a press, and a press waits from then on. -/
def command (c : Container) (o : Outline) : List Bytes × Outline :=
  let code := c.header.code
  let tid := c.header.tid
  if code = Operation.openSession then
    ([responseContainer ResponseCode.ok tid], { o with session := some c.param0, press := none })
  else if code = Operation.closeSession then
    ([responseContainer ResponseCode.ok tid], { o with session := none, press := none })
  else if code = Operation.recButton then ([], { o with press := some ⟨tid, c.param0⟩ })
  else match Catalog.lookup code with
    | some payload =>
      (containerTransfers (dataContainer code tid payload)
        ++ [responseContainer ResponseCode.ok tid], { o with press := none })
    | none =>
      ([responseContainer ResponseCode.operationNotSupported tid], { o with press := none })

/-- DATA counts for the press that waits for it. -/
def data (c : Container) (o : Outline) : List Bytes × Outline :=
  match o.press with
  | some p =>
    if c.header.code = Operation.recButton ∧ c.header.tid = p.tid then
      ([responseContainer ResponseCode.ok p.tid],
       { o with press := none, recording := p.recording c.tail o.recording })
    else ([], o)
  | none => ([], o)

/-- The answer to a transfer of the host. -/
def exchange (out : Bytes) (o : Outline) : List Bytes × Outline :=
  match Container.classify out with
  | .ok c =>
    match c.header.kind with
    | .command => o.command c
    | .data => o.data c
    | .response | .event => ([], o)
  | .error _ => ([], o)

/-- The answers to some transfers of the host, one after another. -/
def exchanges : List Bytes → Outline → List (List Bytes) × Outline
  | [], o => ([], o)
  | out :: rest, o =>
    let (answer, next) := o.exchange out
    let (later, last) := exchanges rest next
    (answer :: later, last)

end Outline

/-- A responder with a given outline, between two answers. -/
structure Outlined (s : Legacy) (o : Outline) : Prop where
  session : s.session.id = o.session
  transaction : s.transaction = o.phase
  recording : s.recording = o.recording

/-! ## The answers -/

theorem Outline.answer_command (c : Container) (o : Outline) :
    (o.command c).1 = Legacy.answerTo c := by
  rw [command]
  by_cases opens : c.header.code = Operation.openSession
  · rw [if_pos opens, Legacy.answerTo_of_session (.inl opens)]
  · rw [if_neg opens]
    by_cases closes : c.header.code = Operation.closeSession
    · rw [if_pos closes, Legacy.answerTo_of_session (.inr closes)]
    · rw [if_neg closes]
      by_cases presses : c.header.code = Operation.recButton
      · rw [if_pos presses, Legacy.answerTo_of_recButton presses]
      · rw [if_neg presses]
        cases found : Catalog.lookup c.header.code with
        | some payload => rw [Legacy.answerTo_of_lookup found]
        | none => rw [Legacy.answerTo_of_unknown found (not_or.2 ⟨opens, closes⟩) presses]

/-- A COMMAND is answered at once with all that answers it. -/
theorem answer_onCommand (l : Legacy.Ledger) (c : Container) :
    (l.onCommand c).answer = Legacy.answerTo c := by
  rw [Legacy.Ledger.onCommand, Legacy.Ledger.Entry.answer]
  cases Legacy.answerTo c <;> rfl

variable {s : Legacy} {o : Outline}

theorem Outlined.pending (h : Outlined s o) : s.ledger.pending = o.press.map Press.pending := by
  show s.transaction.pending? = _
  rw [h.transaction, Outline.phase]
  cases o.press <;> rfl

/-- Nothing is due between two answers. -/
theorem Outlined.due (h : Outlined s o) : s.ledger.due = [] := by
  show s.due = []
  rw [Legacy.due, h.transaction, Outline.phase]
  cases o.press <;> rfl

theorem Outlined.answer_onData (h : Outlined s o) (c : Container) :
    (s.ledger.onData c).answer = (o.data c).1 := by
  have pending := h.pending
  rw [Outline.data]
  cases press : o.press with
  | none =>
    rw [press] at pending
    rw [Legacy.Ledger.onData_of_none pending]
    rfl
  | some p =>
    rw [press] at pending
    by_cases own : c.header.code = Operation.recButton ∧ c.header.tid = p.tid
    · have same : p.pending.code = c.header.code ∧ p.pending.tid = c.header.tid :=
        ⟨own.1.symm, own.2.symm⟩
      simp only [Legacy.Ledger.onData, pending, Option.map_some]
      rw [if_pos same, if_pos own, Legacy.Ledger.Entry.answer, h.due, own.2]
      rfl
    · have foreign : ¬(p.pending.code = c.header.code ∧ p.pending.tid = c.header.tid) :=
        fun same => own ⟨same.1.symm, same.2.symm⟩
      rw [Legacy.Ledger.onData_of_foreign pending foreign]
      dsimp only
      rw [if_neg own]
      rfl

/-- The camera answers as its outline does. -/
theorem Outlined.answer_exchange {e : Emulated} (h : Outlined e.responder o) (out : Bytes) :
    (e.exchange out).1 = (o.exchange out).1 := by
  rw [exchange_eq, Outline.exchange]
  cases classified : Container.classify out with
  | error error =>
    rw [Legacy.Ledger.entry_of_error classified]
    rfl
  | ok c =>
    rw [Legacy.Ledger.entry_of_ok classified]
    cases kind : c.header.kind with
    | command =>
      simp only [kind]
      rw [answer_onCommand, Outline.answer_command]
    | data =>
      simp only [kind]
      exact h.answer_onData c
    | response =>
      simp only [kind]
      rfl
    | event =>
      simp only [kind]
      rfl

/-! ## The camera after an answer -/

/-- What a reaction comes to, once all that it sends is collected. -/
structure Settles (r : Reaction Legacy) (o : Outline) : Prop where
  collected : Outlined r.1.settled o
  unsent : r.2.filterMap Action.transfer? = [] → Outlined r.1 o

theorem Settles.drain {r : Reaction Legacy} (h : Settles r o) :
    Outlined (drain r.1 (r.2.filterMap Action.transfer?)).2.1 o := by
  by_cases nothing : r.2.filterMap Action.transfer? = []
  · rw [nothing, drain_nil]
    exact h.unsent nothing
  · rw [drain_settles nothing]
    exact h.collected

/-- Between two answers nothing streams that could still settle. -/
theorem Outlined.settles (h : Outlined s o) (actions : List Action) : Settles (s, actions) o := by
  have still : s.settled = s := by
    rw [Legacy.settled, h.transaction, Outline.phase]
    cases o.press <;> rfl
  refine ⟨?_, fun _ => h⟩
  show Outlined s.settled o
  rw [still]
  exact h

theorem Settles.andThen {actions : List Action} {next : Legacy → Reaction Legacy}
    (silent : actions.filterMap Action.transfer? = []) (h : Settles (next s) o) :
    Settles (Reaction.andThen (s, actions) next) o := by
  refine ⟨h.collected, fun unsent => h.unsent ?_⟩
  rw [Reaction.andThen, List.filterMap_append, silent, List.nil_append] at unsent
  exact unsent

theorem Settles.followedBy {r : Reaction Legacy} (h : Settles r o) (actions : List Action) :
    Settles (r.followedBy actions) o := by
  refine ⟨h.collected, fun unsent => h.unsent ?_⟩
  rw [Reaction.followedBy, List.filterMap_append] at unsent
  exact (List.append_eq_nil_iff.1 unsent).1

theorem Outlined.onCommand (h : Outlined s o) (c : Container) :
    Settles (s.onCommand c) (o.command c).2 := by
  have silent : (s.transaction.superseded.map Action.request).filterMap Action.transfer? = [] :=
    s.transaction.silent_superseded.transfers
  rw [Legacy.onCommand, Outline.command]
  apply Settles.andThen silent
  -- a dataset streams until it is collected, and after anything else nothing does
  by_cases opens : c.header.code = Operation.openSession
  · rw [if_pos opens, if_pos opens]
    apply Outlined.settles
    exact ⟨rfl, rfl, h.recording⟩
  · rw [if_neg opens, if_neg opens]
    by_cases closes : c.header.code = Operation.closeSession
    · rw [if_pos closes, if_pos closes]
      apply Outlined.settles
      exact ⟨rfl, rfl, h.recording⟩
    · rw [if_neg closes, if_neg closes]
      by_cases presses : c.header.code = Operation.recButton
      · rw [if_pos presses, if_pos presses, presses]
        apply Outlined.settles
        exact ⟨h.session, rfl, h.recording⟩
      · rw [if_neg presses, if_neg presses, Legacy.stream]
        cases Catalog.lookup c.header.code with
        | none =>
          apply Outlined.settles
          exact ⟨h.session, rfl, h.recording⟩
        | some payload =>
          refine ⟨⟨h.session, rfl, h.recording⟩, fun unsent => ?_⟩
          cases unsent

/-- The first byte of a press says whether the camera records. -/
theorem recording_applied (p : Press) (data : Bytes) (before : Bool) :
    ((Legacy.recKind? p.param0 data).map RecKind.recording).getD before
      = p.recording data before := by
  simp only [Press.recording, Legacy.recKind?]
  by_cases full : p.param0 = RecButton.fullPress
  · cases data with
    | nil => simp [full]
    | cons b rest =>
      by_cases starts : b = RecButton.startByte
      · simp [full, starts, RecKind.recording]
      · by_cases stops : b = RecButton.stopByte
        · simp [full, stops, RecKind.recording, RecButton.startByte, RecButton.stopByte]
        · simp [full, starts, stops]
  · simp [full]

theorem Outlined.onData (h : Outlined s o) (c : Container) :
    Settles (s.onData c) (o.data c).2 := by
  have transaction := h.transaction
  rw [Legacy.onData, Outline.data]
  rw [Outline.phase] at transaction
  cases press : o.press with
  | none =>
    rw [press] at transaction
    rw [transaction]
    exact h.settles _
  | some p =>
    rw [press] at transaction
    rw [transaction]
    dsimp only
    by_cases own : c.header.code = Operation.recButton ∧ c.header.tid = p.tid
    · have taken : (Transaction.awaitingData p.pending).takePending? c.header.code c.header.tid
          = some p.pending := if_pos ⟨own.1.symm, own.2.symm⟩
      have counts := recording_applied p c.tail o.recording
      rw [taken, if_pos own, ← counts]
      dsimp only [Press.pending]
      cases Legacy.recKind? p.param0 c.tail with
      | none =>
        apply Outlined.settles
        exact ⟨h.session, rfl, h.recording⟩
      | some kind =>
        apply Outlined.settles
        exact ⟨h.session, rfl, rfl⟩
    · have foreign : (Transaction.awaitingData p.pending).takePending? c.header.code c.header.tid
          = none := if_neg fun same => own ⟨same.1.symm, same.2.symm⟩
      rw [foreign, if_neg own]
      exact h.settles _

theorem Outlined.exchange {e : Emulated} (h : Outlined e.responder o) (out : Bytes) :
    Outlined (e.exchange out).2.responder (o.exchange out).2 := by
  have reaction : Settles (e.responder.outCompleted out) (o.exchange out).2 := by
    rw [Legacy.outCompleted, Outline.exchange]
    apply Settles.followedBy
    cases Container.classify out with
    | error error => exact h.settles _
    | ok c =>
      dsimp only
      rw [Legacy.onContainer]
      apply Settles.andThen
      · rfl
      have seen : Outlined { e.responder with lastOp := c.header.code } o :=
        ⟨h.session, h.transaction, h.recording⟩
      cases kind : c.header.kind with
      | command => exact seen.onCommand c
      | data => exact seen.onData c
      | response => exact seen.settles _
      | event => exact seen.settles _
  exact reaction.drain

theorem outlined_fresh : Outlined fresh.responder {} := ⟨rfl, rfl, rfl⟩

theorem Outlined.exchanges {e : Emulated} (h : Outlined e.responder o) (outs : List Bytes) :
    (exchanges outs e).1 = (Outline.exchanges outs o).1 ∧
      Outlined (exchanges outs e).2.responder (Outline.exchanges outs o).2 := by
  induction outs generalizing e o with
  | nil => exact ⟨rfl, h⟩
  | cons out rest ih =>
    obtain ⟨later, last⟩ := ih (h.exchange out)
    rw [exchanges_cons, later, h.answer_exchange out]
    exact ⟨rfl, last⟩

/-- A camera whose interface has been opened, on a bus on which nothing is written down. -/
def opened : Attached Bus.Recorder Legacy := { bus := {}, responder := fresh.responder }

/-- For every sequence of transfers of the host, the camera answers as its outline does, and then it
has that outline, so that nothing streams. The loop that collects the answers comes to its end after
each transfer, with these answers and no others. -/
theorem exchanges_outlined (outs : List Bytes) :
    let after := exchanges outs fresh
    let outline := Outline.exchanges outs {}
    after.1 = outline.1 ∧ Outlined after.2.responder outline.2 ∧
    (∀ stream, after.2.responder.transaction ≠ .streaming stream) ∧
    ∃ b, opened.BatchedEach outs after.1 b ∧ b.responder = after.2.responder ∧
      ∀ answers c, opened.BatchedEach outs answers c → answers = after.1 ∧ c = b := by
  intro after outline
  obtain ⟨answers, outlined⟩ := outlined_fresh.exchanges outs
  obtain ⟨b, batched, last⟩ := batched_exchanges (a := opened) rfl rfl outs
  refine ⟨answers, outlined, ?_, b, batched, ?_, ?_⟩
  · intro stream streams
    rw [outlined.transaction, Outline.phase] at streams
    split at streams <;> cases streams
  · exact (congrArg responder last).symm
  · intro again c other
    obtain ⟨rfl, rfl⟩ := batched.unique other
    exact ⟨rfl, rfl⟩

end Relay.Emulated

end PictureTransfer
