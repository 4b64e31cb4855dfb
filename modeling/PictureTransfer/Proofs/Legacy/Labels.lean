import PictureTransfer.Proofs.Container.Standard
import PictureTransfer.Proofs.Legacy.Datasets
import PictureTransfer.Proofs.Legacy.Recording

/-!
# The labels of responses

The legacy camera shows a status line right behind every RESPONSE. The line names an operation, and
the camera takes that name from the container that came in last. An operation without a DATA phase
is answered when a container of its own comes in, and so its RESPONSE is labelled by its own code. A
stream ends some completions later, and what came in meanwhile labels its RESPONSE, also if it was
dropped. `labels_responses` says for every run which COMMAND a RESPONSE answers and which line
follows it, and `labels_other_operation` is a run in which that line names an operation that nobody
asked for.

`Answers` says what one callback does in this respect (`answers_reaction`): its RESPONSE is
labelled, and what is under way behind it was so before it or is that of a COMMAND which came in.
`Told` says what a run knows of its camera, the COMMAND that an operation under way belongs to among
it; it holds in front of the first callback and is kept by each (`told_run`).
-/

namespace PictureTransfer

/-! ## The container that came in last -/

namespace Callback

/-- The code of the last container after a callback, from that before it. -/
def codeAfter (code : UInt16) (x : Callback) : UInt16 :=
  (x.container?.map (·.header.code)).getD code

/-- The code of the last container after some callbacks, from that before them. -/
def lastCode (code : UInt16) (callbacks : List Callback) : UInt16 := callbacks.foldl codeAfter code

theorem codeAfter_of_container {x : Callback} {c : Container} (h : x.container? = some c)
    (code : UInt16) : x.codeAfter code = c.header.code := by
  rw [codeAfter, h]
  rfl

theorem lastCode_append (code : UInt16) (before after : List Callback) :
    lastCode code (before ++ after) = lastCode (lastCode code before) after := List.foldl_append

/-- Where only containers of one code come in, the last one has that code. -/
theorem lastCode_of_same {code : UInt16} {callbacks : List Callback}
    (same : ∀ x ∈ callbacks, ∀ c, x.container? = some c → c.header.code = code) :
    lastCode code callbacks = code := by
  induction callbacks with
  | nil => rfl
  | cons x rest ih =>
    obtain ⟨first, later⟩ := List.forall_mem_cons.1 same
    have kept : x.codeAfter code = code := by
      cases container : x.container? with
      | none => rw [codeAfter, container]; rfl
      | some c => rw [codeAfter_of_container container, first c container]
    show lastCode (x.codeAfter code) rest = code
    rw [kept]
    exact ih later

/-- Some callbacks end with a COMMAND and what came since, without another COMMAND and without a
reset. -/
def Opened (c : Container) (since callbacks : List Callback) : Prop :=
  ∃ before x, callbacks = before ++ x :: since ∧ x.command? = some c ∧
    uncut (lastInterface before) since

theorem opened_of_command {x : Callback} {c : Container} (command : x.command? = some c)
    (callbacks : List Callback) : Opened c [] (callbacks ++ [x]) :=
  ⟨callbacks, x, rfl, command, rfl⟩

/-- A callback that is no cut comes since the COMMAND. -/
theorem Opened.concat {c : Container} {since callbacks : List Callback}
    (opened : Opened c since callbacks) {x : Callback}
    (kept : x.cuts (lastInterface callbacks) = false) :
    Opened c (since ++ [x]) (callbacks ++ [x]) := by
  obtain ⟨before, y, rfl, command, whole⟩ := opened
  refine ⟨before, y, by simp, command, ?_⟩
  rw [uncut_concat, whole, ← lastInterface_of_command command, kept]
  rfl

/-- From a COMMAND on, the containers since tell which one was the last. -/
theorem Opened.lastCode_eq {c : Container} {since callbacks : List Callback}
    (opened : Opened c since callbacks) (code : UInt16) :
    lastCode code callbacks = lastCode c.header.code since := by
  obtain ⟨before, x, rfl, command, -⟩ := opened
  have own := codeAfter_of_container (command?_eq_some.1 command).1 (lastCode code before)
  rw [lastCode_append, ← own]
  rfl

end Callback

/-! ## What is under way -/

namespace Transaction

/-- The operation under way, by its code and its transaction. -/
def underWay? : Transaction → Option (UInt16 × UInt32)
  | idle => none
  | awaitingData op => some (op.code, op.tid)
  | streaming s => some (s.op, s.tid)

/-- A stream is of an operation in the catalog, and no transfer that is left of it is as long as a
RESPONSE. -/
def Listed : Transaction → Prop
  | streaming s => Catalog.lookup s.op ≠ none ∧
      ∀ transfer ∈ s.rest, transfer.length ≠ Header.standardLength
  | _ => True

/-- A stream that goes on sends no RESPONSE, and is still that of its operation. -/
theorem Listed.next {s t : DataStream} {transfer : Bytes} (listed : (streaming s).Listed)
    (step : s.next? = some (transfer, t)) : transfer.length ≠ Header.standardLength ∧
      (streaming t).Listed ∧ (streaming t).underWay? = (streaming s).underWay? := by
  obtain ⟨found, apart⟩ := listed
  rw [DataStream.rest_of_next? step] at apart
  obtain ⟨first, others⟩ := List.forall_mem_cons.1 apart
  have same := DataStream.op_of_next? step
  refine ⟨first, ⟨?_, others⟩, ?_⟩
  · rw [same]
    exact found
  · rw [underWay?, underWay?, same, DataStream.tid_of_next? step]

end Transaction

namespace Legacy

open Callback

/-! ## Labelled actions -/

/-- Every RESPONSE among some actions is one to the given operation, and right behind it stands its
label, taken from the given code. Unless the operation has a DATA phase, that code is its own. -/
inductive Labelled (own : Option (UInt16 × UInt32)) (code : UInt16) : List Action → Prop where
  | nil : Labelled own code []
  | other {x : Action} {rest : List Action}
      (apart : ∀ transfer, x.transfer? = some transfer → transfer.length ≠ Header.standardLength)
      (later : Labelled own code rest) : Labelled own code (x :: rest)
  | response {op : UInt16} {tid : UInt32} {rest : List Action} (rc : UInt16)
      (serves : own = some (op, tid)) (named : Catalog.lookup op = none → code = op)
      (later : Labelled own code rest) :
      Labelled own code
        (.submit (responseContainer rc tid) :: .status (responseLabel code rc) :: rest)

section Labelled

variable {own : Option (UInt16 × UInt32)} {code : UInt16}

theorem Labelled.append {front back : List Action} (first : Labelled own code front)
    (later : Labelled own code back) : Labelled own code (front ++ back) := by
  induction first with
  | nil => exact later
  | other apart _ ih => exact .other apart ih
  | response rc serves named _ ih => exact .response rc serves named ih

/-- Where nothing is sent nothing has to be labelled. -/
theorem labelled_of_unsent {actions : List Action} (unsent : ∀ x ∈ actions, x.transfer? = none) :
    Labelled own code actions := by
  induction actions with
  | nil => exact .nil
  | cons x rest ih =>
    obtain ⟨first, later⟩ := List.forall_mem_cons.1 unsent
    refine .other ?_ (ih later)
    intro transfer carried
    rw [first] at carried
    cases carried

theorem labelled_of_silent {actions : List Action} (silent : Action.Silent actions) :
    Labelled own code actions := by
  apply labelled_of_unsent
  intro x listed
  exact (silent x listed).2

theorem labelled_reports (events : List Event) :
    Labelled own code (events.map Action.report) := by
  apply labelled_of_unsent
  intro x listed
  obtain ⟨event, -, rfl⟩ := List.mem_map.1 listed
  rfl

/-- A RESPONSE among labelled actions is one to their operation, and its label stands right behind
it. -/
theorem Labelled.label {front back : List Action} {rc : UInt16} {tid : UInt32}
    (labelled : Labelled own code (front ++ .submit (responseContainer rc tid) :: back)) :
    ∃ op, own = some (op, tid) ∧ (Catalog.lookup op = none → code = op) ∧
      ∃ rest, back = .status (responseLabel code rc) :: rest := by
  have whole : (responseContainer rc tid).length = Header.standardLength := by
    rw [responseContainer, length_standardContainer]
    rfl
  generalize all : front ++ .submit (responseContainer rc tid) :: back = actions at labelled
  -- over the actions: either the RESPONSE is the first of them, or it is among the later ones
  induction labelled generalizing front with
  | nil => simp at all
  | other apart later ih =>
    cases front with
    | nil =>
      obtain ⟨rfl, rfl⟩ := List.cons.inj all
      exact absurd whole (apart _ rfl)
    | cons y front => exact ih (List.cons.inj all).2
  | @response op again rest other serves named later ih =>
    cases front with
    | nil =>
      obtain ⟨same, rfl⟩ := List.cons.inj all
      have same : responseContainer rc tid = responseContainer other again := by
        injection same with same
        injection same
      obtain ⟨rfl, rfl⟩ := responseContainer_inj.1 same
      exact ⟨op, serves, named, rest, rfl⟩
    | cons y front =>
      -- the action behind a RESPONSE is its label, which is no RESPONSE
      cases front with
      | nil => cases (List.cons.inj (List.cons.inj all).2).1
      | cons z front => exact ih (List.cons.inj (List.cons.inj all).2).2

end Labelled

/-! ## What one callback answers -/

/-- A reaction that answers the given operation and no other. Its RESPONSE is labelled from the
given code, which is that of the last container, and what is under way from then on is that
operation. -/
structure Answers (own : Option (UInt16 × UInt32)) (code : UInt16) (r : Reaction Legacy) :
    Prop where
  labelled : Labelled own code r.2
  underWay : ∀ op, r.1.transaction.underWay? = some op → own = some op
  listed : r.1.transaction.Listed
  lastOp : r.1.lastOp = code

section Answers

variable {own : Option (UInt16 × UInt32)} {code : UInt16}

theorem Answers.andThen {r : Reaction Legacy} {next : Legacy → Reaction Legacy}
    (first : Labelled own code r.2) (later : Answers own code (next r.1)) :
    Answers own code (r.andThen next) :=
  ⟨first.append later.labelled, later.underWay, later.listed, later.lastOp⟩

theorem Answers.followedBy {r : Reaction Legacy} (first : Answers own code r)
    {actions : List Action} (unsent : ∀ x ∈ actions, x.transfer? = none) :
    Answers own code (r.followedBy actions) :=
  ⟨first.labelled.append (labelled_of_unsent unsent), first.underWay, first.listed, first.lastOp⟩

/-- A state in which nothing is under way, behind labelled actions. -/
theorem answers_of_idle {s : Legacy} (idle : s.transaction = .idle) {actions : List Action}
    (labelled : Labelled own s.lastOp actions) : Answers own s.lastOp (s, actions) := by
  refine ⟨labelled, ?_, ?_, rfl⟩
  · intro op under
    rw [idle] at under
    cases under
  · rw [idle]
    trivial

/-- A state that keeps what was under way, behind actions that send nothing. -/
theorem answers_of_kept {s t : Legacy} (listed : s.transaction.Listed)
    (kept : t.transaction = s.transaction) {actions : List Action}
    (unsent : ∀ x ∈ actions, x.transfer? = none) :
    Answers s.transaction.underWay? t.lastOp (t, actions) := by
  refine ⟨labelled_of_unsent unsent, ?_, ?_, rfl⟩
  · intro op under
    rw [← kept]
    exact under
  · rw [kept]
    exact listed

theorem answers_respond {s : Legacy} (idle : s.transaction = .idle) {op : UInt16}
    (named : Catalog.lookup op = none → s.lastOp = op) (rc : UInt16) (tid : UInt32) :
    Answers (some (op, tid)) s.lastOp (s, s.respond rc tid) :=
  answers_of_idle idle (.response rc rfl named .nil)

/-- An operation of the catalog is under way once its stream is started, and no transfer of the
stream is as long as a RESPONSE; any other operation is answered at once. -/
theorem answers_stream {s : Legacy} (idle : s.transaction = .idle) (tid : UInt32) :
    Answers (some (s.lastOp, tid)) s.lastOp (s.stream s.lastOp tid) := by
  rw [stream, idle]
  cases found : Catalog.lookup s.lastOp with
  | none => exact answers_respond idle (fun _ => rfl) _ _
  | some payload =>
    -- what the stream sends first and what it then has left are the transfers of its dataset
    let fresh : DataStream := { op := s.lastOp, tid, payload, respondAfter := true }
    have whole : fresh.start.1 :: fresh.start.2.rest = _ := DataStream.start_rest rfl
    have apart : ∀ transfer ∈ fresh.start.1 :: fresh.start.2.rest,
        transfer.length ≠ Header.standardLength := by
      rw [whole]
      intro transfer
      exact length_transfer_ne found
    obtain ⟨first, others⟩ := List.forall_mem_cons.1 apart
    refine ⟨?_, ?_, ⟨?_, others⟩, rfl⟩
    · refine .other ?_ (.other ?_ .nil)
      · intro transfer carried
        cases carried
        exact first
      · intro transfer carried
        cases carried
    · intro op under
      exact under
    · show Catalog.lookup s.lastOp ≠ none
      rw [found]
      exact Option.some_ne_none payload

theorem answers_onCommand {s : Legacy} {c : Container} (last : s.lastOp = c.header.code) :
    Answers (some (c.header.code, c.header.tid)) c.header.code (s.onCommand c) := by
  rw [onCommand, ← last]
  have answered : ∀ (session : Session) (rc : UInt16),
      Answers (some (s.lastOp, c.header.tid)) s.lastOp
        ({ s with session, transaction := .idle }, s.respond rc c.header.tid) := by
    intro session rc
    exact answers_respond (s := { s with session, transaction := .idle }) rfl (fun _ => rfl) _ _
  -- what was under way is dropped, and then the cases are those of the code
  refine Answers.andThen (labelled_of_silent s.transaction.silent_superseded) ?_
  dsimp only
  split
  · exact answered _ _
  · split
    · exact answered _ _
    · split
      · exact ⟨.nil, fun op waits => waits, trivial, rfl⟩
      · exact answers_stream (s := { s with transaction := .idle }) rfl _

/-- DATA is answered for the operation that waits for it, and it has the code of that operation. -/
theorem answers_onData {s : Legacy} {c : Container} (listed : s.transaction.Listed)
    (last : s.lastOp = c.header.code) :
    Answers s.transaction.underWay? c.header.code (s.onData c) := by
  rw [onData]
  cases taken : s.transaction.takePending? c.header.code c.header.tid with
  | none =>
    rw [← last]
    exact answers_of_kept listed rfl (List.forall_mem_nil _)
  | some op =>
    obtain ⟨under, code, tid⟩ := Transaction.takePending?_eq_some.1 taken
    have own : s.transaction.underWay? = some (s.lastOp, c.header.tid) := by
      rw [under, last, ← code, ← tid]
      rfl
    rw [own, ← last]
    -- whatever was pressed, the RESPONSE follows in a state in which nothing waits any more
    dsimp only
    cases recKind? op.param0 c.tail with
    | none =>
      refine Answers.andThen .nil ?_
      exact answers_respond (s := { s with transaction := .idle }) rfl (fun _ => rfl) _ _
    | some kind =>
      refine Answers.andThen (labelled_reports [.recording _, .status _]) ?_
      exact answers_respond
        (s := { s with transaction := .idle, recording := kind.recording }) rfl (fun _ => rfl) _ _

end Answers

/-- The operation that a RESPONSE at a callback answers: that of a COMMAND which comes in, or else
the one under way, unless all is reset. -/
def served? (s : Legacy) (x : Callback) : Option (UInt16 × UInt32) :=
  if x.resets s.session.interface then none
  else match x.command? with
    | some c => some (c.header.code, c.header.tid)
    | none => s.transaction.underWay?

section Reaction

variable {s : Legacy}

theorem answers_outCompleted (listed : s.transaction.Listed) (data : Bytes) :
    Answers (s.served? (.outCompleted data)) (codeAfter s.lastOp (.outCompleted data))
      (s.outCompleted data) := by
  have unsent : ∀ x ∈ [Action.armOut], x.transfer? = none := List.forall_mem_singleton.2 rfl
  have kept : Callback.resets s.session.interface (.outCompleted data) = false := rfl
  refine Answers.followedBy ?_ unsent
  rw [served?, kept, if_neg Bool.false_ne_true]
  cases classified : Container.classify data with
  | error e =>
    have container : (Callback.outCompleted data).container? = none := by
      rw [container?, classified]
      rfl
    rw [command?, codeAfter, container]
    exact answers_of_kept listed rfl (List.forall_mem_nil _)
  | ok c =>
    have container := container?_eq_some.2 ⟨data, rfl, classified⟩
    rw [codeAfter_of_container container, command?, container]
    show Answers _ _ (s.onContainer c)
    rw [onContainer]
    refine Answers.andThen ?_ ?_
    · exact labelled_reports [.container .toDevice (summary c) c.rawLength,
        .status (receiveLabel c.header.code)]
    · have ignored : Answers s.transaction.underWay? c.header.code
          ({ s with lastOp := c.header.code }, []) :=
        answers_of_kept (t := { s with lastOp := c.header.code }) listed rfl (List.forall_mem_nil _)
      -- only a COMMAND and DATA are answered
      cases kind : c.header.kind with
      | command =>
        simp only [Option.filter_some, kind]
        exact answers_onCommand rfl
      | data =>
        simp only [Option.filter_some, kind]
        exact answers_onData (s := { s with lastOp := c.header.code }) listed rfl
      | response =>
        simp only [Option.filter_some, kind]
        exact ignored
      | event =>
        simp only [Option.filter_some, kind]
        exact ignored

/-- A completion sends the next transfer of a stream, or the RESPONSE at its end. -/
theorem answers_inCompleted (listed : s.transaction.Listed) (ep : UInt8) :
    Answers s.transaction.underWay? s.lastOp (s.inCompleted ep) := by
  rw [inCompleted]
  split
  · cases under : s.transaction with
    | streaming stream =>
      rw [under] at listed
      simp only [Transaction.inCompleted]
      cases step : stream.next? with
      | some next =>
        obtain ⟨apart, still, same⟩ := listed.next step
        refine ⟨.other ?_ .nil, ?_, still, rfl⟩
        · intro transfer carried
          cases carried
          exact apart
        · intro op goes_on
          rw [← same]
          exact goes_on
      | none =>
        cases owed : stream.owed with
        | none => exact answers_of_idle (s := { s with transaction := .idle }) rfl .nil
        | some tid =>
          have own : stream.tid = tid := by
            rw [DataStream.owed, Option.ite_none_right_eq_some] at owed
            exact Option.some.inj owed.2
          rw [Transaction.underWay?, own]
          exact answers_respond (s := { s with transaction := .idle }) rfl
            (fun unlisted => absurd unlisted listed.1) _ _
    | idle => exact answers_of_idle (s := { s with transaction := .idle }) rfl .nil
    | awaitingData op => exact ⟨.nil, fun _ waits => waits, trivial, rfl⟩
  · exact answers_of_kept listed rfl (List.forall_mem_nil _)

theorem answers_control (listed : s.transaction.Listed) (view : Bus.View) (setup : Setup) :
    Answers (if setup.resets s.session.interface then none else s.transaction.underWay?) s.lastOp
      (s.control view setup).1 := by
  have silent := Action.silent_control view setup s.session.interface
  simp only [control, Control.reset_outcome]
  cases setup.resets s.session.interface with
  | true =>
    rw [if_pos rfl, if_pos rfl]
    dsimp only
    refine Answers.andThen ?_ ?_
    · exact labelled_of_silent silent
    · exact answers_of_idle (s := s.clear) rfl (labelled_reports [.reset .classRequest])
  | false => exact answers_of_kept listed rfl fun x asked => (silent x asked).2

theorem answers_reaction (listed : s.transaction.Listed) (view : Bus.View) (x : Callback) :
    Answers (s.served? x) (x.codeAfter s.lastOp) (Responder.reaction view x s) := by
  cases x with
  | busReset =>
    exact answers_of_idle (s := s.busReset.1) rfl (labelled_reports _)
  | interfaceOpened interface =>
    have unsent : ∀ y ∈ [Action.report (.interfaceOpened interface), .armOut],
        y.transfer? = none := List.forall_mem_cons.2 ⟨rfl, List.forall_mem_singleton.2 rfl⟩
    exact answers_of_kept
      (t := { s with session := s.session.openInterface interface }) listed rfl unsent
  | control setup data => exact answers_control listed view setup
  | outCompleted data => exact answers_outCompleted listed data
  | inCompleted ep => exact answers_inCompleted listed ep

end Reaction

/-! ## Runs of the camera -/

/-- An operation is that of the last COMMAND, and nothing has been reset since. -/
def Belongs (op : UInt16 × UInt32) (callbacks : List Callback) : Prop :=
  ∃ c since, Opened c since callbacks ∧ op = (c.header.code, c.header.tid)

/-- What the callbacks of a run say of the camera behind them. -/
structure Told (callbacks : List Callback) (s : Legacy) : Prop where
  interface : s.session.interface = lastInterface callbacks
  lastOp : s.lastOp = lastCode 0 callbacks
  listed : s.transaction.Listed
  belongs : ∀ op, s.transaction.underWay? = some op → Belongs op callbacks

/-- What is served at a callback belongs to the last COMMAND. -/
theorem Told.served {callbacks : List Callback} {s : Legacy} (told : Told callbacks s)
    {x : Callback} {op : UInt16 × UInt32} (served : s.served? x = some op) :
    Belongs op (callbacks ++ [x]) := by
  cases resets : x.resets s.session.interface with
  | true =>
    rw [served?, if_pos resets] at served
    cases served
  | false =>
    rw [served?, resets, if_neg Bool.false_ne_true] at served
    cases command : x.command? with
    | some c =>
      rw [command] at served
      exact ⟨c, [], opened_of_command command callbacks, (Option.some.inj served).symm⟩
    | none =>
      rw [command] at served
      obtain ⟨c, since, opened, own⟩ := told.belongs op served
      -- no COMMAND and no reset: the callback comes since the COMMAND that was the last one so far
      have kept : x.cuts (lastInterface callbacks) = false := by
        rw [← told.interface, cuts, resets, command]
        rfl
      exact ⟨c, since ++ [x], opened.concat kept, own⟩

variable {β : Type} [Bus β]

theorem Told.step {callbacks : List Callback} {a : Attached β Legacy}
    (told : Told callbacks a.responder) (x : Callback) :
    Told (callbacks ++ [x]) (a.step x).responder := by
  have answers := answers_reaction told.listed (Bus.view a.bus) x
  constructor
  · have kept := congrArg Ledger.interface (ledger_step a x)
    rw [Ledger.interface_entry] at kept
    rw [lastInterface_concat, ← told.interface]
    exact kept
  · rw [lastCode_append, ← told.lastOp, Attached.responder_step]
    exact answers.lastOp
  · rw [Attached.responder_step]
    exact answers.listed
  · intro op under
    rw [Attached.responder_step] at under
    exact told.served (answers.underWay op under)

theorem told_run (bus : β) (callbacks : List Callback) :
    Told callbacks ((attachedTo bus).run callbacks).responder := by
  induction callbacks using List.reverseRecOn with
  | nil =>
    refine ⟨rfl, rfl, trivial, ?_⟩
    intro op under
    cases under
  | append_singleton callbacks x ih =>
    rw [Attached.run_append, Attached.run_cons, Attached.run_nil]
    exact ih.step x

/-- The code that labels the RESPONSE to a COMMAND: its own, but behind a DATA phase that of the
container which came in last. -/
def labelCode (c : Container) (since : List Callback) : UInt16 :=
  if (Catalog.lookup c.header.code).isSome then lastCode c.header.code since else c.header.code

/-- On every bus and for every run: a RESPONSE answers the last COMMAND, with no reset in between,
and the action right behind it shows its label. The label is taken from the code of the COMMAND,
except that behind a DATA phase the container which came in last gives it. So it names the operation
that is answered if no container of another code came in since. -/
theorem labels_responses (bus : β) {before : List Callback} {x : Callback}
    {front back : List Action} {rc : UInt16} {tid : UInt32}
    (sent : ((attachedTo bus).run before).actions x
      = front ++ .submit (responseContainer rc tid) :: back) :
    ∃ c since, Opened c since (before ++ [x]) ∧ c.header.tid = tid ∧
      (∃ rest, back = .status (responseLabel (labelCode c since) rc) :: rest) ∧
      ((∀ y ∈ since, ∀ d, y.container? = some d → d.header.code = c.header.code) →
        ∃ rest, back = .status (responseLabel c.header.code rc) :: rest) := by
  have told := told_run bus before
  have answers := answers_reaction told.listed (Bus.view ((attachedTo bus).run before).bus) x
  have labelled : Labelled _ _ (((attachedTo bus).run before).actions x) := answers.labelled
  rw [sent] at labelled
  obtain ⟨op, own, named, rest, rfl⟩ := labelled.label
  obtain ⟨c, since, opened, same⟩ := told.served own
  obtain ⟨rfl, rfl⟩ := Prod.mk.inj same
  have last : x.codeAfter ((attachedTo bus).run before).responder.lastOp
      = lastCode c.header.code since := by
    rw [← opened.lastCode_eq 0, lastCode_append, ← told.lastOp]
    rfl
  have label : labelCode c since = lastCode c.header.code since := by
    rw [labelCode]
    cases found : Catalog.lookup c.header.code with
    | some payload => rfl
    | none => exact (named found).symm.trans last
  refine ⟨c, since, opened, rfl, ⟨rest, ?_⟩, ?_⟩
  · rw [label, last]
  · intro alike
    rw [last, lastCode_of_same alike]
    exact ⟨rest, rfl⟩

/-- What is no container leaves the label of a stream alone. -/
theorem labels_responses_unread :
    let before : List Callback := [.interfaceOpened 0,
      .outCompleted (commandContainer Operation.getDeviceInfo 7 []), .outCompleted [1, 2, 3]]
    let x : Callback := .inCompleted Endpoint.bulkIn
    ((attachedTo ({} : Bus.Recorder)).run before).actions x
        = [] ++ .submit (responseContainer ResponseCode.ok 7) :: [.status "info ok"] ∧
      ∃ c since, Opened c since (before ++ [x]) ∧ c.header.tid = 7 ∧
        (∃ rest, [Action.status "info ok"]
          = .status (responseLabel (labelCode c since) ResponseCode.ok) :: rest) ∧
        ((∀ y ∈ since, ∀ d, y.container? = some d → d.header.code = c.header.code) →
          ∃ rest, [Action.status "info ok"]
            = .status (responseLabel c.header.code ResponseCode.ok) :: rest) := by
  intro before x
  have sent : ((attachedTo ({} : Bus.Recorder)).run before).actions x
      = [] ++ .submit (responseContainer ResponseCode.ok 7) :: [.status "info ok"] := by
    decide +kernel
  exact ⟨sent, labels_responses ({} : Bus.Recorder) sent⟩

/-- DATA for another operation that comes in behind the first transfer of a stream is dropped, and
yet the RESPONSE of the stream is labelled as one to that other operation. -/
theorem labels_other_operation :
    let asked : Callback := .outCompleted (commandContainer Operation.getDeviceInfo 7 [])
    let dropped : Callback := .outCompleted (dataContainer Operation.closeSession 8 [])
    let x : Callback := .inCompleted Endpoint.bulkIn
    let before := [.interfaceOpened 0, asked, dropped]
    let a := attachedTo ({} : Bus.Recorder)
    (a.run before).actions x
        = [.submit (responseContainer ResponseCode.ok 7), .status "close ok"] ∧
      ∃ c, Opened c [dropped, x] (before ++ [x]) ∧
        c.header = ⟨.command, Operation.getDeviceInfo, 7⟩ ∧
        responseLabel c.header.code ResponseCode.ok ≠ "close ok" := by
  intro asked dropped x before a
  refine ⟨by decide +kernel, ⟨.standard, ⟨.command, Operation.getDeviceInfo, 7⟩, []⟩, ?_, rfl, ?_⟩
  · exact ⟨[.interfaceOpened 0], asked, rfl, by decide, by decide⟩
  · decide

end Legacy

end PictureTransfer
