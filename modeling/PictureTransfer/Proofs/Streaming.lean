import PictureTransfer.Proofs.Collection
import PictureTransfer.Proofs.Legacy.Segment
import PictureTransfer.Proofs.Standard.Description

/-!
# Responders that stream

Both cameras answer a COMMAND with transfers of which the first is sent at once, and each completion
sends the next one. A COMMAND that finds such a stream under way empties the queue of its bus, and
any other leaves it. `Responder.Streamer` is a responder that does so, with what it answers, and the
legacy camera (`Legacy.streamer`) and the standard one (`Standard.streamer`) are streamers.
-/

namespace PictureTransfer

open Callback (collected)

/-- A responder that answers each COMMAND with transfers, and streams them. Beside its answers it
may send something at a callback that brings no COMMAND. -/
structure Responder.Streamer (σ : Type) [Responder σ] where
  transaction : σ → Transaction
  isCommand : Callback → Bool
  /-- All transfers that answer a COMMAND which nothing interrupts. -/
  answer : Callback → σ → List Bytes
  /-- What is sent in the middle of a stream and is no part of it. -/
  aside : Callback → List Bytes
  answered : ∀ {a : Attached Bus.Endpoints σ} {x : Callback}, isCommand x = true →
    (a.step x).queue = (if (transaction a.responder).streams then [] else a.queue)
        ++ (answer x a.responder).take 1 ∧
      (transaction (a.step x).responder).due = (answer x a.responder).drop 1
  streamed : ∀ {a : Attached Bus.Endpoints σ} {x : Callback}, isCommand x = false →
    (transaction (a.step x).responder).streams = true →
    (transaction a.responder).streams = true ∧
      (a.step x).queue = a.queue
        ++ ((transaction a.responder).due.take (collected [x]) ++ aside x) ∧
      (transaction (a.step x).responder).due = (transaction a.responder).due.drop (collected [x])

/-- What is sent at some callbacks in the middle of a stream that still owes these transfers. -/
def Responder.Streamer.pours {σ : Type} [Responder σ] (k : Streamer σ) :
    List Bytes → List Callback → List Bytes
  | _, [] => []
  | due, x :: rest =>
    due.take (collected [x]) ++ k.aside x ++ k.pours (due.drop (collected [x])) rest

/-- What is sent for a COMMAND and at the callbacks since. -/
def Responder.Streamer.sends {σ : Type} [Responder σ] (k : Streamer σ) (y : Callback) (s : σ)
    (since : List Callback) : List Bytes :=
  (k.answer y s).take 1 ++ k.pours ((k.answer y s).drop 1) since

namespace Attached

variable {σ : Type} [Responder σ] {a : Attached Bus.Endpoints σ} {x : Callback}

/-- Regular actions that abort nothing put what they send behind what waits. -/
theorem queue_step_of_regular (regular : ∀ y ∈ a.actions x, y.Regular)
    (keeps : .request (.abortIn Endpoint.bulkIn) ∉ a.actions x) :
    (a.step x).queue = a.queue ++ (a.actions x).filterMap Action.transfer? := by
  rw [step_eq_react]
  exact queue_of_regular regular keeps

/-- A stream that is given up leaves nothing in the queue, and what is sent then comes behind what
there is. -/
theorem queue_step_of_supersedes {under : Transaction}
    (supersedes : Action.Supersedes under (a.actions x)) :
    (a.step x).queue = (if under.streams then [] else a.queue)
      ++ (a.actions x).filterMap Action.transfer? := by
  obtain ⟨events, back, actions, plain⟩ := supersedes
  have reports : ∀ y ∈ events.map Action.report, y.Plain := by
    intro y listed
    obtain ⟨event, -, rfl⟩ := List.mem_map.1 listed
    exact .report event
  have quiet : (events.map Action.report).filterMap Action.transfer? = [] := by
    rw [List.filterMap_map]
    exact List.filterMap_eq_nil_iff.2 fun event _ => rfl
  rw [step_eq_react, react]
  show ((a.actions x).foldl act _).queue = _
  rw [actions, List.foldl_append, List.foldl_append, queue_of_plain plain, List.filterMap_append,
    List.filterMap_append, quiet, under.silent_superseded.transfers, List.nil_append,
    List.nil_append, under.superseded_eq]
  refine congrArg (· ++ _) ?_
  split
  · exact Bus.Endpoints.queue_abortIn _ Endpoint.bulkIn
  · show ((events.map Action.report).foldl act _).queue = _
    rw [queue_of_plain reports, quiet]
    exact List.append_nil _

end Attached

/-! ## The legacy camera -/

namespace Legacy

variable {s : Legacy} {x : Callback} {view : Bus.View}

theorem supersedes_of_command {c : Container} (command : x.command? = some c) :
    Action.Supersedes s.transaction (Responder.reaction view x s).2 := by
  obtain ⟨container, kind⟩ := Callback.command?_eq_some.1 command
  obtain ⟨data, rfl, classified⟩ := Callback.container?_eq_some.1 container
  obtain ⟨back, actions, plain⟩ := actions_onCommand { s with lastOp := c.header.code } c
  let events : List Event :=
    [.container .toDevice (summary c) c.rawLength, .status (receiveLabel c.header.code)]
  have answered : (s.outCompleted data).2
      = events.map Action.report
        ++ (s.transaction.superseded.map Action.request ++ (back ++ [.armOut])) := by
    simp only [outCompleted, classified, onContainer, kind, Reaction.andThen, Reaction.followedBy,
      actions, List.append_assoc]
    rfl
  exact ⟨events, _, answered,
    List.forall_mem_append.2 ⟨plain, List.forall_mem_singleton.2 .armOut⟩⟩

/-- What comes in and is no COMMAND leads to plain actions. -/
theorem plain_outCompleted {data : Bytes} (other : (Callback.outCompleted data).command? = none) :
    ∀ y ∈ (s.outCompleted data).2, y.Plain := by
  refine List.forall_mem_append.2 ⟨?_, List.forall_mem_singleton.2 .armOut⟩
  split
  · next c classified =>
    refine List.forall_mem_append.2 ⟨?_, ?_⟩
    · exact List.forall_mem_cons.2 ⟨.report _, List.forall_mem_singleton.2 (.report _)⟩
    · dsimp only
      split
      · next kind =>
        have container := Callback.container?_eq_some.2 ⟨data, rfl, classified⟩
        rw [Callback.command?_eq_some.2 ⟨container, kind⟩] at other
        cases other
      · exact plain_onData _ _
      · exact List.forall_mem_nil _
      · exact List.forall_mem_nil _
  · exact List.forall_mem_nil _

/-- DATA starts no stream. -/
theorem streams_onData {c : Container} (streams : (s.onData c).1.transaction.streams = true) :
    s.transaction.streams = true := by
  rw [onData] at streams
  split at streams
  · exact streams
  · next op _ =>
    -- the operation that waited is over, whatever was pressed
    revert streams
    simp only [Reaction.andThen]
    cases recKind? op.param0 c.tail <;> intro streams <;> cases streams

/-- A control request behind which a stream goes on has reset nothing. -/
theorem streams_control {setup : Setup}
    (streams : (s.control view setup).1.1.transaction.streams = true) :
    s.transaction.streams = true ∧ setup.resets s.session.interface = false ∧
      .request (.abortIn Endpoint.bulkIn) ∉ (s.control view setup).1.2 := by
  cases resets : setup.resets s.session.interface with
  | true =>
    simp only [control, Control.reset_outcome, resets] at streams
    cases streams
  | false =>
    simp only [control, Control.reset_outcome, resets] at streams ⊢
    exact ⟨streams, trivial, Action.abortIn_not_mem_control resets⟩

/-- Where a stream goes on behind a callback that brings no COMMAND, there was one, and the callback
neither resets nor aborts anything. -/
theorem streams_reaction (other : x.command? = none)
    (streams : (Responder.reaction view x s).1.transaction.streams = true) :
    s.transaction.streams = true ∧ x.resets s.session.interface = false ∧
      .request (.abortIn Endpoint.bulkIn) ∉ (Responder.reaction view x s).2 := by
  cases x with
  | busReset => cases streams
  | interfaceOpened interface =>
    refine ⟨streams, rfl, Action.abortIn_not_mem_of_plain ?_⟩
    exact List.forall_mem_cons.2 ⟨.report _, List.forall_mem_singleton.2 .armOut⟩
  | control setup data => exact streams_control streams
  | outCompleted data =>
    have streams : (s.outCompleted data).1.transaction.streams = true := streams
    refine ⟨?_, rfl, Action.abortIn_not_mem_of_plain (plain_outCompleted other)⟩
    cases classified : Container.classify data with
    | error e =>
      simp only [outCompleted, classified] at streams
      exact streams
    | ok c =>
      simp only [outCompleted, classified, onContainer, Reaction.followedBy, Reaction.andThen]
        at streams
      split at streams
      · next kind =>
        have container := Callback.container?_eq_some.2 ⟨data, rfl, classified⟩
        rw [Callback.command?_eq_some.2 ⟨container, kind⟩] at other
        cases other
      · exact @streams_onData { s with lastOp := c.header.code } c streams
      · exact streams
      · exact streams
  | inCompleted ep =>
    have streams : (s.inCompleted ep).1.transaction.streams = true := streams
    refine ⟨?_, rfl, Action.abortIn_not_mem_of_plain (plain_inCompleted s ep)⟩
    rw [inCompleted] at streams
    split at streams
    · apply s.transaction.streams_of_inCompleted
      generalize s.transaction.inCompleted = outcome at streams ⊢
      obtain ⟨completion, transaction⟩ := outcome
      cases completion with
      | none => exact streams
      | sent transfer => exact streams
      | finished op tid => cases tid <;> exact streams
    · exact streams

section Attached

variable {a : Attached Bus.Endpoints Legacy}

/-- A COMMAND is answered, and nothing waits in front of its answer if it finds a stream under way.
-/
theorem answered_of_command {c : Container} (command : x.command? = some c) :
    (a.step x).queue = (if a.responder.transaction.streams then [] else a.queue)
        ++ (answerTo c).take 1 ∧
      (a.step x).responder.transaction.due = (answerTo c).drop 1 := by
  have entry := a.responder.ledger.entry_of_command command
  constructor
  · rw [Attached.queue_step_of_supersedes (supersedes_of_command command), transfers_actions, entry]
    rfl
  · have due := congrArg Ledger.due (ledger_step a x)
    rwa [entry] at due

/-- In the middle of a stream a completion sends what is due, and nothing else is sent. -/
theorem streamed_of_other (other : x.command? = none)
    (streams : (a.step x).responder.transaction.streams = true) :
    a.responder.transaction.streams = true ∧
      (a.step x).queue = a.queue ++ a.responder.transaction.due.take (collected [x]) ∧
      (a.step x).responder.transaction.due
        = a.responder.transaction.due.drop (collected [x]) := by
  rw [Attached.responder_step] at streams
  obtain ⟨streams, kept, keeps⟩ := streams_reaction other streams
  -- no operation waits meanwhile, and so DATA is ignored
  have pending : a.responder.ledger.pending = none :=
    Transaction.pending?_of_streams streams
  have uncut : x.cuts a.responder.ledger.interface = false := by
    rw [Callback.cuts, other]
    exact Bool.or_eq_false_iff.2 ⟨kept, rfl⟩
  have entry := Ledger.entry_of_uncut uncut fun c _ => Ledger.onData_of_none pending c
  refine ⟨streams, ?_, ?_⟩
  · rw [Attached.queue_step_of_regular (forward_reaction _ x _).regular keeps, transfers_actions,
      entry]
    rfl
  · have due := congrArg Ledger.due (ledger_step a x)
    rwa [entry] at due

end Attached

/-- The legacy camera sends nothing aside. -/
def streamer : Responder.Streamer Legacy where
  transaction := transaction
  isCommand x := x.command?.isSome
  answer x _ := x.command?.elim [] answerTo
  aside _ := []
  answered {a x} command := by
    obtain ⟨c, command⟩ := Option.isSome_iff_exists.1 command
    rw [command]
    exact answered_of_command command
  streamed {a x} other streams := by
    have other : x.command? = none := Option.not_isSome_iff_eq_none.1 (ne_true_of_eq_false other)
    rw [List.append_nil]
    exact streamed_of_other other streams

end Legacy

/-! ## The standard camera -/

namespace Standard

variable {s : Standard} {x : Callback} {view : Bus.View}

theorem supersedes_of_command {r : Received} (command : command? x = some r) :
    Action.Supersedes s.transaction (Responder.reaction view x s).2 := by
  obtain ⟨received, whole⟩ := Option.filter_eq_some_iff.1 command
  obtain ⟨back, actions, plain⟩ := s.actions_onCommand r
  cases x with
  | outCompleted data =>
    have received : Received.ofBytes? data = some r := received
    let events : List Event := [.container .toDevice r.summary r.rawLength]
    have answered : (s.outCompleted data).2
        = events.map Action.report
          ++ (s.transaction.superseded.map Action.request ++ (back ++ [.armOut])) := by
      simp only [outCompleted, received, onReceived, if_pos whole, Reaction.andThen,
        Reaction.followedBy, actions, List.append_assoc]
      rfl
    exact ⟨events, _, answered,
      List.forall_mem_append.2 ⟨plain, List.forall_mem_singleton.2 .armOut⟩⟩
  | _ => cases received

theorem refused_of_command? {data : Bytes} {r : Received}
    (other : command? (.outCompleted data) = none) (received : Received.ofBytes? data = some r) :
    r.isCommand = false := by
  simpa [command?, received?, received, Option.filter] using other

theorem onReceived_of_refused {r : Received} (refused : r.isCommand = false) :
    s.onReceived r = (s, .report (.container .toDevice r.summary r.rawLength)
      :: respond ResponseCode.generalError r.tid) := by
  rw [onReceived, Reaction.andThen, refused]
  rfl

/-- What comes in and is no COMMAND changes nothing and leads to plain actions. -/
theorem outCompleted_of_refused {data : Bytes} (other : command? (.outCompleted data) = none) :
    (s.outCompleted data).1 = s ∧ ∀ y ∈ (s.outCompleted data).2, y.Plain := by
  have armed : ∀ y ∈ [Action.armOut], y.Plain := List.forall_mem_singleton.2 .armOut
  rw [outCompleted]
  split
  · next r received =>
    rw [onReceived_of_refused (refused_of_command? other received)]
    have refused := List.forall_mem_cons.2
      ⟨.report (.container .toDevice r.summary r.rawLength),
        plain_respond ResponseCode.generalError r.tid⟩
    exact ⟨rfl, List.forall_mem_append.2 ⟨refused, armed⟩⟩
  · exact ⟨rfl, armed⟩

/-- A control request behind which a stream goes on has reset nothing. -/
theorem streams_control {setup : Setup}
    (streams : (s.control view setup).1.1.transaction.streams = true) :
    s.transaction.streams = true ∧ setup.resets s.session.interface = false ∧
      .request (.abortIn Endpoint.bulkIn) ∉ (s.control view setup).1.2 := by
  cases resets : setup.resets s.session.interface with
  | true =>
    simp only [control, Control.reset_outcome, resets] at streams
    cases streams
  | false =>
    simp only [control, Control.reset_outcome, resets] at streams ⊢
    exact ⟨streams, trivial, Action.abortIn_not_mem_control resets⟩

/-- Where a stream goes on behind a callback that brings no COMMAND, there was one, and the callback
neither resets nor aborts anything. -/
theorem streams_reaction (other : command? x = none)
    (streams : (Responder.reaction view x s).1.transaction.streams = true) :
    s.transaction.streams = true ∧ x.resets s.session.interface = false ∧
      .request (.abortIn Endpoint.bulkIn) ∉ (Responder.reaction view x s).2 := by
  cases x with
  | busReset => cases streams
  | interfaceOpened interface =>
    refine ⟨streams, rfl, Action.abortIn_not_mem_of_plain ?_⟩
    exact List.forall_mem_cons.2 ⟨.report _, List.forall_mem_singleton.2 .armOut⟩
  | control setup data => exact streams_control streams
  | outCompleted data =>
    obtain ⟨same, plain⟩ := outCompleted_of_refused (s := s) other
    have streams : (s.outCompleted data).1.transaction.streams = true := streams
    rw [same] at streams
    exact ⟨streams, rfl, Action.abortIn_not_mem_of_plain plain⟩
  | inCompleted ep =>
    have streams : (s.inCompleted ep).1.transaction.streams = true := streams
    refine ⟨?_, rfl, Action.abortIn_not_mem_of_plain (plain_inCompleted s ep)⟩
    rw [inCompleted] at streams
    split at streams
    · apply s.transaction.streams_of_inCompleted
      generalize s.transaction.inCompleted = outcome at streams ⊢
      obtain ⟨completion, transaction⟩ := outcome
      cases completion with
      | none => exact streams
      | sent transfer => exact streams
      | finished op tid => cases tid <;> exact streams
    · exact streams

section Attached

variable {a : Attached Bus.Endpoints Standard}

/-- A COMMAND is answered, and nothing waits in front of its answer if it finds a stream under way.
-/
theorem answered_of_command {r : Received} (command : command? x = some r) :
    (a.step x).queue = (if a.responder.transaction.streams then [] else a.queue)
        ++ (a.responder.ledger.answerTo r).take 1 ∧
      (a.step x).responder.transaction.due = (a.responder.ledger.answerTo r).drop 1 := by
  have entry := Ledger.entry_of_command (l := a.responder.ledger) command
  constructor
  · rw [Attached.queue_step_of_supersedes (supersedes_of_command command), transfers_actions, entry]
    rfl
  · have due := congrArg Ledger.due (ledger_step a x)
    rwa [entry] at due

/-- In the middle of a stream a completion sends what is due, and what comes in and is no COMMAND is
refused. -/
theorem streamed_of_other (other : command? x = none)
    (streams : (a.step x).responder.transaction.streams = true) :
    a.responder.transaction.streams = true ∧
      (a.step x).queue = a.queue ++ (a.responder.transaction.due.take (collected [x])
        ++ (refusal? x).toList) ∧
      (a.step x).responder.transaction.due
        = a.responder.transaction.due.drop (collected [x]) := by
  rw [Attached.responder_step] at streams
  obtain ⟨streams, kept, keeps⟩ := streams_reaction other streams
  have uncut : (x.resets a.responder.ledger.session.interface || (command? x).isSome) = false := by
    rw [other]
    exact Bool.or_eq_false_iff.2 ⟨kept, rfl⟩
  obtain ⟨sends, due⟩ := Ledger.entry_of_uncut uncut
  refine ⟨streams, ?_, ?_⟩
  · rw [Attached.queue_step_of_regular (forward_reaction _ x _).regular keeps, transfers_actions,
      sends]
    rfl
  · rw [← ledger_step] at due
    exact due

end Attached

/-- The standard camera refuses what comes in and is no COMMAND, also in the middle of a stream. -/
def streamer : Responder.Streamer Standard where
  transaction := transaction
  isCommand x := (command? x).isSome
  answer x s := (command? x).elim [] s.ledger.answerTo
  aside x := (refusal? x).toList
  answered {a x} command := by
    obtain ⟨r, command⟩ := Option.isSome_iff_exists.1 command
    rw [command]
    exact answered_of_command command
  streamed {a x} other streams :=
    streamed_of_other (Option.not_isSome_iff_eq_none.1 (ne_true_of_eq_false other)) streams

end Standard

end PictureTransfer
