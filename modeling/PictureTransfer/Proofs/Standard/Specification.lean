import PictureTransfer.Proofs.Collection
import PictureTransfer.Proofs.Container.Standard
import PictureTransfer.Proofs.Since
import PictureTransfer.Proofs.Standard.Description
import PictureTransfer.Proofs.Standard.Slices
import Mathlib.Data.List.Induction

/-!
# What the standard camera answers

`specified` says from the bytes of a transfer, and from whether a session is open, what the standard
camera answers to a host that collects everything before its next transfer. Whether a session is
open is a fact about the past: some OpenSession was answered with OK, and no reset came since
(`SessionOpen`). A history of callbacks, each with what was collected after it, tells of the camera
what it should (`tells_of_collectedEach`), and `answers_as_specified` says what such a host collects
next. It also says that the camera reads a transfer at no place where it has no bytes, and that no
session has the id zero.
-/

namespace PictureTransfer.Standard

open Bytes (word16At word32At)

/-! ## A host that collects everything -/

/-- Nothing waits for the host, and nothing is owed to it. -/
structure AtRest (a : Attached Bus.Endpoints Standard) : Prop where
  queue : a.queue = []
  due : a.responder.ledger.due = []

/-- What waits is collected, and behind it what is due. -/
theorem collected_due {a : Attached Bus.Endpoints Standard}
    (waits : a.queue = [] → a.responder.ledger.due = []) :
    ∃ b, a.Collected (a.queue ++ a.responder.ledger.due) b ∧ AtRest b ∧
      b.responder.ledger = { a.responder.ledger with due := [] } := by
  -- each completion takes one transfer and sends the next one that is due
  induction left : (a.queue ++ a.responder.ledger.due).length generalizing a with
  | zero =>
    obtain ⟨queue, due⟩ := List.append_eq_nil_iff.1 (List.eq_nil_of_length_eq_zero left)
    refine ⟨a, ?_, ⟨queue, due⟩, ?_⟩
    · rw [queue, due]
      exact .done queue
    · rw [← due]
  | succ n ih =>
    have entry := entryOf_inCompleted a.responder
    have sends : (a.responder.inCompleted Endpoint.bulkIn).2.filterMap Action.transfer?
        = a.responder.ledger.due.take 1 := congrArg Ledger.Entry.sends entry
    have after : a.collect.responder.ledger
        = { a.responder.ledger with due := a.responder.ledger.due.drop 1 } := by
      rw [Attached.responder_collect]
      exact congrArg Ledger.Entry.after entry
    have due : a.collect.responder.ledger.due = a.responder.ledger.due.drop 1 :=
      congrArg Ledger.due after
    cases queue : a.queue with
    | nil =>
      rw [queue, waits queue] at left
      cases left
    | cons data waiting =>
      have next := Attached.queue_collect queue (plain_inCompleted a.responder Endpoint.bulkIn)
      have behind : a.collect.queue = waiting ++ a.responder.ledger.due.take 1 := by
        rw [next]
        exact congrArg (waiting ++ ·) sends
      obtain ⟨b, collected, rest, ledger⟩ := @ih a.collect
        (by
          intro nothing
          rw [behind] at nothing
          have last := (List.take_eq_nil_iff.1 (List.append_eq_nil_iff.1 nothing).2).resolve_left
            Nat.one_ne_zero
          rw [due, last]
          rfl)
        (by
          rw [queue, List.cons_append, List.length_cons, List.length_append] at left
          rw [behind, due, List.append_assoc, List.take_append_drop, List.length_append]
          omega)
      rw [behind, due, List.append_assoc, List.take_append_drop] at collected
      refine ⟨b, .next queue collected, rest, ?_⟩
      rw [ledger, after]

namespace Ledger

/-- A callback that sends nothing owes nothing. -/
theorem due_of_unsent {l : Ledger} (idle : l.due = []) {x : Callback}
    (unsent : (l.entry x).sends = []) : (l.entry x).after.due = [] := by
  cases x with
  | busReset => rfl
  | interfaceOpened interface => exact idle
  | control setup data =>
    rw [entry]
    cases setup.resets l.session.interface with
    | true => rfl
    | false => exact idle
  | outCompleted data =>
    rw [entry] at unsent ⊢
    split at unsent
    · next r received =>
      split at unsent
      · next whole =>
        -- an answer to a COMMAND of which nothing is sent at once is empty
        have nothing := (List.take_eq_nil_iff.1 unsent).resolve_left Nat.one_ne_zero
        rw [if_pos whole]
        show (l.answerTo r).drop 1 = []
        rw [nothing]
        rfl
      · cases unsent
    · exact idle
  | inCompleted ep =>
    rw [entry]
    split
    · show l.due.drop 1 = []
      rw [idle]
      rfl
    · exact idle

end Ledger

/-- All that is collected after a callback. -/
def Ledger.Entry.collects (e : Ledger.Entry) : List Bytes := e.sends ++ e.after.due

/-- After a callback the host collects what is sent at it and what is due then, and again nothing
waits and nothing is due. -/
theorem collected_step {a : Attached Bus.Endpoints Standard} (rest : AtRest a) (x : Callback) :
    ∃ b, (a.step x).Collected (a.responder.ledger.entry x).collects b ∧ AtRest b ∧
      b.responder.ledger = { (a.responder.ledger.entry x).after with due := [] } := by
  have sent : (a.step x).queue = (a.responder.ledger.entry x).sends := by
    rw [Attached.step_eq_react, ← transfers_actions]
    exact Attached.queue_of_forward (forward_reaction _ x _) rest.queue
  have ledger : (a.step x).responder.ledger = (a.responder.ledger.entry x).after := ledger_step a x
  have collected := @collected_due (a.step x)
  rw [sent, ledger] at collected
  exact collected (Ledger.due_of_unsent rest.due)

/-! ## The answer to a transfer -/

variable {data : Bytes} {r : Received}

/-- The transfers that answer a transfer of the host, where a session is open or not. -/
def specified (name : CameraName) (isOpen : Bool) (data : Bytes) : List Bytes :=
  let declared := word32At data 0
  let kind := word16At data 4
  let code := word16At data 6
  let tid := word32At data 8
  if data.length < 12 then []
  else if declared.toNat < 12 ∨ data.length < declared.toNat ∨ kind ≠ 1 then
    [responseContainer ResponseCode.generalError tid]
  else if code = Operation.getDeviceInfo then
    containerTransfers (dataContainer Operation.getDeviceInfo tid
      (DeviceInfo.minimal name.manufacturer name.model name.serial).encode)
      ++ [responseContainer ResponseCode.ok tid]
  else if code = Operation.openSession then
    if isOpen then [responseContainer ResponseCode.sessionAlreadyOpen tid]
    else if declared.toNat < 16 ∨ word32At data 12 = 0 then
      [responseContainer ResponseCode.invalidParameter tid]
    else [responseContainer ResponseCode.ok tid]
  else [responseContainer ResponseCode.operationNotSupported tid]

/-- The RESPONSE to an OpenSession is the one that is specified. -/
theorem opening_eq {session : Session} (received : Received.ofBytes? data = some r)
    (whole : r.isCommand = true) : opening r session =
      if session.isOpen then .error ResponseCode.sessionAlreadyOpen
      else if r.declared.toNat < 16 ∨ word32At data 12 = 0 then
        .error ResponseCode.invalidParameter
      else .ok (word32At data 12) := by
  rw [opening, Received.param0?_eq received whole]
  split
  · rfl
  · by_cases short : r.declared.toNat < 16
    · simp [short]
    · by_cases zero : word32At data 12 = 0 <;> simp [short, zero]

/-- The answer to a COMMAND is specified, and so is the refusal of any other transfer. -/
theorem specified_of_received {name : CameraName} {isOpen : Bool}
    (received : Received.ofBytes? data = some r) : specified name isOpen data =
      if r.isCommand then
        if r.code = Operation.getDeviceInfo then
          containerTransfers (dataContainer Operation.getDeviceInfo r.tid
            (deviceInfo { name })) ++ [responseContainer ResponseCode.ok r.tid]
        else if r.code = Operation.openSession then
          if isOpen then [responseContainer ResponseCode.sessionAlreadyOpen r.tid]
          else if r.declared.toNat < 16 ∨ word32At data 12 = 0 then
            [responseContainer ResponseCode.invalidParameter r.tid]
          else [responseContainer ResponseCode.ok r.tid]
        else [responseContainer ResponseCode.operationNotSupported r.tid]
      else [responseContainer ResponseCode.generalError r.tid] := by
  have refused := Received.isCommand_eq_false received
  rw [Received.ofBytes?_eq] at received
  split at received
  · next long =>
    have long : ¬data.length < 12 := Nat.not_lt.2 long
    cases received
    by_cases bad : (word32At data 0).toNat < 12 ∨ data.length < (word32At data 0).toNat
      ∨ word16At data 4 ≠ 1
    · rw [refused.2 bad]
      simp only [specified, if_neg long, if_pos bad]
      rfl
    · rw [(Bool.not_eq_false _).mp fun no => bad (refused.1 no)]
      simp only [specified, if_neg long, if_neg bad]
      rfl
  · cases received

/-- A transfer without a whole header is not answered. -/
theorem specified_of_unread {name : CameraName} {isOpen : Bool}
    (unread : Received.ofBytes? data = none) : specified name isOpen data = [] := by
  apply if_pos
  by_contra long
  have long : Header.standardLength ≤ data.length := Nat.not_lt.1 long
  rw [Received.ofBytes?_eq, if_pos long] at unread
  cases unread

/-- Where nothing is due, a transfer is answered as specified. -/
theorem collects_outCompleted {l : Ledger} (idle : l.due = []) (data : Bytes) :
    (l.entry (.outCompleted data)).collects = specified l.name l.session.isOpen data := by
  rw [Ledger.entry]
  split
  · next r received =>
    rw [specified_of_received received]
    split
    · next whole =>
      show (l.answerTo r).take 1 ++ (l.answerTo r).drop 1 = _
      rw [List.take_append_drop, Ledger.answerTo, opening_eq received whole]
      split
      · next describes =>
        rw [describes]
      · split
        · by_cases isOpen : l.session.isOpen = true
          · simp only [if_pos isOpen]
          · simp only [if_neg isOpen]
            by_cases bad : r.declared.toNat < 16 ∨ word32At data 12 = 0
            · simp only [if_pos bad]
            · simp only [if_neg bad]
        · rfl
    · rw [Ledger.Entry.collects, idle, List.append_nil]
  · next unread =>
    simp only [Ledger.Entry.collects, idle, specified_of_unread unread, List.append_nil]

/-! ## Sessions -/

/-- Answers of one RESPONSE each are the same only with the same code. -/
theorem code_of_responses {code other : UInt16} {tid again : UInt32}
    (same : [responseContainer code tid] = [responseContainer other again]) : code = other :=
  (responseContainer_inj.1 (List.singleton_injective same)).1

/-- A callback with what was collected after it: an OpenSession that was answered with OK. -/
def Opens (x : Callback × List Bytes) : Prop :=
  ∃ data, x.1 = .outCompleted data ∧ word16At data 6 = Operation.openSession ∧
    x.2 = [responseContainer ResponseCode.ok (word32At data 8)]

/-- A session is open: some OpenSession was answered with OK, and no reset came since. -/
def SessionOpen : List (Callback × List Bytes) → Prop :=
  Since (fun before y => y.1.resets (Callback.lastInterface (before.map Prod.fst)) = false)
    fun _ x => Opens x

namespace Ledger

theorem opens_outCompleted {sent : List Bytes} : Opens (.outCompleted data, sent) ↔
    word16At data 6 = Operation.openSession ∧
      sent = [responseContainer ResponseCode.ok (word32At data 8)] := by
  constructor
  · rintro ⟨_, same, code, answer⟩
    cases same
    exact ⟨code, answer⟩
  · rintro ⟨code, answer⟩
    exact ⟨data, rfl, code, answer⟩

/-- An OpenSession that finds no session open, and is in order, opens one. -/
theorem isOpen_sessionAfter {l : Ledger} (received : Received.ofBytes? data = some r)
    (whole : r.isCommand = true) : (l.sessionAfter r).isOpen = true ↔
      (r.code = Operation.openSession ∧
        specified l.name l.session.isOpen data = [responseContainer ResponseCode.ok r.tid]) ∨
      l.session.isOpen = true := by
  have invalid : ResponseCode.invalidParameter ≠ ResponseCode.ok := by decide
  rw [specified_of_received received, if_pos whole, sessionAfter]
  by_cases opens : r.code = Operation.openSession
  · have other : r.code ≠ Operation.getDeviceInfo := by
      rw [opens]
      decide
    rw [if_pos opens, if_neg other, if_pos opens, opening_eq received whole]
    cases isOpen : l.session.isOpen with
    | true => simp [isOpen]
    | false =>
      by_cases bad : r.declared.toNat < 16 ∨ word32At data 12 = 0
      · have apart : [responseContainer ResponseCode.invalidParameter r.tid]
            ≠ [responseContainer ResponseCode.ok r.tid] := mt code_of_responses invalid
        simp only [if_pos bad, if_neg Bool.false_ne_true]
        simp [isOpen, apart]
      · simp only [if_neg bad, if_neg Bool.false_ne_true]
        simp [Session.isOpen, opens]
  · simp [opens]

/-- A session is opened by an answer of OK, and stays open until a reset. -/
theorem isOpen_entry {l : Ledger} (idle : l.due = []) (x : Callback) :
    (l.entry x).after.session.isOpen = true ↔ Opens (x, (l.entry x).collects) ∨
      l.session.isOpen = true ∧ x.resets l.session.interface = false := by
  have other : ∀ {x sent}, (∀ data, x ≠ .outCompleted data) → ¬Opens (x, sent) := by
    rintro x sent apart ⟨data, same, -⟩
    exact apart data same
  cases x with
  | busReset =>
    rw [or_iff_right (other fun data same => by cases same)]
    simp [entry, Session.busReset, Session.isOpen, Callback.resets]
  | interfaceOpened interface =>
    rw [or_iff_right (other fun data same => by cases same)]
    simp [entry, Session.openInterface, Session.isOpen, Callback.resets]
  | control setup data =>
    rw [or_iff_right (other fun data same => by cases same), entry, Callback.resets]
    cases setup.resets l.session.interface with
    | true => simp [cleared, Session.isOpen]
    | false => simp
  | inCompleted ep =>
    rw [or_iff_right (other fun data same => by cases same), entry]
    split <;> simp [Callback.resets]
  | outCompleted data =>
    have still : Callback.resets l.session.interface (.outCompleted data) = false := rfl
    rw [collects_outCompleted idle, opens_outCompleted, still]
    simp only [and_true]
    cases received : Received.ofBytes? data with
    | none =>
      rw [specified_of_unread received]
      simp [entry, received]
    | some r =>
      rw [← Received.code_eq received, ← Received.tid_eq received]
      simp only [entry, received]
      by_cases whole : r.isCommand = true
      · rw [if_pos whole]
        exact isOpen_sessionAfter received whole
      · have refused : ResponseCode.generalError ≠ ResponseCode.ok := by decide
        rw [if_neg whole, specified_of_received received, if_neg whole, or_iff_right]
        rintro ⟨-, same⟩
        exact refused (code_of_responses same)

/-- No session is opened with the id zero. -/
theorem ne_zero_of_opening {session : Session} {id : UInt32} (opened : opening r session = .ok id) :
    id ≠ 0 := by
  rw [opening] at opened
  split at opened
  · cases opened
  · split at opened
    · cases opened
    · split at opened
      · cases opened
      · cases opened
        assumption

theorem id_sessionAfter {l : Ledger} (nonzero : l.session.id ≠ some 0) (r : Received) :
    (l.sessionAfter r).id ≠ some 0 := by
  rw [sessionAfter]
  split
  · cases opened : opening r l.session with
    | error code => exact nonzero
    | ok id =>
      intro zero
      exact ne_zero_of_opening opened (Option.some.inj zero)
  · exact nonzero

/-- No callback makes the id of the session zero. -/
theorem id_entry {l : Ledger} (nonzero : l.session.id ≠ some 0) (x : Callback) :
    (l.entry x).after.session.id ≠ some 0 := by
  have none_open : (none : Option UInt32) ≠ some 0 := (Option.some_ne_none 0).symm
  cases x with
  | busReset => exact none_open
  | interfaceOpened interface => exact nonzero
  | control setup data =>
    rw [entry]
    split
    · exact none_open
    · exact nonzero
  | inCompleted ep =>
    rw [entry]
    split <;> exact nonzero
  | outCompleted data =>
    rw [entry]
    split
    · next r _ =>
      split
      · exact id_sessionAfter nonzero r
      · exact nonzero
    · exact nonzero

theorem id_run {l : Ledger} (nonzero : l.session.id ≠ some 0) (callbacks : List Callback) :
    (l.run callbacks).session.id ≠ some 0 := by
  induction callbacks generalizing l with
  | nil => exact nonzero
  | cons x rest ih => exact ih (id_entry nonzero x)

theorem name_entry (l : Ledger) (x : Callback) : (l.entry x).after.name = l.name := by
  cases x with
  | busReset => rfl
  | interfaceOpened interface => rfl
  | control setup data =>
    rw [entry]
    cases setup.resets l.session.interface <;> rfl
  | outCompleted data =>
    rw [entry]
    split
    · split <;> rfl
    · rfl
  | inCompleted ep =>
    rw [entry]
    split <;> rfl

end Ledger

/-! ## Histories -/

/-- What a history tells of the camera, where the host collected everything after each callback. -/
structure Tells (name : CameraName) (history : List (Callback × List Bytes))
    (a : Attached Bus.Endpoints Standard) : Prop where
  rest : AtRest a
  name : a.responder.ledger.name = name
  interface : a.responder.ledger.session.interface
    = Callback.lastInterface (history.map Prod.fst)
  session : a.responder.ledger.session.isOpen = true ↔ SessionOpen history

/-- One more callback, with what the host collects after it. -/
theorem tells_concat {name : CameraName} {history : List (Callback × List Bytes)}
    {a b : Attached Bus.Endpoints Standard} {x : Callback} {sent : List Bytes}
    (tells : Tells name history a) (collected : (a.step x).Collected sent b) :
    Tells name (history ++ [(x, sent)]) b := by
  obtain ⟨rest, sameName, interface, session⟩ := tells
  obtain ⟨c, all, again, ledger⟩ := collected_step rest x
  obtain ⟨rfl, rfl⟩ := collected.unique all
  constructor
  · exact again
  · rw [ledger]
    exact (Ledger.name_entry _ x).trans sameName
  · rw [ledger, List.map_append, List.map_singleton, Callback.lastInterface_concat, ← interface]
    exact Ledger.interface_entry _ x
  · rw [ledger, SessionOpen, since_concat, ← interface, ← SessionOpen, ← session]
    exact Ledger.isOpen_entry rest.due x

/-- Such a history tells of the camera what it should, from the first callback on. -/
theorem tells_of_collectedEach {name : CameraName} {history : List (Callback × List Bytes)}
    {a b : Attached Bus.Endpoints Standard} (fresh : Tells name [] a)
    (each : a.CollectedEach history b) : Tells name history b := by
  induction each with
  | nil => exact fresh
  | concat earlier collected ih => exact tells_concat ih collected

/-- The host can always collect everything. -/
theorem exists_collectedEach {name : CameraName} {a : Attached Bus.Endpoints Standard}
    (fresh : Tells name [] a) (callbacks : List Callback) :
    ∃ history b, history.map Prod.fst = callbacks ∧ a.CollectedEach history b := by
  induction callbacks using List.reverseRecOn with
  | nil => exact ⟨[], a, rfl, .nil a⟩
  | append_singleton callbacks x ih =>
    obtain ⟨history, b, rfl, earlier⟩ := ih
    obtain ⟨c, collected, -, -⟩ := collected_step (tells_of_collectedEach fresh earlier).rest x
    exact ⟨_, c, by simp, .concat earlier collected⟩

/-- A new camera on endpoint queues with nothing on bulk IN. -/
theorem tells_nil (name : CameraName) {bus : Bus.Endpoints}
    (empty : bus.queue Endpoint.bulkIn = []) : Tells name [] { bus, responder := { name } } where
  rest := ⟨empty, rfl⟩
  name := rfl
  interface := rfl
  session := ⟨Bool.noConfusion, fun since => absurd since not_since_nil⟩

/-- A transfer of any bytes is read without looking outside it, in every state of the camera. A host
that collects everything after each callback can do so after any callbacks, and then each of its
transfers is answered as specified, with a session open exactly if an OpenSession was answered with
OK and no reset came since. No session has the id zero, whether or not a host collects anything. -/
theorem answers_as_specified (name : CameraName) (bus : Bus.Endpoints)
    (empty : bus.queue Endpoint.bulkIn = []) :
    let start : Attached Bus.Endpoints Standard := { bus, responder := { name } }
    (∀ data s, outCompletedSlices data s = .ok (s.outCompleted data)) ∧
    (∀ callbacks : List Callback, ∃ history b,
      history.map Prod.fst = callbacks ∧ start.CollectedEach history b) ∧
    (∀ history b, start.CollectedEach history b → ∀ data, ∃ isOpen c,
      (isOpen = true ↔ SessionOpen history) ∧
        (b.outCompleted data).Collected (specified name isOpen data) c) ∧
    ∀ {β : Type} [Bus β] (any : β) (callbacks : List Callback),
      (({ bus := any, responder := { name } } : Attached β Standard).run
        callbacks).responder.session.id ≠ some 0 := by
  intro start
  have fresh : Tells name [] start := tells_nil name empty
  refine ⟨?_, ?_, ?_, ?_⟩
  · intro data s
    exact outCompletedSlices_eq data s
  · intro callbacks
    exact exists_collectedEach fresh callbacks
  · intro history b each data
    obtain ⟨rest, sameName, -, session⟩ := tells_of_collectedEach fresh each
    obtain ⟨c, collected, -, -⟩ := collected_step rest (.outCompleted data)
    rw [collects_outCompleted rest.due, sameName] at collected
    exact ⟨_, c, session, collected⟩
  · intro β _ any callbacks
    have nonzero := Ledger.id_run (l := ledger { name }) (Option.some_ne_none 0).symm callbacks
    rw [← ledger_run { bus := any, responder := { name } }] at nonzero
    exact nonzero

/-- A host that opens session 3 and then asks for another one is told that a session is open. -/
theorem answers_as_specified_reopened :
    let start : Attached Bus.Endpoints Standard :=
      { bus := {}, responder := { name := ⟨"Maker", "Model", "0001"⟩ } }
    let opens : Bytes := commandContainer Operation.openSession 7 [3]
    let again : Bytes := commandContainer Operation.openSession 8 [4]
    start.bus.queue Endpoint.bulkIn = [] ∧
      ∃ b c, start.CollectedEach [(.outCompleted opens, [responseContainer ResponseCode.ok 7])] b ∧
        (b.outCompleted again).Collected
          [responseContainer ResponseCode.sessionAlreadyOpen 8] c := by
  intro start opens again
  refine ⟨rfl, ?_⟩
  obtain ⟨-, -, answers, -⟩ :=
    answers_as_specified ⟨"Maker", "Model", "0001"⟩ ({} : Bus.Endpoints) rfl
  -- nothing has happened before the first transfer, so that no session is open
  obtain ⟨isOpen, b, session, first⟩ := answers [] start (.nil start) opens
  have closed : isOpen = false := by
    rw [Bool.eq_false_iff, ne_eq, session]
    exact not_since_nil
  have answer : specified ⟨"Maker", "Model", "0001"⟩ isOpen opens
      = [responseContainer ResponseCode.ok 7] := by
    rw [closed]
    decide
  rw [answer] at first
  have each : start.CollectedEach
      ([] ++ [(.outCompleted opens, [responseContainer ResponseCode.ok 7])]) b :=
    .concat (.nil start) first
  -- it was answered with OK, and nothing came since
  obtain ⟨isOpen, c, session, second⟩ := answers _ b each again
  have opened : isOpen = true := session.2 (since_concat.2 (.inl ⟨opens, rfl, rfl, rfl⟩))
  rw [opened] at second
  exact ⟨b, c, each, second⟩

end PictureTransfer.Standard
