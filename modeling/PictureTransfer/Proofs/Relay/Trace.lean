import PictureTransfer.Proofs.Relay.Playback

/-!
# What passes between a bridge and its relay

A `Logged` link writes down the frames that it is given, with what became of each, and the result of
every read. On such a link all that a bridge does can be read off: `Reads` is how it reads an
answer, one read after another, and `answerIn` what it keeps of the results.

The link may give any results and may change in any way between callbacks. Still every transfer of
the host that finds it up is handed to the relay, no other is, and what is sent to the host until
that happens again is the beginning of what was read for it (`bridge_traces`).
-/

namespace PictureTransfer

namespace Relay

/-! ## Reads -/

/-- What a read gives. -/
abbrev Received := Except Error Frame

/-- Whether a bridge reads on: the frame holds a transfer for the host, or was too large and is
passed over. -/
def goesOn : Received → Bool
  | .ok frame => frame.type = 0x11
  | .error (.frameTooLarge _ _) => true
  | .error _ => false

def payload? : Received → Option Bytes
  | .ok frame => some frame.payload
  | .error _ => none

/-- The transfers in some reads, up to the first that ends the answer. -/
def answerIn (results : List Received) : List Bytes :=
  (results.takeWhile goesOn).filterMap payload?

/-- A bridge with a budget gets these results one after another and keeps these transfers. -/
inductive Reads : Nat → List Received → List Bytes → Prop
  | spent : Reads 0 [] []
  | next {n : Nat} {result : Received} {later : List Received} {transfers : List Bytes}
      (going : goesOn result = true) (reads : Reads n later transfers) :
      Reads (n + 1) (result :: later) ((payload? result).toList ++ transfers)
  | ended {n : Nat} {result : Received} (ends : goesOn result = false) :
      Reads (n + 1) [result] []

namespace Reads

variable {n : Nat} {results : List Received} {transfers : List Bytes}

theorem length_le (h : Reads n results transfers) : results.length ≤ n := by
  induction h with
  | spent => exact Nat.le_refl 0
  | next going reads ih => exact Nat.succ_le_succ ih
  | ended ends => exact Nat.succ_le_succ (Nat.zero_le _)

theorem transfers_eq (h : Reads n results transfers) : transfers = answerIn results := by
  induction h with
  | spent => rfl
  | @next n result later transfers going reads ih =>
    rw [ih, answerIn, answerIn, List.takeWhile_cons_of_pos going, filterMap_cons_eq_append]
  | ended ends => rw [answerIn, List.takeWhile_cons_of_neg (Bool.not_eq_true _ ▸ ends)]; rfl

/-- Only the last read can end the answer. -/
theorem going_of_mem_dropLast (h : Reads n results transfers) :
    ∀ result ∈ results.dropLast, goesOn result = true := by
  induction h with
  | spent => exact List.forall_mem_nil _
  | @next n result later transfers going reads ih =>
    cases later with
    | nil => exact List.forall_mem_nil _
    | cons second rest => exact List.forall_mem_cons.2 ⟨going, ih⟩
  | ended ends => exact List.forall_mem_nil _

/-- An answer that takes less than the budget was read to its end. -/
theorem ended_of_lt (h : Reads n results transfers) (short : results.length < n) :
    ∃ result ∈ results.getLast?, goesOn result = false := by
  induction h with
  | spent => exact absurd short (Nat.lt_irrefl 0)
  | @next n result later transfers going reads ih =>
    obtain ⟨last, listed, ends⟩ := ih (Nat.lt_of_succ_lt_succ short)
    cases later with
    | nil => cases listed
    | cons second rest => exact ⟨last, listed, ends⟩
  | @ended n result ends => exact ⟨result, rfl, ends⟩

end Reads

/-! ## Links that write down -/

/-- A link with the frames that it was given, each with what became of it, and the results of all
reads, the first of each first. -/
structure Logged (L : Type) where
  link : L
  sent : List (Frame × Except Error Unit) := []
  received : List Received := []

namespace Logged

variable {L : Type}

/-- The link itself changes, without anything being written down. -/
def change (f : L → L) (l : Logged L) : Logged L := { l with link := f l.link }

instance [Link L] : Link (Logged L) where
  isConnected l := Link.isConnected l.link
  send frame l :=
    let (outcome, link) := Link.send frame l.link
    (outcome, { l with link, sent := l.sent ++ [(frame, outcome)] })
  receive l :=
    let (result, link) := Link.receive l.link
    (result, { l with link, received := l.received ++ [result] })

end Logged

/-- What is read for a transfer that was handed to the relay: nothing if that failed, and else,
within the budget, everything up to the first read that ends the answer. -/
structure Exchanged (budget : Nat) (outcome : Except Error Unit) (results : List Received) :
    Prop where
  within : results.length ≤ budget
  going : ∀ result ∈ results.dropLast, goesOn result = true
  failed : outcome.toBool = false → results = []
  ended : outcome.toBool = true → results.length < budget →
    ∃ result ∈ results.getLast?, goesOn result = false

end Relay

open Relay

/-- The same turn on a link that writes down. -/
def Turn.logged {L : Type} (t : Turn L) : Turn (Logged L) := ⟨Logged.change t.meanwhile, t.callback⟩

namespace Bridge

variable {L : Type}

/-! ## Writing down changes nothing -/

/-- The bridge on the link itself. -/
def unlogged (b : Bridge (Logged L)) : Bridge L :=
  { link := b.link.link, budget := b.budget, queue := b.queue, interface := b.interface }

theorem sendNext_unlogged (b : Bridge (Logged L)) :
    b.unlogged.sendNext = (b.sendNext.1.unlogged, b.sendNext.2) := by
  obtain ⟨link, budget, queue, interface⟩ := b
  cases queue <;> rfl

variable [Link L]

/-- One read of an answer decides what is kept and whether there is a next one. -/
theorem collect_succ (n : Nat) (link : L) :
    let next := Link.receive link
    collect (n + 1) link = if goesOn next.1 then
        ((payload? next.1).toList ++ (collect n next.2).1, (collect n next.2).2)
      else ([], next.2) := by
  intro next
  have received : Link.receive link = (next.1, next.2) := rfl
  rw [collect, received]
  cases next.1 with
  | ok frame =>
    have kind : frame.kind? = some .rawIn ↔ frame.type = 0x11 := Frame.kind?_eq_some
    by_cases carries : frame.type = 0x11 <;> simp [goesOn, payload?, kind, carries]
  | error e => cases e <;> rfl

theorem collect_unlogged (n : Nat) (l : Logged L) :
    collect n l.link = ((collect n l).1, (collect n l).2.link) := by
  induction n generalizing l with
  | zero => rfl
  | succ n ih =>
    -- one read on either link gives the same, and after it both read on from the same state
    have later : collect n (Link.receive l.link).2 = _ := ih (Link.receive l).2
    have result : (Link.receive l).1 = (Link.receive l.link).1 := rfl
    rw [collect_succ, collect_succ, result, later]
    split <;> rfl

theorem forward_unlogged (data : Bytes) (b : Bridge (Logged L)) :
    b.unlogged.forward data = (b.forward data).unlogged := by
  have sends : Link.send (.rawOut data) b.link.link
      = ((Link.send (.rawOut data) b.link).1, (Link.send (.rawOut data) b.link).2.link) := rfl
  rw [forward, forward, unlogged, sends]
  dsimp only
  cases Link.send (.rawOut data) b.link with
  | mk outcome link =>
    cases outcome with
    | error e => rfl
    | ok done =>
      dsimp only
      rw [collect_unlogged]
      rfl

/-- A bridge does the same whether its link writes down what passes or not. -/
theorem reaction_unlogged (view : Bus.View) (c : Callback) (b : Bridge (Logged L)) :
    Responder.reaction view c b.unlogged
      = ((Responder.reaction view c b).1.unlogged, (Responder.reaction view c b).2) := by
  cases c with
  | busReset => rfl
  | interfaceOpened interface => rfl
  | control setup data =>
    show (b.unlogged.control view setup).1
      = ((b.control view setup).1.1.unlogged, (b.control view setup).1.2)
    have same : b.unlogged.interface = b.interface := rfl
    simp only [control, Reaction.andThen, same]
    split <;> rfl
  | outCompleted data =>
    show b.unlogged.outCompleted data = ((b.outCompleted data).1.unlogged, (b.outCompleted data).2)
    have same : Link.isConnected b.unlogged.link = Link.isConnected b.link := rfl
    simp only [outCompleted, Reaction.andThen, Reaction.followedBy, same]
    split
    · rw [forward_unlogged, sendNext_unlogged]
    · rfl
  | inCompleted ep =>
    show b.unlogged.inCompleted ep = ((b.inCompleted ep).1.unlogged, (b.inCompleted ep).2)
    simp only [inCompleted]
    split
    · exact sendNext_unlogged b
    · rfl

/-! ## One transfer of the host -/

/-- Collecting an answer is reading it, and nothing is sent meanwhile. -/
theorem reads_collect (n : Nat) (l : Logged L) :
    ∃ results, Reads n results (collect n l).1 ∧
      (collect n l).2.received = l.received ++ results ∧ (collect n l).2.sent = l.sent := by
  induction n generalizing l with
  | zero => exact ⟨[], .spent, (List.append_nil _).symm, rfl⟩
  | succ n ih =>
    obtain ⟨later, reads, received, sent⟩ := ih (Link.receive l).2
    have written : (Link.receive l).2.received = l.received ++ [(Link.receive l).1] := rfl
    rw [collect_succ]
    cases going : goesOn (Link.receive l).1 with
    | false => exact ⟨[(Link.receive l).1], .ended going, written, rfl⟩
    | true =>
      refine ⟨(Link.receive l).1 :: later, .next going reads, ?_, sent⟩
      rw [if_pos rfl, received, written, List.append_assoc, List.singleton_append]

/-- A transfer that is handed to the relay is written down once, whatever becomes of it, and what is
kept of the answer is what is read for it. -/
theorem forward_logged (b : Bridge (Logged L)) (data : Bytes) :
    ∃ outcome results, Exchanged b.budget outcome results ∧
      (b.forward data).queue = answerIn results ∧
      (b.forward data).link.sent = b.link.sent ++ [(⟨0x10, data⟩, outcome)] ∧
      (b.forward data).link.received = b.link.received ++ results := by
  obtain ⟨outcome, link, sends⟩ :
      ∃ outcome link, Link.send (.rawOut data) b.link = (outcome, link) := ⟨_, _, rfl⟩
  have written : link.sent = b.link.sent ++ [(⟨0x10, data⟩, outcome)]
      ∧ link.received = b.link.received := by
    obtain ⟨rfl, rfl⟩ := Prod.mk.inj sends
    exact ⟨rfl, rfl⟩
  rw [forward, sends]
  refine ⟨outcome, ?_⟩
  cases outcome with
  | error e =>
    -- a frame that could not be handed over is not answered, and nothing is read
    refine ⟨[], ⟨Nat.zero_le _, List.forall_mem_nil _, fun _ => rfl, ?_⟩, rfl, written.1, ?_⟩
    · rintro ⟨⟩
    · rw [List.append_nil]
      exact written.2
  | ok _ =>
    obtain ⟨results, reads, received, sent⟩ := reads_collect b.budget link
    refine ⟨results, ⟨reads.length_le, reads.going_of_mem_dropLast, ?_, ?_⟩, ?_, ?_, ?_⟩
    · rintro ⟨⟩
    · exact fun _ short => reads.ended_of_lt short
    · exact reads.transfers_eq
    · exact sent.trans written.1
    · rw [received, written.2]

end Bridge

/-! ## A run -/

namespace Attached

variable {β L : Type} [Bus β]

/-- The bridge on the link itself, on the same bus. -/
def unlogged (a : Attached β (Bridge (Logged L))) : Attached β (Bridge L) :=
  { bus := a.bus, responder := a.responder.unlogged, events := a.events }

theorem act_unlogged (x : Action) (a : Attached β (Bridge (Logged L))) :
    a.unlogged.act x = (a.act x).unlogged := by
  cases x <;> rfl

theorem submissionsOf_unlogged (actions : List Action) (a : Attached β (Bridge (Logged L))) :
    a.unlogged.submissionsOf actions = a.submissionsOf actions := by
  induction actions generalizing a with
  | nil => rfl
  | cons x rest ih =>
    rw [submissionsOf, submissionsOf, act_unlogged, ih]
    rfl

variable [Link L]

theorem step_unlogged (c : Callback) (a : Attached β (Bridge (Logged L))) :
    a.unlogged.step c = (a.step c).unlogged := by
  -- no action looks at the link
  have acted : ∀ (actions : List Action) (b : Attached β (Bridge (Logged L))),
      actions.foldl act b.unlogged = (actions.foldl act b).unlogged := by
    intro actions
    induction actions with
    | nil => exact fun b => rfl
    | cons x rest ih =>
      intro b
      rw [List.foldl_cons, List.foldl_cons, act_unlogged, ih]
  have reacts := Bridge.reaction_unlogged (Bus.view a.bus) c a.responder
  rw [step_eq_react, step_eq_react, react, react, ← acted]
  show List.foldl act { a.unlogged with
    responder := (Responder.reaction (Bus.view a.bus) c a.responder.unlogged).1 } _ = _
  rw [unlogged, reacts]
  rfl

/-- What is sent does not depend on whether the link writes down what passes. -/
theorem sentIn_unlogged (ts : List (Turn L)) (a : Attached β (Bridge (Logged L))) :
    a.unlogged.sentIn ts = a.sentIn (ts.map Turn.logged) := by
  induction ts generalizing a with
  | nil => rfl
  | cons t rest ih =>
    have found : a.unlogged.relinked t.meanwhile = (a.relinked t.logged.meanwhile).unlogged := rfl
    have acts : (a.relinked t.logged.meanwhile).unlogged.actions t.callback
        = (a.relinked t.logged.meanwhile).actions t.callback :=
      congrArg Prod.snd (Bridge.reaction_unlogged _ _ _)
    have moved : a.unlogged.turn t = (a.turn t.logged).unlogged :=
      step_unlogged t.callback (a.relinked t.logged.meanwhile)
    rw [sentIn, found, acts, submissionsOf_unlogged, moved, ih]
    rfl

/-- Every transfer that finds the link up is handed over, in order, and nothing else is. -/
theorem sent_turns (ts : List (Turn L)) (a : Attached β (Bridge (Logged L))) :
    (a.turns (ts.map Turn.logged)).responder.link.sent.map Prod.fst
      = a.responder.link.sent.map Prod.fst
        ++ (a.forwarded (ts.map Turn.logged)).map fun data => ⟨0x10, data⟩ := by
  induction ts generalizing a with
  | nil => exact (List.append_nil _).symm
  | cons t rest ih =>
    rw [List.map_cons, turns_cons, ih, forwarded, List.map_append, ← List.append_assoc]
    refine congrArg (· ++ _) ?_
    cases forwards : a.forwards? t.logged with
    | none =>
      rw [(Bridge.link_of_unforwarded forwards).1]
      exact (List.append_nil _).symm
    | some data =>
      obtain ⟨outcome, results, -, -, sent, -⟩ :=
        Bridge.forward_logged (a.relinked t.logged.meanwhile).responder data
      rw [Bridge.responder_of_forwards forwards, sent, List.map_append]
      rfl

/-- A bridge that nothing has happened to, on a link that writes down. -/
def logging (bus : β) (link : L) (budget : Nat) : Attached β (Bridge (Logged L)) where
  bus := bus
  responder := { link := { link }, budget }

/-- What a bridge with a budget does from some state on. A turn that hands nothing to the relay
leaves the link as it found it. From a turn that drops the answer nothing is sent until a transfer
is handed to the relay. In a turn that hands one over, what is read for it is read within the
budget, and until another is handed over or the answer is dropped, the transfers that were read for
it are sent in order, one at once and one for each completion on bulk IN. -/
structure Traces (budget : Nat) (a : Attached β (Bridge (Logged L))) : Prop where
  untouched : ∀ t : Turn L, a.forwards? t.logged = none →
    (a.turn t.logged).responder.link = a.responder.link.change t.meanwhile
  dropped : ∀ (t : Turn L) (between : List (Turn L)),
    t.callback.drops a.responder.interface = true →
    (a.turn t.logged).forwarded (between.map Turn.logged) = [] →
    a.sentIn ((t :: between).map Turn.logged) = []
  answered : ∀ (t : Turn L) (between : List (Turn L)) (data : Bytes),
    a.forwards? t.logged = some data →
    (a.turn t.logged).forwarded (between.map Turn.logged) = [] →
    (∀ u ∈ between, u.callback.drops a.responder.interface = false) →
    ∃ outcome results, Exchanged budget outcome results ∧
      (a.turn t.logged).responder.link.sent
        = a.responder.link.sent ++ [(⟨0x10, data⟩, outcome)] ∧
      (a.turn t.logged).responder.link.received = a.responder.link.received ++ results ∧
      a.sentIn ((t :: between).map Turn.logged)
        = ((answerIn results).take (min (1 + Callback.collected (between.map Turn.callback))
            (answerIn results).length)).map Submission.bulkIn

theorem traces {a : Attached β (Bridge (Logged L))} (takes : ∀ data, Bus.Takes a.bus data) :
    a.Traces a.responder.budget where
  untouched t none := (Bridge.link_of_unforwarded none).1
  dropped t between drops quiet := by
    -- a callback that drops the answer is no transfer of the host
    have none : a.forwards? t.logged = none := by
      obtain ⟨change, c⟩ := t
      cases c with
      | outCompleted data => cases drops
      | _ => rfl
    have silence : a.forwarded ((t :: between).map Turn.logged) = [] := by
      rw [List.map_cons, forwarded, none, quiet]
      rfl
    have nothing : Callback.pulls a.responder.interface
        (((t :: between).map Turn.logged).map Turn.callback) = 0 := if_pos drops
    rw [Bridge.sentIn_playback (fun data _ => takes data) silence, nothing]
    rfl
  answered t between data forwards quiet keeps := by
    obtain ⟨outcome, results, exchanged, queue, sent, received⟩ :=
      Bridge.forward_logged (a.relinked t.logged.meanwhile).responder data
    refine ⟨outcome, results, exchanged, ?_, ?_, ?_⟩
    · rw [Bridge.responder_of_forwards forwards]
      exact sent
    · rw [Bridge.responder_of_forwards forwards]
      exact received
    · -- the answer is not dropped meanwhile, so every completion on bulk IN asks for more of it
      have callbacks : (between.map Turn.logged).map Turn.callback = between.map Turn.callback :=
        List.map_map
      have asked : Callback.pulls (a.relinked t.logged.meanwhile).responder.interface
          (between.map Turn.callback) = Callback.collected (between.map Turn.callback) :=
        Callback.pulls_eq_collected (List.forall_mem_map.2 keeps)
      have played := Bridge.sentIn_forward forwards (fun d _ => takes d) quiet
      rw [List.map_cons, played, callbacks, queue, (Bridge.forward_kept _ data).1, asked]
      exact congrArg (List.map Submission.bulkIn) List.take_eq_take_min

end Attached

/-- Whatever results the link of a bridge gives, however it changes between callbacks, and in
whatever order callbacks come, on a bus that takes everything: for each transfer that came in while
the link was up, and in their order, the relay is handed one frame, of type 0x10 and with the bytes
of the transfer, and no other frame; nothing is sent to the host before the first of them; and from
every state on the bridge does what `Traces` says. A bridge whose link writes nothing down sends the
same. -/
theorem bridge_traces {β L : Type} [Bus β] [Link L] {bus : β} (takes : ∀ data, Bus.Takes bus data)
    (link : L) (budget : Nat) (before : List (Turn L)) :
    let start := Attached.logging bus link budget
    let a := start.turns (before.map Turn.logged)
    a.responder.link.sent.map Prod.fst
        = (start.forwarded (before.map Turn.logged)).map (fun data => ⟨0x10, data⟩) ∧
      (start.forwarded (before.map Turn.logged) = [] →
        start.sentIn (before.map Turn.logged) = []) ∧
      a.Traces budget ∧
      Attached.sentIn before ⟨bus, { link, budget }, []⟩
        = start.sentIn (before.map Turn.logged) := by
  intro start a
  refine ⟨Attached.sent_turns before start, ?_, ?_, Attached.sentIn_unlogged before start⟩
  · intro quiet
    have empty : start.responder.queue = [] := rfl
    rw [Bridge.sentIn_playback (fun data _ => takes data) quiet, empty, List.take_nil]
    rfl
  · have same : a.responder.budget = budget := Bridge.budget_turns (before.map Turn.logged) start
    rw [← same]
    exact Attached.traces fun data => Attached.takes_turns (a := start) (takes data) _

/-- A link on which an answer of two transfers waits. -/
def Relay.QueueLink.answering : QueueLink :=
  { connected := true, replies := [.rawIn [1], .rawIn [2], .done] }

/-- A transfer of the host is answered on it while one transfer is collected and another one comes
in that finds the link down. -/
theorem bridge_traces_answering :
    let a := Attached.logging ({} : Bus.Recorder) QueueLink.answering Bridge.defaultBudget
    let out : Turn QueueLink := .still _ (.outCompleted [9])
    let between : List (Turn QueueLink) :=
      [.still _ (.inCompleted Endpoint.bulkIn),
        ⟨fun link => { link with connected := false }, .outCompleted [8]⟩]
    (a.turns ((out :: between).map Turn.logged)).responder.link.sent.map Prod.fst
        = [⟨0x10, [9]⟩] ∧
      ∃ outcome results, Exchanged Bridge.defaultBudget outcome results ∧
        (a.turn out.logged).responder.link.sent
          = a.responder.link.sent ++ [(⟨0x10, [9]⟩, outcome)] ∧
        (a.turn out.logged).responder.link.received = a.responder.link.received ++ results ∧
        a.sentIn ((out :: between).map Turn.logged)
          = ((answerIn results).take (min 2 (answerIn results).length)).map Submission.bulkIn := by
  intro a out between
  have takes : ∀ data, Bus.Takes ({} : Bus.Recorder) data :=
    fun data ops => Bus.Recorder.takes rfl Endpoint.bulkIn data ops
  constructor
  · exact (bridge_traces takes QueueLink.answering Bridge.defaultBudget (out :: between)).1
  · have traces := (bridge_traces takes QueueLink.answering Bridge.defaultBudget []).2.2.1
    exact traces.answered out between [9] rfl rfl (by decide)

end PictureTransfer
