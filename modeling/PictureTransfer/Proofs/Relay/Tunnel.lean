import PictureTransfer.Proofs.Relay.Answers
import PictureTransfer.Proofs.Relay.Drain
import PictureTransfer.Proofs.Relay.Playback

/-!
# The raw proxy as a tunnel

A relay writes the answers of its camera one behind the other (`written_run`), and the bridge cuts
what it reads into the same answers and sends them as they are (`answered_bridge`). Since no answer
of the legacy camera exceeds the bridge's budget, a host cannot tell the bridge from a camera it
drives directly (`tunnel_transparent`).
-/

namespace PictureTransfer

open Relay

/-! ## The relay -/

/-- What a device writes for some transfers of its host. -/
def Relay.Frame.requests (outs : List Bytes) : Bytes := outs.flatMap fun out => (rawOut out).encode

theorem Relay.Emulated.exchanges_eq (outs : List Bytes) (e : Emulated) :
    Emulated.exchanges outs e = Backend.exchanges outs e := by
  induction outs generalizing e with
  | nil => rfl
  | cons out rest ih =>
    rw [Emulated.exchanges_cons, ih]
    rfl

/-- A device whose transfers are not too long delivers each of them, and then hangs up. -/
theorem Relay.Client.delivers_requests {outs : List Bytes}
    (short : ∀ out ∈ outs, out.length ≤ maxRawOut) (ending : Fault) :
    Delivers ending (Frame.requests outs) (outs.map Frame.rawOut) (hungUp ending) := by
  have nothing : Delivers ending [] [] (hungUp ending) :=
    .cut (f := Frame.done) (by decide) List.nil_prefix (by decide)
  refine delivers_iff.2 ⟨[], ?_, List.forall_mem_map.2 short, nothing⟩
  rw [List.append_nil, List.flatMap_map]
  rfl

/-- A relay writes the answers of its camera one behind the other. -/
theorem Relay.Client.written_run {outs : List Bytes} (short : ∀ out ∈ outs, out.length ≤ maxRawOut)
    (ending : Fault) (c : Client Emulated) {sink : Sink} (unlimited : sink.room = none) :
    (c.run (Source.ofBytes (Frame.requests outs) ending) sink).2.2.written
      = sink.written ++ (Emulated.exchanges outs c.backend).1.flatMap answer := by
  obtain ⟨written, room⟩ := sink
  cases unlimited
  have asked : (outs.map Frame.rawOut).filterMap Frame.request? = outs := by
    rw [List.filterMap_map]
    exact List.filterMap_some
  rw [run_delivers (delivers_requests short ending), asked, Emulated.exchanges_eq]

/-! ## The bridge -/

theorem Relay.Client.answer_nil : answer [] = Frame.done.encode := List.append_nil _

theorem Relay.Client.answer_cons (data : Bytes) (rest : List Bytes) :
    answer (data :: rest) = (Frame.rawIn data).encode ++ answer rest := rfl

theorem Relay.WireLink.receive_encode (f : Frame) (link : WireLink)
    (fits : f.payload.length ≤ transferSize) :
    Link.receive { link with incoming := link.incoming.behind f.encode } = (.ok f, link) := by
  have counted : f.payload.length + 1 < Bytes.capacity 4 :=
    Nat.lt_of_le_of_lt (Nat.succ_le_succ fits) (by decide)
  have read : Frame.read Frame.maxPayload (link.incoming.behind f.encode) = .ok f link.incoming :=
    Frame.read_encode f link.incoming fits counted
  show WireLink.receive _ = _
  simp only [WireLink.receive, read]

namespace Bridge

/-- The bridge cuts what the relay wrote into the transfers of the answer, if its budget is
enough. -/
theorem collect_answer {transfers : List Bytes} {n : Nat} (budget : transfers.length < n)
    (short : ∀ data ∈ transfers, data.length ≤ transferSize) (link : WireLink) :
    collect n { link with incoming := link.incoming.behind (Client.answer transfers) }
      = (transfers, link) := by
  induction transfers generalizing n with
  | nil =>
    obtain ⟨m, rfl⟩ := Nat.exists_eq_succ_of_ne_zero (Nat.ne_of_gt budget)
    rw [collect, Client.answer_nil, WireLink.receive_encode Frame.done link (Nat.zero_le _)]
    rfl
  | cons data rest ih =>
    obtain ⟨m, rfl⟩ := Nat.exists_eq_succ_of_ne_zero (Nat.ne_of_gt (Nat.zero_lt_of_lt budget))
    obtain ⟨fits, later⟩ := List.forall_mem_cons.1 short
    -- a frame that carries a transfer costs one of the budget
    have received := WireLink.receive_encode (Frame.rawIn data)
      { link with incoming := link.incoming.behind (Client.answer rest) } fits
    have kind : (Frame.rawIn data).kind? = some .rawIn := rfl
    rw [collect, Client.answer_cons, Source.behind_append, received]
    dsimp only
    rw [if_pos kind, ih (Nat.lt_of_succ_lt_succ budget) later]
    rfl

/-- While something waits, the bridge sends the rest of the answer behind it. -/
theorem collected_queue {L : Type} [Link L] {sent : List Bytes}
    (short : ∀ data ∈ sent, data.length ≤ transferSize) :
    ∀ a : Attached Bus.Endpoints (Bridge L), (a.queue = [] → a.responder.queue = []) →
      a.queue ++ a.responder.queue = sent →
      ∃ b, a.Collected sent b ∧ b.queue = [] ∧
        b.responder = { a.responder with queue := [] } := by
  induction sent with
  | nil =>
    intro a ready all
    obtain ⟨empty, nothing⟩ := List.append_eq_nil_iff.1 all
    refine ⟨a, .done empty, empty, ?_⟩
    rw [← nothing]
  | cons data rest ih =>
    intro a ready all
    obtain ⟨fits, later⟩ := List.forall_mem_cons.1 short
    -- the bus is empty only when the bridge holds nothing either
    cases waits : a.queue with
    | nil =>
      rw [waits, ready waits] at all
      cases all
    | cons first waiting =>
      rw [waits] at all
      obtain ⟨rfl, behind⟩ := List.cons.inj all
      have responder : a.collect.responder
          = { a.responder with queue := a.responder.queue.drop 1 } :=
        (Attached.responder_collect a).trans (sendNext_eq a.responder).1
      have queue : a.collect.queue = waiting ++ a.responder.queue.take 1 := by
        rw [← (sendNext_eq a.responder).2]
        apply Attached.queue_collect waits
        apply plain_sendNext
        intro data listed
        apply later data
        rw [← behind]
        exact List.mem_append_right _ listed
      have on : a.collect.queue = [] → a.collect.responder.queue = [] := by
        intro empty
        rw [queue] at empty
        have none_left := (List.append_eq_nil_iff.1 empty).2
        rw [responder, (List.take_eq_nil_iff.1 none_left).resolve_left (by decide)]
        rfl
      have same : a.collect.queue ++ a.collect.responder.queue = rest := by
        rw [queue, responder, List.append_assoc, List.take_append_drop]
        exact behind
      obtain ⟨b, collected, empty, last⟩ := ih later a.collect on same
      refine ⟨b, .next waits collected, empty, ?_⟩
      rw [last, responder]

variable {b : Bridge WireLink}

/-- The bridge hands a transfer to the relay and holds the answer. -/
theorem forward_eq {transfers : List Bytes} {incoming : Source} (data : Bytes)
    (arrives : b.link.incoming = incoming.behind (Client.answer transfers))
    (budget : transfers.length < b.budget)
    (short : ∀ data ∈ transfers, data.length ≤ transferSize) :
    b.forward data =
      { b with
        link := { b.link with incoming, sent := b.link.sent ++ (Frame.rawOut data).encode }
        queue := transfers } := by
  have sends : Link.send (.rawOut data) b.link
      = (.ok (), { b.link with sent := b.link.sent ++ (Frame.rawOut data).encode }) := rfl
  have collected := collect_answer budget short
    { b.link with incoming, sent := b.link.sent ++ (Frame.rawOut data).encode }
  rw [← arrives] at collected
  rw [forward, sends]
  dsimp only
  rw [collected]

/-- A host that collects everything gets the answers that the relay wrote. -/
theorem answered_bridge {outs : List Bytes} {answers : List (List Bytes)} {n : Nat}
    (each : answers.length = outs.length)
    (bounded : ∀ answer ∈ answers, answer.length < n ∧ ∀ data ∈ answer, data.length ≤ transferSize)
    (incoming : Source) :
    ∀ a : Attached Bus.Endpoints (Bridge WireLink), a.queue = [] →
      a.responder.link.connected = true → a.responder.budget = n →
      a.responder.link.incoming = incoming.behind (answers.flatMap Client.answer) →
      ∃ b, a.Answered outs answers b := by
  induction answers generalizing outs with
  | nil =>
    intro a _ _ _ _
    obtain rfl := List.length_eq_zero_iff.1 each.symm
    exact ⟨a, .nil a⟩
  | cons answer rest ih =>
    intro a empty connected budget arrives
    obtain ⟨out, outs, rfl⟩ := List.exists_cons_of_length_eq_add_one each.symm
    obtain ⟨⟨few, short⟩, later⟩ := List.forall_mem_cons.1 bounded
    rw [List.flatMap_cons, Source.behind_append] at arrives
    have forwarded := forward_eq out arrives (by rw [budget]; exact few) short
    have there : Link.isConnected a.responder.link = true := connected
    -- the first transfer of the answer goes to the bus, the bridge holds the others
    have responder : (a.outCompleted out).responder
        = { a.responder.forward out with queue := answer.drop 1 } := by
      rw [forwarded]
      refine (Attached.responder_step a (.outCompleted out)).trans ?_
      show (a.responder.outCompleted out).1 = _
      rw [outCompleted_eq there, (sendNext_eq _).1, forwarded]
    have queue : (a.outCompleted out).queue = answer.take 1 := by
      have plain : ∀ x ∈ (a.responder.outCompleted out).2, x.Plain := by
        refine plain_outCompleted there ?_
        rw [forwarded]
        exact short
      have sent := transfers_outCompleted there out
      rw [forwarded] at sent
      rw [← sent]
      exact Attached.queue_of_forward (Action.forward_of_plain plain) empty
    have ready : (a.outCompleted out).queue = [] → (a.outCompleted out).responder.queue = [] := by
      intro nothing
      rw [queue] at nothing
      rw [responder, (List.take_eq_nil_iff.1 nothing).resolve_left (by decide)]
      rfl
    have all : (a.outCompleted out).queue ++ (a.outCompleted out).responder.queue = answer := by
      rw [queue, responder, List.take_append_drop]
    obtain ⟨b, collected, finished, last⟩ := collected_queue short _ ready all
    rw [responder, forwarded] at last
    obtain ⟨c, answered⟩ := ih (Nat.succ.inj each) later b finished (by rw [last]; exact connected)
      (by rw [last]; exact budget) (by rw [last])
    exact ⟨c, .cons collected answered⟩

end Bridge

/-! ## The tunnel -/

/-- The bytes that a relay with a fresh camera writes when a device hands it some transfers. -/
def relayed (outs : List Bytes) (ending : Fault) : Bytes :=
  ((⟨.fresh, 0⟩ : Client Emulated).run (Source.ofBytes (Frame.requests outs) ending)
    {}).2.2.written

/-- A bridge with the usual budget on a link that is up and brings some bytes. -/
def bridged (incoming : Bytes) (ending : Fault) : Attached Bus.Endpoints (Bridge WireLink) where
  bus := {}
  responder :=
    { link := { connected := true, incoming := .ofBytes incoming ending }
      budget := Bridge.defaultBudget }

/-- A fresh legacy camera whose interface has been opened. -/
def direct : Attached Bus.Endpoints Legacy :=
  ({ bus := {}, responder := {} } : Attached Bus.Endpoints Legacy).interfaceOpened 0

/-- Over the tunnel a host collects for each of its transfers exactly what it collects from a camera
that it drives directly: both answer, and there is one list of answers. -/
theorem tunnel_transparent {outs : List Bytes} (short : ∀ out ∈ outs, out.length ≤ 65536)
    (relayEnding linkEnding : Fault) :
    ∃ answers,
      (∃ b, (bridged (relayed outs relayEnding) linkEnding).Answered outs answers b) ∧
      (∃ b, direct.Answered outs answers b) ∧
      ∀ other, (∃ b, (bridged (relayed outs relayEnding) linkEnding).Answered outs other b) ∨
        (∃ b, direct.Answered outs other b) → other = answers := by
  have written : relayed outs relayEnding
      = (Emulated.exchanges outs .fresh).1.flatMap Client.answer :=
    (Client.written_run short relayEnding ⟨.fresh, 0⟩ rfl).trans (List.nil_append _)
  have bounded : ∀ answer ∈ (Emulated.exchanges outs .fresh).1,
      answer.length < Bridge.defaultBudget ∧ ∀ data ∈ answer, data.length ≤ transferSize := by
    apply Emulated.forall_mem_exchanges
    intro out e
    constructor
    · exact Nat.lt_of_le_of_lt (Emulated.length_exchange_le out e) (by decide)
    · exact Emulated.length_le_of_mem_exchange
  have arrives : Source.ofBytes (relayed outs relayEnding) linkEnding
      = (Source.ofBytes [] linkEnding).behind
        ((Emulated.exchanges outs .fresh).1.flatMap Client.answer) := by
    rw [Source.ofBytes_eq_behind, written]
  obtain ⟨b, tunnelled⟩ := Bridge.answered_bridge (Emulated.length_exchanges outs .fresh) bounded
    (Source.ofBytes [] linkEnding) (bridged (relayed outs relayEnding) linkEnding)
    rfl rfl rfl arrives
  obtain ⟨c, driven⟩ := Emulated.answered_exchanges (a := direct) (e := .fresh) rfl rfl outs
  refine ⟨_, ⟨b, tunnelled⟩, ⟨c, driven⟩, ?_⟩
  -- what a host collects is determined, by either way
  rintro other (⟨d, again⟩ | ⟨d, again⟩)
  · exact (again.unique tunnelled).1
  · exact (again.unique driven).1

/-- A COMMAND that opens a session, in the shortest layout. -/
def openSession : Bytes := [0, 1, 0, 0x02, 0x10, 0, 0, 0, 0]

/-- A session is opened over the tunnel as it is directly. -/
theorem tunnel_opens_session :
    ∃ answers,
      (∃ b, (bridged (relayed [openSession] .closed) .timedOut).Answered [openSession] answers b) ∧
      ∃ b, direct.Answered [openSession] answers b := by
  have short : ∀ out ∈ [openSession], out.length ≤ 65536 := by decide
  obtain ⟨answers, tunnelled, driven, -⟩ := tunnel_transparent short .closed .timedOut
  exact ⟨answers, tunnelled, driven⟩

end PictureTransfer
