import PictureTransfer.Proofs.Collection
import PictureTransfer.Proofs.Relay.Drain
import PictureTransfer.Proofs.UsbIp.Handling
import PictureTransfer.Proofs.UsbIp.Steady

/-!
# Delivery over USB/IP

An exported camera sends a transfer when the host has parked a request for it, and learns of the
completion at once. `Serving.outstanding` lists what the camera would still send to a host that
collects everything; `Served` says that some requests of the host were answered by the front of
that list, which is what matching them does (`flush_served`). `delivers_exchanges` compares the
replies to whole rounds of requests with the answers of an emulated camera in the same process.
-/

namespace PictureTransfer.UsbIp

open Relay (Emulated)

/-- The reply that carries all of a transfer. -/
def Parked.whole (p : Parked) (data : Bytes) : Reply :=
  .submitted p.seqnum 0 (UInt32.ofNat data.length) data

/-- Where the host has room nothing is cut. -/
theorem zipWith_delivery {slots : List Parked} {answer : List Bytes}
    (roomy : ∀ p ∈ slots, transferSize ≤ p.length.toNat)
    (short : ∀ data ∈ answer, data.length ≤ transferSize) :
    List.zipWith Parked.delivery slots answer = List.zipWith Parked.whole slots answer := by
  induction slots generalizing answer with
  | nil => rfl
  | cons p rest ih =>
    cases answer with
    | nil => rfl
    | cons data answer =>
      obtain ⟨room, later⟩ := List.forall_mem_cons.1 roomy
      obtain ⟨fits, others⟩ := List.forall_mem_cons.1 short
      have uncut : data.take p.length.toNat = data :=
        List.take_of_length_le (Nat.le_trans fits room)
      rw [List.zipWith_cons_cons, List.zipWith_cons_cons, ih later others, Parked.delivery, uncut]
      rfl

namespace Serving

def responder {σ : Type} (s : Serving σ) : σ := s.device.attached.responder

/-- The bulk-IN transfers that wait. -/
def queue {σ : Type} (s : Serving σ) : List Bytes := s.device.attached.queue

/-- All that the camera would still send to a host that collects everything. -/
def outstanding (s : Serving Legacy) : List Bytes := (Emulated.drain s.responder s.queue).1

/-- The camera after all of it is collected. -/
def settled (s : Serving Legacy) : Legacy := (Emulated.drain s.responder s.queue).2.1

/-- The requests in `slots` are answered by the front of what is outstanding; what does not find a
request stays outstanding, and a request that finds nothing stays parked. -/
structure Served (s : Serving Legacy) (slots : List Parked) (t : Serving Legacy) : Prop where
  replies : t.replies = s.replies ++ List.zipWith Parked.delivery slots s.outstanding
  parked : t.device.parked = slots.drop s.outstanding.length
  outstanding : t.outstanding = s.outstanding.drop slots.length
  settled : t.settled = s.settled

/-! ## Two lists in step -/

section Zip

variable {α β γ : Type}

/-- What is left of one list goes on where the other one ended. -/
theorem zipWith_append_drop (f : α → β → γ) (front back : List α) (l : List β) :
    List.zipWith f (front ++ back) l = List.zipWith f front l
      ++ List.zipWith f (front.drop l.length ++ back) (l.drop front.length) := by
  induction front generalizing l with
  | nil => simp
  | cons a rest ih =>
    cases l with
    | nil => simp
    | cons b l => simpa using ih l

/-- Where the first list is long enough for the front of the other, the rest goes to the rest. -/
theorem zipWith_append_append (f : α → β → γ) {first : List α} {front : List β}
    (enough : front.length ≤ first.length) (later : List α) (back : List β) :
    List.zipWith f (first ++ later) (front ++ back) = List.zipWith f first front
      ++ List.zipWith f (first.drop front.length ++ later) back := by
  induction front generalizing first with
  | nil => simp
  | cons b rest ih =>
    cases first with
    | nil => cases enough
    | cons a first => simpa using ih (Nat.le_of_succ_le_succ enough)

theorem drop_append_drop (front back : List α) (l : List β) :
    (front.drop l.length ++ back).drop (l.drop front.length).length
      = (front ++ back).drop l.length := by
  induction front generalizing l with
  | nil => simp
  | cons a rest ih =>
    cases l with
    | nil => simp
    | cons b l => simpa using ih l

theorem drop_drop_append (front back : List α) (l : List β) :
    (l.drop front.length).drop (front.drop l.length ++ back).length
      = l.drop (front ++ back).length := by
  induction front generalizing l with
  | nil => simp
  | cons a rest ih =>
    cases l with
    | nil => simp
    | cons b l => simpa using ih l

end Zip

namespace Served

/-- More requests are answered by what the earlier ones left. -/
theorem append {s t u : Serving Legacy} {slots more : List Parked} (first : Served s slots t)
    (second : Served t (t.device.parked ++ more) u) : Served s (slots ++ more) u where
  replies := by
    rw [second.replies, first.replies, first.parked, first.outstanding, List.append_assoc,
      ← zipWith_append_drop]
  parked := by rw [second.parked, first.parked, first.outstanding, drop_append_drop]
  outstanding := by
    rw [second.outstanding, first.parked, first.outstanding, drop_drop_append]
  settled := second.settled.trans first.settled

/-- When there are requests enough, nothing waits any more. -/
theorem finished {s t : Serving Legacy} {slots : List Parked} (h : Served s slots t)
    (enough : s.outstanding.length ≤ slots.length) : t.queue = [] ∧ t.responder = s.settled := by
  have nothing : t.outstanding = [] := by rw [h.outstanding, List.drop_eq_nil_of_le enough]
  have empty : t.queue = [] := Emulated.nil_of_drain nothing
  refine ⟨empty, ?_⟩
  rw [← h.settled, Serving.settled, empty, Emulated.drain_nil]

/-- After a match either no request is parked or nothing is outstanding. -/
theorem idle {s t : Serving Legacy} {slots : List Parked} (h : Served s slots t) :
    t.device.parked = [] ∨ t.outstanding = [] := by
  rw [h.parked, h.outstanding]
  exact (Nat.le_total slots.length s.outstanding.length).imp List.drop_eq_nil_of_le
    List.drop_eq_nil_of_le

/-- Then there is nothing to match. -/
theorem self {s : Serving Legacy} (idle : s.device.parked = [] ∨ s.outstanding = []) :
    Served s s.device.parked s := by
  rcases idle with nobody | nothing
  · exact ⟨by simp [nobody], by simp [nobody], by simp [nobody], rfl⟩
  · exact ⟨by simp [nothing], by simp [nothing], by simp [nothing], rfl⟩

end Served

/-! ## One match after another -/

theorem ready?_eq_none {s : Serving Legacy} (h : s.Steady)
    (idle : s.device.parked = [] ∨ s.queue = []) : s.device.ready? = none := by
  have nobody : (s.device.parked.map Parked.ep).filter
      (fun ep => 0 < s.device.bus.queued ep) = [] := by
    rcases idle with none_parked | empty
    · rw [none_parked]
      rfl
    · -- every request is parked for bulk IN, where nothing waits
      rw [List.filter_eq_nil_iff]
      intro ep hep
      obtain ⟨p, listed, rfl⟩ := List.mem_map.1 hep
      have nothing : s.device.bus.queue Endpoint.bulkIn = [] := empty
      rw [h.parked p listed, Bus.Endpoints.queued, nothing]
      simp
  rw [Device.ready?, nobody]
  rfl

theorem ready?_eq_bulkIn {s : Serving Legacy} (h : s.Steady) (parked : s.device.parked ≠ [])
    (waits : s.queue ≠ []) : s.device.ready? = some Endpoint.bulkIn := by
  have endpoints : s.device.parked.map Parked.ep
      = List.replicate s.device.parked.length Endpoint.bulkIn :=
    List.map_eq_replicate_iff.2 h.parked
  have some_waits : decide (0 < s.device.bus.queued Endpoint.bulkIn) = true :=
    decide_eq_true (List.length_pos_iff.2 waits)
  rw [Device.ready?, endpoints, List.filter_replicate, if_pos some_waits]
  exact List.min?_replicate_of_pos (List.length_pos_iff.2 parked)

theorem flush_of_idle {s : Serving Legacy} (h : s.Steady)
    (idle : s.device.parked = [] ∨ s.queue = []) : s.flush = .ok () s :=
  flush_of_nothing (ready?_eq_none h idle)

/-- A request is answered with a transfer, and the camera learns of the completion. -/
def delivered (s : Serving Legacy) (p : Parked) (rest : List Parked) (data : Bytes) :
    Serving Legacy :=
  { s with
    device :=
      { s.device with
        parked := rest
        attached := s.device.attached.collect }
    replies := s.replies ++ [p.delivery data] }

section Match

variable {s : Serving Legacy} {p : Parked} {rest : List Parked} {data : Bytes}
  {waiting : List Bytes}

theorem unpark?_eq (h : s.Steady) (parked : s.device.parked = p :: rest) :
    Device.unpark? Endpoint.bulkIn s.device.parked = some (p, rest) := by
  have own : p.ep = Endpoint.bulkIn := h.parked p (by rw [parked]; exact List.mem_cons_self)
  rw [parked, Device.unpark?, if_pos own]

/-- The oldest request and the transfer that waits longest leave together. -/
theorem flush_match (h : s.Steady) (parked : s.device.parked = p :: rest)
    (waits : s.queue = data :: waiting) : s.flush = (s.delivered p rest data).flush := by
  have ready : s.device.ready? = some Endpoint.bulkIn :=
    ready?_eq_bulkIn h (by rw [parked]; exact List.cons_ne_nil _ _)
      (by rw [waits]; exact List.cons_ne_nil _ _)
  have popped : s.device.bus.pop? Endpoint.bulkIn = some (data, s.device.bus.popped) :=
    Bus.Endpoints.pop?_of_queue waits
  rw [flush_of_match ready (unpark?_eq h parked) popped, write_of_unlimited (by exact h.unlimited)]
  rfl

theorem steps_delivered (h : s.Steady) (parked : s.device.parked = p :: rest)
    (waits : s.queue = data :: waiting) : Steps s (s.delivered p rest data) := by
  have takes := Step.taken s Endpoint.bulkIn p rest data s.device.bus.popped
    (unpark?_eq h parked) (Bus.Endpoints.pop?_of_queue waits)
  exact .head takes (.head (.wrote _ (p.delivery data)) (.single (.called _ (.inCompleted _))))

/-- The transfer that left was the first of all that is outstanding. -/
theorem drain_delivered (p : Parked) (rest : List Parked) (waits : s.queue = data :: waiting) :
    s.outstanding = data :: (s.delivered p rest data).outstanding ∧
      (s.delivered p rest data).settled = s.settled := by
  have moved : (s.delivered p rest data).responder = (s.responder.inCompleted Endpoint.bulkIn).1 :=
    Attached.responder_collect s.device.attached
  have queued : (s.delivered p rest data).queue = waiting
      ++ (s.responder.inCompleted Endpoint.bulkIn).2.filterMap Action.transfer? :=
    Attached.queue_collect waits (Legacy.plain_inCompleted s.responder Endpoint.bulkIn)
  rw [outstanding, outstanding, settled, settled, waits, Emulated.drain_cons, moved, queued]
  exact ⟨rfl, rfl⟩

end Match

/-- Matching answers as many parked requests as there is something for. -/
theorem flush_served {s : Serving Legacy} (h : s.Steady) :
    ∃ t, s.flush = .ok () t ∧ Steps s t ∧ Served s s.device.parked t := by
  -- each match uses up one of the requests that are parked
  generalize parked : s.device.parked = slots
  induction slots generalizing s with
  | nil =>
    refine ⟨s, flush_of_idle h (.inl parked), .refl, ?_⟩
    exact ⟨by simp, by simp [parked], rfl, rfl⟩
  | cons p rest ih =>
    cases waits : s.queue with
    | nil =>
      have none_out : s.outstanding = [] := by rw [outstanding, waits, Emulated.drain_nil]
      refine ⟨s, flush_of_idle h (.inr waits), .refl, ?_⟩
      exact ⟨by simp [none_out], by simp [parked, none_out], by simp [none_out], rfl⟩
    | cons data waiting =>
      have steps := steps_delivered h parked waits
      obtain ⟨first, settled⟩ := drain_delivered p rest waits
      obtain ⟨t, flushed, further, served⟩ := ih (h.steps steps) rfl
      refine ⟨t, (flush_match h parked waits).trans flushed, steps.trans further, ?_⟩
      constructor
      · rw [served.replies, first, List.zipWith_cons_cons]
        exact List.append_assoc _ _ _
      · rw [served.parked, first, List.length_cons, List.drop_succ_cons]
      · rw [served.outstanding, first, List.length_cons, List.drop_succ_cons]
      · exact served.settled.trans settled

/-! ## Requests of the host -/

theorem usable {s : Serving Legacy} (h : s.Steady) {address : UInt8}
    (bulk : address = Endpoint.bulkOut ∨ address = Endpoint.bulkIn) :
    ¬((s.device.descriptors.endpoint? address).isNone = true ∨
      s.device.bus.stalled.contains address = true) := by
  have listed := (h.known address).2 bulk
  rw [h.orderly.unstalled]
  simp only [List.contains_nil, Bool.false_eq_true, or_false, Option.isNone_iff_eq_none]
  intro unknown
  rw [unknown] at listed
  cases listed

/-- A request for a bulk-IN transfer takes its place behind those that are parked. -/
theorem submit_in {s : Serving Legacy} (h : s.Steady) {urb : Submit}
    (toHost : urb.address = Endpoint.bulkIn) :
    ∃ t, s.submit urb = .ok () t ∧ Steps s t ∧ Served s (s.device.parked ++ [urb.slot]) t := by
  have isIn := Submit.isIn_of_address toHost
  have parks := Step.parked s urb isIn ((h.known _).2 (.inr toHost))
  obtain ⟨t, flushed, steps, served⟩ := flush_served (h.step parks)
  refine ⟨t, ?_, .head parks steps, ⟨served.replies, served.parked, served.outstanding,
    served.settled⟩⟩
  rw [submit, if_neg (Submit.ep_ne_zero (.inr toHost))]
  dsimp only
  rw [if_neg (usable h (.inr toHost)), if_pos isIn]
  exact flushed

theorem handleEach_in {s t : Serving Legacy} {slots : List Parked} (h : t.Steady)
    (served : Served s slots t) {ins : List Submit}
    (toHost : ∀ urb ∈ ins, urb.address = Endpoint.bulkIn) :
    ∃ u, t.handleEach (ins.map .submit) = .ok () u ∧ Steps t u ∧
      Served s (slots ++ ins.map Submit.slot) u := by
  induction ins generalizing t slots with
  | nil => exact ⟨t, rfl, .refl, by rwa [List.map_nil, List.append_nil]⟩
  | cons urb rest ih =>
    obtain ⟨first, later⟩ := List.forall_mem_cons.1 toHost
    obtain ⟨v, handled, steps, more⟩ := submit_in h first
    obtain ⟨u, finished, further, all⟩ := ih (h.steps steps) (served.append more) later
    refine ⟨u, ?_, steps.trans further, ?_⟩
    · have one : t.handle (.submit urb) = .ok () v := handled
      rw [List.map_cons, handleEach_cons one]
      exact finished
    · rwa [List.append_assoc] at all

/-- A transfer that fits is handed over in one piece. -/
theorem receive_of_fits {s : Serving Legacy} (h : s.Steady) {data : Bytes}
    (fits : data.length ≤ receiveSize) : s.receive data = (s.handOver data).flush := by
  have size : s.pieceSize = receiveSize := by
    rw [pieceSize, h.orderly.armed]
    rfl
  rw [receive_eq, size, List.take_of_length_le fits, List.drop_eq_nil_of_le fits]
  cases (s.handOver data).flush <;> rfl

/-- What a camera with an empty queue has outstanding after a transfer from the host is the answer
of an emulated camera in its state. -/
theorem drain_handOver {s : Serving Legacy} (empty : s.queue = []) {e : Emulated}
    (same : e.responder = s.responder) (data : Bytes) :
    (s.handOver data).outstanding = (e.exchange data).1 ∧
      (s.handOver data).settled = (e.exchange data).2.responder := by
  have moved : (s.handOver data).responder = (s.responder.outCompleted data).1 :=
    Attached.responder_step _ (.outCompleted data)
  have queued : (s.handOver data).queue
      = (s.responder.outCompleted data).2.filterMap Action.transfer? :=
    Attached.queue_of_forward (Legacy.forward_outCompleted s.responder data) empty
  rw [outstanding, settled, moved, queued, ← same]
  exact ⟨rfl, rfl⟩

/-- A transfer from the host is answered to the requests that are parked, then acknowledged. -/
theorem submit_out {s : Serving Legacy} (h : s.Steady) (empty : s.queue = []) {e : Emulated}
    (same : e.responder = s.responder) {urb : Submit} (toDevice : urb.address = Endpoint.bulkOut)
    (fits : urb.data.length ≤ receiveSize) :
    ∃ t, s.submit urb = .ok () t ∧ Steps s t ∧
      t.replies = s.replies
        ++ List.zipWith Parked.delivery s.device.parked (e.exchange urb.data).1
        ++ [acknowledgement urb] ∧
      t.device.parked = s.device.parked.drop (e.exchange urb.data).1.length ∧
      t.outstanding = (e.exchange urb.data).1.drop s.device.parked.length ∧
      t.settled = (e.exchange urb.data).2.responder := by
  have hands : Steps s (s.handOver urb.data) :=
    .head (.disarmed s) (.single (.called _ (.outCompleted urb.data)))
  obtain ⟨answer, last⟩ := drain_handOver empty same urb.data
  obtain ⟨t, flushed, steps, served⟩ := flush_served (h.steps hands)
  -- behind the acknowledgement there is nothing left to match
  have steady := (h.steps hands).steps steps
  have acknowledges := Step.wrote t (acknowledgement urb)
  refine ⟨_, ?_, hands.trans (steps.tail acknowledges), ?_, ?_, ?_, ?_⟩
  · have bulk : urb.address = Endpoint.bulkOut ∨ urb.address = Endpoint.bulkIn := .inl toDevice
    have outwards : ¬urb.isIn = true := fun isIn => Submit.address_ne_of_isIn isIn toDevice
    have idle : t.device.parked = [] ∨ t.queue = [] :=
      served.idle.imp_right Emulated.nil_of_drain
    rw [submit, if_neg (Submit.ep_ne_zero bulk)]
    dsimp only
    rw [if_neg (usable h bulk), if_neg outwards, receive_of_fits h fits, flushed]
    dsimp only
    rw [write_of_unlimited steady.unlimited]
    exact flush_of_idle (steady.step acknowledges) idle
  · rw [← answer]
    exact congrArg (· ++ [acknowledgement urb]) served.replies
  · rw [← answer]
    exact served.parked
  · rw [← answer]
    exact served.outstanding
  · rw [← last]
    exact served.settled

end Serving

/-! ## Rounds -/

/-- A transfer from the host, and the requests of the host behind it. -/
structure Round where
  out : Submit
  ins : List Submit
  deriving DecidableEq, Repr

namespace Round

def urbs (r : Round) : List Urb := .submit r.out :: r.ins.map .submit

/-- What the requests park. -/
def slots (r : Round) : List Parked := r.ins.map Submit.slot

/-- The replies to a round, from those that carry transfers before the acknowledgement and those
behind it. -/
def replies (r : Round) (carried : List Reply × List Reply) : List Reply :=
  carried.1 ++ Serving.acknowledgement r.out :: carried.2

/-- The host sends no more at once than the camera receives, and has room for every transfer. -/
structure Bulk (r : Round) : Prop where
  toDevice : r.out.address = Endpoint.bulkOut
  fits : r.out.data.length ≤ receiveSize
  toHost : ∀ urb ∈ r.ins, urb.address = Endpoint.bulkIn
  roomy : ∀ urb ∈ r.ins, transferSize ≤ urb.length.toNat

end Round

namespace Serving

/-- One round: the requests, those parked before it first, are answered by the answer of an emulated
camera in the same state. -/
theorem handle_round {s : Serving Legacy} (h : s.Steady) (empty : s.queue = []) {e : Emulated}
    (same : e.responder = s.responder) {r : Round} (bulk : r.Bulk) :
    let answer := (e.exchange r.out.data).1
    ∃ t carried, s.handleEach r.urbs = .ok () t ∧ Steps s t ∧
      t.replies = s.replies ++ r.replies carried ∧
      carried.1 ++ carried.2 = List.zipWith Parked.delivery (s.device.parked ++ r.slots) answer ∧
      t.device.parked = (s.device.parked ++ r.slots).drop answer.length ∧
      (answer.length ≤ (s.device.parked ++ r.slots).length →
        t.queue = [] ∧ t.responder = (e.exchange r.out.data).2.responder) := by
  intro answer
  obtain ⟨t, handled, steps, replies, parked, outstanding, settled⟩ :=
    submit_out h empty same bulk.toDevice bulk.fits
  have idle : t.device.parked = [] ∨ t.outstanding = [] := by
    rw [parked, outstanding]
    exact (Nat.le_total s.device.parked.length answer.length).imp List.drop_eq_nil_of_le
      List.drop_eq_nil_of_le
  obtain ⟨u, collected, further, served⟩ :=
    handleEach_in (h.steps steps) (.self idle) bulk.toHost
  have one : s.handle (.submit r.out) = .ok () t := handled
  refine ⟨u, (List.zipWith Parked.delivery s.device.parked answer,
    List.zipWith Parked.delivery (s.device.parked.drop answer.length ++ r.slots)
      (answer.drop s.device.parked.length)), ?_, steps.trans further, ?_, ?_, ?_, ?_⟩
  · rw [Round.urbs, handleEach_cons one]
    exact collected
  · rw [served.replies, replies, parked, outstanding]
    simp [Round.replies, Round.slots, answer]
  · exact (zipWith_append_drop _ _ _ _).symm
  · rw [served.parked, parked, outstanding]
    exact drop_append_drop _ _ _
  · intro enough
    rw [← settled]
    refine served.finished ?_
    rw [outstanding, parked]
    simp only [answer, List.length_append, List.length_drop, Round.slots] at enough ⊢
    omega

/-- Rounds, each of which begins when the answers before it are collected: the requests are
answered by the answers of an emulated camera, one behind the other. -/
theorem handle_rounds {s : Serving Legacy} (h : s.Steady) (empty : s.queue = []) {e : Emulated}
    (same : e.responder = s.responder) {rounds : List Round} (bulk : ∀ r ∈ rounds, r.Bulk)
    (paced : ∀ n < rounds.length,
      (Emulated.exchanges ((rounds.take n).map (·.out.data)) e).1.flatten.length
        ≤ (s.device.parked ++ (rounds.take n).flatMap Round.slots).length) :
    let answers := Emulated.exchanges (rounds.map (·.out.data)) e
    ∃ t carried, s.handleEach (rounds.flatMap Round.urbs) = .ok () t ∧
      carried.length = rounds.length ∧
      t.replies = s.replies ++ (List.zipWith Round.replies rounds carried).flatten ∧
      carried.flatMap (fun c => c.1 ++ c.2) = List.zipWith Parked.delivery
        (s.device.parked ++ rounds.flatMap Round.slots) answers.1.flatten ∧
      (answers.1.flatten.length ≤ (s.device.parked ++ rounds.flatMap Round.slots).length →
        t.queue = [] ∧ t.responder = answers.2.responder) := by
  induction rounds generalizing s e with
  | nil =>
    refine ⟨s, [], rfl, rfl, by simp, by simp [Emulated.exchanges], ?_⟩
    intro _
    exact ⟨empty, same.symm⟩
  | cons r rest ih =>
    intro answers
    obtain ⟨first, later⟩ := List.forall_mem_cons.1 bulk
    obtain ⟨u, carried, handled, steps, replies, delivered, parked, finished⟩ :=
      handle_round h empty same first
    -- only a round with another one behind it has to be collected
    cases rest with
    | nil =>
      refine ⟨u, [carried], ?_, rfl, ?_, ?_, ?_⟩
      · simpa using handled
      · simpa using replies
      · simpa [answers, Emulated.exchanges] using delivered
      · simpa [answers, Emulated.exchanges] using finished
    | cons next rest =>
      have collected : (e.exchange r.out.data).1.length ≤ (s.device.parked ++ r.slots).length := by
        simpa [Emulated.exchanges] using paced 1 (by simp)
      obtain ⟨nothing, settled⟩ := finished collected
      obtain ⟨t, more, ended, count, further, rest_delivered, last⟩ :=
        ih (h.steps steps) nothing settled.symm later (by
          -- the requests that the first round left are those it did not need
          intro n short
          have bound := paced (n + 1) (by simpa using short)
          rw [parked]
          simp only [List.take_succ_cons, List.map_cons, Emulated.exchanges, List.flatten_cons,
            List.length_append, List.flatMap_cons, List.length_drop] at bound collected ⊢
          omega)
      refine ⟨t, carried :: more, ?_, ?_, ?_, ?_, ?_⟩
      · rw [List.flatMap_cons, handleEach_append handled]
        exact ended
      · exact congrArg (· + 1) count
      · rw [further, replies, List.zipWith_cons_cons, List.flatten_cons, List.append_assoc]
      · have slots : s.device.parked ++ (r :: next :: rest).flatMap Round.slots
            = s.device.parked ++ r.slots ++ (next :: rest).flatMap Round.slots := by
          rw [List.flatMap_cons, List.append_assoc]
        rw [List.flatMap_cons, delivered, rest_delivered, parked, slots]
        exact (zipWith_append_append _ collected _ _).symm
      · intro enough
        refine last ?_
        rw [parked]
        simp only [answers, List.map_cons, Emulated.exchanges_cons, List.flatten_cons,
          List.length_append, List.flatMap_cons, List.length_drop] at enough collected ⊢
        omega

/-- An exported legacy camera sends what an emulated camera in the same state answers. Whatever the
host has done before, when nothing waits on bulk IN and each round begins after the answers before
it are collected: the replies to the requests for bulk IN, taken in the order of the requests, carry
the transfers of the answers as far as there are requests, however the requests are placed before
and behind the transfers from the host; and with requests enough the two cameras end in one
state. -/
theorem delivers_exchanges {identity : Identity} {s : Serving Legacy}
    (reachable : Reachable identity s) (empty : s.queue = [])
    (roomy : ∀ p ∈ s.device.parked, transferSize ≤ p.length.toNat) {rounds : List Round}
    (bulk : ∀ r ∈ rounds, r.Bulk)
    (paced : ∀ n < rounds.length,
      (Emulated.exchanges ((rounds.take n).map (·.out.data)) ⟨s.responder, []⟩).1.flatten.length
        ≤ (s.device.parked ++ (rounds.take n).flatMap Round.slots).length) :
    let answers := Emulated.exchanges (rounds.map (·.out.data)) ⟨s.responder, []⟩
    let slots := s.device.parked ++ rounds.flatMap Round.slots
    ∃ t carried, s.handleEach (rounds.flatMap Round.urbs) = .ok () t ∧
      carried.length = rounds.length ∧
      t.replies = s.replies ++ (List.zipWith Round.replies rounds carried).flatten ∧
      carried.flatMap (fun c => c.1 ++ c.2) = List.zipWith Parked.whole slots answers.1.flatten ∧
      (answers.1.flatten.length ≤ slots.length →
        t.queue = [] ∧ t.responder = answers.2.responder) := by
  intro answers slots
  obtain ⟨t, carried, handled, count, replies, delivered, finished⟩ :=
    handle_rounds reachable.steady empty (e := ⟨s.responder, []⟩) rfl bulk paced
  refine ⟨t, carried, handled, count, replies, ?_, finished⟩
  -- all requests have room for a whole transfer, those of the rounds and those parked before
  rw [delivered]
  refine zipWith_delivery (List.forall_mem_append.2 ⟨roomy, ?_⟩) Emulated.length_le_of_mem_exchanges
  intro p hp
  obtain ⟨r, listed, own⟩ := List.mem_flatMap.1 hp
  obtain ⟨urb, sent, rfl⟩ := List.mem_map.1 own
  exact (bulk r listed).roomy urb sent

/-- OpenSession, and behind it two requests for bulk IN. -/
def opening : Round where
  out := ⟨1, 0, 0, 2, 0, 12, 0, [], [12, 0, 0, 0, 1, 0, 0x02, 0x10, 1, 0, 0, 0]⟩
  ins := [⟨2, 0, 1, 1, 0, 512, 0, [], []⟩, ⟨3, 0, 1, 1, 0, 512, 0, [], []⟩]

/-- The answer to OpenSession is delivered to the first of two requests behind it. -/
theorem delivers_opening :
    ∃ t carried, imported.handleEach ([opening].flatMap Round.urbs) = .ok () t ∧
      t.replies = (List.zipWith Round.replies [opening] carried).flatten ∧
      carried.flatMap (fun c => c.1 ++ c.2) = List.zipWith Parked.whole opening.slots
        (Emulated.exchanges [opening.out.data] ⟨{}, []⟩).1.flatten := by
  have bulk : ∀ r ∈ [opening], r.Bulk := by
    intro r listed
    obtain rfl := List.mem_singleton.1 listed
    exact ⟨by decide, by decide, by decide, by decide⟩
  obtain ⟨t, carried, handled, -, replies, delivered, -⟩ :=
    delivers_exchanges (s := imported) (.fresh {} "1-1" _) rfl (List.forall_mem_nil _) bulk
      (fun n first => by
        obtain rfl : n = 0 := Nat.lt_one_iff.1 first
        exact Nat.zero_le _)
  exact ⟨t, carried, handled, replies, delivered⟩

end Serving

end PictureTransfer.UsbIp
