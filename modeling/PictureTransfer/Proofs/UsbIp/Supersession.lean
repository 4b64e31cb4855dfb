import PictureTransfer.Proofs.Collection
import PictureTransfer.Proofs.Relay.Budget
import PictureTransfer.Proofs.UsbIp.Order

/-!
# What a new transfer of the host leaves of an old answer

When a bridge hands a transfer to its relay, what it still holds of the last answer is gone. What it
has sent of that answer and the host has not collected is not: it waits on the bus, in front of the
new answer (`delivers_waiting_first`). A host that does not collect an answer before its next
transfer is therefore given the old answer for the new transfer (`delivers_superseded`).
-/

namespace PictureTransfer

open Relay

/-! ## A relay that answers at once -/

namespace Relay

/-- Reading from a link gives these frames one after another. -/
inductive Gives {L : Type} [Link L] : L → List Frame → Prop where
  | nil (link : L) : Gives link []
  | cons {link next : L} {frame : Frame} {frames : List Frame}
      (received : Link.receive link = (.ok frame, next)) (later : Gives next frames) :
      Gives link (frame :: frames)

/-- A relay that takes every transfer and answers it at once with these transfers, at most seven and
none too long, and with the end of the answer. -/
structure Prompt {L : Type} [Link L] (answer : L → Bytes → List Bytes) : Prop where
  takes : ∀ (link : L) data, Link.isConnected link = true →
    (Link.send (.rawOut data) link).1 = .ok ()
  answers : ∀ (link : L) data, Link.isConnected link = true →
    Gives (Link.send (.rawOut data) link).2 (Frame.answer (answer link data))
  short : ∀ link data, (answer link data).length ≤ 7
  fits : ∀ link data, ∀ transfer ∈ answer link data, transfer.length ≤ transferSize

end Relay

namespace Bridge

variable {L : Type} [Link L]

/-- An answer that ends within the budget is collected whole. -/
theorem collect_of_gives {transfers : List Bytes} {link : L}
    (gives : Gives link (Frame.answer transfers)) {n : Nat} (within : transfers.length < n) :
    (collect n link).1 = transfers := by
  obtain ⟨n, rfl⟩ := Nat.exists_eq_succ_of_ne_zero (Nat.ne_zero_of_lt within)
  -- over the answer: each transfer takes one read, and one is left for the end of the answer
  induction transfers generalizing link n with
  | nil =>
    cases gives with
    | cons received later =>
      rw [collect, received]
      rfl
  | cons data rest ih =>
    cases gives with
    | @cons link next frame frames received later =>
      have kind : (Frame.rawIn data).kind? = some .rawIn := rfl
      have shorter : rest.length < n := Nat.lt_of_succ_lt_succ within
      obtain ⟨n, rfl⟩ := Nat.exists_eq_succ_of_ne_zero (Nat.ne_zero_of_lt shorter)
      rw [collect, received]
      dsimp only
      rw [if_pos kind]
      exact congrArg (data :: ·) (ih later n shorter)

/-- What is collected of a relay that answers at once is its answer. -/
theorem queue_forward_of_prompt {answer : L → Bytes → List Bytes} (prompt : Prompt answer)
    {b : Bridge L} (budget : b.budget = defaultBudget) (connected : Link.isConnected b.link = true)
    (data : Bytes) : (b.forward data).queue = answer b.link data := by
  have taken := prompt.takes b.link data connected
  have gives := prompt.answers b.link data connected
  have within : (answer b.link data).length < b.budget := by
    rw [budget]
    exact Nat.lt_of_le_of_lt (prompt.short b.link data) (by decide)
  rw [forward]
  cases sends : Link.send (.rawOut data) b.link with
  | mk outcome link =>
    rw [sends] at taken gives
    obtain rfl : outcome = .ok () := taken
    exact collect_of_gives gives within

end Bridge

namespace UsbIp

/-- What is delivered on bulk IN. -/
def Moment.collected (ms : List Moment) : List Bytes :=
  (deliveries Endpoint.bulkIn ms).map Prod.snd

theorem Moment.collected_cons (m : Moment) (ms : List Moment) :
    collected (m :: ms) = collected [m] ++ collected ms := by
  rw [← List.singleton_append, collected, deliveries, List.filterMap_append, List.map_append]
  rfl

namespace Serving

variable {L : Type} [Link L] {s t u : Serving (Bridge L)} {m : Moment} {ms : List Moment}

/-- What a bridge still has for the host: what it has sent and waits on the bus, and what it holds.
-/
def pending (s : Serving (Bridge L)) : List Bytes :=
  s.device.attached.queue ++ s.device.attached.responder.queue

/-- The transfer of the host that is handed to the relay in a moment. -/
def forwards? (s : Serving (Bridge L)) : Moment → Option Bytes
  | .called c _ => s.device.attached.responder.forwards? c
  | _ => none

/-- Moments in which nothing is handed to the relay. -/
inductive Quiet : Serving (Bridge L) → List Moment → Serving (Bridge L) → Prop where
  | nil (s : Serving (Bridge L)) : Quiet s [] s
  | cons {s t u : Serving (Bridge L)} {m : Moment} {ms : List Moment} (leads : Leads s m t)
      (quiet : s.forwards? m = none) (later : Quiet t ms u) : Quiet s (m :: ms) u

/-- A callback in which nothing is handed to the relay brings forth nothing new for the host. -/
theorem pending_called {c : Callback} (quiet : s.device.attached.responder.forwards? c = none)
    (short : ∀ data ∈ s.device.attached.responder.queue, data.length ≤ transferSize) :
    (s.withAttached (s.device.attached.step c)).pending <+: s.pending ∧
      ∀ data ∈ (s.device.attached.step c).responder.queue, data.length ≤ transferSize := by
  have plays := Bridge.plays_reaction (Bus.view s.device.attached.bus) quiet
  have moved : (s.withAttached (s.device.attached.step c)).pending
      = (s.device.attached.step c).queue ++ (s.device.attached.step c).responder.queue := rfl
  rw [moved, pending, Attached.step_eq_react, Attached.react, Attached.responder_foldl_act]
  generalize Responder.reaction _ c s.device.attached.responder = r at plays ⊢
  -- the queue of the bus does not depend on the responder
  have same : ∀ b : Bridge L, ({ s.device.attached with responder := b } : Attached _ _).queue
      = s.device.attached.queue := fun b => rfl
  cases plays with
  | dropped interface drops silent =>
    refine ⟨?_, List.forall_mem_nil _⟩
    show _ ++ [] <+: _
    rw [List.append_nil]
    exact (Attached.queue_prefix_of_silent silent).trans (List.prefix_append _ _)
  | next =>
    obtain ⟨next, sends⟩ := Bridge.sendNext_eq s.device.attached.responder
    rw [Attached.queue_of_plain (Bridge.plain_sendNext short), sends, next, same,
      List.append_assoc, List.take_append_drop]
    exact ⟨List.prefix_rfl, fun data listed => short data (List.mem_of_mem_drop listed)⟩
  | kept keeps other silent aborts =>
    rw [Attached.queue_of_kept silent aborts]
    exact ⟨List.prefix_rfl, short⟩

/-- What is delivered on bulk IN was the first in its queue, and a delivery on another endpoint
takes nothing from there. -/
theorem queue_of_delivered {σ : Type} [Responder σ] {s t : Serving σ} {p : Parked} {data : Bytes}
    (leads : Leads s (.delivered p data) t) :
    Moment.collected [.delivered p data] ++ t.device.attached.queue = s.device.attached.queue := by
  cases leads with
  | delivered unparked popped =>
    obtain ⟨first, others⟩ := Bus.Endpoints.queue_of_pop? popped
    by_cases own : p.ep = Endpoint.bulkIn
    · have one : Moment.collected [.delivered p data] = [data] := by
        simp [Moment.collected, Moment.deliveries, Moment.delivery?, own]
      rw [own] at first
      rw [one]
      exact first.symm
    · have none : Moment.collected [.delivered p data] = [] := by
        simp [Moment.collected, Moment.deliveries, Moment.delivery?, own]
      rw [none]
      exact others _ fun same => own same.symm

/-- In a moment in which nothing is handed to the relay, what is delivered is taken from the front
of what there was for the host, and nothing comes to that. -/
theorem pending_leads (leads : Leads s m t) (quiet : s.forwards? m = none)
    (short : ∀ data ∈ s.device.attached.responder.queue, data.length ≤ transferSize) :
    Moment.collected [m] ++ t.pending <+: s.pending ∧
      ∀ data ∈ t.device.attached.responder.queue, data.length ≤ transferSize := by
  cases leads with
  | called c => exact pending_called quiet short
  | @delivered p parked data bus unparked popped =>
    refine ⟨?_, short⟩
    rw [pending, ← List.append_assoc, queue_of_delivered (.delivered unparked popped)]
    exact List.prefix_rfl
  | _ => exact ⟨List.prefix_rfl, short⟩

theorem pending_quiet (path : Quiet s ms t)
    (short : ∀ data ∈ s.device.attached.responder.queue, data.length ≤ transferSize) :
    Moment.collected ms ++ t.pending <+: s.pending := by
  induction path with
  | nil s => exact List.prefix_rfl
  | @cons s t u m ms leads quiet later ih =>
    obtain ⟨front, short⟩ := pending_leads leads quiet short
    rw [Moment.collected_cons, List.append_assoc]
    exact ((List.prefix_append_right_inj _).2 (ih short)).trans front

/-- A transfer that is handed to the relay leaves what waits on the bus in front of its answer, and
nothing of an older answer behind that. -/
theorem pending_forward {data : Bytes} {ops : List (Bus.Op × Bool)}
    (leads : Leads s (.called (.outCompleted data) ops) t)
    (connected : Link.isConnected s.device.attached.responder.link = true)
    (short : ∀ d ∈ (s.device.attached.responder.forward data).queue, d.length ≤ transferSize) :
    t.pending = s.device.attached.queue ++ (s.device.attached.responder.forward data).queue ∧
      ∀ d ∈ t.device.attached.responder.queue, d.length ≤ transferSize := by
  cases leads with
  | called c =>
    have plain := Bridge.plain_outCompleted connected short
    have responder : (s.device.attached.step (.outCompleted data)).responder
        = { s.device.attached.responder.forward data with
          queue := (s.device.attached.responder.forward data).queue.drop 1 } :=
      Bridge.responder_of_forwards (a := s.device.attached) (t := .still L (.outCompleted data))
        (if_pos connected)
    have queue : (s.device.attached.step (.outCompleted data)).queue
        = s.device.attached.queue
          ++ (s.device.attached.responder.forward data).queue.take 1 := by
      rw [Attached.step_eq_react, ← Bridge.transfers_outCompleted connected]
      exact Attached.queue_of_plain plain
    constructor
    · show (s.device.attached.step _).queue ++ (s.device.attached.step _).responder.queue = _
      rw [queue, responder, List.append_assoc, List.take_append_drop]
    · intro d listed
      have listed : d ∈ (s.device.attached.step (.outCompleted data)).responder.queue := listed
      rw [responder] at listed
      exact short d (List.mem_of_mem_drop listed)

/-- Serving a host leaves the budget of a bridge as it is. -/
theorem budget_path (path : Path s ms t) :
    t.device.attached.responder.budget = s.device.attached.responder.budget := by
  induction path with
  | nil s => rfl
  | cons leads later ih =>
    rw [ih]
    cases leads with
    | called c => exact Bridge.budget_turns [.still L c] _
    | _ => rfl

/-- A device whose bridge has a relay behind this link. -/
def bridging (link : L) (descriptors : Descriptors) (busId : String) : Serving (Bridge L) :=
  { device := .fresh { link, budget := Bridge.defaultBudget } descriptors busId }

/-- With a relay that answers at once, a transfer of the host that is handed to the relay is
answered by what waits on the bus from before, and then by its own answer: as long as no other is
handed over, what is delivered on bulk IN is the front of these. Nothing else of an older answer is
delivered any more. -/
theorem delivers_waiting_first {answer : L → Bytes → List Bytes} (prompt : Prompt answer) (link : L)
    (descriptors : Descriptors) (busId : String) (walk : Walk) (urbs : List Urb) :
    let start := { bridging link descriptors busId with walk }
    ∃ s ms, start.handleEach urbs = .ok () s ∧ Serves start urbs ms s ∧
      ∀ before data ops later, ms = before ++ .called (.outCompleted data) ops :: later →
        ∃ u v, Path start before u ∧ Leads u (.called (.outCompleted data) ops) v ∧
          Path v later s ∧
          (Link.isConnected u.device.attached.responder.link = true →
            ∀ between w, between <+: later → Quiet v between w →
              Moment.collected between
                <+: u.device.attached.queue ++ answer u.device.attached.responder.link data) := by
  intro start
  obtain ⟨s, ms, serves⟩ := exists_serves (s := start) rfl rfl urbs
  refine ⟨s, ms, serves.handleEach, serves, ?_⟩
  rintro before data ops later rfl
  obtain ⟨u, reached, rest⟩ := serves.passes.path.split
  cases rest with
  | @cons _ v _ _ _ forwards behind =>
    refine ⟨u, v, reached, forwards, behind, ?_⟩
    intro connected between w _ quiet
    have budget : u.device.attached.responder.budget = Bridge.defaultBudget := budget_path reached
    have collected := Bridge.queue_forward_of_prompt prompt budget connected data
    have short : ∀ d ∈ (u.device.attached.responder.forward data).queue,
        d.length ≤ transferSize := by
      rw [collected]
      exact prompt.fits _ data
    -- right behind the callback, what waited and the new answer are all there is for the host
    obtain ⟨pending, held⟩ := pending_forward forwards connected short
    have front := pending_quiet quiet held
    rw [pending, collected] at front
    exact (List.prefix_append _ _).trans front

end Serving

end UsbIp

/-! ## An echo -/

/-- A relay that answers every transfer with its beginning, twice. -/
structure Relay.Echo where
  replies : List Frame := []

namespace Relay.Echo

def answer (data : Bytes) : List Bytes := List.replicate 2 (data.take transferSize)

instance : Link Echo where
  isConnected _ := true
  send frame _ := (.ok (), ⟨Frame.answer (answer frame.payload)⟩)
  receive l :=
    match l.replies with
    | [] => (.error .timeout, l)
    | frame :: rest => (.ok frame, ⟨rest⟩)

theorem gives (frames : List Frame) : Gives (⟨frames⟩ : Echo) frames := by
  induction frames with
  | nil => exact .nil _
  | cons frame rest ih => exact .cons rfl ih

theorem prompt : Prompt fun (_ : Echo) data => answer data where
  takes _ _ _ := rfl
  answers _ data _ := gives _
  short _ _ := by simp [answer]
  fits _ data transfer listed := by
    obtain rfl := (List.mem_replicate.1 listed).2
    exact List.length_take_le _ _

end Relay.Echo

namespace UsbIp.Serving

/-- A transfer of the host for bulk OUT. -/
def sending (seqnum : UInt32) (data : Bytes) : Urb :=
  .submit ⟨seqnum, 0, 0, 2, 0, UInt32.ofNat data.length, 0, [], data⟩

/-- A request of the host for bulk IN. -/
def asking (seqnum : UInt32) : Urb := .submit ⟨seqnum, 0, 1, 1, 0, 512, 0, [], []⟩

/-- An exported bridge with an echo behind it. -/
def echoing : Serving (Bridge Echo) := bridging {} (.ofPersonality .rawProxy {}) "1-1"

/-- Two transfers of the host, and then its requests. -/
def echoed : List Urb := [sending 1 [1], sending 2 [2], asking 3, asking 4, asking 5, asking 6]

/-- Of two transfers that the host sends before it collects anything, the second is answered by the
half of the first answer that waits on the bus, and then by its own answer. The other half is gone.
-/
theorem delivers_waiting_first_echo :
    Prompt (fun (_ : Echo) data => Echo.answer data) ∧
      ∃ s ms, echoing.handleEach echoed = .ok () s ∧ Serves echoing echoed ms s ∧
        s.replies = [.submitted 1 0 1 [], .submitted 2 0 1 [], .submitted 3 0 1 [1],
          .submitted 4 0 1 [2], .submitted 5 0 1 [2]] := by
  obtain ⟨s, ms, handled, serves, -⟩ := delivers_waiting_first Echo.prompt {}
    (.ofPersonality .rawProxy {}) "1-1" _ echoed
  refine ⟨Echo.prompt, s, ms, handled, serves, ?_⟩
  have replies : (Outcome.state (echoing.handleEach echoed)).replies
        = [.submitted 1 0 1 [], .submitted 2 0 1 [], .submitted 3 0 1 [1],
          .submitted 4 0 1 [2], .submitted 5 0 1 [2]] := by decide +kernel
  have state : echoing.handleEach echoed = .ok () s := handled
  rw [state] at replies
  exact replies

/-- The transfer that is delivered after the second transfer of the host was handed to the relay is
the answer to the first, and no part of the answer to the second. -/
theorem delivers_superseded :
    (Outcome.state (echoing.handleEach [sending 1 [1], sending 2 [2], asking 3])).replies
        = [.submitted 1 0 1 [], .submitted 2 0 1 [], .submitted 3 0 1 [1]] ∧
      [1] ∈ Echo.answer [1] ∧ [1] ∉ Echo.answer [2] := by
  refine ⟨?_, by decide, by decide⟩
  decide +kernel

end UsbIp.Serving

end PictureTransfer
