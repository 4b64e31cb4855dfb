import PictureTransfer.Proofs.Lane
import PictureTransfer.Proofs.UsbIp.History
import Mathlib.Data.List.Induction

/-!
# Transfers to the host keep their order

On each endpoint there are two lanes: the transfers that the bus takes and the requests that the
host parks. What leaves them leaves together, the oldest request with the transfer that waits
longest. Both lanes are read off the history of a device, and at every moment of it they hold what
waits on the bus and what is parked (`Conveyed`). So transfers are delivered in order, without loss
and just once, as far as nothing aborts them, and requests complete in order (`conveys_in_order`).
-/

namespace PictureTransfer

/-! ## Queues of a bus -/

namespace Bus

/-- What an operation that is carried out means for the queue of an endpoint. -/
def passing? (ep : UInt8) : Op × Bool → Option (Passing Bytes)
  | (.submitIn target data, true) => if target = ep then some (.entered data) else none
  | (.abortIn target, true) => if target = ep then some .dropped else none
  | _ => none

/-- An operation puts a transfer into a queue or empties it. -/
theorem entered_or_dropped {ep : UInt8} {v : Op × Bool} {e : Passing Bytes}
    (h : passing? ep v = some e) : (∃ data, e = .entered data) ∨ e = .dropped := by
  obtain ⟨op, carried⟩ := v
  cases op with
  | submitIn target data =>
    cases carried with
    | false => cases h
    | true =>
      obtain ⟨-, same⟩ := Option.ite_none_right_eq_some.1 h
      exact .inl ⟨data, (Option.some.inj same).symm⟩
  | abortIn target =>
    cases carried with
    | false => cases h
    | true =>
      obtain ⟨-, same⟩ := Option.ite_none_right_eq_some.1 h
      exact .inr (Option.some.inj same).symm
  | armOut target size => cases h
  | clearStall target => cases h

/-- No operation takes anything from the front of a queue. -/
theorem ne_left_of_passing? {ep : UInt8} {v : Op × Bool} {e : Passing Bytes}
    (h : passing? ep v = some e) : e ≠ .left := by
  rcases entered_or_dropped h with ⟨data, rfl⟩ | rfl <;> intro same <;> cases same

namespace Endpoints

theorem queue_perform (ep : UInt8) (op : Op) (bus : Endpoints) :
    (Bus.perform op bus).queue ep
      = (passing? ep (op, (Bus.request op bus).toBool)).toList.foldl
          (fun waiting e => e.on waiting) (bus.queue ep) := by
  cases op with
  | armOut target size => rfl
  | clearStall target => rfl
  | submitIn target data =>
    by_cases long : transferSize < data.length
    · have refused : Bus.request (.submitIn target data) bus
          = .error (.tooLarge target data.length transferSize) := if_pos long
      rw [perform_submitIn, if_pos long, refused]
      rfl
    · rw [perform_submitIn, if_neg long, request_submitIn bus target (Nat.le_of_not_lt long)]
      by_cases own : target = ep <;> simp [passing?, Except.toBool, own, queue, Passing.on]
  | abortIn target =>
    have carried : (Bus.request (.abortIn target) bus).toBool = true := rfl
    rw [carried, passing?]
    by_cases own : target = ep
    · subst own
      rw [if_pos rfl]
      exact bus.queue_abortIn target
    · rw [if_neg own]
      exact bus.queue_abortIn_of_ne own

/-- What some operations do to the queue of an endpoint. -/
theorem queue_foldl_perform (ep : UInt8) (ops : List Op) (bus : Endpoints) :
    (ops.foldl (fun bus op => Bus.perform op bus) bus).queue ep
      = ((verdicts ops bus).filterMap (passing? ep)).foldl
          (fun waiting e => e.on waiting) (bus.queue ep) := by
  induction ops generalizing bus with
  | nil => rfl
  | cons op rest ih =>
    rw [List.foldl_cons, ih, queue_perform, verdicts, filterMap_cons_eq_append, List.foldl_append]

/-- What is taken from the queue of an endpoint was the first in it, and no other queue changes. -/
theorem queue_of_pop? {ep : UInt8} {data : Bytes} {bus rest : Endpoints}
    (popped : bus.pop? ep = some (data, rest)) :
    bus.queue ep = data :: rest.queue ep ∧
      ∀ other, other ≠ ep → rest.queue other = bus.queue other := by
  obtain ⟨first, waits, same⟩ := Option.map_eq_some_iff.1 popped
  cases same
  rw [queue, List.head?_map, List.head?_filter] at waits
  obtain ⟨w, found, rfl⟩ := Option.map_eq_some_iff.1 waits
  obtain ⟨own, foreign⟩ := filter_of_find? found
  have here : w.1 = ep := by simpa using List.find?_some found
  constructor
  · exact congrArg (List.map Prod.snd) own
  · intro other apart
    refine congrArg (List.map Prod.snd) (foreign _ (decide_eq_false ?_))
    exact fun same => apart (same.symm.trans here)

end Endpoints

end Bus

namespace UsbIp

/-! ## The lanes of an endpoint -/

/-- What is unparked is the oldest request for an endpoint, and the others stay parked. -/
theorem Device.requests_of_unpark? {ep : UInt8} {parked left : List Parked} {p : Parked}
    (h : unpark? ep parked = some (p, left)) :
    parked.filter (·.ep = ep) = p :: left.filter (·.ep = ep) ∧
      ∀ other, other ≠ ep → left.filter (·.ep = other) = parked.filter (·.ep = other) := by
  have oldest : parked.find? (·.ep = ep) = some p ∧ left = parked.eraseP (·.ep = ep) := by
    induction parked generalizing left with
    | nil => cases h
    | cons q rest ih =>
      unfold unpark? at h
      split at h
      · next own =>
        cases h
        simp [own]
      · next other =>
        obtain ⟨⟨r, later⟩, found, same⟩ := Option.map_eq_some_iff.1 h
        cases same
        obtain ⟨oldest, rfl⟩ := ih found
        simp [other, oldest]
  obtain ⟨found, rfl⟩ := oldest
  obtain ⟨own, foreign⟩ := filter_of_find? found
  refine ⟨own, fun other apart => foreign _ (decide_eq_false ?_)⟩
  exact fun same => apart (same.symm.trans (Device.ep_of_unpark? h))

namespace Moment

/-- What passes through the queue of an endpoint. -/
def transfers (ep : UInt8) : Moment → List (Passing Bytes)
  | .called _ ops => ops.filterMap (Bus.passing? ep)
  | .delivered p _ => if p.ep = ep then [.left] else []
  | _ => []

/-- What passes through the requests that are parked for an endpoint. -/
def requests (ep : UInt8) : Moment → List (Passing Parked)
  | .parked p => if p.ep = ep then [.entered p] else []
  | .delivered p _ => if p.ep = ep then [.left] else []
  | .unlinked _ target found =>
    if found.any (·.ep = ep) then [.droppedFirst (·.seqnum = target)] else []
  | _ => []

/-- A request for an endpoint, with the transfer that is delivered for it. -/
def delivery? (ep : UInt8) : Moment → Option (Parked × Bytes)
  | .delivered p data => if p.ep = ep then some (p, data) else none
  | _ => none

/-- The transfers that a bus has taken on an endpoint. -/
def transferLane (ep : UInt8) (ms : List Moment) : Lane Bytes := .of (ms.flatMap (transfers ep))

/-- The requests that were parked for an endpoint. -/
def requestLane (ep : UInt8) (ms : List Moment) : Lane Parked := .of (ms.flatMap (requests ep))

/-- What was delivered on an endpoint. -/
def deliveries (ep : UInt8) (ms : List Moment) : List (Parked × Bytes) :=
  ms.filterMap (delivery? ep)

theorem transferLane_concat (ep : UInt8) (ms : List Moment) (m : Moment) :
    transferLane ep (ms ++ [m]) = (m.transfers ep).foldl Lane.pass (transferLane ep ms) := by
  rw [transferLane, List.flatMap_append, List.flatMap_singleton, Lane.of_append]
  rfl

theorem requestLane_concat (ep : UInt8) (ms : List Moment) (m : Moment) :
    requestLane ep (ms ++ [m]) = (m.requests ep).foldl Lane.pass (requestLane ep ms) := by
  rw [requestLane, List.flatMap_append, List.flatMap_singleton, Lane.of_append]
  rfl

theorem deliveries_concat (ep : UInt8) (ms : List Moment) (m : Moment) :
    deliveries ep (ms ++ [m]) = deliveries ep ms ++ (m.delivery? ep).toList := by
  rw [deliveries, List.filterMap_append, filterMap_cons_eq_append, List.filterMap_nil,
    List.append_nil]
  rfl

/-- A moment either delivers on an endpoint, or takes nothing from the front there. -/
theorem delivers_or_not (ep : UInt8) (m : Moment) :
    (∃ p data, m = .delivered p data ∧ p.ep = ep) ∨
      m.delivery? ep = none ∧ (∀ e ∈ m.transfers ep, e ≠ .left) ∧
        ∀ e ∈ m.requests ep, e ≠ .left := by
  cases m with
  | delivered p data =>
    by_cases own : p.ep = ep
    · exact .inl ⟨p, data, rfl, own⟩
    · refine .inr ⟨if_neg own, ?_, ?_⟩
      · rw [transfers, if_neg own]
        exact List.forall_mem_nil _
      · rw [requests, if_neg own]
        exact List.forall_mem_nil _
  | parked p =>
    refine .inr ⟨rfl, List.forall_mem_nil _, ?_⟩
    rw [requests]
    split
    · exact List.forall_mem_singleton.2 nofun
    · exact List.forall_mem_nil _
  | unlinked seqnum target found =>
    refine .inr ⟨rfl, List.forall_mem_nil _, ?_⟩
    rw [requests]
    split
    · exact List.forall_mem_singleton.2 nofun
    · exact List.forall_mem_nil _
  | called c ops =>
    -- the responder can put in and abort, but takes nothing from the front
    refine .inr ⟨rfl, ?_, List.forall_mem_nil _⟩
    intro e listed
    obtain ⟨v, -, passes⟩ := List.mem_filterMap.1 listed
    exact Bus.ne_left_of_passing? passes
  | _ => exact .inr ⟨rfl, List.forall_mem_nil _, List.forall_mem_nil _⟩

end Moment

namespace Serving

variable {σ : Type} [Responder σ] {s t : Serving σ} {m : Moment}

/-- The requests that are parked for an endpoint. -/
def requests (ep : UInt8) (s : Serving σ) : List Parked := s.device.parked.filter (·.ep = ep)

/-- What a moment does to the queue of an endpoint. -/
theorem Leads.queue (h : Leads s m t) (ep : UInt8) :
    t.device.bus.queue ep
      = (m.transfers ep).foldl (fun waiting e => e.on waiting) (s.device.bus.queue ep) := by
  cases h with
  | called c =>
    show (s.device.attached.step c).bus.queue ep = _
    rw [Attached.bus_step, Bus.Endpoints.queue_foldl_perform]
    rfl
  | @delivered p parked data bus unparked popped =>
    obtain ⟨first, others⟩ := Bus.Endpoints.queue_of_pop? popped
    show bus.queue ep = _
    rw [Moment.transfers]
    by_cases own : p.ep = ep
    · subst own
      rw [if_pos rfl, first]
      rfl
    · rw [if_neg own, others ep fun same => own same.symm]
      rfl
  | _ => rfl

omit [Responder σ] in
/-- On the endpoint on which an unlink finds its target, it takes back the oldest request with the
number of the target. -/
theorem eraseP_requests {ep : UInt8} {target : UInt32}
    (own : (s.device.parked.find? (s.names target)).any (·.ep = ep) = true) :
    (s.requests ep).eraseP (s.names target) = (s.requests ep).eraseP (·.seqnum = target) := by
  obtain ⟨p, found, here⟩ := (Option.any_eq_true _ _).1 own
  obtain rfl := of_decide_eq_true here
  obtain ⟨-, holder⟩ := names_iff.1 (List.find?_some found)
  refine eraseP_congr fun q listed => ?_
  have same : q.ep = p.ep := of_decide_eq_true (List.mem_filter.1 listed).2
  rw [names, holder, same]
  simp

/-- What a moment does to the requests for an endpoint. -/
theorem Leads.requests (h : Leads s m t) (ep : UInt8) :
    t.requests ep = (m.requests ep).foldl (fun waiting e => e.on waiting) (s.requests ep) := by
  cases h with
  | parked urb isIn known =>
    show (s.device.parked ++ [urb.slot]).filter _ = _
    rw [List.filter_append, List.filter_singleton, Moment.requests]
    by_cases own : urb.slot.ep = ep <;> simp [own, Passing.on, Serving.requests]
  | unlinked seqnum target =>
    show (s.device.parked.eraseP _).filter _ = _
    rw [filter_eraseP, Moment.requests]
    split
    · next own => exact eraseP_requests own
    · rfl
  | @delivered p parked data bus unparked popped =>
    obtain ⟨first, others⟩ := Device.requests_of_unpark? unparked
    show parked.filter _ = _
    rw [Moment.requests]
    by_cases own : p.ep = ep
    · subst own
      rw [if_pos rfl, Serving.requests, first]
      rfl
    · rw [if_neg own, others ep fun same => own same.symm]
      rfl
  | _ => rfl

/-! ## Every moment of a history -/

/-- What holds on an endpoint after some moments. The lanes hold the transfers that wait on the bus
and the requests that are parked, and what has left them is what was delivered, each transfer for
its request. -/
structure Conveyed (ep : UInt8) (ms : List Moment) (s : Serving σ) : Prop where
  waiting : (Moment.transferLane ep ms).waiting.map Prod.fst = s.device.bus.queue ep
  parked : (Moment.requestLane ep ms).waiting.map Prod.fst = s.requests ep
  transfers : (Moment.deliveries ep ms).map Prod.snd
    = (Moment.transferLane ep ms).left.map Prod.fst
  requests : (Moment.deliveries ep ms).map Prod.fst
    = (Moment.requestLane ep ms).left.map Prod.fst

/-- What is delivered was first in both lanes. -/
theorem Conveyed.first {p : Parked} {data : Bytes} {ms : List Moment} (h : Conveyed p.ep ms s)
    (leads : Leads s (.delivered p data) t) :
    (Moment.transferLane p.ep ms).waiting.head?.map Prod.fst = some data ∧
      (Moment.requestLane p.ep ms).waiting.head?.map Prod.fst = some p := by
  rw [← List.head?_map, ← List.head?_map, h.waiting, h.parked]
  cases leads with
  | delivered unparked popped =>
    rw [(Bus.Endpoints.queue_of_pop? popped).1, Serving.requests,
      (Device.requests_of_unpark? unparked).1]
    exact ⟨rfl, rfl⟩

theorem Conveyed.leads {ep : UInt8} {ms : List Moment} (h : Conveyed ep ms s)
    (leads : Leads s m t) : Conveyed ep (ms ++ [m]) t := by
  have waiting : (Moment.transferLane ep (ms ++ [m])).waiting.map Prod.fst
      = t.device.bus.queue ep := by
    rw [Moment.transferLane_concat, Lane.waiting_foldl_pass, h.waiting, leads.queue]
  have parked : (Moment.requestLane ep (ms ++ [m])).waiting.map Prod.fst = t.requests ep := by
    rw [Moment.requestLane_concat, Lane.waiting_foldl_pass, h.parked, leads.requests]
  -- a delivery takes the first of both lanes, any other moment leaves what has left them as it is
  rcases m.delivers_or_not ep with ⟨p, data, rfl, rfl⟩ | ⟨none, transfers, requests⟩
  · obtain ⟨transfer, request⟩ := h.first leads
    have delivery : (Moment.delivered p data).delivery? p.ep = some (p, data) := if_pos rfl
    have one : (Moment.delivered p data).transfers p.ep = [.left] := if_pos rfl
    have other : (Moment.delivered p data).requests p.ep = [.left] := if_pos rfl
    refine ⟨waiting, parked, ?_, ?_⟩
    · rw [Moment.deliveries_concat, Moment.transferLane_concat, delivery, one, List.map_append,
        h.transfers, List.foldl_cons, List.foldl_nil, Lane.left_pass_left, transfer]
      rfl
    · rw [Moment.deliveries_concat, Moment.requestLane_concat, delivery, other, List.map_append,
        h.requests, List.foldl_cons, List.foldl_nil, Lane.left_pass_left, request]
      rfl
  · refine ⟨waiting, parked, ?_, ?_⟩
    · rw [Moment.deliveries_concat, Moment.transferLane_concat, none,
        Lane.left_foldl_pass transfers, ← h.transfers]
      exact congrArg _ (List.append_nil _)
    · rw [Moment.deliveries_concat, Moment.requestLane_concat, none,
        Lane.left_foldl_pass requests, ← h.requests]
      exact congrArg _ (List.append_nil _)

theorem Conveyed.path {ep : UInt8} {first ms : List Moment} (h : Conveyed ep first s)
    (path : Path s ms t) : Conveyed ep (first ++ ms) t := by
  induction path generalizing first with
  | nil s =>
    rw [List.append_nil]
    exact h
  | cons leads later ih =>
    have next := ih (h.leads leads)
    rwa [List.append_assoc, List.singleton_append] at next

/-- Requests enter the lane of their endpoint as they are parked. -/
theorem entered_requestLane (ep : UInt8) (ms : List Moment) :
    (Moment.requestLane ep ms).entered
      = (ms.filterMap Moment.parked?).filter (·.ep = ep) := by
  -- over the history from its end: only a request that is parked enters the lane
  induction ms using List.reverseRecOn with
  | nil => rfl
  | append_singleton before m ih =>
    rw [Moment.requestLane_concat, List.filterMap_append, List.filter_append, ← ih]
    cases m with
    | parked p =>
      by_cases own : p.ep = ep <;> simp [Moment.requests, Moment.parked?, own, Lane.pass]
    | delivered p data =>
      rw [Moment.requests]
      split <;> exact (List.append_nil _).symm
    | unlinked seqnum target found =>
      rw [Moment.requests]
      split <;> exact (List.append_nil _).symm
    | _ => exact (List.append_nil _).symm

/-- A delivery says that the transfer succeeded, and carries as much of it as there is room for. -/
theorem delivery_eq (p : Parked) (data : Bytes) :
    ∃ actual : UInt32,
      p.delivery data = .submitted p.seqnum 0 actual (data.take (min data.length p.length.toNat)) ∧
      actual.toNat = min data.length p.length.toNat := by
  have count : (data.take p.length.toNat).length = min data.length p.length.toNat := by
    rw [List.length_take, Nat.min_comm]
  have room : min data.length p.length.toNat < 2 ^ 32 :=
    Nat.lt_of_le_of_lt (Nat.min_le_right _ _) p.length.toNat_lt
  refine ⟨UInt32.ofNat (min data.length p.length.toNat), ?_, UInt32.toNat_ofNat_of_lt' room⟩
  rw [Parked.delivery, count, Nat.min_comm, ← List.take_eq_take_min]

/-- Transfers to the host are delivered in order, without loss and just once, whatever the responder
does. For a host that takes all replies, any commands are served along a history in which every
delivery is followed by its completion and nothing else completes. The requests that it parks are
those of the host, in order. At every moment of it the replies so far are those of its moments, and
on each endpoint every transfer that the bus took was delivered, waits, or was dropped by an abort
while it waited, and just one of these; transfers are delivered in the order in which the bus took
them; and requests leave in the order in which they came, if they are not taken back. What is
delivered for a request is the front of its transfer, as much as the request has room for. -/
theorem conveys_in_order (responder : σ) (descriptors : Descriptors) (busId : String)
    (walk : Walk) (urbs : List Urb) :
    let start : Serving σ := { device := .fresh responder descriptors busId, walk }
    ∃ s ms, start.handleEach urbs = .ok () s ∧ Serves start urbs ms s ∧ Moment.Paced ms ∧
      (∀ ep, (Moment.requestLane ep ms).entered
        = (urbs.filterMap (Urb.request? descriptors)).filter (·.ep = ep)) ∧
      (∀ p data, Moment.delivered p data ∈ ms → ∃ actual : UInt32,
        (Moment.delivered p data).reply? = some
          (.submitted p.seqnum 0 actual (data.take (min data.length p.length.toNat))) ∧
        actual.toNat = min data.length p.length.toNat) ∧
      ∀ first later, ms = first ++ later → ∃ t, Path start first t ∧
        t.replies = first.filterMap Moment.reply? ∧
        ∀ ep, (Moment.transferLane ep first).Lawful ∧ (Moment.requestLane ep first).Lawful ∧
          Conveyed ep first t := by
  intro start
  obtain ⟨s, ms, serves⟩ := exists_serves (s := start) rfl rfl urbs
  have passes := serves.passes
  refine ⟨s, ms, serves.handleEach, serves, passes.paced, ?_, ?_, ?_⟩
  · intro ep
    rw [entered_requestLane, passes.parked]
    rfl
  · intro p data listed
    obtain ⟨actual, carries, count⟩ := delivery_eq p data
    exact ⟨actual, congrArg some carries, count⟩
  · -- the path to this moment is the first part of the whole
    rintro first later rfl
    obtain ⟨t, path, -⟩ := passes.path.split
    refine ⟨t, path, path.replies, fun ep => ?_⟩
    have conveyed : Conveyed ep [] start := ⟨rfl, rfl, rfl, rfl⟩
    exact ⟨Lane.lawful_of _, Lane.lawful_of _, conveyed.path path⟩

end Serving

end UsbIp

end PictureTransfer
