import PictureTransfer.Proofs.UsbIp.Steps
import PictureTransfer.Responder.Legacy

/-!
# What handling a command consists of

One equation for each loop of serving says what its next turn does (`flush_of_match`, `receive_eq`,
`handleAll_of_ok`).

A host that takes all replies never sees a command fail. `Delivered` says what matching does to
replies and parked transfers, whatever the responder makes of its callbacks. `Handled` says what a
command leads to: a transfer is answered by the reply that is due to it (`Due`) or parked, an unlink
takes back what it names, and before and behind that some parked transfers are answered
(`handle_handled`). What holds of replies and parked transfers after any commands follows from
these.
-/

namespace PictureTransfer.UsbIp

/-- The reply that carries a transfer, cut to what the host asked for. -/
def Parked.delivery (p : Parked) (data : Bytes) : Reply :=
  .submitted p.seqnum 0 (UInt32.ofNat (data.take p.length.toNat).length) (data.take p.length.toNat)

/-- The request that a transfer to the host parks. -/
def Submit.slot (urb : Submit) : Parked := ⟨urb.address, urb.seqnum, urb.length⟩

/-- What is taken out of the parked transfers and what is left are all of them. -/
theorem Device.perm_of_unpark? {ep : UInt8} {parked left : List Parked} {p : Parked}
    (h : unpark? ep parked = some (p, left)) : parked.Perm (p :: left) := by
  induction parked generalizing left with
  | nil => cases h
  | cons q rest ih =>
    unfold unpark? at h
    split at h
    · cases h
      exact .refl _
    · obtain ⟨⟨r, later⟩, found, same⟩ := Option.map_eq_some_iff.1 h
      cases same
      exact ((ih found).cons q).trans (.swap p q later)

/-- A number under which a transfer is parked is found on an endpoint of such a transfer, in
whatever order the endpoints come up. -/
theorem Device.exists_holder {σ : Type} {d : Device σ} {p : Parked} (waits : p ∈ d.parked)
    (order : List UInt8) :
    ∃ q ∈ d.parked, q.seqnum = p.seqnum ∧ d.holder? order p.seqnum = some q.ep := by
  have held : p.ep ∈ d.holders p.seqnum :=
    List.mem_map_of_mem (List.mem_filter.2 ⟨waits, decide_eq_true rfl⟩)
  have found : (d.holder? order p.seqnum).isSome = true :=
    List.find?_isSome.2 ⟨p.ep, List.mem_append_right _ held, List.contains_iff_mem.2 held⟩
  obtain ⟨ep, holder⟩ := Option.isSome_iff_exists.1 found
  obtain ⟨q, named, rfl⟩ := List.mem_map.1 (List.contains_iff_mem.1 (List.find?_some holder))
  obtain ⟨parked, same⟩ := List.mem_filter.1 named
  exact ⟨q, parked, of_decide_eq_true same, holder⟩

namespace Serving

/-- Handles some commands of a host, up to the first that fails. -/
def handleEach {σ : Type} [Responder σ] : List Urb → Serving σ → Outcome σ
  | [], s => .ok () s
  | urb :: rest, s =>
    match s.handle urb with
    | .error e t => .error e t
    | .ok () t => t.handleEach rest

theorem handleEach_cons {σ : Type} [Responder σ] {s t : Serving σ} {urb : Urb} {rest : List Urb}
    (handled : s.handle urb = .ok () t) : s.handleEach (urb :: rest) = t.handleEach rest := by
  rw [handleEach, handled]

theorem handleEach_append {σ : Type} [Responder σ] {s t : Serving σ} {first later : List Urb}
    (handled : s.handleEach first = .ok () t) :
    s.handleEach (first ++ later) = t.handleEach later := by
  induction first generalizing s with
  | nil =>
    cases handled
    rfl
  | cons urb rest ih =>
    rw [handleEach] at handled
    split at handled
    · cases handled
    · next u one =>
      rw [List.cons_append, handleEach_cons one]
      exact ih handled

/-- The reply to a transfer from the host. -/
def acknowledgement (urb : Submit) : Reply :=
  .submitted urb.seqnum 0 (UInt32.ofNat urb.data.length) []

variable {σ : Type}

/-- A device that has written one more reply. -/
def wrote (reply : Reply) (s : Serving σ) : Serving σ := { s with replies := s.replies ++ [reply] }

theorem write_eq (s : Serving σ) (reply : Reply) :
    s.write reply = match s.limit with
      | none => .ok () (s.wrote reply)
      | some n =>
        if (s.wrote reply).output.length ≤ n then .ok () (s.wrote reply)
        else .error .brokenPipe (s.wrote reply) := rfl

theorem write_of_unlimited {s : Serving σ} (h : s.limit = none) (reply : Reply) :
    s.write reply = .ok () (s.wrote reply) := by
  simp only [write, wrote, h]

theorem eq_wrote {s t : Serving σ} {reply : Reply} (written : s.write reply = .ok () t) :
    t = s.wrote reply := by
  rw [wrote, ← state_write, written]
  rfl

/-- A device at which one more transfer is parked. -/
def park (p : Parked) (s : Serving σ) : Serving σ :=
  { s with device := { s.device with parked := s.device.parked ++ [p] } }

theorem names_iff {s : Serving σ} {target : UInt32} {p : Parked} :
    s.names target p = true ↔ p.seqnum = target ∧
      s.device.holder? (s.walk s.replies.length) target = some p.ep := decide_eq_true_iff

/-- An unlink finds a transfer where one with its number is parked. -/
theorem any_names (s : Serving σ) (target : UInt32) :
    s.device.parked.any (s.names target) = s.device.parked.any (·.seqnum = target) := by
  rw [Bool.eq_iff_iff, List.any_eq_true, List.any_eq_true]
  constructor
  · rintro ⟨p, waits, named⟩
    exact ⟨p, waits, decide_eq_true (names_iff.1 named).1⟩
  · rintro ⟨p, waits, same⟩
    obtain rfl := of_decide_eq_true same
    obtain ⟨q, parked, numbered, holder⟩ := Device.exists_holder waits (s.walk s.replies.length)
    exact ⟨q, parked, names_iff.2 ⟨numbered, holder⟩⟩

/-- A device that a parked transfer has left, with those that are still parked, and its bus without
the transfer that waited there. -/
def left (parked : List Parked) (bus : Bus.Endpoints) (s : Serving σ) : Serving σ :=
  { s with device := { s.device with parked, attached := { s.device.attached with bus } } }

/-- The size of the pieces in which data is handed to the responder. -/
def pieceSize (s : Serving σ) : Nat := max (s.device.bus.armed.getD receiveSize) 1

/-- A piece is not empty, so that less is left. -/
theorem length_drop_pieceSize {s : Serving σ} {data : Bytes} (more : data.drop s.pieceSize ≠ []) :
    (data.drop s.pieceSize).length < data.length := by
  have some_left := List.length_pos_iff.2 more
  have some_taken : 1 ≤ s.pieceSize := Nat.le_max_right _ _
  rw [List.length_drop] at some_left ⊢
  omega

/-! ## One turn of each loop -/

section Turns

variable [Responder σ] {s : Serving σ} {ep : UInt8}

theorem flush_of_nothing (nothing : s.device.ready? = none) : s.flush = .ok () s := by
  rw [flush, nothing]

theorem flush_of_unmatched (ready : s.device.ready? = some ep)
    (unmatched : ∀ p parked data bus, Device.unpark? ep s.device.parked = some (p, parked) →
      s.device.bus.pop? ep = some (data, bus) → False) : s.flush = .ok () s := by
  rw [flush, ready]
  dsimp only
  split
  · next p parked data bus found popped => exact (unmatched p parked data bus found popped).elim
  · rfl

/-- The oldest request on an endpoint and the transfer that waits longest there leave together. -/
theorem flush_of_match (ready : s.device.ready? = some ep) {p : Parked} {parked : List Parked}
    {data : Bytes} {bus : Bus.Endpoints}
    (unparked : Device.unpark? ep s.device.parked = some (p, parked))
    (popped : s.device.bus.pop? ep = some (data, bus)) :
    s.flush = match (s.left parked bus).write (p.delivery data) with
      | .error e t => .error e t
      | .ok () t => (t.withAttached (t.device.attached.inCompleted ep)).flush := by
  rw [flush, ready]
  dsimp only
  split
  · next q others front rest found taken =>
    rw [unparked] at found
    rw [popped] at taken
    cases found
    cases taken
    split
    · next e t wrote =>
      have wrote : (s.left parked bus).write (p.delivery data) = .error e t := wrote
      rw [wrote]
    · next t wrote =>
      have wrote : (s.left parked bus).write (p.delivery data) = .ok () t := wrote
      rw [wrote]
  · next unmatched => exact (unmatched p parked data bus unparked popped).elim

/-- The first piece of some data is handed over, and then the rest. -/
theorem receive_eq (s : Serving σ) (data : Bytes) :
    s.receive data = match (s.handOver (data.take s.pieceSize)).flush with
      | .error e t => .error e t
      | .ok () t =>
        if data.drop s.pieceSize = [] then .ok () t else t.receive (data.drop s.pieceSize) := by
  rw [receive]
  rfl

theorem handleAll_of_error {source rest : Source} {e : Error}
    (read : Urb.read source = .error e rest) (s : Serving σ) : s.handleAll source = (e, s) := by
  rw [handleAll]
  split
  · next e' rest' failed =>
    rw [read] at failed
    cases failed
    rfl
  · next urb rest' done =>
    rw [read] at done
    cases done

theorem handleAll_of_ok {source rest : Source} {urb : Urb}
    (read : Urb.read source = .ok urb rest) (s : Serving σ) :
    s.handleAll source = match s.handle urb with
      | .error e t => (e, t)
      | .ok () t => t.handleAll rest := by
  rw [handleAll]
  split
  · next e rest' failed =>
    rw [read] at failed
    cases failed
  · next urb' rest' done =>
    rw [read] at done
    cases done
    rfl

end Turns

/-! ## Deliveries -/

/-- Between two states the parked transfers in `carried` were answered, each with what it carries.
Nothing else was written, and the other parked transfers are still there. -/
structure Delivered (s : Serving σ) (carried : List (Parked × Bytes)) (t : Serving σ) : Prop where
  limit : t.limit = s.limit
  replies : t.replies = s.replies ++ carried.map fun c => c.1.delivery c.2
  parked : s.device.parked.Perm (carried.map Prod.fst ++ t.device.parked)

namespace Delivered

/-- Where replies and parked transfers are the same, nothing was delivered. -/
theorem nothing {s t : Serving σ} (limit : t.limit = s.limit) (replies : t.replies = s.replies)
    (parked : t.device.parked = s.device.parked) : Delivered s [] t :=
  ⟨limit, by rw [replies, List.map_nil, List.append_nil], by rw [parked]; exact .refl _⟩

theorem trans {s t u : Serving σ} {carried more : List (Parked × Bytes)}
    (first : Delivered s carried t) (second : Delivered t more u) :
    Delivered s (carried ++ more) u where
  limit := second.limit.trans first.limit
  replies := by rw [second.replies, first.replies, List.map_append, List.append_assoc]
  parked := by
    rw [List.map_append, List.append_assoc]
    exact first.parked.trans (second.parked.append_left _)

/-- What a callback does to the responder and its bus delivers nothing by itself. -/
theorem behind {s t : Serving σ} {attached : Attached Bus.Endpoints σ}
    {carried : List (Parked × Bytes)} (h : Delivered (s.withAttached attached) carried t) :
    Delivered s carried t := ⟨h.limit, h.replies, h.parked⟩

/-- Whether its reply is taken or not, a request that leaves is answered with what leaves with it.
-/
theorem left {s : Serving σ} {r : Outcome σ} {ep : UInt8} {p : Parked} {parked : List Parked}
    {data : Bytes} {bus : Bus.Endpoints}
    (unparked : Device.unpark? ep s.device.parked = some (p, parked))
    (wrote : (s.left parked bus).write (p.delivery data) = r) :
    Delivered s [(p, data)] r.state := by
  rw [← wrote, state_write]
  exact ⟨rfl, rfl, Device.perm_of_unpark? unparked⟩

/-- What is answered was parked before, so that there is no more of it. -/
theorem length_le {s t : Serving σ} {carried : List (Parked × Bytes)}
    (h : Delivered s carried t) : carried.length ≤ s.device.parked.length := by
  rw [h.parked.length_eq, List.length_append, List.length_map]
  exact Nat.le_add_right _ _

end Delivered

variable [Responder σ]

/-- Matching answers some of the parked transfers, and does not fail. -/
theorem flush_delivered {s : Serving σ} (unlimited : s.limit = none) :
    ∃ t carried, s.flush = .ok () t ∧ Delivered s carried t := by
  fun_induction flush s with
  | case1 s nothing => exact ⟨s, [], rfl, .nothing rfl rfl rfl⟩
  | case2 s ep ready p left data bus unparked popped cut taken e t failed =>
    rw [write_of_unlimited (by exact unlimited)] at failed
    cases failed
  | case3 s ep ready p left data bus unparked popped cut taken t written fewer ih =>
    -- the transfer taken out is the first that is answered
    have first : Delivered s [(p, data)] t := .left unparked written
    obtain ⟨u, carried, flushed, later⟩ := ih (first.limit.trans unlimited)
    exact ⟨u, _, flushed, first.trans later.behind⟩
  | case4 s ep ready unmatched => exact ⟨s, [], rfl, .nothing rfl rfl rfl⟩

theorem handOver_delivered {s : Serving σ} (unlimited : s.limit = none) (piece : Bytes) :
    ∃ t carried, (s.handOver piece).flush = .ok () t ∧ Delivered s carried t := by
  obtain ⟨t, carried, flushed, later⟩ := flush_delivered (s := s.handOver piece) unlimited
  exact ⟨t, carried, flushed, later.behind⟩

/-- While data is handed to the responder, some of the parked transfers are answered. -/
theorem receive_delivered {s : Serving σ} (unlimited : s.limit = none) (data : Bytes) :
    ∃ t carried, s.receive data = .ok () t ∧ Delivered s carried t := by
  fun_induction receive data s with
  | case1 data s bus size attached e t failed =>
    -- no piece fails, as nothing that is written does
    obtain ⟨u, carried, flushed, -⟩ := handOver_delivered unlimited (data.take size)
    cases flushed.symm.trans failed
  | case2 data s bus size attached t flushed last =>
    obtain ⟨u, carried, same, delivered⟩ := handOver_delivered unlimited (data.take size)
    cases same.symm.trans flushed
    exact ⟨t, carried, rfl, delivered⟩
  | case3 data s bus size attached t flushed more ih =>
    obtain ⟨u, carried, same, delivered⟩ := handOver_delivered unlimited (data.take size)
    cases same.symm.trans flushed
    obtain ⟨v, rest, received, later⟩ := ih (delivered.limit.trans unlimited)
    exact ⟨v, _, received, delivered.trans later⟩

/-! ## Commands -/

/-- The reply that is due to a transfer itself: it is refused, its data has been received, or it is
a control transfer, which the device or the responder answers. -/
inductive Due (σ : Type) [Responder σ] (urb : Submit) : Reply → Prop where
  | refused : Due σ urb (.submitted urb.seqnum Reply.brokenPipe 0 [])
  | received (toDevice : urb.isIn = false) : Due σ urb (acknowledgement urb)
  | standard (control : urb.ep = 0) (own : (Setup.ofBytes urb.setup).isStandard = true)
      (whole : (Setup.ofBytes urb.setup).toEndpoint = false) (d : Device σ) :
      Due σ urb (controlReply urb (Setup.ofBytes urb.setup)
        (standardRequest (Setup.ofBytes urb.setup) d).1)
  | responder (control : urb.ep = 0) (view : Bus.View) (r : σ) :
      Due σ urb (controlReply urb (Setup.ofBytes urb.setup)
        (Responder.control view (Setup.ofBytes urb.setup) urb.data r).2)

/-- What a command leads to. -/
inductive Handled (s : Serving σ) : Urb → Serving σ → Prop where
  | answered {urb : Submit} {reply : Reply} {u t : Serving σ}
      {earlier later : List (Parked × Bytes)} (due : Due σ urb reply)
      (before : Delivered s earlier u) (behind : Delivered (u.wrote reply) later t) :
      Handled s (.submit urb) t
  | parked {urb : Submit} {t : Serving σ} {later : List (Parked × Bytes)}
      (isIn : urb.isIn = true) (behind : Delivered (s.park urb.slot) later t) :
      Handled s (.submit urb) t
  | unlinked (seqnum target : UInt32) :
      Handled s (.unlink seqnum target) ((s.takeBack target).wrote (.unlinked seqnum
        (if s.device.parked.any (·.seqnum = target) then Reply.connectionReset else 0)))

/-- A host that takes all replies goes on taking them. -/
theorem Handled.limit {s t : Serving σ} {urb : Urb} (h : Handled s urb t) : t.limit = s.limit := by
  cases h with
  | answered due before behind => exact behind.limit.trans before.limit
  | parked isIn behind => exact behind.limit
  | unlinked seqnum target => rfl

theorem standardRequest_parked (setup : Setup) (d : Device σ) :
    (standardRequest setup d).2.parked = d.parked := by
  rw [standardRequest]
  dsimp only
  split
  · split <;> rfl
  · split <;> rfl
  all_goals rfl

/-- The reply that is due is written, and then what waits is matched. -/
theorem reply_handled {s u : Serving σ} (unlimited : s.limit = none) {urb : Submit} {reply : Reply}
    {earlier : List (Parked × Bytes)} (before : Delivered s earlier u) (due : Due σ urb reply) :
    ∃ t, (match u.write reply with
        | .error e t => (.error e t : Outcome σ)
        | .ok () t => t.flush) = .ok () t ∧ Handled s (.submit urb) t := by
  have open_ended := before.limit.trans unlimited
  obtain ⟨t, later, flushed, behind⟩ := flush_delivered (s := u.wrote reply) open_ended
  rw [write_of_unlimited open_ended]
  exact ⟨t, flushed, .answered due before behind⟩

theorem control_handled {s : Serving σ} (unlimited : s.limit = none) {urb : Submit}
    (zero : urb.ep = 0) : ∃ t, s.control urb = .ok () t ∧ Handled s (.submit urb) t := by
  rw [control]
  dsimp only
  -- the device serves what is standard and not for an endpoint, the responder all else
  by_cases own : ((Setup.ofBytes urb.setup).isStandard &&
      !(Setup.ofBytes urb.setup).toEndpoint) = true
  · rw [if_pos own]
    have before : Delivered s []
        { s with device := (standardRequest (Setup.ofBytes urb.setup) s.device).2 } :=
      .nothing rfl rfl (standardRequest_parked _ _)
    rw [Bool.and_eq_true, Bool.not_eq_true'] at own
    exact reply_handled unlimited before (.standard zero own.1 own.2 s.device)
  · rw [if_neg own]
    have before : Delivered s []
        (s.withAttached (s.device.attached.control (Setup.ofBytes urb.setup) urb.data).1) :=
      .nothing rfl rfl rfl
    exact reply_handled unlimited before (.responder zero _ _)

theorem submit_handled {s : Serving σ} (unlimited : s.limit = none) (urb : Submit) :
    ∃ t, s.submit urb = .ok () t ∧ Handled s (.submit urb) t := by
  rw [submit]
  split
  · next zero => exact control_handled unlimited zero
  · dsimp only
    split
    · exact ⟨_, write_of_unlimited unlimited _,
        .answered .refused (.nothing rfl rfl rfl) (.nothing rfl rfl rfl)⟩
    · split
      · next isIn =>
        obtain ⟨t, later, flushed, behind⟩ := flush_delivered (s := s.park urb.slot) unlimited
        exact ⟨t, flushed, .parked isIn behind⟩
      · next toDevice =>
        rw [Bool.not_eq_true] at toDevice
        obtain ⟨u, earlier, received, before⟩ := receive_delivered unlimited urb.data
        rw [received]
        exact reply_handled unlimited before (.received toDevice)

/-- Every command of a host that takes all replies is handled. -/
theorem handle_handled {s : Serving σ} (unlimited : s.limit = none) (urb : Urb) :
    ∃ t, s.handle urb = .ok () t ∧ Handled s urb t := by
  cases urb with
  | submit urb => exact submit_handled unlimited urb
  | unlink seqnum target =>
    exact ⟨_, write_of_unlimited (s := s.takeBack target) unlimited _, .unlinked seqnum target⟩

/-- What every command of a list preserves is preserved by the list. -/
theorem handleEach_invariant {P : Serving σ → Prop} {urbs : List Urb} {s : Serving σ}
    (unlimited : s.limit = none)
    (preserves : ∀ urb ∈ urbs, ∀ s t, Handled s urb t → P s → P t) (h : P s) :
    ∃ t, s.handleEach urbs = .ok () t ∧ P t := by
  induction urbs generalizing s with
  | nil => exact ⟨s, rfl, h⟩
  | cons urb rest ih =>
    obtain ⟨first, later⟩ := List.forall_mem_cons.1 preserves
    obtain ⟨t, one, handled⟩ := handle_handled unlimited urb
    rw [handleEach_cons one]
    exact ih (handled.limit.trans unlimited) later (first s t handled h)

/-- A host that takes all replies sees all of its commands handled. -/
theorem exists_handleEach {s : Serving σ} (unlimited : s.limit = none) (urbs : List Urb) :
    ∃ t, s.handleEach urbs = .ok () t := by
  obtain ⟨t, handled, -⟩ := handleEach_invariant (P := fun _ => True) unlimited
    (fun _ _ _ _ _ _ => trivial) trivial
  exact ⟨t, handled⟩

/-- A camera that a host has just imported. -/
def imported : Serving Legacy :=
  { device := .fresh {} (.ofPersonality .legacy {}) "1-1" }

end Serving

end PictureTransfer.UsbIp
