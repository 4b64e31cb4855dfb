import PictureTransfer.Proofs.Forgetting
import PictureTransfer.Proofs.Lane
import PictureTransfer.Proofs.UsbIp.Handling

/-!
# Devices that a host cannot tell apart

Two devices are `Serving.Alike` when they differ in nothing but their responders, which are related,
in what these have reported, and in the order in which their endpoints come up for an unlink. If the
relation is a bisimulation, a host can give such devices the same commands: they write the same
replies and stay alike, or fail in the same way (`handle_alike`, `handleAll_alike`). The order must
be the same for both, or make no difference: it makes none where every unlink is `Definite`, as its
target is not parked on two endpoints.
-/

namespace PictureTransfer

variable {σ : Type}

namespace UsbIp.Serving

/-! ## Devices -/

/-- The same device, with the same replies written, and a related responder on its bus. Its
endpoints can come up in another order. -/
inductive Alike (R : σ → σ → Prop) (s : Serving σ) : Serving σ → Prop where
  | intro {r : σ} (related : R s.device.attached.responder r) (events : List Event)
      (walk : Walk) :
      Alike R s { s.withAttached ⟨s.device.bus, r, events⟩ with walk }

/-- Both succeed, or both fail for the same reason, and what they leave is alike. -/
inductive Outcome.Alike (R : σ → σ → Prop) : Outcome σ → Outcome σ → Prop where
  | ok {s t : Serving σ} (same : s.Alike R t) : Outcome.Alike R (.ok () s) (.ok () t)
  | error (e : Error) {s t : Serving σ} (same : s.Alike R t) :
      Outcome.Alike R (.error e s) (.error e t)

variable {R : σ → σ → Prop} {s t : Serving σ}

/-- Alike reactions of related responders do the same to the bus. -/
theorem react_alike (s : Serving σ) {r : σ} (events : List Event) (walk : Walk)
    {x y : Reaction σ} (same : Reaction.Alike R x y) :
    (s.withAttached (s.device.attached.react x)).Alike R
      { s.withAttached (Attached.react ⟨s.device.bus, r, events⟩ y) with walk } := by
  have bus : (Attached.react ⟨s.device.bus, r, events⟩ y).bus
      = (s.device.attached.react x).bus := by
    rw [Attached.react, Attached.react, Attached.bus_foldl_act, Attached.bus_foldl_act, same.ops]
    rfl
  have responder : R (s.device.attached.react x).responder
      (Attached.react ⟨s.device.bus, r, events⟩ y).responder := by
    rw [Attached.react, Attached.react, Attached.responder_foldl_act, Attached.responder_foldl_act]
    exact same.state
  generalize Attached.react ⟨s.device.bus, r, events⟩ y = b at bus responder
  cases b
  cases bus
  exact .intro responder _ walk

theorem Outcome.Alike.of_ok {x y : Outcome σ} (h : Outcome.Alike R x y) (done : x = .ok () s) :
    ∃ t, y = .ok () t ∧ s.Alike R t := by
  cases h with
  | ok same =>
    cases done
    exact ⟨_, rfl, same⟩
  | error e same => cases done

theorem Outcome.Alike.of_error {x y : Outcome σ} (h : Outcome.Alike R x y) {e : Error}
    (failed : x = .error e s) : ∃ t, y = .error e t ∧ s.Alike R t := by
  cases h with
  | ok same => cases failed
  | error e same =>
    cases failed
    exact ⟨_, rfl, same⟩

/-- A further step after alike outcomes. -/
theorem Outcome.Alike.next {x y : Outcome σ} {f g : Serving σ → Outcome σ} :
    Outcome.Alike R x y →
    (∀ {s t : Serving σ}, s.Alike R t → Outcome.Alike R (f s) (g t)) →
    Outcome.Alike R
      (match x with
        | .error e t => .error e t
        | .ok () t => f t)
      (match y with
        | .error e t => .error e t
        | .ok () t => g t) := by
  intro h later
  cases h with
  | ok same => exact later same
  | error e same => exact .error e same

theorem Alike.related (h : s.Alike R t) :
    R s.device.attached.responder t.device.attached.responder := by
  obtain ⟨related, events, walk⟩ := h
  exact related

theorem Alike.limit (h : s.Alike R t) : t.limit = s.limit := by
  obtain ⟨related, events, walk⟩ := h
  rfl

theorem Alike.replies (h : s.Alike R t) : t.replies = s.replies := by
  obtain ⟨related, events, walk⟩ := h
  rfl

/-- A change of the device that looks neither at the responder, nor at what it reported, nor at the
order of the endpoints, keeps devices alike. -/
theorem Alike.map {f : Serving σ → Serving σ}
    (aside : ∀ (s : Serving σ) (r : σ) (events : List Event) (walk : Walk),
      f { s.withAttached ⟨s.device.bus, r, events⟩ with walk }
        = { (f s).withAttached ⟨(f s).device.bus, r, events⟩ with walk })
    (kept : ∀ s : Serving σ, (f s).device.attached.responder = s.device.attached.responder)
    (h : s.Alike R t) : (f s).Alike R (f t) := by
  obtain ⟨related, events, walk⟩ := h
  rw [aside]
  -- the responder is the one from before the change
  rw [← kept] at related
  exact .intro related events walk

theorem Alike.wrote (h : s.Alike R t) (reply : Reply) :
    (s.wrote reply).Alike R (t.wrote reply) :=
  h.map (f := fun s => s.wrote reply) (fun _ _ _ _ => rfl) fun _ => rfl

theorem Alike.left (h : s.Alike R t) (parked : List Parked) (bus : Bus.Endpoints) :
    (s.left parked bus).Alike R (t.left parked bus) :=
  h.map (f := fun s => s.left parked bus) (fun _ _ _ _ => rfl) fun _ => rfl

theorem Alike.park (h : s.Alike R t) (p : Parked) : (s.park p).Alike R (t.park p) :=
  h.map (f := fun s => s.park p) (fun _ _ _ _ => rfl) fun _ => rfl

/-- The transfers with the number that a command names are parked on one endpoint. -/
def Definite (s : Serving σ) : Urb → Prop
  | .submit _ => True
  | .unlink _ target => ∀ p ∈ s.device.parked, ∀ q ∈ s.device.parked,
      p.seqnum = target → q.seqnum = target → p.ep = q.ep

/-- Where its target is parked on one endpoint, an unlink is for any transfer with the number. -/
theorem names_of_definite {seqnum target : UInt32} (definite : s.Definite (.unlink seqnum target))
    {p : Parked} (waits : p ∈ s.device.parked) : s.names target p = decide (p.seqnum = target) := by
  rw [Bool.eq_iff_iff, names_iff, decide_eq_true_iff]
  constructor
  · exact And.left
  · rintro rfl
    obtain ⟨q, parked, same, holder⟩ := Device.exists_holder waits (s.walk s.replies.length)
    exact ⟨rfl, by rw [holder, definite q parked p waits same rfl]⟩

/-- The same transfer is taken back, if it is found in the same order or on one endpoint. -/
theorem Alike.takeBack (h : s.Alike R t) {seqnum target : UInt32}
    (agrees : t.walk = s.walk ∨ s.Definite (.unlink seqnum target)) :
    (s.takeBack target).Alike R (t.takeBack target) := by
  obtain @⟨r, related, events, walk⟩ := h
  generalize also : { s.withAttached ⟨s.device.bus, r, events⟩ with walk } = t at agrees
  have same : ∀ p ∈ s.device.parked, t.names target p = s.names target p := by
    intro p waits
    rcases agrees with same | definite
    · rw [← also] at same ⊢
      rw [names, names, same]
      rfl
    · have other : t.Definite (.unlink seqnum target) := also ▸ definite
      rw [names_of_definite definite waits, names_of_definite other (also ▸ waits)]
  have left : s.device.parked.eraseP (t.names target) = s.device.parked.eraseP (s.names target) :=
    eraseP_congr same
  have back : t.takeBack target
      = { (s.takeBack target).withAttached ⟨s.device.bus, r, events⟩ with walk } := by
    rw [Serving.takeBack, Serving.takeBack, ← left, ← also]
    rfl
  rw [back]
  exact .intro (s := s.takeBack target) related events walk

/-- A host that takes a reply of one device takes it of the other. -/
theorem write_alike (h : s.Alike R t) (reply : Reply) :
    Outcome.Alike R (s.write reply) (t.write reply) := by
  have same := h.wrote reply
  rw [write_eq, write_eq, h.limit, output, output, same.replies]
  cases s.limit with
  | none => exact .ok same
  | some n =>
    dsimp only
    split
    · exact .ok same
    · exact .error _ same

theorem unlink_alike (h : s.Alike R t) (seqnum target : UInt32)
    (agrees : t.walk = s.walk ∨ s.Definite (.unlink seqnum target)) :
    Outcome.Alike R (s.unlink seqnum target) (t.unlink seqnum target) := by
  have same := write_alike (h.takeBack agrees) (.unlinked seqnum
    (if s.device.parked.any (·.seqnum = target) then Reply.connectionReset else 0))
  obtain ⟨related, events, walk⟩ := h
  exact same

theorem Alike.pieceSize [Responder σ] (h : s.Alike R t) : t.pieceSize = s.pieceSize := by
  obtain ⟨related, events, walk⟩ := h
  rfl

variable [Responder σ] (keeps : Responder.Bisimulation R)
include keeps

/-! ## Matches and pieces -/

theorem Alike.collected (h : s.Alike R t) (ep : UInt8) :
    (s.withAttached (s.device.attached.inCompleted ep)).Alike R
      (t.withAttached (t.device.attached.inCompleted ep)) := by
  obtain ⟨related, events, walk⟩ := h
  exact react_alike s events walk (keeps.inCompleted _ ep related)

/-- The same transfers are matched, and the same completions follow. -/
theorem flush_alike (h : s.Alike R t) : Outcome.Alike R s.flush t.flush := by
  fun_induction flush s generalizing t with
  | case1 s nothing =>
    rw [flush_of_nothing (by cases h; exact nothing)]
    exact .ok h
  | case2 s ep ready p left data bus unparked popped cut taken e u =>
    rename_i wrote
    -- the other device makes the same match, and the same host does not take its reply either
    have same := write_alike (h.left left bus) (p.delivery data)
    obtain ⟨v, answered, same⟩ := same.of_error wrote
    rw [flush_of_match (s := t) (by cases h; exact ready) (by cases h; exact unparked)
      (by cases h; exact popped), answered]
    exact .error e same
  | case3 s ep ready p left data bus unparked popped cut taken u wrote =>
    rename_i ih
    -- the other device makes the same match, and the completion keeps the responders related
    have same := write_alike (h.left left bus) (p.delivery data)
    obtain ⟨v, answered, same⟩ := same.of_ok wrote
    rw [flush_of_match (s := t) (by cases h; exact ready) (by cases h; exact unparked)
      (by cases h; exact popped), answered]
    exact ih (same.collected keeps ep)
  | case4 s ep ready unmatched =>
    rw [flush_of_unmatched (by cases h; exact ready) (by cases h; exact unmatched)]
    exact .ok h

theorem Alike.handOver (h : s.Alike R t) (piece : Bytes) :
    (s.handOver piece).Alike R (t.handOver piece) := by
  obtain ⟨related, events, walk⟩ := h
  exact react_alike
    (s.withAttached { s.device.attached with bus := s.device.bus.disarm }) events walk
    (keeps.outCompleted _ piece related)

theorem receive_alike {s t : Serving σ} (h : s.Alike R t) (data : Bytes) :
    Outcome.Alike R (s.receive data) (t.receive data) := by
  rw [receive_eq s, receive_eq t, h.pieceSize]
  apply (flush_alike keeps (h.handOver keeps _)).next
  intro u v same
  by_cases done : data.drop s.pieceSize = []
  · rw [if_pos done, if_pos done]
    exact .ok same
  · rw [if_neg done, if_neg done]
    exact receive_alike same (data.drop s.pieceSize)
termination_by data.length
decreasing_by exact length_drop_pieceSize done

/-! ## Commands -/

/-- What the device answers itself does not depend on the responder. -/
theorem standardRequest_alike (h : s.Alike R t) (setup : Setup) :
    (standardRequest setup t.device).1 = (standardRequest setup s.device).1 ∧
      Alike R { s with device := (standardRequest setup s.device).2 }
        { t with device := (standardRequest setup t.device).2 } := by
  obtain ⟨related, events, walk⟩ := h
  rw [standardRequest, standardRequest]
  dsimp only
  split
  · split <;> exact ⟨rfl, .intro related events walk⟩
  · -- selecting the configuration opens the interface
    split
    · exact ⟨rfl, react_alike
        { s with device := { s.device with configuration := setup.value.toUInt8 } } events walk
        (keeps.interfaceOpened _ related)⟩
    · exact ⟨rfl, .intro (s := { s with device :=
        { s.device with configuration := setup.value.toUInt8 } }) related events walk⟩
  all_goals exact ⟨rfl, .intro related events walk⟩

/-- A reply that is written, and the matches after it. -/
theorem reply_alike (h : s.Alike R t) (reply : Reply) :
    Outcome.Alike R
      (match s.write reply with
        | .error e t => .error e t
        | .ok () t => t.flush)
      (match t.write reply with
        | .error e t => .error e t
        | .ok () t => t.flush) :=
  (write_alike h reply).next (flush_alike keeps)

theorem Alike.controlled (h : s.Alike R t) (setup : Setup) (data : Bytes) :
    (t.device.attached.control setup data).2 = (s.device.attached.control setup data).2 ∧
      (s.withAttached (s.device.attached.control setup data).1).Alike R
        (t.withAttached (t.device.attached.control setup data).1) := by
  obtain ⟨related, events, walk⟩ := h
  obtain ⟨reacts, answers⟩ := keeps.control (Bus.view s.device.bus) setup data related
  exact ⟨answers.symm, react_alike s events walk reacts⟩

theorem control_alike (h : s.Alike R t) (urb : Submit) :
    Outcome.Alike R (s.control urb) (t.control urb) := by
  rw [control, control]
  dsimp only
  -- the device serves what is standard and not for an endpoint, the responder all else
  by_cases own : ((Setup.ofBytes urb.setup).isStandard &&
      !(Setup.ofBytes urb.setup).toEndpoint) = true
  · rw [if_pos own, if_pos own]
    obtain ⟨response, same⟩ := standardRequest_alike keeps h (Setup.ofBytes urb.setup)
    rw [response]
    exact reply_alike keeps same _
  · rw [if_neg own, if_neg own]
    obtain ⟨response, same⟩ := h.controlled keeps (Setup.ofBytes urb.setup) urb.data
    rw [response]
    exact reply_alike keeps same _

theorem submit_alike (h : s.Alike R t) (urb : Submit) :
    Outcome.Alike R (s.submit urb) (t.submit urb) := by
  rw [submit, submit]
  by_cases zero : urb.ep = 0
  · rw [if_pos zero, if_pos zero]
    exact control_alike keeps h urb
  · rw [if_neg zero, if_neg zero]
    dsimp only
    by_cases unusable : (s.device.descriptors.endpoint? urb.address).isNone = true ∨
        s.device.bus.stalled.contains urb.address = true
    · rw [if_pos unusable, if_pos (by cases h; exact unusable)]
      exact write_alike h _
    · have unusable' : ¬((t.device.descriptors.endpoint? urb.address).isNone = true ∨
          t.device.bus.stalled.contains urb.address = true) := by
        cases h
        exact unusable
      rw [if_neg unusable, if_neg unusable']
      by_cases isIn : urb.isIn = true
      · rw [if_pos isIn, if_pos isIn]
        exact flush_alike keeps (h.park urb.slot)
      · rw [if_neg isIn, if_neg isIn]
        apply (receive_alike keeps h urb.data).next
        intro u v same
        exact reply_alike keeps same _

theorem handle_alike (h : s.Alike R t) (urb : Urb) (agrees : t.walk = s.walk ∨ s.Definite urb) :
    Outcome.Alike R (s.handle urb) (t.handle urb) := by
  cases urb with
  | submit urb => exact submit_alike keeps h urb
  | unlink seqnum target => exact unlink_alike h seqnum target agrees

omit keeps in
theorem walk_handle {s t : Serving σ} {urb : Urb} (handled : s.handle urb = .ok () t) :
    t.walk = s.walk := by
  have steps := steps_handle s urb
  rw [handled] at steps
  exact steps.walk

/-- A command of a host, and the state in which it finds the device. -/
inductive Finds : Serving σ → Source → Serving σ → Urb → Prop where
  | first {s : Serving σ} {source rest : Source} {urb : Urb}
      (read : Urb.read source = .ok urb rest) : Finds s source s urb
  | later {s t u : Serving σ} {source rest : Source} {urb other : Urb}
      (read : Urb.read source = .ok urb rest) (handled : s.handle urb = .ok () t)
      (finds : Finds t rest u other) : Finds s source u other

/-- Alike devices take the same commands, up to the same failure. -/
theorem handleAll_alike {s t : Serving σ} (h : s.Alike R t) (source : Source)
    (agrees : t.walk = s.walk ∨ ∀ u urb, Finds s source u urb → u.Definite urb) :
    (s.handleAll source).1 = (t.handleAll source).1 ∧
      (s.handleAll source).2.Alike R (t.handleAll source).2 := by
  cases read : Urb.read source with
  | error e rest =>
    rw [handleAll_of_error read, handleAll_of_error read]
    exact ⟨rfl, h⟩
  | ok urb rest =>
    have shorter := Urb.length_of_read read
    have one := handle_alike keeps h urb (agrees.imp_right fun all => all s urb (.first read))
    -- both go on, or both stop here
    rw [handleAll_of_ok read, handleAll_of_ok read]
    cases handled : s.handle urb with
    | error e u =>
      obtain ⟨v, failed, same⟩ := one.of_error handled
      rw [failed]
      exact ⟨rfl, same⟩
    | ok _ u =>
      obtain ⟨v, also, same⟩ := one.of_ok handled
      rw [also]
      refine handleAll_alike same rest ?_
      rcases agrees with same | definite
      · exact .inl (by rw [walk_handle also, same, walk_handle handled])
      · exact .inr fun w other finds => definite w other (.later read handled finds)
termination_by source.length
decreasing_by omega

end UsbIp.Serving

end PictureTransfer
