import PictureTransfer.Proofs.Rearming
import PictureTransfer.Proofs.UsbIp.Handover
import PictureTransfer.Proofs.UsbIp.History
import PictureTransfer.Proofs.UsbIp.Steady

/-!
# A receive is always armed

`Hands` is a run of commands with the pieces that are handed over in it: each command does something
to the responder and its bus (`Meets`), and then what can be matched is. With a responder that arms
a receive whenever data comes in or its interface is opened, one is armed behind every piece
(`HandsOver.armed`), and neither matching nor control requests disarm it. So from the first command
that arms a receive on one is armed behind every command, and no piece is longer than `receiveSize`
(`receives_armed`).
-/

namespace PictureTransfer

/-! ## The armed receive -/

namespace Bus.Endpoints

/-- An operation that arms nothing leaves the armed receive alone. -/
theorem armed_perform (bus : Endpoints) {op : Op} (quiet : (Action.request op).arms = false) :
    (Bus.perform op bus).armed = bus.armed := by
  cases op with
  | armOut ep size => cases quiet
  | submitIn ep data =>
    rw [perform_submitIn]
    split <;> rfl
  | abortIn ep => rfl
  | clearStall ep => rfl

/-- The collection of a transfer leaves the armed receive alone. -/
theorem armed_pop? {bus rest : Endpoints} {ep : UInt8} {data : Bytes}
    (popped : bus.pop? ep = some (data, rest)) : rest.armed = bus.armed := by
  obtain ⟨first, -, same⟩ := Option.map_eq_some_iff.1 popped
  cases same
  rfl

end Bus.Endpoints

namespace Attached

variable {σ : Type} {a : Attached Bus.Endpoints σ} {actions : List Action}

theorem armed_of_unarming (quiet : Action.Unarming actions) :
    (actions.foldl act a).bus.armed = a.bus.armed := by
  induction actions generalizing a with
  | nil => rfl
  | cons x rest ih =>
    obtain ⟨first, later⟩ := List.forall_mem_cons.1 quiet
    refine (ih later).trans ?_
    cases x with
    | request op => exact a.bus.armed_perform first
    | report event => rfl

/-- A callback arms a receive, or it leaves alone what is armed. -/
theorem armed_step [Responder σ] (h : Responder.Rearms σ) (a : Attached Bus.Endpoints σ)
    (c : Callback) :
    (a.step c).bus.armed = if c.arms = true then some receiveSize else a.bus.armed := by
  rw [step_eq_react, react]
  by_cases arms : c.arms = true
  · obtain ⟨before, actions, -⟩ := h.arms (Bus.view a.bus) c a.responder arms
    rw [if_pos arms, actions, List.foldl_append]
    rfl
  · rw [if_neg arms]
    exact armed_of_unarming (h.keeps _ c _ (Bool.eq_false_iff.2 arms))

end Attached

namespace UsbIp

/-! ## Commands -/

/-- Whether a transfer selects the configuration, which opens the interface. -/
def Submit.Selects (urb : Submit) : Prop :=
  urb.ep = 0 ∧ (Setup.ofBytes urb.setup).isStandard = true ∧
    (Setup.ofBytes urb.setup).toEndpoint = false ∧ (Setup.ofBytes urb.setup).request = 0x09 ∧
    (Setup.ofBytes urb.setup).value.toUInt8 = Descriptors.configurationValue

/-- The commands behind which a receive is armed: the configuration is selected, or data is sent to
bulk OUT. -/
def Urb.Arms : Urb → Prop
  | .submit urb => urb.Selects ∨ urb.address = Endpoint.bulkOut
  | .unlink _ _ => False

namespace Serving

variable {σ : Type} [Responder σ] {s t u : Serving σ} {urb : Urb} {pieces : List Piece}

/-- The data of a transfer reaches the responder, as its endpoint can be used. -/
structure Receives (s : Serving σ) (urb : Submit) : Prop where
  data_transfer : urb.ep ≠ 0
  known : (s.device.descriptors.endpoint? urb.address).isSome = true
  running : s.device.bus.stalled.contains urb.address = false
  toDevice : urb.isIn = false

omit [Responder σ] in
theorem receives_of_bulkOut {urb : Submit}
    (known : (s.device.descriptors.endpoint? Endpoint.bulkOut).isSome = true)
    (unstalled : s.device.bus.stalled = []) (toOut : urb.address = Endpoint.bulkOut) :
    s.Receives urb where
  data_transfer := Submit.ep_ne_zero (.inl toOut)
  known := by rw [toOut]; exact known
  running := by rw [unstalled]; rfl
  toDevice := Bool.eq_false_iff.2 fun isIn => Submit.address_ne_of_isIn isIn toOut

/-- What becomes of the responder and its bus in a command before anything is matched, and the
pieces that are handed over. -/
inductive Meets (s : Serving σ) : Urb → List Piece → Attached Bus.Endpoints σ → Prop where
  | nothing {urb : Urb} (idle : ∀ own, urb = .submit own → ¬own.Selects ∧ ¬s.Receives own) :
      Meets s urb [] s.device.attached
  | opened {urb : Submit} (selects : urb.Selects) :
      Meets s (.submit urb) [] (s.device.attached.interfaceOpened 0)
  | asked {urb : Submit} (idle : ¬urb.Selects ∧ ¬s.Receives urb) :
      Meets s (.submit urb) []
        (s.device.attached.control (Setup.ofBytes urb.setup) urb.data).1
  | received {urb : Submit} {u : Serving σ} {pieces : List Piece} (receives : s.Receives urb)
      (handed : HandsOver s pieces (.ok () u)) (divided : Divided urb.data pieces []) :
      Meets s (.submit urb) pieces u.device.attached

/-- Of the requests that the device answers itself only the one that selects the configuration
concerns the responder. -/
theorem attached_standardRequest (setup : Setup) (d : Device σ) :
    (standardRequest setup d).2.attached =
      if setup.request = 0x09 ∧ setup.value.toUInt8 = Descriptors.configurationValue then
        d.attached.interfaceOpened 0
      else d.attached := by
  by_cases configures : setup.request = 0x09
  · have asked : setup.request.toNat = 9 := congrArg UInt8.toNat configures
    rw [standardRequest]
    simp only [asked]
    simp only [configures, true_and]
    split
    · rfl
    · rfl
  · have other : setup.request.toNat ≠ 9 := fun same => configures (UInt8.toNat_inj.1 same)
    rw [if_neg fun selects => configures selects.1, standardRequest]
    dsimp only
    split
    · split <;> rfl
    · next asked => exact absurd asked other
    all_goals rfl

theorem meets_standardRequest {urb : Submit} (zero : urb.ep = 0)
    (own : (Setup.ofBytes urb.setup).isStandard = true)
    (whole : (Setup.ofBytes urb.setup).toEndpoint = false) :
    Meets s (.submit urb) []
      (standardRequest (Setup.ofBytes urb.setup) s.device).2.attached := by
  rw [attached_standardRequest]
  split
  · next selects => exact .opened ⟨zero, own, whole, selects⟩
  · next other =>
    refine .nothing ?_
    rintro _ ⟨⟩
    exact ⟨fun selects => other selects.2.2.2, fun receives => receives.data_transfer zero⟩

/-- The reply to a transfer is written, and then what waits is matched. -/
theorem exists_replied {r : Reply}
    (done : (match u.write r with
      | .error e t => (.error e t : Outcome σ)
      | .ok () t => t.flush) = .ok () t) : (u.wrote r).flush = .ok () t := by
  split at done
  · cases done
  · next v written =>
    obtain rfl := eq_wrote written
    exact done

theorem meets_control {urb : Submit} (zero : urb.ep = 0) (done : s.control urb = .ok () t) :
    ∃ u : Serving σ, u.flush = .ok () t ∧ Meets s (.submit urb) [] u.device.attached := by
  rw [control] at done
  dsimp only at done
  -- the device serves what is standard and not for an endpoint, the responder all else
  by_cases own : ((Setup.ofBytes urb.setup).isStandard &&
      !(Setup.ofBytes urb.setup).toEndpoint) = true
  · rw [if_pos own] at done
    rw [Bool.and_eq_true, Bool.not_eq_true'] at own
    exact ⟨_, exists_replied done, meets_standardRequest zero own.1 own.2⟩
  · rw [if_neg own] at done
    refine ⟨_, exists_replied done, .asked ⟨?_, fun receives => receives.data_transfer zero⟩⟩
    rintro ⟨-, standard, whole, -⟩
    exact own (by rw [standard, whole]; rfl)

theorem meets_submit {urb : Submit} (data_transfer : urb.ep ≠ 0) (done : s.submit urb = .ok () t) :
    ∃ (u : Serving σ) (pieces : List Piece), (u.flush = .ok () t ∨ t = u) ∧
      Meets s (.submit urb) pieces u.device.attached := by
  by_cases receives : s.Receives urb
  · rw [submit_of_toDevice data_transfer receives.known receives.running receives.toDevice] at done
    obtain ⟨pieces, rest, handed, divided, all⟩ := exists_handsOver s urb.data
    cases received : s.receive urb.data with
    | error e v =>
      rw [received] at done
      cases done
    | ok _ v =>
      rw [received] at done handed
      obtain rfl := all v received
      exact ⟨_, pieces, .inl (exists_replied done), .received (u := v) receives handed divided⟩
  · have idle : Meets s (.submit urb) [] s.device.attached := by
      refine .nothing ?_
      rintro _ ⟨⟩
      exact ⟨fun selects => data_transfer selects.1, receives⟩
    rw [submit, if_neg data_transfer] at done
    dsimp only at done
    split at done
    · obtain rfl := eq_wrote done
      exact ⟨_, [], .inr rfl, idle⟩
    · next usable =>
      rw [not_or, ← Option.not_isSome, Bool.not_eq_true', Bool.not_eq_false, Bool.not_eq_true]
        at usable
      split at done
      · exact ⟨_, [], .inl done, idle⟩
      · next toDevice =>
        exact absurd ⟨data_transfer, usable.1, usable.2, Bool.not_eq_true _ ▸ toDevice⟩ receives

/-- What a command does, up to the matching at its end. -/
theorem meets_handle (done : s.handle urb = .ok () t) :
    ∃ (u : Serving σ) (pieces : List Piece), (u.flush = .ok () t ∨ t = u) ∧
      Meets s urb pieces u.device.attached := by
  cases urb with
  | unlink seqnum target =>
    have written := eq_wrote done
    exact ⟨_, [], .inr written, .nothing fun own => Urb.noConfusion⟩
  | submit urb =>
    by_cases zero : urb.ep = 0
    · have done : s.submit urb = .ok () t := done
      rw [submit, if_pos zero] at done
      obtain ⟨u, flushed, meets⟩ := meets_control zero done
      exact ⟨u, [], .inl flushed, meets⟩
    · exact meets_submit zero done

/-- What survives the collection of a transfer and its completion survives all matching. -/
theorem flush_invariant {Q : Attached Bus.Endpoints σ → Prop}
    (taken : ∀ a ep data bus, Q a → a.bus.pop? ep = some (data, bus) → Q { a with bus })
    (completes : ∀ a ep, Q a → Q (a.inCompleted ep)) {r : Outcome σ} (flushed : s.flush = r)
    (h : Q s.device.attached) : Q r.state.device.attached := by
  obtain ⟨carried, flushes⟩ := flush_iff.1 flushed
  clear flushed
  induction flushes with
  | quiet quiet => exact h
  | @failed s t ep p parked data bus e ready unparked popped refused =>
    have same := state_write (s.left parked bus) (p.delivery data)
    rw [refused] at same
    show Q t.device.attached
    rw [show t = _ from same]
    exact taken _ ep data bus h popped
  | @next s t ep p parked data bus later r ready unparked popped written rest ih =>
    obtain rfl := eq_wrote written
    exact ih (completes _ ep (taken _ ep data bus h popped))

/-- Matching leaves alone what is armed. -/
theorem armed_flush (h : Responder.Rearms σ) {r : Outcome σ} (flushed : s.flush = r) :
    r.state.device.bus.armed = s.device.bus.armed := by
  refine flush_invariant (Q := fun a => a.bus.armed = s.device.bus.armed) ?_ ?_ flushed rfl
  · intro a ep data bus same popped
    exact (Bus.Endpoints.armed_pop? popped).trans same
  · intro a ep same
    exact (Attached.armed_step h a (.inCompleted ep)).trans same

/-- Behind every piece a receive is armed again. -/
theorem armed_handOver (h : Responder.Rearms σ) {data : Bytes} {r : Outcome σ}
    (flushed : (s.handOver data).flush = r) : r.state.device.bus.armed = some receiveSize :=
  (armed_flush h flushed).trans (Attached.armed_step h _ (.outCompleted data))

/-- Every piece but the first is handed over with a receive armed, and one is armed in the end. -/
theorem HandsOver.armed (h : Responder.Rearms σ) {r : Outcome σ} (handed : HandsOver s pieces r) :
    r.state.device.bus.armed = some receiveSize ∧
      ∃ first later, pieces = first :: later ∧ first.armed = s.device.bus.armed ∧
        ∀ p ∈ later, p.armed = some receiveSize := by
  induction handed with
  | @last s data r flushed =>
    exact ⟨armed_handOver h flushed, _, [], rfl, rfl, List.forall_mem_nil _⟩
  | @next s t data later r flushed rest ih =>
    obtain ⟨armed, first, others, rfl, same, all⟩ := ih
    have again : t.device.bus.armed = some receiveSize := armed_handOver h flushed
    exact ⟨armed, _, _, rfl, rfl, List.forall_mem_cons.2 ⟨same.trans again, all⟩⟩

/-! ## Runs of commands -/

/-- Some commands are handled, and the pieces that are handed over in them. -/
inductive Hands : Serving σ → List Urb → List Piece → Serving σ → Prop where
  | nil (s : Serving σ) : Hands s [] [] s
  | cons {s t u v : Serving σ} {urb : Urb} {rest : List Urb} {pieces more : List Piece}
      (handled : s.handle urb = .ok () t) (meets : Meets s urb pieces u.device.attached)
      (matched : u.flush = .ok () t ∨ t = u) (later : Hands t rest more v) :
      Hands s (urb :: rest) (pieces ++ more) v

/-- Commands are handled as long as the host takes all replies. -/
theorem exists_hands (unlimited : s.limit = none) (urbs : List Urb) :
    ∃ t pieces, Hands s urbs pieces t := by
  induction urbs generalizing s with
  | nil => exact ⟨s, [], .nil s⟩
  | cons urb rest ih =>
    obtain ⟨t, done, handled⟩ := handle_handled unlimited urb
    obtain ⟨u, pieces, matched, meets⟩ := meets_handle done
    obtain ⟨v, more, later⟩ := ih (handled.limit.trans unlimited)
    exact ⟨v, _, .cons done meets matched later⟩

theorem armed_matched (h : Responder.Rearms σ) (matched : u.flush = .ok () t ∨ t = u) :
    t.device.bus.armed = u.device.bus.armed := by
  rcases matched with flushed | rfl
  · exact armed_flush h flushed
  · rfl

namespace Meets

variable {a : Attached Bus.Endpoints σ}

/-- A command leaves a receive armed, or it neither hands over anything nor selects the
configuration, and leaves alone what is armed. -/
theorem armed (h : Responder.Rearms σ) (meets : Meets s urb pieces a) :
    a.bus.armed = some receiveSize ∨ a.bus.armed = s.device.bus.armed ∧ pieces = [] ∧
      ∀ own, urb = .submit own → ¬own.Selects ∧ ¬s.Receives own := by
  cases meets with
  | nothing idle => exact .inr ⟨rfl, rfl, idle⟩
  | @opened urb selects => exact .inl (Attached.armed_step h _ (.interfaceOpened 0))
  | @asked urb idle =>
    refine .inr ⟨Attached.armed_step h _ (.control _ _), rfl, ?_⟩
    rintro _ ⟨⟩
    exact idle
  | received receives handed divided => exact .inl (handed.armed h).1

/-- The first piece of a command finds what is armed before the command, and the others what is
armed behind the piece before them. -/
theorem pieces_armed (h : Responder.Rearms σ) (meets : Meets s urb pieces a) :
    pieces = [] ∨ ∃ first later, pieces = first :: later ∧ first.armed = s.device.bus.armed ∧
      ∀ p ∈ later, p.armed = some receiveSize := by
  cases meets with
  | received receives handed divided => exact .inr (handed.armed h).2
  | _ => exact .inl rfl

/-- A piece has at most as many bytes as were armed for it. -/
theorem fits (meets : Meets s urb pieces a) : ∀ p ∈ pieces, p.data.length ≤ p.room := by
  cases meets with
  | received receives handed divided => exact divided.fits
  | _ => exact List.forall_mem_nil _

end Meets

namespace Hands

variable {urbs before after : List Urb} {v : Serving σ}

theorem handleEach (hands : Hands s urbs pieces v) : s.handleEach urbs = .ok () v := by
  induction hands with
  | nil s => rfl
  | cons handled meets matched later ih => rw [handleEach_cons handled, ih]

theorem split (hands : Hands s (before ++ after) pieces v) : ∃ u first later,
    Hands s before first u ∧ Hands u after later v ∧ pieces = first ++ later := by
  induction before generalizing s pieces with
  | nil => exact ⟨s, [], pieces, .nil s, hands, rfl⟩
  | cons urb rest ih =>
    cases hands with
    | cons handled meets matched later =>
      obtain ⟨u, first, others, begins, ends, rfl⟩ := ih later
      exact ⟨u, _, others, .cons handled meets matched begins, ends,
        (List.append_assoc _ _ _).symm⟩

/-- Once a receive is armed, one is armed behind every command and for every piece. -/
theorem armed (h : Responder.Rearms σ) (hands : Hands s urbs pieces v)
    (armed : s.device.bus.armed = some receiveSize) :
    v.device.bus.armed = some receiveSize ∧ ∀ p ∈ pieces, p.armed = some receiveSize := by
  induction hands with
  | nil s => exact ⟨armed, List.forall_mem_nil _⟩
  | @cons s t u v urb rest pieces more handled meets matched later ih =>
    have again : t.device.bus.armed = some receiveSize := by
      rw [armed_matched h matched]
      rcases meets.armed h with arms | ⟨same, -⟩
      · exact arms
      · exact same.trans armed
    obtain ⟨ends, others⟩ := ih again
    refine ⟨ends, List.forall_mem_append.2 ⟨?_, others⟩⟩
    rcases meets.pieces_armed h with rfl | ⟨first, later, rfl, same, all⟩
    · exact List.forall_mem_nil _
    · exact List.forall_mem_cons.2 ⟨same.trans armed, all⟩

/-- Only for the first piece of all there may be no receive armed. -/
theorem tail_armed (h : Responder.Rearms σ) (hands : Hands s urbs pieces v) :
    ∀ p ∈ pieces.tail, p.armed = some receiveSize := by
  induction hands with
  | nil s => exact List.forall_mem_nil _
  | @cons s t u v urb rest pieces more handled meets matched later ih =>
    rcases meets.pieces_armed h with rfl | ⟨first, others, rfl, -, all⟩
    · exact ih
    · refine List.forall_mem_append.2 ⟨all, (later.armed h ?_).2⟩
      rw [armed_matched h matched]
      rcases meets.armed h with arms | ⟨-, none_handed, -⟩
      · exact arms
      · cases none_handed

/-- Behind a command that arms a receive one is armed, if bulk OUT can be used. -/
theorem armed_of_arms (h : Responder.Rearms σ) (hands : Hands s urbs pieces v)
    (known : (s.device.descriptors.endpoint? Endpoint.bulkOut).isSome = true)
    (unstalled : s.device.bus.stalled = []) (arms : ∃ urb ∈ urbs, urb.Arms) :
    v.device.bus.armed = some receiveSize := by
  induction hands with
  | nil s =>
    obtain ⟨urb, listed, -⟩ := arms
    cases listed
  | @cons s t u v urb rest pieces more handled meets matched later ih =>
    obtain ⟨own, listed, arms⟩ := arms
    rcases List.mem_cons.1 listed with rfl | behind
    · refine (later.armed h ?_).1
      rw [armed_matched h matched]
      rcases meets.armed h with armed | ⟨-, -, idle⟩
      · exact armed
      · cases own with
        | unlink seqnum target => exact arms.elim
        | submit urb =>
          obtain ⟨not_selects, not_receives⟩ := idle urb rfl
          rcases arms with selects | toOut
          · exact absurd selects not_selects
          · exact absurd (receives_of_bulkOut known unstalled toOut) not_receives
    · have steps : Steps s t := by
        have taken := steps_handle s urb
        rwa [handled] at taken
      refine ih ?_ (steps.unstalled unstalled) ⟨own, behind, arms⟩
      rw [steps.identity.1]
      exact known

/-- Where one of some commands arms a receive, one is armed behind these commands and for every
piece that is handed over later. -/
theorem armed_behind (h : Responder.Rearms σ) (hands : Hands s (before ++ after) pieces v)
    (known : (s.device.descriptors.endpoint? Endpoint.bulkOut).isSome = true)
    (unstalled : s.device.bus.stalled = []) (arms : ∃ urb ∈ before, urb.Arms) :
    ∃ u first later, s.handleEach before = .ok () u ∧ u.device.bus.armed = some receiveSize ∧
      pieces = first ++ later ∧ Hands s before first u ∧ Hands u after later v ∧
      ∀ p ∈ later, p.armed = some receiveSize := by
  obtain ⟨u, first, later, begins, ends, whole⟩ := hands.split
  have armed := begins.armed_of_arms h known unstalled arms
  exact ⟨u, first, later, begins.handleEach, armed, whole, begins, ends, (ends.armed h armed).2⟩

/-- No piece is longer than `receiveSize` where nothing else was armed in the beginning. -/
theorem short (h : Responder.Rearms σ) (hands : Hands s urbs pieces v)
    (start : s.device.bus.armed = none ∨ s.device.bus.armed = some receiveSize) :
    ∀ p ∈ pieces, p.data.length ≤ receiveSize := by
  induction hands with
  | nil s => exact List.forall_mem_nil _
  | @cons s t u v urb rest pieces more handled meets matched later ih =>
    have room : ∀ {p : Piece}, p.armed = none ∨ p.armed = some receiveSize →
        p.room = receiveSize := by
      intro p armed
      rw [Piece.room]
      rcases armed with armed | armed <;> rw [armed] <;> rfl
    have again : t.device.bus.armed = none ∨ t.device.bus.armed = some receiveSize := by
      rw [armed_matched h matched]
      rcases meets.armed h with armed | ⟨same, -⟩
      · exact .inr armed
      · exact start.imp same.trans same.trans
    refine List.forall_mem_append.2 ⟨?_, ih again⟩
    intro p listed
    refine Nat.le_trans (meets.fits p listed) (Nat.le_of_eq (room ?_))
    rcases meets.pieces_armed h with rfl | ⟨first, others, rfl, same, all⟩
    · cases listed
    · rcases List.mem_cons.1 listed with rfl | behind
      · exact start.imp same.trans same.trans
      · exact .inr (all p behind)

end Hands

/-! ## Notes -/

section Noted

variable {s u v : Serving (Noted σ)} {a : Attached Bus.Endpoints (Noted σ)}

/-- The notes of the responder of a device. -/
abbrev notes (s : Serving (Noted σ)) : List Bytes := s.device.attached.responder.notes

theorem notes_flush {r : Outcome (Noted σ)} (flushed : s.flush = r) : r.state.notes = s.notes := by
  refine flush_invariant (Q := fun a => a.responder.notes = s.notes) ?_ ?_ flushed rfl
  · intro a ep data bus same popped
    exact same
  · intro a ep same
    exact (Noted.notes_step a (.inCompleted ep)).trans ((List.append_nil _).trans same)

theorem notes_handOver {data : Bytes} {r : Outcome (Noted σ)}
    (flushed : (s.handOver data).flush = r) : r.state.notes = s.notes ++ [data] :=
  (notes_flush flushed).trans (Noted.notes_step _ (.outCompleted data))

theorem HandsOver.notes {r : Outcome (Noted σ)} (handed : HandsOver s pieces r) :
    r.state.notes = s.notes ++ pieces.map Piece.data := by
  induction handed with
  | last flushed => exact notes_handOver flushed
  | next flushed rest ih =>
    have first := notes_handOver flushed
    rw [ih, List.map_cons, List.append_cons]
    exact congrArg (· ++ _) first

theorem Meets.notes (meets : Meets s urb pieces a) :
    a.responder.notes = s.notes ++ pieces.map Piece.data := by
  cases meets with
  | nothing idle => exact (List.append_nil _).symm
  | opened selects => exact Noted.notes_step _ (.interfaceOpened 0)
  | asked idle => exact Noted.notes_step _ (.control _ _)
  | received receives handed divided => exact handed.notes

/-- The data that comes in during a run is that of the pieces. -/
theorem Hands.notes {urbs : List Urb} (hands : Hands s urbs pieces v) :
    v.notes = s.notes ++ pieces.map Piece.data := by
  induction hands with
  | nil s => exact (List.append_nil _).symm
  | @cons s t u v urb rest pieces more handled meets matched later ih =>
    have kept : t.notes = u.notes := by
      rcases matched with flushed | rfl
      · exact notes_flush flushed
      · rfl
    have noted : u.notes = s.notes ++ pieces.map Piece.data := meets.notes
    rw [ih, kept, noted, List.map_append, List.append_assoc]

end Noted

/-- A receive is always armed again. Whatever comes in, and whatever the relay does if there is one,
a responder of any personality in any state arms one receive for 64 bytes on bulk OUT, and this is
the last thing that it asks of its bus.

So take any commands of a host that takes all replies, whatever hosts came before it, whatever
becomes of the link to the relay before each callback, and in whatever order queues are searched for
a request that is taken back. Behind the first command that selects the configuration or sends data
to bulk OUT, a receive for 64 bytes is armed after every command, and for every piece of data that
is handed over. Only for the first piece of all, where data comes before the configuration is
selected, there may be none. No piece has more than 64 bytes, as the responder's own notes show. -/
theorem receives_armed {L : Type} [Relay.Link L] :
    (∀ (view : Bus.View) (data : Bytes) (r : Selected L), ∃ before,
      (Responder.outCompleted view data r).2.filterMap Action.op? = before ++ [.armOut 0x02 64] ∧
        ∀ ep size, .armOut ep size ∉ before) ∧
    ∀ (responder : Restless L) (p : Personality) (identity : Identity) (busId : String)
      (earlier : List Visit) (replies : List Reply) (walk : Walk) (urbs : List Urb),
      let descriptors := Descriptors.ofPersonality p identity
      let s : Serving (Restless L) :=
        { device := (Device.fresh responder descriptors busId).afterVisits earlier, replies, walk }
      let n : Serving (Noted (Restless L)) :=
        { device := (Device.fresh { responder } descriptors busId).afterVisits earlier, replies
          walk }
      (∃ t pieces, s.handleEach urbs = .ok () t ∧ Hands s urbs pieces t ∧
        (∀ piece ∈ pieces, piece.data.length ≤ 64) ∧
        (∀ piece ∈ pieces.tail, piece.armed = some 64) ∧
        ∀ before after, urbs = before ++ after → (∃ urb ∈ before, urb.Arms) →
          ∃ u first later, s.handleEach before = .ok () u ∧ u.device.bus.armed = some 64 ∧
            pieces = first ++ later ∧ Hands s before first u ∧ Hands u after later t ∧
            ∀ piece ∈ later, piece.armed = some 64) ∧
      ∃ t pieces, n.handleEach urbs = .ok () t ∧ Hands n urbs pieces t ∧
        t.notes = n.notes ++ pieces.map Piece.data ∧
        ∀ piece ∈ pieces, piece.data.length ≤ 64 := by
  refine ⟨?_, ?_⟩
  · intro view data r
    exact Selected.rearms.arms_last view (c := .outCompleted data) r rfl
  intro responder p identity busId earlier replies walk urbs descriptors s n
  -- whatever hosts came before, the bus is empty and the descriptors are those of a personality
  have rests : ∀ {σ : Type} [Responder σ] (r : σ),
      ((Device.fresh r descriptors busId).afterVisits earlier).bus = {} := fun r =>
    Device.afterVisits_invariant (P := fun d => d.bus = {}) (fun _ _ _ => rfl) rfl earlier
  have known : (s.device.descriptors.endpoint? Endpoint.bulkOut).isSome = true := by
    rw [(Device.identity_afterVisits (Device.fresh responder descriptors busId) earlier).1]
    cases p <;> rfl
  refine ⟨?_, ?_⟩
  · obtain ⟨t, pieces, hands⟩ := exists_hands (s := s) rfl urbs
    refine ⟨t, pieces, hands.handleEach, hands, hands.short Restless.rearms (.inl ?_),
      hands.tail_armed Restless.rearms, ?_⟩
    · rw [rests responder]
    · rintro before after rfl arms
      exact hands.armed_behind Restless.rearms known (by rw [rests responder]) arms
  · obtain ⟨t, pieces, hands⟩ := exists_hands (s := n) rfl urbs
    refine ⟨t, pieces, hands.handleEach, hands, hands.notes,
      hands.short (Noted.rearms Restless.rearms) (.inl ?_)⟩
    rw [rests _]

/-- The transfer that selects the configuration. -/
def configure : Submit := ⟨1, 0, 0, 0, 0, 0, 0, [0, 9, 1, 0, 0, 0, 0, 0], []⟩

/-- A tunnel to a relay that is not there when the interface is opened and when the first data comes
in, and is there from then on. -/
def connecting : Restless Relay.QueueLink where
  responder := .rawProxy { link := {}, budget := 8 }
  changes := [id, id, fun link => { link with connected := true }]

/-- A host selects the configuration and sends 70 bytes, and the relay comes between the two pieces
that they are divided into. Both come in with a receive armed, and the relay is given the second
one. -/
theorem receives_armed_connecting :
    let s : Serving (Restless Relay.QueueLink) :=
      { device := .fresh connecting (.ofPersonality .rawProxy {}) "1-1" }
    let n : Serving (Noted (Restless Relay.QueueLink)) :=
      { device := .fresh { responder := connecting } (.ofPersonality .rawProxy {}) "1-1" }
    let urbs : List Urb := [.submit configure, .submit Fitful.transfer]
    Urb.Arms (.submit configure) ∧
      (∃ t u first later, s.handleEach urbs = .ok () t ∧
        s.handleEach [.submit configure] = .ok () u ∧ u.device.bus.armed = some 64 ∧
        Hands s urbs (first ++ later) t ∧ ∀ piece ∈ later, piece.armed = some 64) ∧
      ∃ t, n.handleEach urbs = .ok () t ∧ t.notes.map List.length = [64, 6] ∧
        ∃ b : Bridge Relay.QueueLink,
          t.device.attached.responder.responder.responder = .rawProxy b ∧
          b.link.sent = [⟨0x10, List.replicate 6 0xAA⟩] := by
  intro s n urbs
  have arms : Urb.Arms (.submit configure) := .inl ⟨rfl, rfl, rfl, rfl, rfl⟩
  obtain ⟨-, runs⟩ := receives_armed (L := Relay.QueueLink)
  obtain ⟨⟨t, pieces, done, hands, -, -, follows⟩, u, given, noted, -, -, -⟩ :=
    runs connecting .rawProxy {} "1-1" [] [] (fun _ => []) urbs
  obtain ⟨v, first, later, configured, armed, rfl, -, -, all⟩ :=
    follows [.submit configure] [.submit Fitful.transfer] rfl ⟨_, List.mem_singleton_self _, arms⟩
  have noted : n.handleEach urbs = .ok () u := noted
  have lengths : (Outcome.state (n.handleEach urbs)).notes.map List.length = [64, 6] := by
    decide +kernel
  have sent :
      (match (n.handleEach urbs).state.device.attached.responder.responder.responder with
      | .rawProxy b => b.link.sent
      | _ => []) = [⟨0x10, List.replicate 6 0xAA⟩] := by
    decide +kernel
  rw [noted] at lengths sent
  refine ⟨arms, ⟨t, v, first, later, done, configured, armed, hands, all⟩, u, noted, lengths, ?_⟩
  split at sent
  · next b tunnel => exact ⟨b, tunnel, sent⟩
  · cases sent

end Serving

end UsbIp

end PictureTransfer
