import PictureTransfer.Proofs.UsbIp.Commands
import PictureTransfer.Responder.Standard

/-!
# Replies that a host can tell apart

The head of a reply says how long a transfer was, and not how many bytes follow: a host counts them
by the direction of its transfer, and it has room for as many as it asked for. `Submit.Framed` says
that a reply keeps to that, and `splitReplies` is how a host then finds the replies in the stream.
Transfers on other endpoints than zero are always answered so, and those on endpoint zero when the
host is prepared for the data it may get (`Submit.Prepared`), which `replies_framed` proves of any
commands. A host that is not prepared loses its place in the stream (`unprepared_unframed`): the
answer to a control transfer is cut to the length in its SETUP packet, and neither to the buffer nor
to the direction of the transfer.
-/

namespace PictureTransfer

namespace Setup

/-- The requests that the device itself answers with data: a status, a descriptor, the
configuration, an interface. -/
def readsDevice (s : Setup) : Bool := s.request ∈ ([0x00, 0x06, 0x08, 0x0A] : List UInt8)

/-- The requests of the class that are answered with data. -/
def readsClass (s : Setup) : Bool :=
  s.isClass && s.toInterface && s.request ∈ [Control.getDeviceStatus, Control.getExtendedEvent]

/-- Whether data may come in answer. -/
def readsData (s : Setup) : Bool :=
  if s.isStandard && !s.toEndpoint then s.readsDevice else s.readsClass

theorem readsData_of_readsClass {s : Setup} (reads : s.readsClass = true) : s.readsData = true := by
  have isClass : s.isClass = true := by
    rw [readsClass, Bool.and_eq_true, Bool.and_eq_true] at reads
    exact reads.1.1
  rw [readsData, isStandard_of_isClass isClass]
  exact reads

end Setup

/-- A responder that answers with data only what the class says is answered with data. -/
class Responder.ClassData (σ : Type) [Responder σ] : Prop where
  readsClass : ∀ (view : Bus.View) (setup : Setup) (data : Bytes) (r : σ) (bytes : Bytes),
    (Responder.control view setup data r).2 = .data bytes → setup.readsClass = true

namespace Control

/-- Only the two requests that ask for something are answered with data. -/
theorem request_of_classOutcome {view : Bus.View} {setup : Setup} {bytes : Bytes}
    (h : (classOutcome view setup).response = .data bytes) :
    setup.request ∈ [getDeviceStatus, getExtendedEvent] := by
  rw [classOutcome] at h
  split at h
  · next status => exact List.mem_cons.2 (.inl status)
  · split at h
    · cases h
    · split at h
      · next extended => exact List.mem_cons_of_mem _ (List.mem_singleton.2 extended)
      · cases h

theorem readsClass_of_data {view : Bus.View} {setup : Setup} {interface : UInt8} {bytes : Bytes}
    (h : (outcome view setup interface).response = .data bytes) : setup.readsClass = true := by
  rw [outcome] at h
  split at h
  -- a standard request for an endpoint is acknowledged, whatever it asks for
  · split at h <;> cases h
  · split at h
    · next own =>
      rw [Bool.and_eq_true, Bool.and_eq_true] at own
      rw [Setup.readsClass, own.1.1, own.1.2]
      exact decide_eq_true (request_of_classOutcome h)
    · cases h

/-- A request is answered alike whether or not it resets the responder. -/
theorem response_ite {σ : Type} (o : Outcome) (reset kept : Reaction σ) :
    (if o.reset then (reset, o.response) else (kept, o.response)).2 = o.response := by
  split <;> rfl

end Control

instance : Responder.ClassData Legacy where
  readsClass _ _ _ _ _ h := Control.readsClass_of_data ((Control.response_ite _ _ _).symm.trans h)

instance : Responder.ClassData Standard where
  readsClass _ _ _ _ _ h := Control.readsClass_of_data ((Control.response_ite _ _ _).symm.trans h)

namespace UsbIp

/-! ## The commands of a host -/

/-- A command that a host can send. -/
def Urb.Readable (urb : Urb) : Prop := ∃ source rest, Urb.read source = .ok urb rest

namespace Submit

/-- The data of a transfer is as long as the transfer says if it goes to the device, and else there
is none. -/
theorem length_data {urb : Submit} (read : Urb.Readable (.submit urb)) :
    urb.data.length = if urb.direction = 0 then urb.length.toNat else 0 := by
  obtain ⟨source, rest, read⟩ := read
  obtain ⟨packet, written, -⟩ := Urb.written_of_read read
  cases written with
  | submit startFrame packets setup fits sized => exact sized

theorem data_of_isIn {urb : Submit} (read : Urb.Readable (.submit urb)) (isIn : urb.isIn = true) :
    urb.data = [] := by
  have count := length_data read
  have one : urb.direction = 1 := of_decide_eq_true isIn
  rw [one] at count
  exact List.length_eq_zero_iff.1 count

theorem length_data_le {urb : Submit} (read : Urb.Readable (.submit urb)) :
    urb.data.length ≤ urb.length.toNat := by
  rw [length_data read]
  split
  · exact Nat.le_refl _
  · exact Nat.zero_le _

/-- On endpoint zero the host is prepared for data where it may get some: it has room for as much as
the SETUP packet asks for. -/
def Prepared (urb : Submit) : Prop :=
  urb.ep = 0 → (Setup.ofBytes urb.setup).readsData = true →
    urb.isIn = true ∧ (Setup.ofBytes urb.setup).length.toNat ≤ urb.length.toNat

/-- What stands in a reply to a transfer is what the host counts: behind the head as many bytes as
the head says if the transfer goes to the host, and else none; and no more than there is room for.
-/
structure Framed (urb : Submit) (actual : UInt32) (data : Bytes) : Prop where
  counted : data.length = if urb.isIn then actual.toNat else 0
  fits : actual ≤ urb.length

theorem toNat_ofNat_of_le {n : Nat} {size : UInt32} (fits : n ≤ size.toNat) :
    (UInt32.ofNat n).toNat = n :=
  UInt32.toNat_ofNat_of_lt' (Nat.lt_of_le_of_lt fits size.toNat_lt)

namespace Framed

/-- Data for the host that there is room for. -/
theorem carried {urb : Submit} (isIn : urb.isIn = true) {data : Bytes}
    (fits : data.length ≤ urb.length.toNat) : urb.Framed (UInt32.ofNat data.length) data where
  counted := by rw [if_pos isIn, toNat_ofNat_of_le fits]
  fits := by rwa [UInt32.le_iff_toNat_le, toNat_ofNat_of_le fits]

/-- A transfer that failed. -/
theorem failed (urb : Submit) : urb.Framed 0 [] where
  counted := (ite_self 0).symm
  fits := UInt32.zero_le

/-- A transfer whose data the device took. -/
theorem acknowledged {urb : Submit} (read : Urb.Readable (.submit urb)) :
    urb.Framed (UInt32.ofNat urb.data.length) [] where
  counted := by
    split
    · next isIn => rw [data_of_isIn read isIn]; rfl
    · rfl
  fits := by
    rw [UInt32.le_iff_toNat_le, toNat_ofNat_of_le (length_data_le read)]
    exact length_data_le read

end Framed

end Submit

/-- A reply to one of these commands: to an unlink, or to a transfer, as the host counts it if it is
prepared. -/
def Reply.Framed (urbs : List Urb) : Reply → Prop
  | .submitted seqnum _ actual data =>
    ∃ urb, .submit urb ∈ urbs ∧ urb.seqnum = seqnum ∧ (urb.Prepared → urb.Framed actual data)
  | .unlinked seqnum _ => ∃ target, .unlink seqnum target ∈ urbs
  | .deviceList _ | .imported _ | .refused => False

namespace Serving

variable {σ : Type}

/-! ## Every reply is framed -/

/-- What is written is framed, and what is parked goes to the host. -/
structure Framing (urbs : List Urb) (s : Serving σ) : Prop where
  replies : ∀ reply ∈ s.replies, reply.Framed urbs
  parked : ∀ p ∈ s.device.parked, ∃ urb, .submit urb ∈ urbs ∧ urb.isIn = true ∧ urb.slot = p

namespace Framing

variable {urbs : List Urb} {s t : Serving σ}

theorem fresh (responder : σ) (descriptors : Descriptors) (busId : String) (walk : Walk) :
    Framing urbs { device := .fresh responder descriptors busId, walk } :=
  ⟨List.forall_mem_nil _, List.forall_mem_nil _⟩

theorem wrote (h : Framing urbs s) {reply : Reply} (framed : reply.Framed urbs) :
    Framing urbs (s.wrote reply) :=
  ⟨List.forall_mem_append.2 ⟨h.replies, List.forall_mem_singleton.2 framed⟩, h.parked⟩

/-- Deliveries are cut to the room of the transfers that carry them. -/
theorem delivered (h : Framing urbs s) {carried : List (Parked × Bytes)}
    (delivered : Delivered s carried t) : Framing urbs t where
  replies := by
    rw [delivered.replies]
    refine List.forall_mem_append.2 ⟨h.replies, ?_⟩
    intro reply listed
    obtain ⟨c, moved, rfl⟩ := List.mem_map.1 listed
    -- what was answered had been parked, so that it is a transfer of the host and goes to it
    have parked : c.1 ∈ s.device.parked :=
      delivered.parked.mem_iff.2 (List.mem_append_left _ (List.mem_map_of_mem moved))
    obtain ⟨urb, listed, isIn, same⟩ := h.parked c.1 parked
    rw [← same]
    exact ⟨urb, listed, rfl, fun _ => .carried isIn (List.length_take_le _ _)⟩
  parked p waits := h.parked p (delivered.parked.mem_iff.2 (List.mem_append_right _ waits))

end Framing

variable [Responder σ]

theorem readsDevice_of_data {setup : Setup} {d : Device σ} {bytes : Bytes}
    (h : (standardRequest setup d).1 = .data bytes) : setup.readsDevice = true := by
  have known : ∀ {n : Nat}, setup.request.toNat = n → setup.request = UInt8.ofNat n := fun same =>
    same ▸ UInt8.ofNat_toNat.symm
  rw [standardRequest] at h
  dsimp only at h
  rw [Setup.readsDevice]
  split at h
  · next same => rw [known same]; rfl
  · split at h <;> cases h
  · next same => rw [known same]; rfl
  · next same => rw [known same]; rfl
  · next same => rw [known same]; rfl
  all_goals cases h

/-- The reply to a control transfer is framed where the host is prepared for its data. -/
theorem framed_controlReply {urb : Submit} (read : Urb.Readable (.submit urb)) (zero : urb.ep = 0)
    {urbs : List Urb} (listed : .submit urb ∈ urbs) {response : ControlResponse}
    (reads : ∀ bytes, response = .data bytes → (Setup.ofBytes urb.setup).readsData = true) :
    (controlReply urb (Setup.ofBytes urb.setup) response).Framed urbs := by
  cases response with
  | data bytes =>
    refine ⟨urb, listed, rfl, fun prepared => ?_⟩
    obtain ⟨isIn, room⟩ := prepared zero (reads bytes rfl)
    have cut := List.length_take_le (Setup.ofBytes urb.setup).length.toNat bytes
    exact .carried isIn (Nat.le_trans cut room)
  | ack => exact ⟨urb, listed, rfl, fun _ => .acknowledged read⟩
  | unhandled => exact ⟨urb, listed, rfl, fun _ => .failed urb⟩

/-- The reply that is due to a transfer is framed. -/
theorem framed_due [Responder.ClassData σ] {urb : Submit} (read : Urb.Readable (.submit urb))
    {urbs : List Urb} (listed : .submit urb ∈ urbs) {reply : Reply} (due : Due σ urb reply) :
    reply.Framed urbs := by
  cases due with
  | refused => exact ⟨urb, listed, rfl, fun _ => .failed urb⟩
  | received toDevice => exact ⟨urb, listed, rfl, fun _ => .acknowledged read⟩
  | standard zero own whole d =>
    refine framed_controlReply read zero listed fun bytes data => ?_
    rw [Setup.readsData, own, whole]
    exact readsDevice_of_data data
  | responder zero view r =>
    refine framed_controlReply read zero listed fun bytes data => ?_
    exact Setup.readsData_of_readsClass (Responder.ClassData.readsClass _ _ _ _ _ data)

/-- Handling a command of the host keeps the replies framed. -/
theorem Framing.handled [Responder.ClassData σ] {urbs : List Urb} {s t : Serving σ}
    (h : Framing urbs s) {urb : Urb} (listed : urb ∈ urbs) (read : urb.Readable)
    (handled : Handled s urb t) : Framing urbs t := by
  cases handled with
  | answered due before behind =>
    exact ((h.delivered before).wrote (framed_due read listed due)).delivered behind
  | @parked urb t later isIn behind =>
    have parked : Framing urbs (s.park urb.slot) := by
      refine ⟨h.replies, List.forall_mem_append.2 ⟨h.parked, List.forall_mem_singleton.2 ?_⟩⟩
      exact ⟨urb, listed, isIn, rfl⟩
    exact parked.delivered behind
  | unlinked seqnum target =>
    have left : Framing urbs (s.takeBack target) :=
      ⟨h.replies, fun p waits => h.parked p (mem_of_mem_takeBack waits)⟩
    exact left.wrote ⟨target, listed⟩

end Serving

/-! ## The host's side -/

/-- How many bytes follow the head of a reply, as a host counts them who knows what it asked for
under each number: only the answer to a transfer to the host has any. There is no count where the
head is none of a reply, or says more than there is room for. -/
def behindHead? (asked : UInt32 → Submit) (stream : Bytes) : Option Nat :=
  if word32At stream 0 = 3 then
    let urb := asked (word32At stream 4)
    let actual := word32At stream 24
    if urb.length < actual then none else some (if urb.isIn then actual.toNat else 0)
  else if word32At stream 0 = 4 then some 0
  else none

/-- How many bytes the head of a reply has. -/
def headSize : Nat := 48

/-- Cuts a stream into replies. -/
def splitReplies (asked : UInt32 → Submit) (stream : Bytes) : Option (List Bytes) :=
  if stream = [] then some []
  else match behindHead? asked stream with
    | none => none
    | some behind =>
      if stream.length < headSize + behind then none
      else
        (splitReplies asked (stream.drop (headSize + behind))).map
          (stream.take (headSize + behind) :: ·)
termination_by stream.length
decreasing_by
  simp only [List.length_drop, headSize] at *
  omega

section Head

variable (command seqnum : UInt32) (status : Int) (rest : Bytes)

theorem length_urbHead : (Reply.urbHead command seqnum status).length = 24 := by
  simp [Reply.urbHead, put32]

theorem command_urbHead : word32At (Reply.urbHead command seqnum status ++ rest) 0 = command := by
  rw [Reply.urbHead, List.append_assoc, List.append_assoc, List.append_assoc]
  exact word32At_put32 command _

theorem seqnum_urbHead : word32At (Reply.urbHead command seqnum status ++ rest) 4 = seqnum := by
  rw [Reply.urbHead, List.append_assoc, List.append_assoc, List.append_assoc]
  exact (word32At_skip (Bytes.length_big 4 _) _ 0).trans (word32At_put32 seqnum _)

end Head

/-- The host counts what it was sent. -/
theorem behindHead?_encode {urbs : List Urb} {asked : UInt32 → Submit}
    (knows : ∀ urb, .submit urb ∈ urbs → asked urb.seqnum = urb ∧ urb.Prepared) {reply : Reply}
    (framed : reply.Framed urbs) (rest : Bytes) :
    ∃ behind, behindHead? asked (reply.encode ++ rest) = some behind ∧
      reply.encode.length = headSize + behind := by
  cases reply with
  | submitted seqnum status actual data =>
    obtain ⟨urb, listed, rfl, framed⟩ := framed
    obtain ⟨same, prepared⟩ := knows urb listed
    obtain ⟨counted, fits⟩ := framed prepared
    refine ⟨data.length, ?_, ?_⟩
    · have known : word32At (Reply.urbHead 3 urb.seqnum status ++ (put32 actual
          ++ (List.replicate 20 0 ++ (data ++ rest)))) 24 = actual :=
        (word32At_skip (length_urbHead 3 _ status) _ 0).trans (word32At_put32 actual _)
      simp only [Reply.encode, List.append_assoc, behindHead?, command_urbHead, seqnum_urbHead,
        known, same]
      rw [if_pos trivial, if_neg (UInt32.not_lt.2 fits), counted]
    · simp only [Reply.encode, List.length_append, length_urbHead, List.length_replicate, put32,
        Bytes.length_big, headSize]
  | unlinked seqnum status =>
    refine ⟨0, ?_, ?_⟩
    · simp only [Reply.encode, List.append_assoc, behindHead?, command_urbHead]
      rfl
    · simp only [Reply.encode, List.length_append, length_urbHead, List.length_replicate, headSize]
  | deviceList device => exact framed.elim
  | imported device => exact framed.elim
  | refused => exact framed.elim

/-- The host finds each reply where it stands. -/
theorem splitReplies_output {urbs : List Urb} {asked : UInt32 → Submit}
    (knows : ∀ urb, .submit urb ∈ urbs → asked urb.seqnum = urb ∧ urb.Prepared)
    {replies : List Reply} (framed : ∀ reply ∈ replies, reply.Framed urbs) :
    splitReplies asked (replies.flatMap Reply.encode) = some (replies.map Reply.encode) := by
  induction replies with
  | nil => rw [splitReplies, List.flatMap_nil, if_pos rfl, List.map_nil]
  | cons reply rest ih =>
    obtain ⟨first, later⟩ := List.forall_mem_cons.1 framed
    -- the host cuts the first reply off, however many follow it
    obtain ⟨behind, counted, size⟩ := behindHead?_encode knows first (rest.flatMap Reply.encode)
    have head : reply.encode ++ rest.flatMap Reply.encode ≠ [] := by
      intro none
      have nothing := congrArg List.length (List.append_eq_nil_iff.1 none).1
      rw [size, headSize, List.length_nil] at nothing
      omega
    rw [List.flatMap_cons, splitReplies, if_neg head, counted]
    dsimp only
    rw [← size, if_neg (by simp), List.drop_left, List.take_left, ih later]
    rfl

/-- Replies stay in frame for a host that is prepared. Whatever commands a host can send: every
reply is to one of them, and the reply to a transfer for which the host is prepared has as many
bytes behind its head as the host counts, and no more than it has room for; and a host that is
prepared for all its transfers, and knows each by its number, finds every reply in the stream. -/
theorem Serving.replies_framed {σ : Type} [Responder σ] [Responder.ClassData σ] (responder : σ)
    (descriptors : Descriptors) (busId : String) (walk : Walk) {urbs : List Urb}
    (readable : ∀ urb ∈ urbs, urb.Readable) :
    ∃ s, handleEach urbs { device := .fresh responder descriptors busId, walk } = .ok () s ∧
      (∀ reply ∈ s.replies, reply.Framed urbs) ∧
      ∀ asked : UInt32 → Submit,
        (∀ urb, .submit urb ∈ urbs → asked urb.seqnum = urb ∧ urb.Prepared) →
        splitReplies asked s.output = some (s.replies.map Reply.encode) := by
  obtain ⟨s, handled, framing⟩ := handleEach_invariant (P := Framing urbs) rfl
    (fun urb listed s t handled h => h.handled listed (readable urb listed) handled)
    (Framing.fresh responder descriptors busId walk)
  exact ⟨s, handled, framing.replies, fun asked knows => splitReplies_output knows framing.replies⟩

/-- A request for the device descriptor, by a transfer of a direction and a length. -/
def describe (direction length : UInt32) : Submit :=
  ⟨1, 0, direction, 0, 0, length, 0, [0x80, 6, 0, 1, 0, 0, 18, 0], []⟩

/-- The request as a host writes it. -/
def describeBytes (direction length : UInt32) : Bytes :=
  [1, 1, 0, direction, 0, 0, length, 0, 0, 0].flatMap put32 ++ (describe direction length).setup

/-- A host with room for the whole descriptor finds the reply. -/
theorem Serving.replies_framed_descriptor :
    Urb.Readable (.submit (describe 1 18)) ∧ (describe 1 18).Prepared ∧
      ∃ s, imported.handleEach [.submit (describe 1 18)] = .ok () s ∧
        splitReplies (fun _ => describe 1 18) s.output = some (s.replies.map Reply.encode) := by
  have readable : ∀ urb ∈ [Urb.submit (describe 1 18)], urb.Readable :=
    List.forall_mem_singleton.2 ⟨.ofBytes (describeBytes 1 18) .closed, ⟨[], .closed⟩, rfl⟩
  have prepared : (describe 1 18).Prepared := by
    unfold Submit.Prepared
    decide
  obtain ⟨s, handled, -, split⟩ :=
    replies_framed ({} : Legacy) (.ofPersonality .legacy {}) "1-1" _ readable
  refine ⟨readable _ List.mem_cons_self, prepared, s, handled, split _ ?_⟩
  intro urb listed
  cases List.mem_singleton.1 listed
  exact ⟨rfl, prepared⟩

/-- Where the descriptor comes whole, a host with less room loses its place. -/
theorem Serving.unframed_of_short {urb : Submit} (short : urb.length < 18)
    (replies : (Outcome.state (imported.handleEach [.submit urb])).replies
      = [.submitted 1 0 18 imported.device.descriptors.device])
    (lost : splitReplies (fun _ => urb)
      (Outcome.state (imported.handleEach [.submit urb])).output = none) :
    ∃ s, imported.handleEach [.submit urb] = .ok () s ∧
      (∃ data, s.replies = [.submitted 1 0 18 data] ∧ ¬urb.Framed 18 data) ∧
      splitReplies (fun _ => urb) s.output = none := by
  obtain ⟨s, one, -⟩ := handle_handled (s := imported) rfl (.submit urb)
  have handled : imported.handleEach [.submit urb] = .ok () s := handleEach_cons one
  rw [handled] at replies lost
  refine ⟨s, handled, ⟨_, replies, ?_⟩, lost⟩
  intro framed
  exact absurd framed.fits (UInt32.not_le.2 short)

/-- A host that is not prepared loses its place: it has room for eight bytes of the descriptor, or
asks for it by a transfer to the device, and all eighteen bytes come. -/
theorem Serving.unprepared_unframed :
    (Urb.Readable (.submit (describe 1 8)) ∧
      ∃ s, imported.handleEach [.submit (describe 1 8)] = .ok () s ∧
        (∃ data, s.replies = [.submitted 1 0 18 data] ∧ ¬(describe 1 8).Framed 18 data) ∧
        splitReplies (fun _ => describe 1 8) s.output = none) ∧
    Urb.Readable (.submit (describe 0 0)) ∧
      ∃ s, imported.handleEach [.submit (describe 0 0)] = .ok () s ∧
        (∃ data, s.replies = [.submitted 1 0 18 data] ∧ ¬(describe 0 0).Framed 18 data) ∧
        splitReplies (fun _ => describe 0 0) s.output = none := by
  refine ⟨⟨?_, unframed_of_short (by decide) (by decide +kernel) (by decide +kernel)⟩,
    ?_, unframed_of_short (by decide) (by decide +kernel) (by decide +kernel)⟩
  · exact ⟨.ofBytes (describeBytes 1 8) .closed, ⟨[], .closed⟩, rfl⟩
  · exact ⟨.ofBytes (describeBytes 0 0) .closed, ⟨[], .closed⟩, rfl⟩

end UsbIp

end PictureTransfer
