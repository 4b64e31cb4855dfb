import PictureTransfer.Proofs.UsbIp.Bisimulation
import PictureTransfer.Proofs.UsbIp.Steady

/-!
# Hosts one after another

A device serves one host, and when that one is gone it serves the next. A host that goes away is a
bus reset for the responder. With a responder that is `Responder.Forgetful` a device is after any
number of hosts like one that no host has touched (`Device.like_fresh`), and so every host sees what
it would have seen if it had been the first one (`connections_isolated`).

One thing is left open by both devices: on which of two endpoints an unlink finds a number that is
parked on both. A `Visit` says how it is settled each time, and where it never comes up, as the
visit is `Device.Definite`, two devices that settle it in different ways cannot be told apart
either.
-/

namespace PictureTransfer.UsbIp

/-! ## One host -/

namespace Serving

variable {σ : Type}

/-- What a host sees of being served: the bytes it takes, and how its connection ends. -/
def Outcome.seen : Outcome σ → Bytes × Except Error Unit
  | .ok _ t => (t.written, .ok ())
  | .error e t => (t.written, .error e)

variable {R : σ → σ → Prop} {s t : Serving σ}

theorem Alike.written (h : s.Alike R t) : s.written = t.written := by
  obtain ⟨related, events, walk⟩ := h
  rfl

theorem Outcome.Alike.seen {x y : Outcome σ} (h : Outcome.Alike R x y) : x.seen = y.seen := by
  cases h with
  | ok same => exact congrArg (·, Except.ok ()) same.written
  | error e same => exact congrArg (·, Except.error e) same.written

variable [Responder σ]

/-- Behind an import of this device, no command finds the number that it names parked on two
endpoints. -/
def DefiniteOn (s : Serving σ) (source : Source) : Prop :=
  ∀ rest, OpRequest.read source = .ok (.import_ s.device.exported.busId) rest →
    ∀ u urb, (s.wrote (.imported s.device.exported)).Finds rest u urb → u.Definite urb

/-- Hosts that send the same see the same of alike devices, in whose order ever the endpoints come
up where every command is definite. -/
theorem connection_seen (keeps : Responder.Bisimulation R) (h : s.Alike R t) (source : Source)
    (agrees : t.walk = s.walk ∨ s.DefiniteOn source) :
    Outcome.seen (s.connection source) = Outcome.seen (t.connection source) := by
  have exported : t.device.exported = s.device.exported := by cases h; rfl
  rw [connection, connection, exported]
  split
  · next e rest failed => exact (Outcome.Alike.error e h).seen
  · exact (write_alike h _).seen
  · next busId rest read =>
    split
    · next own =>
      rw [own] at read
      have imported := write_alike h (.imported s.device.exported)
      cases wrote : s.write (.imported s.device.exported) with
      | error e u =>
        obtain ⟨v, failed, same⟩ := imported.of_error wrote
        rw [failed]
        exact (Outcome.Alike.error e same).seen
      | ok _ u =>
        obtain ⟨v, also, same⟩ := imported.of_ok wrote
        obtain rfl := eq_wrote wrote
        obtain rfl := eq_wrote also
        obtain ⟨ends, last⟩ := handleAll_alike keeps same rest
          (agrees.imp_right fun definite => definite rest read)
        rw [also]
        -- the detach that follows writes nothing
        show ((handleAll rest _).2.written, Except.error (handleAll rest _).1)
          = ((handleAll rest _).2.written, Except.error (handleAll rest _).1)
        rw [ends, last.written]
    · have refused := write_alike h .refused
      exact (refused.next fun same => .error _ same).seen

/-- A connection leaves the device as it was, or it ends with a detach. -/
theorem device_connection (s : Serving σ) (source : Source) :
    (Outcome.state (s.connection source)).device = s.device ∨
      ∃ (u : Serving σ) (rest : Source), u.device = s.device ∧
        (Outcome.state (s.connection source)).device = detach (u.handleAll rest).2.device := by
  have wrote : ∀ {reply : Reply} {x : Outcome σ}, s.write reply = x →
      x.state.device = s.device := by
    intro reply x written
    rw [← written, state_write]
  rw [connection]
  -- before the import, and when the reply to it is not taken, the device is only looked at
  split
  · exact .inl rfl
  · exact .inl (wrote rfl)
  · next busId rest read =>
    split
    · split
      · next e t failed => exact .inl (wrote failed)
      · next t imported => exact .inr ⟨t, rest, wrote imported, rfl⟩
    · split
      · next e t failed => exact .inl (wrote failed)
      · next t refused =>
        have kept : t.device = s.device := wrote refused
        exact .inl kept

end Serving

/-! ## Many hosts -/

/-- A host that connects: what it sends, which faults included, and how many bytes it takes of what
the device writes, where `none` is all of them. With it goes the order in which the endpoints come
up at each unlink while it is served, of which neither the host nor the device has the choice. -/
structure Visit where
  source : Source
  room : Option Nat := none
  walk : Walk := fun _ => []

namespace Device

variable {σ : Type} {R : σ → σ → Prop} {d e : Device σ}

/-- The devices that no host can tell from a given one: the responder is related to its responder,
and beside that at most the events differ, which no host sees. -/
inductive Like (R : σ → σ → Prop) (e : Device σ) : Device σ → Prop where
  | intro {r : σ} (related : R r e.attached.responder) (events : List Event) :
      Like R e { e with attached := ⟨e.bus, r, events⟩ }

theorem Like.serving (h : Like R e d) (s : Serving σ) (walk : Walk) :
    Serving.Alike R { s with device := d } { s with device := e, walk } := by
  obtain ⟨related, events⟩ := h
  exact .intro (s := { s with device := { e with attached := ⟨e.bus, _, events⟩ } }) related
    e.attached.events walk

theorem Like.identity (h : Like R e d) :
    d.descriptors = e.descriptors ∧ d.exported = e.exported := by
  obtain ⟨related, events⟩ := h
  exact ⟨rfl, rfl⟩

variable [Responder σ]

/-- Serves a host. -/
def serve (d : Device σ) (v : Visit) : Serving.Outcome σ :=
  Serving.connection v.source { device := d, limit := v.room, walk := v.walk }

/-- No command of a host that is served finds the number that it names parked on two endpoints. -/
def Definite (d : Device σ) (v : Visit) : Prop :=
  Serving.DefiniteOn { device := d, limit := v.room, walk := v.walk } v.source

/-- The device after a host is gone. -/
def afterVisit (d : Device σ) (v : Visit) : Device σ := (Serving.Outcome.state (d.serve v)).device

/-- The device after some hosts, one after another. -/
def afterVisits (visits : List Visit) (d : Device σ) : Device σ := visits.foldl afterVisit d

/-- What holds again after every detach holds after any hosts. -/
theorem afterVisits_invariant {P : Device σ → Prop}
    (detaches : ∀ (u : Serving σ) (rest : Source), P u.device →
      P (Serving.detach (u.handleAll rest).2.device)) (h : P d) (visits : List Visit) :
    P (d.afterVisits visits) := by
  induction visits generalizing d with
  | nil => exact h
  | cons v others ih =>
    refine ih (d := d.afterVisit v) ?_
    rw [afterVisit, serve]
    rcases Serving.device_connection { device := d, limit := v.room, walk := v.walk } v.source with
      same | ⟨u, rest, same, detached⟩
    · rw [same]
      exact h
    · rw [detached]
      refine detaches u rest ?_
      rw [same]
      exact h

/-- No host changes what a device says about itself. -/
theorem identity_afterVisits (d : Device σ) (visits : List Visit) :
    (d.afterVisits visits).descriptors = d.descriptors ∧
      (d.afterVisits visits).exported = d.exported := by
  refine afterVisits_invariant
    (P := fun e => e.descriptors = d.descriptors ∧ e.exported = d.exported) ?_ ⟨rfl, rfl⟩ visits
  rintro u rest ⟨described, listed⟩
  obtain ⟨keeps_described, keeps_listed⟩ := (Serving.steps_handleAll u rest).identity
  exact ⟨keeps_described.trans described, keeps_listed.trans listed⟩

/-- A host sees the same of both, in the same order of the endpoints, or in any where all that it
sends is definite. -/
theorem Like.seen (keeps : Responder.Bisimulation R) (h : Like R e d) (v : Visit)
    {walk : Walk} (agrees : walk = v.walk ∨ d.Definite v) :
    (d.serve v).seen = (e.serve { v with walk }).seen :=
  Serving.connection_seen keeps
    (h.serving { device := d, limit := v.room, walk := v.walk } walk) v.source agrees

variable {responder : σ} (forgets : Responder.Forgetful R responder) {descriptors : Descriptors}
  {busId : String}
include forgets

/-- After a detach nothing is left that a host could see. -/
theorem like_detach (described : d.descriptors = descriptors)
    (listed : d.exported = .ofDescriptors busId descriptors) {q : σ}
    (related : R d.attached.responder q) :
    Like R (.fresh responder descriptors busId) (Serving.detach d) := by
  obtain ⟨attached, described', listed', parked, configuration⟩ := d
  obtain rfl : described' = descriptors := described
  obtain rfl : listed' = .ofDescriptors busId described' := listed
  exact .intro (forgets.busReset related) _

theorem Like.afterVisits (h : Like R (.fresh responder descriptors busId) d) (visits : List Visit) :
    Like R (.fresh responder descriptors busId) (d.afterVisits visits) := by
  refine afterVisits_invariant (P := Like R (.fresh responder descriptors busId)) ?_ h visits
  intro u rest h
  -- commands keep the responder related, and what the device says about itself
  obtain ⟨described, listed⟩ := h.identity
  obtain ⟨keeps_described, keeps_listed⟩ := (Serving.steps_handleAll u rest).identity
  obtain ⟨-, last⟩ :=
    Serving.handleAll_alike forgets.toBisimulation (h.serving u u.walk) rest (.inl rfl)
  exact like_detach forgets (keeps_described.trans described) (keeps_listed.trans listed)
    last.related

/-- After any number of hosts a device is like one that no host has touched. -/
theorem like_fresh (visits : List Visit) :
    Like R (.fresh responder descriptors busId)
      ((fresh responder descriptors busId).afterVisits visits) :=
  Like.afterVisits forgets (.intro forgets.untouched []) visits

/-- Every host sees after others what it sees of a device that no host has touched. The endpoints
come up in one order for both, or in any where all that the host sends is definite. -/
theorem seen_afterVisits (earlier : List Visit) (v : Visit) {walk : Walk}
    (agrees : walk = v.walk ∨ (fresh responder descriptors busId).Definite v) :
    (((fresh responder descriptors busId).afterVisits earlier).serve { v with walk }).seen
      = ((fresh responder descriptors busId).serve v).seen := by
  have keeps := forgets.toBisimulation
  have untouched : Like R (fresh responder descriptors busId) (fresh responder descriptors busId) :=
    .intro forgets.untouched []
  -- what hosts leave behind is not seen in this order of the endpoints, nor the order itself
  calc (((fresh responder descriptors busId).afterVisits earlier).serve { v with walk }).seen
      = ((fresh responder descriptors busId).serve { v with walk }).seen :=
        (like_fresh forgets earlier).seen keeps { v with walk } (.inl rfl)
    _ = ((fresh responder descriptors busId).serve v).seen :=
        (untouched.seen keeps v agrees).symm

end Device

/-! ## One endpoint to the host -/

/-- The standard personality alone has a second endpoint to the host. -/
theorem Submit.address_of_known {p : Personality} (other : p ≠ .standard) {identity : Identity}
    {urb : Submit} (isIn : urb.isIn = true)
    (known : ((Descriptors.ofPersonality p identity).endpoint? urb.address).isSome = true) :
    urb.address = Endpoint.bulkIn := by
  obtain ⟨endpoint, listed, same⟩ := List.find?_isSome.1 known
  have listed : endpoint ∈
      [EndpointDescriptor.bulk Endpoint.bulkOut, .bulk Endpoint.bulkIn] := by
    cases p with
    | standard => exact absurd rfl other
    | legacy => exact listed
    | rawProxy => exact listed
  rw [← of_decide_eq_true same]
  rcases List.mem_cons.1 listed with rfl | last
  · exact absurd (of_decide_eq_true same).symm (urb.address_ne_of_isIn isIn)
  · rw [List.mem_singleton.1 last]
    rfl

namespace Serving

variable {σ : Type} [Responder σ]

theorem Finds.steps {s u : Serving σ} {source : Source} {urb : Urb}
    (finds : Finds s source u urb) : Steps s u := by
  induction finds with
  | first read => exact .refl
  | @later s t u source rest urb other read handled finds ih =>
    have steps := steps_handle s urb
    rw [handled] at steps
    exact steps.trans ih

/-- With one endpoint to the host nothing is parked on another. -/
theorem Steps.parked_bulkIn {p : Personality} (other : p ≠ .standard) {identity : Identity}
    {s t : Serving σ} (steps : Steps s t)
    (described : s.device.descriptors = .ofPersonality p identity) (none : s.device.parked = []) :
    ∀ q ∈ t.device.parked, q.ep = Endpoint.bulkIn := by
  refine (steps.invariant (P := fun u => u.device.descriptors = .ofPersonality p identity ∧
    ∀ q ∈ u.device.parked, q.ep = Endpoint.bulkIn) ?_ ⟨described, ?_⟩).2
  · rintro u v step ⟨described, parked⟩
    cases step with
    | parked urb isIn known =>
      rw [described] at known
      refine ⟨described, List.forall_mem_append.2 ⟨parked, List.forall_mem_singleton.2 ?_⟩⟩
      exact Submit.address_of_known other isIn known
    | unlinked target => exact ⟨described, fun q waits => parked q (mem_of_mem_takeBack waits)⟩
    | taken ep q left data bus unparked popped =>
      refine ⟨described, fun r waits => parked r ?_⟩
      exact (Device.perm_of_unpark? unparked).mem_iff.2 (List.mem_cons_of_mem q waits)
    | _ => exact ⟨described, parked⟩
  · rw [none]
    exact List.forall_mem_nil _

end Serving

/-- All that a host sends to such a device is definite. -/
theorem Device.definite_of_personality {σ : Type} [Responder σ] (responder : σ) {p : Personality}
    (other : p ≠ .standard) (identity : Identity) (busId : String) (v : Visit) :
    (fresh responder (.ofPersonality p identity) busId).Definite v := by
  intro rest _ u urb finds
  have parked := finds.steps.parked_bulkIn other rfl rfl
  cases urb with
  | submit urb => trivial
  | unlink seqnum target =>
    intro q first r second _ _
    rw [parked q first, parked r second]

/-! ## Cameras -/

/-- Every host sees the same of a camera, whatever hosts came before it and however their
connections ended. What they leave behind is at most a recording and the code of the last container
at a legacy camera, and the events that were reported: the bus, the parked transfers, the
configuration, the session and what was under way are those of a camera that no host has touched.

This is so for every order in which endpoints come up at the unlinks of the host. Where no unlink
finds its target parked on two endpoints, they may come up in one order at the camera that the host
sees and in another at the one that no host has touched. -/
theorem connections_isolated (descriptors : Descriptors) (busId : String) (name : CameraName)
    (earlier : List Visit) :
    let legacy := Device.fresh ({} : Legacy) descriptors busId
    let standard := Device.fresh ({ name } : Standard) descriptors busId
    (∀ v, ((legacy.afterVisits earlier).serve v).seen = (legacy.serve v).seen) ∧
    (∀ v, ((standard.afterVisits earlier).serve v).seen = (standard.serve v).seen) ∧
    (∀ v walk, legacy.Definite v →
      ((legacy.afterVisits earlier).serve { v with walk }).seen = (legacy.serve v).seen) ∧
    (∀ v walk, standard.Definite v →
      ((standard.afterVisits earlier).serve { v with walk }).seen = (standard.serve v).seen) ∧
    (∃ recording lastOp events, legacy.afterVisits earlier
      = { legacy with attached := ⟨{}, { recording, lastOp }, events⟩ }) ∧
    ∃ events, standard.afterVisits earlier
      = { standard with attached := ⟨{}, { name }, events⟩ } := by
  intro legacy standard
  have likeLegacy : Device.Like Legacy.Alike legacy (legacy.afterVisits earlier) :=
    Device.like_fresh Legacy.forgetful earlier
  have likeStandard : Device.Like (Standard.Alike name) standard (standard.afterVisits earlier) :=
    Device.like_fresh (Standard.forgetful name) earlier
  refine ⟨?_, ?_, ?_, ?_, ?_, ?_⟩
  · exact fun v => Device.seen_afterVisits Legacy.forgetful earlier v (.inl rfl)
  · exact fun v => Device.seen_afterVisits (Standard.forgetful name) earlier v (.inl rfl)
  · exact fun v walk definite =>
      Device.seen_afterVisits Legacy.forgetful earlier v (.inr definite)
  · exact fun v walk definite =>
      Device.seen_afterVisits (Standard.forgetful name) earlier v (.inr definite)
  · -- a camera like a fresh one can keep a recording and a code, and nothing else
    generalize legacy.afterVisits earlier = used at likeLegacy
    cases likeLegacy with
    | @intro r related events =>
      refine ⟨r.recording, r.lastOp, events, ?_⟩
      rw [← related.eq_of_fresh]
      rfl
  · generalize standard.afterVisits earlier = used at likeStandard
    obtain ⟨⟨same, -, -⟩, events⟩ := likeStandard
    refine ⟨events, ?_⟩
    rw [← same]
    rfl

/-- A host that imports a device, asks for transfers under the number 5 on some endpoints, takes
this number back, and opens a session. -/
def unlinking (endpoints : List UInt32) : Visit where
  source :=
    let setup : Bytes := List.replicate 8 0
    let opens := commandContainer Operation.openSession 1 [1]
    .ofBytes (put16 version ++ put16 0x8003 ++ put32 0
      ++ Exported.field OpRequest.busIdSize "1-1"
      ++ (endpoints.flatMap fun ep => [1, 5, 0, 1, ep, 0, 512, 0, 0, 0].flatMap put32 ++ setup)
      ++ [2, 6, 0, 0, 0, 5, 0, 0, 0, 0, 0, 0].flatMap put32
      ++ [1, 7, 0, 0, 2, 0, 16, 0, 0, 0].flatMap put32 ++ setup ++ opens) .closed

/-- Two cameras with one endpoint to the host, one of which has served other hosts. -/
theorem connections_isolated_unlinking :
    let descriptors := Descriptors.ofPersonality .legacy {}
    let legacy := Device.fresh ({} : Legacy) descriptors "1-1"
    let standard := Device.fresh ({ name := ⟨"", "", ""⟩ } : Standard) descriptors "1-1"
    let earlier := [unlinking [], unlinking [1, 1]]
    let walk : Walk := fun _ => [Endpoint.eventIn, Endpoint.bulkIn]
    legacy.Definite (unlinking [1, 1]) ∧
      ((legacy.afterVisits earlier).serve { unlinking [1, 1] with walk }).seen
        = (legacy.serve (unlinking [1, 1])).seen ∧
      standard.Definite (unlinking [1, 1]) ∧
      ((standard.afterVisits earlier).serve { unlinking [1, 1] with walk }).seen
        = (standard.serve (unlinking [1, 1])).seen := by
  intro descriptors legacy standard earlier walk
  have other : Personality.legacy ≠ .standard := by decide
  obtain ⟨-, -, ofLegacy, ofStandard, -, -⟩ :=
    connections_isolated descriptors "1-1" ⟨"", "", ""⟩ earlier
  have definite : legacy.Definite (unlinking [1, 1]) :=
    Device.definite_of_personality _ other {} "1-1" _
  have definite' : standard.Definite (unlinking [1, 1]) :=
    Device.definite_of_personality _ other {} "1-1" _
  exact ⟨definite, ofLegacy _ walk definite, definite', ofStandard _ walk definite'⟩

-- a number that is parked on two endpoints at the unlink is found on either
example :
    let standard := Device.fresh ({ name := ⟨"", "", ""⟩ } : Standard) (.ofPersonality .standard {})
      "1-1"
    let walk : Walk := fun _ => [Endpoint.eventIn]
    (standard.serve { unlinking [1, 3] with walk }).seen.1
      ≠ (standard.serve (unlinking [1, 3])).seen.1 := by
  decide +kernel

end PictureTransfer.UsbIp
