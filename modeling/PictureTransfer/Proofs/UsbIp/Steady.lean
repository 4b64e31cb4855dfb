import PictureTransfer.Proofs.Legacy.Ledger
import PictureTransfer.Proofs.UsbIp.Handling

/-!
# The exported legacy camera

`Reachable` is what a host that takes all replies can make of an exported legacy camera, whatever
the camera was before. `Steady` is what then always holds: everything that waits, waits on bulk IN,
and a receive is armed for `receiveSize` bytes. It is kept by every small step (`Steady.step`).
-/

namespace PictureTransfer.UsbIp

/-- The address of a transfer to the host has the bit for its direction. -/
theorem Submit.address_ne_of_isIn {urb : Submit} (isIn : urb.isIn = true) :
    urb.address ≠ Endpoint.bulkOut := by
  intro same
  rw [address, if_pos isIn] at same
  have high : 0x80 ≤ ((urb.ep &&& 0x0F).toUInt8 ||| 0x80).toNat := by
    rw [UInt8.toNat_or]
    exact Nat.right_le_or
  rw [same] at high
  exact absurd high (by decide)

theorem Submit.isIn_of_address {urb : Submit} (toHost : urb.address = Endpoint.bulkIn) :
    urb.isIn = true := by
  by_contra toDevice
  rw [address, if_neg toDevice] at toHost
  have low : (urb.ep &&& 0x0F).toUInt8.toNat ≤ 0x0F := by
    rw [UInt32.toNat_toUInt8, UInt32.toNat_and]
    exact Nat.le_trans (Nat.mod_le _ _) Nat.and_le_right
  rw [toHost] at low
  exact absurd low (by decide)

theorem Submit.ep_ne_zero {urb : Submit}
    (bulk : urb.address = Endpoint.bulkOut ∨ urb.address = Endpoint.bulkIn) : urb.ep ≠ 0 := by
  intro zero
  rw [address, zero] at bulk
  split at bulk <;> exact absurd bulk (by decide)

/-- Endpoint queues as the legacy camera keeps them. -/
structure Orderly (bus : Bus.Endpoints) : Prop where
  unstalled : bus.stalled = []
  armed : bus.armed.getD receiveSize = receiveSize
  waiting : ∀ w ∈ bus.waiting, w.1 = Endpoint.bulkIn ∧ w.2.length ≤ transferSize

namespace Orderly

theorem fresh : Orderly {} := ⟨rfl, rfl, List.forall_mem_nil _⟩

theorem disarm {bus : Bus.Endpoints} (h : Orderly bus) : Orderly bus.disarm :=
  ⟨h.unstalled, rfl, h.waiting⟩

/-- The next transfer leaves the queue. -/
theorem pop? {bus rest : Bus.Endpoints} {ep : UInt8} {data : Bytes} (h : Orderly bus)
    (popped : bus.pop? ep = some (data, rest)) : Orderly rest := by
  obtain ⟨first, -, same⟩ := Option.map_eq_some_iff.1 popped
  cases same
  refine ⟨h.unstalled, h.armed, ?_⟩
  intro w hw
  exact h.waiting w (List.mem_of_mem_eraseP hw)

/-- Regular actions keep the queues in order. -/
theorem act {a : Attached Bus.Endpoints Legacy} (h : Orderly a.bus) {x : Action}
    (regular : x.Regular) : Orderly (a.act x).bus := by
  cases regular with
  | plain plain =>
    cases plain with
    | report event => exact h
    | armOut => exact ⟨h.unstalled, rfl, h.waiting⟩
    | submit data fits =>
      show Orderly (Bus.perform (.submitIn Endpoint.bulkIn data) a.bus)
      rw [Bus.perform, Bus.Endpoints.request_submitIn a.bus _ fits]
      refine ⟨h.unstalled, h.armed, List.forall_mem_append.2 ⟨h.waiting, ?_⟩⟩
      intro w hw
      obtain rfl := List.mem_singleton.1 hw
      exact ⟨rfl, fits⟩
  | abortIn =>
    refine ⟨h.unstalled, h.armed, ?_⟩
    intro w hw
    exact h.waiting w (List.mem_of_mem_filter hw)
  | clearStall ep =>
    -- no endpoint is stalled, so that there is nothing to clear
    refine ⟨?_, h.armed, h.waiting⟩
    show a.bus.stalled.filter _ = []
    rw [h.unstalled]
    rfl

theorem foldl_act {a : Attached Bus.Endpoints Legacy} (h : Orderly a.bus) {actions : List Action}
    (regular : ∀ x ∈ actions, x.Regular) : Orderly (actions.foldl Attached.act a).bus := by
  induction actions generalizing a with
  | nil => exact h
  | cons x rest ih =>
    obtain ⟨first, later⟩ := List.forall_mem_cons.1 regular
    exact ih (h.act first) later

theorem step {a : Attached Bus.Endpoints Legacy} (h : Orderly a.bus) (x : Callback) :
    Orderly (a.step x).bus := by
  rw [Attached.step_eq_react]
  have regular := (Legacy.forward_reaction (Bus.view a.bus) x a.responder).regular
  generalize Responder.reaction (Bus.view a.bus) x a.responder = r at regular ⊢
  exact foldl_act (a := { a with responder := r.1 }) h regular

end Orderly

namespace Serving

/-- What always holds of an exported legacy camera whose host takes all replies. -/
structure Steady (s : Serving Legacy) : Prop where
  unlimited : s.limit = none
  known : ∀ address, (s.device.descriptors.endpoint? address).isSome = true ↔
    address = Endpoint.bulkOut ∨ address = Endpoint.bulkIn
  orderly : Orderly s.device.bus
  parked : ∀ p ∈ s.device.parked, p.ep = Endpoint.bulkIn

namespace Steady

theorem step {s t : Serving Legacy} (step : Step s t) (h : Steady s) : Steady t := by
  obtain ⟨unlimited, known, orderly, parked⟩ := h
  cases step with
  | wrote reply => exact ⟨unlimited, known, orderly, parked⟩
  | called x => exact ⟨unlimited, known, orderly.step x, parked⟩
  | disarmed => exact ⟨unlimited, known, orderly.disarm, parked⟩
  | configured configuration => exact ⟨unlimited, known, orderly, parked⟩
  | parked urb isIn listed =>
    refine ⟨unlimited, known, orderly, List.forall_mem_append.2 ⟨parked, ?_⟩⟩
    -- a transfer to the host is for one of the two bulk endpoints, and not for bulk OUT
    intro p hp
    obtain rfl := List.mem_singleton.1 hp
    exact ((known urb.address).1 listed).resolve_left (urb.address_ne_of_isIn isIn)
  | unlinked target =>
    refine ⟨unlimited, known, orderly, ?_⟩
    intro p hp
    exact parked p (mem_of_mem_takeBack hp)
  | taken ep p left data bus unparked popped =>
    refine ⟨unlimited, known, orderly.pop? popped, ?_⟩
    intro q hq
    exact parked q ((Device.perm_of_unpark? unparked).mem_iff.2 (List.mem_cons_of_mem p hq))

theorem steps {s t : Serving Legacy} (steps : Steps s t) (h : Steady s) : Steady t :=
  steps.invariant (fun _ _ => step) h

theorem fresh (responder : Legacy) (identity : Identity) (busId : String) (walk : Walk) :
    Steady { device := .fresh responder (.ofPersonality .legacy identity) busId, walk } where
  unlimited := rfl
  known := by
    intro address
    constructor
    · intro listed
      obtain ⟨endpoint, ends, same⟩ := List.find?_isSome.1 listed
      rw [← of_decide_eq_true same]
      rcases List.mem_cons.1 ends with rfl | last
      · exact .inl rfl
      · obtain rfl := List.mem_singleton.1 last
        exact .inr rfl
    · rintro (rfl | rfl) <;> rfl
  orderly := .fresh
  parked := List.forall_mem_nil _

end Steady

/-- What a host that takes all replies can make of an exported legacy camera, whatever the camera
was before. -/
inductive Reachable (identity : Identity) : Serving Legacy → Prop where
  | fresh (responder : Legacy) (busId : String) (walk : Walk) :
      Reachable identity
        { device := .fresh responder (.ofPersonality .legacy identity) busId, walk }
  | handle {s t : Serving Legacy} (before : Reachable identity s) (urb : Urb)
      (handled : s.handle urb = .ok () t) : Reachable identity t

theorem Reachable.steady {identity : Identity} {s : Serving Legacy} (h : Reachable identity s) :
    s.Steady := by
  induction h with
  | fresh responder busId walk => exact .fresh responder identity busId walk
  | @handle s t before urb handled ih =>
    have steps := steps_handle s urb
    rw [handled] at steps
    exact ih.steps steps

end Serving

end PictureTransfer.UsbIp
