import PictureTransfer.Proofs.Callback
import PictureTransfer.UsbIp.Device
import Mathlib.Logic.Relation

/-!
# What serving a host consists of

`Step` is one small step of serving: a reply is written, a callback happens, a transfer is parked or
taken back, a parked transfer and a waiting one leave together, a configuration is selected.
Whatever the host asks for is done by such steps (`steps_handle`), so that what every step preserves
holds of all that a host can bring about (`Steps.invariant`).
-/

namespace PictureTransfer.UsbIp.Serving

variable {σ : Type}

/-- The state that an outcome leaves. -/
def Outcome.state : Outcome σ → Serving σ
  | .ok _ t => t
  | .error _ t => t

theorem state_write (s : Serving σ) (reply : Reply) :
    Outcome.state (s.write reply) = { s with replies := s.replies ++ [reply] } := by
  rw [write]
  dsimp only
  split
  · rfl
  · split <;> rfl

/-- An unlink parks nothing. -/
theorem mem_of_mem_takeBack {s : Serving σ} {target : UInt32} {p : Parked}
    (h : p ∈ (s.takeBack target).device.parked) : p ∈ s.device.parked :=
  List.mem_of_mem_eraseP h

/-- A small step of serving. -/
inductive Step [Responder σ] : Serving σ → Serving σ → Prop where
  | wrote (s : Serving σ) (reply : Reply) : Step s { s with replies := s.replies ++ [reply] }
  | called (s : Serving σ) (x : Callback) : Step s (s.withAttached (s.device.attached.step x))
  | disarmed (s : Serving σ) :
      Step s (s.withAttached { s.device.attached with bus := s.device.bus.disarm })
  | configured (s : Serving σ) (configuration : UInt8) :
      Step s { s with device := { s.device with configuration } }
  | parked (s : Serving σ) (urb : Submit) (isIn : urb.isIn = true)
      (known : (s.device.descriptors.endpoint? urb.address).isSome = true) :
      Step s { s with device :=
        { s.device with parked := s.device.parked ++ [⟨urb.address, urb.seqnum, urb.length⟩] } }
  | unlinked (s : Serving σ) (target : UInt32) : Step s (s.takeBack target)
  | taken (s : Serving σ) (ep : UInt8) (p : Parked) (left : List Parked) (data : Bytes)
      (bus : Bus.Endpoints) (unparked : Device.unpark? ep s.device.parked = some (p, left))
      (popped : s.device.bus.pop? ep = some (data, bus)) :
      Step s { s with device :=
        { s.device with parked := left, attached := { s.device.attached with bus } } }

variable [Responder σ]

/-- Some steps, one after another. -/
abbrev Steps : Serving σ → Serving σ → Prop := Relation.ReflTransGen Step

/-- What every step preserves is preserved. -/
theorem Steps.invariant {P : Serving σ → Prop} (preserves : ∀ s t, Step s t → P s → P t)
    {s t : Serving σ} (steps : Steps s t) (h : P s) : P t := by
  induction steps with
  | refl => exact h
  | tail _ step ih => exact preserves _ _ step ih

/-- Whatever becomes of a reply, it is one step further. -/
theorem steps_write {s t : Serving σ} {reply : Reply} {r : Outcome σ} (before : Steps s t)
    (wrote : t.write reply = r) : Steps s r.state := by
  rw [← wrote, state_write]
  exact before.tail (.wrote t reply)

/-- A match is made by steps. -/
theorem steps_flush (s : Serving σ) : Steps s (Outcome.state s.flush) := by
  -- a match takes the transfer out, writes the reply and lets the completion happen, in this order
  fun_induction flush s with
  | case1 s nothing => exact .refl
  | case2 s ep ready p left data bus unparked popped carried taken e t wrote =>
    have leaves : Steps s taken := .single (.taken s ep p left data bus unparked popped)
    exact steps_write leaves wrote
  | case3 s ep ready p left data bus unparked popped carried taken t wrote fewer ih =>
    have leaves : Steps s taken := .single (.taken s ep p left data bus unparked popped)
    have written : Steps s t := steps_write leaves wrote
    exact (written.tail (.called t (.inCompleted ep))).trans ih
  | case4 s ep ready unmatched => exact .refl

/-- A piece of data uses up the armed receive and is handed to the responder. -/
def handOver (s : Serving σ) (piece : Bytes) : Serving σ :=
  s.withAttached
    (({ s.device.attached with bus := s.device.bus.disarm } : Attached _ σ).outCompleted piece)

theorem steps_handOver {s : Serving σ} {piece : Bytes} {r : Outcome σ}
    (flushed : (s.handOver piece).flush = r) : Steps s r.state := by
  rw [← flushed]
  exact .head (.disarmed s) (.head (.called _ (.outCompleted piece)) (steps_flush _))

theorem steps_receive (s : Serving σ) (data : Bytes) :
    Steps s (Outcome.state (s.receive data)) := by
  fun_induction receive data s with
  | case1 data s bus size attached e t flushed => exact steps_handOver flushed
  | case2 data s bus size attached t flushed last => exact steps_handOver flushed
  | case3 data s bus size attached t flushed more ih => exact (steps_handOver flushed).trans ih

theorem steps_standardRequest (setup : Setup) (s : Serving σ) :
    Steps s { s with device := (standardRequest setup s.device).2 } := by
  rw [standardRequest]
  dsimp only
  split
  · split <;> exact .refl
  · -- SET_CONFIGURATION opens the interface when it selects one
    have selected := Step.configured s setup.value.toUInt8
    split
    · exact .head selected (.single (.called _ (.interfaceOpened 0)))
    · exact .single selected
  · exact .refl
  · exact .refl
  · exact .refl
  · exact .refl
  · exact .refl
  · exact .refl

theorem steps_control (urb : Submit) (s : Serving σ) :
    Steps s (Outcome.state (s.control urb)) := by
  have own := steps_standardRequest (Setup.ofBytes urb.setup) s
  have called := Step.called s (.control (Setup.ofBytes urb.setup) urb.data)
  rw [control]
  dsimp only
  -- the device serves what is standard and not for an endpoint, the responder all else
  by_cases standard : ((Setup.ofBytes urb.setup).isStandard &&
      !(Setup.ofBytes urb.setup).toEndpoint) = true
  · rw [if_pos standard]
    split
    · next e t wrote => exact steps_write own wrote
    · next t wrote =>
      have written : Steps s t := steps_write own wrote
      exact written.trans (steps_flush t)
  · rw [if_neg standard]
    split
    · next e t wrote => exact steps_write (.single called) wrote
    · next t wrote =>
      have written : Steps s t := steps_write (.single called) wrote
      exact written.trans (steps_flush t)

theorem steps_submit (urb : Submit) (s : Serving σ) :
    Steps s (Outcome.state (s.submit urb)) := by
  rw [submit]
  split
  · exact steps_control urb s
  · dsimp only
    split
    · exact steps_write .refl rfl
    · next usable =>
      split
      · next isIn =>
        have known : (s.device.descriptors.endpoint? urb.address).isSome = true := by
          rw [not_or, Bool.not_eq_true, Option.isNone_eq_false_iff] at usable
          exact usable.1
        exact .head (.parked s urb isIn known) (steps_flush _)
      · have received := steps_receive s urb.data
        split
        · next e t failed =>
          rw [failed] at received
          exact received
        · next t done =>
          rw [done] at received
          split
          · next e u wrote => exact steps_write received wrote
          · next u wrote =>
            have written : Steps s u := steps_write received wrote
            exact written.trans (steps_flush u)

/-- All that a host asks for is done by small steps, also when it fails. -/
theorem steps_handle (s : Serving σ) (urb : Urb) : Steps s (Outcome.state (s.handle urb)) := by
  cases urb with
  | submit urb => exact steps_submit urb s
  | unlink seqnum target => exact steps_write (.single (.unlinked s target)) rfl

theorem steps_handleAll (s : Serving σ) (source : Source) : Steps s (s.handleAll source).2 := by
  fun_induction handleAll source s with
  | case1 source s e rest read => exact .refl
  | case2 source s urb rest read shorter e t failed =>
    have handled := steps_handle s urb
    rw [failed] at handled
    exact handled
  | case3 source s urb rest read shorter t done ih =>
    have handled := steps_handle s urb
    rw [done] at handled
    exact handled.trans ih

/-- Nothing that a host asks for changes what the device says about itself. -/
theorem Steps.identity {s t : Serving σ} (steps : Steps s t) :
    t.device.descriptors = s.device.descriptors ∧ t.device.exported = s.device.exported := by
  apply steps.invariant (P := fun u => u.device.descriptors = s.device.descriptors ∧
    u.device.exported = s.device.exported)
  · intro u v step same
    cases step <;> exact same
  · exact ⟨rfl, rfl⟩

/-- No step changes the order in which endpoints are searched for a request. -/
theorem Steps.walk {s t : Serving σ} (steps : Steps s t) : t.walk = s.walk := by
  refine steps.invariant (P := fun u => u.walk = s.walk) ?_ rfl
  intro u v step same
  cases step <;> exact same

end PictureTransfer.UsbIp.Serving
