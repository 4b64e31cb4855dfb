import PictureTransfer.Proofs.Callback
import PictureTransfer.Proofs.Forgetting

/-!
# Recovery by a class RESET

`Attached.shown` is what a callback lets the device stack see of a responder: what it asks of the
bus, and its answer to a control request. Between callbacks the stack may do anything to the bus,
which is a `Turn` with the callback behind it. Related responders that are `Responder.Indistinct`
show the same in every turn (`observed_alike`).

An accepted class RESET empties the bulk-IN queue and ends the halts of the bulk endpoints
(`cleared_of_reset`). What it leaves of a camera is related to a fresh camera on the same interface,
so that nothing from before the RESET can show afterwards (`recovers_from_reset`).
-/

namespace PictureTransfer

/-! ## What callbacks show -/

/-- The answer to a control request. -/
def Responder.answer? {σ : Type} [Responder σ] (view : Bus.View) :
    Callback → σ → Option ControlResponse
  | .control setup data, s => some (Responder.control view setup data s).2
  | _, _ => none

/-- What a callback shows of a responder. -/
structure Shown where
  ops : List Bus.Op
  answer : Option ControlResponse
  deriving DecidableEq

/-- A relation between responders that no callback tells apart, whatever the bus looks like. -/
structure Responder.Indistinct {σ : Type} [Responder σ] (R : σ → σ → Prop) : Prop where
  reaction : ∀ (view : Bus.View) (c : Callback) {r q : σ}, R r q →
    Reaction.Alike R (Responder.reaction view c r) (Responder.reaction view c q)
  answer : ∀ (view : Bus.View) (c : Callback) {r q : σ}, R r q →
    Responder.answer? view c r = Responder.answer? view c q

namespace Attached

variable {β σ : Type} [Bus β] [Responder σ]

def shown (a : Attached β σ) (c : Callback) : Shown where
  ops := (a.actions c).filterMap Action.op?
  answer := Responder.answer? (Bus.view a.bus) c a.responder

/-- A responder whose device stack has changed the bus by itself. -/
def after (meanwhile : β → β) (a : Attached β σ) : Attached β σ :=
  { a with bus := meanwhile a.bus }

/-- What some turns show one after another. -/
def observed : List (Turn β) → Attached β σ → List Shown
  | [], _ => []
  | t :: rest, a =>
    (a.after t.meanwhile).shown t.callback
      :: ((a.after t.meanwhile).step t.callback).observed rest

theorem bus_of_shown (a : Attached β σ) (c : Callback) :
    (a.step c).bus = (a.shown c).ops.foldl (fun bus op => Bus.perform op bus) a.bus := bus_step a c

/-- On the same bus, responders that no callback tells apart show the same. -/
theorem observed_alike {R : σ → σ → Prop} (indistinct : Responder.Indistinct R)
    {a b : Attached β σ} (related : R a.responder b.responder) (bus : b.bus = a.bus)
    (turns : List (Turn β)) : a.observed turns = b.observed turns := by
  induction turns generalizing a b with
  | nil => rfl
  | cons t rest ih =>
    have view : (b.after t.meanwhile).bus = (a.after t.meanwhile).bus :=
      congrArg t.meanwhile bus
    have reacts := indistinct.reaction (Bus.view (a.after t.meanwhile).bus) t.callback related
    have same : (a.after t.meanwhile).shown t.callback
        = (b.after t.meanwhile).shown t.callback := by
      rw [shown, shown, actions, actions, view]
      exact congrArg₂ Shown.mk reacts.ops (indistinct.answer _ t.callback related)
    rw [observed, observed, same]
    refine congrArg (_ :: ·) (ih ?_ ?_)
    · rw [responder_step, responder_step, view]
      exact reacts.state
    · rw [bus_of_shown, bus_of_shown, same, view]

end Attached

/-! ## Sessions that no callback tells apart -/

/-- Two sessions on one interface that are open under one id, or both not open. Whether the host has
selected the interface makes no difference to a camera. -/
def Session.Equivalent (a b : Session) : Prop := b.interface = a.interface ∧ b.id = a.id

theorem Session.equivalent_congruence : Congruence Equivalent where
  interface h := h.1
  isOpen h := congrArg Option.isSome h.2
  withId h _ := ⟨h.1, rfl⟩

theorem Legacy.indistinct : Responder.Indistinct (Related Session.Equivalent) where
  reaction view c r q h := by
    cases c with
    | busReset => exact ⟨⟨⟨h.session.1, rfl⟩, rfl⟩, rfl⟩
    | interfaceOpened interface => exact ⟨⟨⟨rfl, h.session.2⟩, h.transaction⟩, rfl⟩
    | control setup data => exact (related_control Session.equivalent_congruence view setup h).1
    | outCompleted data => exact related_outCompleted Session.equivalent_congruence h data
    | inCompleted ep => exact related_inCompleted h ep
  answer view c r q h := by
    cases c with
    | control setup data =>
      exact congrArg some (related_control Session.equivalent_congruence view setup h).2
    | _ => rfl

theorem Standard.indistinct (name : CameraName) :
    Responder.Indistinct (Related name Session.Equivalent) where
  reaction view c r q h := by
    cases c with
    | busReset => exact ⟨⟨h.named, h.same, ⟨h.session.1, rfl⟩, rfl⟩, rfl⟩
    | interfaceOpened interface =>
      exact ⟨⟨h.named, h.same, ⟨rfl, h.session.2⟩, h.transaction⟩, rfl⟩
    | control setup data => exact (related_control Session.equivalent_congruence view setup h).1
    | outCompleted data => exact related_outCompleted Session.equivalent_congruence h data
    | inCompleted ep => exact related_inCompleted h ep
  answer view c r q h := by
    cases c with
    | control setup data =>
      exact congrArg some (related_control Session.equivalent_congruence view setup h).2
    | _ => rfl

/-! ## The RESET itself -/

/-- What a class RESET asks of the bus. -/
def Control.resetOps (view : Bus.View) : List Bus.Op :=
  .abortIn Endpoint.bulkIn
    :: clearIfHalted view Endpoint.bulkOut ++ clearIfHalted view Endpoint.bulkIn

theorem Control.outcome_of_resets {setup : Setup} {interface : UInt8}
    (resets : setup.resets interface = true) (view : Bus.View) :
    outcome view setup interface = { ops := resetOps view, response := .ack, reset := true } := by
  rw [Setup.resets, Bool.and_eq_true, decide_eq_true_eq] at resets
  obtain ⟨own, request⟩ := resets
  have isClass : setup.isClass = true := by
    rw [Bool.and_eq_true, Bool.and_eq_true] at own
    exact own.1.1
  have other : setup.request ≠ getDeviceStatus := by
    rw [request]
    decide
  rw [outcome, Setup.isStandard_of_isClass isClass, Bool.false_and, if_neg Bool.false_ne_true,
    if_pos own, classOutcome, if_neg other, if_pos request]
  rfl

namespace Bus.Endpoints

/-- Nothing waits on bulk IN, and neither bulk endpoint is halted. -/
structure Cleared (bus : Endpoints) : Prop where
  queue : bus.queue Endpoint.bulkIn = []
  bulkOut : (Bus.view bus).halted Endpoint.bulkOut = false
  bulkIn : (Bus.view bus).halted Endpoint.bulkIn = false

/-- Ending a halt if there is one. -/
theorem perform_clearIfHalted (bus : Endpoints) (view : Bus.View) (ep : UInt8)
    (seen : view.halted ep = bus.stalled.contains ep) :
    (Control.clearIfHalted view ep).foldl (fun bus op => Bus.perform op bus) bus
      = { bus with stalled := bus.stalled.filter (· ≠ ep) } := by
  rw [Control.clearIfHalted, seen]
  split
  · rfl
  · next unhalted =>
    -- what is not halted is not among the halted endpoints, and all of them stay
    have kept : bus.stalled.filter (· ≠ ep) = bus.stalled := by
      rw [List.filter_eq_self]
      intro other listed
      rw [decide_eq_true_eq]
      rintro rfl
      exact unhalted (List.contains_iff_mem.2 listed)
    rw [kept]
    rfl

theorem cleared_of_reset (bus : Endpoints) :
    Cleared ((Control.resetOps (Bus.view bus)).foldl (fun bus op => Bus.perform op bus) bus) := by
  have aborted : Bus.perform (.abortIn Endpoint.bulkIn) bus
      = { bus with waiting := bus.waiting.filter (·.1 ≠ Endpoint.bulkIn) } := rfl
  have apart : (bus.stalled.filter (· ≠ Endpoint.bulkOut)).contains Endpoint.bulkIn
      = bus.stalled.contains Endpoint.bulkIn := by
    rw [Bool.eq_iff_iff, List.contains_iff_mem, List.contains_iff_mem, List.mem_filter]
    exact and_iff_left (by decide)
  have first := perform_clearIfHalted
    { bus with waiting := bus.waiting.filter (·.1 ≠ Endpoint.bulkIn) } (Bus.view bus)
    Endpoint.bulkOut rfl
  rw [Control.resetOps, List.cons_append, List.foldl_cons, List.foldl_append, aborted, first,
    perform_clearIfHalted _ _ _ apart.symm]
  refine ⟨?_, ?_, ?_⟩
  · exact bus.queue_abortIn Endpoint.bulkIn
  · show ((bus.stalled.filter _).filter _).contains Endpoint.bulkOut = false
    simp
  · show ((bus.stalled.filter _).filter _).contains Endpoint.bulkIn = false
    simp

end Bus.Endpoints

/-- The bus is cleared, and whatever the device stack does from now on, all that shows is what a
given responder would show on the same bus. -/
structure Attached.RecoversAs {σ : Type} [Responder σ] (a : Attached Bus.Endpoints σ) (fresh : σ) :
    Prop where
  cleared : a.bus.Cleared
  same : ∀ turns, a.observed turns = Attached.observed turns ⟨a.bus, fresh, []⟩

/-- A responder that answers a RESET by clearing the bus, and is then like a fresh one, recovers. -/
theorem Attached.recoversAs_of_control {σ : Type} [Responder σ] {R : σ → σ → Prop}
    (indistinct : Responder.Indistinct R) {a : Attached Bus.Endpoints σ} {setup : Setup}
    {data : Bytes} {cleared fresh : σ}
    (answered : Responder.control (Bus.view a.bus) setup data a.responder
      = ((cleared, (Control.resetOps (Bus.view a.bus)).map Action.request
          ++ [.report (.reset .classRequest)]), .ack))
    (related : R cleared fresh) :
    (a.control setup data).2 = .ack ∧ (a.control setup data).1.RecoversAs fresh := by
  have responder : (a.control setup data).1.responder = cleared := by
    show (a.step (.control setup data)).responder = _
    rw [responder_step]
    exact congrArg (·.1.1) answered
  have ops : (a.shown (.control setup data)).ops = Control.resetOps (Bus.view a.bus) := by
    show (Responder.control (Bus.view a.bus) setup data a.responder).1.2.filterMap _ = _
    rw [answered, List.filterMap_append, List.filterMap_map]
    exact (List.append_nil _).trans List.filterMap_some
  refine ⟨congrArg Prod.snd answered, ?_, ?_⟩
  · show (a.step (.control setup data)).bus.Cleared
    rw [bus_of_shown, ops]
    exact Bus.Endpoints.cleared_of_reset a.bus
  · intro turns
    rw [← responder] at related
    exact observed_alike (b := ⟨_, fresh, []⟩) indistinct related rfl turns

theorem Legacy.control_of_resets {r : Legacy} {setup : Setup}
    (resets : setup.resets r.session.interface = true) (view : Bus.View) :
    r.control view setup = ((r.clear, (Control.resetOps view).map Action.request
      ++ [.report (.reset .classRequest)]), .ack) := by
  rw [control, Control.outcome_of_resets resets]
  rfl

theorem Standard.control_of_resets {r : Standard} {setup : Setup}
    (resets : setup.resets r.session.interface = true) (view : Bus.View) :
    r.control view setup = ((r.clear, (Control.resetOps view).map Action.request
      ++ [.report (.reset .classRequest)]), .ack) := by
  rw [control, Control.outcome_of_resets resets]
  rfl

/-- A camera recovers completely from an accepted class RESET, whatever was under way and whatever
waits on the bus. The RESET is acknowledged, nothing waits on bulk IN any more and neither bulk
endpoint is halted. In every later turn the camera asks the same of the bus and answers control
requests in the same way as a fresh camera on the same interface, of the same name if it is a
standard one, that starts with the bus as the RESET leaves it. -/
theorem recovers_from_reset :
    (∀ (a : Attached Bus.Endpoints Legacy) (setup : Setup) (data : Bytes) (mounted : Bool),
      setup.resets a.responder.session.interface = true →
      (a.control setup data).2 = .ack ∧ (a.control setup data).1.RecoversAs
        { session := { interface := a.responder.session.interface, mounted } }) ∧
    (∀ (a : Attached Bus.Endpoints Standard) (setup : Setup) (data : Bytes) (mounted : Bool),
      setup.resets a.responder.session.interface = true →
      (a.control setup data).2 = .ack ∧ (a.control setup data).1.RecoversAs
        { name := a.responder.name
          session := { interface := a.responder.session.interface, mounted } }) := by
  constructor
  · intro a setup data mounted resets
    apply Attached.recoversAs_of_control Legacy.indistinct
    · exact Legacy.control_of_resets resets _
    · exact ⟨⟨rfl, rfl⟩, rfl⟩
  · intro a setup data mounted resets
    apply Attached.recoversAs_of_control (Standard.indistinct a.responder.name)
    · exact Standard.control_of_resets resets _
    · exact ⟨rfl, rfl, ⟨rfl, rfl⟩, rfl⟩

/-- A class RESET of the first interface. -/
def classReset : Setup := ⟨0x21, Control.reset, 0, 0, 0⟩

/-- A camera in an open session, whose host has halted bulk IN in the middle of a stream. -/
def Legacy.interrupted : Attached Bus.Endpoints Legacy where
  bus := { waiting := [(Endpoint.bulkIn, [0])], stalled := [Endpoint.bulkIn] }
  responder :=
    { session := ⟨0, true, some 1⟩
      transaction := .streaming
        { op := Operation.getStorageIds, tid := 2, payload := [0], respondAfter := true } }

/-- A standard camera with the bus, the session and the transaction of that legacy camera. -/
def Standard.interrupted (name : CameraName) : Attached Bus.Endpoints Standard where
  bus := Legacy.interrupted.bus
  responder :=
    { name
      session := Legacy.interrupted.responder.session
      transaction := Legacy.interrupted.responder.transaction }

/-- Both cameras recover from the interruption as cameras that nothing has happened to. -/
theorem recovers_from_interruption :
    classReset.resets 0 = true ∧
      (Legacy.interrupted.control classReset []).1.RecoversAs {} ∧
      ((Standard.interrupted ⟨"", "", ""⟩).control classReset []).1.RecoversAs
        { name := ⟨"", "", ""⟩ } := by
  have resets : classReset.resets 0 = true := by decide
  refine ⟨resets, ?_, ?_⟩
  · exact (recovers_from_reset.1 Legacy.interrupted classReset [] false resets).2
  · exact (recovers_from_reset.2 (Standard.interrupted _) classReset [] false resets).2

end PictureTransfer
