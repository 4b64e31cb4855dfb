import PictureTransfer.Bus.Endpoints
import PictureTransfer.Bus.Recorder
import PictureTransfer.Responder
import Mathlib.Data.List.Basic

/-!
# Runs of callbacks

A device stack drives a responder by callbacks, in any order and number. `Callback` is one of them
with what it brings, `Attached.step` carries it out and `Attached.run` carries out a list of them.
`Attached.submissions` lists the IN transfers that a run hands to its bus, each with the bus's
verdict.

A bus that is `Bus.Accepting` never refuses a transfer that is not too long. On it the submissions
of regular actions are the transfers among them, all taken (`submissions_of_regular`).
-/

namespace PictureTransfer

theorem filterMap_cons_eq_append {α γ : Type} (f : α → Option γ) (x : α) (rest : List α) :
    (x :: rest).filterMap f = (f x).toList ++ rest.filterMap f := by
  rw [List.filterMap_eq_flatMap_toList, List.flatMap_cons, ← List.filterMap_eq_flatMap_toList]

/-- A callback of a device stack, with what it brings. -/
inductive Callback where
  | busReset
  | interfaceOpened (interface : UInt8)
  | control (setup : Setup) (data : Bytes)
  | outCompleted (data : Bytes)
  | inCompleted (ep : UInt8)
  deriving DecidableEq, Repr

/-- A change that the responder has no part in, of its bus or of what is behind it, and the callback
that follows. -/
structure Turn (α : Type) where
  meanwhile : α → α
  callback : Callback

/-- What a responder does at a callback, on a bus that looks like `view`. -/
def Responder.reaction {σ : Type} [Responder σ] (view : Bus.View) : Callback → σ → Reaction σ
  | .busReset, s => ((Responder.busReset s).1, (Responder.busReset s).2.map Action.report)
  | .interfaceOpened interface, s => Responder.interfaceOpened view interface s
  | .control setup data, s => (Responder.control view setup data s).1
  | .outCompleted data, s => Responder.outCompleted view data s
  | .inCompleted ep, s => Responder.inCompleted view ep s

/-! ## What callbacks mean -/

/-- A class RESET that is accepted by a responder that owns the given interface. -/
def Setup.resets (interface : UInt8) (s : Setup) : Bool :=
  s.isClass && s.toInterface && s.target = interface && s.request = Control.reset

/-- A class request and a standard one are told apart by the same two bits. -/
theorem Setup.isStandard_of_isClass {s : Setup} (h : s.isClass = true) : s.isStandard = false := by
  simp only [isClass, isStandard, decide_eq_true_eq] at h ⊢
  rw [h]
  decide

theorem Control.reset_classOutcome (view : Bus.View) (setup : Setup) :
    (classOutcome view setup).reset = decide (setup.request = reset) := by
  simp only [classOutcome]
  by_cases status : setup.request = getDeviceStatus
  · rw [if_pos status, status]
    rfl
  · rw [if_neg status]
    by_cases reset : setup.request = Control.reset
    · simp [reset]
    · rw [if_neg reset]
      split <;> simp [reset]

/-- The responder is asked to forget what was under way exactly by an accepted class RESET. -/
theorem Control.reset_outcome (view : Bus.View) (setup : Setup) (interface : UInt8) :
    (outcome view setup interface).reset = setup.resets interface := by
  simp only [outcome, Setup.resets]
  split
  -- a standard request for an endpoint is no class request
  · next endpoint =>
    have notClass : setup.isClass = false := by
      by_contra isClass
      rw [Bool.not_eq_false] at isClass
      rw [Setup.isStandard_of_isClass isClass] at endpoint
      cases endpoint
    rw [notClass]
    split <;> rfl
  · split
    · next own =>
      rw [own, reset_classOutcome, Bool.true_and]
    · next foreign =>
      rw [Bool.not_eq_true] at foreign
      rw [foreign, Bool.false_and]

/-- What a control request does to the bus while it resets nothing is at most the end of a halt. -/
theorem Control.ops_outcome {view : Bus.View} {setup : Setup} {interface : UInt8} {op : Bus.Op}
    (h : op ∈ (Control.outcome view setup interface).ops) :
    op = .abortIn Endpoint.bulkIn ∨ ∃ ep, op = .clearStall ep := by
  have clear : ∀ {ep : UInt8}, op ∈ Control.clearIfHalted view ep → ∃ ep, op = .clearStall ep := by
    intro ep h
    simp only [Control.clearIfHalted] at h
    split at h
    · exact ⟨ep, List.mem_singleton.1 h⟩
    · cases h
  simp only [Control.outcome] at h
  split at h
  · split at h
    · exact .inr (clear h)
    · cases h
  · split at h
    · simp only [Control.classOutcome] at h
      split at h
      · cases h
      · split at h
        · rcases List.mem_cons.1 h with rfl | h
          · exact .inl rfl
          · rcases List.mem_append.1 h with h | h <;> exact .inr (clear h)
        · split at h <;> cases h
    · cases h

/-- Only a control request that resets the responder aborts anything. -/
theorem Control.reset_of_abortIn {view : Bus.View} {setup : Setup} {interface ep : UInt8}
    (h : .abortIn ep ∈ (Control.outcome view setup interface).ops) :
    (Control.outcome view setup interface).reset = true := by
  have clear : ∀ target : UInt8, .abortIn ep ∉ Control.clearIfHalted view target := by
    intro target
    rw [Control.clearIfHalted]
    split <;> simp
  rw [Control.outcome] at h ⊢
  split at h
  · split at h
    · exact absurd h (clear _)
    · cases h
  · next other =>
    rw [if_neg other]
    split at h
    · next own =>
      rw [if_pos own, reset_classOutcome]
      rw [Control.classOutcome] at h
      split at h
      · cases h
      · split at h
        · next reset => exact decide_eq_true reset
        · split at h <;> cases h
    · cases h

namespace Callback

/-- Whether a callback resets a responder that owns the given interface: the bus was reset, or a
class RESET is accepted. -/
def resets (interface : UInt8) : Callback → Bool
  | .busReset => true
  | .control setup _ => setup.resets interface
  | _ => false

/-- The interface that is in use after a callback. -/
def selects (interface : UInt8) : Callback → UInt8
  | .interfaceOpened opened => opened
  | _ => interface

/-- The interface in use after some callbacks: the one opened last, zero before the first. -/
def lastInterface (callbacks : List Callback) : UInt8 := callbacks.foldl selects 0

theorem lastInterface_concat (before : List Callback) (x : Callback) :
    lastInterface (before ++ [x]) = x.selects (lastInterface before) := by
  rw [lastInterface, List.foldl_append]
  rfl

/-- How many bulk-IN transfers are collected. -/
def collected (callbacks : List Callback) : Nat :=
  callbacks.countP (· = .inCompleted Endpoint.bulkIn)

theorem collected_cons (x : Callback) (rest : List Callback) :
    collected (x :: rest) = collected [x] + collected rest := by
  simp [collected, List.countP_cons, Nat.add_comm]

end Callback

/-- An IN transfer that was handed to a bus, and whether the bus took it. -/
structure Submission where
  ep : UInt8
  data : Bytes
  taken : Bool
  deriving DecidableEq, Repr

/-- The submission of a bulk-IN transfer that was taken. -/
def Submission.bulkIn (data : Bytes) : Submission := ⟨Endpoint.bulkIn, data, true⟩

/-! ## Buses -/

namespace Bus

variable {β : Type} [Bus β]

/-- What becomes of an operation that hands over an IN transfer. -/
def submission? (bus : β) : Op → Option Submission
  | .submitIn ep data => some ⟨ep, data, (request (.submitIn ep data) bus).toBool⟩
  | _ => none

/-- A bus that takes a transfer on bulk IN, whatever it has been asked for before. -/
def Takes (bus : β) (data : Bytes) : Prop :=
  ∀ ops : List Op, (request (.submitIn Endpoint.bulkIn data)
    (ops.foldl (fun bus op => perform op bus) bus)).toBool

theorem Takes.perform {bus : β} {data : Bytes} (h : Takes bus data) (op : Op) :
    Takes (Bus.perform op bus) data := by
  -- what came before is one operation longer
  intro ops
  exact h (op :: ops)

/-- A bus that takes every IN transfer that is not too long, whatever it has been asked for
before. -/
def Accepting (bus : β) : Prop :=
  ∀ (ops : List Op) (ep : UInt8) (data : Bytes), data.length ≤ transferSize →
    (request (.submitIn ep data) (ops.foldl (fun bus op => perform op bus) bus)).toBool

theorem Accepting.perform {bus : β} (h : Accepting bus) (op : Op) :
    Accepting (Bus.perform op bus) := by
  intro ops ep data fits
  exact h (op :: ops) ep data fits

theorem Accepting.takes {bus : β} (h : Accepting bus) {data : Bytes}
    (fits : data.length ≤ transferSize) : Takes bus data := by
  intro ops
  exact h ops Endpoint.bulkIn data fits

theorem Endpoints.request_submitIn (bus : Endpoints) (ep : UInt8) {data : Bytes}
    (fits : data.length ≤ transferSize) :
    Bus.request (.submitIn ep data) bus
      = .ok { bus with waiting := bus.waiting ++ [(ep, data)] } := if_neg (Nat.not_lt.2 fits)

/-- An abort empties the queue of its endpoint. -/
theorem Endpoints.queue_abortIn (bus : Endpoints) (ep : UInt8) :
    (Bus.perform (.abortIn ep) bus).queue ep = [] := by
  show ((bus.waiting.filter (·.1 ≠ ep)).filter (·.1 = ep)).map Prod.snd = []
  simp [List.filter_filter]

/-- An abort keeps what waits elsewhere. -/
theorem Endpoints.queue_abortIn_of_ne (bus : Endpoints) {target ep : UInt8} (apart : target ≠ ep) :
    (Bus.perform (.abortIn target) bus).queue ep = bus.queue ep := by
  show ((bus.waiting.filter (·.1 ≠ target)).filter (·.1 = ep)).map Prod.snd = _
  rw [List.filter_filter]
  refine congrArg (List.map Prod.snd) (List.filter_congr fun w _ => ?_)
  by_cases here : w.1 = ep
  · simp [here, apart.symm]
  · simp [here]

/-- Endpoint queues take every transfer that the device can send at once. -/
theorem Endpoints.accepting (bus : Endpoints) : Accepting bus := by
  intro ops ep data fits
  rw [request_submitIn _ ep fits]
  rfl

theorem Recorder.connected_perform (op : Op) (bus : Recorder) :
    (perform op bus).connected = bus.connected := by
  obtain ⟨ops, stalled, connected⟩ := bus
  cases op with
  | armOut ep size => cases connected <;> rfl
  | submitIn ep data => cases connected <;> rfl
  | abortIn ep => rfl
  | clearStall ep => rfl

/-- A bus that writes down takes everything while its host is there. -/
theorem Recorder.takes {bus : Recorder} (there : bus.connected = true) (ep : UInt8) (data : Bytes)
    (ops : List Op) :
    (Bus.request (.submitIn ep data) (ops.foldl (fun bus op => perform op bus) bus)).toBool := by
  have stays : (ops.foldl (fun bus op => perform op bus) bus).connected = true := by
    refine List.foldlRecOn (motive := fun b : Recorder => b.connected = true) ops _ there ?_
    exact fun bus stays op _ => (connected_perform op bus).trans stays
  show (Recorder.request (.submitIn ep data) _).toBool = true
  rw [Recorder.request, stays]
  rfl

end Bus

/-! ## Actions -/

namespace Action

/-- The actions that take nothing back: at most `transferSize` bytes are sent, on bulk IN and
nowhere else, and a receive is armed for `receiveSize` bytes on bulk OUT. -/
inductive Plain : Action → Prop where
  | report (event : Event) : Plain (.report event)
  | armOut : Plain armOut
  | submit (data : Bytes) (fits : data.length ≤ transferSize) : Plain (submit data)

/-- The actions that keep the bus in order: plain ones, and beside them only bulk IN is aborted and
a halt is ended. -/
inductive Regular : Action → Prop where
  | plain {x : Action} (plain : x.Plain) : Regular x
  | abortIn : Regular (.request (.abortIn Endpoint.bulkIn))
  | clearStall (ep : UInt8) : Regular (.request (.clearStall ep))

/-- Plain actions abort nothing. -/
theorem abortIn_not_mem_of_plain {actions : List Action} (plain : ∀ x ∈ actions, x.Plain)
    {ep : UInt8} : .request (.abortIn ep) ∉ actions := by
  intro listed
  cases plain _ listed

/-- A control request that resets nothing aborts nothing. -/
theorem abortIn_not_mem_control {view : Bus.View} {setup : Setup} {interface ep : UInt8}
    (kept : setup.resets interface = false) :
    .request (.abortIn ep) ∉ (Control.outcome view setup interface).ops.map Action.request := by
  intro listed
  obtain ⟨op, asked, same⟩ := List.mem_map.1 listed
  cases same
  have resets := Control.reset_of_abortIn asked
  rw [Control.reset_outcome, kept] at resets
  cases resets

/-- Regular actions that send nothing. -/
def Silent (actions : List Action) : Prop := ∀ x ∈ actions, x.Regular ∧ x.transfer? = none

theorem Silent.transfers {actions : List Action} (h : Silent actions) :
    actions.filterMap transfer? = [] := List.filterMap_eq_nil_iff.2 fun x listed => (h x listed).2

/-- Aborts on bulk IN and the end of a halt send nothing. -/
theorem silent_requests {ops : List Bus.Op}
    (h : ∀ op ∈ ops, op = .abortIn Endpoint.bulkIn ∨ ∃ ep, op = .clearStall ep) :
    Silent (ops.map Action.request) := by
  intro x hx
  obtain ⟨op, listed, rfl⟩ := List.mem_map.1 hx
  rcases h op listed with rfl | ⟨ep, rfl⟩
  · exact ⟨.abortIn, rfl⟩
  · exact ⟨.clearStall ep, rfl⟩

/-- What a control request does to the bus sends nothing. -/
theorem silent_control (view : Bus.View) (setup : Setup) (interface : UInt8) :
    Silent ((Control.outcome view setup interface).ops.map Action.request) :=
  silent_requests fun _ => Control.ops_outcome

/-- Regular actions that take nothing back once something has been sent. -/
def Forward (actions : List Action) : Prop :=
  ∃ front back, actions = front ++ back ∧ Silent front ∧ ∀ x ∈ back, x.Plain

theorem forward_of_plain {actions : List Action} (h : ∀ x ∈ actions, x.Plain) :
    Forward actions := ⟨[], actions, rfl, List.forall_mem_nil _, h⟩

theorem forward_of_silent {actions : List Action} (h : Silent actions) : Forward actions :=
  ⟨actions, [], (List.append_nil _).symm, h, List.forall_mem_nil _⟩

theorem Forward.after {actions first : List Action} (h : Forward actions) (silent : Silent first) :
    Forward (first ++ actions) := by
  obtain ⟨front, back, rfl, still, plain⟩ := h
  refine ⟨first ++ front, back, (List.append_assoc _ _ _).symm, ?_, plain⟩
  exact List.forall_mem_append.2 ⟨silent, still⟩

theorem Forward.before {actions last : List Action} (h : Forward actions)
    (plain : ∀ x ∈ last, x.Plain) : Forward (actions ++ last) := by
  obtain ⟨front, back, rfl, still, forward⟩ := h
  refine ⟨front, back ++ last, List.append_assoc _ _ _, still, ?_⟩
  exact List.forall_mem_append.2 ⟨forward, plain⟩

theorem Forward.regular {actions : List Action} (h : Forward actions) :
    ∀ x ∈ actions, x.Regular := by
  obtain ⟨front, back, rfl, still, plain⟩ := h
  intro x hx
  rcases List.mem_append.1 hx with first | later
  · exact (still x first).1
  · exact .plain (plain x later)

end Action

/-! ## Runs -/

namespace Attached

variable {β σ : Type} [Bus β]

/-- The IN transfers among some actions, as the bus takes or refuses them one after another. -/
def submissionsOf : List Action → Attached β σ → List Submission
  | [], _ => []
  | x :: rest, a => (x.op?.bind (Bus.submission? a.bus)).toList ++ submissionsOf rest (a.act x)

/-- What every operation preserves of a bus is preserved by every action. -/
theorem invariant_act {P : β → Prop} (preserves : ∀ op bus, P bus → P (Bus.perform op bus))
    {a : Attached β σ} (h : P a.bus) (x : Action) : P (a.act x).bus := by
  cases x with
  | request op => exact preserves op a.bus h
  | report event => exact h

/-- Transfers that the bus takes on bulk IN are submitted there one after another. -/
theorem submissions_of_taken {a : Attached β σ} {actions : List Action}
    (taken : ∀ x ∈ actions, ∀ data ∈ x.transfer?, x = .submit data ∧ Bus.Takes a.bus data) :
    a.submissionsOf actions = (actions.filterMap Action.transfer?).map Submission.bulkIn := by
  induction actions generalizing a with
  | nil => rfl
  | cons x rest ih =>
    obtain ⟨head, later⟩ := List.forall_mem_cons.1 taken
    have further := ih (a := a.act x) fun y listed data carried =>
      ⟨(later y listed data carried).1,
        invariant_act (P := fun bus => Bus.Takes bus data) (fun op _ takes => takes.perform op)
          (later y listed data carried).2 x⟩
    rw [submissionsOf, further, List.filterMap_cons]
    cases carried : x.transfer? with
    | none =>
      -- what carries no transfer hands over nothing
      have nothing : x.op?.bind (Bus.submission? a.bus) = none := by
        cases x with
        | report event => rfl
        | request op => cases op <;> first | rfl | cases carried
      rw [nothing]
      rfl
    | some data =>
      obtain ⟨rfl, takes⟩ := head data carried
      have one : Bus.submission? a.bus (.submitIn Endpoint.bulkIn data)
          = some (Submission.bulkIn data) :=
        congrArg (fun taken => some (Submission.mk Endpoint.bulkIn data taken)) (takes [])
      show (Bus.submission? a.bus (.submitIn Endpoint.bulkIn data)).toList ++ _ = _
      rw [one]
      rfl

/-- On an accepting bus the transfers of regular actions are all taken. -/
theorem submissions_of_regular {a : Attached β σ} (h : Bus.Accepting a.bus) {actions : List Action}
    (regular : ∀ x ∈ actions, x.Regular) :
    a.submissionsOf actions = (actions.filterMap Action.transfer?).map Submission.bulkIn := by
  apply submissions_of_taken
  intro x listed data carried
  cases regular x listed with
  | plain plain =>
    cases plain with
    | submit sent fits =>
      obtain rfl := Option.some.inj carried
      exact ⟨rfl, h.takes fits⟩
    | report event => cases carried
    | armOut => cases carried
  | abortIn => cases carried
  | clearStall ep => cases carried

/-- Whatever a bus makes of them, the transfers of regular actions are handed to it on bulk IN, one
after another. -/
theorem handed_of_regular {a : Attached β σ} {actions : List Action}
    (regular : ∀ x ∈ actions, x.Regular) :
    (a.submissionsOf actions).map (fun s => (s.ep, s.data))
      = (actions.filterMap Action.transfer?).map (Endpoint.bulkIn, ·) := by
  induction actions generalizing a with
  | nil => rfl
  | cons x rest ih =>
    obtain ⟨first, later⟩ := List.forall_mem_cons.1 regular
    rw [submissionsOf, List.map_append, ih later, filterMap_cons_eq_append, List.map_append]
    refine congrArg (· ++ _) ?_
    cases first with
    | plain plain => cases plain <;> rfl
    | abortIn => rfl
    | clearStall ep => rfl

/-- The responder after some actions is the one it had before them. -/
@[simp] theorem responder_foldl_act (a : Attached β σ) (actions : List Action) :
    (actions.foldl act a).responder = a.responder := by
  induction actions generalizing a with
  | nil => rfl
  | cons x rest ih =>
    rw [List.foldl_cons, ih]
    cases x <;> rfl

/-- Only the operations among some actions change the bus. -/
theorem bus_foldl_act (a : Attached β σ) (actions : List Action) :
    (actions.foldl act a).bus
      = (actions.filterMap Action.op?).foldl (fun bus op => Bus.perform op bus) a.bus := by
  induction actions generalizing a with
  | nil => rfl
  | cons x rest ih =>
    rw [List.foldl_cons, ih]
    cases x <;> rfl

/-- Actions report their events, in order, behind those that were reported before. -/
theorem events_foldl_act (a : Attached β σ) (actions : List Action) :
    (actions.foldl act a).events = a.events ++ actions.filterMap Action.event? := by
  induction actions generalizing a with
  | nil => simp
  | cons x rest ih =>
    rw [List.foldl_cons, ih]
    cases x with
    | request op => simp [act, Action.event?, List.filterMap_cons]
    | report event => simp [act, Action.event?]

variable [Responder σ]

/-- A callback happens. -/
def step (a : Attached β σ) : Callback → Attached β σ
  | .busReset => a.busReset
  | .interfaceOpened interface => a.interfaceOpened interface
  | .control setup data => (a.control setup data).1
  | .outCompleted data => a.outCompleted data
  | .inCompleted ep => a.inCompleted ep

/-- Callbacks happen one after another. -/
def run (callbacks : List Callback) (a : Attached β σ) : Attached β σ := callbacks.foldl step a

/-- What the responder does at the next callback. -/
def actions (a : Attached β σ) (c : Callback) : List Action :=
  (Responder.reaction (Bus.view a.bus) c a.responder).2

/-- The IN transfers that are handed to the bus while some callbacks happen. -/
def submissions : List Callback → Attached β σ → List Submission
  | [], _ => []
  | c :: rest, a => a.submissionsOf (a.actions c) ++ submissions rest (a.step c)

/-- The IN transfers that are handed to the bus while some callbacks happen, each with its endpoint,
whether or not the bus takes them. -/
def handed (callbacks : List Callback) (a : Attached β σ) : List (UInt8 × Bytes) :=
  (a.submissions callbacks).map fun s => (s.ep, s.data)

/-- Every callback amounts to the responder's reaction to it. -/
theorem step_eq_react (a : Attached β σ) (c : Callback) :
    a.step c = a.react (Responder.reaction (Bus.view a.bus) c a.responder) := by
  cases c with
  | busReset =>
    -- a bus reset acts on no bus, so that its actions are reports and nothing else
    have reported : ∀ (events : List Event) (b : Attached β σ),
        (events.map Action.report).foldl act b = { b with events := b.events ++ events } := by
      intro events
      induction events with
      | nil => intro b; simp
      | cons e rest ih => intro b; simp [ih, act]
    simp only [step, busReset, react, Responder.reaction, reported]
  | interfaceOpened interface => rfl
  | control setup data => rfl
  | outCompleted data => rfl
  | inCompleted ep => rfl

@[simp] theorem responder_step (a : Attached β σ) (c : Callback) :
    (a.step c).responder = (Responder.reaction (Bus.view a.bus) c a.responder).1 := by
  rw [step_eq_react, react, responder_foldl_act]

/-- The bus after a callback depends on the operations that the responder asks for in it. -/
theorem bus_step (a : Attached β σ) (c : Callback) :
    (a.step c).bus
      = ((a.actions c).filterMap Action.op?).foldl (fun bus op => Bus.perform op bus) a.bus := by
  rw [step_eq_react, react, bus_foldl_act]
  rfl

theorem events_step (a : Attached β σ) (c : Callback) :
    (a.step c).events = a.events ++ (a.actions c).filterMap Action.event? := by
  rw [step_eq_react, react, events_foldl_act]
  rfl

/-- What every operation preserves of a bus is preserved by every callback. -/
theorem invariant_step {P : β → Prop} (preserves : ∀ op bus, P bus → P (Bus.perform op bus))
    {a : Attached β σ} (h : P a.bus) (c : Callback) : P (a.step c).bus := by
  rw [bus_step]
  exact List.foldlRecOn _ _ h fun bus held op _ => preserves op bus held

theorem accepting_step {a : Attached β σ} (h : Bus.Accepting a.bus) (c : Callback) :
    Bus.Accepting (a.step c).bus := invariant_step (fun op _ accepting => accepting.perform op) h c

theorem takes_step {a : Attached β σ} {data : Bytes} (h : Bus.Takes a.bus data) (c : Callback) :
    Bus.Takes (a.step c).bus data :=
  invariant_step (P := fun bus => Bus.Takes bus data) (fun op _ takes => takes.perform op) h c

theorem run_append (before after : List Callback) (a : Attached β σ) :
    a.run (before ++ after) = (a.run before).run after := List.foldl_append

@[simp] theorem run_nil (a : Attached β σ) : a.run [] = a := rfl

@[simp] theorem run_cons (c : Callback) (rest : List Callback) (a : Attached β σ) :
    a.run (c :: rest) = (a.step c).run rest := rfl

theorem accepting_run {a : Attached β σ} (h : Bus.Accepting a.bus) (callbacks : List Callback) :
    Bus.Accepting (a.run callbacks).bus := by
  induction callbacks generalizing a with
  | nil => exact h
  | cons c rest ih => exact ih (accepting_step h c)

end Attached

end PictureTransfer
