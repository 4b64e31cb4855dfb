import PictureTransfer.Proofs.Callback
import PictureTransfer.Responder.Selected

/-!
# Callbacks that arm a receive

Data that comes in uses up the armed receive, and the responder has to arm the next one. Every
personality does so in the same two callbacks, when its interface is opened and when data comes in,
whatever becomes of the data: it arms one receive for `receiveSize` bytes, and asks nothing of the
bus after that (`Selected.rearms`). In all other callbacks it arms nothing.

Nothing changes in this where the relay comes and goes while the host says nothing: a responder that
is `Restless` finds its link changed at every callback (`Restless.rearms`). A responder that is
`Noted` does what another one does and notes what comes in.
-/

namespace PictureTransfer

/-! ## Callbacks that arm -/

/-- Whether an action arms a receive. -/
def Action.arms : Action → Bool
  | .request (.armOut _ _) => true
  | _ => false

/-- The callbacks in which a responder has to arm a receive. -/
def Callback.arms : Callback → Bool
  | .interfaceOpened _ => true
  | .outCompleted _ => true
  | _ => false

/-- The data that comes in at a callback. -/
def Callback.incoming? : Callback → Option Bytes
  | .outCompleted data => some data
  | _ => none

namespace Action

/-- Actions that arm nothing. -/
def Unarming (actions : List Action) : Prop := ∀ x ∈ actions, x.arms = false

/-- Some actions that arm nothing, and then one that arms a receive on bulk OUT. -/
def ArmsLast (actions : List Action) : Prop :=
  ∃ before, actions = before ++ [.armOut] ∧ Unarming before

namespace Unarming

variable {x y : List Action}

theorem nil : Unarming [] := List.forall_mem_nil _

theorem append (first : Unarming x) (later : Unarming y) : Unarming (x ++ y) :=
  List.forall_mem_append.2 ⟨first, later⟩

theorem report (event : Event) : Unarming [.report event] := List.forall_mem_singleton.2 rfl

theorem submit (data : Bytes) : Unarming [.submit data] := List.forall_mem_singleton.2 rfl

/-- Aborts and the end of a halt arm nothing. -/
theorem requests {ops : List Bus.Op}
    (h : ∀ op ∈ ops, op = .abortIn Endpoint.bulkIn ∨ ∃ ep, op = .clearStall ep) :
    Unarming (ops.map Action.request) := by
  intro x listed
  obtain ⟨op, asked, rfl⟩ := List.mem_map.1 listed
  rcases h op asked with rfl | ⟨ep, rfl⟩ <;> rfl

theorem superseded (t : Transaction) : Unarming (t.superseded.map Action.request) := by
  cases t with
  | streaming stream => exact List.forall_mem_singleton.2 rfl
  | _ => exact nil

end Unarming

end Action

open PictureTransfer.Action (Unarming ArmsLast)

/-- A responder that arms one receive whenever its interface is opened or data comes in, after all
else that it does then, and arms nothing at other times. -/
structure Responder.Rearms (σ : Type) [Responder σ] : Prop where
  arms : ∀ view (c : Callback) (r : σ), c.arms = true → ArmsLast (Responder.reaction view c r).2
  keeps : ∀ view (c : Callback) (r : σ), c.arms = false → Unarming (Responder.reaction view c r).2

/-- Of what such a responder asks of its bus when it has to arm a receive, this comes last, and no
other receive is armed. -/
theorem Responder.Rearms.arms_last {σ : Type} [Responder σ] (h : Rearms σ) (view : Bus.View)
    {c : Callback} (r : σ) (arms : c.arms = true) : ∃ before,
      (Responder.reaction view c r).2.filterMap Action.op?
        = before ++ [.armOut Endpoint.bulkOut receiveSize] ∧
      ∀ ep size, .armOut ep size ∉ before := by
  obtain ⟨actions, same, quiet⟩ := h.arms view c r arms
  refine ⟨actions.filterMap Action.op?, ?_, ?_⟩
  · rw [same, List.filterMap_append]
    rfl
  · intro ep size listed
    obtain ⟨x, among, asks⟩ := List.mem_filterMap.1 listed
    cases x with
    | report event => cases asks
    | request op =>
      cases asks
      cases quiet _ among

/-- A bus reset reaches no bus. -/
theorem Responder.unarming_busReset {σ : Type} [Responder σ] (view : Bus.View) (r : σ) :
    Unarming (Responder.reaction view .busReset r).2 := by
  intro x listed
  obtain ⟨event, -, rfl⟩ := List.mem_map.1 listed
  rfl

/-- The answer to a control request can abort, end halts and report a reset. -/
theorem Control.unarming_answer {σ : Type} (view : Bus.View) (setup : Setup) (interface : UInt8)
    (s : σ) (clear : σ → σ) :
    let outcome := Control.outcome view setup interface
    let acted : Reaction σ := (s, outcome.ops.map Action.request)
    Unarming (if outcome.reset then
        (acted.andThen fun s => (clear s, [.report (.reset .classRequest)]), outcome.response)
      else (acted, outcome.response)).1.2 := by
  intro outcome acted
  have asked : Unarming acted.2 := .requests fun op => Control.ops_outcome
  split
  · exact asked.append (.report _)
  · exact asked

namespace Standard

theorem unarming_openSession (r : Received) (s : Standard) : Unarming (s.openSession r).2 := by
  rw [openSession]
  split
  · exact .submit _
  · split
    · exact .submit _
    · split <;> exact .submit _

theorem unarming_onCommand (r : Received) (s : Standard) : Unarming (s.onCommand r).2 := by
  refine (Unarming.superseded s.transaction).append ?_
  dsimp only
  split
  · split <;> exact .submit _
  · split
    · exact unarming_openSession r _
    · exact .submit _

theorem rearms : Responder.Rearms Standard where
  arms view c s arms := by
    cases c with
    | interfaceOpened interface => exact ⟨_, rfl, .report _⟩
    | outCompleted data =>
      refine ⟨_, rfl, ?_⟩
      split
      · next r received =>
        refine (Unarming.report _).append ?_
        dsimp only
        split
        · exact unarming_onCommand r s
        · exact .submit _
      · exact .nil
    | _ => cases arms
  keeps view c s keeps := by
    cases c with
    | busReset => exact Responder.unarming_busReset view s
    | control setup data => exact Control.unarming_answer view setup s.session.interface s clear
    | inCompleted ep =>
      show Unarming (s.inCompleted ep).2
      rw [inCompleted]
      split
      · split
        · exact .submit _
        · exact .submit _
        · exact .nil
      · exact .nil
    | _ => cases keeps

end Standard

namespace Legacy

theorem unarming_respond (s : Legacy) (code : UInt16) (tid : UInt32) :
    Unarming (s.respond code tid) := (Unarming.submit _).append (.report _)

theorem unarming_stream (code : UInt16) (tid : UInt32) (s : Legacy) :
    Unarming (s.stream code tid).2 := by
  rw [stream]
  split
  · exact unarming_respond s _ tid
  · split
    · exact (Unarming.submit _).append (.report _)
    · exact .nil

theorem unarming_onCommand (c : Container) (s : Legacy) : Unarming (s.onCommand c).2 := by
  refine (Unarming.superseded s.transaction).append ?_
  dsimp only
  split
  · exact unarming_respond _ _ _
  · split
    · exact unarming_respond _ _ _
    · split
      · exact .nil
      · exact unarming_stream _ _ _

theorem unarming_onData (c : Container) (s : Legacy) : Unarming (s.onData c).2 := by
  rw [onData]
  split
  · exact .nil
  · refine Unarming.append ?_ (unarming_respond _ _ _)
    split
    · exact (Unarming.report _).append (.report _)
    · exact .nil

theorem unarming_onContainer (c : Container) (s : Legacy) : Unarming (s.onContainer c).2 := by
  refine ((Unarming.report _).append (.report _)).append ?_
  dsimp only
  split
  · exact unarming_onCommand c _
  · exact unarming_onData c _
  · exact .nil
  · exact .nil

theorem rearms : Responder.Rearms Legacy where
  arms view c s arms := by
    cases c with
    | interfaceOpened interface => exact ⟨_, rfl, .report _⟩
    | outCompleted data =>
      refine ⟨_, rfl, ?_⟩
      split
      · exact unarming_onContainer _ s
      · exact .nil
    | _ => cases arms
  keeps view c s keeps := by
    cases c with
    | busReset => exact Responder.unarming_busReset view s
    | control setup data => exact Control.unarming_answer view setup s.session.interface s clear
    | inCompleted ep =>
      show Unarming (s.inCompleted ep).2
      rw [inCompleted]
      split
      · split
        · exact .submit _
        · exact unarming_respond _ _ _
        · exact .nil
      · exact .nil
    | _ => cases keeps

end Legacy

namespace Bridge

variable {L : Type}

theorem unarming_sendNext (b : Bridge L) : Unarming b.sendNext.2 := by
  rw [sendNext]
  split
  · exact .nil
  · exact (Unarming.report _).append (.submit _)

theorem rearms [Relay.Link L] : Responder.Rearms (Bridge L) where
  arms view c b arms := by
    cases c with
    | interfaceOpened interface => exact ⟨_, rfl, .report _⟩
    | outCompleted data =>
      -- whether or not the relay is there, and whatever it makes of the data
      refine ⟨_, rfl, (Unarming.report _).append ?_⟩
      dsimp only
      split
      · exact unarming_sendNext _
      · exact .nil
    | _ => cases arms
  keeps view c b keeps := by
    cases c with
    | busReset => exact Responder.unarming_busReset view b
    | control setup data => exact Control.unarming_answer view setup b.interface b clear
    | inCompleted ep =>
      show Unarming (b.inCompleted ep).2
      rw [inCompleted]
      split
      · exact unarming_sendNext b
      · exact .nil
    | _ => cases keeps

end Bridge

namespace Selected

variable {L : Type} [Relay.Link L]

/-- Every personality does at every callback what it does by itself. -/
theorem actions_eq (view : Bus.View) (c : Callback) (r : Selected L) :
    (Responder.reaction view c r).2 = match r with
      | standard s => (Responder.reaction view c s).2
      | legacy s => (Responder.reaction view c s).2
      | rawProxy b => (Responder.reaction view c b).2 := by
  cases r <;> cases c <;> rfl

theorem rearms : Responder.Rearms (Selected L) where
  arms view c r arms := by
    rw [actions_eq]
    cases r with
    | standard s => exact Standard.rearms.arms view c s arms
    | legacy s => exact Legacy.rearms.arms view c s arms
    | rawProxy b => exact Bridge.rearms.arms view c b arms
  keeps view c r keeps := by
    rw [actions_eq]
    cases r with
    | standard s => exact Standard.rearms.keeps view c s keeps
    | legacy s => exact Legacy.rearms.keeps view c s keeps
    | rawProxy b => exact Bridge.rearms.keeps view c b keeps

/-- The link to the relay changes by itself, if there is one. -/
def relinked (change : L → L) : Selected L → Selected L
  | standard s => standard s
  | legacy s => legacy s
  | rawProxy b => rawProxy { b with link := change b.link }

end Selected

/-! ## Links that change by themselves -/

/-- A responder whose link to the relay changes by itself too. One of the changes happens before
each callback, and none when they are used up. -/
structure Restless (L : Type) where
  responder : Selected L
  changes : List (L → L) := []

namespace Restless

variable {L : Type}

/-- The responder as the next callback finds it. -/
def found (r : Restless L) : Selected L := r.responder.relinked (r.changes.headD id)

/-- A reaction of the responder that was found. -/
def keep (r : Restless L) (reaction : Reaction (Selected L)) : Reaction (Restless L) :=
  ({ responder := reaction.1, changes := r.changes.tail }, reaction.2)

variable [Relay.Link L]

instance : Responder (Restless L) where
  busReset r :=
    let (responder, events) := Responder.busReset r.found
    ({ responder, changes := r.changes.tail }, events)
  interfaceOpened view interface r := r.keep (Responder.interfaceOpened view interface r.found)
  control view setup data r := (Responder.control view setup data r.found).map r.keep id
  outCompleted view data r := r.keep (Responder.outCompleted view data r.found)
  inCompleted view ep r := r.keep (Responder.inCompleted view ep r.found)

/-- What is asked of the bus depends on the link as it is found. -/
theorem actions_eq (view : Bus.View) (c : Callback) (r : Restless L) :
    (Responder.reaction view c r).2 = (Responder.reaction view c r.found).2 := by
  cases c <;> rfl

theorem rearms : Responder.Rearms (Restless L) where
  arms view c r arms := actions_eq view c r ▸ Selected.rearms.arms view c r.found arms
  keeps view c r keeps := actions_eq view c r ▸ Selected.rearms.keeps view c r.found keeps

end Restless

/-! ## Notes -/

/-- A responder that does what another one does, and notes the data that comes in. -/
structure Noted (σ : Type) where
  responder : σ
  notes : List Bytes := []

namespace Noted

variable {σ : Type}

/-- A reaction of the responder itself. -/
def keep (n : Noted σ) (r : Reaction σ) : Reaction (Noted σ) := ({ n with responder := r.1 }, r.2)

instance [Responder σ] : Responder (Noted σ) where
  busReset n :=
    let (responder, events) := Responder.busReset n.responder
    ({ n with responder }, events)
  interfaceOpened view interface n :=
    n.keep (Responder.interfaceOpened view interface n.responder)
  control view setup data n := (Responder.control view setup data n.responder).map n.keep id
  outCompleted view data n :=
    { n with notes := n.notes ++ [data] }.keep (Responder.outCompleted view data n.responder)
  inCompleted view ep n := n.keep (Responder.inCompleted view ep n.responder)

/-- Taking notes changes nothing else. -/
theorem actions_eq [Responder σ] (view : Bus.View) (c : Callback) (n : Noted σ) :
    (Responder.reaction view c n).2 = (Responder.reaction view c n.responder).2 := by
  cases c <;> rfl

theorem rearms [Responder σ] (h : Responder.Rearms σ) : Responder.Rearms (Noted σ) where
  arms view c n arms := actions_eq view c n ▸ h.arms view c n.responder arms
  keeps view c n keeps := actions_eq view c n ▸ h.keeps view c n.responder keeps

/-- Only data that comes in is noted. -/
theorem notes_step [Responder σ] (a : Attached Bus.Endpoints (Noted σ)) (c : Callback) :
    (a.step c).responder.notes = a.responder.notes ++ c.incoming?.toList := by
  rw [Attached.responder_step]
  cases c with
  | outCompleted data => rfl
  | _ => exact (List.append_nil _).symm

end Noted

end PictureTransfer
