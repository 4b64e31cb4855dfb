import PictureTransfer.Responder.Legacy
import PictureTransfer.Responder.Standard

/-!
# Responders that a host cannot tell apart

A host sees of a responder only what it does to the bus and how it answers control requests. A
relation between responders which every callback keeps, while both do the same to the bus and give
the same answer, is a `Responder.Bisimulation`. Where a bus reset leads every responder in such a
relation back to a fresh one, it is `Responder.Forgetful`: the legacy camera is, although its
recording goes on, and so is the standard camera.
-/

namespace PictureTransfer

variable {σ : Type}

/-! ## Reactions -/

/-- Two reactions that ask the bus for the same and lead to related states. -/
structure Reaction.Alike (R : σ → σ → Prop) (x y : Reaction σ) : Prop where
  state : R x.1 y.1
  ops : x.2.filterMap Action.op? = y.2.filterMap Action.op?

namespace Reaction.Alike

variable {R : σ → σ → Prop} {x y : Reaction σ}

theorem andThen (h : Alike R x y) {next next' : σ → Reaction σ}
    (later : ∀ {r q}, R r q → Alike R (next r) (next' q)) :
    Alike R (x.andThen next) (y.andThen next') where
  state := (later h.state).state
  ops := by
    rw [Reaction.andThen, Reaction.andThen, List.filterMap_append, List.filterMap_append, h.ops,
      (later h.state).ops]

theorem followedBy (h : Alike R x y) (actions : List Action) :
    Alike R (x.followedBy actions) (y.followedBy actions) where
  state := h.state
  ops := by
    rw [Reaction.followedBy, Reaction.followedBy, List.filterMap_append, List.filterMap_append,
      h.ops]

theorem ite {c : Prop} [Decidable c] {x y x' y' : Reaction σ} (yes : Alike R x y)
    (no : Alike R x' y') : Alike R (if c then x else x') (if c then y else y') := by
  split
  · exact yes
  · exact no

end Reaction.Alike

/-- A relation between responders that no host can see through. The only interface that a device
opens is the one with number zero. -/
structure Responder.Bisimulation [Responder σ] (R : σ → σ → Prop) : Prop where
  interfaceOpened : ∀ (view : Bus.View) {r q : σ}, R r q →
    Reaction.Alike R (Responder.interfaceOpened view 0 r) (Responder.interfaceOpened view 0 q)
  control : ∀ (view : Bus.View) (setup : Setup) (data : Bytes) {r q : σ}, R r q →
    Reaction.Alike R (Responder.control view setup data r).1
        (Responder.control view setup data q).1 ∧
      (Responder.control view setup data r).2 = (Responder.control view setup data q).2
  outCompleted : ∀ (view : Bus.View) (data : Bytes) {r q : σ}, R r q →
    Reaction.Alike R (Responder.outCompleted view data r) (Responder.outCompleted view data q)
  inCompleted : ∀ (view : Bus.View) (ep : UInt8) {r q : σ}, R r q →
    Reaction.Alike R (Responder.inCompleted view ep r) (Responder.inCompleted view ep q)

/-- A relation that no host sees through, and under which every responder is fresh after a reset. -/
structure Responder.Forgetful [Responder σ] (R : σ → σ → Prop) (fresh : σ) : Prop
    extends Responder.Bisimulation R where
  untouched : R fresh fresh
  busReset : ∀ {r q : σ}, R r q → R (Responder.busReset r).1 fresh

/-! ## Sessions -/

/-- A relation between sessions that no camera tells apart: both are on one interface, they are open
together, and they stay related when both begin or end. -/
structure Session.Congruence (S : Session → Session → Prop) : Prop where
  interface : ∀ {a b : Session}, S a b → b.interface = a.interface
  isOpen : ∀ {a b : Session}, S a b → b.isOpen = a.isOpen
  withId : ∀ {a b : Session}, S a b → ∀ id, S { a with id } { b with id }

/-- One session on the interface with number zero. -/
def Session.Same (a b : Session) : Prop := a.interface = 0 ∧ b = a

theorem Session.same_congruence : Congruence Same where
  interface h := by rw [h.2]
  isOpen h := by rw [h.2]
  withId h id := ⟨h.1, by rw [h.2]⟩

/-! ## The legacy camera -/

namespace Legacy

/-- Two legacy cameras with related sessions and the same under way. The recording and the label of
their answers may differ. -/
structure Related (S : Session → Session → Prop) (r q : Legacy) : Prop where
  session : S r.session q.session
  transaction : q.transaction = r.transaction

section Related

variable {S : Session → Session → Prop} (keeps : Session.Congruence S) {r q : Legacy}

/-- The answer to an operation of the catalog. -/
theorem related_stream (h : Related S r q) (code : UInt16) (tid : UInt32) :
    Reaction.Alike (Related S) (r.stream code tid) (q.stream code tid) := by
  rw [stream, stream, h.transaction]
  -- the last code shows in the label of an answer only, which is no operation on the bus
  cases Catalog.lookup code with
  | none => exact ⟨h, rfl⟩
  | some payload =>
    dsimp only
    split
    · exact ⟨⟨h.session, rfl⟩, rfl⟩
    · exact ⟨h, rfl⟩

theorem related_onData (h : Related S r q) (c : Container) :
    Reaction.Alike (Related S) (r.onData c) (q.onData c) := by
  rw [onData, onData, h.transaction]
  split
  · exact ⟨h, rfl⟩
  · next op taken =>
    apply Reaction.Alike.andThen
    · -- the press starts or stops the recording, which changes nothing but reports
      cases recKind? op.param0 c.tail with
      | none => exact ⟨⟨h.session, rfl⟩, rfl⟩
      | some kind => exact ⟨⟨h.session, rfl⟩, rfl⟩
    · intro r q h
      exact ⟨h, rfl⟩

theorem related_inCompleted (h : Related S r q) (ep : UInt8) :
    Reaction.Alike (Related S) (r.inCompleted ep) (q.inCompleted ep) := by
  rw [inCompleted, inCompleted, h.transaction]
  apply Reaction.Alike.ite
  · split
    · exact ⟨⟨h.session, rfl⟩, rfl⟩
    · exact ⟨⟨h.session, rfl⟩, rfl⟩
    · exact ⟨⟨h.session, rfl⟩, rfl⟩
  · exact ⟨h, rfl⟩

include keeps

theorem Related.clear (h : Related S r q) : Related S r.clear q.clear :=
  ⟨keeps.withId h.session none, rfl⟩

theorem related_onCommand (h : Related S r q) (c : Container) :
    Reaction.Alike (Related S) (r.onCommand c) (q.onCommand c) := by
  -- both drop the same, as the same is under way
  rw [onCommand, onCommand, h.transaction]
  apply Reaction.Alike.andThen
  · exact ⟨⟨h.session, rfl⟩, rfl⟩
  · intro r q h
    apply Reaction.Alike.ite
    · exact ⟨⟨keeps.withId h.session _, h.transaction⟩, rfl⟩
    · apply Reaction.Alike.ite
      · exact ⟨⟨keeps.withId h.session _, h.transaction⟩, rfl⟩
      · apply Reaction.Alike.ite
        · exact ⟨⟨h.session, rfl⟩, rfl⟩
        · exact related_stream h c.header.code c.header.tid

theorem related_onContainer (h : Related S r q) (c : Container) :
    Reaction.Alike (Related S) (r.onContainer c) (q.onContainer c) := by
  rw [onContainer, onContainer]
  apply Reaction.Alike.andThen
  · exact ⟨⟨h.session, h.transaction⟩, rfl⟩
  · intro r q h
    cases c.header.kind with
    | command => exact related_onCommand keeps h c
    | data => exact related_onData h c
    | response => exact ⟨h, rfl⟩
    | event => exact ⟨h, rfl⟩

theorem related_outCompleted (h : Related S r q) (data : Bytes) :
    Reaction.Alike (Related S) (r.outCompleted data) (q.outCompleted data) := by
  apply Reaction.Alike.followedBy
  cases Container.classify data with
  | error e => exact ⟨h, rfl⟩
  | ok c => exact related_onContainer keeps h c

theorem related_control (view : Bus.View) (setup : Setup) (h : Related S r q) :
    Reaction.Alike (Related S) (r.control view setup).1 (q.control view setup).1 ∧
      (r.control view setup).2 = (q.control view setup).2 := by
  rw [control, control, keeps.interface h.session]
  by_cases reset : (Control.outcome view setup r.session.interface).reset = true
  · rw [if_pos reset, if_pos reset]
    exact ⟨⟨h.clear keeps, rfl⟩, rfl⟩
  · rw [if_neg reset, if_neg reset]
    exact ⟨⟨h, rfl⟩, rfl⟩

end Related

/-- Two legacy cameras that differ at most in the recording and in the label of their answers,
with the one interface in use. -/
structure Alike (r q : Legacy) : Prop where
  interface : r.session.interface = 0
  session : q.session = r.session
  transaction : q.transaction = r.transaction

variable {r q : Legacy}

theorem alike_eq_related : Alike = Related Session.Same := by
  funext r q
  exact propext ⟨fun h => ⟨⟨h.interface, h.session⟩, h.transaction⟩,
    fun h => ⟨h.session.1, h.session.2, h.transaction⟩⟩

/-- What a camera that is like a fresh one has of its own. -/
theorem Alike.eq_of_fresh (h : Alike r {}) :
    r = { recording := r.recording, lastOp := r.lastOp } := by
  obtain ⟨-, session, transaction⟩ := h
  cases r
  cases session
  cases transaction
  rfl

theorem related_forgetful : Responder.Forgetful (Related Session.Same) ({} : Legacy) where
  interfaceOpened view r q h := by
    refine ⟨⟨⟨rfl, ?_⟩, h.transaction⟩, rfl⟩
    show q.session.openInterface 0 = r.session.openInterface 0
    rw [h.session.2]
  control view setup data r q h := related_control Session.same_congruence view setup h
  outCompleted view data r q h := related_outCompleted Session.same_congruence h data
  inCompleted view ep r q h := related_inCompleted h ep
  untouched := ⟨⟨rfl, rfl⟩, rfl⟩
  busReset {r q} h := by
    -- a reset keeps the number of the interface, which is the number of a fresh camera
    refine ⟨⟨h.session.1, ?_⟩, rfl⟩
    show ({} : Session) = ⟨r.session.interface, false, none⟩
    rw [h.session.1]

/-- The recording goes on when a host leaves, and no other host finds out. -/
theorem forgetful : Responder.Forgetful Alike ({} : Legacy) := by
  rw [alike_eq_related]
  exact related_forgetful

end Legacy

/-! ## The standard camera -/

namespace Standard

/-- Two standard cameras of one name with related sessions and the same under way. -/
structure Related (name : CameraName) (S : Session → Session → Prop) (r q : Standard) : Prop where
  named : r.name = name
  same : q.name = r.name
  session : S r.session q.session
  transaction : q.transaction = r.transaction

section Related

variable {name : CameraName} {S : Session → Session → Prop} (keeps : Session.Congruence S)
  {r q : Standard}

theorem related_inCompleted (h : Related name S r q) (ep : UInt8) :
    Reaction.Alike (Related name S) (r.inCompleted ep) (q.inCompleted ep) := by
  rw [inCompleted, inCompleted, h.transaction]
  apply Reaction.Alike.ite
  · split
    · exact ⟨⟨h.named, h.same, h.session, rfl⟩, rfl⟩
    · exact ⟨⟨h.named, h.same, h.session, rfl⟩, rfl⟩
    · exact ⟨⟨h.named, h.same, h.session, rfl⟩, rfl⟩
  · exact ⟨h, rfl⟩

include keeps

theorem Related.clear (h : Related name S r q) : Related name S r.clear q.clear :=
  ⟨h.named, h.same, keeps.withId h.session none, rfl⟩

theorem related_openSession (h : Related name S r q) (c : Received) :
    Reaction.Alike (Related name S) (r.openSession c) (q.openSession c) := by
  rw [openSession, openSession, keeps.isOpen h.session]
  apply Reaction.Alike.ite
  · exact ⟨h, rfl⟩
  · cases c.param0? with
    | none => exact ⟨h, rfl⟩
    | some id =>
      apply Reaction.Alike.ite
      · exact ⟨h, rfl⟩
      · exact ⟨⟨h.named, h.same, keeps.withId h.session _, h.transaction⟩, rfl⟩

theorem related_onCommand (h : Related name S r q) (c : Received) :
    Reaction.Alike (Related name S) (r.onCommand c) (q.onCommand c) := by
  -- both drop the same, as the same is under way
  rw [onCommand, onCommand, h.transaction]
  apply Reaction.Alike.andThen
  · exact ⟨⟨h.named, h.same, h.session, rfl⟩, rfl⟩
  · intro r q h
    apply Reaction.Alike.ite
    · -- the description depends on the name only
      have described : q.deviceInfo = r.deviceInfo := by rw [deviceInfo, deviceInfo, h.same]
      rw [described, h.transaction]
      split
      · exact ⟨⟨h.named, h.same, h.session, rfl⟩, rfl⟩
      · exact ⟨h, rfl⟩
    · apply Reaction.Alike.ite
      · exact related_openSession keeps h c
      · exact ⟨h, rfl⟩

theorem related_outCompleted (h : Related name S r q) (data : Bytes) :
    Reaction.Alike (Related name S) (r.outCompleted data) (q.outCompleted data) := by
  apply Reaction.Alike.followedBy
  cases Received.ofBytes? data with
  | none => exact ⟨h, rfl⟩
  | some c =>
    apply Reaction.Alike.andThen
    · exact ⟨h, rfl⟩
    · intro r q h
      apply Reaction.Alike.ite
      · exact related_onCommand keeps h c
      · exact ⟨h, rfl⟩

theorem related_control (view : Bus.View) (setup : Setup) (h : Related name S r q) :
    Reaction.Alike (Related name S) (r.control view setup).1 (q.control view setup).1 ∧
      (r.control view setup).2 = (q.control view setup).2 := by
  rw [control, control, keeps.interface h.session]
  by_cases reset : (Control.outcome view setup r.session.interface).reset = true
  · rw [if_pos reset, if_pos reset]
    exact ⟨⟨h.clear keeps, rfl⟩, rfl⟩
  · rw [if_neg reset, if_neg reset]
    exact ⟨⟨h, rfl⟩, rfl⟩

end Related

/-- The same standard camera twice, under a name and with the one interface in use. -/
structure Alike (name : CameraName) (r q : Standard) : Prop where
  same : q = r
  name : r.name = name
  interface : r.session.interface = 0

theorem alike_eq_related (name : CameraName) : Alike name = Related name Session.Same := by
  funext r q
  refine propext ⟨?_, ?_⟩
  · rintro ⟨rfl, named, interface⟩
    exact ⟨named, rfl, ⟨interface, rfl⟩, rfl⟩
  · rintro ⟨named, same, ⟨interface, session⟩, transaction⟩
    refine ⟨?_, named, interface⟩
    cases q
    cases same
    cases session
    cases transaction
    rfl

theorem related_forgetful (name : CameraName) :
    Responder.Forgetful (Related name Session.Same) ({ name } : Standard) where
  interfaceOpened view r q h := by
    refine ⟨⟨h.named, h.same, ⟨rfl, ?_⟩, h.transaction⟩, rfl⟩
    show q.session.openInterface 0 = r.session.openInterface 0
    rw [h.session.2]
  control view setup data r q h := related_control Session.same_congruence view setup h
  outCompleted view data r q h := related_outCompleted Session.same_congruence h data
  inCompleted view ep r q h := related_inCompleted h ep
  untouched := ⟨rfl, rfl, ⟨rfl, rfl⟩, rfl⟩
  busReset {r q} h := by
    refine ⟨h.named, h.named.symm, ⟨h.session.1, ?_⟩, rfl⟩
    show ({} : Session) = ⟨r.session.interface, false, none⟩
    rw [h.session.1]

/-- A standard camera keeps nothing over a reset but its name. -/
theorem forgetful (name : CameraName) :
    Responder.Forgetful (Alike name) ({ name } : Standard) := by
  rw [alike_eq_related]
  exact related_forgetful name

end Standard

end PictureTransfer
