import PictureTransfer.Proofs.Callback
import PictureTransfer.Responder.Bridge

/-!
# How a bridge plays an answer back

Whatever its link does, a bridge sends the transfers of the answer it holds one after another: the
first when the host's transfer comes in, and the next at each completion on bulk IN. A bus reset,
the opening of the interface and an accepted class RESET drop the rest.

Between callbacks a link may change by itself, which is a `Turn` with the callback behind it. A
transfer of the host that finds the link up is handed to the relay. `sentIn_playback` says how many
transfers of an answer are sent until that happens again, and `sentIn_forward` how many are sent
from the transfer that is answered on.
-/

namespace PictureTransfer

open Relay

namespace Callback

/-- Whether a transfer of the host comes in. -/
def isOut : Callback → Bool
  | .outCompleted _ => true
  | _ => false

/-- Whether a callback makes a bridge drop the answer that it holds, if it owns the given
interface. -/
def drops (interface : UInt8) : Callback → Bool
  | .interfaceOpened _ => true
  | c => c.resets interface

/-- How many transfers are asked for by completions before the answer is dropped. -/
def pulls (interface : UInt8) : List Callback → Nat
  | [] => 0
  | c :: rest =>
    if c.drops interface then 0
    else (if c = .inCompleted Endpoint.bulkIn then 1 else 0) + pulls interface rest

/-- As long as nothing drops the answer, every completion on bulk IN asks for a transfer. -/
theorem pulls_eq_collected {interface : UInt8} {callbacks : List Callback}
    (keeps : ∀ c ∈ callbacks, c.drops interface = false) :
    pulls interface callbacks = collected callbacks := by
  induction callbacks with
  | nil => rfl
  | cons c rest ih =>
    obtain ⟨first, later⟩ := List.forall_mem_cons.1 keeps
    rw [pulls, first, if_neg Bool.false_ne_true, ih later, collected, collected, List.countP_cons,
      Nat.add_comm]
    simp only [decide_eq_true_eq]

end Callback

namespace Bridge

variable {L : Type} {b : Bridge L}

/-! ## One callback -/

theorem plain_sendNext (short : ∀ data ∈ b.queue, data.length ≤ transferSize) :
    ∀ x ∈ b.sendNext.2, x.Plain := by
  simp only [sendNext]
  cases waits : b.queue with
  | nil => exact List.forall_mem_nil _
  | cons data rest =>
    have fits := short data (by rw [waits]; exact List.mem_cons_self)
    simp only [List.mem_cons, List.not_mem_nil, or_false]
    rintro x (rfl | rfl)
    · exact .report _
    · exact .submit data fits

/-- What is sent next comes from the answer, and goes to bulk IN. -/
theorem carried_sendNext {x : Action} (sent : x ∈ b.sendNext.2) {data : Bytes}
    (carried : data ∈ x.transfer?) : x = .submit data ∧ data ∈ b.queue := by
  rw [sendNext] at sent
  cases waits : b.queue with
  | nil =>
    rw [waits] at sent
    cases sent
  | cons first rest =>
    rw [waits] at sent
    rcases List.mem_cons.1 sent with rfl | last
    · cases carried
    · obtain rfl := List.mem_singleton.1 last
      obtain rfl := Option.some.inj carried
      exact ⟨rfl, List.mem_cons_self⟩

theorem sendNext_eq (b : Bridge L) :
    b.sendNext.1 = { b with queue := b.queue.drop 1 } ∧
      b.sendNext.2.filterMap Action.transfer? = b.queue.take 1 := by
  simp only [sendNext]
  rcases b with ⟨link, budget, queue, interface⟩
  cases queue with
  | nil => constructor <;> rfl
  | cons data rest => constructor <;> rfl

section Connected

variable [Link L]

/-- Forwarding changes only the link and the answer. -/
theorem forward_kept (b : Bridge L) (data : Bytes) :
    (b.forward data).interface = b.interface ∧ (b.forward data).budget = b.budget := by
  rw [forward]
  cases Link.send (.rawOut data) b.link with
  | mk outcome link => cases outcome <;> exact ⟨rfl, rfl⟩

theorem outCompleted_eq (connected : Link.isConnected b.link = true) (data : Bytes) :
    b.outCompleted data = ((b.forward data).sendNext.1,
      Action.report (.container .toDevice "raw" data.length) :: (b.forward data).sendNext.2
        ++ [.armOut]) := by
  simp only [outCompleted, Reaction.andThen, Reaction.followedBy, connected, if_true]
  rfl

theorem plain_outCompleted (connected : Link.isConnected b.link = true) {data : Bytes}
    (short : ∀ d ∈ (b.forward data).queue, d.length ≤ transferSize) :
    ∀ x ∈ (b.outCompleted data).2, x.Plain := by
  rw [outCompleted_eq connected]
  refine List.forall_mem_append.2 ⟨List.forall_mem_cons.2 ⟨.report _, plain_sendNext short⟩, ?_⟩
  intro x hx
  obtain rfl := List.mem_singleton.1 hx
  exact .armOut

theorem carried_outCompleted (connected : Link.isConnected b.link = true) {data : Bytes}
    {x : Action} (sent : x ∈ (b.outCompleted data).2) {d : Bytes} (carried : d ∈ x.transfer?) :
    x = .submit d ∧ d ∈ (b.forward data).queue := by
  rw [outCompleted_eq connected] at sent
  rcases List.mem_append.1 sent with sent | last
  · rcases List.mem_cons.1 sent with rfl | sent
    · cases carried
    · exact carried_sendNext sent carried
  · obtain rfl := List.mem_singleton.1 last
    cases carried

theorem transfers_outCompleted (connected : Link.isConnected b.link = true) (data : Bytes) :
    (b.outCompleted data).2.filterMap Action.transfer? = (b.forward data).queue.take 1 := by
  rw [outCompleted_eq connected, ← (sendNext_eq (b.forward data)).2, List.filterMap_append]
  exact List.append_nil _

/-- The transfer of the host that a bridge hands to its relay at a callback. -/
def forwards? (b : Bridge L) : Callback → Option Bytes
  | .outCompleted data => if Link.isConnected b.link then some data else none
  | _ => none

theorem of_forwards? {c : Callback} {data : Bytes} (h : b.forwards? c = some data) :
    c = .outCompleted data ∧ Link.isConnected b.link = true := by
  cases c with
  | outCompleted out =>
    rw [forwards?] at h
    split at h
    · next connected =>
      obtain rfl := Option.some.inj h
      exact ⟨rfl, connected⟩
    · cases h
  | _ => cases h

end Connected

/-- What a bridge does at a callback that hands nothing to the relay: it drops the answer, sends the
next transfer of it, or keeps it. As long as it keeps the answer it aborts nothing. -/
inductive Plays (b : Bridge L) : Callback → Reaction (Bridge L) → Prop
  | dropped {c : Callback} (interface : UInt8) {actions : List Action}
      (drops : c.drops b.interface = true) (silent : Action.Silent actions) :
      Plays b c ({ b.clear with interface }, actions)
  | next : Plays b (.inCompleted Endpoint.bulkIn) b.sendNext
  | kept {c : Callback} {actions : List Action} (keeps : c.drops b.interface = false)
      (other : c ≠ .inCompleted Endpoint.bulkIn) (silent : Action.Silent actions)
      (aborts : .request (.abortIn Endpoint.bulkIn) ∉ actions) : Plays b c (b, actions)

/-- What is sent at such a callback comes from the answer, and goes to bulk IN. -/
theorem Plays.carried {c : Callback} {r : Reaction (Bridge L)} (h : Plays b c r) {x : Action}
    (sent : x ∈ r.2) {data : Bytes} (carried : data ∈ x.transfer?) :
    x = .submit data ∧ data ∈ b.queue := by
  cases h with
  | dropped interface drops silent =>
    rw [(silent x sent).2] at carried
    cases carried
  | next => exact carried_sendNext sent carried
  | kept keeps other silent aborts =>
    rw [(silent x sent).2] at carried
    cases carried

/-- What is sent at such a callback and what is asked for by later ones are together what is asked
for from the callback on. -/
theorem Plays.take_pulls {c : Callback} {r : Reaction (Bridge L)} (h : Plays b c r)
    (later : List Callback) :
    r.2.filterMap Action.transfer? ++ r.1.queue.take (Callback.pulls r.1.interface later)
      = b.queue.take (Callback.pulls b.interface (c :: later)) := by
  rw [Callback.pulls]
  cases h with
  | dropped interface drops silent =>
    -- nothing is left to be sent, whatever completes
    rw [silent.transfers, if_pos drops]
    exact List.take_nil
  | next =>
    have keeps : Callback.drops b.interface (.inCompleted Endpoint.bulkIn) = false := rfl
    obtain ⟨next, sends⟩ := sendNext_eq b
    rw [next, sends, keeps, if_neg Bool.false_ne_true, if_pos rfl, List.take_add]
  | kept keeps other silent aborts =>
    rw [silent.transfers, keeps, if_neg Bool.false_ne_true, if_neg other, Nat.zero_add]
    rfl

/-- At such a callback the link and the budget stay as they are, and nothing comes to the answer. -/
theorem Plays.stays {c : Callback} {r : Reaction (Bridge L)} (h : Plays b c r) :
    r.1.link = b.link ∧ r.1.budget = b.budget ∧ ∀ data ∈ r.1.queue, data ∈ b.queue := by
  cases h with
  | dropped interface drops silent => exact ⟨rfl, rfl, List.forall_mem_nil _⟩
  | next =>
    rw [(sendNext_eq b).1]
    exact ⟨rfl, rfl, fun _ => List.mem_of_mem_drop⟩
  | kept keeps other silent aborts => exact ⟨rfl, rfl, fun _ => id⟩

theorem plays_control (view : Bus.View) (setup : Setup) (data : Bytes) (b : Bridge L) :
    Plays b (.control setup data) (b.control view setup).1 := by
  have silent : Action.Silent
      ((Control.outcome view setup b.interface).ops.map Action.request) :=
    Action.silent_requests fun op listed => Control.ops_outcome listed
  have drops := Control.reset_outcome view setup b.interface
  rw [control]
  split
  · next reset =>
    refine .dropped (c := .control setup data) b.interface (drops.symm.trans reset) ?_
    refine List.forall_mem_append.2 ⟨silent, List.forall_mem_singleton.2 ⟨?_, rfl⟩⟩
    exact .plain (.report _)
  · next other =>
    rw [Bool.not_eq_true] at other
    have kept : setup.resets b.interface = false := drops.symm.trans other
    exact .kept (c := .control setup data) kept Callback.noConfusion silent
      (Action.abortIn_not_mem_control kept)

theorem plays_reaction [Link L] (view : Bus.View) {c : Callback} {b : Bridge L}
    (quiet : b.forwards? c = none) : Plays b c (Responder.reaction view c b) := by
  cases c with
  | busReset =>
    refine .dropped (c := .busReset) b.interface rfl ?_
    exact List.forall_mem_singleton.2 ⟨.plain (.report _), rfl⟩
  | interfaceOpened interface =>
    refine .dropped (c := .interfaceOpened interface) interface rfl ?_
    exact List.forall_mem_cons.2
      ⟨⟨.plain (.report _), rfl⟩, List.forall_mem_singleton.2 ⟨.plain .armOut, rfl⟩⟩
  | control setup data => exact plays_control view setup data b
  | outCompleted data =>
    -- the link is down, and the transfer is lost
    have down : ¬Link.isConnected b.link = true := by
      intro connected
      rw [forwards?, if_pos connected] at quiet
      cases quiet
    show Plays b _ (b.outCompleted data)
    simp only [outCompleted, Reaction.andThen, Reaction.followedBy, if_neg down]
    refine .kept rfl Callback.noConfusion ?_ (by simp [Action.armOut])
    exact List.forall_mem_cons.2
      ⟨⟨.plain (.report _), rfl⟩, List.forall_mem_singleton.2 ⟨.plain .armOut, rfl⟩⟩
  | inCompleted ep =>
    show Plays b _ (b.inCompleted ep)
    by_cases bulk : ep = Endpoint.bulkIn
    · subst bulk
      exact .next
    · rw [inCompleted, if_neg bulk]
      refine .kept rfl ?_ (List.forall_mem_nil _) List.not_mem_nil
      rintro ⟨⟩
      exact bulk rfl

end Bridge

/-! ## Turns -/

namespace Attached

variable {β L : Type} [Bus β]

/-- The link changes by itself. -/
def relinked (change : L → L) (a : Attached β (Bridge L)) : Attached β (Bridge L) :=
  { a with responder := { a.responder with link := change a.responder.link } }

variable [Link L]

/-- The link changes and a callback happens. -/
def turn (a : Attached β (Bridge L)) (t : Turn L) : Attached β (Bridge L) :=
  (a.relinked t.meanwhile).step t.callback

/-- Turns happen one after another. -/
def turns (ts : List (Turn L)) (a : Attached β (Bridge L)) : Attached β (Bridge L) :=
  ts.foldl turn a

/-- The IN transfers that are handed to the bus in some turns. -/
def sentIn : List (Turn L) → Attached β (Bridge L) → List Submission
  | [], _ => []
  | t :: rest, a =>
    (a.relinked t.meanwhile).submissionsOf ((a.relinked t.meanwhile).actions t.callback)
      ++ sentIn rest (a.turn t)

/-- The transfer of the host that is handed to the relay in a turn. -/
def forwards? (a : Attached β (Bridge L)) (t : Turn L) : Option Bytes :=
  (a.relinked t.meanwhile).responder.forwards? t.callback

/-- The transfers of the host that are handed to the relay in some turns. -/
def forwarded : List (Turn L) → Attached β (Bridge L) → List Bytes
  | [], _ => []
  | t :: rest, a => (a.forwards? t).toList ++ forwarded rest (a.turn t)

theorem turns_cons (t : Turn L) (rest : List (Turn L)) (a : Attached β (Bridge L)) :
    a.turns (t :: rest) = (a.turn t).turns rest := rfl

theorem takes_turns {a : Attached β (Bridge L)} {data : Bytes} (h : Bus.Takes a.bus data)
    (ts : List (Turn L)) : Bus.Takes (a.turns ts).bus data := by
  induction ts generalizing a with
  | nil => exact h
  | cons t rest ih => exact ih (takes_step (a := a.relinked t.meanwhile) h t.callback)

theorem forwarded_cons_eq_nil {t : Turn L} {rest : List (Turn L)} {a : Attached β (Bridge L)}
    (h : a.forwarded (t :: rest) = []) : a.forwards? t = none ∧ (a.turn t).forwarded rest = [] := by
  obtain ⟨first, later⟩ := List.append_eq_nil_iff.1 h
  exact ⟨Option.toList_eq_nil_iff.1 first, later⟩

end Attached

namespace Bridge

variable {β L : Type} [Bus β] [Link L]

/-- A turn that hands nothing to the relay plays the answer back on the link as it found it. -/
theorem plays_turn {a : Attached β (Bridge L)} {t : Turn L} (none : a.forwards? t = none) :
    Plays (a.relinked t.meanwhile).responder t.callback
      ((a.turn t).responder, (a.relinked t.meanwhile).actions t.callback) := by
  rw [Attached.turn, Attached.responder_step]
  exact plays_reaction _ none

/-- As long as nothing is handed to the relay, a bridge sends as many transfers of its answer as it
is asked for. -/
theorem sentIn_playback {a : Attached β (Bridge L)}
    (takes : ∀ data ∈ a.responder.queue, Bus.Takes a.bus data) {later : List (Turn L)}
    (quiet : a.forwarded later = []) :
    a.sentIn later
      = (a.responder.queue.take
          (Callback.pulls a.responder.interface (later.map Turn.callback))).map
        Submission.bulkIn := by
  induction later generalizing a with
  | nil => rfl
  | cons t rest ih =>
    obtain ⟨none, after⟩ := Attached.forwarded_cons_eq_nil quiet
    have plays := plays_turn none
    -- all that is sent comes from the answer, so that the bus takes it, now and later
    have sent : (a.relinked t.meanwhile).submissionsOf _ = _ :=
      Attached.submissions_of_taken fun x listed data carried =>
        have from_queue := plays.carried listed carried
        ⟨from_queue.1, takes data from_queue.2⟩
    have held : ∀ data ∈ (a.turn t).responder.queue, Bus.Takes (a.turn t).bus data :=
      fun data listed =>
        Attached.takes_step (a := a.relinked t.meanwhile)
          (takes data (plays.stays.2.2 data listed)) _
    rw [Attached.sentIn, sent, ih held after, ← List.map_append]
    exact congrArg (List.map Submission.bulkIn) (plays.take_pulls _)

/-- A turn that hands nothing to the relay leaves the link as it found it, and the budget. -/
theorem link_of_unforwarded {a : Attached β (Bridge L)} {t : Turn L} (none : a.forwards? t = none) :
    (a.turn t).responder.link = t.meanwhile a.responder.link ∧
      (a.turn t).responder.budget = a.responder.budget :=
  ⟨(plays_turn none).stays.1, (plays_turn none).stays.2.1⟩

/-- As long as nothing is handed to the relay, the link changes only by itself. -/
theorem link_playback {a : Attached β (Bridge L)} {later : List (Turn L)}
    (quiet : a.forwarded later = []) :
    (a.turns later).responder.link
      = later.foldl (fun link t => t.meanwhile link) a.responder.link := by
  induction later generalizing a with
  | nil => rfl
  | cons t rest ih =>
    obtain ⟨none, after⟩ := Attached.forwarded_cons_eq_nil quiet
    rw [Attached.turns_cons, ih after, (link_of_unforwarded none).1, List.foldl_cons]

/-- A turn in which a transfer is handed to the relay leaves the bridge with all but the first
transfer of the answer. -/
theorem responder_of_forwards {a : Attached β (Bridge L)} {t : Turn L} {data : Bytes}
    (forwards : a.forwards? t = some data) :
    let b := (a.relinked t.meanwhile).responder.forward data
    (a.turn t).responder = { b with queue := b.queue.drop 1 } := by
  intro b
  obtain ⟨change, c⟩ := t
  obtain ⟨rfl, connected⟩ := of_forwards? forwards
  rw [Attached.turn, Attached.responder_step]
  show ((a.relinked change).responder.outCompleted data).1 = _
  rw [outCompleted_eq connected, (sendNext_eq b).1]

theorem budget_turns (ts : List (Turn L)) (a : Attached β (Bridge L)) :
    (a.turns ts).responder.budget = a.responder.budget := by
  induction ts generalizing a with
  | nil => rfl
  | cons t rest ih =>
    rw [Attached.turns_cons, ih]
    cases forwards : a.forwards? t with
    | none => exact (link_of_unforwarded forwards).2
    | some data =>
      rw [responder_of_forwards forwards]
      exact (forward_kept _ data).2

/-- For a transfer that is handed to the relay, a bridge sends the first transfer of the answer that
it collects, and as many more as it is asked for until something is handed over again. -/
theorem sentIn_forward {a : Attached β (Bridge L)} {t : Turn L} {data : Bytes}
    (forwards : a.forwards? t = some data)
    (takes : ∀ d ∈ ((a.relinked t.meanwhile).responder.forward data).queue, Bus.Takes a.bus d)
    {later : List (Turn L)} (quiet : (a.turn t).forwarded later = []) :
    a.sentIn (t :: later)
      = (((a.relinked t.meanwhile).responder.forward data).queue.take
          (1 + Callback.pulls ((a.relinked t.meanwhile).responder.forward data).interface
            (later.map Turn.callback))).map Submission.bulkIn := by
  let b := (a.relinked t.meanwhile).responder.forward data
  have moved : (a.turn t).responder = { b with queue := b.queue.drop 1 } :=
    responder_of_forwards forwards
  obtain ⟨change, c⟩ := t
  obtain ⟨rfl, connected⟩ := of_forwards? forwards
  have one : (a.relinked change).submissionsOf ((a.relinked change).actions (.outCompleted data))
      = (b.queue.take 1).map Submission.bulkIn := by
    rw [← transfers_outCompleted connected]
    refine Attached.submissions_of_taken fun x listed d carried => ?_
    obtain ⟨submits, queued⟩ := carried_outCompleted connected listed carried
    exact ⟨submits, takes d queued⟩
  have held : ∀ d ∈ (a.turn ⟨change, .outCompleted data⟩).responder.queue,
      Bus.Takes (a.turn ⟨change, .outCompleted data⟩).bus d := by
    rw [moved]
    exact fun d listed =>
      Attached.takes_step (a := a.relinked change) (takes d (List.mem_of_mem_drop listed)) _
  have sent := sentIn_playback held quiet
  rw [moved] at sent
  rw [Attached.sentIn, one, sent, List.take_add, List.map_append]

/-- From such a turn on, the link changes only by itself. -/
theorem link_forward {a : Attached β (Bridge L)} {t : Turn L} {data : Bytes}
    (forwards : a.forwards? t = some data) {later : List (Turn L)}
    (quiet : (a.turn t).forwarded later = []) :
    (a.turns (t :: later)).responder.link
      = later.foldl (fun link t => t.meanwhile link)
          ((a.relinked t.meanwhile).responder.forward data).link := by
  rw [Attached.turns_cons, link_playback quiet, responder_of_forwards forwards]

end Bridge

/-! ## Links that stay as they are -/

/-- A callback between which and the one before nothing happens. -/
def Turn.still (L : Type) (c : Callback) : Turn L := ⟨id, c⟩

namespace Attached

variable {β L : Type} [Bus β] [Link L]

theorem turns_still (callbacks : List Callback) (a : Attached β (Bridge L)) :
    a.turns (callbacks.map (Turn.still L)) = a.run callbacks := List.foldl_map

theorem sentIn_still (callbacks : List Callback) (a : Attached β (Bridge L)) :
    a.sentIn (callbacks.map (Turn.still L)) = a.submissions callbacks := by
  induction callbacks generalizing a with
  | nil => rfl
  | cons c rest ih => exact congrArg (a.submissionsOf (a.actions c) ++ ·) (ih (a.step c))

theorem forwarded_still {callbacks : List Callback} (quiet : ∀ c ∈ callbacks, c.isOut = false)
    (a : Attached β (Bridge L)) : a.forwarded (callbacks.map (Turn.still L)) = [] := by
  induction callbacks generalizing a with
  | nil => rfl
  | cons c rest ih =>
    obtain ⟨first, later⟩ := List.forall_mem_cons.1 quiet
    have none : a.forwards? (Turn.still L c) = none := by
      cases c with
      | outCompleted data => cases first
      | _ => rfl
    rw [List.map_cons, forwarded, none, ih later]
    rfl

end Attached

end PictureTransfer
