import PictureTransfer.Proofs.Relay.Playback
import Mathlib.Data.List.Induction

/-!
# The frame budget over several exchanges

Before each transfer of the host the relay queues its answer, one frame for each transfer of it and
then the end. A bridge reads no more than its budget for one transfer, so that the rest of a longer
answer stays on the link, in front of the answers that come later. `unread` follows what is left
there. While every answer ends within the budget nothing is, and each transfer of the host is
answered by its own answer; from the first that does not, every transfer is answered by a piece of
an earlier answer (`replays_within_budget`).
-/

namespace PictureTransfer

open Relay

/-! ## Answers on a link -/

/-- An answer of the relay: one frame for each transfer, then the end. -/
def Relay.Frame.answer (transfers : List Bytes) : List Frame := transfers.map rawIn ++ [done]

/-- Queues an answer for the device. -/
def Relay.QueueLink.replyAnswer (transfers : List Bytes) (l : QueueLink) : QueueLink :=
  (Frame.answer transfers).foldl (fun l frame => l.reply frame) l

theorem Relay.QueueLink.replyAnswer_eq (transfers : List Bytes) (l : QueueLink) :
    l.replyAnswer transfers = { l with replies := l.replies ++ Frame.answer transfers } := by
  rw [replyAnswer]
  induction Frame.answer transfers generalizing l with
  | nil => rw [List.foldl_nil, List.append_nil]
  | cons frame rest ih => rw [List.foldl_cons, ih, reply, List.append_assoc, List.singleton_append]

namespace Relay

/-- What one transfer of the host leaves of the answers on a link: the first of them is gone if it
ends within the budget, and else it is shorter by the budget. -/
def leftover (budget : Nat) : List (List Bytes) → List (List Bytes)
  | [] => []
  | answer :: later => if answer.length < budget then later else answer.drop budget :: later

/-- What is left on the link of some answers that were queued and read in turn. -/
def unread (budget : Nat) (answers : List (List Bytes)) : List (List Bytes) :=
  answers.foldl (fun left answer => leftover budget (left ++ [answer])) []

section Unread

variable {budget : Nat} {answers : List (List Bytes)}

theorem unread_concat (answer : List Bytes) :
    unread budget (answers ++ [answer]) = leftover budget (unread budget answers ++ [answer]) := by
  rw [unread, List.foldl_append]
  rfl

/-- Answers that end within the budget are read as they come. -/
theorem unread_of_short (short : ∀ answer ∈ answers, answer.length < budget) :
    unread budget answers = [] := by
  induction answers using List.reverseRecOn with
  | nil => rfl
  | append_singleton before answer ih =>
    obtain ⟨earlier, last⟩ := List.forall_mem_append.1 short
    rw [unread_concat, ih earlier]
    exact if_pos (last answer List.mem_cons_self)

/-- An answer that does not end within the budget is followed by a rest for ever. -/
theorem unread_of_long (long : ∃ answer ∈ answers, budget ≤ answer.length) :
    unread budget answers ≠ [] := by
  induction answers using List.reverseRecOn with
  | nil =>
    obtain ⟨answer, listed, -⟩ := long
    cases listed
  | append_singleton before answer ih =>
    rw [unread_concat]
    cases left : unread budget before with
    | nil =>
      -- what came before was read, so that the last answer is the long one
      obtain ⟨longest, listed, length⟩ := long
      rcases List.mem_append.1 listed with earlier | last
      · exact absurd left (ih ⟨longest, earlier, length⟩)
      · obtain rfl := List.mem_singleton.1 last
        show (if longest.length < budget then [] else [longest.drop budget]) ≠ []
        rw [if_neg (Nat.not_lt.2 length)]
        exact List.cons_ne_nil _ _
    | cons first rest =>
      show (if first.length < budget then rest ++ [answer]
        else first.drop budget :: (rest ++ [answer])) ≠ []
      split
      · exact List.append_ne_nil_of_right_ne_nil _ (List.cons_ne_nil _ _)
      · exact List.cons_ne_nil _ _

theorem suffix_of_mem_leftover {left : List (List Bytes)} {t : List Bytes}
    (h : t ∈ leftover budget left) : ∃ answer ∈ left, t <:+ answer := by
  cases left with
  | nil => cases h
  | cons first rest =>
    rw [leftover] at h
    split at h
    · exact ⟨t, List.mem_cons_of_mem _ h, List.suffix_rfl⟩
    · rcases List.mem_cons.1 h with rfl | later
      · exact ⟨first, List.mem_cons_self, List.drop_suffix _ _⟩
      · exact ⟨t, List.mem_cons_of_mem _ later, List.suffix_rfl⟩

/-- Every rest is the end of an answer that was queued. -/
theorem suffix_of_mem_unread {t : List Bytes} (h : t ∈ unread budget answers) :
    ∃ answer ∈ answers, t <:+ answer := by
  induction answers using List.reverseRecOn generalizing t with
  | nil => cases h
  | append_singleton before answer ih =>
    rw [unread_concat] at h
    obtain ⟨whole, listed, ends⟩ := suffix_of_mem_leftover h
    rcases List.mem_append.1 listed with earlier | last
    · obtain ⟨queued, listed, also⟩ := ih earlier
      exact ⟨queued, List.mem_append_left _ listed, ends.trans also⟩
    · exact ⟨whole, List.mem_append_right _ last, ends⟩

end Unread

end Relay

namespace Bridge

/-! ## One transfer of the host -/

/-- Collecting takes of the first answer on the link what the budget allows. -/
theorem collect_queued (n : Nat) (transfers : List Bytes) (frames : List Frame) (link : QueueLink) :
    collect n { link with replies := Frame.answer transfers ++ frames }
      = (transfers.take n,
        { link with replies := if transfers.length < n then frames
            else Frame.answer (transfers.drop n) ++ frames }) := by
  induction n generalizing transfers with
  | zero => rfl
  | succ n ih =>
    cases transfers with
    -- the end of the answer is read, and what stands behind it is not
    | nil => rfl
    | cons data rest =>
      have received : Link.receive
          { link with replies := Frame.answer (data :: rest) ++ frames }
            = (.ok (Frame.rawIn data), { link with replies := Frame.answer rest ++ frames }) := rfl
      have kind : (Frame.rawIn data).kind? = some .rawIn := rfl
      rw [collect, received]
      dsimp only
      rw [if_pos kind, ih]
      simp only [List.take_succ_cons, List.drop_succ_cons, List.length_cons,
        Nat.add_lt_add_iff_right]
      rfl

/-- A bridge on a link that is up and on which these answers wait. -/
structure Faces (budget : Nat) (answers : List (List Bytes)) (b : Bridge QueueLink) : Prop where
  connected : b.link.connected = true
  budget : b.budget = budget
  replies : b.link.replies = answers.flatMap Frame.answer

/-- A transfer of the host takes of the first answer what the budget allows. -/
theorem forward_faces {budget : Nat} {first : List Bytes} {rest : List (List Bytes)}
    {b : Bridge QueueLink} (faces : b.Faces budget (first :: rest)) (data : Bytes) :
    (b.forward data).Faces budget (leftover budget (first :: rest)) ∧
      (b.forward data).queue = first.take budget ∧
      (b.forward data).interface = b.interface := by
  obtain ⟨connected, rfl, replies⟩ := faces
  have sends : Link.send (.rawOut data) b.link
      = (.ok (), { b.link with sent := b.link.sent ++ [.rawOut data] }) := if_pos connected
  have collected := collect_queued b.budget first (rest.flatMap Frame.answer)
    { b.link with sent := b.link.sent ++ [.rawOut data] }
  rw [← List.flatMap_cons, ← replies] at collected
  rw [forward, sends]
  dsimp only
  rw [collected]
  refine ⟨⟨connected, rfl, ?_⟩, rfl, rfl⟩
  rw [leftover]
  split <;> rfl

end Bridge

/-! ## Exchanges -/

/-- The relay's answer to a transfer of the host, which is queued just before it, and the callbacks
up to the next one. -/
structure Exchange where
  answer : List Bytes
  out : Bytes
  later : List Callback
  deriving DecidableEq, Repr

namespace Exchange

/-- The host's transfer comes in when its answer is queued. -/
def turn (x : Exchange) : Turn QueueLink := ⟨(·.replyAnswer x.answer), .outCompleted x.out⟩

/-- The answer is no longer than the device can send, and the host's next transfer comes later. -/
structure Proper (x : Exchange) : Prop where
  fits : ∀ data ∈ x.answer, data.length ≤ transferSize
  quiet : ∀ c ∈ x.later, c.isOut = false

end Exchange

namespace Attached

variable {β : Type} [Bus β]

/-- The relay queues its answer. -/
def replyAnswer (transfers : List Bytes) (a : Attached β (Bridge QueueLink)) :
    Attached β (Bridge QueueLink) :=
  { a with responder :=
    { a.responder with link := a.responder.link.replyAnswer transfers } }

/-- The transfers sent to the host in an exchange. -/
def replayed (x : Exchange) (a : Attached β (Bridge QueueLink)) : List Submission :=
  (a.replyAnswer x.answer).submissions (.outCompleted x.out :: x.later)

/-- An exchange happens. -/
def exchange (a : Attached β (Bridge QueueLink)) (x : Exchange) : Attached β (Bridge QueueLink) :=
  (a.replyAnswer x.answer).run (.outCompleted x.out :: x.later)

/-- Exchanges happen one after another. -/
def exchanges (xs : List Exchange) (a : Attached β (Bridge QueueLink)) :
    Attached β (Bridge QueueLink) := xs.foldl exchange a

theorem replayed_eq (x : Exchange) (a : Attached β (Bridge QueueLink)) :
    a.replayed x = a.sentIn (x.turn :: x.later.map (Turn.still QueueLink)) :=
  congrArg (_ ++ ·) (sentIn_still x.later (a.turn x.turn)).symm

theorem exchange_eq (x : Exchange) (a : Attached β (Bridge QueueLink)) :
    a.exchange x = a.turns (x.turn :: x.later.map (Turn.still QueueLink)) :=
  (turns_still x.later (a.turn x.turn)).symm

end Attached

namespace Bridge

variable {β : Type} [Bus β] {budget : Nat}

/-- In an exchange a bridge sends, as far as it is asked for, what the budget allows of the first
answer on its link, and leaves the rest there. -/
theorem exchange_faces {a : Attached β (Bridge QueueLink)} (accepting : Bus.Accepting a.bus)
    {left : List (List Bytes)} (faces : a.responder.Faces budget left) {x : Exchange}
    (proper : x.Proper) {first : List Bytes} {rest : List (List Bytes)}
    (front : left ++ [x.answer] = first :: rest)
    (short : ∀ data ∈ first, data.length ≤ transferSize) :
    a.replayed x
        = ((first.take budget).take (1 + Callback.pulls a.responder.interface x.later)).map
          Submission.bulkIn ∧
      (a.exchange x).responder.Faces budget (leftover budget (left ++ [x.answer])) := by
  have waiting : (a.replyAnswer x.answer).responder.Faces budget (first :: rest) := by
    refine ⟨?_, faces.budget, ?_⟩
    · show (a.responder.link.replyAnswer x.answer).connected = true
      rw [QueueLink.replyAnswer_eq]
      exact faces.connected
    · show (a.responder.link.replyAnswer x.answer).replies = _
      rw [QueueLink.replyAnswer_eq, ← front, List.flatMap_append, ← faces.replies,
        List.flatMap_singleton]
  obtain ⟨forwarded, queue, interface⟩ := forward_faces waiting x.out
  have takes : ∀ data ∈ ((a.replyAnswer x.answer).responder.forward x.out).queue,
      Bus.Takes a.bus data := by
    rw [queue]
    exact fun data listed => accepting.takes (short data (List.mem_of_mem_take listed))
  have forwards : a.forwards? x.turn = some x.out := if_pos waiting.connected
  have quiet := Attached.forwarded_still proper.quiet (a.turn x.turn)
  have sent := sentIn_forward forwards takes quiet
  have link := link_forward forwards quiet
  have same := budget_turns (x.turn :: x.later.map (Turn.still QueueLink)) a
  have callbacks : (x.later.map (Turn.still QueueLink)).map Turn.callback = x.later :=
    List.map_map.trans (List.map_id _)
  have still : (x.later.map (Turn.still QueueLink)).foldl (fun link t => t.meanwhile link)
      ((a.replyAnswer x.answer).responder.forward x.out).link
        = ((a.replyAnswer x.answer).responder.forward x.out).link := by
    rw [List.foldl_map]
    exact List.foldl_fixed _
  have queued : (a.relinked x.turn.meanwhile).responder = (a.replyAnswer x.answer).responder := rfl
  rw [callbacks, queued, queue, interface] at sent
  rw [queued, still] at link
  rw [front, Attached.replayed_eq, Attached.exchange_eq]
  exact ⟨sent, link ▸ forwarded.connected, same.trans faces.budget, link ▸ forwarded.replies⟩

/-- What stands first on the link is the end of an answer, and as short. -/
theorem short_front {before : List Exchange} {x : Exchange} (earlier : ∀ y ∈ before, y.Proper)
    (own : x.Proper) {first : List Bytes} {rest : List (List Bytes)}
    (front : unread budget (before.map Exchange.answer) ++ [x.answer] = first :: rest) :
    ∀ data ∈ first, data.length ≤ transferSize := by
  have listed : first ∈ unread budget (before.map Exchange.answer) ++ [x.answer] :=
    front ▸ List.mem_cons_self
  intro data carried
  rcases List.mem_append.1 listed with left | last
  · obtain ⟨answer, queued, ends⟩ := suffix_of_mem_unread left
    obtain ⟨y, listed, rfl⟩ := List.mem_map.1 queued
    exact (earlier y listed).fits data (ends.mem carried)
  · obtain rfl := List.mem_singleton.1 last
    exact own.fits data carried

/-- Exchanges leave on the link what is unread of their answers. -/
theorem exchanges_faces {a : Attached β (Bridge QueueLink)} (accepting : Bus.Accepting a.bus)
    (faces : a.responder.Faces budget []) {xs : List Exchange} (proper : ∀ x ∈ xs, x.Proper) :
    Bus.Accepting (a.exchanges xs).bus ∧
      (a.exchanges xs).responder.Faces budget (unread budget (xs.map Exchange.answer)) := by
  induction xs using List.reverseRecOn with
  | nil => exact ⟨accepting, faces⟩
  | append_singleton before x ih =>
    obtain ⟨earlier, last⟩ := List.forall_mem_append.1 proper
    have proper := last x List.mem_cons_self
    obtain ⟨accepting, faces⟩ := ih earlier
    have next : a.exchanges (before ++ [x]) = (a.exchanges before).exchange x :=
      List.foldl_concat ..
    -- its own answer is queued by then, so that some answer stands first on the link
    obtain ⟨first, rest, front⟩ := List.exists_cons_of_ne_nil (List.append_ne_nil_of_right_ne_nil
      (unread budget (before.map Exchange.answer)) (List.cons_ne_nil x.answer []))
    have short := short_front earlier proper front
    rw [next, List.map_append, List.map_singleton, unread_concat]
    exact ⟨Attached.accepting_run (a := (a.exchanges before).replyAnswer x.answer) accepting _,
      (exchange_faces accepting faces proper front short).2⟩

end Bridge

/-- A bridge keeps to the answers of its exchanges as long as they end within its frame budget. When
all earlier answers had fewer transfers than the budget, what is sent in an exchange is the front of
its own answer, as far as the budget reaches and completions ask for it. When one had not, it is a
piece of an earlier answer. -/
theorem replays_within_budget {β : Type} [Bus β] {a : Attached β (Bridge QueueLink)}
    (accepting : Bus.Accepting a.bus) (connected : a.responder.link.connected = true)
    (idle : a.responder.link.replies = []) {before : List Exchange} {x : Exchange}
    (proper : ∀ y ∈ before ++ [x], y.Proper) :
    let sent := (a.exchanges before).replayed x
    let asked := 1 + Callback.pulls (a.exchanges before).responder.interface x.later
    ((∀ y ∈ before, y.answer.length < a.responder.budget) →
      sent <+: x.answer.map Submission.bulkIn ∧
        sent = ((x.answer.take a.responder.budget).take asked).map Submission.bulkIn) ∧
    ((∃ y ∈ before, a.responder.budget ≤ y.answer.length) →
      ∃ y ∈ before, sent <:+: y.answer.map Submission.bulkIn) := by
  intro sent asked
  obtain ⟨earlier, last⟩ := List.forall_mem_append.1 proper
  have own := last x List.mem_cons_self
  obtain ⟨accepts, faces⟩ := Bridge.exchanges_faces accepting ⟨connected, rfl, idle⟩ earlier
  obtain ⟨first, rest, front⟩ := List.exists_cons_of_ne_nil (List.append_ne_nil_of_right_ne_nil
    (unread a.responder.budget (before.map Exchange.answer)) (List.cons_ne_nil x.answer []))
  have piece : sent = ((first.take a.responder.budget).take asked).map Submission.bulkIn :=
    (Bridge.exchange_faces accepts faces own front (Bridge.short_front earlier own front)).1
  constructor
  · intro short
    -- nothing is left of the earlier answers, so that its own stands first
    have nothing : unread a.responder.budget (before.map Exchange.answer) = [] :=
      unread_of_short (List.forall_mem_map.2 short)
    rw [nothing] at front
    obtain ⟨rfl, -⟩ := List.cons.inj front
    refine ⟨?_, piece⟩
    rw [piece]
    exact ((List.take_prefix _ _).trans (List.take_prefix _ _)).map _
  · rintro ⟨y, listed, long⟩
    have something : unread a.responder.budget (before.map Exchange.answer) ≠ [] :=
      unread_of_long ⟨y.answer, List.mem_map_of_mem listed, long⟩
    obtain ⟨head, tail, left⟩ := List.exists_cons_of_ne_nil something
    rw [left] at front
    obtain ⟨rfl, -⟩ := List.cons.inj front
    -- what stands first on the link is the end of an earlier answer
    obtain ⟨answer, queued, ends⟩ := suffix_of_mem_unread (left ▸ List.mem_cons_self)
    obtain ⟨z, listed, rfl⟩ := List.mem_map.1 queued
    refine ⟨z, listed, ?_⟩
    rw [piece]
    have begins := (List.take_prefix asked _).trans (List.take_prefix a.responder.budget head)
    exact (begins.isInfix.trans ends.isInfix).map _

/-- A bridge with a budget, on a bus that writes down and a link that is up. -/
def Bridge.linked (budget : Nat) : Attached Bus.Recorder (Bridge QueueLink) where
  bus := {}
  responder := { link := { connected := true }, budget }

/-- An exchange in which so many transfers are collected. -/
def Exchange.collecting (collected : Nat) (answer : List Bytes) : Exchange :=
  ⟨answer, [0], List.replicate collected (.inCompleted Endpoint.bulkIn)⟩

/-- With a budget of two, an answer of one transfer does not get in the way of the next answer, of
which the budget allows two transfers; an answer of two does. -/
theorem replays_behind_short :
    (Bus.Accepting (Bridge.linked 2).bus ∧ (Bridge.linked 2).responder.link.replies = [] ∧
      ∀ y ∈ [Exchange.collecting 1 [[1]], .collecting 2 [[1], [1]], .collecting 2 [[2], [3], [4]]],
        y.Proper) ∧
      ((Bridge.linked 2).exchanges [.collecting 1 [[1]]]).replayed (.collecting 2 [[2], [3], [4]])
        = [Submission.bulkIn [2], Submission.bulkIn [3]] ∧
      ((Bridge.linked 2).exchanges [.collecting 2 [[1], [1]]]).replayed
        (.collecting 2 [[2], [3], [4]]) <:+: [Submission.bulkIn [1], Submission.bulkIn [1]] := by
  have accepting : Bus.Accepting (Bridge.linked 2).bus :=
    fun ops ep data _ => Bus.Recorder.takes rfl ep data ops
  have one : (Exchange.collecting 1 [[1]]).Proper := ⟨by decide, by decide⟩
  have two : (Exchange.collecting 2 [[1], [1]]).Proper := ⟨by decide, by decide⟩
  have three : (Exchange.collecting 2 [[2], [3], [4]]).Proper := ⟨by decide, by decide⟩
  have first : ∀ y ∈ [Exchange.collecting 1 [[1]]] ++ [.collecting 2 [[2], [3], [4]]], y.Proper :=
    List.forall_mem_cons.2 ⟨one, List.forall_mem_singleton.2 three⟩
  have second : ∀ y ∈ [Exchange.collecting 2 [[1], [1]]] ++ [.collecting 2 [[2], [3], [4]]],
      y.Proper := List.forall_mem_cons.2 ⟨two, List.forall_mem_singleton.2 three⟩
  have behind_one := replays_within_budget accepting rfl rfl first
  have behind_two := replays_within_budget accepting rfl rfl second
  refine ⟨⟨accepting, rfl, ?_⟩, (behind_one.1 ?_).2, ?_⟩
  · exact List.forall_mem_cons.2 ⟨one, second⟩
  · exact List.forall_mem_singleton.2 (by decide)
  · obtain ⟨y, listed, piece⟩ := behind_two.2 ⟨_, List.mem_cons_self, by decide⟩
    obtain rfl := List.mem_singleton.1 listed
    exact piece

/-- With a budget of one, the second transfer of an answer is sent for the host's next transfer,
although everything that was sent before has been collected. -/
theorem replays_tail_of_long :
    (Bridge.linked 1).replayed (.collecting 1 [[1], [2]]) = [Submission.bulkIn [1]] ∧
      ((Bridge.linked 1).exchanges [.collecting 1 [[1], [2]]]).replayed (.collecting 1 [[3]])
        = [Submission.bulkIn [2]] ∧
      ¬((Bridge.linked 1).exchanges [.collecting 1 [[1], [2]]]).replayed (.collecting 1 [[3]])
        <+: [Submission.bulkIn [3]] := by
  decide

end PictureTransfer
