import PictureTransfer.Proofs.Streaming
import PictureTransfer.Proofs.UsbIp.Isolation
import PictureTransfer.Proofs.UsbIp.Supersession

/-!
# What a COMMAND leaves of earlier answers

A COMMAND that finds no stream under way leaves all that waits on bulk IN, and its own answer comes
behind that. One that finds a stream under way gives up all that waits: what is left of the stream,
and with it every earlier answer that the host has not collected (`abandons_all_waiting`). So the
RESPONSE of a transaction that had long ended can be lost (`abandoned_response`). Only where the
host has collected what waited when the stream began is what is given up a part of what was sent
since.
-/

namespace PictureTransfer

open Callback (collected)

/-- The last of some that has a property parts them, or none has it. -/
theorem exists_last {α : Type} (p : α → Bool) (l : List α) :
    (∀ x ∈ l, p x = false) ∨
      ∃ front x back, l = front ++ x :: back ∧ p x = true ∧ ∀ y ∈ back, p y = false := by
  induction l with
  | nil => exact .inl (List.forall_mem_nil _)
  | cons x rest ih =>
    rcases ih with none | ⟨front, y, back, rfl, has, last⟩
    · cases has : p x with
      | false => exact .inl (List.forall_mem_cons.2 ⟨has, none⟩)
      | true => exact .inr ⟨[], x, rest, rfl, has, none⟩
    · exact .inr ⟨x :: front, y, back, rfl, has, last⟩

namespace UsbIp

namespace Moment

def callback? : Moment → Option Callback
  | .called c _ => some c
  | _ => none

/-- The transfers that the bus takes on bulk IN. -/
def taken (ms : List Moment) : List Bytes :=
  (ms.flatMap (transfers Endpoint.bulkIn)).filterMap Passing.entered?

theorem taken_cons (m : Moment) (ms : List Moment) : taken (m :: ms) = taken [m] ++ taken ms := by
  rw [taken, List.flatMap_cons, List.filterMap_append, taken, List.flatMap_singleton]
  rfl

/-- Nothing that waits on bulk IN is given up. -/
def Keeps (ms : List Moment) : Prop := .dropped ∉ ms.flatMap (transfers Endpoint.bulkIn)

theorem keeps_cons {m : Moment} {ms : List Moment} :
    Keeps (m :: ms) ↔ Keeps [m] ∧ Keeps ms := by
  simp [Keeps, not_or]

/-- Whether a COMMAND comes in. -/
def brings {σ : Type} [Responder σ] (k : Responder.Streamer σ) (m : Moment) : Bool :=
  m.callback?.any k.isCommand

end Moment

namespace Serving

variable {σ : Type} [Responder σ] {s t u : Serving σ} {m : Moment} {ms : List Moment}

/-- The bulk-IN transfers that wait on the bus of a device. -/
def waiting (s : Serving σ) : List Bytes := s.device.attached.queue

/-! ## As long as nothing is given up -/

theorem waiting_leads (leads : Leads s m t) (keeps : Moment.Keeps [m]) :
    Moment.collected [m] ++ t.waiting = s.waiting ++ Moment.taken [m] := by
  have queue := leads.queue Endpoint.bulkIn
  cases leads with
  | called c =>
    refine Eq.trans queue ?_
    rw [Moment.taken, List.flatMap_singleton]
    apply Passing.foldl_on_of_entered
    intro e listed
    obtain ⟨v, -, passes⟩ := List.mem_filterMap.1 listed
    rcases Bus.entered_or_dropped passes with entered | rfl
    · exact entered
    · exact absurd (List.mem_flatMap.2 ⟨_, List.mem_singleton_self _, listed⟩) keeps
  | @delivered p parked data bus unparked popped =>
    have nothing : Moment.taken [.delivered p data] = [] := by
      rw [Moment.taken, List.flatMap_singleton, Moment.transfers]
      split <;> rfl
    rw [nothing, List.append_nil]
    exact queue_of_delivered (.delivered unparked popped)
  | _ => exact (List.append_nil _).symm

/-- As long as nothing is given up, transfers are collected in the order in which the bus took them.
-/
theorem waiting_path (path : Path s ms t) (keeps : Moment.Keeps ms) :
    Moment.collected ms ++ t.waiting = s.waiting ++ Moment.taken ms := by
  induction path with
  | nil s => exact (List.append_nil _).symm
  | @cons s t u m ms leads later ih =>
    obtain ⟨first, others⟩ := Moment.keeps_cons.1 keeps
    rw [Moment.collected_cons, Moment.taken_cons, List.append_assoc, ih others,
      ← List.append_assoc, waiting_leads leads first, List.append_assoc]

/-! ## In the middle of a stream -/

section Streamer

variable (k : Responder.Streamer σ)

/-- Whether DATA is on its way to the host. -/
def streaming (s : Serving σ) : Bool := (k.transaction s.device.attached.responder).streams

/-- What a COMMAND leaves of what waits on bulk IN. -/
def spared (s : Serving σ) : List Bytes := if s.streaming k then [] else s.waiting

/-- The transfers that completions still bring forth. -/
def due (s : Serving σ) : List Bytes := (k.transaction s.device.attached.responder).due

variable {k}

/-- In the middle of a stream all that is sent goes behind what waits. -/
theorem streaming_leads (leads : Leads s m t) (other : m.brings k = false)
    (streams : t.streaming k = true) :
    s.streaming k = true ∧ ∀ later,
      Moment.collected [m] ++ (t.waiting ++ k.pours (t.due k) later)
        = s.waiting ++ k.pours (s.due k) (m.callback?.toList ++ later) := by
  cases leads with
  | called c =>
    obtain ⟨before, queue, due⟩ := k.streamed (a := s.device.attached) (x := c) other streams
    refine ⟨before, fun later => ?_⟩
    have sent : (s.withAttached (s.device.attached.step c)).waiting
        = s.waiting ++ ((s.due k).take (collected [c]) ++ k.aside c) := queue
    have left : (s.withAttached (s.device.attached.step c)).due k
        = (s.due k).drop (collected [c]) := due
    rw [sent, left, List.append_assoc]
    rfl
  | @delivered p parked data bus unparked popped =>
    refine ⟨streams, fun later => ?_⟩
    rw [← List.append_assoc]
    exact congrArg (· ++ _) (queue_of_delivered (.delivered unparked popped))
  | _ => exact ⟨streams, fun later => rfl⟩

/-- Where a stream is under way and no COMMAND came in since some state, the stream was under way
then, and what was collected since and what waits now are what waited then and what was sent since.
-/
theorem streaming_path (path : Path s ms t) (other : ∀ m ∈ ms, m.brings k = false)
    (streams : t.streaming k = true) :
    s.streaming k = true ∧
      Moment.collected ms ++ t.waiting
        = s.waiting ++ k.pours (s.due k) (ms.filterMap Moment.callback?) := by
  induction path with
  | nil s => exact ⟨streams, (List.append_nil _).symm⟩
  | @cons s t u m ms leads later ih =>
    obtain ⟨first, others⟩ := List.forall_mem_cons.1 other
    obtain ⟨streams, rest⟩ := ih others streams
    obtain ⟨streams, sent⟩ := streaming_leads leads first streams
    refine ⟨streams, ?_⟩
    rw [Moment.collected_cons, List.append_assoc, rest, sent, filterMap_cons_eq_append]

/-- A COMMAND is answered behind what it spares. -/
theorem answered_leads {x : Callback} {ops : List (Bus.Op × Bool)}
    (leads : Leads s (.called x ops) t) (command : k.isCommand x = true) :
    t.waiting = s.spared k ++ (k.answer x s.device.attached.responder).take 1 ∧
      t.due k = (k.answer x s.device.attached.responder).drop 1 := by
  cases leads with
  | called => exact k.answered command

/-! ## Every COMMAND -/

variable (k)

/-- What becomes of the transfers that wait on bulk IN when a COMMAND comes in on a device in state
`u`, which it leaves in state `v`. All of them stay, in front of the answer, or all of them go, if a
stream is under way. That stream was begun by another COMMAND, the last one before. What waits then
is what the host has not collected of what that one spared and of what was sent for it and since. So
it is a part of the latter where the host has collected all that was spared. -/
structure Supersedes (start : Serving σ) (before : List Moment) (x : Callback) (u v : Serving σ) :
    Prop where
  queue : v.waiting = u.spared k ++ (k.answer x u.device.attached.responder).take 1
  stream : u.streaming k = true → ∃ earlier y ops since r,
    before = earlier ++ .called y ops :: since ∧ k.isCommand y = true ∧
      (∀ m ∈ since, m.brings k = false) ∧
      Path start earlier r ∧ Path r (.called y ops :: since) u ∧
      let sends := k.sends y r.device.attached.responder (since.filterMap Moment.callback?)
      Moment.collected since ++ u.waiting = r.spared k ++ sends ∧
        ((r.spared k).length ≤ (Moment.collected since).length → u.waiting <:+ sends)

/-- These commands of a host are served along a history in which every COMMAND supersedes what was
under way as above. From each of them on, and as long as nothing else is given up, what it left is
collected first, and then all else in the order in which it was sent. -/
def SupersedesEach (start : Serving σ) (urbs : List Urb) : Prop :=
  ∃ s ms, start.handleEach urbs = .ok () s ∧ Serves start urbs ms s ∧
    ∀ before x ops later, ms = before ++ .called x ops :: later → k.isCommand x = true →
      ∃ u v, Path start before u ∧ Leads u (.called x ops) v ∧ Path v later s ∧
        Supersedes k start before x u v ∧
        ∀ next rest, later = next ++ rest → Moment.Keeps next →
          ∃ w, Path v next w ∧ Path w rest s ∧
            Moment.collected next ++ w.waiting = v.waiting ++ Moment.taken next

variable {k} {start : Serving σ}

/-- A stream was begun by the last COMMAND. -/
theorem begun_of_streaming (idle : start.streaming k = false) (path : Path start ms u)
    (streams : u.streaming k = true) :
    ∃ earlier y ops since, ms = earlier ++ .called y ops :: since ∧ k.isCommand y = true ∧
      ∀ m ∈ since, m.brings k = false := by
  rcases exists_last (Moment.brings k) ms with none | ⟨earlier, m, since, rfl, begins, last⟩
  · rw [(streaming_path path none streams).1] at idle
    cases idle
  · cases m with
    | called y ops => exact ⟨earlier, y, ops, since, rfl, begins, last⟩
    | _ => cases begins

theorem supersedes {v : Serving σ} {before : List Moment} {x : Callback}
    {ops : List (Bus.Op × Bool)} (idle : start.streaming k = false) (path : Path start before u)
    (leads : Leads u (.called x ops) v) (command : k.isCommand x = true) :
    Supersedes k start before x u v where
  queue := (answered_leads leads command).1
  stream streams := by
    obtain ⟨earlier, y, ops, since, rfl, begins, last⟩ := begun_of_streaming idle path streams
    obtain ⟨r, reached, rest⟩ := path.split
    refine ⟨earlier, y, ops, since, r, rfl, begins, last, reached, rest, ?_⟩
    cases rest with
    | @cons _ t _ _ _ first others =>
      -- right behind that COMMAND, what it spared and the first transfer of its answer wait
      obtain ⟨queue, due⟩ := answered_leads first begins
      obtain ⟨-, sent⟩ := streaming_path others last streams
      rw [queue, due, List.append_assoc, ← Responder.Streamer.sends] at sent
      refine ⟨sent, fun collected => ?_⟩
      -- both are ends of the same, and what waits is not the longer one
      have length := congrArg List.length sent
      rw [List.length_append, List.length_append] at length
      have ends : u.waiting <:+ r.spared k ++ _ := sent ▸ List.suffix_append _ _
      exact List.suffix_of_suffix_length_le ends (List.suffix_append _ _) (by omega)

theorem supersedesEach (idle : start.streaming k = false) (unlimited : start.limit = none)
    (unstalled : start.device.bus.stalled = []) (urbs : List Urb) :
    SupersedesEach k start urbs := by
  obtain ⟨s, ms, serves⟩ := exists_serves unlimited unstalled urbs
  refine ⟨s, ms, serves.handleEach, serves, ?_⟩
  rintro before x ops later rfl command
  obtain ⟨u, reached, rest⟩ := serves.passes.path.split
  cases rest with
  | @cons _ v _ _ _ leads behind =>
    refine ⟨u, v, reached, leads, behind, supersedes idle reached leads command, ?_⟩
    rintro next rest rfl keeps
    obtain ⟨w, path, last⟩ := behind.split
    exact ⟨w, path, last, waiting_path path keeps⟩

end Streamer

/-- On a camera, after any number of hosts, a COMMAND that finds no stream under way leaves all that
waits on bulk IN, and its answer comes behind that. One that finds a stream under way gives up all
that waits, also what was there before the stream. -/
theorem abandons_all_waiting (descriptors : Descriptors) (busId : String) (name : CameraName)
    (earlier : List Visit) (walk : Walk) (urbs : List Urb) :
    SupersedesEach Legacy.streamer
        { device := (Device.fresh ({} : Legacy) descriptors busId).afterVisits earlier, walk }
        urbs ∧
      SupersedesEach Standard.streamer
        { device := (Device.fresh ({ name } : Standard) descriptors busId).afterVisits earlier
          walk }
        urbs := by
  -- what earlier hosts leave behind is like a camera that no host has touched
  have likeLegacy : Device.Like Legacy.Alike (.fresh {} descriptors busId) _ :=
    Device.like_fresh Legacy.forgetful earlier
  have likeStandard : Device.Like (Standard.Alike name) (.fresh { name } descriptors busId) _ :=
    Device.like_fresh (Standard.forgetful name) earlier
  constructor
  · generalize (Device.fresh ({} : Legacy) descriptors busId).afterVisits earlier = d
      at likeLegacy ⊢
    obtain ⟨related, events⟩ := likeLegacy
    refine supersedesEach ?_ rfl rfl urbs
    exact congrArg Transaction.streams related.transaction.symm
  · generalize (Device.fresh ({ name } : Standard) descriptors busId).afterVisits earlier = d
      at likeStandard ⊢
    obtain ⟨⟨same, -, -⟩, events⟩ := likeStandard
    refine supersedesEach ?_ rfl rfl urbs
    exact congrArg (fun s : Standard => s.transaction.streams) same.symm

/-- An exported legacy camera. -/
def exportedCamera : Serving Legacy := { device := .fresh {} (.ofPersonality .legacy {}) "1-1" }

/-- Three COMMANDs, which open a session, ask the camera to describe itself, and mean nothing to it.
-/
def commands : List Urb :=
  [sending 1 (commandContainer Operation.openSession 1 [1]),
    sending 2 (commandContainer Operation.getDeviceInfo 2 []),
    sending 3 (commandContainer 0x9999 3 [])]

/-- The session is opened, and its RESPONSE waits in front of the description. The COMMAND that
supersedes the description gives up both, and so the host is never told of its session. -/
theorem abandoned_response :
    let opened := Outcome.state (exportedCamera.handleEach (commands.take 1))
    let described := Outcome.state (exportedCamera.handleEach (commands.take 2))
    let superseded := Outcome.state (exportedCamera.handleEach commands)
    let asked := Outcome.state (superseded.handleEach [asking 4, asking 5])
    opened.streaming Legacy.streamer = false ∧
      opened.waiting = [responseContainer ResponseCode.ok 1] ∧
      described.streaming Legacy.streamer = true ∧
      described.waiting.take 1 = [responseContainer ResponseCode.ok 1] ∧
      superseded.waiting = [responseContainer ResponseCode.operationNotSupported 3] ∧
      asked.replies = superseded.replies
        ++ [.submitted 4 0 12 (responseContainer ResponseCode.operationNotSupported 3)] := by
  decide +kernel

end Serving

end UsbIp

end PictureTransfer
