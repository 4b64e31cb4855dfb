import PictureTransfer.Proofs.Relay.Drain

/-!
# Collecting an answer in batches

A relay hands a transfer to its camera, reads all transfers that are written down on the bus,
forgets them, reports each of them as collected, and goes on so until none is written down.
`Batched` is this loop and `BatchedEach` runs it once for each transfer of the host. The batches
hold what `drain` collects one at a time, so that the loop comes to an end (`batched_drain`,
`batched_exchanges`), and it has one result (`Batched.unique`, `BatchedEach.unique`).
-/

namespace PictureTransfer

namespace Bus.Recorder

theorem ops_perform {bus : Recorder} (there : bus.connected = true) (op : Op) :
    (perform op bus).ops = bus.ops ++ [op] := by
  obtain ⟨ops, stalled, connected⟩ := bus
  obtain rfl : connected = true := there
  cases op <;> rfl

/-- While its host is there a bus writes everything down. -/
theorem ops_foldl {bus : Recorder} (there : bus.connected = true) (ops : List Op) :
    (ops.foldl (fun bus op => perform op bus) bus).ops = bus.ops ++ ops := by
  induction ops generalizing bus with
  | nil => exact (List.append_nil _).symm
  | cons op rest ih =>
    rw [List.foldl_cons, ih ((connected_perform op bus).trans there), ops_perform there,
      List.append_assoc, List.singleton_append]

end Bus.Recorder

open Bus (Recorder)

namespace Attached

variable {σ : Type} [Responder σ]

theorem connected_step {a : Attached Recorder σ} (there : a.bus.connected = true) (x : Callback) :
    (a.step x).bus.connected = true :=
  invariant_step (P := fun bus : Recorder => bus.connected = true)
    (fun op bus there => (Recorder.connected_perform op bus).trans there) there x

theorem transfers_step {a : Attached Recorder σ} (there : a.bus.connected = true) (x : Callback) :
    (a.step x).bus.transfers = a.bus.transfers ++ (a.actions x).filterMap Action.transfer? := by
  rw [Recorder.transfers, bus_step, Recorder.ops_foldl there, List.filterMap_append,
    List.filterMap_filterMap]
  refine congrArg (a.bus.transfers ++ ·) (List.filterMap_congr fun action _ => ?_)
  cases action <;> rfl

/-- What is written down is forgotten. -/
def forgotten (a : Attached Recorder σ) : Attached Recorder σ := { a with bus := a.bus.clear }

/-- The responder learns that so many transfers were collected. -/
def completions (count : Nat) (a : Attached Recorder σ) : Attached Recorder σ :=
  a.run (List.replicate count (.inCompleted Endpoint.bulkIn))

/-- All that is written down is collected, and what is written down meanwhile, until nothing is. -/
inductive Batched : Attached Recorder σ → List Bytes → Attached Recorder σ → Prop where
  | done {a : Attached Recorder σ} (empty : a.bus.transfers = []) : Batched a [] a.forgotten
  | batch {a b : Attached Recorder σ} {sent : List Bytes} (more : a.bus.transfers ≠ [])
      (later : Batched (a.forgotten.completions a.bus.transfers.length) sent b) :
      Batched a (a.bus.transfers ++ sent) b

/-- The transfers of a host come in one after another, and the answer is collected after each. -/
inductive BatchedEach : Attached Recorder σ → List Bytes → List (List Bytes) →
    Attached Recorder σ → Prop where
  | nil (a : Attached Recorder σ) : BatchedEach a [] [] a
  | cons {a b c : Attached Recorder σ} {out : Bytes} {sent : List Bytes} {outs : List Bytes}
      {answers : List (List Bytes)} (batched : Batched (a.outCompleted out) sent b)
      (later : BatchedEach b outs answers c) : BatchedEach a (out :: outs) (sent :: answers) c

theorem Batched.unique {a b c : Attached Recorder σ} {sent again : List Bytes}
    (h : Batched a sent b) (k : Batched a again c) : sent = again ∧ b = c := by
  -- what is written down says whether there is another batch
  induction h generalizing again c with
  | done empty =>
    cases k with
    | done => exact ⟨rfl, rfl⟩
    | batch more => exact absurd empty more
  | batch more later ih =>
    cases k with
    | done empty => exact absurd empty more
    | batch more' later' =>
      obtain ⟨rfl, rfl⟩ := ih later'
      exact ⟨rfl, rfl⟩

theorem BatchedEach.unique {a b c : Attached Recorder σ} {outs : List Bytes}
    {answers again : List (List Bytes)} (h : BatchedEach a outs answers b)
    (k : BatchedEach a outs again c) : answers = again ∧ b = c := by
  induction h generalizing again c with
  | nil a =>
    cases k
    exact ⟨rfl, rfl⟩
  | cons batched later ih =>
    cases k with
    | cons batched' later' =>
      obtain ⟨rfl, rfl⟩ := batched.unique batched'
      obtain ⟨rfl, rfl⟩ := ih later'
      exact ⟨rfl, rfl⟩

end Attached

namespace Relay.Emulated

open Attached (Batched BatchedEach completions)

variable {a : Attached Recorder Legacy}

/-- The transfers in front are collected first, and what their completions bring forth waits behind
what is written down. -/
theorem drain_completions (there : a.bus.connected = true) (waiting : List Bytes) :
    let b := a.completions waiting.length
    b.bus.connected = true ∧ ∃ events, b.events = a.events ++ events ∧
      drain a.responder (waiting ++ a.bus.transfers) =
        let later := drain b.responder b.bus.transfers
        (waiting ++ later.1, later.2.1, events ++ later.2.2) := by
  induction waiting generalizing a with
  | nil => exact ⟨there, [], (List.append_nil _).symm, rfl⟩
  | cons transfer waiting ih =>
    obtain ⟨last, events, shown, collects⟩ :=
      ih (a := a.inCompleted Endpoint.bulkIn)
        (Attached.connected_step there (.inCompleted Endpoint.bulkIn))
    have responder : (a.inCompleted Endpoint.bulkIn).responder
        = (a.responder.inCompleted Endpoint.bulkIn).1 := Attached.responder_step a (.inCompleted _)
    have written : (a.inCompleted Endpoint.bulkIn).bus.transfers = a.bus.transfers
        ++ (a.responder.inCompleted Endpoint.bulkIn).2.filterMap Action.transfer? :=
      Attached.transfers_step there (.inCompleted _)
    have reported : (a.inCompleted Endpoint.bulkIn).events = a.events
        ++ (a.responder.inCompleted Endpoint.bulkIn).2.filterMap Action.event? :=
      Attached.events_step a (.inCompleted _)
    rw [reported, List.append_assoc] at shown
    rw [responder, written, ← List.append_assoc] at collects
    refine ⟨last, _, shown, ?_⟩
    rw [List.cons_append, drain_cons]
    dsimp only
    rw [collects, List.append_assoc]
    rfl

/-- The loop comes to an end, with what `drain` collects. -/
theorem batched_drain (there : a.bus.connected = true) :
    ∃ b events, Batched a (drain a.responder a.bus.transfers).1 b ∧
      b.bus.connected = true ∧ b.bus.transfers = [] ∧ b.events = a.events ++ events ∧
      (drain a.responder a.bus.transfers).2 = (b.responder, events) := by
  -- each batch takes some of what is still to be collected
  induction left : (drain a.responder a.bus.transfers).1.length using Nat.strongRecOn generalizing a
    with
  | ind left ih =>
    by_cases empty : a.bus.transfers = []
    · rw [empty, drain_nil]
      exact ⟨a.forgotten, [], .done empty, there, rfl, (List.append_nil _).symm, rfl⟩
    · obtain ⟨stays, before, shown, collects⟩ :=
        drain_completions (a := a.forgotten) there a.bus.transfers
      have nothing : a.forgotten.bus.transfers = [] := rfl
      have same : a.forgotten.responder = a.responder := rfl
      rw [nothing, List.append_nil, same] at collects
      rw [collects] at left ⊢
      rw [List.length_append] at left
      have some_taken := List.length_pos_iff.2 empty
      obtain ⟨b, events, later, connected, last, reported, state⟩ :=
        ih _ (by omega) stays rfl
      refine ⟨b, before ++ events, .batch empty later, connected, last, ?_, ?_⟩
      · rw [reported, shown, List.append_assoc]
        rfl
      · dsimp only
        rw [state]

/-- The answers of the camera are those of the loop. -/
theorem batched_exchanges (there : a.bus.connected = true) (empty : a.bus.transfers = [])
    (outs : List Bytes) :
    ∃ b, BatchedEach a outs (exchanges outs ⟨a.responder, a.events⟩).1 b ∧
      (exchanges outs ⟨a.responder, a.events⟩).2 = ⟨b.responder, b.events⟩ := by
  induction outs generalizing a with
  | nil => exact ⟨a, .nil a, rfl⟩
  | cons out rest ih =>
    obtain ⟨b, events, batched, connected, nothing, shown, state⟩ :=
      batched_drain (a := a.outCompleted out) (Attached.connected_step there (.outCompleted out))
    have responder : (a.outCompleted out).responder = (a.responder.outCompleted out).1 :=
      Attached.responder_step a (.outCompleted out)
    have written : (a.outCompleted out).bus.transfers
        = (a.responder.outCompleted out).2.filterMap Action.transfer? := by
      have behind := Attached.transfers_step there (.outCompleted out)
      rw [empty] at behind
      exact behind
    have reported : (a.outCompleted out).events
        = a.events ++ (a.responder.outCompleted out).2.filterMap Action.event? :=
      Attached.events_step a (.outCompleted out)
    rw [responder, written] at batched state
    have next : exchange out ⟨a.responder, a.events⟩
        = ((exchange out ⟨a.responder, a.events⟩).1, ⟨b.responder, b.events⟩) := by
      rw [shown, reported]
      simp only [exchange, state]
    obtain ⟨c, later, last⟩ := ih connected nothing
    rw [exchanges_cons, next]
    exact ⟨c, .cons batched later, last⟩

end Relay.Emulated

end PictureTransfer
