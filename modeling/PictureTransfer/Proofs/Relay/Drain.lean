import PictureTransfer.Proofs.Collection
import PictureTransfer.Proofs.Legacy.Datasets
import PictureTransfer.Proofs.Legacy.Ledger
import PictureTransfer.Relay.Backend

/-!
# Answers of the emulated camera

`drain` collects transfers one after another, `exchange` collects the answer to one transfer of the
host, and `exchanges` does so for several, each after the answer to the one before it. No transfer
of an answer is longer than `transferSize` (`length_le_of_mem_exchange`).
-/

namespace PictureTransfer

namespace Legacy

/-- No answer is longer than the two transfers of a dataset, one that closes it and the
RESPONSE. -/
theorem length_answerTo_le (c : Container) : (answerTo c).length ≤ 4 := by
  cases found : Catalog.lookup c.header.code with
  | some payload =>
    have size := length_le_of_lookup found
    have count := length_containerTransfers_le
      (dataContainer c.header.code c.header.tid payload)
    rw [dataContainer, length_standardContainer] at count
    rw [answerTo_of_lookup found, List.length_append, List.length_singleton, dataContainer]
    simp only [transferSize] at count
    omega
  | none =>
    simp only [answerTo]
    simp only [found]
    split
    · exact Nat.le_of_ble_eq_true rfl
    · split
      · exact Nat.le_of_ble_eq_true rfl
      · exact Nat.le_of_ble_eq_true rfl

end Legacy

namespace Relay.Emulated

/-- The transfers of plain actions are not too long. -/
theorem length_le_of_plain {actions : List Action} (plain : ∀ x ∈ actions, x.Plain) {data : Bytes}
    (sent : data ∈ actions.filterMap Action.transfer?) : data.length ≤ transferSize := by
  obtain ⟨x, listed, carries⟩ := List.mem_filterMap.1 sent
  cases plain x listed with
  | report event => cases carries
  | armOut => cases carries
  | submit data fits =>
    cases carries
    exact fits

theorem length_le_of_forward {actions : List Action} (forward : Action.Forward actions)
    {data : Bytes} (sent : data ∈ actions.filterMap Action.transfer?) :
    data.length ≤ transferSize := by
  obtain ⟨front, back, rfl, silent, plain⟩ := forward
  rw [List.filterMap_append, List.filterMap_eq_nil_iff.2 fun x hx => (silent x hx).2,
    List.nil_append] at sent
  exact length_le_of_plain plain sent

theorem drain_nil (s : Legacy) : drain s [] = ([], s, []) := by
  rw [drain]

theorem drain_cons (s : Legacy) (transfer : Bytes) (waiting : List Bytes) :
    drain s (transfer :: waiting) =
      let r := s.inCompleted Endpoint.bulkIn
      let later := drain r.1 (waiting ++ r.2.filterMap Action.transfer?)
      (transfer :: later.1, later.2.1, r.2.filterMap Action.event? ++ later.2.2) := by
  rw [drain]

/-- Where nothing is collected, nothing waits. -/
theorem nil_of_drain {s : Legacy} {waiting : List Bytes} (h : (drain s waiting).1 = []) :
    waiting = [] := by
  cases waiting with
  | nil => rfl
  | cons transfer rest =>
    rw [drain_cons] at h
    cases h

theorem length_le_of_mem_drain {s : Legacy} {waiting : List Bytes}
    (short : ∀ data ∈ waiting, data.length ≤ transferSize) :
    ∀ data ∈ (drain s waiting).1, data.length ≤ transferSize := by
  fun_induction drain s waiting with
  | case1 s => exact List.forall_mem_nil _
  | case2 s transfer waiting r transfers last events later ih =>
    rw [later] at ih
    have next := List.forall_mem_cons.1 short
    refine List.forall_mem_cons.2 ⟨next.1, ih ?_⟩
    refine List.forall_mem_append.2 ⟨next.2, ?_⟩
    intro data sent
    exact length_le_of_plain (Legacy.plain_inCompleted s Endpoint.bulkIn) sent

/-- No transfer of an answer is too long for the bus. -/
theorem length_le_of_mem_exchange {out : Bytes} {e : Emulated} :
    ∀ data ∈ (e.exchange out).1, data.length ≤ transferSize := by
  apply length_le_of_mem_drain
  intro data sent
  exact length_le_of_forward (Legacy.forward_outCompleted e.responder out) sent

/-- Once something waits, everything that is due comes behind it. -/
theorem drain_eq {s : Legacy} {waiting : List Bytes} (some_waits : waiting ≠ []) :
    (drain s waiting).1 = waiting ++ s.due := by
  fun_induction drain s waiting with
  | case1 s => exact absurd rfl some_waits
  | case2 s transfer waiting r transfers last events later ih =>
    have entry := Legacy.entryOf_inCompleted s
    have sends : r.2.filterMap Action.transfer? = s.due.take 1 :=
      congrArg Legacy.Ledger.Entry.sends entry
    have due : r.1.due = s.due.drop 1 := congrArg (·.after.due) entry
    rw [later, sends, due, List.append_assoc, List.take_append_drop] at ih
    refine congrArg (transfer :: ·) ?_
    -- a completion sends at most one transfer, so that nothing waits only when nothing is due
    by_cases nothing : waiting ++ s.due.take 1 = []
    · obtain ⟨rfl, none_due⟩ := List.append_eq_nil_iff.1 nothing
      rw [sends, none_due, List.nil_append, drain_nil] at later
      have finished : s.due = [] := (List.take_eq_nil_iff.1 none_due).resolve_left (by decide)
      obtain ⟨rfl, -⟩ := Prod.mk.inj later
      rw [finished]
      rfl
    · exact ih nothing

/-- The answer to a transfer is that of the ledger. -/
theorem exchange_eq (out : Bytes) (e : Emulated) :
    (e.exchange out).1 = (e.responder.ledger.entry (.outCompleted out)).answer := by
  have entry := Legacy.entry_ledger ⟨true, fun _ => false, fun _ => 0⟩ (.outCompleted out)
    e.responder
  rw [← entry]
  show (drain (e.responder.outCompleted out).1
    ((e.responder.outCompleted out).2.filterMap Action.transfer?)).1
      = (Legacy.entryOf (e.responder.outCompleted out)).answer
  rw [Legacy.Ledger.Entry.answer, Legacy.entryOf]
  dsimp only
  cases (e.responder.outCompleted out).2.filterMap Action.transfer? with
  | nil => rw [drain_nil]
  | cons first rest => exact drain_eq (List.cons_ne_nil first rest)

theorem length_answer_le {entry : Legacy.Ledger.Entry} {n : Nat}
    (bounded : (entry.sends ++ entry.after.due).length ≤ n) : entry.answer.length ≤ n := by
  rw [Legacy.Ledger.Entry.answer]
  cases sends : entry.sends with
  | nil => exact Nat.zero_le n
  | cons first rest =>
    rw [sends] at bounded
    exact bounded

/-- No answer has more than four transfers. -/
theorem length_exchange_le (out : Bytes) (e : Emulated) : (e.exchange out).1.length ≤ 4 := by
  rw [exchange_eq]
  cases classified : Container.classify out with
  | error error =>
    rw [Legacy.Ledger.entry_of_error classified]
    exact Nat.zero_le 4
  | ok c =>
    rw [Legacy.Ledger.entry_of_ok classified]
    cases c.header.kind with
    | command =>
      apply length_answer_le
      show ((Legacy.answerTo c).take 1 ++ (Legacy.answerTo c).drop 1).length ≤ 4
      rw [List.take_append_drop]
      exact Legacy.length_answerTo_le c
    | data =>
      show (e.responder.ledger.onData c).answer.length ≤ 4
      cases pending : e.responder.ledger.pending with
      | none =>
        rw [Legacy.Ledger.onData_of_none pending]
        exact Nat.zero_le 4
      | some op =>
        by_cases own : op.code = c.header.code ∧ op.tid = c.header.tid
        · -- nothing is due while DATA is awaited, so that the RESPONSE is the whole answer
          apply length_answer_le
          simp [Legacy.Ledger.onData, pending, own, Legacy.due_of_pending pending]
        · rw [Legacy.Ledger.onData_of_foreign pending own]
          exact Nat.zero_le 4
    | response => exact Nat.zero_le 4
    | event => exact Nat.zero_le 4

/-- A host that collects everything gets what `drain` lists. -/
theorem collected_drain (s : Legacy) (waiting : List Bytes) :
    ∀ a : Attached Bus.Endpoints Legacy, a.responder = s → a.queue = waiting →
      ∃ b, a.Collected (drain s waiting).1 b ∧ b.queue = [] ∧
        b.responder = (drain s waiting).2.1 := by
  fun_induction drain s waiting with
  | case1 s =>
    intro a responder waits
    exact ⟨a, .done waits, waits, responder⟩
  | case2 s transfer waiting r transfers last events later ih =>
    rintro a rfl waits
    obtain ⟨b, collected, empty, same⟩ :=
      ih a.collect (Attached.responder_collect a)
        (Attached.queue_collect waits (Legacy.plain_inCompleted a.responder Endpoint.bulkIn))
    rw [later] at collected same
    exact ⟨b, .next waits collected, empty, same⟩

/-- The answer to a transfer is what a host collects after it. -/
theorem collected_exchange {a : Attached Bus.Endpoints Legacy} {e : Emulated}
    (same : e.responder = a.responder) (empty : a.queue = []) (out : Bytes) :
    ∃ b, (a.outCompleted out).Collected (e.exchange out).1 b ∧ b.queue = [] ∧
      (e.exchange out).2.responder = b.responder := by
  have moved : (a.outCompleted out).responder = (a.responder.outCompleted out).1 :=
    Attached.responder_step a (.outCompleted out)
  have queued : (a.outCompleted out).queue
      = (a.responder.outCompleted out).2.filterMap Action.transfer? :=
    Attached.queue_of_forward (Legacy.forward_outCompleted a.responder out) empty
  rw [← same] at moved queued
  obtain ⟨b, collected, finished, last⟩ := collected_drain _ _ _ moved queued
  exact ⟨b, collected, finished, last.symm⟩

/-- The answers to some transfers of the host, one after another, and the camera after them. -/
def exchanges : List Bytes → Emulated → List (List Bytes) × Emulated
  | [], e => ([], e)
  | out :: rest, e =>
    let (transfers, next) := e.exchange out
    let (later, last) := exchanges rest next
    (transfers :: later, last)

theorem exchanges_cons (out : Bytes) (rest : List Bytes) (e : Emulated) :
    exchanges (out :: rest) e = ((e.exchange out).1 :: (exchanges rest (e.exchange out).2).1,
      (exchanges rest (e.exchange out).2).2) := rfl

/-- The answers are what a host collects that waits for each before its next transfer. -/
theorem answered_exchanges {a : Attached Bus.Endpoints Legacy} {e : Emulated}
    (same : e.responder = a.responder) (empty : a.queue = []) (outs : List Bytes) :
    ∃ b, a.Answered outs (exchanges outs e).1 b := by
  induction outs generalizing a e with
  | nil => exact ⟨a, .nil a⟩
  | cons out rest ih =>
    obtain ⟨b, collected, finished, moved⟩ := collected_exchange same empty out
    obtain ⟨c, later⟩ := ih moved finished
    exact ⟨c, .cons collected later⟩

theorem length_exchanges (outs : List Bytes) (e : Emulated) :
    (exchanges outs e).1.length = outs.length := by
  induction outs generalizing e with
  | nil => rfl
  | cons out rest ih => exact congrArg (· + 1) (ih _)

/-- What holds of every answer holds of each of some answers. -/
theorem forall_mem_exchanges {p : List Bytes → Prop} (h : ∀ out e, p (exchange out e).1)
    (outs : List Bytes) (e : Emulated) : ∀ answer ∈ (exchanges outs e).1, p answer := by
  induction outs generalizing e with
  | nil => exact List.forall_mem_nil _
  | cons out rest ih =>
    rw [exchanges_cons]
    exact List.forall_mem_cons.2 ⟨h out e, ih _⟩

theorem length_le_of_mem_exchanges {outs : List Bytes} {e : Emulated} :
    ∀ data ∈ (exchanges outs e).1.flatten, data.length ≤ transferSize := by
  have each : ∀ answer ∈ (exchanges outs e).1, ∀ data ∈ answer, data.length ≤ transferSize := by
    apply forall_mem_exchanges
    intro out e
    exact length_le_of_mem_exchange
  intro data sent
  obtain ⟨answer, listed, inside⟩ := List.mem_flatten.1 sent
  exact each answer listed data inside

end Relay.Emulated

end PictureTransfer
