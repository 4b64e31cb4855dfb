import PictureTransfer.Proofs.Callback
import PictureTransfer.Proofs.DataStream
import PictureTransfer.Transaction

/-!
# What a transaction owes

While a transaction streams, it owes its host the rest of the stream and the RESPONSE behind it, and
otherwise nothing. `Transaction.due` lists what is owed. Each completion takes the first of it and
sends that (`sends_inCompleted`), and a stream that begins owes all of its container but the first
transfer (`due_of_startStream`).
-/

namespace PictureTransfer

theorem length_responseContainer_le (code : UInt16) (tid : UInt32) :
    (responseContainer code tid).length ≤ transferSize := by
  rw [responseContainer, length_standardContainer]
  decide

namespace Transaction

/-- Whether DATA is on its way to the host. -/
def streams : Transaction → Bool
  | streaming _ => true
  | _ => false

/-- The transfers that completions still bring forth. -/
def due : Transaction → List Bytes
  | streaming s => s.rest ++ (s.owed.map (responseContainer ResponseCode.ok)).toList
  | _ => []

/-- While DATA is on its way to the host no operation waits for DATA from it. -/
theorem pending?_of_streams {t : Transaction} (h : t.streams = true) : t.pending? = none := by
  cases t with
  | awaitingData op => cases h
  | _ => rfl

/-- What is taken is the operation that waits, and it has the code and the transaction asked for. -/
theorem takePending?_eq_some {t : Transaction} {code : UInt16} {tid : UInt32} {op : PendingOp} :
    t.takePending? code tid = some op ↔ t = .awaitingData op ∧ op.code = code ∧ op.tid = tid := by
  cases t with
  | idle => simp [takePending?]
  | streaming s => simp [takePending?]
  | awaitingData waiting =>
    simp only [takePending?, Option.ite_none_right_eq_some, Option.some.injEq, awaitingData.injEq]
    constructor
    · rintro ⟨same, rfl⟩
      exact ⟨rfl, same⟩
    · rintro ⟨rfl, same⟩
      exact ⟨same, rfl⟩

/-- What a responder sends at a completion that leads to this. -/
def Completion.sends : Completion → List Bytes
  | .sent transfer => [transfer]
  | .finished _ (some tid) => [responseContainer ResponseCode.ok tid]
  | _ => []

/-- A completion sends the first transfer that is owed. -/
theorem sends_inCompleted (t : Transaction) :
    t.inCompleted.1.sends = t.due.take 1 ∧ t.inCompleted.2.due = t.due.drop 1 := by
  cases t with
  | idle => exact ⟨rfl, rfl⟩
  | awaitingData op => exact ⟨rfl, rfl⟩
  | streaming s =>
    simp only [inCompleted]
    -- the stream sends its next piece, or it is at its end and the RESPONSE is still owed
    cases step : s.next? with
    | some sent =>
      have rest := DataStream.rest_of_next? step
      have owed := DataStream.owed_of_next? step
      simp [due, Completion.sends, rest, owed]
    | none =>
      have rest := DataStream.rest_of_finished step
      cases owed : s.owed <;> simp [due, Completion.sends, rest, owed]

/-- A completion leaves an operation that waits for DATA. -/
theorem pending?_inCompleted (t : Transaction) : t.inCompleted.2.pending? = t.pending? := by
  cases t with
  | idle => rfl
  | awaitingData op => rfl
  | streaming s =>
    rw [inCompleted]
    cases s.next? <;> rfl

/-- A completion starts no stream. -/
theorem streams_of_inCompleted (t : Transaction) (streams : t.inCompleted.2.streams = true) :
    t.streams = true := by
  cases t with
  | streaming s => rfl
  | idle => exact streams
  | awaitingData op => exact streams

/-- No transfer that a completion sends is too long for the bus. -/
theorem length_le_of_mem_sends {t : Transaction} {data : Bytes}
    (sent : data ∈ t.inCompleted.1.sends) : data.length ≤ transferSize := by
  cases t with
  | idle => cases sent
  | awaitingData op => cases sent
  | streaming s =>
    simp only [inCompleted] at sent
    cases step : s.next? with
    | some next =>
      rw [step] at sent
      obtain rfl := List.mem_singleton.1 sent
      exact DataStream.length_le_of_next? step
    | none =>
      rw [step] at sent
      cases owed : s.owed with
      | none =>
        rw [owed] at sent
        cases sent
      | some tid =>
        rw [owed] at sent
        obtain rfl := List.mem_singleton.1 sent
        exact length_responseContainer_le _ tid

/-- A stream that begins sends the first transfer of its container and owes the others, and then the
RESPONSE. -/
theorem due_of_startStream {t u : Transaction} {code : UInt16} {tid : UInt32}
    {payload transfer : Bytes} (started : t.startStream code tid payload true = .ok (transfer, u)) :
    transfer :: u.due = containerTransfers (dataContainer code tid payload)
        ++ [responseContainer ResponseCode.ok tid] ∧
      transfer.length ≤ transferSize ∧ u.streams = true := by
  simp only [startStream] at started
  split at started
  · cases started
  · cases started
    refine ⟨?_, DataStream.length_start_le _, rfl⟩
    have fresh := DataStream.start_rest
      (s := { op := code, tid, payload, respondAfter := true }) rfl
    rw [← fresh]
    rfl

/-- A transaction that streams gives up its stream, and any other gives up nothing. -/
theorem superseded_eq (t : Transaction) :
    t.superseded = if t.streams then [.abortIn Endpoint.bulkIn] else [] := by
  cases t <;> rfl

/-- What a COMMAND does to the bus before it is answered sends nothing. -/
theorem silent_superseded (t : Transaction) :
    Action.Silent (t.superseded.map Action.request) := by
  apply Action.silent_requests
  intro op h
  rw [superseded_eq] at h
  split at h
  · exact .inl (List.mem_singleton.1 h)
  · cases h

end Transaction

/-- Actions that report something, give up a stream that is under way, and take nothing back from
then on. -/
def Action.Supersedes (under : Transaction) (actions : List Action) : Prop :=
  ∃ (events : List Event) (back : List Action),
    actions = events.map Action.report ++ (under.superseded.map Action.request ++ back) ∧
      ∀ x ∈ back, x.Plain

end PictureTransfer
