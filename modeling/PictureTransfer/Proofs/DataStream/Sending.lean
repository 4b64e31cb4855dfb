import PictureTransfer.Proofs.Callback
import PictureTransfer.Proofs.Container.Standard
import PictureTransfer.Proofs.DataStream
import PictureTransfer.Transaction

/-!
# A stream on its bus

A stream hands its first transfer to a bus when it begins, and one more at each completion until it
finds itself finished. `Sent` says what holds when so many transfers of a container have been
handed over: they wait on the bus in order, and the others are what the stream still has to send.
It is kept by every call that sends (`Sent.advance`), and when all are sent the next call finishes
the stream (`Sent.finished`). So the stream sends the transfers into which `containerTransfers` cuts
its container, each at its own call (`sends_containerTransfers`).
-/

namespace PictureTransfer

/-- A stream and the bus to which it sends. -/
structure Sending where
  stream : DataStream
  bus : Bus.Endpoints

namespace Sending

/-- A stream begins. -/
def begin (stream : DataStream) (bus : Bus.Endpoints) : Sending :=
  ⟨stream.start.2, Bus.perform (.submitIn Endpoint.bulkIn stream.start.1) bus⟩

/-- A transfer was collected: the next one is sent, or the stream is found finished. -/
def advance (x : Sending) : Sending × Transaction.Completion :=
  match x.stream.next? with
  | some (transfer, stream) =>
    (⟨stream, Bus.perform (.submitIn Endpoint.bulkIn transfer) x.bus⟩, .sent transfer)
  | none => (x, .finished x.stream.op x.stream.owed)

/-- So many transfers were collected. -/
def advances : Nat → Sending → Sending
  | 0, x => x
  | count + 1, x => (x.advances count).advance.1

/-- The same bus with some transfers put behind those that wait. -/
def behind (bus : Bus.Endpoints) (transfers : List Bytes) : Bus.Endpoints :=
  { bus with waiting := bus.waiting ++ transfers.map fun transfer => (Endpoint.bulkIn, transfer) }

theorem behind_nil (bus : Bus.Endpoints) : behind bus [] = bus := by
  rw [behind, List.map_nil, List.append_nil]

/-- A transfer that is not too long goes behind those that wait. -/
theorem perform_behind {bus : Bus.Endpoints} {transfers : List Bytes} {transfer : Bytes}
    (fits : transfer.length ≤ transferSize) :
    Bus.perform (.submitIn Endpoint.bulkIn transfer) (behind bus transfers)
      = behind bus (transfers ++ [transfer]) := by
  rw [Bus.perform, Bus.Endpoints.request_submitIn _ _ fits]
  simp [behind]

/-- The first `count` of some transfers have been sent, and the stream still has to send the
others. -/
structure Sent (transfers : List Bytes) (bus : Bus.Endpoints) (count : Nat) (x : Sending) :
    Prop where
  bus : x.bus = behind bus (transfers.take count)
  rest : x.stream.rest = transfers.drop count

variable {transfers : List Bytes} {bus : Bus.Endpoints} {count : Nat} {x : Sending}

theorem sent_begin {stream : DataStream} (fresh : stream.closed = false) (bus : Bus.Endpoints) :
    Sent (containerTransfers (dataContainer stream.op stream.tid stream.payload)) bus 1
      (begin stream bus) where
  bus := by
    have first : Bus.perform (.submitIn Endpoint.bulkIn stream.start.1) (behind bus [])
        = behind bus ([] ++ [stream.start.1]) := perform_behind stream.length_start_le
    rw [behind_nil] at first
    rw [← DataStream.start_rest fresh]
    exact first
  rest := by
    rw [← DataStream.start_rest fresh]
    rfl

/-- While there are transfers left, a call sends the next one. -/
theorem Sent.advance (h : Sent transfers bus count x) (more : count < transfers.length) :
    x.advance.2 = .sent transfers[count] ∧ Sent transfers bus (count + 1) x.advance.1 ∧
      x.advance.1.stream.op = x.stream.op ∧ x.advance.1.stream.owed = x.stream.owed := by
  have left : x.stream.rest = transfers[count] :: transfers.drop (count + 1) := by
    rw [h.rest, List.drop_eq_getElem_cons more]
  rw [Sending.advance]
  cases next : x.stream.next? with
  | none =>
    rw [DataStream.rest_of_finished next] at left
    cases left
  | some found =>
    obtain ⟨transfer, stream⟩ := found
    rw [DataStream.rest_of_next? next, List.cons.injEq] at left
    obtain ⟨rfl, others⟩ := left
    refine ⟨rfl, ⟨?_, others⟩, DataStream.op_of_next? next, DataStream.owed_of_next? next⟩
    show Bus.perform _ x.bus = _
    rw [h.bus, perform_behind (DataStream.length_le_of_next? next), List.take_append_getElem more]

/-- When all transfers have been sent, the next call finds the stream finished. -/
theorem Sent.finished (h : Sent transfers bus transfers.length x) :
    x.advance.2 = .finished x.stream.op x.stream.owed := by
  have left : x.stream.rest = [] := by
    rw [h.rest, List.drop_length]
  rw [Sending.advance]
  cases next : x.stream.next? with
  | none => rfl
  | some found =>
    rw [DataStream.rest_of_next? next] at left
    cases left

/-- Each call sends one transfer more. -/
theorem sent_advances (h : Sent transfers bus 1 x) (count : Nat)
    (within : count < transfers.length) :
    Sent transfers bus (count + 1) (x.advances count) ∧
      (x.advances count).stream.op = x.stream.op ∧
      (x.advances count).stream.owed = x.stream.owed := by
  induction count with
  | zero => exact ⟨h, rfl, rfl⟩
  | succ count ih =>
    obtain ⟨before, op, owed⟩ := ih (by omega)
    obtain ⟨-, after, sameOp, sameOwed⟩ := before.advance within
    exact ⟨after, sameOp.trans op, sameOwed.trans owed⟩

/-- A stream begins and is called once for each transfer that was collected. The bus then holds one
transfer more than there were calls, in the order in which they carry the container. A call sends
the next one while there is one, and the call after the last transfer finishes the stream, with the
RESPONSE that is owed. The header declares the length of the container, and every bus with endpoint
queues takes every transfer. -/
theorem sends_containerTransfers (op : UInt16) (tid : UInt32) (payload : Bytes)
    (respondAfter : Bool) (bus : Bus.Endpoints) (size : 12 + payload.length < UInt32.size) :
    let stream : DataStream := { op, tid, payload, respondAfter }
    let container := dataContainer op tid payload
    let transfers := containerTransfers container
    transfers ≠ [] ∧
    (∀ count < transfers.length,
      ((begin stream bus).advances count).bus
        = { bus with
            waiting := bus.waiting
              ++ (transfers.take (count + 1)).map fun transfer => (Endpoint.bulkIn, transfer) } ∧
      ((begin stream bus).advances count).advance.2
        = match transfers[count + 1]? with
          | some transfer => .sent transfer
          | none => .finished op (if respondAfter then some tid else none)) ∧
    (∃ total, Header.decodeStandard stream.start.1 = .ok (total, ⟨.data, op, tid⟩) ∧
      total.toNat = container.length) ∧
    ∀ transfer ∈ transfers, transfer.length ≤ 512 ∧
      ∀ other : Bus.Endpoints, Bus.request (.submitIn Endpoint.bulkIn transfer) other
        = .ok { other with waiting := other.waiting ++ [(Endpoint.bulkIn, transfer)] } := by
  intro stream container transfers
  have fresh : stream.closed = false := rfl
  have first : Sent transfers bus 1 (begin stream bus) := sent_begin fresh bus
  refine ⟨?_, ?_, ?_, ?_⟩
  · have cons : stream.start.1 :: stream.start.2.rest = transfers := DataStream.start_rest fresh
    rw [← cons]
    exact List.cons_ne_nil _ _
  · intro count within
    obtain ⟨sent, sameOp, sameOwed⟩ := sent_advances first count within
    refine ⟨sent.bus, ?_⟩
    by_cases more : count + 1 < transfers.length
    · rw [List.getElem?_eq_getElem more]
      exact (sent.advance more).1
    · have all : count + 1 = transfers.length := by omega
      rw [List.getElem?_eq_none (by omega)]
      rw [all] at sent
      rw [sent.finished, sameOp, sameOwed]
      rfl
  · have read := Header.decodeStandard_encode ⟨.data, op, tid⟩
      (UInt32.ofNat (12 + payload.length)) (payload.take DataStream.firstRoom)
    refine ⟨UInt32.ofNat (12 + payload.length), read, ?_⟩
    rw [UInt32.toNat_ofNat_of_lt' size]
    exact (length_standardContainer ⟨.data, op, tid⟩ payload).symm
  · intro transfer listed
    have fits := length_le_of_mem_containerTransfers listed
    exact ⟨fits, fun other => Bus.Endpoints.request_submitIn other _ fits⟩

/-- A container of one packet is followed by an empty transfer, and then the stream is finished. -/
theorem sends_containerTransfers_packet :
    12 + (List.replicate 52 0 : Bytes).length < UInt32.size ∧
    ∃ container : Bytes, container.length = 64 ∧
      ((begin { op := 0x1001, tid := 7, payload := List.replicate 52 0, respondAfter := true }
        {}).advances 1).bus.waiting = [(Endpoint.bulkIn, container), (Endpoint.bulkIn, [])] ∧
      ((begin { op := 0x1001, tid := 7, payload := List.replicate 52 0, respondAfter := true }
        {}).advances 1).advance.2 = .finished 0x1001 (some 7) := by
  have size : 12 + (List.replicate 52 0 : Bytes).length < UInt32.size := by decide
  obtain ⟨-, sent, -⟩ := sends_containerTransfers 0x1001 7 (List.replicate 52 0) true {} size
  have length : (dataContainer 0x1001 7 (List.replicate 52 0)).length = 64 := by
    rw [dataContainer, length_standardContainer, List.length_replicate]
  have nonempty : dataContainer 0x1001 7 (List.replicate 52 0) ≠ [] := by
    rw [← List.length_pos_iff, length]
    decide
  have two : containerTransfers (dataContainer 0x1001 7 (List.replicate 52 0))
      = [dataContainer 0x1001 7 (List.replicate 52 0), []] := by
    rw [containerTransfers, if_neg (by simpa using nonempty), if_pos (by rw [length]; rfl),
      Bytes.pieces_of_ne_nil (by decide) nonempty, List.take_of_length_le (by rw [length]; decide),
      List.drop_eq_nil_of_le (by rw [length]; decide), Bytes.pieces_nil]
    rfl
  rw [two] at sent
  obtain ⟨waiting, finished⟩ := sent 1 (by decide)
  refine ⟨size, _, length, ?_, finished⟩
  rw [waiting]
  rfl

end Sending

end PictureTransfer
