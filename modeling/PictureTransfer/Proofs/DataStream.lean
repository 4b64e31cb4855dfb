import PictureTransfer.DataStream
import Mathlib.Data.List.Basic

/-!
# The transfers of a DATA phase

A stream sends its container one completion at a time, and `containerTransfers` cuts the same
container at once. `DataStream.rest` lists the transfers that a stream still has to send; each
further transfer is the head of that list (`rest_of_next?`), a stream is finished when the list is
empty (`rest_of_finished`), and the first transfer together with the list after it is the container
cut at once (`start_rest`).
-/

namespace PictureTransfer

namespace Bytes

variable {α : Type}

/-- Something to cut has a first piece. -/
theorem pieces_of_ne_nil {n : Nat} (positive : 0 < n) {items : List α} (h : items ≠ []) :
    pieces n items = items.take n :: pieces n (items.drop n) := by
  have size : max n 1 = n := by omega
  cases items with
  | nil => exact absurd rfl h
  | cons b rest => rw [pieces, size]

@[simp] theorem pieces_nil (n : Nat) : pieces n ([] : List α) = [] := by
  rw [pieces]

/-- A piece is full, or it is the last one and has what is left over. -/
theorem length_of_mem_pieces {n : Nat} (positive : 0 < n) {items piece : List α}
    (h : piece ∈ pieces n items) : piece.length = n ∨ piece.length = items.length % n := by
  have size : max n 1 = n := by omega
  fun_induction pieces n items with
  | case1 => cases h
  | case2 b rest ih =>
    rw [size] at h ih
    rcases List.mem_cons.1 h with rfl | later
    · rw [List.length_take]
      by_cases full : n ≤ (b :: rest).length
      · exact .inl (Nat.min_eq_left full)
      · -- a piece that is not full is all there is
        rw [Nat.not_le] at full
        rw [Nat.mod_eq_of_lt full]
        exact .inr (Nat.min_eq_right (Nat.le_of_lt full))
    · rw [List.length_drop] at ih
      by_cases full : n ≤ (b :: rest).length
      · rw [Nat.mod_eq_sub_mod full]
        exact ih later
      · rw [List.drop_eq_nil_of_le (by omega), pieces_nil] at later
        cases later

/-- All pieces but the last are full. -/
theorem length_pieces_mul_lt {n : Nat} (positive : 0 < n) (items : List α) :
    (pieces n items).length * n < items.length + n := by
  have size : max n 1 = n := by omega
  fun_induction pieces n items with
  | case1 => simpa using positive
  | case2 b rest ih =>
    rw [size, List.length_drop] at ih
    rw [size, List.length_cons, Nat.succ_mul]
    -- either a full piece is cut off, or what is left is the last piece
    by_cases more : n ≤ (b :: rest).length
    · omega
    · have last : (b :: rest).drop n = [] := List.drop_eq_nil_of_le (by omega)
      rw [last, pieces_nil, List.length_nil, Nat.zero_mul, List.length_cons]
      omega

end Bytes

/-- A transfer of a container is full, has what is left over, or is the empty one that closes it. -/
theorem length_of_mem_containerTransfers {container transfer : Bytes}
    (h : transfer ∈ containerTransfers container) :
    transfer.length = transferSize ∨ transfer.length = container.length % transferSize ∨
      transfer = [] := by
  have piece : transfer ∈ Bytes.pieces transferSize container ∨ transfer = [] := by
    simp only [containerTransfers] at h
    split at h
    · exact .inr (List.mem_singleton.1 h)
    · split at h
      · exact (List.mem_append.1 h).imp_right List.mem_singleton.1
      · exact .inl h
  rcases piece with inside | closing
  · exact (Bytes.length_of_mem_pieces (by decide) inside).imp_right .inl
  · exact .inr (.inr closing)

/-- No transfer of a container is too long for the bus. -/
theorem length_le_of_mem_containerTransfers {container transfer : Bytes}
    (h : transfer ∈ containerTransfers container) : transfer.length ≤ transferSize := by
  have positive : 0 < transferSize := by decide
  rcases length_of_mem_containerTransfers h with full | last | closing
  · exact Nat.le_of_eq full
  · rw [last]
    exact Nat.le_of_lt (Nat.mod_lt _ positive)
  · rw [closing]
    exact Nat.zero_le _

/-- A container takes one transfer for each `transferSize` bytes, one for the rest, and one that
closes it. -/
theorem length_containerTransfers_le (container : Bytes) :
    (containerTransfers container).length ≤ container.length / transferSize + 2 := by
  have pieces := Bytes.length_pieces_mul_lt (n := transferSize) (by decide) container
  have count : (Bytes.pieces transferSize container).length
      ≤ container.length / transferSize + 1 := by
    simp only [transferSize] at pieces ⊢
    omega
  simp only [containerTransfers]
  split
  · simp
  · split
    · simpa using count
    · omega

namespace DataStream

/-- The transfers that completions still bring forth: the rest of the payload, and the closing
zero-length packet. -/
def rest (s : DataStream) : List Bytes :=
  Bytes.pieces transferSize (s.payload.drop s.offset) ++ if s.mustClose then [[]] else []

theorem rest_of_next? {s t : DataStream} {transfer : Bytes} (h : s.next? = some (transfer, t)) :
    s.rest = transfer :: t.rest := by
  simp only [next?] at h
  split at h
  · next more =>
    cases h
    have some_left : s.payload.drop s.offset ≠ [] := by
      intro none_left
      have := List.drop_eq_nil_iff.1 none_left
      omega
    show Bytes.pieces transferSize (s.payload.drop s.offset) ++ _
      = _ :: (Bytes.pieces transferSize
          (s.payload.drop (min (s.offset + transferSize) s.payload.length)) ++ _)
    rw [Bytes.pieces_of_ne_nil (by decide) some_left, ← List.drop_eq_drop_min, List.drop_drop,
      List.cons_append]
    rfl
  -- behind the payload only the closing packet is left
  · next all =>
    split at h
    · next mustClose =>
      cases h
      have nothing : s.payload.drop s.offset = [] := List.drop_eq_nil_of_le (by omega)
      have closed : ({ s with closed := true } : DataStream).mustClose = false := by
        simp [DataStream.mustClose]
      rw [rest, rest, mustClose, closed, nothing]
      simp
    · cases h

theorem rest_of_finished {s : DataStream} (h : s.next? = none) : s.rest = [] := by
  simp only [next?] at h
  split at h
  · cases h
  · next all =>
    split at h
    · cases h
    · next closed =>
      have nothing : s.payload.drop s.offset = [] := List.drop_eq_nil_of_le (by omega)
      rw [rest, nothing]
      simp [closed]

/-- Only the offset and the mark of the closing packet change as a stream goes on. -/
theorem eq_of_next? {s t : DataStream} {transfer : Bytes} (h : s.next? = some (transfer, t)) :
    t = { s with offset := t.offset, closed := t.closed } := by
  simp only [next?] at h
  split at h
  · cases h; rfl
  · split at h
    · cases h; rfl
    · cases h

/-- A stream goes on owing what it owes. -/
theorem owed_of_next? {s t : DataStream} {transfer : Bytes} (h : s.next? = some (transfer, t)) :
    t.owed = s.owed := by
  rw [eq_of_next? h]
  rfl

/-- A stream goes on for the same operation. -/
theorem op_of_next? {s t : DataStream} {transfer : Bytes} (h : s.next? = some (transfer, t)) :
    t.op = s.op := by
  rw [eq_of_next? h]

/-- A stream goes on in the same transaction. -/
theorem tid_of_next? {s t : DataStream} {transfer : Bytes} (h : s.next? = some (transfer, t)) :
    t.tid = s.tid := by
  rw [eq_of_next? h]

/-- No transfer that follows a completion is too long for the bus. -/
theorem length_le_of_next? {s t : DataStream} {transfer : Bytes}
    (h : s.next? = some (transfer, t)) : transfer.length ≤ transferSize := by
  simp only [next?] at h
  split at h
  · cases h
    exact List.length_take_le _ _
  · split at h
    · cases h
      exact Nat.zero_le _
    · cases h

/-- What a fresh stream sends is its container, cut at once. -/
theorem start_rest {s : DataStream} (fresh : s.closed = false) :
    s.start.1 :: s.start.2.rest = containerTransfers (dataContainer s.op s.tid s.payload) := by
  obtain ⟨header, header_length, container, first⟩ : ∃ header : Bytes, header.length = 12 ∧
      dataContainer s.op s.tid s.payload = header ++ s.payload ∧
      s.start.1 = header ++ s.payload.take firstRoom :=
    ⟨_, Header.length_encode ⟨.data, s.op, s.tid⟩ .standard _, rfl, rfl⟩
  have length : (header ++ s.payload).length = s.totalLength := by
    rw [List.length_append, header_length, totalLength, Header.standardLength]
  have nonempty : header ++ s.payload ≠ [] := by
    intro empty
    rw [List.append_eq_nil_iff.1 empty |>.1] at header_length
    cases header_length
  -- The header takes the first twelve bytes of the first transfer.
  have front : (header ++ s.payload).take transferSize = s.start.1 := by
    rw [first, List.take_append, List.take_of_length_le (by rw [header_length]; decide),
      header_length]
    rfl
  have behind : (header ++ s.payload).drop transferSize = s.payload.drop firstRoom := by
    rw [List.drop_append, List.drop_of_length_le (by rw [header_length]; decide), header_length]
    rfl
  have closing : s.start.2.mustClose = s.needsClosing := by
    show (s.needsClosing && !s.closed) = _
    rw [fresh, Bool.not_false, Bool.and_true]
  show s.start.1 :: (Bytes.pieces transferSize (s.payload.drop (min s.payload.length firstRoom))
      ++ if s.start.2.mustClose then [[]] else []) = _
  rw [container, containerTransfers, List.isEmpty_eq_false_iff.2 nonempty,
    Bytes.pieces_of_ne_nil (by decide) nonempty, front, behind, closing, Nat.min_comm,
    ← List.drop_eq_drop_min, length, needsClosing]
  by_cases aligned : s.totalLength % packetSize = 0 <;> simp [aligned]

theorem length_start_le (s : DataStream) : s.start.1.length ≤ transferSize := by
  show ((Header.encode _ _ _) ++ s.payload.take firstRoom).length ≤ transferSize
  rw [List.length_append, Header.length_encode, List.length_take]
  simp only [Layout.headerLength, firstRoom, transferSize, Header.standardLength]
  omega

end DataStream

end PictureTransfer
