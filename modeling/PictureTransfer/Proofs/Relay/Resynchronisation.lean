import PictureTransfer.Proofs.Relay.Frames

/-!
# Reading frames one after another

A reader with a limit takes a frame or refuses it, and either way its next read starts at the next
frame, whatever the types and lengths before it. Bytes that end inside a frame give the frames
before the end and then a closed link, wherever the end is. A frame is read from no bytes but those
it is written as. `reads_each_frame` states the three together.
-/

namespace PictureTransfer

namespace Relay.Frame

/-! ## One frame -/

/-- What becomes of a frame that is read with a limit on its payload. -/
def verdict (max : Nat) (f : Frame) : Except Error Frame :=
  if max < f.payload.length then .error (.frameTooLarge f.payload.length max) else .ok f

/-- The outcome of a read, and what is left to be read. -/
def readNext (max : Nat) (s : Source) : Except Error Frame × Source :=
  match read max s with
  | .ok f t => (.ok f, t)
  | .error e t => (.error e, t)

/-- A frame in front of other bytes is taken whole, whether or not its payload is within the limit.
-/
theorem read_append {f : Frame} (counted : f.payload.length + 1 < Bytes.capacity 4) (max : Nat)
    (rest : Bytes) (ending : Fault) :
    read max (.ofBytes (f.encode ++ rest) ending) = if max < f.payload.length
      then .error (.frameTooLarge f.payload.length max) (.ofBytes rest ending)
      else .ok f (.ofBytes rest ending) := by
  rw [Source.ofBytes_append]
  exact read_behind max f _ counted

theorem readNext_encode {f : Frame} (counted : f.payload.length + 1 < Bytes.capacity 4) (max : Nat)
    (rest : Bytes) (ending : Fault) :
    readNext max (.ofBytes (f.encode ++ rest) ending) = (f.verdict max, .ofBytes rest ending) := by
  rw [readNext, read_append counted, verdict]
  by_cases long : max < f.payload.length
  · rw [if_pos long, if_pos long]
  · rw [if_neg long, if_neg long]

theorem readBytes_short {bytes : Bytes} {n : Nat} (short : bytes.length < n) (ending : Fault) :
    readBytes n (.ofBytes bytes ending) = .error (.ofFault ending) (.ofBytes [] ending) := by
  rw [readBytes, Source.take_short short]

theorem readBytes_append {bytes : Bytes} {n : Nat} (size : bytes.length = n) (rest : Bytes)
    (ending : Fault) :
    readBytes n (.ofBytes (bytes ++ rest) ending) = .ok bytes (.ofBytes rest ending) := by
  rw [Source.ofBytes_append]
  exact readBytes_behind bytes _ size

/-- A length of zero is no frame. -/
theorem read_zero (max : Nat) (later : Bytes) (ending : Fault) :
    read max (.ofBytes ([0, 0, 0, 0] ++ later) ending)
      = .error .invalidLength (.ofBytes later ending) := by
  have none_counted : Bytes.bigValue [0, 0, 0, 0] = 0 := rfl
  rw [read, @readBytes_append [0, 0, 0, 0] 4 rfl later ending]
  dsimp only
  rw [if_pos none_counted]

/-- Bytes that end inside a frame are no frame, and the read meets what is behind them. -/
theorem read_truncated {f : Frame} (counted : f.payload.length + 1 < Bytes.capacity 4) (max : Nat)
    {front : Bytes} (cut : front <+: f.encode) (short : front.length < f.encode.length)
    (ending : Fault) :
    read max (.ofBytes front ending) = .error (.ofFault ending) (.ofBytes [] ending) := by
  have size : Bytes.bigValue (Bytes.big 4 (f.payload.length + 1)) = f.payload.length + 1 := by
    rw [Bytes.bigValue_big, Nat.mod_eq_of_lt counted]
  rw [encode] at cut short
  -- the end is in the length, in front of the type, or in the payload
  rcases cut_of_append cut with ⟨-, few⟩ | ⟨behind, rfl, inside⟩
  · rw [Bytes.length_big] at few
    simp only [read, readBytes_short few]
  · have length := readBytes_append (Bytes.length_big 4 (f.payload.length + 1)) behind ending
    cases behind with
    | nil =>
      have none_left : readBytes 1 (.ofBytes [] ending)
          = .error (.ofFault ending) (.ofBytes [] ending) := readBytes_short Nat.one_pos ending
      simp only [read, length, size, Nat.add_one_ne_zero, if_false, none_left]
    | cons type behind =>
      obtain ⟨rfl, -⟩ := List.cons_prefix_cons.1 inside
      have few : behind.length < f.payload.length := by
        simpa using short
      have type : readBytes 1 (.ofBytes (f.type :: behind) ending)
          = .ok [f.type] (.ofBytes behind ending) := @readBytes_append [f.type] 1 rfl behind ending
      simp only [read, length, size, Nat.add_one_ne_zero, if_false, type, Nat.add_sub_cancel,
        readBytes_short few]

theorem bytes_of_readBytes {n : Nat} {bytes taken : Bytes} {ending : Fault} {t : Source}
    (h : readBytes n (.ofBytes bytes ending) = .ok taken t) :
    taken.length = n ∧ ∃ rest, bytes = taken ++ rest ∧ t = .ofBytes rest ending := by
  rw [readBytes] at h
  split at h
  · next read =>
    cases h
    obtain ⟨count, same⟩ := Source.behind_of_take read
    exact ⟨count, Source.bytes_of_behind same⟩
  · cases h

/-- What is read as a frame is what that frame is written as, and the rest is left. -/
theorem encode_of_read {max : Nat} {bytes : Bytes} {ending : Fault} {f : Frame} {left : Source}
    (h : read max (.ofBytes bytes ending) = .ok f left) :
    ∃ rest, bytes = f.encode ++ rest ∧ left = .ofBytes rest ending := by
  rw [read] at h
  split at h
  · cases h
  · next size t₁ first =>
    obtain ⟨four, bytes₁, rfl, rfl⟩ := bytes_of_readBytes first
    split at h
    · cases h
    · next counted =>
      split at h
      · cases h
      · next type t₂ second =>
        obtain ⟨one, bytes₂, rfl, rfl⟩ := bytes_of_readBytes second
        obtain ⟨b, rfl⟩ := List.length_eq_one_iff.1 one
        dsimp only at h
        split at h
        · cases h
        · next payload t₃ third =>
          obtain ⟨count, rest, rfl, rfl⟩ := bytes_of_readBytes third
          split at h
          · cases h
          · cases h
            -- the length that was read is the one that would be written
            have total : payload.length + 1 = Bytes.bigValue size := by omega
            refine ⟨rest, ?_, rfl⟩
            rw [encode, total, Bytes.big_bigValue four]
            simp

/-- A length that is not zero and as many bytes behind it begin with a frame. -/
theorem exists_encode {size : Bytes} (four : size.length = 4)
    (counts : Bytes.bigValue size ≠ 0) (behind : Bytes)
    (enough : Bytes.bigValue size ≤ behind.length) :
    ∃ f : Frame, f.payload.length + 1 < Bytes.capacity 4 ∧ f.encode <+: size ++ behind := by
  obtain ⟨n, count⟩ := Nat.exists_eq_succ_of_ne_zero counts
  cases behind with
  | nil => exact absurd (Nat.le_zero.1 enough) counts
  | cons type more =>
    have length : (more.take n).length = n := by
      rw [List.length_cons] at enough
      rw [List.length_take]
      omega
    have bound : Bytes.bigValue size < Bytes.capacity 4 := by
      have below := Bytes.littleValue_lt size.reverse
      rw [List.length_reverse, four] at below
      exact below
    refine ⟨⟨type, more.take n⟩, ?_, more.drop n, ?_⟩
    · show (more.take n).length + 1 < _
      rw [length, ← Nat.succ_eq_add_one, ← count]
      exact bound
    · show Bytes.big 4 ((more.take n).length + 1) ++ type :: more.take n ++ more.drop n = _
      rw [length, ← Nat.succ_eq_add_one, ← count, Bytes.big_bigValue four, List.append_assoc,
        List.cons_append, List.take_append_drop]

/-- Bytes that do not begin with a length of zero can be continued so that they begin with a frame.
-/
theorem exists_encode_padded (bytes : Bytes) : (∃ later, bytes = [0, 0, 0, 0] ++ later) ∨
    ∃ (f : Frame) (padding : Bytes), f.payload.length + 1 < Bytes.capacity 4 ∧
      f.encode <+: bytes ++ padding := by
  rcases Nat.lt_or_ge bytes.length 4 with few | enough
  · -- a last byte of one makes the length count
    let size : Bytes := bytes ++ List.replicate (3 - bytes.length) 0 ++ [1]
    have four : size.length = 4 := by
      simp only [size, List.length_append, List.length_replicate, List.length_singleton]
      omega
    have counts : Bytes.bigValue size ≠ 0 := by
      rw [Bytes.bigValue, List.reverse_concat, Bytes.littleValue]
      exact Nat.ne_of_gt (Nat.lt_add_right _ Nat.one_pos)
    obtain ⟨f, counted, front⟩ := exists_encode four counts
      (List.replicate (Bytes.bigValue size) 0) (Nat.le_of_eq List.length_replicate.symm)
    rw [List.append_assoc, List.append_assoc] at front
    exact .inr ⟨f, _, counted, front⟩
  · have four : (bytes.take 4).length = 4 := List.length_take_of_le enough
    by_cases zero : Bytes.bigValue (bytes.take 4) = 0
    · have none_counted := Bytes.big_bigValue four
      rw [zero] at none_counted
      refine .inl ⟨bytes.drop 4, ?_⟩
      rw [← List.take_append_drop 4 bytes, ← none_counted]
      rfl
    · have padded : Bytes.bigValue (bytes.take 4) ≤ (bytes.drop 4
          ++ List.replicate (Bytes.bigValue (bytes.take 4)) (0 : UInt8)).length := by
        rw [List.length_append, List.length_replicate]
        exact Nat.le_add_left _ _
      obtain ⟨f, counted, front⟩ := exists_encode four zero _ padded
      rw [← List.append_assoc, List.take_append_drop] at front
      exact .inr ⟨f, _, counted, front⟩

/-- Bytes end inside a frame, or begin with a length of zero or with a frame. -/
theorem front_cases (bytes : Bytes) :
    (∃ f : Frame, f.payload.length + 1 < Bytes.capacity 4 ∧ bytes <+: f.encode ∧
      bytes.length < f.encode.length) ∨
    (∃ later, bytes = [0, 0, 0, 0] ++ later) ∨
    ∃ (f : Frame) (later : Bytes), f.payload.length + 1 < Bytes.capacity 4 ∧
      bytes = f.encode ++ later := by
  rcases exists_encode_padded bytes with zero | ⟨f, padding, counted, front⟩
  · exact .inr (.inl zero)
  · rcases List.prefix_or_prefix_of_prefix (List.prefix_append bytes padding) front with
      inside | ⟨later, rfl⟩
    · rcases Nat.lt_or_ge bytes.length f.encode.length with short | long
      · exact .inl ⟨f, counted, inside, short⟩
      · exact .inr (.inr ⟨f, [], counted, by rw [inside.eq_of_length_le long, List.append_nil]⟩)
    · exact .inr (.inr ⟨f, later, counted, rfl⟩)

/-! ## Many frames -/

/-- Reads so many frames, one after another, whatever becomes of each. -/
def readEach (max : Nat) : Nat → Source → List (Except Error Frame) × Source
  | 0, s => ([], s)
  | n + 1, s =>
    let (outcome, left) := readNext max s
    let (later, last) := readEach max n left
    (outcome :: later, last)

theorem readEach_succ {max : Nat} {s t : Source} {outcome : Except Error Frame}
    (next : readNext max s = (outcome, t)) (n : Nat) :
    readEach max (n + 1) s = (outcome :: (readEach max n t).1, (readEach max n t).2) := by
  rw [readEach, next]

/-- Frames that are written one behind the other are taken one by one. -/
theorem readEach_encode {frames : List Frame}
    (counted : ∀ f ∈ frames, f.payload.length + 1 < Bytes.capacity 4) (max : Nat) (rest : Bytes)
    (ending : Fault) :
    readEach max frames.length (.ofBytes (frames.flatMap encode ++ rest) ending)
      = (frames.map (verdict max), .ofBytes rest ending) := by
  induction frames with
  | nil => rfl
  | cons f others ih =>
    obtain ⟨first, later⟩ := List.forall_mem_cons.1 counted
    have next := readNext_encode first max (others.flatMap encode ++ rest) ending
    rw [← List.append_assoc, ← List.flatMap_cons] at next
    rw [List.length_cons, readEach_succ next, ih later, List.map_cons]

/-- A cut through frames written one behind the other leaves some frames in front of it whole. -/
theorem readEach_truncated {frames : List Frame}
    (counted : ∀ f ∈ frames, f.payload.length + 1 < Bytes.capacity 4) (max : Nat) {front : Bytes}
    (cut : front <+: frames.flatMap encode)
    (short : front.length < (frames.flatMap encode).length) :
    ∃ n < frames.length, (frames.take n).flatMap encode <+: front ∧
      front.length < ((frames.take (n + 1)).flatMap encode).length ∧
      (readEach max (n + 1) (.ofBytes front .closed)).1
        = (frames.take n).map (verdict max) ++ [.error .closed] := by
  induction frames generalizing front with
  | nil => cases short
  | cons f others ih =>
    obtain ⟨first, later⟩ := List.forall_mem_cons.1 counted
    rw [List.flatMap_cons] at cut short
    rcases cut_of_append cut with ⟨inside, few⟩ | ⟨behind, rfl, inside⟩
    · -- the cut goes through the first frame
      have closed : readNext max (.ofBytes front .closed)
          = (.error .closed, .ofBytes [] .closed) := by
        rw [readNext, read_truncated first max inside few]
        rfl
      refine ⟨0, Nat.zero_lt_succ _, List.nil_prefix, ?_, ?_⟩
      · simpa using few
      · rw [readEach_succ closed]
        rfl
    · rw [List.length_append, List.length_append] at short
      obtain ⟨n, bound, whole, few, reads⟩ := ih later inside (Nat.lt_of_add_lt_add_left short)
      have next := readNext_encode first max behind .closed
      refine ⟨n + 1, Nat.succ_lt_succ bound, ?_, ?_, ?_⟩
      · rw [List.take_succ_cons, List.flatMap_cons]
        exact (List.prefix_append_right_inj _).2 whole
      · rw [List.take_succ_cons, List.flatMap_cons, List.length_append, List.length_append]
        exact Nat.add_lt_add_left few _
      · rw [readEach_succ next, reads]
        rfl

/-- Reading with any limit, once for each frame that was written, gives each frame whose payload is
within the limit, the length of each that is not, and leaves what is behind them. Where the bytes
are cut off before their end, the frames in front of the cut are given, and then the link is closed.
And bytes from which a frame is read begin with that frame as it is written, and the rest of them is
left. -/
theorem reads_each_frame {frames : List Frame}
    (counted : ∀ f ∈ frames, f.payload.length < 0xFFFFFFFF) (max : Nat) :
    (∀ rest ending, readEach max frames.length (.ofBytes (frames.flatMap encode ++ rest) ending)
      = (frames.map (verdict max), .ofBytes rest ending)) ∧
    (∀ front, front <+: frames.flatMap encode → front ≠ frames.flatMap encode →
      ∃ n < frames.length, (frames.take n).flatMap encode <+: front ∧
        front.length < ((frames.take (n + 1)).flatMap encode).length ∧
        (readEach max (n + 1) (.ofBytes front .closed)).1
          = (frames.take n).map (verdict max) ++ [.error .closed]) ∧
    (∀ bytes ending f left, read max (.ofBytes bytes ending) = .ok f left →
      ∃ rest, bytes = f.encode ++ rest ∧ left = .ofBytes rest ending) := by
  have counted : ∀ f ∈ frames, f.payload.length + 1 < Bytes.capacity 4 := by
    intro f listed
    have bound := counted f listed
    show f.payload.length + 1 < 4294967296
    omega
  refine ⟨readEach_encode counted max, ?_, ?_⟩
  · intro front cut proper
    have short : front.length < (frames.flatMap encode).length :=
      Nat.lt_of_le_of_ne cut.length_le fun same => proper (cut.eq_of_length same)
    exact readEach_truncated counted max cut short
  · intro bytes ending f left read
    exact encode_of_read read

/-- Three frames, the second too large for a reader that takes two bytes, the third of no known
type. -/
def assorted : List Frame := [rawIn [1, 2], rawOut [3, 4, 5], ⟨0x7F, []⟩]

/-- The frame that is too large is passed over, and the one behind it is read. -/
theorem reads_each_assorted :
    (∀ f ∈ assorted, f.payload.length < 0xFFFFFFFF) ∧
      readEach 2 3 (.ofBytes (assorted.flatMap encode ++ [9]) .closed)
        = ([.ok (rawIn [1, 2]), .error (.frameTooLarge 3 2), .ok ⟨0x7F, []⟩],
            .ofBytes [9] .closed) := by
  have counted : ∀ f ∈ assorted, f.payload.length < 0xFFFFFFFF := by decide
  exact ⟨counted, (reads_each_frame counted 2).1 [9] .closed⟩

end Relay.Frame

end PictureTransfer
