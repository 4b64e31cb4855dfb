import PictureTransfer.Proofs.Channel
import PictureTransfer.Relay.Frame

/-!
# Frames on the wire

What was written as a frame is taken from a source whole, with everything behind it left over: it is
read back as that frame, or passed over when its payload exceeds the reader's limit
(`Frame.read_behind`).
-/

namespace PictureTransfer

namespace Relay.Frame

theorem readBytes_behind (bytes : Bytes) (s : Source) {n : Nat} (size : bytes.length = n) :
    readBytes n (s.behind bytes) = .ok bytes s := by
  rw [← size, readBytes, Source.take_behind]

/-- A frame is taken from the source whole, whether or not its payload is within the limit. -/
theorem read_behind (max : Nat) (f : Frame) (s : Source)
    (counted : f.payload.length + 1 < Bytes.capacity 4) :
    read max (s.behind f.encode) = if max < f.payload.length
      then .error (.frameTooLarge f.payload.length max) s else .ok f s := by
  have size : Bytes.bigValue (Bytes.big 4 (f.payload.length + 1)) = f.payload.length + 1 := by
    rw [Bytes.bigValue_big, Nat.mod_eq_of_lt counted]
  have cut : s.behind f.encode
      = ((s.behind f.payload).behind [f.type]).behind (Bytes.big 4 (f.payload.length + 1)) := by
    rw [← Source.behind_append, ← Source.behind_append]
    rfl
  have length : readBytes 4 (s.behind f.encode) = .ok (Bytes.big 4 (f.payload.length + 1))
      ((s.behind f.payload).behind [f.type]) := by
    rw [cut]
    exact readBytes_behind _ _ (Bytes.length_big 4 _)
  have type : readBytes 1 ((s.behind f.payload).behind [f.type])
      = .ok [f.type] (s.behind f.payload) := readBytes_behind _ _ rfl
  have payload : readBytes f.payload.length (s.behind f.payload) = .ok f.payload s :=
    readBytes_behind _ _ rfl
  simp only [read, length, size, Nat.add_sub_cancel, type, payload]
  rw [if_neg (Nat.succ_ne_zero _)]
  rfl

/-- A frame that is not too long is read back as it was written. -/
theorem read_encode {max : Nat} (f : Frame) (s : Source) (fits : f.payload.length ≤ max)
    (counted : f.payload.length + 1 < Bytes.capacity 4) :
    read max (s.behind f.encode) = .ok f s := by
  rw [read_behind max f s counted, if_neg (Nat.not_lt.2 fits)]

end Relay.Frame

end PictureTransfer
