import PictureTransfer.Bytes

/-!
# The bulk pipes of a camera

What the host meets at the two bulk pipes of an opened interface. Each flush of the OUT pipe sends
one run of bytes, and the camera's script says what the IN pipe brings after it. Reads take bytes
in order and pay no heed to the ends of transfers. `take_ok` says that a read which succeeds takes
exactly the bytes it was asked for, off the front of what is waiting.
-/

namespace PictureTransfer.Camera

/-- What the IN pipe brings: the bytes of one transfer, or a failure that lasts. -/
inductive Incoming where
  | transfer (bytes : Bytes)
  | failure (text : String)
  deriving DecidableEq, Repr

/-- Why a read fails: nothing comes any more, or the pipe has failed. -/
inductive ReadFault where
  | timedOut
  | failed (text : String)
  deriving DecidableEq, Repr

namespace Incoming

/-- The bytes that come before the first failure. -/
def waiting : List Incoming → Bytes
  | [] => []
  | transfer bytes :: rest => bytes ++ waiting rest
  | failure _ :: _ => []

/-- Reads so many bytes. A read that fails has used up the bytes that it found. -/
def take : Nat → List Incoming → Except ReadFault Bytes × List Incoming
  | 0, items => (.ok [], items)
  | _ + 1, [] => (.error .timedOut, [])
  | _ + 1, failure text :: rest => (.error (.failed text), failure text :: rest)
  | n + 1, transfer bytes :: rest =>
    if n < bytes.length then
      (.ok (bytes.take (n + 1)), transfer (bytes.drop (n + 1)) :: rest)
    else match take (n + 1 - bytes.length) rest with
      | (.ok more, left) => (.ok (bytes ++ more), left)
      | (.error fault, left) => (.error fault, left)

theorem take_ok {n : Nat} {items left : List Incoming} {bytes : Bytes}
    (h : take n items = (.ok bytes, left)) :
    bytes.length = n ∧ waiting items = bytes ++ waiting left := by
  fun_induction take n items generalizing bytes left with
  | case1 items =>
    cases h
    exact ⟨rfl, rfl⟩
  | case2 => cases h
  | case3 => cases h
  | case4 n first rest enough =>
    cases h
    refine ⟨by rw [List.length_take]; omega, ?_⟩
    rw [waiting, waiting, ← List.append_assoc, List.take_append_drop]
  | case5 n first rest short more after step ih =>
    cases h
    obtain ⟨count, front⟩ := ih step
    refine ⟨by rw [List.length_append, count]; omega, ?_⟩
    rw [waiting, front, List.append_assoc]
  | case6 => cases h

end Incoming

/-- The pipes, and what they have been used for so far. The camera's script gives for each flush
the text with which it fails or what the IN pipe brings after it. -/
structure Pipes where
  script : Nat → Except String (List Incoming)
  incoming : List Incoming := []
  flushes : Nat := 0
  sent : List Bytes := []
  timeouts : List Nat := []

namespace Pipes

/-- How many bytes can still be read. -/
def pending (p : Pipes) : Nat := (Incoming.waiting p.incoming).length

/-- Sends some bytes. A flush that fails counts, and its bytes are lost. -/
def flush (bytes : Bytes) (p : Pipes) : Except String Unit × Pipes :=
  let next := { p with flushes := p.flushes + 1 }
  match p.script p.flushes with
  | .error text => (.error text, next)
  | .ok items =>
    (.ok (), { next with sent := p.sent ++ [bytes], incoming := p.incoming ++ items })

/-- Sets how long the following reads wait, in milliseconds. -/
def waitAtMost (timeout : Nat) (p : Pipes) : Pipes := { p with timeouts := p.timeouts ++ [timeout] }

/-- Reads so many bytes. -/
def read (n : Nat) (p : Pipes) : Except ReadFault Bytes × Pipes :=
  let (result, incoming) := Incoming.take n p.incoming
  (result, { p with incoming })

/-- What a read takes is no longer pending. -/
theorem pending_of_read {n : Nat} {p q : Pipes} {bytes : Bytes} (h : read n p = (.ok bytes, q)) :
    q.pending + n = p.pending ∧ bytes.length = n := by
  rcases step : Incoming.take n p.incoming with ⟨result, left⟩
  simp only [read, step, Prod.mk.injEq] at h
  obtain ⟨rfl, rfl⟩ := h
  obtain ⟨count, front⟩ := Incoming.take_ok step
  simp only [pending, front, List.length_append, count, and_true]
  omega

end Pipes

end PictureTransfer.Camera
