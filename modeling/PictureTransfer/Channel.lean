import PictureTransfer.Bytes

/-!
# Byte channels

A `Source` is what a reader meets: bytes, pauses in which a read times out, and an end at which
every read fails in one way. A `Sink` is what a writer fills, with room for so many bytes.
`take_ok` says that a read which succeeds takes exactly the bytes it was asked for.
-/

namespace PictureTransfer

/-- Why a read fails. -/
inductive Fault where
  | closed
  | reset
  | timedOut
  deriving DecidableEq, Repr

/-- What a reader meets next: a byte, or a pause longer than it waits. -/
inductive Arrival where
  | byte (b : UInt8)
  | pause
  deriving DecidableEq, Repr

/-- What is still to be read, and what reading past it does. -/
structure Source where
  arrivals : List Arrival
  ending : Fault := .closed
  deriving DecidableEq, Repr

namespace Source

/-- Some bytes and then the end. -/
def ofBytes (bytes : Bytes) (ending : Fault) : Source := ⟨bytes.map .byte, ending⟩

/-- More bytes behind what is there. -/
def push (bytes : Bytes) (s : Source) : Source :=
  { s with arrivals := s.arrivals ++ bytes.map .byte }

/-- How many bytes and pauses are left. -/
def length (s : Source) : Nat := s.arrivals.length

/-- Reads so many bytes. A read that fails has used up the bytes before the fault. -/
def take : Nat → EStateM Fault Source Bytes
  | 0, s => .ok [] s
  | n + 1, s =>
    match s.arrivals with
    | [] => .error s.ending s
    | .pause :: rest => .error .timedOut { s with arrivals := rest }
    | .byte b :: rest =>
      match take n { s with arrivals := rest } with
      | .ok bytes s => .ok (b :: bytes) s
      | .error fault s => .error fault s

theorem take_ok {n : Nat} {s t : Source} {bytes : Bytes} (h : take n s = .ok bytes t) :
    bytes.length = n ∧ s.arrivals = bytes.map .byte ++ t.arrivals ∧ t.ending = s.ending := by
  induction n generalizing s bytes with
  | zero =>
    simp only [take, EStateM.Result.ok.injEq] at h
    obtain ⟨rfl, rfl⟩ := h
    simp
  | succ n ih =>
    unfold take at h
    split at h
    · cases h
    · cases h
    · next b rest arrivals =>
      split at h
      · next taken u read =>
        simp only [EStateM.Result.ok.injEq] at h
        obtain ⟨rfl, rfl⟩ := h
        obtain ⟨count, front, ending⟩ := ih read
        simp [count, arrivals, ← front, ending]
      · cases h

/-- What a read takes is gone from the source. -/
theorem length_of_take {n : Nat} {s t : Source} {bytes : Bytes} (h : take n s = .ok bytes t) :
    t.length + n = s.length := by
  obtain ⟨count, front, -⟩ := take_ok h
  simp only [length, front, List.length_append, List.length_map, count]
  omega

/-- Reads a big-endian number of so many bytes. -/
def big (w : Nat) : EStateM Fault Source Nat := Bytes.bigValue <$> take w

end Source

/-- What has been written, and how many bytes more will be taken; `none` is no limit. -/
structure Sink where
  written : Bytes := []
  room : Option Nat := none
  deriving DecidableEq, Repr

namespace Sink

/-- Writes some bytes and says whether all of them were taken. -/
def write (bytes : Bytes) (s : Sink) : Bool × Sink :=
  match s.room with
  | none => (true, { s with written := s.written ++ bytes })
  | some n =>
    (bytes.length ≤ n,
     { written := s.written ++ bytes.take n, room := some (n - bytes.length) })

end Sink

end PictureTransfer
