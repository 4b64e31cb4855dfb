import PictureTransfer.Bus
import PictureTransfer.Container.Transfers

/-!
# Sending a DATA phase

A DATA container that is larger than one transfer goes out piece by piece. The first transfer
carries the header and as much payload as fits; every completion sends the next piece, then a
zero-length packet if the container ends on a packet boundary, and then finds the stream finished.
-/

namespace PictureTransfer

/-- A DATA phase on its way to the host: how much of the payload has been sent, whether the closing
zero-length packet has been sent, and whether a RESPONSE is owed at the end. -/
structure DataStream where
  op : UInt16
  tid : UInt32
  payload : Bytes
  offset : Nat := 0
  closed : Bool := false
  respondAfter : Bool
  deriving DecidableEq, Repr

namespace DataStream

/-- The length of the whole container. -/
def totalLength (s : DataStream) : Nat := Header.standardLength + s.payload.length

/-- Whether the container ends on a packet boundary. -/
def needsClosing (s : DataStream) : Bool := s.totalLength % packetSize = 0

/-- Whether the closing zero-length packet is still to come. -/
def mustClose (s : DataStream) : Bool := s.needsClosing && !s.closed

/-- How much payload fits behind the header in the first transfer. -/
def firstRoom : Nat := transferSize - Header.standardLength

/-- The first transfer, and the stream after it. -/
def start (s : DataStream) : Bytes × DataStream :=
  let header : Header := ⟨.data, s.op, s.tid⟩
  (header.encode .standard (UInt32.ofNat s.totalLength) ++ s.payload.take firstRoom,
   { s with offset := min s.payload.length firstRoom })

/-- The transfer that follows a completion, and the stream after it, unless the stream is
finished. -/
def next? (s : DataStream) : Option (Bytes × DataStream) :=
  if s.offset < s.payload.length then
    some ((s.payload.drop s.offset).take transferSize,
      { s with offset := min (s.offset + transferSize) s.payload.length })
  else if s.mustClose then some ([], { s with closed := true })
  else none

/-- The transaction to which a finished stream owes a RESPONSE. -/
def owed (s : DataStream) : Option UInt32 := if s.respondAfter then some s.tid else none

/-- A bound on the transfers still to come, the RESPONSE included. -/
def remaining (s : DataStream) : Nat :=
  (s.payload.length - s.offset) + s.mustClose.toNat + 1

/-- Each further transfer leaves less to come. -/
theorem remaining_of_next? {s t : DataStream} {transfer : Bytes}
    (h : s.next? = some (transfer, t)) : t.remaining < s.remaining := by
  unfold next? at h
  split at h
  · cases h
    change s.payload.length - min (s.offset + transferSize) s.payload.length
      + s.mustClose.toNat + 1 < _
    simp only [remaining, transferSize]
    omega
  · split at h
    · next mustClose =>
      cases h
      change s.payload.length - s.offset + (s.needsClosing && false).toNat + 1 < _
      rw [remaining, mustClose]
      simp
    · cases h

end DataStream

end PictureTransfer
