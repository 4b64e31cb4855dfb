import PictureTransfer.Proofs.UsbIp.Framing
import PictureTransfer.Proofs.UsbIp.Quiescence

/-!
# Data is handed over whole

The data of a transfer goes to the responder in pieces. How long a piece may be is armed by the
responder, which can do so in every callback: after each piece, and whenever one of its own
transfers is collected in between. So no size holds for two pieces. What is left of the data gets
shorter all the same, as no piece is empty unless the data is.

`HandsOver` is what happens to a device while pieces are handed over, and `Divided` says that they
are the pieces of some data. The two meet in `exists_handsOver`, and what a transfer to the device
leads to follows (`receives_whole`).
-/

namespace PictureTransfer.UsbIp

/-! ## Pieces -/

/-- What is handed over at once, and the size of the receive that was armed for it, if one was. -/
structure Piece where
  armed : Option Nat
  data : Bytes
  deriving DecidableEq, Repr

/-- The most that a piece may have. -/
def Piece.room (p : Piece) : Nat :=
  match p.armed with
  | some size => max 1 size
  | none => 64

/-- Some pieces and what is left behind them are the whole data, in order. Data that is empty is one
empty piece, and else no piece is empty. Each piece has as many bytes as it may have, but for the
last, which can be shorter. -/
structure Divided (data : Bytes) (pieces : List Piece) (rest : Bytes) : Prop where
  whole : pieces.flatMap Piece.data ++ rest = data
  empty : data = [] → pieces.map Piece.data = [[]]
  filled : data ≠ [] → ∀ p ∈ pieces, p.data ≠ []
  fits : ∀ p ∈ pieces, p.data.length ≤ p.room
  full : ∀ p ∈ pieces.dropLast, p.data.length = p.room

namespace Divided

variable {data rest : Bytes} {p : Piece} {pieces : List Piece} {size : Nat}

theorem room_pos (p : Piece) : 0 < p.room := by
  rw [Piece.room]
  split
  · exact Nat.lt_of_lt_of_le Nat.one_pos (Nat.le_max_left _ _)
  · decide

/-- A piece is as much of the data as it may have. -/
theorem single (room : p.room = size) (taken : p.data = data.take size) :
    Divided data [p] (data.drop size) where
  whole := by rw [List.flatMap_singleton, taken, List.take_append_drop]
  empty nothing := by rw [List.map_singleton, taken, nothing, List.take_nil]
  filled given := by
    intro q listed
    obtain rfl := List.mem_singleton.1 listed
    have room_left : q.room ≠ 0 := Nat.ne_of_gt (room_pos q)
    rw [taken, Ne, List.take_eq_nil_iff, ← room]
    exact fun none_taken => none_taken.elim room_left given
  fits := by
    intro q listed
    obtain rfl := List.mem_singleton.1 listed
    rw [taken, room]
    exact List.length_take_le _ _
  full := List.forall_mem_nil _

/-- Behind a piece that is not all of the data come the pieces of what it leaves. -/
theorem cons (room : p.room = size) (taken : p.data = data.take size) (more : data.drop size ≠ [])
    (later : Divided (data.drop size) pieces rest) : Divided data (p :: pieces) rest := by
  have first := single room taken
  have listed := List.mem_singleton_self p
  have given : data ≠ [] := by
    rintro rfl
    exact more List.drop_nil
  refine ⟨?_, fun nothing => absurd nothing given, fun _ => ?_, ?_, ?_⟩
  · rw [List.flatMap_cons, List.append_assoc, later.whole, taken, List.take_append_drop]
  · exact List.forall_mem_cons.2 ⟨first.filled given p listed, later.filled more⟩
  · exact List.forall_mem_cons.2 ⟨first.fits p listed, later.fits⟩
  · intro q before_last
    cases pieces with
    | nil => cases before_last
    | cons next others =>
      rcases List.mem_cons.1 before_last with rfl | behind
      · -- there is data behind it, so it was not cut short
        rw [taken, room, List.length_take_of_le]
        exact Nat.le_of_not_le fun short => more (List.drop_eq_nil_of_le short)
      · exact later.full q behind

end Divided

namespace Serving

variable {σ : Type}

/-- As much is handed over at once as the piece may have. -/
theorem room_armed (s : Serving σ) {data : Bytes} :
    Piece.room ⟨s.device.bus.armed, data⟩ = s.pieceSize := by
  rw [Piece.room, pieceSize]
  cases s.device.bus.armed with
  | none => rfl
  | some size => exact Nat.max_comm 1 size

variable [Responder σ]

/-! ## Handing over -/

/-- Pieces are handed to the responder one after another. After each piece all is matched that can
be, and the next is handed over unless a reply was not taken. -/
inductive HandsOver : Serving σ → List Piece → Outcome σ → Prop where
  | last {s : Serving σ} {data : Bytes} {r : Outcome σ}
      (flushed : (s.handOver data).flush = r) : HandsOver s [⟨s.device.bus.armed, data⟩] r
  | next {s t : Serving σ} {data : Bytes} {later : List Piece} {r : Outcome σ}
      (flushed : (s.handOver data).flush = .ok () t) (rest : HandsOver t later r) :
      HandsOver s (⟨s.device.bus.armed, data⟩ :: later) r

/-- Data is handed over in pieces, up to the first reply that is not taken. -/
theorem exists_handsOver (s : Serving σ) (data : Bytes) :
    ∃ pieces rest, HandsOver s pieces (s.receive data) ∧ Divided data pieces rest ∧
      ∀ t, s.receive data = .ok () t → rest = [] := by
  fun_induction receive data s with
  | case1 data s bus size attached e t flushed =>
    exact ⟨_, _, .last flushed, .single (room_armed s) rfl, fun u done => by cases done⟩
  | case2 data s bus size attached t flushed last =>
    exact ⟨_, _, .last flushed, .single (room_armed s) rfl, fun u done => last⟩
  | case3 data s bus size attached t flushed more ih =>
    obtain ⟨later, rest, handed, divided, all⟩ := ih
    exact ⟨_, rest, .next flushed handed, .cons (room_armed s) rfl more divided, all⟩

theorem HandsOver.delivered {s : Serving σ} {pieces : List Piece} {r : Outcome σ}
    (h : HandsOver s pieces r) : ∃ carried, Delivered s carried r.state := by
  induction h with
  | last flushed =>
    obtain ⟨carried, flushes⟩ := flush_iff.1 flushed
    exact ⟨carried, flushes.delivered.behind⟩
  | next flushed rest ih =>
    obtain ⟨carried, flushes⟩ := flush_iff.1 flushed
    obtain ⟨more, later⟩ := ih
    exact ⟨carried ++ more, Delivered.trans flushes.delivered.behind later⟩

/-! ## Transfers to the device -/

section Transfer

variable {s : Serving σ} {urb : Submit}

theorem submit_of_toDevice (data_transfer : urb.ep ≠ 0)
    (known : (s.device.descriptors.endpoint? urb.address).isSome = true)
    (running : s.device.bus.stalled.contains urb.address = false) (toDevice : urb.isIn = false) :
    s.submit urb = match s.receive urb.data with
      | .error e t => .error e t
      | .ok () t => match t.write (acknowledgement urb) with
        | .error e t => .error e t
        | .ok () t => t.flush := by
  have usable : ¬((s.device.descriptors.endpoint? urb.address).isNone = true ∨
      s.device.bus.stalled.contains urb.address = true) := by
    rw [running, ← Option.not_isSome, known]
    decide
  rw [submit, if_neg data_transfer]
  dsimp only
  rw [if_neg usable, toDevice]
  rfl

/-- The acknowledgement of a transfer says how much data there was, as far as a word can. -/
theorem acknowledgement_eq (urb : Submit) : ∃ actual : UInt32,
    acknowledgement urb = .submitted urb.seqnum 0 actual [] ∧
      (urb.data.length < 0x100000000 → actual.toNat = urb.data.length) :=
  ⟨UInt32.ofNat urb.data.length, rfl, UInt32.toNat_ofNat_of_lt'⟩

/-- A transfer to the device, on an endpoint that can be used, is handed to the responder in pieces
that are its data, in order and without loss, whatever the responder arms, be it nothing, and
whatever it sends and has collected meanwhile. Then it is acknowledged once, with all of its length
and no data, and all else that is written are replies to parked requests. If the host stops to take
replies, a front of the data has been handed over. -/
theorem receives_whole (data_transfer : urb.ep ≠ 0)
    (known : (s.device.descriptors.endpoint? urb.address).isSome = true)
    (running : s.device.bus.stalled.contains urb.address = false) (toDevice : urb.isIn = false) :
    (s.limit = none → ∃ t, s.submit urb = .ok () t) ∧
    (∀ t, s.submit urb = .ok () t → ∃ pieces u earlier later, ∃ actual : UInt32,
      HandsOver s pieces (.ok () u) ∧ Divided urb.data pieces [] ∧ Delivered s earlier u ∧
      (u.wrote (.submitted urb.seqnum 0 actual [])).flush = .ok () t ∧
      Delivered (u.wrote (.submitted urb.seqnum 0 actual [])) later t ∧
      (urb.data.length < 0x100000000 → actual.toNat = urb.data.length)) ∧
    (∀ e t, s.submit urb = .error e t → ∃ pieces rest r, HandsOver s pieces r ∧
      Divided urb.data pieces rest ∧ (r = .error e t ∨ rest = [])) ∧
    (Urb.Readable (.submit urb) → urb.data.length < 0x100000000) := by
  obtain ⟨pieces, rest, handed, divided, all⟩ := exists_handsOver s urb.data
  refine ⟨?_, ?_, ?_, ?_⟩
  · intro unlimited
    obtain ⟨t, done, -⟩ := submit_handled unlimited urb
    exact ⟨t, done⟩
  · intro t done
    rw [submit_of_toDevice data_transfer known running toDevice] at done
    obtain ⟨actual, acknowledges, count⟩ := acknowledgement_eq urb
    rw [acknowledges] at done
    cases received : s.receive urb.data with
    | error e u =>
      rw [received] at done
      cases done
    | ok _ u =>
      rw [received] at done handed
      obtain rfl := all u received
      obtain ⟨earlier, before⟩ := handed.delivered
      dsimp only at done
      split at done
      · cases done
      · next v written =>
        obtain rfl := eq_wrote written
        obtain ⟨later, flushes⟩ := flush_iff.1 done
        exact ⟨pieces, u, earlier, later, actual, handed, divided, before, done,
          flushes.delivered, count⟩
  · intro e t failed
    refine ⟨pieces, rest, _, handed, divided, ?_⟩
    rw [submit_of_toDevice data_transfer known running toDevice] at failed
    cases received : s.receive urb.data with
    | error e' u =>
      rw [received] at failed
      exact .inl failed
    | ok _ u => exact .inr (all u received)
  · intro readable
    exact Nat.lt_of_le_of_lt (Submit.length_data_le readable) (UInt32.toNat_lt urb.length)

end Transfer

/-- A responder that arms each receive as it is told to, for no bytes or not at all too, notes what
it is given, and sends a byte after each piece and another whenever one is collected. -/
structure Fitful where
  sizes : List (Option Nat)
  received : List Bytes := []
  deriving DecidableEq, Repr

namespace Fitful

instance : Responder Fitful where
  busReset r := (r, [])
  interfaceOpened _ _ r := (r, [])
  control _ _ _ r := ((r, []), .unhandled)
  outCompleted _ data r :=
    let arms := r.sizes.head?.join.toList.map fun size =>
      Action.request (.armOut Endpoint.bulkOut size)
    ({ sizes := r.sizes.tail, received := r.received ++ [data] }, arms ++ [.submit [0]])
  inCompleted _ _ r := (r, [.submit [1]])

/-- Two requests are parked, and a receive is armed for one byte. -/
def waiting : Serving Fitful :=
  let fresh := Device.fresh { sizes := [none, some 0, some 3] } (.ofPersonality .legacy {}) "1-1"
  { device := { fresh with
      attached := { fresh.attached with bus := { armed := some 1 } }
      parked := [⟨Endpoint.bulkIn, 2, 512⟩, ⟨Endpoint.bulkIn, 3, 512⟩] } }

/-- A transfer of 70 bytes. -/
def transfer : Submit := ⟨4, 0, 0, 2, 0, 70, 0, [], List.replicate 70 0xAA⟩

/-- What was armed is used for one piece, and then what is armed next. -/
theorem receives_whole_fitful : ∃ t pieces u earlier later, ∃ actual : UInt32,
    waiting.submit transfer = .ok () t ∧ HandsOver waiting pieces (.ok () u) ∧
      Divided transfer.data pieces [] ∧ Delivered waiting earlier u ∧
      Delivered (u.wrote (.submitted 4 0 actual [])) later t ∧ actual.toNat = 70 ∧
      t.device.attached.responder.received.map List.length = [1, 64, 1, 3, 1] := by
  have data_transfer : transfer.ep ≠ 0 := by decide
  have known : (waiting.device.descriptors.endpoint? transfer.address).isSome = true := by decide
  have running : waiting.device.bus.stalled.contains transfer.address = false := rfl
  have toDevice : transfer.isIn = false := by decide
  obtain ⟨succeeds, whole, -, -⟩ := receives_whole data_transfer known running toDevice
  obtain ⟨t, done⟩ := succeeds rfl
  obtain ⟨pieces, u, earlier, later, actual, handed, divided, before, -, behind, count⟩ :=
    whole t done
  have noted : (Outcome.state (waiting.submit transfer)).device.attached.responder.received.map
      List.length = [1, 64, 1, 3, 1] := by decide +kernel
  rw [done] at noted
  exact ⟨t, pieces, u, earlier, later, actual, done, handed, divided, before, behind,
    count (by decide), noted⟩

end Fitful

end Serving

end PictureTransfer.UsbIp
