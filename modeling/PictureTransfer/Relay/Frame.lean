import PictureTransfer.Channel
import PictureTransfer.Container.Transfers

/-!
# Relay frames

Between the device and the relay each message is a frame: its length, big-endian in four bytes, a
type byte, and a payload. The length counts the type byte and is therefore never zero.
`length_of_read` says that a frame which is read takes at least its five header bytes.
-/

namespace PictureTransfer.Relay

/-- The frame types with a meaning. -/
inductive FrameKind where
  | rawOut
  | rawIn
  | rawDone
  deriving DecidableEq, Repr

namespace FrameKind

/-- The type byte: a transfer for the relay, a transfer for the host, or the end of an answer. -/
def toByte : FrameKind → UInt8
  | rawOut => 0x10
  | rawIn => 0x11
  | rawDone => 0x12

def ofByte? (b : UInt8) : Option FrameKind :=
  if b = 0x10 then some rawOut
  else if b = 0x11 then some rawIn
  else if b = 0x12 then some rawDone
  else none

theorem ofByte?_eq_some {b : UInt8} {kind : FrameKind} :
    ofByte? b = some kind ↔ b = kind.toByte := by
  constructor
  · intro named
    rw [ofByte?] at named
    split at named
    · next out =>
      cases named
      exact out
    · split at named
      · next out =>
        cases named
        exact out
      · obtain ⟨last, same⟩ := Option.ite_none_right_eq_some.1 named
        cases same
        exact last
  · rintro rfl
    cases kind <;> rfl

def name : FrameKind → String
  | rawOut => "RAW_OUT"
  | rawIn => "RAW_IN"
  | rawDone => "RAW_DONE"

end FrameKind

/-- Why a frame cannot be sent or received. -/
inductive Error where
  | timeout
  | notConnected
  | frameTooLarge (length max : Nat)
  | invalidLength
  | closed
  | io (reason : String)
  deriving DecidableEq, Repr

namespace Error

def message : Error → String
  | timeout => "Timed out waiting for relay"
  | notConnected => "No relay client connected"
  | frameTooLarge length max =>
    "Frame payload of " ++ toString length ++ " bytes exceeds " ++ toString max
  | invalidLength => "Invalid frame length 0"
  | closed => "Relay connection closed"
  | io reason => "IO error: " ++ reason

/-- What a failed read means for a link. -/
def ofFault : Fault → Error
  | .closed => closed
  | .reset => io "connection reset"
  | .timedOut => timeout

/-- A write that was cut short. -/
def brokenPipe : Error := io "broken pipe"

end Error

/-- A frame. The type byte may be one without a meaning. -/
structure Frame where
  type : UInt8
  payload : Bytes
  deriving DecidableEq, Repr

namespace Frame

def ofKind (kind : FrameKind) (payload : Bytes) : Frame := ⟨kind.toByte, payload⟩

/-- A transfer that came from the host. -/
def rawOut (data : Bytes) : Frame := ofKind .rawOut data

/-- A transfer for the host. -/
def rawIn (data : Bytes) : Frame := ofKind .rawIn data

/-- The end of an answer. -/
def done : Frame := ofKind .rawDone []

def kind? (f : Frame) : Option FrameKind := FrameKind.ofByte? f.type

theorem kind?_eq_some {f : Frame} {kind : FrameKind} :
    f.kind? = some kind ↔ f.type = kind.toByte := FrameKind.ofByte?_eq_some

/-- The largest payload the device takes. -/
def maxPayload : Nat := transferSize

/-- The frame on the wire. -/
def encode (f : Frame) : Bytes := Bytes.big 4 (f.payload.length + 1) ++ f.type :: f.payload

/-- Reads some bytes from a link. -/
def readBytes (n : Nat) : EStateM Error Source Bytes := fun s =>
  match Source.take n s with
  | .ok bytes s => .ok bytes s
  | .error fault s => .error (.ofFault fault) s

/-- Reads one frame. A payload over the limit is skipped, so that the next read starts at the next
frame. -/
def read (max : Nat) : EStateM Error Source Frame := fun s =>
  match readBytes 4 s with
  | .error e s => .error e s
  | .ok size s =>
    if Bytes.bigValue size = 0 then .error .invalidLength s
    else match readBytes 1 s with
      | .error e s => .error e s
      | .ok type s =>
        let length := Bytes.bigValue size - 1
        match readBytes length s with
        | .error e s => .error e s
        | .ok payload s =>
          if max < length then .error (.frameTooLarge length max) s
          else .ok ⟨type.headD 0, payload⟩ s

theorem length_of_readBytes {n : Nat} {s t : Source} {bytes : Bytes}
    (h : readBytes n s = .ok bytes t) : t.length + n = s.length := by
  unfold readBytes at h
  split at h
  · next taken u read =>
    simp only [EStateM.Result.ok.injEq] at h
    obtain ⟨rfl, rfl⟩ := h
    exact Source.length_of_take read
  · cases h

theorem length_of_read {max : Nat} {s t : Source} {f : Frame} (h : read max s = .ok f t) :
    t.length + 5 ≤ s.length := by
  unfold read at h
  split at h
  · cases h
  · next size s₁ first =>
    split at h
    · cases h
    · split at h
      · cases h
      · next type s₂ second =>
        dsimp only at h
        split at h
        · cases h
        · next payload s₃ third =>
          split at h
          · cases h
          · simp only [EStateM.Result.ok.injEq] at h
            obtain ⟨-, rfl⟩ := h
            have := length_of_readBytes first
            have := length_of_readBytes second
            have := length_of_readBytes third
            omega

end Frame

end PictureTransfer.Relay
