import PictureTransfer.Camera.Pipes
import PictureTransfer.Dataset.DeviceInfo
import PictureTransfer.Container.Header
import PictureTransfer.Event

/-!
# Talking to a camera

The class `Port` sends containers to a camera and receives containers from it. On top of any port
stand the command with its response, the reading of the camera's description, and the closing of a
session that an earlier host left open. The pipes of a camera are a port: a container's own length
says where it ends.
-/

namespace PictureTransfer.Camera

/-- Why a camera cannot be used. -/
inductive Error where
  | notFound (vid pid : Option UInt16)
  | openFailed (text : String)
  | claimFailed (interface : UInt8) (text : String)
  | endpointMissing (direction : Direction)
  | timedOut (milliseconds : Nat)
  | transfer (text : String)
  | badContainer (cause : HeaderError)
  | badLength (length : UInt32)
  | rejected (op code : UInt16)
  | unexpected (got wanted : Kind)
  | dataset (cause : Dataset.Error)
  deriving DecidableEq, Repr

namespace Error

/-- A vendor or product number that may be left open. -/
def filterText : Option UInt16 → String
  | none => "None"
  | some n => "Some(" ++ toString n.toNat ++ ")"

/-- The text of an error. -/
def message : Error → String
  | notFound vid pid =>
    "No PTP camera found (VID=" ++ filterText vid ++ " PID=" ++ filterText pid ++ ")"
  | openFailed text => "Failed to open camera: " ++ text
  | claimFailed interface text =>
    "Failed to claim interface " ++ toString interface.toNat ++ ": " ++ text
  | endpointMissing direction => "Bulk " ++ direction.name ++ " endpoint not found"
  | timedOut milliseconds => "Camera timed out after " ++ toString milliseconds ++ "ms"
  | transfer text => "Transfer failed: " ++ text
  | badContainer cause => "Bad container from camera: " ++ cause.message
  | badLength length => "Container length " ++ toString length.toNat ++ " out of range"
  | rejected op code => "Camera answered " ++ hex16 code ++ " to " ++ hex16 op
  | unexpected got wanted =>
    "Unexpected " ++ got.name ++ " container while waiting for " ++ wanted.name
  | dataset cause => "Malformed dataset: " ++ cause.message

end Error

/-- What a use of a port gives: a value or an error, and the port after it. -/
abbrev Use (P : Type) (α : Type) := EStateM Error P α

/-- Something that takes containers for a camera and brings containers from it, within so many
milliseconds. Each container it brings leaves less to come. -/
class Port (P : Type) where
  send : Bytes → Use P Unit
  receive : Nat → Use P Bytes
  pending : P → Nat
  pending_receive : ∀ {timeout : Nat} {p q : P} {container : Bytes},
    receive timeout p = .ok container q → pending q < pending p

namespace Port

variable {P : Type} [Port P]

/-- Receives containers up to the next RESPONSE, and gives its header. -/
def receiveResponse (timeout : Nat) (p : P) : EStateM.Result Error P Header :=
  match _brought : receive timeout p with
  | .error e q => .error e q
  | .ok container q =>
    match Header.decodeStandard container with
    | .error e => .error (.badContainer e) q
    | .ok (_, header) =>
      if header.kind = .response then .ok header q else receiveResponse timeout q
termination_by pending p
decreasing_by exact pending_receive _brought

/-- Sends a COMMAND without DATA and gives the code of its RESPONSE. -/
def command (code : UInt16) (tid : UInt32) (params : List UInt32) (timeout : Nat) :
    Use P UInt16 := do
  send (commandContainer code tid params)
  let header ← receiveResponse timeout
  pure header.code

/-- Carries out a use for what it does to the port, whatever comes of it. -/
def attempt {α : Type} (use : Use P α) : Use P (Option α) := fun p =>
  match use p with
  | .ok a q => .ok (some a) q
  | .error _ q => .ok none q

/-- How long the closing of an old session waits for each RESPONSE. -/
def closingTimeout : Nat := 1200

/-- Closes a session that an earlier host left open. If the camera does not agree at once, a session
is opened and closed, whatever the camera says. -/
def closeStaleSession : Use P Unit := do
  let closed ← attempt (command Operation.closeSession 1 [] closingTimeout)
  if closed = some ResponseCode.ok then pure ()
  else do
    let _ ← attempt (command Operation.openSession 2 [1] closingTimeout)
    let _ ← attempt (command Operation.closeSession 3 [] closingTimeout)

/-- How long the reading of a description waits for each container. -/
def descriptionTimeout : Nat := 4000

/-- Turns a failure of a part into a failure of the use. -/
def orFail {ε α : Type} (cause : ε → Error) : Except ε α → Use P α
  | .ok a => pure a
  | .error e => throw (cause e)

/-- Opens a session, reads the description of the camera in it, and closes it again. -/
def deviceInfo : Use P DeviceInfo := do
  let opened ← command Operation.openSession 1 [1] descriptionTimeout
  if opened ≠ ResponseCode.ok ∧ opened ≠ ResponseCode.sessionAlreadyOpen then
    throw (.rejected Operation.openSession opened)
  send (commandContainer Operation.getDeviceInfo 2 [])
  let container ← receive descriptionTimeout
  let (_, header) ← orFail .badContainer (Header.decodeStandard container)
  if header.kind ≠ .data then throw (.unexpected header.kind .data)
  let response ← receiveResponse descriptionTimeout
  if response.code ≠ ResponseCode.ok then
    throw (.rejected Operation.getDeviceInfo response.code)
  let info ← orFail .dataset (DeviceInfo.decode (container.drop Header.standardLength))
  let _ ← attempt (command Operation.closeSession 3 [] descriptionTimeout)
  pure info

end Port

/-! ## The pipes of a camera as a port -/

/-- The longest container that is taken from a camera. -/
def maxContainer : Nat := 16 * 1024 * 1024

namespace Pipes

/-- Reads so many bytes within a time. -/
def readWithin (timeout n : Nat) : Use Pipes Bytes := fun p =>
  match read n p with
  | (.ok bytes, q) => .ok bytes q
  | (.error .timedOut, q) => .error (.timedOut timeout) q
  | (.error (.failed text), q) => .error (.transfer text) q

/-- The length that a container declares in its first four bytes. -/
def declaredLength (front : Bytes) : UInt32 :=
  UInt32.ofNat (Bytes.littleValue (front.take 4))

/-- Sends a container. -/
def send (container : Bytes) : Use Pipes Unit := fun p =>
  match flush container p with
  | (.ok (), q) => .ok () q
  | (.error text, q) => .error (.transfer text) q

/-- Reads a header, and then as much as it declares. -/
def receive (timeout : Nat) : Use Pipes Bytes := fun p =>
  match readWithin timeout Header.standardLength (p.waitAtMost timeout) with
  | .error e q => .error e q
  | .ok front q =>
    let length := declaredLength front
    -- The header is gone from the pipe even if its length is refused.
    if length.toNat < Header.standardLength ∨ maxContainer < length.toNat then
      .error (.badLength length) q
    else match readWithin timeout (length.toNat - Header.standardLength) q with
      | .error e q => .error e q
      | .ok rest q => .ok (front ++ rest) q

theorem pending_of_readWithin {timeout n : Nat} {p q : Pipes} {bytes : Bytes}
    (h : readWithin timeout n p = .ok bytes q) : q.pending + n = p.pending ∧ bytes.length = n := by
  unfold readWithin at h
  split at h
  · next step =>
    cases h
    exact pending_of_read step
  · cases h
  · cases h

/-- A container that is received is no longer pending. -/
theorem pending_of_receive {timeout : Nat} {p q : Pipes} {container : Bytes}
    (h : receive timeout p = .ok container q) :
    q.pending + container.length = p.pending ∧ Header.standardLength ≤ container.length := by
  unfold receive at h
  split at h
  · cases h
  · next front r first =>
    obtain ⟨fewer, count⟩ := pending_of_readWithin first
    have same : (p.waitAtMost timeout).pending = p.pending := rfl
    simp only at h
    split at h
    · cases h
    · split at h
      · cases h
      · next rest s second =>
        cases h
        obtain ⟨fewest, more⟩ := pending_of_readWithin second
        rw [List.length_append, count, more]
        omega

instance : Port Pipes where
  send := send
  receive := receive
  pending := pending
  pending_receive h := by
    obtain ⟨fewer, size⟩ := pending_of_receive h
    have : Header.standardLength = 12 := rfl
    omega

end Pipes

end PictureTransfer.Camera
