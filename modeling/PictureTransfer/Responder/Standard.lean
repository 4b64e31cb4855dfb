import PictureTransfer.Dataset.DeviceInfo
import PictureTransfer.Responder
import PictureTransfer.Transaction

/-!
# The standard personality

It takes containers in standard layout only, one to a transfer, and knows two operations: it
describes itself and opens a session.
-/

namespace PictureTransfer

/-- How the camera names itself. -/
structure CameraName where
  manufacturer : String
  model : String
  serial : String
  deriving DecidableEq, Repr

/-- The camera's name, its session, and the operation under way. -/
structure Standard where
  name : CameraName
  session : Session := {}
  transaction : Transaction := .idle
  deriving DecidableEq, Repr

namespace Standard

/-- A transfer with a whole header: the length it declares, the number of its kind, code and
transaction, and what follows the header. -/
structure Received where
  declared : UInt32
  kind : UInt16
  code : UInt16
  tid : UInt32
  body : Bytes
  deriving DecidableEq, Repr

namespace Received

/-- Splits a transfer; fewer bytes than a header are none. -/
def ofBytes? : Bytes → Option Received
  | l0 :: l1 :: l2 :: l3 :: k0 :: k1 :: c0 :: c1 :: t0 :: t1 :: t2 :: t3 :: body =>
    some ⟨Bytes.word32 l0 l1 l2 l3, Bytes.word16 k0 k1, Bytes.word16 c0 c1,
      Bytes.word32 t0 t1 t2 t3, body⟩
  | _ => none

def rawLength (r : Received) : Nat := Header.standardLength + r.body.length

/-- Whether the transfer holds one whole COMMAND. -/
def isCommand (r : Received) : Bool :=
  Header.standardLength ≤ r.declared.toNat && r.declared.toNat ≤ r.rawLength
    && r.kind = Kind.command.toWord

/-- The first parameter, as far as the declared length covers it. -/
def param0? (r : Received) : Option UInt32 :=
  if r.declared < 16 then none else (Bytes.words32 r.body).head?

def summary (r : Received) : String :=
  "std type=" ++ toString r.kind.toNat ++ " " ++ hex16 r.code ++ " tid=" ++ toString r.tid.toNat

end Received

/-- Sends a RESPONSE. -/
def respond (code : UInt16) (tid : UInt32) : List Action := [.submit (responseContainer code tid)]

/-- The dataset in which the camera describes itself. -/
def deviceInfo (s : Standard) : Bytes :=
  (DeviceInfo.minimal s.name.manufacturer s.name.model s.name.serial).encode

/-- OpenSession fails when a session is open, and needs a session id that is not zero. -/
def openSession (r : Received) (s : Standard) : Reaction Standard :=
  if s.session.isOpen then (s, respond ResponseCode.sessionAlreadyOpen r.tid)
  else match r.param0? with
    | none => (s, respond ResponseCode.invalidParameter r.tid)
    | some id =>
      if id = 0 then (s, respond ResponseCode.invalidParameter r.tid)
      else ({ s with session := { s.session with id := some id } }, respond ResponseCode.ok r.tid)

/-- A COMMAND drops what was under way and is then answered. -/
def onCommand (r : Received) (s : Standard) : Reaction Standard :=
  let dropped := s.transaction.superseded.map Action.request
  let s := { s with transaction := .idle }
  Reaction.andThen (s, dropped) fun s =>
    if r.code = Operation.getDeviceInfo then
      match s.transaction.startStream r.code r.tid s.deviceInfo true with
      | .ok (transfer, transaction) => ({ s with transaction }, [.submit transfer])
      | .error _ => (s, respond ResponseCode.generalError r.tid)
    else if r.code = Operation.openSession then s.openSession r
    else (s, respond ResponseCode.operationNotSupported r.tid)

/-- A transfer with a whole header came in. -/
def onReceived (r : Received) (s : Standard) : Reaction Standard :=
  Reaction.andThen (s, [.report (.container .toDevice r.summary r.rawLength)]) fun s =>
    if r.isCommand then s.onCommand r else (s, respond ResponseCode.generalError r.tid)

/-- A transfer came in. A shorter one than a header is dropped; either way the next one is asked
for. -/
def outCompleted (data : Bytes) (s : Standard) : Reaction Standard :=
  let handled := match Received.ofBytes? data with
    | some r => s.onReceived r
    | none => (s, [])
  handled.followedBy [.armOut]

/-- A transfer was collected: the stream goes on, or ends with the RESPONSE it owes. -/
def inCompleted (ep : UInt8) (s : Standard) : Reaction Standard :=
  if ep = Endpoint.bulkIn then
    match s.transaction.inCompleted with
    | (.sent transfer, transaction) => ({ s with transaction }, [.submit transfer])
    | (.finished _ (some tid), transaction) => ({ s with transaction }, respond ResponseCode.ok tid)
    | (_, transaction) => ({ s with transaction }, [])
  else (s, [])

/-- Ends the session and drops what was under way. -/
def clear (s : Standard) : Standard :=
  { s with session := { s.session with id := none }, transaction := .idle }

def busReset (s : Standard) : Standard × List Event :=
  (clear { s with session := s.session.busReset }, [.reset .bus])

def interfaceOpened (interface : UInt8) (s : Standard) : Reaction Standard :=
  ({ s with session := s.session.openInterface interface },
   [.report (.interfaceOpened interface), .armOut])

def control (view : Bus.View) (setup : Setup) (s : Standard) :
    Reaction Standard × ControlResponse :=
  let outcome := Control.outcome view setup s.session.interface
  let acted : Reaction Standard := (s, outcome.ops.map Action.request)
  if outcome.reset then
    (acted.andThen fun s => (s.clear, [.report (.reset .classRequest)]), outcome.response)
  else (acted, outcome.response)

instance : Responder Standard where
  busReset := busReset
  interfaceOpened _ := interfaceOpened
  control view setup _ := control view setup
  outCompleted _ := outCompleted
  inCompleted _ := inCompleted

end Standard

end PictureTransfer
