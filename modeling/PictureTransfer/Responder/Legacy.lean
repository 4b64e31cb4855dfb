import PictureTransfer.Catalog
import PictureTransfer.Container.Classify
import PictureTransfer.Responder
import PictureTransfer.Transaction

/-!
# The legacy personality

It impersonates one camera model for a host that does not keep to one container layout: containers
are accepted in every layout, and answers go out in standard layout. Read operations are answered
from the catalog. The record button is a COMMAND followed by DATA that says start or stop.
-/

namespace PictureTransfer

/-- Session, operation under way, whether the camera records, and the code of the last container
that came in, which labels the responses. -/
structure Legacy where
  session : Session := {}
  transaction : Transaction := .idle
  recording : Bool := false
  lastOp : UInt16 := 0
  deriving DecidableEq, Repr

namespace Legacy

/-! ## Status lines -/

/-- The status line for a container that came in. -/
def receiveLabel (code : UInt16) : String :=
  if code = Operation.openSession then "open sess"
  else if code = Operation.getDeviceInfo then "get info"
  else if code = Operation.getStorageIds then "stor ids"
  else if code = Operation.getStorageInfo then "stor info"
  else if code = Operation.getNumObjects then "num objs"
  else if code = Operation.getObjectHandles then "obj hndl"
  else if code = Operation.closeSession then "close"
  else if code < 0x1000 then "vendor"
  else "other"

/-- The status line for a DATA phase. -/
def dataLabel (code : UInt16) : String :=
  if code = Operation.getDeviceInfo then "send info"
  else if code = Operation.getStorageIds then "send ids"
  else if code = Operation.getStorageInfo then "send stor"
  else if code = Operation.getNumObjects then "send num"
  else if code = Operation.getObjectHandles then "send hndl"
  else "send"

/-- The status line for a response with the given code to an operation. -/
def responseLabel (op code : UInt16) : String :=
  if code = ResponseCode.ok then
    if op = Operation.openSession then "open ok"
    else if op = Operation.getDeviceInfo then "info ok"
    else if op = Operation.getStorageIds then "ids ok"
    else if op = Operation.getStorageInfo then "stor ok"
    else if op = Operation.getNumObjects then "num ok"
    else if op = Operation.getObjectHandles then "hndl ok"
    else if op = Operation.closeSession then "close ok"
    else "ok"
  else if code = ResponseCode.operationNotSupported then "unsup"
  else "resp"

/-- The summary of a container that came in. -/
def summary (c : Container) : String :=
  c.layout.name ++ " " ++ c.header.kind.name ++ " " ++ hex16 c.header.code ++ " tid="
    ++ toString c.header.tid.toNat

/-! ## Answers -/

/-- Sends a RESPONSE and shows its label. -/
def respond (s : Legacy) (code : UInt16) (tid : UInt32) : List Action :=
  [.submit (responseContainer code tid), .status (responseLabel s.lastOp code)]

/-- Starts the DATA phase of an operation in the catalog; any other is not supported. -/
def stream (code : UInt16) (tid : UInt32) (s : Legacy) : Reaction Legacy :=
  match Catalog.lookup code with
  | none => (s, s.respond ResponseCode.operationNotSupported tid)
  | some payload =>
    match s.transaction.startStream code tid payload true with
    | .ok (transfer, transaction) =>
      ({ s with transaction }, [.submit transfer, .status (dataLabel code)])
    | .error _ => (s, [])

/-- A COMMAND drops what was under way and is then answered. -/
def onCommand (c : Container) (s : Legacy) : Reaction Legacy :=
  let dropped := s.transaction.superseded.map Action.request
  let s := { s with transaction := .idle }
  let code := c.header.code
  let tid := c.header.tid
  Reaction.andThen (s, dropped) fun s =>
    if code = Operation.openSession then
      ({ s with session := { s.session with id := some c.param0 } }, s.respond ResponseCode.ok tid)
    else if code = Operation.closeSession then
      ({ s with session := { s.session with id := none } }, s.respond ResponseCode.ok tid)
    else if code = Operation.recButton then
      -- No answer before the DATA that says what to do.
      ({ s with transaction := .awaitingData ⟨code, tid, c.param0⟩ }, [])
    else stream code tid s

/-- What the record button does for the DATA of a press: only a full press counts, and its first
byte says start or stop. -/
def recKind? (param0 : UInt32) (data : Bytes) : Option RecKind :=
  if param0 = RecButton.fullPress then
    match data with
    | [] => none
    | b :: _ =>
      if b = RecButton.startByte then some .start
      else if b = RecButton.stopByte then some .stop
      else none
  else none

/-- The status line for the record button. -/
def recLabel : RecKind → String
  | .start => "rec start"
  | .stop => "rec stop"

/-- The record button starts or stops the recording. -/
def applyRec (kind : RecKind) (tid : UInt32) (data : Bytes) (s : Legacy) : Reaction Legacy :=
  ({ s with recording := kind.recording },
   [.report (.recording (.ofData kind tid data)), .status (recLabel kind)])

/-- DATA counts only for the operation that waits for it. -/
def onData (c : Container) (s : Legacy) : Reaction Legacy :=
  match s.transaction.takePending? c.header.code c.header.tid with
  | none => (s, [])
  | some op =>
    let s := { s with transaction := .idle }
    let pressed := match recKind? op.param0 c.tail with
      | some kind => s.applyRec kind c.header.tid c.tail
      | none => (s, [])
    pressed.andThen fun s => (s, s.respond ResponseCode.ok c.header.tid)

/-- A container came in. -/
def onContainer (c : Container) (s : Legacy) : Reaction Legacy :=
  let seen :=
    ({ s with lastOp := c.header.code },
     [Action.report (.container .toDevice (summary c) c.rawLength),
      Action.status (receiveLabel c.header.code)])
  Reaction.andThen seen fun s =>
    match c.header.kind with
    | .command => s.onCommand c
    | .data => s.onData c
    | .response | .event => (s, [])

/-- A transfer came in. What is no container is dropped; either way the next one is asked for. -/
def outCompleted (data : Bytes) (s : Legacy) : Reaction Legacy :=
  let handled := match Container.classify data with
    | .ok c => s.onContainer c
    | .error _ => (s, [])
  handled.followedBy [.armOut]

/-- A transfer was collected: the stream goes on, or ends with the RESPONSE it owes. -/
def inCompleted (ep : UInt8) (s : Legacy) : Reaction Legacy :=
  if ep = Endpoint.bulkIn then
    match s.transaction.inCompleted with
    | (.sent transfer, transaction) => ({ s with transaction }, [.submit transfer])
    | (.finished _ (some tid), transaction) =>
      ({ s with transaction }, s.respond ResponseCode.ok tid)
    | (_, transaction) => ({ s with transaction }, [])
  else (s, [])

/-- Ends the session and drops what was under way. The recording goes on. -/
def clear (s : Legacy) : Legacy :=
  { s with session := { s.session with id := none }, transaction := .idle }

def busReset (s : Legacy) : Legacy × List Event :=
  (clear { s with session := s.session.busReset }, [.reset .bus])

def interfaceOpened (interface : UInt8) (s : Legacy) : Reaction Legacy :=
  ({ s with session := s.session.openInterface interface },
   [.report (.interfaceOpened interface), .armOut])

def control (view : Bus.View) (setup : Setup) (s : Legacy) : Reaction Legacy × ControlResponse :=
  let outcome := Control.outcome view setup s.session.interface
  let acted : Reaction Legacy := (s, outcome.ops.map Action.request)
  if outcome.reset then
    (acted.andThen fun s => (s.clear, [.report (.reset .classRequest)]), outcome.response)
  else (acted, outcome.response)

instance : Responder Legacy where
  busReset := busReset
  interfaceOpened _ := interfaceOpened
  control view setup _ := control view setup
  outCompleted _ := outCompleted
  inCompleted _ := inCompleted

end Legacy

end PictureTransfer
