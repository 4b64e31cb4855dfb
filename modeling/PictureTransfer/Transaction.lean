import PictureTransfer.DataStream

/-!
# Sessions and transactions

A session lasts from the host's OpenSession to its CloseSession. Inside it at most one operation is
under way: it waits for the host's DATA, or it streams DATA to the host.
-/

namespace PictureTransfer

/-- The interface the host selected, whether it is in use, and the open session. -/
structure Session where
  interface : UInt8 := 0
  mounted : Bool := false
  id : Option UInt32 := none
  deriving DecidableEq, Repr

namespace Session

def openInterface (interface : UInt8) (s : Session) : Session :=
  { s with interface := interface, mounted := true }

def isOpen (s : Session) : Bool := s.id.isSome

/-- A bus reset ends the session and leaves the interface number. -/
def busReset (s : Session) : Session := { s with mounted := false, id := none }

end Session

/-- An operation that waits for DATA from the host. -/
structure PendingOp where
  code : UInt16
  tid : UInt32
  param0 : UInt32
  deriving DecidableEq, Repr

/-- What is under way. -/
inductive Transaction where
  | idle
  | awaitingData (op : PendingOp)
  | streaming (stream : DataStream)
  deriving DecidableEq, Repr

namespace Transaction

/-- A stream is refused while another one is active. -/
structure AlreadyActive where
  active : UInt16
  requested : UInt16
  deriving DecidableEq, Repr

def AlreadyActive.message (e : AlreadyActive) : String :=
  "Stream for op " ++ hex16 e.active ++ " still active, cannot start op " ++ hex16 e.requested

/-- The name of a phase in messages. -/
def phaseName : Transaction → String
  | idle => "IDLE"
  | awaitingData op => "AWAITING_DATA(" ++ hex16 op.code ++ ")"
  | streaming s => "STREAMING(" ++ hex16 s.op ++ ")"

def isIdle : Transaction → Bool
  | idle => true
  | _ => false

/-- The operation that waits for DATA. -/
def pending? : Transaction → Option PendingOp
  | awaitingData op => some op
  | _ => none

/-- What a new COMMAND does to the bus: the transfers of a stream it supersedes are dropped. -/
def superseded : Transaction → List Bus.Op
  | streaming _ => [.abortIn Endpoint.bulkIn]
  | _ => []

/-- Takes the operation that waits for DATA, if code and transaction are its own. -/
def takePending? (code : UInt16) (tid : UInt32) : Transaction → Option PendingOp
  | awaitingData op => if op.code = code ∧ op.tid = tid then some op else none
  | _ => none

/-- Starts to stream a payload: the first transfer, and what is under way then. -/
def startStream (code : UInt16) (tid : UInt32) (payload : Bytes) (respondAfter : Bool) :
    Transaction → Except AlreadyActive (Bytes × Transaction)
  | streaming s => .error ⟨s.op, code⟩
  | _ =>
    let (transfer, s) := DataStream.start { op := code, tid, payload, respondAfter }
    .ok (transfer, streaming s)

/-- What a bulk-IN completion leads to: nothing, the next transfer of the stream, or its end. -/
inductive Completion where
  | none
  | sent (transfer : Bytes)
  | finished (op : UInt16) (respondTid : Option UInt32)
  deriving DecidableEq, Repr

/-- A bulk-IN transfer completed. -/
def inCompleted : Transaction → Completion × Transaction
  | streaming s =>
    match s.next? with
    | some (transfer, s') => (.sent transfer, streaming s')
    | none => (.finished s.op s.owed, idle)
  | t => (.none, t)

end Transaction

end PictureTransfer
