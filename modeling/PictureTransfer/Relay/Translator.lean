import PictureTransfer.Container.Classify
import PictureTransfer.Container.Transfers
import PictureTransfer.Operation

/-!
# Between the host's layouts and a camera's

A camera understands the standard layout alone. Containers of the host are rebuilt in it, and the
camera's containers go back as they are or, on request, in the layout of the host's COMMAND.
-/

namespace PictureTransfer.Relay

/-- The layout of containers for the host: the camera's own, or that of the host's COMMAND. -/
inductive ReplyLayout where
  | standard
  | mirror
  deriving DecidableEq, Repr

namespace ReplyLayout

def name : ReplyLayout → String
  | standard => "standard"
  | mirror => "mirror"

/-- The layout with the given name; each has two names. -/
def ofName? (name : String) : Except String ReplyLayout :=
  if name = "mirror" ∨ name = "auto" then .ok mirror
  else if name = "standard" ∨ name = "camera" then .ok standard
  else .error ("unknown reply layout '" ++ name ++ "'")

end ReplyLayout

/-- Which phase of a transaction the host is in. -/
inductive Stage where
  | command
  | data
  deriving DecidableEq, Repr

def Stage.name : Stage → String
  | command => "command"
  | data => "data"

/-- A container of the host, rebuilt for the camera, and what it belongs to. -/
structure Request where
  container : Bytes
  stage : Stage
  op : UInt16
  tid : UInt32
  layout : Layout
  deriving DecidableEq, Repr

/-- The COMMAND whose RESPONSE has not come yet. -/
structure PendingCommand where
  code : UInt16
  tid : UInt32
  layout : Layout
  deriving DecidableEq, Repr

/-- The COMMAND under way, and the layout for the host. -/
structure Translator where
  replyLayout : ReplyLayout
  pending : Option PendingCommand := none
  deriving DecidableEq, Repr

namespace Translator

/-- Rebuilds a transfer of the host in standard layout. DATA belongs to the COMMAND under way,
whatever its own header says; other kinds are not forwarded. -/
def toCamera (raw : Bytes) (t : Translator) : Except HeaderError (Option Request) × Translator :=
  match Container.classify raw with
  | .error e => (.error e, t)
  | .ok c =>
    match c.header.kind with
    | .command =>
      let pending : PendingCommand := ⟨c.header.code, c.header.tid, c.layout⟩
      (.ok (some ⟨commandContainer pending.code pending.tid c.params, .command,
          pending.code, pending.tid, pending.layout⟩),
       { t with pending := some pending })
    | .data =>
      let owner := t.pending.getD ⟨c.header.code, c.header.tid, c.layout⟩
      (.ok (some ⟨dataContainer owner.code owner.tid c.tail, .data,
          owner.code, owner.tid, owner.layout⟩), t)
    | .response | .event => (.ok none, t)

/-- A container in the given layout. A RESPONSE without payload is filled up with zeros to the
size of a standard header. -/
def build (layout : Layout) (h : Header) (payload : Bytes) : Bytes :=
  let out :=
    h.encode layout (UInt32.ofNat (Header.standardLength + payload.length)) ++ payload
  if h.kind = .response ∧ payload.isEmpty then
    out ++ List.replicate (Header.standardLength - out.length) 0
  else out

/-- Whether a header is a camera's refusal to open a session that is open already. -/
def isReopened (request : Request) (h : Header) : Bool :=
  h.kind = .response && request.op = Operation.openSession
    && h.code = ResponseCode.sessionAlreadyOpen

/-- Rebuilds a container of the camera for the host. A session that is open already counts as
opened, and a RESPONSE ends the transaction. -/
def toHost (container : Bytes) (request : Request) (t : Translator) :
    Except HeaderError (Kind × Bytes) × Translator :=
  match Header.decodeStandard container with
  | .error e => (.error e, t)
  | .ok (_, h) =>
    let reopened := isReopened request h
    let header := if reopened then { h with code := ResponseCode.ok } else h
    let payload := if reopened then [] else container.drop Header.standardLength
    let reply := match t.replyLayout with
      | .standard => if reopened then build .standard header payload else container
      | .mirror => build request.layout header payload
    (.ok (h.kind, reply), if h.kind = .response then { t with pending := none } else t)

end Translator

end PictureTransfer.Relay
