import PictureTransfer.Control
import PictureTransfer.Event

/-!
# Responders

A responder is driven by the callbacks of a device stack and answers with actions: operations on
its bus and events for its observers. The class `Responder` has one function for each callback, and
`Attached` is a responder on a bus, with the events so far.
-/

namespace PictureTransfer

/-- What a responder does. -/
inductive Action where
  | request (op : Bus.Op)
  | report (event : Event)
  deriving DecidableEq, Repr

namespace Action

/-- Sends a transfer to the host. -/
def submit (data : Bytes) : Action := .request (.submitIn Endpoint.bulkIn data)

/-- Asks for the host's next transfer. -/
def armOut : Action := .request (.armOut Endpoint.bulkOut receiveSize)

/-- Shows a status line. -/
def status (line : String) : Action := .report (.status line)

def op? : Action → Option Bus.Op
  | .request op => some op
  | .report _ => none

def event? : Action → Option Event
  | .request _ => none
  | .report event => some event

/-- The bytes of a transfer to the host. -/
def transfer? : Action → Option Bytes
  | .request op => op.transfer?
  | .report _ => none

@[simp] theorem transfer?_submit (data : Bytes) : (submit data).transfer? = some data := rfl

@[simp] theorem transfer?_status (line : String) : (status line).transfer? = none := rfl

end Action

/-- What a callback leads to: the next state, and actions in order. -/
abbrev Reaction (σ : Type) := σ × List Action

namespace Reaction

variable {σ : Type}

/-- First these actions, then those of a further step. -/
def andThen (r : Reaction σ) (next : σ → Reaction σ) : Reaction σ :=
  ((next r.1).1, r.2 ++ (next r.1).2)

/-- First what a reaction does, then further actions that leave the state as it is. -/
def followedBy (r : Reaction σ) (actions : List Action) : Reaction σ := (r.1, r.2 ++ actions)

end Reaction

/-- The callbacks of a device stack. What a responder does may depend on its state and on what it
sees of the bus; a bus reset gives it no bus to act on. -/
class Responder (σ : Type) where
  /-- The bus was reset, or the host went away. -/
  busReset : σ → σ × List Event
  /-- The host selected the interface. -/
  interfaceOpened : Bus.View → UInt8 → σ → Reaction σ
  /-- A control request that the device stack did not answer, with the host's data. -/
  control : Bus.View → Setup → Bytes → σ → Reaction σ × ControlResponse
  /-- A bulk-OUT transfer came in. -/
  outCompleted : Bus.View → Bytes → σ → Reaction σ
  /-- An IN transfer on an endpoint was collected. -/
  inCompleted : Bus.View → UInt8 → σ → Reaction σ

/-- A responder on its bus, and the events so far. -/
structure Attached (β σ : Type) where
  bus : β
  responder : σ
  events : List Event := []

namespace Attached

variable {β σ : Type} [Bus β] [Responder σ]

/-- Carries out one action. -/
def act (a : Attached β σ) : Action → Attached β σ
  | .request op => { a with bus := Bus.perform op a.bus }
  | .report event => { a with events := a.events ++ [event] }

/-- The responder moves to its next state and its actions are carried out in order. -/
def react (a : Attached β σ) (r : Reaction σ) : Attached β σ :=
  r.2.foldl act { a with responder := r.1 }

def busReset (a : Attached β σ) : Attached β σ :=
  let (responder, events) := Responder.busReset a.responder
  { a with responder, events := a.events ++ events }

def interfaceOpened (interface : UInt8) (a : Attached β σ) : Attached β σ :=
  a.react (Responder.interfaceOpened (Bus.view a.bus) interface a.responder)

def control (setup : Setup) (data : Bytes) (a : Attached β σ) :
    Attached β σ × ControlResponse :=
  let (reaction, response) := Responder.control (Bus.view a.bus) setup data a.responder
  (a.react reaction, response)

def outCompleted (data : Bytes) (a : Attached β σ) : Attached β σ :=
  a.react (Responder.outCompleted (Bus.view a.bus) data a.responder)

def inCompleted (ep : UInt8) (a : Attached β σ) : Attached β σ :=
  a.react (Responder.inCompleted (Bus.view a.bus) ep a.responder)

end Attached

end PictureTransfer
