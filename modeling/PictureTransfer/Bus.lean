import PictureTransfer.Bytes

/-!
# The device side of the bus

A responder never waits for the bus: it asks for endpoint operations, and completions come back to
it later. `Bus.Op` is such an operation, `Bus.View` is what can be seen of a bus, and the class
`Bus` is a bus that carries operations out or refuses them.
-/

namespace PictureTransfer

namespace Endpoint

def bulkOut : UInt8 := 0x02
def bulkIn : UInt8 := 0x81
def eventIn : UInt8 := 0x83

end Endpoint

/-- The largest bulk-OUT transfer that is asked for. -/
def receiveSize : Nat := 64

namespace Bus

/-- An endpoint operation. An IN transfer without bytes is a zero-length packet. -/
inductive Op where
  | armOut (ep : UInt8) (size : Nat)
  | submitIn (ep : UInt8) (data : Bytes)
  | abortIn (ep : UInt8)
  | clearStall (ep : UInt8)
  deriving DecidableEq, Repr

/-- Why a bus refuses an operation. -/
inductive Error where
  | tooLarge (ep : UInt8) (length max : Nat)
  | disconnected
  deriving DecidableEq, Repr

/-- The text of a refusal. -/
def Error.message : Error → String
  | tooLarge ep length max =>
    "Transfer of " ++ toString length ++ " bytes exceeds " ++ toString max ++ " on endpoint "
      ++ hex8 ep
  | disconnected => "Host disconnected"

/-- All that answers of a bus can depend on: whether the host is there, which endpoints are
halted, and how many IN transfers an abort would drop. -/
structure View where
  connected : Bool
  halted : UInt8 → Bool
  queued : UInt8 → Nat

/-- The payload of an IN transfer. -/
def Op.transfer? : Op → Option Bytes
  | .submitIn _ data => some data
  | _ => none

end Bus

/-- A bus carries out an operation or refuses it. -/
class Bus (β : Type) where
  view : β → Bus.View
  request : Bus.Op → β → Except Bus.Error β

/-- The bus after an operation whose refusal nobody looks at. -/
def Bus.perform {β : Type} [Bus β] (op : Bus.Op) (bus : β) : β :=
  match Bus.request op bus with
  | .ok next => next
  | .error _ => bus

end PictureTransfer
