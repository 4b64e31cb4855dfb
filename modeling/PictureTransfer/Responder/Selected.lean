import PictureTransfer.Identity
import PictureTransfer.Personality
import PictureTransfer.Responder.Bridge
import PictureTransfer.Responder.Legacy
import PictureTransfer.Responder.Standard

/-!
# The selected personality

One type for the three responders, so that a device can be set up for whichever is asked for.
-/

namespace PictureTransfer

/-- A responder of one of the three personalities. -/
inductive Selected (L : Type) where
  | standard (r : Standard)
  | legacy (r : Legacy)
  | rawProxy (r : Bridge L)

namespace Selected

variable {L : Type}

def personality : Selected L → Personality
  | standard _ => .standard
  | legacy _ => .legacy
  | rawProxy _ => .rawProxy

/-- The fresh responder of a personality. The identity names the standard one, and the tunnel has
its budget and its link. -/
def ofPersonality (personality : Personality) (identity : Identity) (budget : Nat) (link : L) :
    Selected L :=
  match personality with
  | .standard => standard { name := ⟨identity.manufacturer, identity.product, identity.serial⟩ }
  | .legacy => legacy {}
  | .rawProxy => rawProxy { link, budget }

@[simp] theorem personality_ofPersonality (p : Personality) (identity : Identity) (budget : Nat)
    (link : L) : (ofPersonality p identity budget link).personality = p := by
  cases p <;> rfl

/-- The same reaction with its state seen as that of a selected responder. -/
def lift {σ : Type} (wrap : σ → Selected L) (r : Reaction σ) : Reaction (Selected L) :=
  (wrap r.1, r.2)

variable [Relay.Link L]

def busReset : Selected L → Selected L × List Event
  | standard r => (r.busReset.1 |> standard, r.busReset.2)
  | legacy r => (r.busReset.1 |> legacy, r.busReset.2)
  | rawProxy r => (r.busReset.1 |> rawProxy, r.busReset.2)

def interfaceOpened (interface : UInt8) : Selected L → Reaction (Selected L)
  | standard r => lift standard (r.interfaceOpened interface)
  | legacy r => lift legacy (r.interfaceOpened interface)
  | rawProxy r => lift rawProxy (r.interfaceOpened interface)

def control (view : Bus.View) (setup : Setup) :
    Selected L → Reaction (Selected L) × ControlResponse
  | standard r => (r.control view setup).map (lift standard) id
  | legacy r => (r.control view setup).map (lift legacy) id
  | rawProxy r => (r.control view setup).map (lift rawProxy) id

def outCompleted (data : Bytes) : Selected L → Reaction (Selected L)
  | standard r => lift standard (r.outCompleted data)
  | legacy r => lift legacy (r.outCompleted data)
  | rawProxy r => lift rawProxy (r.outCompleted data)

def inCompleted (ep : UInt8) : Selected L → Reaction (Selected L)
  | standard r => lift standard (r.inCompleted ep)
  | legacy r => lift legacy (r.inCompleted ep)
  | rawProxy r => lift rawProxy (r.inCompleted ep)

instance : Responder (Selected L) where
  busReset := busReset
  interfaceOpened _ := interfaceOpened
  control view setup _ := control view setup
  outCompleted _ := outCompleted
  inCompleted _ := inCompleted

end Selected

end PictureTransfer
