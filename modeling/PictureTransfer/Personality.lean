/-!
# Personalities

Which device is presented to the host.
-/

namespace PictureTransfer

/-- A strict camera of two operations, the impersonated camera model, or a tunnel to a relay. -/
inductive Personality where
  | standard
  | legacy
  | rawProxy
  deriving DecidableEq, Repr

namespace Personality

def name : Personality → String
  | standard => "standard"
  | legacy => "legacy"
  | rawProxy => "raw-proxy"

/-- The personality with exactly the given name. -/
def ofName? (name : String) : Option Personality :=
  if name = "standard" then some standard
  else if name = "legacy" then some legacy
  else if name = "raw-proxy" then some rawProxy
  else none

/-- The personality a user asks for, who may also say `raw`. -/
def ofRequest (name : String) : Except String Personality :=
  if name = "raw" then .ok rawProxy
  else match ofName? name with
    | some p => .ok p
    | none => .error ("unknown personality '" ++ name ++ "'")

@[simp] theorem ofName?_name (p : Personality) : ofName? p.name = some p := by
  cases p <;> rfl

end Personality

end PictureTransfer
