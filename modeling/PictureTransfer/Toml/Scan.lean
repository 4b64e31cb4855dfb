/-!
# Scanning a text

A scanner takes a value from the front of a text and leaves the rest, or finds none there. The
second of two alternatives starts where the first one started.
-/

namespace PictureTransfer.Toml

/-- A reader of the front of a text. -/
abbrev Scan (α : Type) := StateT (List Char) Option α

namespace Scan

/-- One character of a class. -/
def oneOf (p : Char → Bool) : Scan Char
  | [] => none
  | c :: rest => if p c then some (c, rest) else none

/-- One given character. -/
def char (c : Char) : Scan Unit := do
  let _ ← oneOf (· = c)

/-- Given characters in their order. -/
def word : List Char → Scan Unit
  | [] => pure ()
  | c :: rest => do
    char c
    word rest

/-- A value that may be absent. -/
def maybe {α : Type} (p : Scan α) : Scan (Option α) := (some <$> p) <|> pure none

/-- Goes on only if a condition holds. -/
def require (b : Bool) : Scan Unit := if b then pure () else failure

end Scan

end PictureTransfer.Toml
