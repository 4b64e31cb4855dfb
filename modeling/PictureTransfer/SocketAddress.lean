import PictureTransfer.Text.Numeral

/-!
# Socket addresses

An address of four bytes or of eight 16-bit groups with a port, its text, and the reader of such
texts. A text that is read as an address is read to its end.
-/

namespace PictureTransfer

/-- An address and a port. A long address may belong to a scope. -/
inductive SocketAddress where
  | short (b0 b1 b2 b3 : UInt8) (port : UInt16)
  | long (groups : List UInt16) (scope : UInt32) (port : UInt16)
  deriving DecidableEq, Repr

namespace SocketAddress

open Text

/-! ## Text -/

/-- Four bytes with dots between them. -/
def shortText (b0 b1 b2 b3 : UInt8) : String :=
  String.intercalate "." ([b0, b1, b2, b3].map fun b => Numeral.decimalText b.toNat)

/-- Hexadecimal digits without leading zeros, in small letters. -/
def groupText (group : UInt16) : String :=
  String.ofList ((Nat.toDigits 16 group.toNat))

/-- Groups with colons between them. -/
def groupsText (groups : List UInt16) : String :=
  String.intercalate ":" (groups.map groupText)

/-- How many zeros stand at the front. -/
def zerosAtFront (groups : List UInt16) : Nat := (groups.takeWhile (· = 0)).length

/-- Where the longest run of zeros starts, the first one of several, and how long it is. -/
def longestZeros (groups : List UInt16) : Nat × Nat :=
  ((List.range groups.length).map fun i => (i, zerosAtFront (groups.drop i))).foldl
    (fun best run => if best.2 < run.2 then run else best) (0, 0)

/-- A long address; two colons stand for the longest run of two or more zeros. An address that holds
a short one shows it in dots. -/
def longText (groups : List UInt16) : String :=
  match groups with
  | [0, 0, 0, 0, 0, 0xFFFF, g, h] =>
    "::ffff:" ++ shortText (g / 256).toUInt8 g.toUInt8 (h / 256).toUInt8 h.toUInt8
  | _ =>
    let (start, length) := longestZeros groups
    if 1 < length then
      groupsText (groups.take start) ++ "::" ++ groupsText (groups.drop (start + length))
    else groupsText groups

/-- The text of an address with its port. -/
def text : SocketAddress → String
  | short b0 b1 b2 b3 port =>
    shortText b0 b1 b2 b3 ++ ":" ++ Numeral.decimalText port.toNat
  | long groups scope port =>
    let suffix := if scope = 0 then "" else "%" ++ Numeral.decimalText scope.toNat
    "[" ++ longText groups ++ suffix ++ "]:" ++ Numeral.decimalText port.toNat

/-! ## Reading -/

/-- Drops one given character. -/
def skip (c : Char) : List Char → Option (List Char)
  | [] => none
  | d :: rest => if d = c then some rest else none

/-- All digits of the radix at the front, at least one, and what follows them. -/
def digits (radix : Nat) (rest : List Char) : Option (List Char × List Char) :=
  let front := rest.takeWhile (Numeral.isDigit radix)
  if front.isEmpty then none else some (front, rest.dropWhile (Numeral.isDigit radix))

/-- A decimal number below a bound, leading zeros allowed. -/
def number (bound : Nat) (rest : List Char) : Option (Nat × List Char) := do
  let (front, left) ← digits 10 rest
  let n := Numeral.value 10 front
  if n < bound then pure (n, left) else none

/-- A decimal byte of at most three digits without leading zeros. -/
def byte (rest : List Char) : Option (UInt8 × List Char) := do
  let (front, left) ← digits 10 rest
  let n := Numeral.value 10 front
  if front.length ≤ 3 ∧ n < 256 ∧ (front.length = 1 ∨ front.head? ≠ some '0') then
    pure (UInt8.ofNat n, left)
  else none

/-- A group of at most four hexadecimal digits. -/
def group (rest : List Char) : Option (UInt16 × List Char) := do
  let (front, left) ← digits 16 rest
  if front.length ≤ 4 then pure (UInt16.ofNat (Numeral.value 16 front), left) else none

/-- Four bytes with dots between them. -/
def bytes (rest : List Char) : Option ((UInt8 × UInt8 × UInt8 × UInt8) × List Char) := do
  let (b0, rest) ← byte rest
  let (b1, rest) ← byte (← skip '.' rest)
  let (b2, rest) ← byte (← skip '.' rest)
  let (b3, rest) ← byte (← skip '.' rest)
  pure ((b0, b1, b2, b3), rest)

/-- A short address within a long one, as two groups. -/
def bytesAsGroups (rest : List Char) : Option (List UInt16 × List Char) := do
  let ((b0, b1, b2, b3), rest) ← bytes rest
  pure ([UInt16.ofNat (b0.toNat * 256 + b1.toNat), UInt16.ofNat (b2.toNat * 256 + b3.toNat)], rest)

/-- What a run of groups gave: the groups, and whether a short address ended it. -/
structure Groups where
  found : List UInt16 := []
  closed : Bool := false

/-- At most so many groups with colons between them. `front` says that no group came before. Where
two groups have room, a short address may take their place; it is the last thing then. -/
def groups (front : Bool) : Nat → List Char → Groups × List Char
  | 0, rest => ({}, rest)
  | room + 1, rest =>
    match if front then some rest else skip ':' rest with
    | none => ({}, rest)
    | some after =>
      match if 0 < room then bytesAsGroups after else none with
      | some (pair, left) => ({ found := pair, closed := true }, left)
      | none =>
        match group after with
        | none => ({}, rest)
        | some (g, left) =>
          let (more, left) := groups false room left
          ({ more with found := g :: more.found }, left)

/-- Eight groups, or fewer with two colons for one or more zero groups. A short address ends the
whole address only. -/
def longGroups (rest : List Char) : Option (List UInt16 × List Char) :=
  let (head, left) := groups true 8 rest
  if head.found.length = 8 then some (head.found, left)
  else if head.closed then none
  else do
    let left ← skip ':' (← skip ':' left)
    let (tail, left) := groups true (7 - head.found.length) left
    let zeros := List.replicate (8 - head.found.length - tail.found.length) 0
    pure (head.found ++ zeros ++ tail.found, left)

/-- The number behind a percent sign, or zero if there is none. -/
def scope (rest : List Char) : UInt32 × List Char :=
  match skip '%' rest >>= number UInt32.size with
  | some (n, left) => (UInt32.ofNat n, left)
  | none => (0, rest)

/-- A port behind a colon. -/
def port (rest : List Char) : Option (UInt16 × List Char) := do
  let (n, left) ← number UInt16.size (← skip ':' rest)
  pure (UInt16.ofNat n, left)

def readShort (rest : List Char) : Option (SocketAddress × List Char) := do
  let ((b0, b1, b2, b3), left) ← bytes rest
  let (p, left) ← port left
  pure (short b0 b1 b2 b3 p, left)

def readLong (rest : List Char) : Option (SocketAddress × List Char) := do
  let (found, left) ← longGroups (← skip '[' rest)
  let (s, left) := scope left
  let (p, left) ← port (← skip ']' left)
  pure (long found s p, left)

/-- The address that a whole text shows. -/
def read? (text : String) : Option SocketAddress :=
  match readShort text.toList <|> readLong text.toList with
  | some (address, []) => some address
  | _ => none

end SocketAddress

end PictureTransfer
