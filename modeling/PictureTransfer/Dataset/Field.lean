import PictureTransfer.Bytes
import PictureTransfer.Text.Utf16

/-!
# Dataset fields

A dataset is a run of little-endian words, counted arrays and counted strings. `Field.encode`
writes each of them and `Reader` reads them back from the front of some bytes.
-/

namespace PictureTransfer

namespace Dataset

/-- One field of a dataset. -/
inductive Field where
  | word8 (v : UInt8)
  | word16 (v : UInt16)
  | word32 (v : UInt32)
  | word64 (v : UInt64)
  | array16 (items : List UInt16)
  | text (s : String)
  deriving DecidableEq, Repr

/-- The most UTF-16 units a string keeps; the terminator comes on top. -/
def maxUnits : Nat := 254

/-- A string on the wire: the number of units with the terminator, the units, and two zero bytes.
The empty string is a single zero byte, and units beyond `maxUnits` are dropped. -/
def encodeText (s : String) : Bytes :=
  if s.isEmpty then [0]
  else
    let units := (Text.Utf16.units s.toList).take maxUnits
    UInt8.ofNat (units.length + 1) :: units.flatMap Bytes.ofWord16 ++ [0, 0]

/-- An array on the wire: how many entries there are, then the entries. -/
def encodeArray16 (items : List UInt16) : Bytes :=
  Bytes.ofWord32 (UInt32.ofNat items.length) ++ items.flatMap Bytes.ofWord16

/-- The bytes of a field. -/
def Field.encode : Field → Bytes
  | word8 v => [v]
  | word16 v => Bytes.ofWord16 v
  | word32 v => Bytes.ofWord32 v
  | word64 v => Bytes.ofWord64 v
  | array16 items => encodeArray16 items
  | text s => encodeText s

/-- The bytes of a whole dataset. -/
def encode (fields : List Field) : Bytes := fields.flatMap Field.encode

/-! ## Reading -/

/-- Why bytes are no dataset. -/
inductive Error where
  | truncated
  | invalidText
  deriving DecidableEq, Repr

/-- The text of a dataset error. -/
def Error.message : Error → String
  | truncated => "Truncated dataset: failed to fill whole buffer"
  | invalidText => "Invalid UTF-16 in PTP string"

/-- A reader takes a value from the front of some bytes and leaves the rest. -/
abbrev Reader (α : Type) := StateT Bytes (Except Error) α

namespace Reader

def word8 : Reader UInt8
  | b :: rest => .ok (b, rest)
  | [] => .error .truncated

def word16 : Reader UInt16
  | b0 :: b1 :: rest => .ok (Bytes.word16 b0 b1, rest)
  | _ => .error .truncated

def word32 : Reader UInt32
  | b0 :: b1 :: b2 :: b3 :: rest => .ok (Bytes.word32 b0 b1 b2 b3, rest)
  | _ => .error .truncated

/-- So many 16-bit words. -/
def words16 : Nat → Reader (List UInt16)
  | 0 => pure []
  | n + 1 => do
    let v ← word16
    let rest ← words16 n
    pure (v :: rest)

def array16 : Reader (List UInt16) := do
  let n ← word32
  words16 n.toNat

/-- The units without the zeros at their end. -/
def trimZeros (units : List UInt16) : List UInt16 :=
  (units.reverse.dropWhile (· == 0)).reverse

/-- A string. Its count byte includes the terminator, and all zeros at the end are dropped. -/
def text : Reader String := do
  let n ← word8
  let units ← words16 n.toNat
  match Text.Utf16.decode? (trimZeros units) with
  | some chars => pure (String.ofList chars)
  | none => throw .invalidText

end Reader

end Dataset

end PictureTransfer
