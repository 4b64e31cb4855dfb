import PictureTransfer.Bytes

/-!
# Container headers

A container opens with its kind, an operation or response code and a transaction id. Five layouts
put these on the wire; two of them start with the length of the whole container. `length_encode`
gives the size of each header.
-/

namespace PictureTransfer

/-- What a container is in a transaction. -/
inductive Kind where
  | command
  | data
  | response
  | event
  deriving DecidableEq, Repr

namespace Kind

/-- The number of a kind on the wire. -/
def toWord : Kind → UInt16
  | command => 1
  | data => 2
  | response => 3
  | event => 4

/-- The kind of a number from the wire. -/
def ofWord? (w : UInt16) : Option Kind :=
  if w = 1 then some command
  else if w = 2 then some data
  else if w = 3 then some response
  else if w = 4 then some event
  else none

/-- The name of a kind in messages. -/
def name : Kind → String
  | command => "COMMAND"
  | data => "DATA"
  | response => "RESPONSE"
  | event => "EVENT"

@[simp] theorem ofWord?_toWord (k : Kind) : ofWord? k.toWord = some k := by
  cases k <;> rfl

end Kind

/-- How a header lies on the wire: with a length in front and the kind before or after the code
and transaction, or without a length behind one to three zero bytes. -/
inductive Layout where
  | standard
  | alternate
  | pad3
  | pad2
  | pad1
  deriving DecidableEq, Repr

namespace Layout

/-- The bytes before parameters or payload. -/
def headerLength : Layout → Nat
  | standard | alternate => 12
  | pad3 => 11
  | pad2 => 10
  | pad1 => 9

/-- Whether the header starts with the length of the container. -/
def hasLength : Layout → Bool
  | standard | alternate => true
  | pad3 | pad2 | pad1 => false

/-- The name of a layout in messages. -/
def name : Layout → String
  | standard => "std_len"
  | alternate => "alt_len"
  | pad3 => "pad3"
  | pad2 => "pad2"
  | pad1 => "pad1"

end Layout

/-- What every layout carries. -/
structure Header where
  kind : Kind
  code : UInt16
  tid : UInt32
  deriving DecidableEq, Repr

/-- Why bytes are no container. -/
inductive HeaderError where
  | tooSmall (expected actual : Nat)
  | unknownLayout (length : Nat)
  | invalidKind (word : UInt16)
  deriving DecidableEq, Repr

/-- The text of a header error. -/
def HeaderError.message : HeaderError → String
  | tooSmall expected actual =>
    "Buffer too small: expected " ++ toString expected ++ ", got " ++ toString actual
  | unknownLayout length =>
    "No known container layout matches " ++ toString length ++ " bytes"
  | invalidKind word => "Invalid container type " ++ hex16 word

namespace Header

/-- The length of a header in standard layout. -/
def standardLength : Nat := 12

/-- Kind, code and transaction in this order. -/
def fields (h : Header) : Bytes :=
  Bytes.ofWord16 h.kind.toWord ++ Bytes.ofWord16 h.code ++ Bytes.ofWord32 h.tid

/-- The header on the wire. The layouts without a length ignore `total`. -/
def encode (h : Header) (layout : Layout) (total : UInt32) : Bytes :=
  match layout with
  | .standard => Bytes.ofWord32 total ++ h.fields
  | .alternate =>
    Bytes.ofWord32 total ++ Bytes.ofWord16 h.code ++ Bytes.ofWord32 h.tid
      ++ Bytes.ofWord16 h.kind.toWord
  | .pad3 => 0 :: 0 :: 0 :: h.fields
  | .pad2 => 0 :: 0 :: h.fields
  | .pad1 => 0 :: h.fields

@[simp] theorem length_fields (h : Header) : h.fields.length = 8 := by
  simp [fields]

@[simp] theorem length_encode (h : Header) (layout : Layout) (total : UInt32) :
    (h.encode layout total).length = layout.headerLength := by
  cases layout <;> simp [encode, Layout.headerLength]

/-- The header of a container in standard layout, with the length it declares. -/
def decodeStandard : Bytes → Except HeaderError (UInt32 × Header)
  | l0 :: l1 :: l2 :: l3 :: k0 :: k1 :: c0 :: c1 :: t0 :: t1 :: t2 :: t3 :: _ =>
    match Kind.ofWord? (Bytes.word16 k0 k1) with
    | some kind =>
      .ok (Bytes.word32 l0 l1 l2 l3, ⟨kind, Bytes.word16 c0 c1, Bytes.word32 t0 t1 t2 t3⟩)
    | none => .error (.invalidKind (Bytes.word16 k0 k1))
  | raw => .error (.tooSmall standardLength raw.length)

end Header

/-! ## Whole containers in standard layout -/

/-- The most parameters a COMMAND carries. -/
def maxParams : Nat := 5

/-- A container in standard layout that declares its own length, modulo `2 ^ 32`. -/
def standardContainer (h : Header) (body : Bytes) : Bytes :=
  h.encode .standard (UInt32.ofNat (Header.standardLength + body.length)) ++ body

/-- A RESPONSE without parameters. -/
def responseContainer (code : UInt16) (tid : UInt32) : Bytes :=
  standardContainer ⟨.response, code, tid⟩ []

/-- A COMMAND with the first five of the parameters. -/
def commandContainer (code : UInt16) (tid : UInt32) (params : List UInt32) : Bytes :=
  standardContainer ⟨.command, code, tid⟩ ((params.take maxParams).flatMap Bytes.ofWord32)

/-- A DATA container. -/
def dataContainer (code : UInt16) (tid : UInt32) (payload : Bytes) : Bytes :=
  standardContainer ⟨.data, code, tid⟩ payload

@[simp] theorem length_standardContainer (h : Header) (body : Bytes) :
    (standardContainer h body).length = 12 + body.length := by
  simp [standardContainer, Layout.headerLength]

end PictureTransfer
