import PictureTransfer.Container.Header

/-!
# Reading a container in any layout

The host does not keep to one layout. `classify` tries the five in a fixed order, the padded ones
first and the longest padding before the shorter, and takes the first whose zero bytes and kind
fit. It fails only for the two reasons of `HeaderError` that speak of lengths and layouts.
-/

namespace PictureTransfer

/-- A container as it came in: its layout, its header and everything behind the header. -/
structure Container where
  layout : Layout
  header : Header
  tail : Bytes
  deriving DecidableEq, Repr

namespace Container

/-- The parameters behind the header, at most five whole words. -/
def params (c : Container) : List UInt32 := (Bytes.words32 c.tail).take maxParams

/-- The first parameter, zero when there is none. -/
def param0 (c : Container) : UInt32 := c.params.headD 0

/-- How many bytes came in. -/
def rawLength (c : Container) : Nat := c.layout.headerLength + c.tail.length

/-- Reads a header from its three fields, in the order of `Header.fields`, at the front. -/
def ofFields? (layout : Layout) : Bytes → Option Container
  | k0 :: k1 :: c0 :: c1 :: t0 :: t1 :: t2 :: t3 :: tail =>
    (Kind.ofWord? (Bytes.word16 k0 k1)).map fun kind =>
      ⟨layout, ⟨kind, Bytes.word16 c0 c1, Bytes.word32 t0 t1 t2 t3⟩, tail⟩
  | _ => none

/-- Reads a container in one layout: its zero bytes must be there and its kind must be known. -/
def ofLayout? : Layout → Bytes → Option Container
  | .pad3, 0 :: 0 :: 0 :: rest => ofFields? .pad3 rest
  | .pad2, 0 :: 0 :: rest => ofFields? .pad2 rest
  | .pad1, 0 :: rest => ofFields? .pad1 rest
  | .standard, _ :: _ :: _ :: _ :: rest => ofFields? .standard rest
  | .alternate,
      _ :: _ :: _ :: _ :: c0 :: c1 :: t0 :: t1 :: t2 :: t3 :: k0 :: k1 :: tail =>
    (Kind.ofWord? (Bytes.word16 k0 k1)).map fun kind =>
      ⟨.alternate, ⟨kind, Bytes.word16 c0 c1, Bytes.word32 t0 t1 t2 t3⟩, tail⟩
  | _, _ => none

/-- The layouts in the order in which they are tried. -/
def layoutOrder : List Layout := [.pad3, .pad2, .pad1, .standard, .alternate]

/-- Fewer bytes than this hold no container. -/
def minLength : Nat := 8

/-- The container in a transfer from the host. -/
def classify (raw : Bytes) : Except HeaderError Container :=
  if raw.length < minLength then .error (.tooSmall minLength raw.length)
  else match layoutOrder.findSome? (ofLayout? · raw) with
    | some container => .ok container
    | none => .error (.unknownLayout raw.length)

end Container

end PictureTransfer
