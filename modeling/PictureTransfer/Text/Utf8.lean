/-!
# UTF-8 text

`encode` writes a text in UTF-8. `decodeLossy` reads any bytes: what is no UTF-8 becomes the
replacement character, one for each longest run of bytes that some character could have begun
with.
-/

namespace PictureTransfer.Text.Utf8

/-- The UTF-8 bytes of a text. -/
def encode (text : List Char) : List UInt8 := text.flatMap String.utf8EncodeChar

/-- The character that stands for bytes that are no text. -/
def replacement : Char := Char.ofNat 0xFFFD

/-- A byte that continues a character. -/
def isTail (b : UInt8) : Bool := 0x80 ≤ b && b ≤ 0xBF

/-- Whether `second` may follow the lead byte of a three-byte character: no overlong forms and no
surrogates. -/
def threeLead (lead second : UInt8) : Bool :=
  if lead = 0xE0 then 0xA0 ≤ second && second ≤ 0xBF
  else if lead = 0xED then 0x80 ≤ second && second ≤ 0x9F
  else 0xE1 ≤ lead && lead ≤ 0xEF && isTail second

/-- Whether `second` may follow the lead byte of a four-byte character: no overlong forms and
nothing above the last plane. -/
def fourLead (lead second : UInt8) : Bool :=
  if lead = 0xF0 then 0x90 ≤ second && second ≤ 0xBF
  else if lead = 0xF4 then 0x80 ≤ second && second ≤ 0x8F
  else 0xF1 ≤ lead && lead ≤ 0xF3 && isTail second

/-- The low six bits of a tail byte. -/
def tailBits (b : UInt8) : Nat := b.toNat % 64

/-- The first character of some bytes and how many bytes it takes, at least one. -/
def head : UInt8 → List UInt8 → Char × Nat
  | b, rest =>
    if b < 0x80 then (Char.ofNat b.toNat, 1)
    else match rest with
      | [] => (replacement, 1)
      | c :: rest =>
        if 0xC2 ≤ b && b ≤ 0xDF && isTail c then
          (Char.ofNat ((b.toNat - 0xC0) * 64 + tailBits c), 2)
        else if threeLead b c then
          match rest with
          | d :: _ =>
            if isTail d then
              (Char.ofNat ((b.toNat - 0xE0) * 4096 + tailBits c * 64 + tailBits d), 3)
            else (replacement, 2)
          | [] => (replacement, 2)
        else if fourLead b c then
          match rest with
          | d :: e :: _ =>
            if isTail d then
              if isTail e then
                (Char.ofNat ((b.toNat - 0xF0) * 262144 + tailBits c * 4096 + tailBits d * 64
                  + tailBits e), 4)
              else (replacement, 3)
            else (replacement, 2)
          | [d] => if isTail d then (replacement, 3) else (replacement, 2)
          | [] => (replacement, 2)
        else (replacement, 1)

/-- The text of any bytes, with the replacement character for what is no UTF-8. -/
def decodeLossy : List UInt8 → List Char
  | [] => []
  | b :: rest => (head b rest).1 :: decodeLossy (rest.drop ((head b rest).2 - 1))
termination_by bytes => bytes.length
decreasing_by simp only [List.length_drop, List.length_cons]; omega

end PictureTransfer.Text.Utf8
