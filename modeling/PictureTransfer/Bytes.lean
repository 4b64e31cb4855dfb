/-!
# Bytes and words

Every message of the protocol is a list of bytes with words of fixed width in it. This file
writes a number as so many bytes, least or most significant byte first, and reads it back.
`littleValue_little` and `bigValue_big` say that a number below the width's bound survives, and
`length_little` and `length_big` that the width is always met.
-/

namespace PictureTransfer

/-- A run of bytes, first byte first. -/
abbrev Bytes := List UInt8

namespace Bytes

/-! ## Words in bytes -/

/-- The `w` low bytes of `n`, least significant first. -/
def little : Nat → Nat → Bytes
  | 0, _ => []
  | w + 1, n => UInt8.ofNat (n % 256) :: little w (n / 256)

/-- The number whose bytes, least significant first, are given. -/
def littleValue : Bytes → Nat
  | [] => 0
  | b :: rest => b.toNat + 256 * littleValue rest

/-- The `w` low bytes of `n`, most significant first. -/
def big (w n : Nat) : Bytes := (little w n).reverse

/-- The number whose bytes, most significant first, are given. -/
def bigValue (bytes : Bytes) : Nat := littleValue bytes.reverse

@[simp] theorem length_little (w n : Nat) : (little w n).length = w := by
  induction w generalizing n with
  | zero => rfl
  | succ w ih => simp [little, ih]

@[simp] theorem length_big (w n : Nat) : (big w n).length = w := by
  simp [big]

/-- How many numbers `w` bytes can hold. -/
def capacity : Nat → Nat
  | 0 => 1
  | w + 1 => 256 * capacity w

theorem littleValue_little (w n : Nat) : littleValue (little w n) = n % capacity w := by
  induction w generalizing n with
  | zero => simp [little, littleValue, capacity, Nat.mod_one]
  | succ w ih =>
    have hb : (UInt8.ofNat (n % 256)).toNat = n % 256 := by
      simp [UInt8.toNat_ofNat']
    rw [little, littleValue, ih, hb, capacity, Nat.mod_mul]

theorem bigValue_big (w n : Nat) : bigValue (big w n) = n % capacity w := by
  simp [bigValue, big, littleValue_little]

theorem littleValue_lt (bytes : Bytes) : littleValue bytes < capacity bytes.length := by
  induction bytes with
  | nil => simp [littleValue, capacity]
  | cons b rest ih =>
    have hb : b.toNat < 256 := b.toNat_lt
    rw [littleValue, List.length_cons, capacity]
    omega

theorem little_littleValue (bytes : Bytes) : little bytes.length (littleValue bytes) = bytes := by
  induction bytes with
  | nil => rfl
  | cons b rest ih =>
    have hb : b.toNat < 256 := b.toNat_lt
    have low : (b.toNat + 256 * littleValue rest) % 256 = b.toNat := by omega
    have high : (b.toNat + 256 * littleValue rest) / 256 = littleValue rest := by omega
    rw [List.length_cons, littleValue, little, low, high, ih, UInt8.ofNat_toNat]

/-- Bytes are the digits of their number. -/
theorem big_bigValue {w : Nat} {bytes : Bytes} (size : bytes.length = w) :
    big w (bigValue bytes) = bytes := by
  have digits := little_littleValue bytes.reverse
  rw [List.length_reverse, size] at digits
  rw [big, bigValue, digits, List.reverse_reverse]

/-! ## The three word sizes of the protocol -/

/-- Two bytes, low byte first. -/
def ofWord16 (v : UInt16) : Bytes := little 2 v.toNat

/-- Four bytes, low byte first. -/
def ofWord32 (v : UInt32) : Bytes := little 4 v.toNat

/-- Eight bytes, low byte first. -/
def ofWord64 (v : UInt64) : Bytes := little 8 v.toNat

/-- The word in two bytes, low byte first. -/
def word16 (b0 b1 : UInt8) : UInt16 := UInt16.ofNat (littleValue [b0, b1])

/-- The word in four bytes, low byte first. -/
def word32 (b0 b1 b2 b3 : UInt8) : UInt32 := UInt32.ofNat (littleValue [b0, b1, b2, b3])

/-- The whole four-byte words at the front, low byte first; up to three bytes may be left over. -/
def words32 : Bytes → List UInt32
  | b0 :: b1 :: b2 :: b3 :: rest => word32 b0 b1 b2 b3 :: words32 rest
  | _ => []

@[simp] theorem length_ofWord16 (v : UInt16) : (ofWord16 v).length = 2 := length_little 2 _

@[simp] theorem length_ofWord32 (v : UInt32) : (ofWord32 v).length = 4 := length_little 4 _

/-! ## Pieces -/

/-- A list cut into pieces of `n`, the last one possibly shorter. There is no piece when there is
nothing; a piece size of zero counts as one. -/
def pieces {α : Type} (n : Nat) (items : List α) : List (List α) :=
  match items with
  | [] => []
  | b :: rest => (b :: rest).take (max n 1) :: pieces n ((b :: rest).drop (max n 1))
termination_by items.length
decreasing_by simp only [List.length_drop, List.length_cons]; omega

/-- Gluing the pieces together gives the list back. -/
theorem flatten_pieces {α : Type} (n : Nat) (items : List α) :
    (pieces n items).flatten = items := by
  fun_induction pieces n items with
  | case1 => rfl
  | case2 b rest ih => rw [List.flatten_cons, ih, List.take_append_drop]

/-! ## Hexadecimal text -/

/-- The digit of a value below sixteen, in capitals. -/
def hexDigit (v : Nat) : Char :=
  Char.ofNat (if v < 10 then '0'.toNat + v else 'A'.toNat + (v - 10))

/-- The `w` low hexadecimal digits of `n`, in capitals, most significant first. -/
def hexDigits : Nat → Nat → List Char
  | 0, _ => []
  | w + 1, n => hexDigits w (n / 16) ++ [hexDigit (n % 16)]

/-- `w` hexadecimal digits in capitals. -/
def hex (w n : Nat) : String := String.ofList (hexDigits w n)

end Bytes

/-- A 16-bit code as messages show it. -/
def hex16 (v : UInt16) : String := "0x" ++ Bytes.hex 4 v.toNat

/-- An endpoint address as messages show it. -/
def hex8 (v : UInt8) : String := "0x" ++ Bytes.hex 2 v.toNat

end PictureTransfer
