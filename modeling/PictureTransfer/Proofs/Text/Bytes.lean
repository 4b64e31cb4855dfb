import PictureTransfer.Text.Utf8
import Mathlib.Data.List.Basic

/-!
# Text as bytes

A text that is written in UTF-8 is read back as it was (`decodeLossy_encode`): none of its
characters is mistaken for bytes that are no text, the replacement character itself included. A byte
of it is zero only where a character is (`ne_zero_of_mem_encode`).
-/

namespace PictureTransfer.Text.Utf8

/-! ## One character -/

section Head

variable {b c d e : UInt8} {v : Nat} (rest : List UInt8)

/-- A byte made of six bits is a tail byte and keeps them. -/
theorem isTail_of_bits (made : b.toNat = v % 64 + 128) : isTail b = true ∧ tailBits b = v % 64 := by
  rw [isTail, tailBits, Bool.and_eq_true, decide_eq_true_eq, decide_eq_true_eq,
    UInt8.le_iff_toNat_le, UInt8.le_iff_toNat_le, made]
  refine ⟨⟨?_, ?_⟩, by omega⟩
  · show 128 ≤ _
    omega
  · show _ ≤ 191
    omega

theorem not_ascii (lead : 128 ≤ b.toNat) : ¬b < 0x80 := by
  rw [UInt8.lt_iff_toNat_lt]
  exact Nat.not_lt.2 lead

theorem head_one (lead : b.toNat = v) (low : v ≤ 127) : head b rest = (Char.ofNat v, 1) := by
  have small : b < 0x80 := by
    rw [UInt8.lt_iff_toNat_lt, lead]
    exact Nat.lt_succ_of_le low
  simp only [head, small, if_true, lead]

theorem head_two (lead : b.toNat = v / 64 + 192) (tail : c.toNat = v % 64 + 128) (high : 127 < v)
    (low : v ≤ 2047) : head b (c :: rest) = (Char.ofNat v, 2) := by
  obtain ⟨continues, bits⟩ := isTail_of_bits tail
  have large : ¬b < 0x80 := not_ascii (by omega)
  have two : (0xC2 ≤ b && b ≤ 0xDF && isTail c) = true := by
    rw [continues, Bool.and_true, Bool.and_eq_true, decide_eq_true_eq, decide_eq_true_eq,
      UInt8.le_iff_toNat_le, UInt8.le_iff_toNat_le, lead]
    show 194 ≤ _ ∧ _ ≤ 223
    omega
  have value : (b.toNat - 0xC0) * 64 + tailBits c = v := by omega
  simp only [head, large, two, if_true, if_false, value]

/-- The lead of a three-byte character, unless the character is none or fits two bytes. -/
theorem threeLead_of_bits (lead : b.toNat = v / 4096 + 224) (second : c.toNat = v / 64 % 64 + 128)
    (high : 2047 < v) (low : v ≤ 65535) (scalar : v < 0xD800 ∨ 0xDFFF < v) :
    threeLead b c = true := by
  obtain ⟨continues, -⟩ := isTail_of_bits second
  simp only [threeLead, continues, ← UInt8.toNat_inj, UInt8.le_iff_toNat_le, Bool.and_true,
    UInt8.reduceToNat, lead, second]
  split_ifs <;> simp only [Bool.and_eq_true, decide_eq_true_eq] <;> omega

/-- The lead of a four-byte character, unless it fits three bytes or is beyond the last plane. -/
theorem fourLead_of_bits (lead : b.toNat = v / 262144 + 240)
    (second : c.toNat = v / 4096 % 64 + 128) (high : 65535 < v) (low : v ≤ 0x10FFFF) :
    fourLead b c = true := by
  obtain ⟨continues, -⟩ := isTail_of_bits second
  simp only [fourLead, continues, ← UInt8.toNat_inj, UInt8.le_iff_toNat_le, Bool.and_true,
    UInt8.reduceToNat, lead, second]
  split_ifs <;> simp only [Bool.and_eq_true, decide_eq_true_eq] <;> omega

/-- The lead of a longer character is none of a two-byte one. -/
theorem not_twoLead (lead : 224 ≤ b.toNat) :
    (0xC2 ≤ b && b ≤ 0xDF && isTail c) = false := by
  have beyond : ¬b ≤ 0xDF := by
    rw [UInt8.le_iff_toNat_le]
    show ¬_ ≤ 223
    omega
  rw [decide_eq_false beyond, Bool.and_false, Bool.false_and]

/-- The lead of a four-byte character is none of a three-byte one. -/
theorem not_threeLead (lead : 240 ≤ b.toNat) : threeLead b c = false := by
  simp only [threeLead, ← UInt8.toNat_inj, UInt8.le_iff_toNat_le, UInt8.reduceToNat]
  rw [if_neg (by omega), if_neg (by omega), decide_eq_false (p := b.toNat ≤ 239) (by omega),
    Bool.and_false, Bool.false_and]

theorem head_three (lead : b.toNat = v / 4096 + 224) (second : c.toNat = v / 64 % 64 + 128)
    (third : d.toNat = v % 64 + 128) (high : 2047 < v) (low : v ≤ 65535)
    (scalar : v < 0xD800 ∨ 0xDFFF < v) : head b (c :: d :: rest) = (Char.ofNat v, 3) := by
  obtain ⟨-, middle⟩ := isTail_of_bits second
  obtain ⟨continues, bits⟩ := isTail_of_bits third
  have large : ¬b < 0x80 := not_ascii (by omega)
  have notTwo : (0xC2 ≤ b && b ≤ 0xDF && isTail c) = false := not_twoLead (by omega)
  have three := threeLead_of_bits lead second high low scalar
  have value : (b.toNat - 0xE0) * 4096 + tailBits c * 64 + tailBits d = v := by omega
  simp only [head, large, notTwo, three, continues, if_true, if_false, Bool.false_eq_true, value]

theorem head_four (lead : b.toNat = v / 262144 + 240) (second : c.toNat = v / 4096 % 64 + 128)
    (third : d.toNat = v / 64 % 64 + 128) (fourth : e.toNat = v % 64 + 128) (high : 65535 < v)
    (low : v ≤ 0x10FFFF) : head b (c :: d :: e :: rest) = (Char.ofNat v, 4) := by
  obtain ⟨-, first⟩ := isTail_of_bits second
  obtain ⟨continues, middle⟩ := isTail_of_bits third
  obtain ⟨ends, bits⟩ := isTail_of_bits fourth
  have large : ¬b < 0x80 := not_ascii (by omega)
  have notTwo : (0xC2 ≤ b && b ≤ 0xDF && isTail c) = false := not_twoLead (by omega)
  have notThree : threeLead b c = false := not_threeLead (by omega)
  have four := fourLead_of_bits lead second high low
  have value : (b.toNat - 0xF0) * 262144 + tailBits c * 4096 + tailBits d * 64 + tailBits e
      = v := by
    omega
  simp only [head, large, notTwo, notThree, four, continues, ends, if_true, if_false,
    Bool.false_eq_true, value]

end Head

/-! ## A whole text -/

/-- The bytes of a character are read as this character, whatever follows. -/
theorem head_encodeChar (c : Char) (rest : List UInt8) :
    ∃ b more, String.utf8EncodeChar c = b :: more ∧
      head b (more ++ rest) = (c, more.length + 1) := by
  have scalar : c.toNat < 0xD800 ∨ 0xDFFF < c.toNat ∧ c.toNat < 0x110000 := c.valid
  have byte : ∀ {n : Nat}, n < 256 → (UInt8.ofNat n).toNat = n := UInt8.toNat_ofNat_of_lt'
  have same : Char.ofNat c.toNat = c := Char.ofNat_toNat c
  by_cases one : c.toNat ≤ 127
  · have bytes : String.utf8EncodeChar c = [UInt8.ofNat c.toNat] := if_pos one
    have first := head_one rest (byte (n := c.toNat) (by omega)) one
    rw [same] at first
    exact ⟨_, _, bytes, first⟩
  by_cases two : c.toNat ≤ 2047
  · have bytes : String.utf8EncodeChar c = [UInt8.ofNat (c.toNat / 64 % 32 + 192),
        UInt8.ofNat (c.toNat % 64 + 128)] := (if_neg one).trans (if_pos two)
    have first := head_two rest (v := c.toNat)
      ((byte (n := c.toNat / 64 % 32 + 192) (by omega)).trans (by omega)) (byte (by omega))
      (by omega) two
    rw [same] at first
    exact ⟨_, _, bytes, first⟩
  by_cases three : c.toNat ≤ 65535
  · have bytes : String.utf8EncodeChar c = [UInt8.ofNat (c.toNat / 4096 % 16 + 224),
        UInt8.ofNat (c.toNat / 64 % 64 + 128), UInt8.ofNat (c.toNat % 64 + 128)] :=
      (if_neg one).trans ((if_neg two).trans (if_pos three))
    have first := head_three rest (v := c.toNat)
      ((byte (n := c.toNat / 4096 % 16 + 224) (by omega)).trans (by omega)) (byte (by omega))
      (byte (by omega)) (by omega) three (by omega)
    rw [same] at first
    exact ⟨_, _, bytes, first⟩
  · have bytes : String.utf8EncodeChar c = [UInt8.ofNat (c.toNat / 262144 % 8 + 240),
        UInt8.ofNat (c.toNat / 4096 % 64 + 128), UInt8.ofNat (c.toNat / 64 % 64 + 128),
        UInt8.ofNat (c.toNat % 64 + 128)] :=
      (if_neg one).trans ((if_neg two).trans (if_neg three))
    have first := head_four rest (v := c.toNat)
      ((byte (n := c.toNat / 262144 % 8 + 240) (by omega)).trans (by omega)) (byte (by omega))
      (byte (by omega)) (byte (by omega)) (by omega) (by omega)
    rw [same] at first
    exact ⟨_, _, bytes, first⟩

/-- A text is read back from its bytes. -/
theorem decodeLossy_encode (text : List Char) : decodeLossy (encode text) = text := by
  induction text with
  | nil => rw [encode, List.flatMap_nil, decodeLossy]
  | cons c rest ih =>
    obtain ⟨b, more, bytes, first⟩ := head_encodeChar c (encode rest)
    have whole : encode (c :: rest) = b :: (more ++ encode rest) := by
      rw [encode, List.flatMap_cons, bytes]
      rfl
    rw [whole, decodeLossy, first, Nat.add_sub_cancel, List.drop_left, ih]

/-- No byte of a character is zero, unless the character is. -/
theorem ne_zero_of_mem_encodeChar {c : Char} (some_bits : c.toNat ≠ 0) {b : UInt8}
    (listed : b ∈ String.utf8EncodeChar c) : b ≠ 0 := by
  rintro rfl
  have made : ∀ n : Nat, 0 = UInt8.ofNat n ↔ n % 256 = 0 := by
    intro n
    rw [← UInt8.toNat_inj, UInt8.toNat_ofNat']
    exact eq_comm
  have value : c.val.toNat = c.toNat := rfl
  simp only [String.utf8EncodeChar, value] at listed
  split_ifs at listed <;>
    simp only [List.mem_cons, List.not_mem_nil, or_false, made] at listed <;> omega

/-- No byte of a text is zero, unless a character is. -/
theorem ne_zero_of_mem_encode {text : List Char} (whole : Char.ofNat 0 ∉ text) {b : UInt8}
    (listed : b ∈ encode text) : b ≠ 0 := by
  obtain ⟨c, here, byte⟩ := List.mem_flatMap.1 listed
  refine ne_zero_of_mem_encodeChar (fun zero => whole ?_) byte
  rw [← zero, Char.ofNat_toNat]
  exact here

end PictureTransfer.Text.Utf8
