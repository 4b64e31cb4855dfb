/-!
# Numerals

Digits of a radix up to sixteen, the number a run of digits stands for, and the decimal digits of a
number. `value_decimal` says that a number is read back from its decimal digits.
-/

namespace PictureTransfer.Text.Numeral

/-- What a digit stands for, letters in either case, if it is a digit of the radix. -/
def digit? (radix : Nat) (c : Char) : Option Nat :=
  let v :=
    if '0' ≤ c ∧ c ≤ '9' then c.toNat - '0'.toNat
    else if 'a' ≤ c ∧ c ≤ 'f' then c.toNat - 'a'.toNat + 10
    else if 'A' ≤ c ∧ c ≤ 'F' then c.toNat - 'A'.toNat + 10
    else radix
  if v < radix then some v else none

/-- Whether a character is a digit of the radix. -/
def isDigit (radix : Nat) (c : Char) : Bool := (digit? radix c).isSome

/-- The number that digits of the radix stand for, most significant first. -/
def value (radix : Nat) (digits : List Char) : Nat :=
  digits.foldl (fun n c => n * radix + (digit? radix c).getD 0) 0

/-- The decimal digit of a value below ten. -/
def decimalDigit (v : Nat) : Char := Char.ofNat ('0'.toNat + v)

/-- The decimal digits of a number, without leading zeros. -/
def decimal (n : Nat) : List Char :=
  if n < 10 then [decimalDigit n] else decimal (n / 10) ++ [decimalDigit (n % 10)]
termination_by n

/-- The decimal digits of a number as a text. -/
def decimalText (n : Nat) : String := String.ofList (decimal n)

theorem digit?_decimalDigit {v : Nat} (h : v < 10) : digit? 10 (decimalDigit v) = some v := by
  match v, h with
  | 0, _ | 1, _ | 2, _ | 3, _ | 4, _ | 5, _ | 6, _ | 7, _ | 8, _ | 9, _ => rfl

theorem value_concat (radix : Nat) (digits : List Char) (c : Char) :
    value radix (digits ++ [c]) = value radix digits * radix + (digit? radix c).getD 0 := by
  simp [value]

/-- A number is read back from its decimal digits. -/
theorem value_decimal (n : Nat) : value 10 (decimal n) = n := by
  fun_induction decimal n with
  | case1 n small => simp [value, digit?_decimalDigit small]
  | case2 n _ ih =>
    rw [value_concat, ih, digit?_decimalDigit (Nat.mod_lt n (by omega)), Option.getD_some]
    omega

/-- Decimal digits are digits. -/
theorem isDigit_of_mem_decimal {n : Nat} {c : Char} (h : c ∈ decimal n) : isDigit 10 c = true := by
  fun_induction decimal n with
  | case1 n small =>
    rw [List.mem_singleton] at h
    rw [h, isDigit, digit?_decimalDigit small, Option.isSome_some]
  | case2 n _ ih =>
    rcases List.mem_append.1 h with h | h
    · exact ih h
    · rw [List.mem_singleton] at h
      rw [h, isDigit, digit?_decimalDigit (Nat.mod_lt n (by omega)), Option.isSome_some]

end PictureTransfer.Text.Numeral
