import PictureTransfer.Text.Utf16
import Mathlib.Data.List.Basic

/-!
# Cuts through UTF-16 units

A cut behind so many units of a text falls between two characters, or between the two units of one
(`Splits`). In front of the former stand the units of the characters there
(`take_units_of_not_splits`). In front of the latter a pair is opened and not closed
(`take_units_of_splits`), so that what stands there is the units of no text.
-/

namespace PictureTransfer.Text.Utf16

/-- A cut behind so many units falls between the two units of one character. -/
def Splits (n : Nat) (text : List Char) : Prop :=
  ∃ before c after, text = before ++ c :: after ∧ (units before).length + 1 = n ∧
    0x10000 ≤ c.toNat

theorem units_append (first later : List Char) :
    units (first ++ later) = units first ++ units later :=
  List.flatMap_append

theorem units_cons (c : Char) (rest : List Char) : units (c :: rest) = charUnits c ++ units rest :=
  List.flatMap_cons

/-- Units in front of the others are those of the characters in front, unless the cut splits one. -/
theorem take_units_of_not_splits {n : Nat} {text : List Char} (whole : ¬Splits n text) :
    ∃ front after, text = front ++ after ∧ (units text).take n = units front := by
  induction text generalizing n with
  | nil => exact ⟨[], [], rfl, List.take_nil⟩
  | cons c rest ih =>
    rw [units_cons]
    rcases Nat.eq_zero_or_pos n with rfl | some_unit
    · exact ⟨[], c :: rest, rfl, List.take_zero⟩
    · have inside : (charUnits c).length ≤ n := by
        rcases Nat.lt_or_ge c.toNat 0x10000 with small | large
        · obtain ⟨unit, one, -⟩ := charUnits_of_small small
          rw [one]
          exact some_unit
        · obtain ⟨high, low, two, -⟩ := charUnits_of_large large
          rw [two]
          by_contra beyond
          have first : 0 + 1 = n := by
            simp only [List.length_cons, List.length_nil] at beyond
            omega
          exact whole ⟨[], c, rest, rfl, first, large⟩
      have later : ¬Splits (n - (charUnits c).length) rest := by
        rintro ⟨before, d, after, rfl, count, large⟩
        refine whole ⟨c :: before, d, after, rfl, ?_, large⟩
        rw [units_cons, List.length_append]
        omega
      obtain ⟨front, after, rfl, cut⟩ := ih later
      refine ⟨c :: front, after, rfl, ?_⟩
      rw [List.take_append, List.take_of_length_le inside, cut, units_cons]

/-- A cut that splits a character leaves the opening of a pair in front of it. -/
theorem take_units_of_splits {n : Nat} {text : List Char} (split : Splits n text) :
    ∃ before high, (units text).take n = units before ++ [high] ∧ isHigh high = true := by
  obtain ⟨before, c, after, rfl, rfl, large⟩ := split
  obtain ⟨high, low, two, opens, -⟩ := charUnits_of_large large
  refine ⟨before, high, ?_, opens⟩
  rw [units_append, units_cons, two, List.take_length_add_append]
  rfl

/-- A text that is not too long is not split. -/
theorem not_splits_of_length_le {n : Nat} {text : List Char} (short : (units text).length ≤ n) :
    ¬Splits n text := by
  rintro ⟨before, c, after, rfl, count, large⟩
  obtain ⟨high, low, two, -⟩ := charUnits_of_large large
  rw [units_append, units_cons, two] at short
  simp only [List.length_append, List.length_cons] at short
  omega

/-- The units of a text are read as that text in front of anything. -/
theorem decode?_units_append (text : List Char) (rest : List UInt16) :
    decode? (units text ++ rest) = (decode? rest).map (text ++ ·) := by
  induction text with
  | nil => exact Option.map_id'.symm
  | cons c others ih =>
    rw [units_cons, List.append_assoc, decode?_charUnits_append, ih, Option.map_map]
    rfl

end PictureTransfer.Text.Utf16
