/-!
# UTF-16 units

A character of the basic plane is one 16-bit unit and any other is a pair of surrogates. `units`
writes a text so and `decode?` reads it back; `decode?_units` says that every text survives.
-/

namespace PictureTransfer.Text.Utf16

/-- The units of one character: itself below `0x10000`, else a high and a low surrogate that share
the twenty bits above that bound. -/
def charUnits (c : Char) : List UInt16 :=
  if c.toNat < 0x10000 then [UInt16.ofNat c.toNat]
  else [UInt16.ofNat (0xD800 + (c.toNat - 0x10000) / 0x400),
        UInt16.ofNat (0xDC00 + (c.toNat - 0x10000) % 0x400)]

/-- The units of a text. -/
def units (text : List Char) : List UInt16 := text.flatMap charUnits

/-- A unit that opens a pair. -/
def isHigh (u : UInt16) : Bool := 0xD800 ≤ u && u < 0xDC00

/-- A unit that closes a pair. -/
def isLow (u : UInt16) : Bool := 0xDC00 ≤ u && u < 0xE000

/-- The text with the given units, if every surrogate in them stands in a pair, high before
low. -/
def decode? : List UInt16 → Option (List Char)
  | [] => some []
  | [u] => if isHigh u || isLow u then none else some [Char.ofNat u.toNat]
  | u :: v :: rest =>
    if isHigh u then
      if isLow v then
        (decode? rest).map
          (Char.ofNat (0x10000 + (u.toNat - 0xD800) * 0x400 + (v.toNat - 0xDC00)) :: ·)
      else none
    else if isLow u then none
    else (decode? (v :: rest)).map (Char.ofNat u.toNat :: ·)

theorem isHigh_iff (u : UInt16) : isHigh u = true ↔ 0xD800 ≤ u.toNat ∧ u.toNat < 0xDC00 := by
  simp only [isHigh, Bool.and_eq_true, decide_eq_true_eq, UInt16.le_iff_toNat_le,
    UInt16.lt_iff_toNat_lt, UInt16.reduceToNat]

theorem isLow_iff (u : UInt16) : isLow u = true ↔ 0xDC00 ≤ u.toNat ∧ u.toNat < 0xE000 := by
  simp only [isLow, Bool.and_eq_true, decide_eq_true_eq, UInt16.le_iff_toNat_le,
    UInt16.lt_iff_toNat_lt, UInt16.reduceToNat]

/-- A character of the basic plane is its own unit. -/
theorem charUnits_of_small {c : Char} (small : c.toNat < 0x10000) :
    ∃ unit, charUnits c = [unit] ∧ unit.toNat = c.toNat := by
  refine ⟨_, if_pos small, ?_⟩
  rw [UInt16.toNat_ofNat']
  omega

/-- Any other character is a pair of surrogates. -/
theorem charUnits_of_large {c : Char} (large : 0x10000 ≤ c.toNat) :
    ∃ high low, charUnits c = [high, low] ∧ isHigh high = true ∧ isLow low = true ∧
      0x10000 + (high.toNat - 0xD800) * 0x400 + (low.toNat - 0xDC00) = c.toNat := by
  have valid : c.toNat < 0xD800 ∨ 0xDFFF < c.toNat ∧ c.toNat < 0x110000 := c.valid
  have high : (UInt16.ofNat (0xD800 + (c.toNat - 0x10000) / 0x400)).toNat
      = 0xD800 + (c.toNat - 0x10000) / 0x400 := by
    rw [UInt16.toNat_ofNat']
    omega
  have low : (UInt16.ofNat (0xDC00 + (c.toNat - 0x10000) % 0x400)).toNat
      = 0xDC00 + (c.toNat - 0x10000) % 0x400 := by
    rw [UInt16.toNat_ofNat']
    omega
  refine ⟨_, _, if_neg (Nat.not_lt.2 large), ?_, ?_, ?_⟩
  · rw [isHigh_iff, high]
    omega
  · rw [isLow_iff, low]
    omega
  · rw [high, low]
    omega

/-- A unit outside the surrogate range is a character of its own. -/
theorem decode?_cons_plain {u : UInt16} (rest : List UInt16) (notHigh : isHigh u = false)
    (notLow : isLow u = false) :
    decode? (u :: rest) = (decode? rest).map (Char.ofNat u.toNat :: ·) := by
  cases rest <;> simp [decode?, notHigh, notLow]

/-- The units of a character, whatever follows them, are read as that character. -/
theorem decode?_charUnits_append (c : Char) (rest : List UInt16) :
    decode? (charUnits c ++ rest) = (decode? rest).map (c :: ·) := by
  have same : Char.ofNat c.toNat = c := Char.ofNat_toNat c
  rcases Nat.lt_or_ge c.toNat 0x10000 with small | large
  · have valid : c.toNat < 0xD800 ∨ 0xDFFF < c.toNat ∧ c.toNat < 0x110000 := c.valid
    obtain ⟨unit, one, number⟩ := charUnits_of_small small
    have notHigh : isHigh unit = false := by
      rw [← Bool.not_eq_true, isHigh_iff, number]
      omega
    have notLow : isLow unit = false := by
      rw [← Bool.not_eq_true, isLow_iff, number]
      omega
    rw [one, List.singleton_append, decode?_cons_plain rest notHigh notLow, number, same]
  · obtain ⟨high, low, two, opens, closes, joined⟩ := charUnits_of_large large
    simp only [two, List.cons_append, List.nil_append, decode?, opens, closes, if_true, joined,
      same]

/-- Reading the units of a text gives the text. -/
theorem decode?_units (text : List Char) : decode? (units text) = some text := by
  induction text with
  | nil => rfl
  | cons c rest ih =>
    rw [units, List.flatMap_cons, ← units, decode?_charUnits_append, ih, Option.map_some]

end PictureTransfer.Text.Utf16
