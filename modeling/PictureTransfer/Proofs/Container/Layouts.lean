import PictureTransfer.Container.Classify
import Mathlib.Data.List.Basic

/-!
# Reading back what was written

A container is read in the first layout that fits (`classify_of_first`), and its own layout always
fits what was written in it (`ofLayout?_encode`). So it is read back unless an earlier layout fits
as well. `Mistakable` lists the headers for which that happens (`fits_earlier_iff`): without a
length there are none, and with one the length has zeros where the earlier layout has its padding,
or the code stands where the earlier layout has its kind. `classify_encode` says what is read in
either case.
-/

namespace PictureTransfer

/-! ## Words and their bytes -/

namespace Bytes

theorem toNat_word16 (b0 b1 : UInt8) : (word16 b0 b1).toNat = b0.toNat + 256 * b1.toNat := by
  have bound := littleValue_lt [b0, b1]
  simp only [littleValue, List.length_cons, List.length_nil, capacity] at bound
  simp only [word16, littleValue, UInt16.toNat_ofNat']
  omega

theorem toNat_word32 (b0 b1 b2 b3 : UInt8) : (word32 b0 b1 b2 b3).toNat
    = b0.toNat + 256 * b1.toNat + 65536 * b2.toNat + 16777216 * b3.toNat := by
  have bound := littleValue_lt [b0, b1, b2, b3]
  simp only [littleValue, List.length_cons, List.length_nil, capacity] at bound
  simp only [word32, littleValue, UInt32.toNat_ofNat']
  omega

/-- A word is written as two bytes from which it is read back. -/
theorem exists_ofWord16 (v : UInt16) : ∃ b0 b1, ofWord16 v = [b0, b1] ∧ word16 b0 b1 = v := by
  refine ⟨_, _, rfl, ?_⟩
  have bound := v.toNat_lt
  apply UInt16.toNat_inj.1
  show (UInt16.ofNat (littleValue (little 2 v.toNat))).toNat = v.toNat
  rw [littleValue_little, UInt16.toNat_ofNat']
  simp only [capacity]
  omega

/-- A word is written as four bytes from which it is read back. -/
theorem exists_ofWord32 (v : UInt32) :
    ∃ b0 b1 b2 b3, ofWord32 v = [b0, b1, b2, b3] ∧ word32 b0 b1 b2 b3 = v := by
  refine ⟨_, _, _, _, rfl, ?_⟩
  have bound := v.toNat_lt
  apply UInt32.toNat_inj.1
  show (UInt32.ofNat (littleValue (little 4 v.toNat))).toNat = v.toNat
  rw [littleValue_little, UInt32.toNat_ofNat']
  simp only [capacity]
  omega

/-- The word that begins at the given place, low byte first. -/
def word32At (bytes : Bytes) (i : Nat) : UInt32 :=
  UInt32.ofNat (littleValue ((bytes.drop i).take 4))

/-- The whole words stand one behind the other. -/
theorem words32_eq (bytes : Bytes) :
    words32 bytes = (List.range (bytes.length / 4)).map fun i => word32At bytes (4 * i) := by
  fun_induction words32 bytes with
  | case1 b0 b1 b2 b3 rest ih =>
    have one_more : (b0 :: b1 :: b2 :: b3 :: rest).length / 4 = rest.length / 4 + 1 := by
      simp only [List.length_cons]
      omega
    rw [one_more, List.range_succ_eq_map, List.map_cons, List.map_map, ih]
    rfl
  | case2 bytes short =>
    -- without four bytes at the front there is no whole word
    have few : bytes.length < 4 := by
      by_contra enough
      match bytes, short with
      | b0 :: b1 :: b2 :: b3 :: rest, short => exact short b0 b1 b2 b3 rest rfl
      | [], _ | [_], _ | [_, _], _ | [_, _, _], _ => exact enough (by simp)
    rw [Nat.div_eq_of_lt few]
    rfl

end Bytes

/-! ## Layouts that fit -/

/-- The kinds are numbered from one to four. -/
theorem Kind.isSome_ofWord? (w : UInt16) :
    (ofWord? w).isSome = true ↔ 1 ≤ w.toNat ∧ w.toNat ≤ 4 := by
  simp only [ofWord?, ← UInt16.toNat_inj, UInt16.reduceToNat]
  split_ifs <;> simp only [Option.isSome_some, Option.isSome_none] <;> simp <;> omega

namespace Layout

/-- The layouts that are tried before a layout. -/
def earlier : Layout → List Layout
  | pad3 => []
  | pad2 => [pad3]
  | pad1 => [pad3, pad2]
  | standard => [pad3, pad2, pad1]
  | alternate => [pad3, pad2, pad1, standard]

theorem layoutOrder_eq (layout : Layout) :
    ∃ later, Container.layoutOrder = layout.earlier ++ layout :: later := by
  cases layout <;> exact ⟨_, rfl⟩

theorem not_mem_earlier (layout : Layout) : layout ∉ layout.earlier := by
  cases layout <;> decide

end Layout

namespace Container

theorem layout_of_ofFields? {layout : Layout} {raw : Bytes} {c : Container}
    (fits : ofFields? layout raw = some c) : c.layout = layout := by
  unfold ofFields? at fits
  split at fits
  · obtain ⟨kind, -, rfl⟩ := Option.map_eq_some_iff.1 fits
    rfl
  · cases fits

/-- What is read in a layout is of that layout. -/
theorem layout_of_ofLayout? {layout : Layout} {raw : Bytes} {c : Container}
    (fits : ofLayout? layout raw = some c) : c.layout = layout := by
  unfold ofLayout? at fits
  split at fits
  · exact layout_of_ofFields? fits
  · exact layout_of_ofFields? fits
  · exact layout_of_ofFields? fits
  · exact layout_of_ofFields? fits
  · obtain ⟨kind, -, rfl⟩ := Option.map_eq_some_iff.1 fits
    rfl
  · cases fits

section First

variable {raw : Bytes} {layout : Layout}

/-- The first layout that fits is the one in which a container is read. -/
theorem classify_of_first (enough : minLength ≤ raw.length)
    (unfit : ∀ l ∈ layout.earlier, ofLayout? l raw = none) {c : Container}
    (fits : ofLayout? layout raw = some c) : classify raw = .ok c := by
  obtain ⟨later, order⟩ := layout.layoutOrder_eq
  rw [classify, if_neg (Nat.not_lt.2 enough), order, List.findSome?_append,
    List.findSome?_eq_none_iff.2 unfit, Option.none_or, List.findSome?_cons, fits]

/-- When an earlier layout fits, a container is read in an earlier layout. -/
theorem classify_of_earlier (enough : minLength ≤ raw.length)
    (fits : ∃ l ∈ layout.earlier, (ofLayout? l raw).isSome = true) :
    ∃ other, classify raw = .ok other ∧ other.layout ≠ layout := by
  obtain ⟨later, order⟩ := layout.layoutOrder_eq
  obtain ⟨other, found⟩ := Option.isSome_iff_exists.1 (List.findSome?_isSome_iff.2 fits)
  refine ⟨other, ?_, ?_⟩
  · rw [classify, if_neg (Nat.not_lt.2 enough), order, List.findSome?_append, found]
    rfl
  · obtain ⟨l, listed, own⟩ := List.exists_of_findSome?_eq_some found
    rw [layout_of_ofLayout? own]
    rintro rfl
    exact l.not_mem_earlier listed

end First

/-! ## Padding -/

theorem fits_pad3 {b0 b1 b2 : UInt8} {rest : Bytes} :
    (ofLayout? .pad3 (b0 :: b1 :: b2 :: rest)).isSome = true ↔
      b0 = 0 ∧ b1 = 0 ∧ b2 = 0 ∧ (ofFields? .pad3 rest).isSome = true := by
  constructor
  · intro fits
    unfold ofLayout? at fits
    split at fits <;> simp_all
  · rintro ⟨rfl, rfl, rfl, fits⟩
    exact fits

theorem fits_pad2 {b0 b1 : UInt8} {rest : Bytes} :
    (ofLayout? .pad2 (b0 :: b1 :: rest)).isSome = true ↔
      b0 = 0 ∧ b1 = 0 ∧ (ofFields? .pad2 rest).isSome = true := by
  constructor
  · intro fits
    unfold ofLayout? at fits
    split at fits <;> simp_all
  · rintro ⟨rfl, rfl, fits⟩
    exact fits

theorem fits_pad1 {b0 : UInt8} {rest : Bytes} :
    (ofLayout? .pad1 (b0 :: rest)).isSome = true ↔
      b0 = 0 ∧ (ofFields? .pad1 rest).isSome = true := by
  constructor
  · intro fits
    unfold ofLayout? at fits
    split at fits <;> simp_all
  · rintro ⟨rfl, fits⟩
    exact fits

/-- Where there are bytes enough, only the kind decides whether the fields can be read. -/
theorem isSome_ofFields? (layout : Layout) (k0 k1 : UInt8) {rest : Bytes}
    (long : 6 ≤ rest.length) : (ofFields? layout (k0 :: k1 :: rest)).isSome = true ↔
      1 ≤ k0.toNat + 256 * k1.toNat ∧ k0.toNat + 256 * k1.toNat ≤ 4 := by
  rw [← Bytes.toNat_word16, ← Kind.isSome_ofWord?]
  match rest, long with
  | c0 :: c1 :: t0 :: t1 :: t2 :: t3 :: tail, _ => rw [ofFields?, Option.isSome_map]

/-- The numbers of the kinds, moved up by a factor. -/
def kindTimes (unit : Nat) : List Nat := [unit, 2 * unit, 3 * unit, 4 * unit]

/-- A header with a length that reads as one of a layout which is tried earlier: the length has
zeros for the padding and then a kind, or the code is that of a kind. Only in alternate layout is
there a code where the kind of the longest padding would stand. -/
def Mistakable (layout : Layout) (code : UInt16) (total : UInt32) : Prop :=
  layout.hasLength = true ∧
      (total.toNat % 16777216 ∈ kindTimes 256 ∨ total.toNat ∈ kindTimes 65536) ∨
    layout = .alternate ∧
      (code.toNat ∈ kindTimes 1 ∨ code.toNat % 256 = 0 ∧ total.toNat ∈ kindTimes 16777216)

instance (layout : Layout) (code : UInt16) (total : UInt32) :
    Decidable (Mistakable layout code total) :=
  inferInstanceAs (Decidable (_ ∨ _))

section Length

variable (total : UInt32) (f0 f1 : UInt8) {more : Bytes} (long : 6 ≤ more.length)
include long

theorem fits_pad1_iff :
    (ofLayout? .pad1 (Bytes.ofWord32 total ++ f0 :: f1 :: more)).isSome = true ↔
      total.toNat % 16777216 ∈ kindTimes 256 := by
  obtain ⟨b0, b1, b2, b3, bytes, rfl⟩ := Bytes.exists_ofWord32 total
  have := b0.toNat_lt
  have := b1.toNat_lt
  have := b2.toNat_lt
  rw [bytes, List.cons_append, fits_pad1, List.cons_append, List.cons_append,
    isSome_ofFields? _ _ _ (by simp; omega), Bytes.toNat_word32, ← UInt8.toNat_inj]
  simp only [kindTimes, List.mem_cons, List.not_mem_nil, or_false, UInt8.reduceToNat]
  omega

theorem fits_pad2_iff :
    (ofLayout? .pad2 (Bytes.ofWord32 total ++ f0 :: f1 :: more)).isSome = true ↔
      total.toNat ∈ kindTimes 65536 := by
  obtain ⟨b0, b1, b2, b3, bytes, rfl⟩ := Bytes.exists_ofWord32 total
  have := b0.toNat_lt
  have := b1.toNat_lt
  rw [bytes, List.cons_append, List.cons_append, fits_pad2, List.cons_append, List.cons_append,
    isSome_ofFields? _ _ _ (by simp; omega), Bytes.toNat_word32, ← UInt8.toNat_inj,
    ← UInt8.toNat_inj]
  simp only [kindTimes, List.mem_cons, List.not_mem_nil, or_false, UInt8.reduceToNat]
  omega

theorem fits_pad3_iff :
    (ofLayout? .pad3 (Bytes.ofWord32 total ++ f0 :: f1 :: more)).isSome = true ↔
      f0 = 0 ∧ total.toNat ∈ kindTimes 16777216 := by
  obtain ⟨b0, b1, b2, b3, bytes, rfl⟩ := Bytes.exists_ofWord32 total
  have := b0.toNat_lt
  have := b1.toNat_lt
  have := b2.toNat_lt
  rw [bytes, List.cons_append, List.cons_append, List.cons_append, fits_pad3, List.cons_append,
    List.nil_append, isSome_ofFields? _ _ _ (by simp; omega), Bytes.toNat_word32,
    ← UInt8.toNat_inj, ← UInt8.toNat_inj, ← UInt8.toNat_inj, ← UInt8.toNat_inj]
  simp only [kindTimes, List.mem_cons, List.not_mem_nil, or_false, UInt8.reduceToNat]
  omega

theorem fits_standard_iff :
    (ofLayout? .standard (Bytes.ofWord32 total ++ f0 :: f1 :: more)).isSome = true ↔
      (Bytes.word16 f0 f1).toNat ∈ kindTimes 1 := by
  obtain ⟨b0, b1, b2, b3, bytes, -⟩ := Bytes.exists_ofWord32 total
  rw [bytes]
  show (ofFields? .standard (f0 :: f1 :: more)).isSome = true ↔ _
  rw [isSome_ofFields? _ _ _ long, Bytes.toNat_word16]
  simp only [kindTimes, List.mem_cons, List.not_mem_nil, or_false]
  omega

end Length

/-! ## What was written -/

/-- The fields of a header are read back in front of anything. -/
theorem ofFields?_fields (layout : Layout) (h : Header) (tail : Bytes) :
    ofFields? layout (h.fields ++ tail) = some ⟨layout, h, tail⟩ := by
  obtain ⟨kind, code, tid⟩ := h
  obtain ⟨k0, k1, kindBytes, sameKind⟩ := Bytes.exists_ofWord16 kind.toWord
  obtain ⟨c0, c1, codeBytes, rfl⟩ := Bytes.exists_ofWord16 code
  obtain ⟨t0, t1, t2, t3, tidBytes, rfl⟩ := Bytes.exists_ofWord32 tid
  rw [Header.fields, kindBytes, codeBytes, tidBytes]
  show (Kind.ofWord? (Bytes.word16 k0 k1)).map _ = _
  rw [sameKind, Kind.ofWord?_toWord]
  rfl

/-- A container fits the layout in which it was written. -/
theorem ofLayout?_encode (layout : Layout) (h : Header) (total : UInt32) (tail : Bytes) :
    ofLayout? layout (h.encode layout total ++ tail) = some ⟨layout, h, tail⟩ := by
  have read := ofFields?_fields layout h tail
  cases layout with
  | standard =>
    obtain ⟨b0, b1, b2, b3, length, -⟩ := Bytes.exists_ofWord32 total
    rw [Header.encode, length, List.append_assoc]
    exact read
  -- the only layout with the fields in another order
  | alternate =>
    obtain ⟨kind, code, tid⟩ := h
    obtain ⟨b0, b1, b2, b3, length, -⟩ := Bytes.exists_ofWord32 total
    obtain ⟨k0, k1, kindBytes, sameKind⟩ := Bytes.exists_ofWord16 kind.toWord
    obtain ⟨c0, c1, codeBytes, rfl⟩ := Bytes.exists_ofWord16 code
    obtain ⟨t0, t1, t2, t3, tidBytes, rfl⟩ := Bytes.exists_ofWord32 tid
    rw [Header.encode, length, kindBytes, codeBytes, tidBytes]
    show (Kind.ofWord? (Bytes.word16 k0 k1)).map _ = _
    rw [sameKind, Kind.ofWord?_toWord]
    rfl
  | pad3 => exact read
  | pad2 => exact read
  | pad1 => exact read

/-- The bytes of a kind are a number from one to four and a zero. -/
theorem exists_kindBytes (kind : Kind) :
    ∃ k : UInt8, Bytes.ofWord16 kind.toWord = [k, 0] ∧ k ≠ 0 := by
  cases kind <;> exact ⟨_, rfl, by decide⟩

/-- An earlier layout fits as well exactly when the header is mistakable. -/
theorem fits_earlier_iff (layout : Layout) (h : Header) (total : UInt32) (tail : Bytes) :
    (∃ l ∈ layout.earlier, (ofLayout? l (h.encode layout total ++ tail)).isSome = true) ↔
      Mistakable layout h.code total := by
  obtain ⟨kind, code, tid⟩ := h
  obtain ⟨k, kindBytes, notZero⟩ := exists_kindBytes kind
  obtain ⟨c0, c1, codeBytes, rfl⟩ := Bytes.exists_ofWord16 code
  obtain ⟨t0, t1, t2, t3, tidBytes, rfl⟩ := Bytes.exists_ofWord32 tid
  cases layout with
  | standard =>
    -- the low byte of the kind is never a zero of the longest padding
    rw [Header.encode, Header.fields, kindBytes, codeBytes, tidBytes, List.append_assoc]
    simp only [Layout.earlier, List.mem_cons, List.not_mem_nil, or_false, exists_eq_or_imp,
      exists_eq_left, List.cons_append, List.nil_append]
    rw [fits_pad1_iff _ _ _ (by simp), fits_pad2_iff _ _ _ (by simp),
      fits_pad3_iff _ _ _ (by simp)]
    simp [Mistakable, notZero, Layout.hasLength, or_comm]
  | alternate =>
    rw [Header.encode, kindBytes, codeBytes, tidBytes, List.append_assoc, List.append_assoc,
      List.append_assoc]
    simp only [Layout.earlier, List.mem_cons, List.not_mem_nil, or_false, exists_eq_or_imp,
      exists_eq_left, List.cons_append, List.nil_append]
    rw [fits_pad1_iff _ _ _ (by simp), fits_pad2_iff _ _ _ (by simp),
      fits_pad3_iff _ _ _ (by simp), fits_standard_iff _ _ _ (by simp)]
    -- the low byte of the code is one when the code is a multiple of 256
    have low : c0 = 0 ↔ (Bytes.word16 c0 c1).toNat % 256 = 0 := by
      have := c0.toNat_lt
      simp only [← UInt8.toNat_inj, Bytes.toNat_word16, UInt8.reduceToNat]
      omega
    rw [low]
    simp only [Mistakable, Layout.hasLength, true_and]
    tauto
  | pad3 => simp [Layout.earlier, Mistakable, Layout.hasLength]
  | pad2 =>
    rw [Header.encode, Header.fields, kindBytes]
    simp only [Layout.earlier, List.mem_singleton, exists_eq_left, List.cons_append]
    rw [fits_pad3]
    simp [notZero, Mistakable, Layout.hasLength]
  | pad1 =>
    rw [Header.encode, Header.fields, kindBytes]
    simp only [Layout.earlier, List.mem_cons, List.not_mem_nil, or_false, exists_eq_or_imp,
      exists_eq_left, List.cons_append]
    rw [fits_pad3, fits_pad2]
    simp [notZero, Mistakable, Layout.hasLength]

/-- The parameters of a container are its first whole words, at most five. -/
theorem params_eq (c : Container) : c.params =
    (List.range (min 5 (c.tail.length / 4))).map fun i => Bytes.word32At c.tail (4 * i) := by
  rw [params, Bytes.words32_eq, ← List.map_take, List.take_range]
  rfl

/-- Only the layouts with a length have mistakable headers. -/
theorem not_mistakable {layout : Layout} (withoutLength : layout.hasLength = false) (code : UInt16)
    (total : UInt32) : ¬Mistakable layout code total := by
  rintro (⟨withLength, -⟩ | ⟨rfl, -⟩)
  · rw [withoutLength] at withLength
    cases withLength
  · cases withoutLength

theorem minLength_le_encode (layout : Layout) (h : Header) (total : UInt32) (tail : Bytes) :
    minLength ≤ (h.encode layout total ++ tail).length := by
  rw [List.length_append, Header.length_encode]
  cases layout <;> simp [minLength, Layout.headerLength] <;> omega

/-- A header that is not mistakable is read back in its own layout. -/
theorem classify_of_plain {layout : Layout} {h : Header} {total : UInt32}
    (plain : ¬Mistakable layout h.code total) (tail : Bytes) :
    classify (h.encode layout total ++ tail) = .ok ⟨layout, h, tail⟩ := by
  refine classify_of_first (minLength_le_encode layout h total tail) ?_
    (ofLayout?_encode layout h total tail)
  -- its own layout fits, so that only an earlier one could take its place
  intro l listed
  by_contra fits
  exact plain ((fits_earlier_iff layout h total tail).1
    ⟨l, listed, Option.isSome_iff_ne_none.2 fits⟩)

/-- What was written in a layout is read back with all that it carries, unless the header is
mistakable; a mistakable one is read in another layout. Only the layouts with a length have
mistakable headers. -/
theorem classify_encode (layout : Layout) (h : Header) (total : UInt32) (tail : Bytes) :
    (¬Mistakable layout h.code total →
      ∃ c, classify (h.encode layout total ++ tail) = .ok c ∧ c.layout = layout ∧ c.header = h ∧
        c.tail = tail ∧ c.params =
          (List.range (min 5 (tail.length / 4))).map fun i => Bytes.word32At tail (4 * i)) ∧
    (Mistakable layout h.code total →
      ∃ other, classify (h.encode layout total ++ tail) = .ok other ∧ other.layout ≠ layout) ∧
    (layout.hasLength = false → ¬Mistakable layout h.code total) := by
  refine ⟨?_, ?_, ?_⟩
  · intro plain
    exact ⟨_, classify_of_plain plain tail, rfl, rfl, rfl, params_eq _⟩
  · intro mistakable
    exact classify_of_earlier (minLength_le_encode layout h total tail)
      ((fits_earlier_iff layout h total tail).2 mistakable)
  · intro withoutLength
    exact not_mistakable withoutLength h.code total

/-- An EVENT of 256 bytes in standard layout has a zero and a kind where the shortest padding has
them, one of 12 bytes has not. -/
theorem classify_event :
    (∃ other, classify ((⟨.event, 0x4002, 7⟩ : Header).encode .standard 256 ++ [1, 0, 0, 0])
      = .ok other ∧ other.layout ≠ .standard) ∧
    ∃ c, classify ((⟨.event, 0x4002, 7⟩ : Header).encode .standard 12 ++ [1, 0, 0, 0]) = .ok c ∧
      c.layout = .standard ∧ c.header = ⟨.event, 0x4002, 7⟩ ∧ c.tail = [1, 0, 0, 0] ∧
      c.params = [1] := by
  have long := classify_encode .standard ⟨.event, 0x4002, 7⟩ 256 [1, 0, 0, 0]
  have short := classify_encode .standard ⟨.event, 0x4002, 7⟩ 12 [1, 0, 0, 0]
  exact ⟨long.2.1 (by decide), short.1 (by decide)⟩

end Container

end PictureTransfer
