import PictureTransfer.Proofs.Container.Layouts

/-!
# Writing back what was read

Every layout has its fields at fixed offsets behind some zero bytes (`Layout.offsets`), and
`Layout.Fits` says when a container can be read in it. `classifySlices` reads a container by slices
of the transfer, each of which has to lie inside it. No slice ever lies outside, and what is read is
what `classify` reads (`classifySlices_eq`). A container that was read is written back byte for byte
(`encode_of_ofLayout?`). `encode_classify` puts this together for all transfers.
-/

namespace PictureTransfer

/-! ## Slices -/

namespace Bytes

/-- Offsets between which there is no slice of so many bytes. -/
structure OutOfRange where
  start : Nat
  stop : Nat
  length : Nat
  deriving DecidableEq, Repr

/-- The bytes from one offset up to another. -/
def slice (bytes : Bytes) (start stop : Nat) : Except OutOfRange Bytes :=
  if start ≤ stop ∧ stop ≤ bytes.length then .ok ((bytes.drop start).take (stop - start))
  else .error ⟨start, stop, bytes.length⟩

/-- How many bytes stand behind an offset. -/
def lengthBehind (bytes : Bytes) (start : Nat) : Except OutOfRange Nat :=
  if start ≤ bytes.length then .ok (bytes.length - start)
  else .error ⟨start, bytes.length, bytes.length⟩

/-- So many four-byte words behind an offset, low byte first. -/
def sliceWords (bytes : Bytes) (start : Nat) : Nat → Except OutOfRange (List UInt32)
  | 0 => .ok []
  | count + 1 => do
    let word ← slice bytes start (start + 4)
    let later ← sliceWords bytes (start + 4) count
    return UInt32.ofNat (littleValue word) :: later

/-- The two-byte word that begins at the given place, low byte first. -/
def word16At (bytes : Bytes) (i : Nat) : UInt16 :=
  UInt16.ofNat (littleValue ((bytes.drop i).take 2))

theorem slice_inside {bytes : Bytes} {start n : Nat} (inside : start + n ≤ bytes.length) :
    slice bytes start (start + n) = .ok ((bytes.drop start).take n) := by
  rw [slice, if_pos ⟨Nat.le_add_right start n, inside⟩, Nat.add_sub_cancel_left]

theorem slice_toEnd {bytes : Bytes} {start : Nat} (inside : start ≤ bytes.length) :
    slice bytes start bytes.length = .ok (bytes.drop start) := by
  rw [slice, if_pos ⟨inside, Nat.le_refl _⟩, ← List.length_drop, List.take_length]

theorem sliceWords_inside {bytes : Bytes} {start count : Nat}
    (inside : start + 4 * count ≤ bytes.length) : sliceWords bytes start count
      = .ok ((List.range count).map fun i => word32At (bytes.drop start) (4 * i)) := by
  induction count generalizing start with
  | zero => rfl
  | succ count ih =>
    have first : slice bytes start (start + 4) = .ok ((bytes.drop start).take 4) :=
      slice_inside (by omega)
    have later : sliceWords bytes (start + 4) count
        = .ok ((List.range count).map fun i => word32At (bytes.drop (start + 4)) (4 * i)) :=
      ih (by omega)
    -- the words behind the first are those of the bytes behind it
    have moved : ∀ i, word32At (bytes.drop (start + 4)) (4 * i)
        = word32At (bytes.drop start) (4 * (i + 1)) := by
      intro i
      rw [word32At, word32At, List.drop_drop, List.drop_drop, Nat.mul_succ, Nat.add_assoc,
        Nat.add_comm 4]
    rw [sliceWords, first, later, List.range_succ_eq_map, List.map_cons, List.map_map]
    simp only [moved]
    rfl

theorem ofWord16_word16 (b0 b1 : UInt8) : ofWord16 (word16 b0 b1) = [b0, b1] := by
  have value : (word16 b0 b1).toNat = littleValue [b0, b1] := by
    rw [toNat_word16]
    rfl
  rw [ofWord16, value]
  exact little_littleValue [b0, b1]

theorem ofWord32_word32 (b0 b1 b2 b3 : UInt8) :
    ofWord32 (word32 b0 b1 b2 b3) = [b0, b1, b2, b3] := by
  have value : (word32 b0 b1 b2 b3).toNat = littleValue [b0, b1, b2, b3] := by
    rw [toNat_word32]
    simp only [littleValue]
    omega
  rw [ofWord32, value]
  exact little_littleValue [b0, b1, b2, b3]

end Bytes

/-! ## Where the fields stand -/

/-- A kind has the number that it was read from. -/
theorem Kind.toWord_of_ofWord? {w : UInt16} {kind : Kind} (known : ofWord? w = some kind) :
    kind.toWord = w := by
  unfold ofWord? at known
  split_ifs at known with one two three four <;> cases known
  · exact one.symm
  · exact two.symm
  · exact three.symm
  · exact four.symm

namespace Layout

/-- How many zero bytes a header starts with, and where its fields stand. -/
structure Offsets where
  padding : Nat
  kind : Nat
  code : Nat
  tid : Nat

def offsets : Layout → Offsets
  | pad3 => ⟨3, 3, 5, 7⟩
  | pad2 => ⟨2, 2, 4, 6⟩
  | pad1 => ⟨1, 1, 3, 5⟩
  | standard => ⟨0, 4, 6, 8⟩
  | alternate => ⟨0, 10, 4, 6⟩

/-- All fields stand in the header. -/
theorem offsets_inside (layout : Layout) :
    layout.offsets.padding ≤ layout.headerLength ∧
    layout.offsets.kind + 2 ≤ layout.headerLength ∧
    layout.offsets.code + 2 ≤ layout.headerLength ∧
    layout.offsets.tid + 4 ≤ layout.headerLength := by
  cases layout <;> decide

/-- There are enough bytes for a header, and its zero bytes are there. -/
def Padded (layout : Layout) (raw : Bytes) : Prop :=
  layout.headerLength ≤ raw.length ∧
    raw.take layout.offsets.padding = List.replicate layout.offsets.padding 0

/-- A container can be read in a layout: there are enough bytes, the zero bytes of the layout are
there, and the number of a kind stands where the layout has it. -/
def Fits (layout : Layout) (raw : Bytes) : Prop :=
  layout.Padded raw ∧ 1 ≤ (Bytes.word16At raw layout.offsets.kind).toNat ∧
    (Bytes.word16At raw layout.offsets.kind).toNat ≤ 4

instance (layout : Layout) (raw : Bytes) : Decidable (layout.Padded raw) :=
  inferInstanceAs (Decidable (_ ∧ _))

instance (layout : Layout) (raw : Bytes) : Decidable (layout.Fits raw) :=
  inferInstanceAs (Decidable (_ ∧ _))

end Layout

namespace Container

/-- The three fields at the front stand at offsets 0, 2 and 4. -/
theorem ofFields?_eq (layout : Layout) (rest : Bytes) :
    ofFields? layout rest =
      if 8 ≤ rest.length then
        (Kind.ofWord? (Bytes.word16At rest 0)).map fun kind =>
          ⟨layout, ⟨kind, Bytes.word16At rest 2, Bytes.word32At rest 4⟩, rest.drop 8⟩
      else none := by
  match rest with
  | k0 :: k1 :: c0 :: c1 :: t0 :: t1 :: t2 :: t3 :: tail =>
    rw [if_pos (by simp)]
    rfl
  | [] | [_] | [_, _] | [_, _, _] | [_, _, _, _] | [_, _, _, _, _] | [_, _, _, _, _, _]
  | [_, _, _, _, _, _, _] => rfl

/-- Reading in a layout is reading the fields at its offsets. -/
theorem ofLayout?_eq (layout : Layout) (raw : Bytes) :
    ofLayout? layout raw =
      if layout.Padded raw then
        (Kind.ofWord? (Bytes.word16At raw layout.offsets.kind)).map fun kind =>
          ⟨layout, ⟨kind, Bytes.word16At raw layout.offsets.code,
            Bytes.word32At raw layout.offsets.tid⟩, raw.drop layout.headerLength⟩
      else none := by
  unfold ofLayout?
  split
  -- where no pattern fits, either the header is too long or a zero byte is missing
  case h_6 no3 no2 no1 noStandard noAlternate =>
    rw [if_neg]
    rintro ⟨enough, zeros⟩
    have front : raw = List.replicate layout.offsets.padding 0
        ++ raw.drop layout.offsets.padding := by
      rw [← zeros, List.take_append_drop]
    cases layout with
    | pad3 => exact no3 _ rfl front
    | pad2 => exact no2 _ rfl front
    | pad1 => exact no1 _ rfl front
    | standard =>
      match raw, enough with
      | b0 :: b1 :: b2 :: b3 :: rest, _ => exact noStandard _ _ _ _ _ rfl rfl
    | alternate =>
      match raw, enough with
      | b0 :: b1 :: b2 :: b3 :: c0 :: c1 :: t0 :: t1 :: t2 :: t3 :: k0 :: k1 :: tail, _ =>
        exact noAlternate _ _ _ _ _ _ _ _ _ _ _ _ _ rfl rfl
  case h_5 =>
    simp [Layout.Padded, Layout.headerLength, Layout.offsets, Bytes.word16At, Bytes.word32At,
      Bytes.word16, Bytes.word32]
  all_goals
    rw [ofFields?_eq]
    simp [Layout.Padded, Layout.headerLength, Layout.offsets, Bytes.word16At, Bytes.word32At]

theorem isSome_ofLayout? (layout : Layout) (raw : Bytes) :
    (ofLayout? layout raw).isSome = true ↔ layout.Fits raw := by
  rw [ofLayout?_eq, Layout.Fits, ← Kind.isSome_ofWord?]
  by_cases padded : layout.Padded raw
  · rw [if_pos padded, Option.isSome_map, and_iff_right padded]
  · rw [if_neg padded]
    simp [padded]

/-! ## Reading by slices -/

/-- A container in one layout and its parameters, read by slices. -/
def readSlices (layout : Layout) (raw : Bytes) :
    Except Bytes.OutOfRange (Option (Container × List UInt32)) :=
  if layout.headerLength ≤ raw.length then do
    let padding ← Bytes.slice raw 0 (0 + layout.offsets.padding)
    if padding = List.replicate layout.offsets.padding 0 then do
      let kind ← Bytes.slice raw layout.offsets.kind (layout.offsets.kind + 2)
      let code ← Bytes.slice raw layout.offsets.code (layout.offsets.code + 2)
      let tid ← Bytes.slice raw layout.offsets.tid (layout.offsets.tid + 4)
      match Kind.ofWord? (UInt16.ofNat (Bytes.littleValue kind)) with
      | none => return none
      | some kind =>
        let behind ← Bytes.lengthBehind raw layout.headerLength
        let params ← Bytes.sliceWords raw layout.headerLength (min (behind / 4) maxParams)
        let tail ← Bytes.slice raw layout.headerLength raw.length
        return some (⟨layout, ⟨kind, UInt16.ofNat (Bytes.littleValue code),
          UInt32.ofNat (Bytes.littleValue tid)⟩, tail⟩, params)
    else return none
  else return none

/-- The container in the first of some layouts that can be read. -/
def firstSlices (raw : Bytes) :
    List Layout → Except Bytes.OutOfRange (Except HeaderError (Container × List UInt32))
  | [] => .ok (.error (.unknownLayout raw.length))
  | layout :: later => do
    match ← readSlices layout raw with
    | some read => return .ok read
    | none => firstSlices raw later

/-- The container in a transfer from the host and its parameters, read by slices. -/
def classifySlices (raw : Bytes) :
    Except Bytes.OutOfRange (Except HeaderError (Container × List UInt32)) :=
  if raw.length < minLength then .ok (.error (.tooSmall minLength raw.length))
  else firstSlices raw layoutOrder

theorem readSlices_eq (layout : Layout) (raw : Bytes) :
    readSlices layout raw = .ok ((ofLayout? layout raw).map fun c => (c, c.params)) := by
  rw [readSlices, ofLayout?_eq]
  by_cases enough : layout.headerLength ≤ raw.length
  · -- a header that is there has all its fields
    obtain ⟨paddingInside, kindInside, codeInside, tidInside⟩ := layout.offsets_inside
    have padding : Bytes.slice raw 0 (0 + layout.offsets.padding)
        = .ok ((raw.drop 0).take layout.offsets.padding) := Bytes.slice_inside (by omega)
    have kind := Bytes.slice_inside (Nat.le_trans kindInside enough)
    have code := Bytes.slice_inside (Nat.le_trans codeInside enough)
    have tid := Bytes.slice_inside (Nat.le_trans tidInside enough)
    have tail := Bytes.slice_toEnd enough
    have behind : Bytes.lengthBehind raw layout.headerLength
        = .ok (raw.length - layout.headerLength) := if_pos enough
    have inside : layout.headerLength
        + 4 * min ((raw.length - layout.headerLength) / 4) maxParams ≤ raw.length := by omega
    have words := Bytes.sliceWords_inside inside
    rw [if_pos enough, padding, kind, code, tid, tail, behind]
    simp only [bind, Except.bind, words, List.drop_zero]
    by_cases zeros : raw.take layout.offsets.padding = List.replicate layout.offsets.padding 0
    · rw [if_pos zeros, if_pos ⟨enough, zeros⟩]
      show (match Kind.ofWord? (Bytes.word16At raw layout.offsets.kind) with
        | none => _
        | some kind => _) = _
      cases Kind.ofWord? (Bytes.word16At raw layout.offsets.kind) with
      | none => rfl
      | some kind =>
        show Except.ok (some (_, _)) = Except.ok (some (_, _))
        rw [params_eq, List.length_drop, Nat.min_comm]
        rfl
    · rw [if_neg zeros, if_neg fun padded => zeros padded.2]
      rfl
  · rw [if_neg enough, if_neg fun padded => enough padded.1]
    rfl

theorem firstSlices_eq (raw : Bytes) (layouts : List Layout) : firstSlices raw layouts
    = .ok (match layouts.findSome? (ofLayout? · raw) with
      | some c => .ok (c, c.params)
      | none => .error (.unknownLayout raw.length)) := by
  induction layouts with
  | nil => rfl
  | cons layout later ih =>
    rw [firstSlices, readSlices_eq, List.findSome?_cons]
    cases ofLayout? layout raw with
    | none => exact ih
    | some c => rfl

/-- No slice lies outside the transfer, and the slices hold what is read. -/
theorem classifySlices_eq (raw : Bytes) :
    classifySlices raw = .ok ((classify raw).map fun c => (c, c.params)) := by
  rw [classifySlices, classify, firstSlices_eq]
  split
  · rfl
  · cases layoutOrder.findSome? (ofLayout? · raw) <;> rfl

/-! ## Writing back -/

theorem fields_of_ofFields? {layout : Layout} {rest : Bytes} {c : Container}
    (read : ofFields? layout rest = some c) : c.header.fields ++ c.tail = rest := by
  unfold ofFields? at read
  split at read
  · obtain ⟨kind, known, rfl⟩ := Option.map_eq_some_iff.1 read
    rw [Header.fields, Kind.toWord_of_ofWord? known, Bytes.ofWord16_word16,
      Bytes.ofWord16_word16, Bytes.ofWord32_word32]
    rfl
  · cases read

/-- What was read in a layout is written back in it, with the length that stood in front. -/
theorem encode_of_ofLayout? {layout : Layout} {raw : Bytes} {c : Container}
    (read : ofLayout? layout raw = some c) {total : UInt32}
    (declared : layout.hasLength = true → total = Bytes.word32At raw 0) :
    c.header.encode layout total ++ c.tail = raw := by
  unfold ofLayout? at read
  split at read
  · exact congrArg (0 :: 0 :: 0 :: ·) (fields_of_ofFields? read)
  · exact congrArg (0 :: 0 :: ·) (fields_of_ofFields? read)
  · exact congrArg (0 :: ·) (fields_of_ofFields? read)
  · next b0 b1 b2 b3 rest =>
    have length : Bytes.ofWord32 total = [b0, b1, b2, b3] := by
      rw [declared rfl]
      exact Bytes.ofWord32_word32 b0 b1 b2 b3
    rw [Header.encode, length]
    exact congrArg (b0 :: b1 :: b2 :: b3 :: ·) (fields_of_ofFields? read)
  · next b0 b1 b2 b3 c0 c1 t0 t1 t2 t3 k0 k1 tail =>
    have length : Bytes.ofWord32 total = [b0, b1, b2, b3] := by
      rw [declared rfl]
      exact Bytes.ofWord32_word32 b0 b1 b2 b3
    obtain ⟨kind, known, rfl⟩ := Option.map_eq_some_iff.1 read
    rw [Header.encode, length, Kind.toWord_of_ofWord? known, Bytes.ofWord16_word16,
      Bytes.ofWord16_word16, Bytes.ofWord32_word32]
    rfl
  · cases read

/-! ## All transfers -/

theorem findSome?_of_classify {raw : Bytes} {c : Container} (read : classify raw = .ok c) :
    layoutOrder.findSome? (ofLayout? · raw) = some c := by
  unfold classify at read
  split at read
  · cases read
  · split at read
    · next found =>
      cases read
      exact found
    · cases read

/-- A container is read in the first layout that fits. -/
theorem find?_of_classify {raw : Bytes} {c : Container} (read : classify raw = .ok c) :
    layoutOrder.find? (fun layout => layout.Fits raw) = some c.layout ∧
      ofLayout? c.layout raw = some c := by
  obtain ⟨earlier, layout, later, order, own, none_earlier⟩ :=
    List.findSome?_eq_some_iff.1 (findSome?_of_classify read)
  have same : c.layout = layout := layout_of_ofLayout? own
  rw [same]
  refine ⟨?_, own⟩
  rw [List.find?_eq_some_iff_append]
  refine ⟨?_, earlier, later, order, ?_⟩
  · rw [decide_eq_true_eq, ← isSome_ofLayout?, own]
    rfl
  · intro l listed
    rw [Bool.not_eq_true', decide_eq_false_iff_not, ← isSome_ofLayout?, none_earlier l listed]
    exact Bool.false_ne_true

/-- The two ways in which a transfer holds no container. -/
theorem classify_eq_error (raw : Bytes) (e : HeaderError) : classify raw = .error e ↔
    raw.length < 8 ∧ e = .tooSmall 8 raw.length ∨
      8 ≤ raw.length ∧ (∀ layout : Layout, ¬layout.Fits raw) ∧ e = .unknownLayout raw.length := by
  have none_iff : layoutOrder.findSome? (ofLayout? · raw) = none ↔
      ∀ layout : Layout, ¬layout.Fits raw := by
    rw [List.findSome?_eq_none_iff]
    constructor
    · intro unread layout fits
      rw [← isSome_ofLayout?, unread layout (by cases layout <;> decide)] at fits
      cases fits
    · intro unfit layout _
      rw [← Option.not_isSome_iff_eq_none, isSome_ofLayout?]
      exact unfit layout
  by_cases short : raw.length < 8
  · have failed : classify raw = .error (.tooSmall 8 raw.length) := if_pos short
    rw [failed]
    simp [short, Nat.not_le.2 short, eq_comm]
  · have long : 8 ≤ raw.length := Nat.not_lt.1 short
    rw [← none_iff, classify]
    show (if raw.length < 8 then _ else _) = _ ↔ _
    rw [if_neg short]
    cases layoutOrder.findSome? (ofLayout? · raw) with
    | none => simp [short, long, eq_comm]
    | some c => simp [short]

/-- Every slice of a transfer that is read lies inside it. Too few bytes and bytes that fit no
layout are the only failures. What is read is read in the first layout that fits, has its
parameters at the front of its tail, and is written back as the transfer itself. -/
theorem encode_classify (raw : Bytes) :
    classifySlices raw = .ok ((classify raw).map fun c => (c, c.params)) ∧
    (∀ e, classify raw = .error e ↔
      raw.length < 8 ∧ e = .tooSmall 8 raw.length ∨
        8 ≤ raw.length ∧ (∀ layout : Layout, ¬layout.Fits raw) ∧
          e = .unknownLayout raw.length) ∧
    ∀ c, classify raw = .ok c →
      (∀ total, (c.layout.hasLength = true → total = Bytes.word32At raw 0) →
        c.header.encode c.layout total ++ c.tail = raw) ∧
      [Layout.pad3, .pad2, .pad1, .standard, .alternate].find? (fun layout => layout.Fits raw)
        = some c.layout ∧
      c.params = (List.range (min 5 (c.tail.length / 4))).map
        fun i => Bytes.word32At c.tail (4 * i) := by
  refine ⟨classifySlices_eq raw, classify_eq_error raw, ?_⟩
  intro c read
  obtain ⟨first, own⟩ := find?_of_classify read
  refine ⟨?_, first, params_eq c⟩
  intro total declared
  exact encode_of_ofLayout? own declared

/-- A DATA container in alternate layout that declares fourteen bytes, two of them behind its
header, and a transfer of seven bytes, which holds no container. -/
theorem encode_classify_alternate :
    (let raw : Bytes := [14, 0, 0, 0, 7, 0x92, 3, 0, 0, 0, 2, 0, 1, 9]
      ∃ c, classify raw = .ok c ∧ c.layout = .alternate ∧ c.tail = [1, 9] ∧
        c.header.encode .alternate 14 ++ c.tail = raw ∧ c.params = []) ∧
    classify [0, 0, 0, 1, 0, 2, 16] = .error (.tooSmall 8 7) := by
  refine ⟨⟨⟨.alternate, ⟨.data, 0x9207, 3⟩, [1, 9]⟩, rfl, rfl, rfl, ?_⟩, ?_⟩
  · have read := (encode_classify [14, 0, 0, 0, 7, 0x92, 3, 0, 0, 0, 2, 0, 1, 9]).2.2 _ rfl
    exact ⟨read.1 14 (fun _ => rfl), read.2.2⟩
  · exact ((encode_classify [0, 0, 0, 1, 0, 2, 16]).2.1 _).2 (.inl ⟨by decide, rfl⟩)

end Container

end PictureTransfer
