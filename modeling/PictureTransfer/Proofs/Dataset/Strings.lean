import PictureTransfer.Proofs.Container.Layouts
import PictureTransfer.Proofs.Text.Units
import PictureTransfer.Responder.Standard
import Mathlib.Data.List.Induction

/-!
# Strings that are cut short

A string keeps its first 254 units. `Splits` says that the cut falls between the two units of one
character, and `take_units` what is left on either side of it. A reader drops the zeros at the end
of what it finds, and these are the ones that stand for zero characters (`exists_trimmed`).
`Reader.Reads` says what a reader makes of some bytes in front of anything. What is written as a
string is read as `reread` says, and so is each string of a description (`reads_device_info`).
`rereads_unsplit_text` states what this means for every text.
-/

namespace PictureTransfer

namespace Dataset

open Text.Utf16

namespace Reader

/-! ## Zeros at the end -/

theorem trimZeros_zero (units : List UInt16) : trimZeros (units ++ [0]) = trimZeros units := by
  rw [trimZeros, List.reverse_append]
  rfl

theorem trimZeros_of_ne {u : UInt16} (nonzero : u ≠ 0) (units : List UInt16) :
    trimZeros (units ++ [u]) = units ++ [u] := by
  have kept : (u == 0) = false := by
    rw [beq_eq_false_iff_ne]
    exact nonzero
  rw [trimZeros, List.reverse_append, List.reverse_singleton, List.singleton_append,
    List.dropWhile_cons, kept, if_neg Bool.false_ne_true, List.reverse_cons, List.reverse_reverse]

/-- Only the zero character ends with a zero. -/
theorem charUnits_of_ne {c : Char} (other : c ≠ '\x00') :
    ∃ front last, charUnits c = front ++ [last] ∧ last ≠ 0 := by
  rcases Nat.lt_or_ge c.toNat 0x10000 with small | large
  · obtain ⟨unit, one, number⟩ := charUnits_of_small small
    refine ⟨[], unit, one, ?_⟩
    rintro rfl
    exact other (Char.toNat_inj.1 number.symm)
  · obtain ⟨high, low, two, -, closes, -⟩ := charUnits_of_large large
    refine ⟨[high], low, two, ?_⟩
    rintro rfl
    cases closes

/-- The zeros at the end of a text's units are the zero characters at the end of the text. -/
theorem exists_trimmed (text : List Char) :
    ∃ kept nuls, text = kept ++ nuls ∧ (∀ c ∈ nuls, c = '\x00') ∧
      kept.getLast? ≠ some '\x00' ∧ trimZeros (units text) = units kept := by
  induction text using List.reverseRecOn with
  | nil => exact ⟨[], [], rfl, List.forall_mem_nil _, by simp, rfl⟩
  | append_singleton text c ih =>
    by_cases zero : c = '\x00'
    · obtain ⟨kept, nuls, rfl, all, last, trimmed⟩ := ih
      refine ⟨kept, nuls ++ [c], List.append_assoc _ _ _, ?_, last, ?_⟩
      · rw [List.forall_mem_append]
        exact ⟨all, List.forall_mem_singleton.2 zero⟩
      · rw [zero, units_append, ← trimmed]
        exact trimZeros_zero _
    · obtain ⟨front, last, ends, nonzero⟩ := charUnits_of_ne zero
      refine ⟨text ++ [c], [], (List.append_nil _).symm, List.forall_mem_nil _, ?_, ?_⟩
      · rw [List.getLast?_concat]
        exact mt Option.some.inj zero
      · have all : units (text ++ [c]) = (units text ++ front) ++ [last] := by
          rw [units_append, units_cons, ends, List.append_assoc]
          simp [units]
        rw [all, trimZeros_of_ne nonzero]

/-! ## Readers on written bytes -/

/-- What a reader makes of some bytes in front of anything: it takes exactly these, or it fails. -/
def Reads {α : Type} (r : Reader α) (bytes : Bytes) (outcome : Except Error α) : Prop :=
  ∀ rest, r.run (bytes ++ rest) = outcome.map fun a => (a, rest)

section Reads

variable {α β : Type} {r : Reader α} {f : α → Reader β} {first later : Bytes}

theorem Reads.pure (a : α) : Reads (Pure.pure a) [] (.ok a) := fun _ => rfl

/-- What stands behind what was read is read next. -/
theorem Reads.bind {x : Except Error α} {y : α → Except Error β} (here : Reads r first x)
    (there : ∀ a, Reads (f a) later (y a)) : Reads (r >>= f) (first ++ later) (x >>= y) := by
  intro rest
  rw [StateT.run_bind, List.append_assoc, here]
  cases x with
  | error e => rfl
  | ok a => exact there a rest

theorem Reads.bind_ok {a : α} {y : Except Error β} (here : Reads r first (.ok a))
    (there : Reads (f a) later y) : Reads (r >>= f) (first ++ later) y := by
  intro rest
  rw [StateT.run_bind, List.append_assoc, here]
  exact there rest

/-- Behind what was read nothing more is taken. -/
theorem Reads.last {a : α} {y : Except Error β} (here : Reads r first (.ok a))
    (there : Reads (f a) [] y) : Reads (r >>= f) first y := by
  have both := here.bind_ok there
  rw [List.append_nil] at both
  exact both

end Reads

theorem reads_word8 (v : UInt8) : Reads word8 [v] (.ok v) := fun _ => rfl

theorem reads_word16 (v : UInt16) : Reads word16 (Bytes.ofWord16 v) (.ok v) := by
  intro rest
  obtain ⟨b0, b1, bytes, rfl⟩ := Bytes.exists_ofWord16 v
  rw [bytes]
  rfl

theorem reads_word32 (v : UInt32) : Reads word32 (Bytes.ofWord32 v) (.ok v) := by
  intro rest
  obtain ⟨b0, b1, b2, b3, bytes, rfl⟩ := Bytes.exists_ofWord32 v
  rw [bytes]
  rfl

theorem reads_words16 (words : List UInt16) :
    Reads (words16 words.length) (words.flatMap Bytes.ofWord16) (.ok words) := by
  induction words with
  | nil => exact Reads.pure []
  | cons v rest ih =>
    rw [List.flatMap_cons, List.length_cons, words16]
    exact Reads.bind_ok (reads_word16 v) (ih.last (Reads.pure (v :: rest)))

/-- An array is read back if its length fits in four bytes. -/
theorem reads_array16 {items : List UInt16} (counted : items.length < 0x100000000) :
    Reads array16 (encodeArray16 items) (.ok items) := by
  refine Reads.bind_ok (reads_word32 _) ?_
  rw [UInt32.toNat_ofNat_of_lt' counted]
  exact reads_words16 items

end Reader

open Reader (Reads)

/-! ## Strings -/

/-- The text of some units without the zeros at their end. -/
def textOf (us : List UInt16) : Except Error String :=
  match decode? (Reader.trimZeros us) with
  | some chars => .ok (String.ofList chars)
  | none => .error .invalidText

/-- What becomes of a text that is written and read back. -/
def reread (s : String) : Except Error String := textOf ((units s.toList).take maxUnits)

/-- Units behind their number are read as their text. -/
theorem reads_units {us : List UInt16} (few : us.length ≤ 255) :
    Reads Reader.text ([UInt8.ofNat us.length] ++ us.flatMap Bytes.ofWord16) (textOf us) := by
  refine Reads.bind_ok (Reader.reads_word8 _) ?_
  rw [UInt8.toNat_ofNat_of_lt' (Nat.lt_succ_of_le few)]
  refine (Reader.reads_words16 us).last ?_
  intro rest
  rw [textOf]
  cases decode? (Reader.trimZeros us) with
  | some chars => rfl
  | none => rfl

theorem reads_text (s : String) : Reads Reader.text (encodeText s) (reread s) := by
  rw [encodeText]
  split
  · next empty =>
    rw [String.isEmpty_iff] at empty
    rw [empty]
    exact @reads_units [] (Nat.zero_le _)
  · -- the terminator is one more unit, and it is dropped again
    have few : ((units s.toList).take maxUnits ++ [0]).length ≤ 255 := by
      rw [List.length_append]
      exact Nat.succ_le_succ (List.length_take_le _ _)
    have read := reads_units few
    rw [List.length_append, List.flatMap_append, textOf, Reader.trimZeros_zero] at read
    exact read

/-- A text that is not split is read back up to its cut, but for zero characters at the end. -/
theorem reread_of_not_splits {s : String} (whole : ¬Splits maxUnits s.toList) :
    ∃ kept nuls dropped, s.toList = kept ++ nuls ++ dropped ∧
      units (kept ++ nuls) = (units s.toList).take maxUnits ∧ (∀ c ∈ nuls, c = '\x00') ∧
      kept.getLast? ≠ some '\x00' ∧ reread s = .ok (String.ofList kept) := by
  obtain ⟨front, dropped, parts, cut⟩ := take_units_of_not_splits whole
  obtain ⟨kept, nuls, rfl, all, last, trimmed⟩ := Reader.exists_trimmed front
  refine ⟨kept, nuls, dropped, parts, cut.symm, all, last, ?_⟩
  rw [reread, cut, textOf, trimmed, decode?_units]

/-- The opening of a pair at the end is no text. -/
theorem reread_of_splits {s : String} (split : Splits maxUnits s.toList) :
    reread s = .error .invalidText := by
  obtain ⟨before, high, cut, opens⟩ := take_units_of_splits split
  have nonzero : high ≠ 0 := by
    rintro rfl
    cases opens
  rw [reread, cut, textOf, Reader.trimZeros_of_ne nonzero, decode?_units_append]
  simp [decode?, opens]

/-- A text that is not too long, and does not end with a zero character, is read back whole. -/
theorem reread_of_short {s : String} (short : (units s.toList).length ≤ maxUnits)
    (last : s.toList.getLast? ≠ some '\x00') : reread s = .ok s := by
  obtain ⟨kept, nuls, same, all, -, trimmed⟩ := Reader.exists_trimmed s.toList
  have none_dropped : nuls = [] := by
    rcases List.eq_nil_or_concat nuls with nothing | ⟨others, c, rfl⟩
    · exact nothing
    · rw [same, List.concat_eq_append, ← List.append_assoc, List.getLast?_concat,
        all c (by simp)] at last
      exact absurd rfl last
  rw [none_dropped, List.append_nil] at same
  rw [reread, List.take_of_length_le short, textOf, trimmed, decode?_units, ← same]
  exact congrArg Except.ok String.ofList_toList

/-- A text that is not split can be read back, and what is read is in front of it. -/
theorem exists_reread {s : String} (whole : ¬Splits maxUnits s.toList) :
    ∃ read, reread s = .ok read ∧ read.toList <+: s.toList := by
  obtain ⟨kept, nuls, dropped, parts, -, -, -, same⟩ := reread_of_not_splits whole
  refine ⟨_, same, ?_⟩
  rw [String.toList_ofList, parts, List.append_assoc]
  exact List.prefix_append _ _

/-! ## Descriptions -/

/-- The description is read back with each of its strings as it is read back alone, if no array has
more entries than four bytes can count. -/
theorem reads_deviceInfo (info : DeviceInfo)
    (counted : ∀ items ∈ [info.operations, info.events, info.deviceProperties, info.captureFormats,
      info.imageFormats], items.length < 0x100000000) :
    Reads DeviceInfo.reader info.encode (do
      let vendorExtensionDesc ← reread info.vendorExtensionDesc
      let manufacturer ← reread info.manufacturer
      let model ← reread info.model
      let deviceVersion ← reread info.deviceVersion
      let serialNumber ← reread info.serialNumber
      return { info with
        vendorExtensionDesc, manufacturer, model, deviceVersion, serialNumber }) := by
  simp only [List.forall_mem_cons, List.not_mem_nil, false_implies, implies_true, and_true]
    at counted
  obtain ⟨operations, events, deviceProperties, captureFormats, imageFormats⟩ := counted
  refine (Reader.reads_word16 _).bind_ok ?_
  refine (Reader.reads_word32 _).bind_ok ?_
  refine (Reader.reads_word16 _).bind_ok ?_
  refine (reads_text _).bind fun _ => ?_
  refine (Reader.reads_word16 _).bind_ok ?_
  refine (Reader.reads_array16 operations).bind_ok ?_
  refine (Reader.reads_array16 events).bind_ok ?_
  refine (Reader.reads_array16 deviceProperties).bind_ok ?_
  refine (Reader.reads_array16 captureFormats).bind_ok ?_
  refine (Reader.reads_array16 imageFormats).bind_ok ?_
  refine (reads_text _).bind fun _ => ?_
  refine (reads_text _).bind fun _ => ?_
  refine (reads_text _).bind fun _ => ?_
  exact (reads_text _).bind fun _ => Reads.pure _

/-- What a camera that only says who it is serves is read back with its names as they are read back
alone. -/
theorem decode_deviceInfo (camera : Standard) : DeviceInfo.decode camera.deviceInfo = do
    return DeviceInfo.minimal (← reread camera.name.manufacturer) (← reread camera.name.model)
      (← reread camera.name.serial) := by
  obtain ⟨⟨manufacturer, model, serial⟩, session, transaction⟩ := camera
  have constant : reread "" = .ok "" ∧ reread "1.00" = .ok "1.00" :=
    ⟨reread_of_short (by decide) (by decide), reread_of_short (by decide) (by decide)⟩
  have read := reads_deviceInfo (.minimal manufacturer model serial)
    (by simp [DeviceInfo.minimal]) []
  simp only [DeviceInfo.minimal, constant, List.append_nil] at read
  rw [DeviceInfo.decode, Standard.deviceInfo]
  simp only [DeviceInfo.minimal, read]
  cases reread manufacturer with
  | error e => rfl
  | ok manufacturer =>
    cases reread model with
    | error e => rfl
    | ok model => cases reread serial <;> rfl

/-! ## Every text -/

/-- A text that is written is read back from the front of anything, and exactly its bytes are taken,
unless the cut behind 254 units splits a character. What is read is then the text in front of the
cut without the zero characters at its end, so that it is the whole text when there are at most 254
units and the last is no zero. A text that is split cannot be read. The description that a camera
serves is read exactly if none of its names is split. -/
theorem rereads_unsplit_text (s : String) (rest : Bytes) (camera : Standard) :
    (¬Splits 254 s.toList → ∃ kept nuls dropped, s.toList = kept ++ nuls ++ dropped ∧
      units (kept ++ nuls) = (units s.toList).take 254 ∧ (∀ c ∈ nuls, c = '\x00') ∧
      kept.getLast? ≠ some '\x00' ∧
      Reader.text.run (encodeText s ++ rest) = .ok (String.ofList kept, rest)) ∧
    ((units s.toList).length ≤ 254 → s.toList.getLast? ≠ some '\x00' →
      Reader.text.run (encodeText s ++ rest) = .ok (s, rest)) ∧
    (Splits 254 s.toList → Reader.text.run (encodeText s ++ rest) = .error .invalidText) ∧
    let names := [camera.name.manufacturer, camera.name.model, camera.name.serial]
    ((∀ t ∈ names, ¬Splits 254 t.toList) → ∃ manufacturer model serial,
      List.Forall₂ (fun t read => read.toList <+: t.toList) names [manufacturer, model, serial] ∧
      DeviceInfo.decode camera.deviceInfo = .ok (.minimal manufacturer model serial)) ∧
    ((∃ t ∈ names, Splits 254 t.toList) →
      DeviceInfo.decode camera.deviceInfo = .error .invalidText) := by
  refine ⟨?_, ?_, ?_, ?_, ?_⟩
  · intro whole
    obtain ⟨kept, nuls, dropped, parts, cut, all, last, same⟩ := reread_of_not_splits whole
    refine ⟨kept, nuls, dropped, parts, cut, all, last, ?_⟩
    rw [reads_text s rest, same]
    rfl
  · intro short last
    rw [reads_text s rest, reread_of_short short last]
    rfl
  · intro split
    rw [reads_text s rest, reread_of_splits split]
    rfl
  · intro whole
    obtain ⟨manufacturer, first, front₁⟩ := exists_reread (whole camera.name.manufacturer (by simp))
    obtain ⟨model, second, front₂⟩ := exists_reread (whole camera.name.model (by simp))
    obtain ⟨serial, third, front₃⟩ := exists_reread (whole camera.name.serial (by simp))
    refine ⟨manufacturer, model, serial, .cons front₁ (.cons front₂ (.cons front₃ .nil)), ?_⟩
    rw [decode_deviceInfo, first, second, third]
    rfl
  · intro someSplit
    rw [decode_deviceInfo]
    -- the first name that is split ends the reading
    by_cases split₁ : Splits 254 camera.name.manufacturer.toList
    · rw [reread_of_splits split₁]
      rfl
    obtain ⟨manufacturer, first, -⟩ := exists_reread split₁
    by_cases split₂ : Splits 254 camera.name.model.toList
    · rw [first, reread_of_splits split₂]
      rfl
    obtain ⟨model, second, -⟩ := exists_reread split₂
    have split₃ : Splits 254 camera.name.serial.toList := by
      simpa [split₁, split₂] using someSplit
    rw [first, second, reread_of_splits split₃]
    rfl

/-- A name of 253 letters and a character with two units. -/
def longName : String := String.ofList (List.replicate 253 'a' ++ [Char.ofNat 0x1F600])

theorem splits_longName : Splits 254 longName.toList := by
  have letters : ∀ n, (units (List.replicate n 'a')).length = n := by
    intro n
    induction n with
    | zero => rfl
    | succ n ih =>
      rw [List.replicate_succ, units_cons, List.length_append, ih, Nat.add_comm]
      rfl
  exact ⟨List.replicate 253 'a', Char.ofNat 0x1F600, [], String.toList_ofList,
    congrArg (· + 1) (letters 253), by decide⟩

/-- A text with a zero character at its end, and one that is split. -/
theorem rereads_unsplit_text_ending :
    let text : String := String.ofList ['a', 'b', '\x00']
    let camera : Standard := { name := ⟨"Maker", text, "0001"⟩ }
    (∃ kept nuls dropped, text.toList = kept ++ nuls ++ dropped ∧
      Reader.text.run (encodeText text ++ [7]) = .ok (String.ofList kept, [7])) ∧
    Reader.text.run (encodeText "ab" ++ [7]) = .ok ("ab", [7]) ∧
    Reader.text.run (encodeText longName ++ [7]) = .error .invalidText ∧
    (∃ manufacturer model serial,
      DeviceInfo.decode camera.deviceInfo = .ok (.minimal manufacturer model serial)) ∧
    DeviceInfo.decode ({ name := ⟨longName, text, "0001"⟩ } : Standard).deviceInfo
      = .error .invalidText := by
  intro text camera
  have short : ∀ t ∈ ["Maker", text, "0001"], ¬Splits 254 t.toList := by
    have units_few : ∀ t ∈ ["Maker", text, "0001"], (units t.toList).length ≤ 254 := by decide
    exact fun t listed => not_splits_of_length_le (units_few t listed)
  obtain ⟨whole, -, -, description, -⟩ := rereads_unsplit_text text [7] camera
  obtain ⟨kept, nuls, dropped, parts, -, -, -, read⟩ := whole (short text (by simp))
  obtain ⟨-, all, -⟩ := rereads_unsplit_text "ab" [7] camera
  obtain ⟨-, -, split, -, refused⟩ :=
    rereads_unsplit_text longName [7] { name := ⟨longName, text, "0001"⟩ }
  obtain ⟨manufacturer, model, serial, -, decoded⟩ := description short
  exact ⟨⟨kept, nuls, dropped, parts, read⟩, all (by decide) (by decide), split splits_longName,
    ⟨manufacturer, model, serial, decoded⟩, refused ⟨longName, by simp, splits_longName⟩⟩

/-- A text that is split is not read back, and neither is a description with it. -/
theorem rereads_nothing_split :
    (¬∃ read rest, Reader.text.run (encodeText longName ++ []) = .ok (read, rest)) ∧
    ¬∃ info, DeviceInfo.decode ({ name := ⟨longName, "ILCE-5100", "0001"⟩ } : Standard).deviceInfo
      = .ok info := by
  have unread := reread_of_splits splits_longName
  constructor
  · rintro ⟨read, rest, found⟩
    rw [reads_text longName [], unread] at found
    cases found
  · rintro ⟨info, found⟩
    rw [decode_deviceInfo, unread] at found
    cases found

end Dataset

end PictureTransfer
