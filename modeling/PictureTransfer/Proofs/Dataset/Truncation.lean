import PictureTransfer.Proofs.Dataset.Strings
import PictureTransfer.Proofs.Channel

/-!
# Descriptions that are cut short

`Reader.Needs` says that a reader takes a value from exactly some bytes, whatever follows them, and
from no fewer: where they end too early they are truncated. Readers that need their bytes can be put
one behind the other (`Needs.bind`), so that the reader of a description needs all that was written
of it (`DeviceInfo.needs_reader`), and every cut is found (`DeviceInfo.decodes_all_or_nothing`).
-/

namespace PictureTransfer

namespace Dataset

open Text.Utf16

namespace Reader

/-- A reader takes a value from exactly these bytes, and from no fewer. -/
structure Needs {α : Type} (r : Reader α) (bytes : Bytes) (a : α) : Prop where
  reads : Reads r bytes (.ok a)
  truncated : ∀ front, front <+: bytes → front.length < bytes.length →
    r.run front = .error .truncated

namespace Needs

variable {α β : Type} {r : Reader α} {f : α → Reader β} {first later : Bytes} {a : α} {b : β}

theorem pure (a : α) : Needs (Pure.pure a) [] a where
  reads := Reads.pure a
  truncated _ _ short := absurd short (Nat.not_lt_zero _)

/-- A cut falls into the first bytes, or into those behind them. -/
theorem bind (here : Needs r first a) (there : Needs (f a) later b) :
    Needs (r >>= f) (first ++ later) b where
  reads := here.reads.bind_ok there.reads
  truncated front cut short := by
    rw [StateT.run_bind]
    rcases cut_of_append cut with ⟨inside, few⟩ | ⟨behind, rfl, inside⟩
    · rw [here.truncated front inside few]
      rfl
    · rw [List.length_append, List.length_append] at short
      rw [here.reads behind]
      exact there.truncated behind inside (Nat.lt_of_add_lt_add_left short)

/-- Behind what was read nothing more is needed. -/
theorem last (here : Needs r first a) (there : Reads (f a) [] (.ok b)) :
    Needs (r >>= f) first b where
  reads := here.reads.last there
  truncated front cut short := by
    rw [StateT.run_bind, here.truncated front cut short]
    rfl

end Needs

theorem needs_word8 (v : UInt8) : Needs word8 [v] v where
  reads := reads_word8 v
  truncated front _ short := by
    rw [List.length_eq_zero_iff.1 (Nat.lt_one_iff.1 short)]
    rfl

theorem needs_word16 (v : UInt16) : Needs word16 (Bytes.ofWord16 v) v where
  reads := reads_word16 v
  truncated front _ short := by
    rw [Bytes.length_ofWord16] at short
    rcases front with _ | ⟨b0, _ | ⟨b1, rest⟩⟩
    · rfl
    · rfl
    · simp only [List.length_cons] at short
      omega

theorem needs_word32 (v : UInt32) : Needs word32 (Bytes.ofWord32 v) v where
  reads := reads_word32 v
  truncated front _ short := by
    rw [Bytes.length_ofWord32] at short
    rcases front with _ | ⟨b0, _ | ⟨b1, _ | ⟨b2, _ | ⟨b3, rest⟩⟩⟩⟩
    · rfl
    · rfl
    · rfl
    · rfl
    · simp only [List.length_cons] at short
      omega

theorem needs_words16 (words : List UInt16) :
    Needs (words16 words.length) (words.flatMap Bytes.ofWord16) words := by
  induction words with
  | nil => exact .pure []
  | cons v rest ih =>
    rw [List.flatMap_cons, List.length_cons, words16]
    exact (needs_word16 v).bind (ih.last (Reads.pure (v :: rest)))

/-- All entries of an array are needed, if their number fits in four bytes. -/
theorem needs_array16 {items : List UInt16} (counted : items.length < 0x100000000) :
    Needs array16 (encodeArray16 items) items := by
  refine (needs_word32 _).bind ?_
  rw [UInt32.toNat_ofNat_of_lt' counted]
  exact needs_words16 items

/-- All units of a text are needed. -/
theorem needs_units {us : List UInt16} (few : us.length ≤ 255) {s : String}
    (spelt : textOf us = .ok s) :
    Needs text ([UInt8.ofNat us.length] ++ us.flatMap Bytes.ofWord16) s := by
  refine (needs_word8 _).bind ?_
  rw [UInt8.toNat_ofNat_of_lt' (Nat.lt_succ_of_le few)]
  refine (needs_words16 us).last ?_
  intro rest
  rw [← spelt, textOf]
  cases decode? (trimZeros us) with
  | some chars => rfl
  | none => rfl

theorem needs_text {s : String} (short : (units s.toList).length ≤ maxUnits)
    (last : s.toList.getLast? ≠ some '\x00') : Needs text (encodeText s) s := by
  have same : reread s = .ok s := reread_of_short short last
  rw [encodeText]
  split
  · next empty =>
    rw [String.isEmpty_iff] at empty
    rw [empty]
    -- an empty text is a count of no units
    have none_counted : ([] : List UInt16).length ≤ 255 := Nat.zero_le _
    exact needs_units none_counted rfl
  · have few : ((units s.toList).take maxUnits ++ [0]).length ≤ 255 := by
      rw [List.length_append]
      exact Nat.succ_le_succ (List.length_take_le _ _)
    have needs := needs_units few (s := s) (by rw [textOf, trimZeros_zero]; exact same)
    rw [List.length_append, List.flatMap_append] at needs
    exact needs

end Reader

end Dataset

namespace DeviceInfo

open Dataset Text.Utf16

/-- The texts of a description. -/
def texts (info : DeviceInfo) : List String :=
  [info.vendorExtensionDesc, info.manufacturer, info.model, info.deviceVersion, info.serialNumber]

/-- The arrays of a description. -/
def arrays (info : DeviceInfo) : List (List UInt16) :=
  [info.operations, info.events, info.deviceProperties, info.captureFormats, info.imageFormats]

/-- A description needs all that was written of it, if each of its fields does. -/
theorem needs_reader {info : DeviceInfo}
    (arrays : ∀ items ∈ info.arrays, Reader.Needs Reader.array16 (encodeArray16 items) items)
    (texts : ∀ s ∈ info.texts, Reader.Needs Reader.text (encodeText s) s) :
    Reader.Needs reader info.encode info := by
  simp only [DeviceInfo.arrays, DeviceInfo.texts, List.forall_mem_cons, List.not_mem_nil,
    false_implies, implies_true, and_true] at arrays texts
  obtain ⟨operations, events, deviceProperties, captureFormats, imageFormats⟩ := arrays
  obtain ⟨vendorExtensionDesc, manufacturer, model, deviceVersion, serialNumber⟩ := texts
  refine (Reader.needs_word16 _).bind ?_
  refine (Reader.needs_word32 _).bind ?_
  refine (Reader.needs_word16 _).bind ?_
  refine vendorExtensionDesc.bind ?_
  refine (Reader.needs_word16 _).bind ?_
  refine operations.bind ?_
  refine events.bind ?_
  refine deviceProperties.bind ?_
  refine captureFormats.bind ?_
  refine imageFormats.bind ?_
  refine manufacturer.bind ?_
  refine model.bind ?_
  refine deviceVersion.bind ?_
  exact serialNumber.bind (.pure info)

/-- A description is read back from the front of anything, and from nothing that is cut off of it:
each cut is found as such, wherever it is. Its arrays must not have more entries than four bytes can
count, and its texts not more than 254 units, the last of them no zero. -/
theorem decodes_all_or_nothing {info : DeviceInfo}
    (counted : ∀ items ∈ info.arrays, items.length < 0x100000000)
    (short : ∀ s ∈ info.texts, (units s.toList).length ≤ 254)
    (closed : ∀ s ∈ info.texts, s.toList.getLast? ≠ some '\x00') :
    (∀ rest, decode (info.encode ++ rest) = .ok info) ∧
    ∀ front, front <+: info.encode → front ≠ info.encode → decode front = .error .truncated := by
  have needs : Reader.Needs reader info.encode info :=
    needs_reader (fun items listed => Reader.needs_array16 (counted items listed))
      fun s listed => Reader.needs_text (short s listed) (closed s listed)
  constructor
  · intro rest
    rw [decode, needs.reads rest]
    rfl
  · intro front cut proper
    have few : front.length < info.encode.length :=
      Nat.lt_of_le_of_ne cut.length_le fun same => proper (cut.eq_of_length same)
    rw [decode, needs.truncated front cut few]
    rfl

/-- A camera with a property, whose name has a character of two units. -/
def named : DeviceInfo :=
  { minimal "Maker" "Model 𝄞" "0001" with deviceProperties := [0x5001, 0xD2C8] }

/-- It is read back in front of other bytes, and not without its last byte. -/
theorem decodes_named :
    (∀ items ∈ named.arrays, items.length < 0x100000000) ∧
    (∀ s ∈ named.texts, (units s.toList).length ≤ 254) ∧
    (∀ s ∈ named.texts, s.toList.getLast? ≠ some '\x00') ∧
    decode (named.encode ++ [7]) = .ok named ∧
    decode named.encode.dropLast = .error .truncated := by
  have counted : ∀ items ∈ named.arrays, items.length < 0x100000000 := by decide
  have short : ∀ s ∈ named.texts, (units s.toList).length ≤ 254 := by decide
  have closed : ∀ s ∈ named.texts, s.toList.getLast? ≠ some '\x00' := by decide
  obtain ⟨whole, cut⟩ := decodes_all_or_nothing counted short closed
  refine ⟨counted, short, closed, whole [7], cut _ (List.dropLast_prefix _) ?_⟩
  exact fun same => absurd (congrArg List.length same) (by decide)

end DeviceInfo

end PictureTransfer
