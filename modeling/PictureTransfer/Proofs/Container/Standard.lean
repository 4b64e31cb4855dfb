import PictureTransfer.Proofs.Container.Slices

/-!
# Containers in standard layout

A container in standard layout is read back with the length that stands in front of it, whatever
follows (`Header.decodeStandard_encode`). That length is its own unless it takes more than four
bytes (`declares_standardContainer`). A COMMAND is far shorter than that, and its length is none
that looks like padding. So it is classified as what it was written as
(`Container.classify_commandContainer`).
-/

namespace PictureTransfer

/-- The header of a container in standard layout is read in front of anything. -/
theorem Header.decodeStandard_encode (h : Header) (total : UInt32) (body : Bytes) :
    decodeStandard (h.encode .standard total ++ body) = .ok (total, h) := by
  obtain ⟨kind, code, tid⟩ := h
  obtain ⟨l0, l1, l2, l3, length, rfl⟩ := Bytes.exists_ofWord32 total
  obtain ⟨k0, k1, kindBytes, sameKind⟩ := Bytes.exists_ofWord16 kind.toWord
  obtain ⟨c0, c1, codeBytes, rfl⟩ := Bytes.exists_ofWord16 code
  obtain ⟨t0, t1, t2, t3, tidBytes, rfl⟩ := Bytes.exists_ofWord32 tid
  have known : Kind.ofWord? (Bytes.word16 k0 k1) = some kind := by
    rw [sameKind, Kind.ofWord?_toWord]
  rw [encode, fields, length, kindBytes, codeBytes, tidBytes]
  simp [decodeStandard, known]

theorem Header.decodeStandard_standardContainer (h : Header) (body : Bytes) :
    decodeStandard (standardContainer h body)
      = .ok (UInt32.ofNat (standardLength + body.length), h) :=
  decodeStandard_encode h _ body

/-- A RESPONSE tells its code and its transaction. -/
theorem responseContainer_inj {code other : UInt16} {tid again : UInt32} :
    responseContainer code tid = responseContainer other again ↔ code = other ∧ tid = again := by
  constructor
  · intro same
    have read := congrArg Header.decodeStandard same
    rw [responseContainer, responseContainer, Header.decodeStandard_standardContainer,
      Header.decodeStandard_standardContainer] at read
    injection read with fields
    injection fields with _ header
    injection header with _ code tid
    exact ⟨code, tid⟩
  · rintro ⟨rfl, rfl⟩
    rfl

/-- What is read as a header in standard layout stands there as it is written. -/
theorem Header.eq_encode_of_decodeStandard {raw : Bytes} {total : UInt32} {h : Header}
    (read : decodeStandard raw = .ok (total, h)) :
    raw = h.encode .standard total ++ raw.drop standardLength := by
  unfold decodeStandard at read
  split at read
  · split at read
    · next kind known =>
      cases read
      rw [encode, fields, Kind.toWord_of_ofWord? known, Bytes.ofWord16_word16,
        Bytes.ofWord16_word16, Bytes.ofWord32_word32, Bytes.ofWord32_word32]
      rfl
    · cases read
  · cases read

/-- A container in standard layout with the given header, which declares its own length. -/
def Declares (container : Bytes) (h : Header) : Prop :=
  ∃ total, Header.decodeStandard container = .ok (total, h) ∧ total.toNat = container.length

/-- A container declares its own length unless four bytes cannot hold it. -/
theorem declares_standardContainer (h : Header) {body : Bytes}
    (short : Header.standardLength + body.length < 0x100000000) :
    Declares (standardContainer h body) h := by
  refine ⟨_, Header.decodeStandard_standardContainer h body, ?_⟩
  rw [length_standardContainer, UInt32.toNat_ofNat_of_lt' short]
  rfl

namespace Bytes

/-- Words that were written one behind the other are read back. -/
theorem words32_flatMap (words : List UInt32) : words32 (words.flatMap ofWord32) = words := by
  induction words with
  | nil => rfl
  | cons w rest ih =>
    obtain ⟨b0, b1, b2, b3, bytes, rfl⟩ := exists_ofWord32 w
    rw [List.flatMap_cons, bytes]
    show word32 b0 b1 b2 b3 :: words32 (rest.flatMap ofWord32) = _
    rw [ih]

theorem length_flatMap_ofWord32 (words : List UInt32) :
    (words.flatMap ofWord32).length = 4 * words.length := by
  induction words with
  | nil => rfl
  | cons w rest ih =>
    rw [List.flatMap_cons, List.length_append, length_ofWord32, ih, List.length_cons]
    omega

end Bytes

namespace Container

/-- A short container in standard layout looks like no other. -/
theorem classify_standardContainer (h : Header) {body : Bytes}
    (short : Header.standardLength + body.length < 256) :
    classify (standardContainer h body) = .ok ⟨.standard, h, body⟩ := by
  have small : (UInt32.ofNat (Header.standardLength + body.length)).toNat
      = Header.standardLength + body.length :=
    UInt32.toNat_ofNat_of_lt' (Nat.lt_trans short (by decide))
  have plain : ¬Mistakable .standard h.code
      (UInt32.ofNat (Header.standardLength + body.length)) := by
    rintro (⟨-, padded⟩ | ⟨alternate, -⟩)
    · -- the shortest length that looks like padding is 256
      rw [small] at padded
      simp only [kindTimes, List.mem_cons, List.not_mem_nil, or_false] at padded
      omega
    · cases alternate
  exact classify_of_plain plain body

/-- A COMMAND is read back with its parameters. -/
theorem classify_commandContainer (code : UInt16) (tid : UInt32) {params : List UInt32}
    (few : params.length ≤ maxParams) :
    ∃ c, classify (commandContainer code tid params) = .ok c ∧ c.layout = .standard ∧
      c.header = ⟨.command, code, tid⟩ ∧ c.params = params := by
  have all : params.take maxParams = params := List.take_of_length_le few
  have size : (params.flatMap Bytes.ofWord32).length ≤ 4 * maxParams := by
    rw [Bytes.length_flatMap_ofWord32]
    omega
  have short : Header.standardLength + (params.flatMap Bytes.ofWord32).length < 256 := by
    simp only [maxParams] at size
    simp only [Header.standardLength]
    omega
  rw [commandContainer, all]
  refine ⟨_, classify_standardContainer ⟨.command, code, tid⟩ short, rfl, rfl, ?_⟩
  rw [Container.params, Bytes.words32_flatMap, all]

end Container

end PictureTransfer
