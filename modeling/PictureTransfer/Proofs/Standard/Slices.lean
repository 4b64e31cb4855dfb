import PictureTransfer.Proofs.Container.Slices
import PictureTransfer.Responder.Standard

/-!
# How the standard camera reads a transfer

The fields of a transfer stand at fixed places (`Received.ofBytes?_eq`), and an OpenSession has its
parameter behind them (`Received.param0?_eq`). `outCompletedSlices` reads all of these as slices of
the transfer, as they come up. No slice lies outside the transfer, whatever its bytes, and with the
slices the camera does what it does (`outCompletedSlices_eq`).
-/

namespace PictureTransfer.Standard

open Bytes (word16At word32At slice)

/-! ## The fields of a transfer -/

namespace Received

/-- The fields stand at fixed places, and a transfer that is long enough has them all. -/
theorem ofBytes?_eq (data : Bytes) : ofBytes? data =
    if Header.standardLength ≤ data.length then
      some ⟨word32At data 0, word16At data 4, word16At data 6, word32At data 8,
        data.drop Header.standardLength⟩
    else none := by
  match data with
  | l0 :: l1 :: l2 :: l3 :: k0 :: k1 :: c0 :: c1 :: t0 :: t1 :: t2 :: t3 :: body =>
    rw [if_pos (by simp [Header.standardLength])]
    rfl
  | [] | [_] | [_, _] | [_, _, _] | [_, _, _, _] | [_, _, _, _, _] | [_, _, _, _, _, _]
  | [_, _, _, _, _, _, _] | [_, _, _, _, _, _, _, _] | [_, _, _, _, _, _, _, _, _]
  | [_, _, _, _, _, _, _, _, _, _] | [_, _, _, _, _, _, _, _, _, _, _] => rfl

/-- The fields of a transfer, each read as a slice of it. -/
def ofSlices (data : Bytes) : Except Bytes.OutOfRange Received := do
  let declared ← slice data 0 4
  let kind ← slice data 4 6
  let code ← slice data 6 8
  let tid ← slice data 8 12
  return ⟨UInt32.ofNat (Bytes.littleValue declared), UInt16.ofNat (Bytes.littleValue kind),
    UInt16.ofNat (Bytes.littleValue code), UInt32.ofNat (Bytes.littleValue tid),
    data.drop Header.standardLength⟩

variable {data : Bytes}

theorem ofSlices_eq (long : Header.standardLength ≤ data.length) :
    ofSlices data = .ok ⟨word32At data 0, word16At data 4, word16At data 6, word32At data 8,
      data.drop Header.standardLength⟩ := by
  have long : 12 ≤ data.length := long
  have declared : slice data 0 (0 + 4) = .ok ((data.drop 0).take 4) :=
    Bytes.slice_inside (by omega)
  have kind : slice data 4 (4 + 2) = .ok ((data.drop 4).take 2) := Bytes.slice_inside (by omega)
  have code : slice data 6 (6 + 2) = .ok ((data.drop 6).take 2) := Bytes.slice_inside (by omega)
  have tid : slice data 8 (8 + 4) = .ok ((data.drop 8).take 4) := Bytes.slice_inside (by omega)
  rw [ofSlices, declared, kind, code, tid]
  rfl

theorem rawLength_eq {r : Received} (received : ofBytes? data = some r) :
    r.rawLength = data.length := by
  rw [ofBytes?_eq] at received
  split at received
  · next long =>
    cases received
    rw [rawLength, List.length_drop]
    omega
  · cases received

theorem code_eq {r : Received} (received : ofBytes? data = some r) : r.code = word16At data 6 := by
  rw [ofBytes?_eq] at received
  split at received <;> cases received
  rfl

theorem tid_eq {r : Received} (received : ofBytes? data = some r) : r.tid = word32At data 8 := by
  rw [ofBytes?_eq] at received
  split at received <;> cases received
  rfl

/-- What holds no whole COMMAND declares too short or too long a length, or another kind. -/
theorem isCommand_eq_false {r : Received} (received : ofBytes? data = some r) :
    r.isCommand = false ↔
      r.declared.toNat < 12 ∨ data.length < r.declared.toNat ∨ r.kind ≠ 1 := by
  have command : Kind.command.toWord = 1 := rfl
  rw [isCommand, rawLength_eq received, Bool.and_eq_false_iff, Bool.and_eq_false_iff,
    decide_eq_false_iff_not, decide_eq_false_iff_not, decide_eq_false_iff_not, Nat.not_le,
    Nat.not_le, command, or_assoc]
  rfl

/-- A COMMAND that declares a parameter has one. -/
theorem length_of_declared {r : Received} (received : ofBytes? data = some r)
    (whole : r.isCommand = true) (long : ¬r.declared.toNat < 16) : 16 ≤ data.length := by
  simp only [isCommand, rawLength_eq received, Bool.and_eq_true, decide_eq_true_eq] at whole
  omega

/-- The first parameter is the word behind the header, where the declared length covers it. -/
theorem param0?_eq {r : Received} (received : ofBytes? data = some r) (whole : r.isCommand = true) :
    r.param0? = if r.declared.toNat < 16 then none else some (word32At data 12) := by
  have small : r.declared < 16 ↔ r.declared.toNat < 16 := UInt32.lt_iff_toNat_lt
  simp only [param0?, small]
  split
  · rfl
  · next long =>
    have enough := length_of_declared received whole long
    rw [ofBytes?_eq] at received
    split at received
    · cases received
      have word : 1 ≤ (data.drop Header.standardLength).length / 4 := by
        rw [List.length_drop, Header.standardLength]
        omega
      obtain ⟨n, count⟩ := Nat.exists_eq_add_of_le' word
      rw [Bytes.words32_eq, count, List.range_succ_eq_map]
      simp [word32At, Header.standardLength]
    · cases received

end Received

/-! ## Reading by slices -/

/-- OpenSession, with its parameter read as a slice of the transfer. -/
def openSessionSlices (data : Bytes) (r : Received) (s : Standard) :
    Except Bytes.OutOfRange (Reaction Standard) :=
  if s.session.isOpen then return (s, respond ResponseCode.sessionAlreadyOpen r.tid)
  else if r.declared.toNat < 16 then return (s, respond ResponseCode.invalidParameter r.tid)
  else do
    let word ← slice data 12 16
    let id := UInt32.ofNat (Bytes.littleValue word)
    if id = 0 then return (s, respond ResponseCode.invalidParameter r.tid)
    else return ({ s with session := { s.session with id := some id } },
      respond ResponseCode.ok r.tid)

/-- What a transfer leads to, with all that is read of it read as a slice. -/
def outCompletedSlices (data : Bytes) (s : Standard) :
    Except Bytes.OutOfRange (Reaction Standard) :=
  if data.length < Header.standardLength then return (s, [.armOut])
  else do
    let r ← Received.ofSlices data
    let report : List Action := [.report (.container .toDevice r.summary data.length)]
    let dropped := s.transaction.superseded.map Action.request
    let answered ←
      if ¬r.isCommand then pure (s, respond ResponseCode.generalError r.tid)
      else if r.code = Operation.openSession then do
        let opened ← openSessionSlices data r { s with transaction := .idle }
        pure (opened.1, dropped ++ opened.2)
      else pure (s.onCommand r)
    return (answered.1, report ++ answered.2 ++ [.armOut])

variable {data : Bytes} {r : Received}

theorem openSessionSlices_eq (received : Received.ofBytes? data = some r)
    (whole : r.isCommand = true) (s : Standard) :
    openSessionSlices data r s = .ok (s.openSession r) := by
  rw [openSessionSlices, openSession, Received.param0?_eq received whole]
  split
  · rfl
  · split
    · rfl
    · next long =>
      have enough := Received.length_of_declared received whole long
      have word : slice data 12 (12 + 4) = .ok ((data.drop 12).take 4) :=
        Bytes.slice_inside (by omega)
      rw [word]
      show (if word32At data 12 = 0 then _ else _) = _
      by_cases zero : word32At data 12 = 0 <;> simp [zero] <;> rfl

/-- No slice lies outside the transfer, and with the slices the camera does what it does. -/
theorem outCompletedSlices_eq (data : Bytes) (s : Standard) :
    outCompletedSlices data s = .ok (s.outCompleted data) := by
  rw [outCompletedSlices, outCompleted]
  by_cases long : Header.standardLength ≤ data.length
  · obtain ⟨r, received⟩ : ∃ r, Received.ofBytes? data = some r := by
      rw [Received.ofBytes?_eq, if_pos long]
      exact ⟨_, rfl⟩
    have slices : Received.ofSlices data = .ok r := by
      rw [Received.ofSlices_eq long]
      rw [Received.ofBytes?_eq, if_pos long] at received
      exact congrArg Except.ok (Option.some.inj received)
    rw [if_neg (Nat.not_lt.2 long), slices, received]
    dsimp only
    by_cases whole : r.isCommand = true
    · by_cases opens : r.code = Operation.openSession
      · have other : r.code ≠ Operation.getDeviceInfo := by
          rw [opens]
          decide
        have opened := openSessionSlices_eq received whole { s with transaction := .idle }
        simp only [bind, Except.bind, if_neg (not_not.2 whole), if_pos opens, opened, onReceived,
          if_pos whole, onCommand, if_neg other, Reaction.andThen, Reaction.followedBy,
          Received.rawLength_eq received]
        rfl
      · simp only [bind, Except.bind, if_neg (not_not.2 whole), if_neg opens, onReceived,
          if_pos whole, Reaction.andThen, Reaction.followedBy, Received.rawLength_eq received]
        rfl
    · simp only [bind, Except.bind, if_pos whole, onReceived, if_neg whole, Reaction.andThen,
        Reaction.followedBy, Received.rawLength_eq received]
      rfl
  · rw [if_pos (Nat.lt_of_not_le long), Received.ofBytes?_eq, if_neg long]
    rfl

end PictureTransfer.Standard
