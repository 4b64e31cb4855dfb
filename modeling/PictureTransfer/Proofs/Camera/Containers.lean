import PictureTransfer.Proofs.Camera.Reading
import PictureTransfer.Proofs.Container.Standard

/-!
# Containers come out as they were put in

How a camera cuts its bytes into transfers has nothing to do with where its containers end: these
say so themselves. However the bytes are cut, with empty transfers in between, the containers in
them are received one by one (`Pipes.mapM_receive`), and a RESPONSE that is waited for is the first
one there (`Port.receiveResponse_of_front`). A length that no container can have is refused, and the
header that it stands in is used up (`Pipes.receive_of_badLength`).
-/

namespace PictureTransfer.Camera

/-- Transfers bring their bytes, whatever their sizes, and then comes what is behind them. -/
theorem Incoming.waiting_transfers (transfers : List Bytes) (later : List Incoming) :
    waiting (transfers.map .transfer ++ later) = transfers.flatten ++ waiting later := by
  induction transfers with
  | nil => rfl
  | cons first rest ih =>
    rw [List.map_cons, List.cons_append, waiting, ih, List.flatten_cons, List.append_assoc]

/-- A use that goes on with what a first one gives. -/
theorem Use.bind_of_ok {P α β : Type} {use : Use P α} {next : α → Use P β} {p q : P} {a : α}
    (first : use p = .ok a q) : (use >>= next) p = next a q := by
  show EStateM.bind use next p = next a q
  rw [EStateM.bind, first]

namespace Pipes

variable {p : Pipes}

/-- Containers that wait whole are received one after another, each within a time of its own. -/
theorem mapM_receive {containers : List Bytes} {rest : Bytes}
    (whole : ∀ c ∈ containers, Delimited c ∧ c.length ≤ maxContainer)
    (front : Incoming.waiting p.incoming = containers.flatten ++ rest) {timeouts : List Nat}
    (each : timeouts.length = containers.length) :
    ∃ q, timeouts.mapM receive p = .ok containers q ∧ Incoming.waiting q.incoming = rest := by
  induction containers generalizing p timeouts with
  | nil =>
    obtain rfl := List.length_eq_zero_iff.1 each
    exact ⟨p, rfl, front⟩
  | cons c others ih =>
    obtain ⟨timeout, later, rfl⟩ := List.exists_cons_of_length_eq_add_one each
    obtain ⟨⟨delimited, short⟩, behind⟩ := List.forall_mem_cons.1 whole
    rw [List.flatten_cons, List.append_assoc] at front
    obtain ⟨q, received, left⟩ := receive_of_front delimited short front timeout
    obtain ⟨u, more, last⟩ := ih behind left (Nat.succ.inj each)
    refine ⟨u, ?_, last⟩
    rw [List.mapM_cons, Use.bind_of_ok received, Use.bind_of_ok more]
    rfl

/-- Bytes that wait are read, and no more than those. -/
theorem readWithin_of_front {n : Nat} {front rest : Bytes} (size : front.length = n)
    (here : Incoming.waiting p.incoming = front ++ rest) (timeout : Nat) :
    ∃ q, readWithin timeout n p = .ok front q ∧ Incoming.waiting q.incoming = rest := by
  have enough : n ≤ (Incoming.waiting p.incoming).length := by
    rw [here, List.length_append, size]
    exact Nat.le_add_right _ _
  obtain ⟨bytes, q, read⟩ := readWithin_of_enough timeout enough
  have both : bytes ++ Incoming.waiting q.incoming = front ++ rest :=
    (uses_readWithin read).waiting_eq.symm.trans here
  obtain ⟨rfl, left⟩ :=
    List.append_inj both ((pending_of_readWithin read).2.trans size.symm)
  exact ⟨q, read, left⟩

/-- A length that no container can have is refused, and just the header is gone. -/
theorem receive_of_badLength {front rest : Bytes} (size : front.length = Header.standardLength)
    (here : Incoming.waiting p.incoming = front ++ rest)
    (bad : (declaredLength front).toNat < Header.standardLength ∨
      maxContainer < (declaredLength front).toNat) (timeout : Nat) :
    ∃ q, receive timeout p = .error (.badLength (declaredLength front)) q ∧
      Incoming.waiting q.incoming = rest := by
  obtain ⟨q, read, left⟩ := readWithin_of_front (p := p.waitAtMost timeout) size here timeout
  refine ⟨q, ?_, left⟩
  rw [receive, read]
  dsimp only
  rw [if_pos bad]

/-- No container is received of less than a header. -/
theorem receive_ne_ok {rest : Bytes} (here : Incoming.waiting p.incoming = rest)
    (short : rest.length < Header.standardLength) (timeout : Nat) (c : Bytes) (q : Pipes) :
    receive timeout p ≠ .ok c q := by
  intro received
  obtain ⟨count, long⟩ := pending_of_receive received
  rw [pending, pending, here] at count
  omega

end Pipes

namespace Port

variable {P : Type} [Port P] {timeout : Nat} {p q : P} {container : Bytes} {total : UInt32}
  {header : Header}

theorem receiveResponse_of_response (received : receive timeout p = .ok container q)
    (valid : Header.decodeStandard container = .ok (total, header))
    (response : header.kind = .response) : receiveResponse timeout p = .ok header q := by
  rw [receiveResponse]
  split
  · next e r failed => cases received.symm.trans failed
  · next c r brought =>
    cases received.symm.trans brought
    rw [valid]
    exact if_pos response

theorem receiveResponse_of_other (received : receive timeout p = .ok container q)
    (valid : Header.decodeStandard container = .ok (total, header))
    (other : header.kind ≠ .response) : receiveResponse timeout p = receiveResponse timeout q := by
  rw [receiveResponse]
  split
  · next e r failed => cases received.symm.trans failed
  · next c r brought =>
    cases received.symm.trans brought
    rw [valid]
    exact if_neg other

/-- Other containers are passed over up to the first RESPONSE, and what is behind it stays. -/
theorem receiveResponse_of_front {p : Pipes} {before : List Bytes} {response rest : Bytes}
    (whole : ∀ c ∈ before, Delimited c ∧ c.length ≤ maxContainer)
    (others : ∀ c ∈ before, ∃ total h,
      Header.decodeStandard c = .ok (total, h) ∧ h.kind ≠ .response)
    (delimited : Delimited response) (short : response.length ≤ maxContainer)
    (valid : Header.decodeStandard response = .ok (total, header))
    (kind : header.kind = .response)
    (front : Incoming.waiting p.incoming = before.flatten ++ response ++ rest) (timeout : Nat) :
    ∃ q, receiveResponse timeout p = .ok header q ∧ Incoming.waiting q.incoming = rest := by
  induction before generalizing p with
  | nil =>
    obtain ⟨q, received, left⟩ := Pipes.receive_of_front delimited short front timeout
    exact ⟨q, receiveResponse_of_response received valid kind, left⟩
  | cons c more ih =>
    obtain ⟨⟨cut, fits⟩, behind⟩ := List.forall_mem_cons.1 whole
    obtain ⟨⟨length, h, decoded, other⟩, later⟩ := List.forall_mem_cons.1 others
    rw [List.flatten_cons, List.append_assoc, List.append_assoc] at front
    obtain ⟨q, received, left⟩ := Pipes.receive_of_front cut fits front timeout
    obtain ⟨u, answered, last⟩ := ih behind later (by rw [left, List.append_assoc])
    refine ⟨u, ?_, last⟩
    rw [receiveResponse_of_other received decoded other, answered]

end Port

/-! ## However the bytes are cut -/

/-- A container that declares its own length opens with the header that is read in it. -/
theorem Delimited.take_eq_encode {c : Bytes} (delimited : Delimited c) {total : UInt32}
    {header : Header} (valid : Header.decodeStandard c = .ok (total, header)) :
    c.take Header.standardLength = header.encode .standard (UInt32.ofNat c.length) := by
  have whole := Header.eq_encode_of_decodeStandard valid
  have size : (header.encode .standard total).length = Header.standardLength :=
    Header.length_encode _ _ _
  have declared : Pipes.declaredLength c = total := by
    have four : 4 ≤ (header.encode .standard total).length := by
      rw [size]
      decide
    rw [whole, Pipes.declaredLength_append four, Header.encode, Pipes.declaredLength,
      List.take_left' (Bytes.length_ofWord32 total), Bytes.ofWord32, Bytes.littleValue_little]
    exact (congrArg UInt32.ofNat (Nat.mod_eq_of_lt total.toNat_lt)).trans UInt32.ofNat_toNat
  rw [← delimited.2, UInt32.ofNat_toNat, declared, ← List.take_left' size, ← whole]

/-- Containers whose lengths stand in their first four bytes, from a header up to the longest that
is taken, are received as they are, one by one and no more than these, however a camera cuts their
bytes into transfers and whatever it brings behind them. Bytes behind them that open with a length
out of that range are refused with this length, and twelve of them are gone. Waiting for a RESPONSE
gives the header of the first one, if the containers before it have headers that are valid, and uses
up nothing behind it. -/
theorem receives_as_cut {containers transfers : List Bytes} {rest : Bytes} {later : List Incoming}
    {p : Pipes} (whole : ∀ c ∈ containers, Delimited c ∧ c.length ≤ maxContainer)
    (cut : transfers.flatten = containers.flatten ++ rest)
    (here : p.incoming = transfers.map .transfer ++ later) :
    (∀ timeouts : List Nat, timeouts.length = containers.length →
      ∃ q, timeouts.mapM Pipes.receive p = .ok containers q ∧
        Incoming.waiting q.incoming = rest ++ Incoming.waiting later ∧
        (rest = [] → Incoming.waiting later = [] →
          ∀ timeout c u, Pipes.receive timeout q ≠ .ok c u) ∧
        ∀ front more, rest = front ++ more → front.length = 12 →
          ((Pipes.declaredLength front).toNat < 12 ∨
            16777216 < (Pipes.declaredLength front).toNat) →
          ∀ timeout, ∃ u,
            Pipes.receive timeout q = .error (.badLength (Pipes.declaredLength front)) u ∧
            Incoming.waiting u.incoming = more ++ Incoming.waiting later) ∧
    ∀ before response after, containers = before ++ response :: after →
      (∀ c ∈ before, ∃ total h, Header.decodeStandard c = .ok (total, h) ∧ h.kind ≠ .response) →
      ∀ total header, Header.decodeStandard response = .ok (total, header) →
        header.kind = .response →
        response.take 12 = header.encode .standard (UInt32.ofNat response.length) ∧
        ∀ timeout, ∃ q, Port.receiveResponse timeout p = .ok header q ∧
          Incoming.waiting q.incoming = after.flatten ++ (rest ++ Incoming.waiting later) := by
  have front : Incoming.waiting p.incoming
      = containers.flatten ++ (rest ++ Incoming.waiting later) := by
    rw [here, Incoming.waiting_transfers, cut, List.append_assoc]
  constructor
  · intro timeouts each
    obtain ⟨q, received, left⟩ := Pipes.mapM_receive whole front each
    refine ⟨q, received, left, ?_, ?_⟩
    · rintro rfl nothing
      exact Pipes.receive_ne_ok left (by rw [nothing]; decide)
    · rintro opening more rfl size bad timeout
      rw [List.append_assoc] at left
      exact Pipes.receive_of_badLength size left bad timeout
  · rintro before response after rfl others total header valid kind
    obtain ⟨earlier, others_whole⟩ := List.forall_mem_append.1 whole
    obtain ⟨⟨delimited, short⟩, -⟩ := List.forall_mem_cons.1 others_whole
    refine ⟨delimited.take_eq_encode valid, fun timeout => ?_⟩
    refine Port.receiveResponse_of_front earlier others delimited short valid kind ?_ timeout
    rw [front, List.flatten_append, List.flatten_cons]
    simp only [List.append_assoc]

/-- DATA, its RESPONSE and the beginning of a container that is said to have eleven bytes. -/
def fragments : List Bytes :=
  [[15, 0, 0, 0, 2, 0, 1], [], [0x10, 7, 0, 0, 0, 0xA1], [0xA2, 0xA3, 12, 0],
   [0, 0, 3, 0, 1, 0x20, 7, 0, 0, 0, 11, 0, 0], [], [0, 4, 0, 0, 0, 0, 0, 0, 0]]

def pieced : Pipes where
  script := fun _ => .ok []
  incoming := fragments.map .transfer ++ [.failure "gone"]

/-- The two are received whole, the third is refused, and the RESPONSE is found behind the DATA. -/
theorem receives_pieced :
    (∃ q, [1000, 50].mapM Pipes.receive pieced
        = .ok [dataContainer 0x1001 7 [0xA1, 0xA2, 0xA3], responseContainer 0x2001 7] q ∧
      ∃ u, Pipes.receive 50 q = .error (.badLength 11) u ∧ Incoming.waiting u.incoming = []) ∧
    ∃ q, Port.receiveResponse 50 pieced = .ok ⟨.response, 0x2001, 7⟩ q ∧
      Incoming.waiting q.incoming = [11, 0, 0, 0, 4, 0, 0, 0, 0, 0, 0, 0] := by
  have whole : ∀ c ∈ [dataContainer 0x1001 7 [0xA1, 0xA2, 0xA3], responseContainer 0x2001 7],
      Delimited c ∧ c.length ≤ maxContainer := by
    refine List.forall_mem_cons.2 ⟨⟨⟨by decide, by decide⟩, by decide⟩, ?_⟩
    exact List.forall_mem_singleton.2 ⟨⟨by decide, by decide⟩, by decide⟩
  have cut : fragments.flatten
      = [dataContainer 0x1001 7 [0xA1, 0xA2, 0xA3], responseContainer 0x2001 7].flatten
        ++ [11, 0, 0, 0, 4, 0, 0, 0, 0, 0, 0, 0] := by decide
  have here : pieced.incoming = fragments.map .transfer ++ [.failure "gone"] := rfl
  obtain ⟨each, response⟩ := receives_as_cut whole cut here
  constructor
  · obtain ⟨q, both, -, -, refused⟩ := each [1000, 50] rfl
    exact ⟨q, both, refused [11, 0, 0, 0, 4, 0, 0, 0, 0, 0, 0, 0] [] rfl rfl (.inl (by decide)) 50⟩
  · have data : Header.decodeStandard (dataContainer 0x1001 7 [0xA1, 0xA2, 0xA3])
        = .ok (15, ⟨.data, 0x1001, 7⟩) := by decide
    obtain ⟨-, found⟩ := response [_] _ [] rfl
      (List.forall_mem_singleton.2 ⟨_, _, data, by decide⟩) 12 ⟨.response, 0x2001, 7⟩
      (by decide) rfl
    exact found 50

end PictureTransfer.Camera
