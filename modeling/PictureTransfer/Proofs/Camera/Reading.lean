import PictureTransfer.Camera.Port

/-!
# Reading containers from a camera's pipes

A container says in its first four bytes where it ends, so that bytes fall apart into containers in
one way (`prefix_of_flatten`). `Uses` accounts for what is read from a pipe whatever it brings
later: a read that succeeds uses up the bytes it gives, and one that fails the bytes it found
(`uses_take`). A container that is received says where it ends, and its bytes are what was read
(`Pipes.uses_receive`).
-/

namespace PictureTransfer.Camera

/-! ## Containers that say where they end -/

/-- A container whose first four bytes hold its length. -/
def Delimited (container : Bytes) : Prop :=
  Header.standardLength ≤ container.length ∧
    (Pipes.declaredLength container).toNat = container.length

/-- Four bytes hold the length, whatever follows. -/
theorem Pipes.declaredLength_append {front : Bytes} (four : 4 ≤ front.length) (rest : Bytes) :
    declaredLength (front ++ rest) = declaredLength front := by
  rw [declaredLength, declaredLength, List.take_append_of_le_length four]

/-- A container in standard layout declares its own length, unless it is far too long. -/
theorem delimited_standardContainer (h : Header) {body : Bytes}
    (short : (standardContainer h body).length ≤ maxContainer) :
    Delimited (standardContainer h body) := by
  have size := length_standardContainer h body
  have small : Header.standardLength + body.length < 0x100000000 := by
    have most : maxContainer < 0x100000000 := by decide
    simp only [Header.standardLength]
    omega
  have four : 4 ≤ (h.encode .standard
      (UInt32.ofNat (Header.standardLength + body.length))).length := by
    rw [Header.length_encode]
    decide
  have front : (standardContainer h body).take 4
      = Bytes.ofWord32 (UInt32.ofNat (Header.standardLength + body.length)) := by
    rw [standardContainer, List.take_append_of_le_length four]
    exact List.take_left' (Bytes.length_ofWord32 _)
  have whole : (Header.standardLength + body.length) % Bytes.capacity 4 = 12 + body.length :=
    Nat.mod_eq_of_lt small
  refine ⟨?_, ?_⟩
  · rw [size]
    exact Nat.le_add_right _ _
  · rw [Pipes.declaredLength, front, Bytes.ofWord32, Bytes.littleValue_little,
      UInt32.toNat_ofNat_of_lt' small, size, whole]
    exact UInt32.toNat_ofNat_of_lt' small

/-- Two containers in front of the same bytes are one. -/
theorem Delimited.eq_of_prefix {c d bytes : Bytes} (first : Delimited c) (second : Delimited d)
    (here : c <+: bytes) (there : d <+: bytes) : c = d := by
  obtain ⟨long, length⟩ := first
  obtain ⟨long', length'⟩ := second
  have four : 4 ≤ c.length := Nat.le_trans (by decide) long
  have four' : 4 ≤ d.length := Nat.le_trans (by decide) long'
  -- the bytes begin with the length of either
  have size : c.length = d.length := by
    obtain ⟨rest, rfl⟩ := here
    obtain ⟨rest', same⟩ := there
    have declared := congrArg Pipes.declaredLength same
    rw [Pipes.declaredLength_append four, Pipes.declaredLength_append four'] at declared
    rw [← length, ← length', declared]
  rcases List.prefix_or_prefix_of_prefix here there with shorter | shorter
  · exact shorter.eq_of_length size
  · exact (shorter.eq_of_length size.symm).symm

/-- Bytes fall apart into containers in one way. -/
theorem prefix_of_flatten {taken all : List Bytes} (first : ∀ c ∈ taken, Delimited c)
    (second : ∀ c ∈ all, Delimited c) (bytes : taken.flatten <+: all.flatten) : taken <+: all := by
  induction taken generalizing all with
  | nil => exact List.nil_prefix
  | cons c rest ih =>
    obtain ⟨here, later⟩ := List.forall_mem_cons.1 first
    rw [List.flatten_cons] at bytes
    have front : c <+: all.flatten := (List.prefix_append _ _).trans bytes
    cases all with
    | nil =>
      have long := here.1
      rw [List.prefix_nil.1 front] at long
      cases long
    | cons d others =>
      obtain ⟨there, behind⟩ := List.forall_mem_cons.1 second
      obtain rfl := here.eq_of_prefix there front (List.prefix_append _ _)
      rw [List.flatten_cons, List.prefix_append_right_inj] at bytes
      exact (List.prefix_cons_inj _).2 (ih later behind bytes)

/-! ## What is read -/

/-- Some bytes are read of what waits, and the rest is left, whatever comes later. -/
def Uses (used : Bytes) (waiting left : List Incoming) : Prop :=
  ∀ more, Incoming.waiting (waiting ++ more) = used ++ Incoming.waiting (left ++ more)

namespace Uses

theorem refl (waiting : List Incoming) : Uses [] waiting waiting := fun _ => rfl

theorem trans {first second : Bytes} {waiting between left : List Incoming}
    (h : Uses first waiting between) (k : Uses second between left) :
    Uses (first ++ second) waiting left := by
  intro more
  rw [h more, k more, List.append_assoc]

/-- What comes later is left. -/
theorem append {used : Bytes} {waiting left : List Incoming} (h : Uses used waiting left)
    (more : List Incoming) : Uses used (waiting ++ more) (left ++ more) := by
  intro later
  rw [List.append_assoc, List.append_assoc]
  exact h (more ++ later)

theorem waiting_eq {used : Bytes} {waiting left : List Incoming} (h : Uses used waiting left) :
    Incoming.waiting waiting = used ++ Incoming.waiting left := by
  have now := h []
  rw [List.append_nil, List.append_nil] at now
  exact now

end Uses

/-- A read uses up the bytes that it gives, or those that it found before it failed. -/
theorem uses_take {n : Nat} {items left : List Incoming} {outcome : Except ReadFault Bytes}
    (h : Incoming.take n items = (outcome, left)) :
    ∃ used, Uses used items left ∧ ∀ bytes, outcome = .ok bytes → bytes = used := by
  fun_induction Incoming.take n items generalizing outcome left with
  | case1 items =>
    cases h
    exact ⟨[], .refl _, fun bytes same => (Except.ok.inj same).symm⟩
  | case2 =>
    cases h
    exact ⟨[], .refl _, fun bytes same => by cases same⟩
  | case3 =>
    cases h
    exact ⟨[], .refl _, fun bytes same => by cases same⟩
  | case4 n first rest enough =>
    cases h
    refine ⟨first.take (n + 1), ?_, fun bytes same => (Except.ok.inj same).symm⟩
    intro more
    rw [List.cons_append, List.cons_append, Incoming.waiting, Incoming.waiting,
      ← List.append_assoc, List.take_append_drop]
  | case5 n first rest short more after step ih =>
    cases h
    obtain ⟨used, uses, same⟩ := ih step
    obtain rfl := same more rfl
    refine ⟨first ++ more, ?_, fun bytes same => (Except.ok.inj same).symm⟩
    intro later
    rw [List.cons_append, Incoming.waiting, uses later, List.append_assoc]
  | case6 n first rest short fault after step ih =>
    cases h
    obtain ⟨used, uses, -⟩ := ih step
    refine ⟨first ++ used, ?_, fun bytes same => by cases same⟩
    intro later
    rw [List.cons_append, Incoming.waiting, uses later, List.append_assoc]

/-- A read of no more than what waits succeeds. -/
theorem take_of_enough {n : Nat} {items : List Incoming}
    (enough : n ≤ (Incoming.waiting items).length) :
    ∃ bytes left, Incoming.take n items = (.ok bytes, left) := by
  fun_induction Incoming.take n items with
  | case1 items => exact ⟨[], items, rfl⟩
  | case2 => cases enough
  | case3 => cases enough
  | case4 n first rest inside => exact ⟨_, _, rfl⟩
  | case5 n first rest short more after step ih => exact ⟨_, _, rfl⟩
  | case6 n first rest short fault after step ih =>
    rw [Incoming.waiting, List.length_append] at enough
    obtain ⟨bytes, left, found⟩ := ih (by omega)
    rw [step] at found
    cases found

namespace Pipes

variable {timeout n : Nat} {p q : Pipes}

/-- What is sent brings what the script says, and nothing comes where sending fails. -/
theorem incoming_of_send {container : Bytes} (h : p.send container = .ok () q) :
    q.incoming = p.incoming ++ (p.script p.flushes).toOption.getD [] := by
  rw [Pipes.send, Pipes.flush] at h
  cases script : p.script p.flushes with
  | error text =>
    rw [script] at h
    cases h
  | ok items =>
    rw [script] at h
    cases h
    rfl

theorem incoming_of_send_error {container : Bytes} {e : Error}
    (h : p.send container = .error e q) : q.incoming = p.incoming := by
  rw [Pipes.send, Pipes.flush] at h
  cases script : p.script p.flushes with
  | error text =>
    rw [script] at h
    cases h
    rfl
  | ok items =>
    rw [script] at h
    cases h

theorem readWithin_of_enough (timeout : Nat) (enough : n ≤ (Incoming.waiting p.incoming).length) :
    ∃ bytes q, readWithin timeout n p = .ok bytes q := by
  obtain ⟨bytes, left, found⟩ := take_of_enough enough
  refine ⟨bytes, { p with incoming := left }, ?_⟩
  rw [readWithin, read, found]

theorem uses_readWithin {bytes : Bytes} (h : readWithin timeout n p = .ok bytes q) :
    Uses bytes p.incoming q.incoming := by
  rw [readWithin, read] at h
  cases step : Incoming.take n p.incoming with
  | mk outcome left =>
    obtain ⟨used, uses, same⟩ := uses_take step
    rw [step] at h
    cases outcome with
    | ok found =>
      cases h
      rw [same bytes rfl]
      exact uses
    | error fault => cases fault <;> cases h

theorem uses_readWithin_error {e : Error} (h : readWithin timeout n p = .error e q) :
    ∃ used, Uses used p.incoming q.incoming := by
  rw [readWithin, read] at h
  cases step : Incoming.take n p.incoming with
  | mk outcome left =>
    obtain ⟨used, uses, -⟩ := uses_take step
    rw [step] at h
    cases outcome with
    | ok found => cases h
    | error fault => cases fault <;> cases h <;> exact ⟨used, uses⟩

/-- A container that is received ends where it says, and its bytes are what was read. -/
theorem uses_receive {container : Bytes} (h : receive timeout p = .ok container q) :
    Delimited container ∧ Uses container p.incoming q.incoming := by
  rw [receive] at h
  split at h
  · cases h
  · next front r first =>
    have twelve := (pending_of_readWithin first).2
    have opening : Uses front (p.waitAtMost timeout).incoming r.incoming := uses_readWithin first
    dsimp only at h
    split at h
    · cases h
    · next inside =>
      split at h
      · cases h
      · next rest s second =>
        cases h
        have more := (pending_of_readWithin second).2
        have four : 4 ≤ front.length := by
          rw [twelve]
          decide
        have declared : declaredLength (front ++ rest) = declaredLength front :=
          declaredLength_append four rest
        refine ⟨⟨?_, ?_⟩, opening.trans (uses_readWithin second)⟩
        · rw [List.length_append]
          omega
        · rw [declared, List.length_append]
          omega

/-- A container that waits whole is received. -/
theorem receive_of_front {c rest : Bytes} (delimited : Delimited c)
    (short : c.length ≤ maxContainer) (front : Incoming.waiting p.incoming = c ++ rest)
    (timeout : Nat) :
    ∃ q, receive timeout p = .ok c q ∧ Incoming.waiting q.incoming = rest := by
  have count := congrArg List.length front
  rw [List.length_append] at count
  obtain ⟨long, length⟩ := id delimited
  have header : Header.standardLength ≤ (Incoming.waiting p.incoming).length := by omega
  obtain ⟨opening, r, first⟩ := readWithin_of_enough (p := p.waitAtMost timeout) timeout header
  have twelve := (pending_of_readWithin first).2
  have opened : Incoming.waiting p.incoming = opening ++ Incoming.waiting r.incoming :=
    (uses_readWithin first).waiting_eq
  -- the header is read, and with it the length of the container
  have declared : declaredLength opening = declaredLength c := by
    have four : 4 ≤ opening.length := by
      rw [twelve]
      decide
    have both := congrArg declaredLength (opened.symm.trans front)
    rw [declaredLength_append four, declaredLength_append (Nat.le_trans (by decide) long)] at both
    exact both
  have inside : ¬((declaredLength opening).toNat < Header.standardLength ∨
      maxContainer < (declaredLength opening).toNat) := by
    rw [declared]
    omega
  have others : (declaredLength opening).toNat - Header.standardLength
      ≤ (Incoming.waiting r.incoming).length := by
    have sizes := congrArg List.length opened
    rw [List.length_append] at sizes
    rw [declared]
    omega
  obtain ⟨more, q, second⟩ := readWithin_of_enough timeout others
  have received : receive timeout p = .ok (opening ++ more) q := by
    rw [receive, first]
    dsimp only
    rw [if_neg inside, second]
  -- what is received says where it ends, as the container in front does
  obtain ⟨whole, uses⟩ := uses_receive received
  have all := uses.waiting_eq
  have same : opening ++ more = c :=
    whole.eq_of_prefix delimited ⟨_, all.symm⟩ ⟨rest, front.symm⟩
  rw [same] at received all
  exact ⟨q, received, List.append_cancel_left (all.symm.trans front)⟩

theorem uses_receive_error {e : Error} (h : receive timeout p = .error e q) :
    ∃ used, Uses used p.incoming q.incoming := by
  rw [receive] at h
  split at h
  · next failed =>
    cases h
    have uses : ∃ used, Uses used (p.waitAtMost timeout).incoming q.incoming :=
      uses_readWithin_error failed
    exact uses
  · next front r first =>
    have opening : Uses front (p.waitAtMost timeout).incoming r.incoming := uses_readWithin first
    dsimp only at h
    split at h
    · cases h
      exact ⟨front, opening⟩
    · split at h
      · next failed =>
        cases h
        obtain ⟨used, uses⟩ := uses_readWithin_error failed
        exact ⟨front ++ used, opening.trans uses⟩
      · cases h

end Pipes

end PictureTransfer.Camera
