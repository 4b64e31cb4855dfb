import PictureTransfer.Proofs.DataStream

/-!
# Putting transfers together again

The host sees transfers and no boundaries between containers. It takes a transfer that is empty, or
that is no whole number of packets, as the end of one (`endsContainer`). `Reassembly` is such a
host. The transfers of one container make up that container and nothing else
(`take_containerTransfers`), so that the host finds all containers of any list
(`reassembles_containers`).
-/

namespace PictureTransfer

/-- Whether the host takes a transfer as the end of a container. -/
def endsContainer (transfer : Bytes) : Bool :=
  transfer.isEmpty || transfer.length % packetSize ≠ 0

/-- The containers a host has put together, and the transfers since the end of the last one. -/
structure Reassembly where
  containers : List Bytes := []
  pending : List Bytes := []
  deriving DecidableEq, Repr

namespace Reassembly

/-- A transfer goes to those before it, and may end their container. -/
def take (host : Reassembly) (transfer : Bytes) : Reassembly :=
  let pending := host.pending ++ [transfer]
  if endsContainer transfer then
    { containers := host.containers ++ [pending.flatten], pending := [] }
  else { host with pending }

/-- Transfers come in one after another. -/
def takeAll (host : Reassembly) (transfers : List Bytes) : Reassembly := transfers.foldl take host

theorem takeAll_append (host : Reassembly) (first later : List Bytes) :
    host.takeAll (first ++ later) = (host.takeAll first).takeAll later := List.foldl_append

theorem take_of_ends {host : Reassembly} {transfer : Bytes} (ends : endsContainer transfer = true) :
    host.take transfer =
      { containers := host.containers ++ [host.pending.flatten ++ transfer], pending := [] } := by
  rw [take, if_pos ends, List.flatten_concat]

theorem take_of_not_ends {host : Reassembly} {transfer : Bytes}
    (goesOn : endsContainer transfer = false) :
    host.take transfer = { host with pending := host.pending ++ [transfer] } := by
  rw [take, goesOn]
  rfl

/-- A piece that is not empty ends a container exactly when it is no whole number of packets. -/
theorem endsContainer_of_ne_nil {transfer : Bytes} (some_byte : transfer ≠ []) :
    endsContainer transfer = decide (transfer.length % packetSize ≠ 0) := by
  rw [endsContainer, List.isEmpty_eq_false_iff.2 some_byte, Bool.false_or]

/-- The pieces of a container end it, unless it is a whole number of packets. -/
theorem takeAll_pieces (host : Reassembly) (items : Bytes) :
    host.takeAll (Bytes.pieces transferSize items) =
      if items.length % packetSize = 0 then
        { host with pending := host.pending ++ Bytes.pieces transferSize items }
      else
        { containers := host.containers ++ [host.pending.flatten ++ items], pending := [] } := by
  fun_induction Bytes.pieces transferSize items generalizing host with
  | case1 => simp [takeAll]
  | case2 b rest ih =>
    have room : max transferSize 1 = transferSize := rfl
    rw [room] at ih ⊢
    have first_ne_nil : (b :: rest).take transferSize ≠ [] := by simp [transferSize]
    have ends := endsContainer_of_ne_nil first_ne_nil
    rw [takeAll, List.foldl_cons]
    by_cases full : transferSize ≤ (b :: rest).length
    · -- a full piece is a whole number of packets, and leaves the length unchanged up to packets
      have goesOn : endsContainer ((b :: rest).take transferSize) = false := by
        rw [ends, List.length_take_of_le full]
        rfl
      have later := ih (host.take ((b :: rest).take transferSize))
      have same : ((b :: rest).drop transferSize).length % packetSize
          = (b :: rest).length % packetSize := by
        rw [List.length_drop]
        simp only [transferSize, packetSize] at full ⊢
        omega
      rw [same, take_of_not_ends goesOn] at later
      rw [take_of_not_ends goesOn]
      refine later.trans ?_
      simp only [List.flatten_append, List.flatten_singleton, List.append_assoc,
        List.take_append_drop, List.singleton_append]
    · -- the last piece
      have short : (b :: rest).length ≤ transferSize := Nat.le_of_not_le full
      rw [List.take_of_length_le short, List.drop_eq_nil_of_le short, Bytes.pieces_nil] at *
      by_cases whole : (b :: rest).length % packetSize = 0
      · rw [if_pos whole, take_of_not_ends (by rw [ends, whole]; rfl)]
        rfl
      · rw [if_neg whole, take_of_ends (by rw [ends, decide_eq_true whole])]
        rfl

/-- The transfers of a container make it up, whatever came before. -/
theorem takeAll_containerTransfers (host : Reassembly) (container : Bytes) :
    host.takeAll (containerTransfers container) =
      { containers := host.containers ++ [host.pending.flatten ++ container], pending := [] } := by
  have closing : endsContainer [] = true := rfl
  by_cases empty : container = []
  · subst empty
    exact take_of_ends closing
  · rw [containerTransfers, if_neg (by simpa using empty)]
    by_cases whole : container.length % packetSize = 0
    · rw [if_pos whole, takeAll_append, takeAll_pieces, if_pos whole]
      refine (take_of_ends closing).trans ?_
      simp [Bytes.flatten_pieces]
    · rw [if_neg whole, takeAll_pieces, if_neg whole]

theorem takeAll_flatMap (found : List Bytes) (containers : List Bytes) :
    ({ containers := found } : Reassembly).takeAll (containers.flatMap containerTransfers)
      = { containers := found ++ containers } := by
  induction containers generalizing found with
  | nil => simp [takeAll]
  | cons container later ih =>
    rw [List.flatMap_cons, takeAll_append, takeAll_containerTransfers]
    refine (ih _).trans ?_
    simp

/-- The transfers of any containers are short enough for the bus, and a host that puts them
together finds those containers, with no transfer left over. -/
theorem reassembles_containers (containers : List Bytes) :
    (∀ transfer ∈ containers.flatMap containerTransfers, transfer.length ≤ 512) ∧
    ({} : Reassembly).takeAll (containers.flatMap containerTransfers)
      = { containers, pending := [] } := by
  constructor
  · intro transfer sent
    obtain ⟨container, -, own⟩ := List.mem_flatMap.1 sent
    exact length_le_of_mem_containerTransfers own
  · exact takeAll_flatMap [] containers

/-- An empty container between one of a whole packet and one of a single byte. -/
theorem reassembles_packet :
    let containers : List Bytes := [List.replicate 64 1, [], [7]]
    [7] ∈ containers.flatMap containerTransfers ∧ ([7] : Bytes).length ≤ 512 ∧
      ({} : Reassembly).takeAll (containers.flatMap containerTransfers)
        = { containers, pending := [] } := by
  have all := reassembles_containers [List.replicate 64 1, [], [7]]
  have own : [7] ∈ containerTransfers [7] := by
    rw [containerTransfers, if_neg (by decide), if_neg (by decide),
      Bytes.pieces_of_ne_nil (by decide) (by decide)]
    exact List.mem_cons_self
  have sent : [7] ∈ [List.replicate 64 1, [], [7]].flatMap containerTransfers :=
    List.mem_flatMap.2 ⟨[7], by simp, own⟩
  exact ⟨sent, all.1 _ sent, all.2⟩

end Reassembly

end PictureTransfer
