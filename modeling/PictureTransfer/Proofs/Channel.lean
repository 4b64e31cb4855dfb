import PictureTransfer.Channel
import Mathlib.Data.List.Basic

/-!
# Reading what was written

A read of as many bytes as were put in front of a source takes these and leaves the source
(`Source.take_behind`), and a read that takes some bytes found them in front of what it leaves
(`Source.behind_of_take`). A read of more bytes than there are meets the end (`Source.take_short`).
-/

namespace PictureTransfer

/-- Some bytes, then what is still to be read. -/
def Source.behind (bytes : Bytes) (s : Source) : Source :=
  { s with arrivals := bytes.map .byte ++ s.arrivals }

namespace Source

@[simp] theorem behind_append (first later : Bytes) (s : Source) :
    s.behind (first ++ later) = (s.behind later).behind first := by
  simp [behind]

theorem ofBytes_append (front rest : Bytes) (ending : Fault) :
    ofBytes (front ++ rest) ending = (ofBytes rest ending).behind front := by
  simp [ofBytes, behind]

theorem ofBytes_eq_behind (bytes : Bytes) (ending : Fault) :
    ofBytes bytes ending = (ofBytes [] ending).behind bytes := by
  rw [← ofBytes_append, List.append_nil]

/-- Bytes in front of a source that are in front of some bytes leave the others. -/
theorem bytes_of_behind {bytes front : Bytes} {ending : Fault} {t : Source}
    (h : ofBytes bytes ending = t.behind front) :
    ∃ rest, bytes = front ++ rest ∧ t = ofBytes rest ending := by
  obtain ⟨arrivals, end_⟩ := t
  have same : Source.mk (bytes.map .byte) ending = ⟨front.map .byte ++ arrivals, end_⟩ := h
  obtain ⟨all, rfl⟩ := Source.mk.inj same
  obtain ⟨first, rest, rfl, here, rfl⟩ := List.map_eq_append_iff.1 all
  obtain rfl := List.map_injective_iff.2 (fun a b same => Arrival.byte.inj same) here
  exact ⟨rest, rfl, rfl⟩

/-- A read of as many bytes as were put in front takes these. -/
theorem take_behind (bytes : Bytes) (s : Source) :
    take bytes.length (s.behind bytes) = .ok bytes s := by
  induction bytes with
  | nil => rfl
  | cons b rest ih =>
    rw [behind] at ih
    simp only [List.length_cons, take, behind, List.map_cons, List.cons_append, ih]

/-- A read that asks for more bytes than there are meets the end. -/
theorem take_short {bytes : Bytes} {n : Nat} (short : bytes.length < n) (ending : Fault) :
    take n (ofBytes bytes ending) = .error ending (ofBytes [] ending) := by
  induction bytes generalizing n with
  | nil =>
    obtain ⟨m, rfl⟩ := Nat.exists_eq_succ_of_ne_zero (Nat.ne_zero_of_lt short)
    rfl
  | cons b rest ih =>
    obtain ⟨m, rfl⟩ := Nat.exists_eq_succ_of_ne_zero (Nat.ne_zero_of_lt short)
    have later : take m ⟨rest.map .byte, ending⟩ = .error ending (ofBytes [] ending) :=
      ih (Nat.lt_of_succ_lt_succ short)
    simp only [ofBytes, List.map_cons, take, later]

/-- What a read takes was in front of what it leaves. -/
theorem behind_of_take {n : Nat} {s t : Source} {bytes : Bytes} (h : take n s = .ok bytes t) :
    bytes.length = n ∧ s = t.behind bytes := by
  obtain ⟨count, front, same⟩ := take_ok h
  obtain ⟨arrivals, ending⟩ := s
  cases front
  cases same
  exact ⟨count, rfl⟩

end Source

/-- What is cut off in front ends inside the first part, or is the first part with what is cut off
of the second. -/
theorem cut_of_append {α : Type} {front first second : List α} (cut : front <+: first ++ second) :
    front <+: first ∧ front.length < first.length ∨
      ∃ behind, front = first ++ behind ∧ behind <+: second := by
  rcases List.prefix_or_prefix_of_prefix cut (List.prefix_append first second) with inside | whole
  · rcases Nat.lt_or_ge front.length first.length with short | long
    · exact .inl ⟨inside, short⟩
    · obtain rfl := inside.eq_of_length_le long
      exact .inr ⟨[], (List.append_nil _).symm, List.nil_prefix⟩
  · obtain ⟨behind, rfl⟩ := whole
    exact .inr ⟨behind, rfl, (List.prefix_append_right_inj _).1 cut⟩

end PictureTransfer
