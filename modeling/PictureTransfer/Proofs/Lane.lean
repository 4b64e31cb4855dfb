import Mathlib.Data.List.Basic
import Mathlib.Data.List.Perm.Basic

/-!
# Queues that number what enters them

What enters a `Lane` gets the next number, and from then on it waits until it leaves at the front or
is dropped. A lane keeps all that has entered, left or been dropped, with the numbers. However
things pass through it, everything that entered has left, waits or was dropped, just once, and what
has left or waits is in the order of the numbers (`Lane.lawful_of`).
-/

namespace PictureTransfer

/-- What happens to a queue: something enters it behind all others, the first leaves it, all that
waits is dropped, or only the first that has a property. -/
inductive Passing (α : Type) where
  | entered (x : α)
  | left
  | dropped
  | droppedFirst (p : α → Bool)

/-- What waits after that. -/
def Passing.on {α : Type} : Passing α → List α → List α
  | .entered x, waiting => waiting ++ [x]
  | .left, waiting => waiting.tail
  | .dropped, _ => []
  | .droppedFirst p, waiting => waiting.eraseP p

/-- What enters. -/
def Passing.entered? {α : Type} : Passing α → Option α
  | .entered x => some x
  | _ => none

/-- Where something only enters, it waits behind what waited. -/
theorem Passing.foldl_on_of_entered {α : Type} {passings : List (Passing α)} {waiting : List α}
    (enter : ∀ e ∈ passings, ∃ x, e = .entered x) :
    passings.foldl (fun waiting e => e.on waiting) waiting
      = waiting ++ passings.filterMap entered? := by
  induction passings generalizing waiting with
  | nil => exact (List.append_nil _).symm
  | cons e rest ih =>
    obtain ⟨⟨x, rfl⟩, later⟩ := List.forall_mem_cons.1 enter
    rw [List.foldl_cons, ih later]
    exact List.append_assoc _ _ _

/-- What the first of some is taken out for makes a difference to those of a kind only if it is of
that kind. -/
theorem filter_eraseP {α : Type} (p kind : α → Bool) (l : List α) :
    (l.eraseP p).filter kind
      = if (l.find? p).any kind then (l.filter kind).eraseP p else l.filter kind := by
  induction l with
  | nil => rfl
  | cons x rest ih =>
    by_cases hit : p x = true
    · by_cases own : kind x = true
      · simp [hit, own]
      · simp [hit, own]
    · by_cases own : kind x = true
      · simp only [List.eraseP_cons_of_neg hit, List.filter_cons_of_pos own,
          List.find?_cons_of_neg hit, ih]
        split <;> rfl
      · simp only [List.eraseP_cons_of_neg hit, List.filter_cons_of_neg own,
          List.find?_cons_of_neg hit, ih]

/-- What is taken out of a list depends only on what is in it. -/
theorem eraseP_congr {α : Type} {p q : α → Bool} {l : List α} (same : ∀ x ∈ l, p x = q x) :
    l.eraseP p = l.eraseP q := by
  induction l with
  | nil => rfl
  | cons x rest ih =>
    obtain ⟨first, later⟩ := List.forall_mem_cons.1 same
    rw [List.eraseP_cons, List.eraseP_cons, first, ih later]

/-- Taking out the first of a kind takes it from the front of its kind, and from no other. -/
theorem filter_of_find? {α : Type} {p : α → Bool} {l : List α} {x : α}
    (found : l.find? p = some x) :
    l.filter p = x :: (l.eraseP p).filter p ∧
      ∀ kind : α → Bool, kind x = false → (l.eraseP p).filter kind = l.filter kind := by
  have own : p x = true := List.find?_some found
  constructor
  · have first : (l.filter p).head? = some x := List.head?_filter.trans found
    cases listed : l.filter p with
    | nil =>
      rw [listed] at first
      cases first
    | cons y rest =>
      rw [listed] at first
      obtain rfl := Option.some.inj first
      rw [filter_eraseP, found, Option.any_some, if_pos own, listed, List.eraseP_cons_of_pos own]
  · -- what is taken out is the one that was found, which is not of the other kind
    intro kind foreign
    rw [filter_eraseP, found, Option.any_some, foreign, if_neg Bool.false_ne_true]

/-- What is found first and what is left without it are all there was. -/
theorem perm_find?_eraseP (p : α → Bool) (l : List α) :
    ((l.find? p).toList ++ l.eraseP p).Perm l := by
  induction l with
  | nil => exact .nil
  | cons x rest ih =>
    by_cases hit : p x = true
    · simp [hit]
    · simp only [List.find?_cons_of_neg hit, List.eraseP_cons_of_neg hit]
      exact List.perm_middle.trans (ih.cons x)

/-- A queue that numbers what enters it, and what has become of it. -/
structure Lane (α : Type) where
  entered : List α := []
  waiting : List (α × Nat) := []
  left : List (α × Nat) := []
  dropped : List (α × Nat) := []

namespace Lane

variable {α : Type}

def pass (lane : Lane α) : Passing α → Lane α
  | .entered x => { lane with
      entered := lane.entered ++ [x]
      waiting := lane.waiting ++ [(x, lane.entered.length)] }
  | .left => { lane with
      waiting := lane.waiting.tail
      left := lane.left ++ lane.waiting.head?.toList }
  | .dropped => { lane with waiting := [], dropped := lane.waiting ++ lane.dropped }
  | .droppedFirst p => { lane with
      waiting := lane.waiting.eraseP fun w => p w.1
      dropped := (lane.waiting.find? fun w => p w.1).toList ++ lane.dropped }

/-- The lane through which all this has passed. -/
def of (passings : List (Passing α)) : Lane α := passings.foldl pass {}

theorem of_append (first later : List (Passing α)) :
    of (first ++ later) = later.foldl pass (of first) := List.foldl_append

/-- What waits does so without its number as in a plain queue. -/
theorem waiting_pass (lane : Lane α) (e : Passing α) :
    (lane.pass e).waiting.map Prod.fst = e.on (lane.waiting.map Prod.fst) := by
  cases e with
  | entered x => exact List.map_append
  | left => exact List.map_tail
  | dropped => rfl
  | droppedFirst p => exact List.eraseP_map.symm

theorem waiting_foldl_pass (lane : Lane α) (passings : List (Passing α)) :
    (passings.foldl pass lane).waiting.map Prod.fst
      = passings.foldl (fun waiting e => e.on waiting) (lane.waiting.map Prod.fst) := by
  induction passings generalizing lane with
  | nil => rfl
  | cons e rest ih => rw [List.foldl_cons, ih, waiting_pass, List.foldl_cons]

/-- The first leaves. -/
theorem left_pass_left (lane : Lane α) :
    (lane.pass .left).left.map Prod.fst
      = lane.left.map Prod.fst ++ (lane.waiting.head?.map Prod.fst).toList := by
  show (lane.left ++ lane.waiting.head?.toList).map Prod.fst = _
  rw [List.map_append]
  cases lane.waiting.head? <;> rfl

/-- Only what leaves at the front has left. -/
theorem left_pass {lane : Lane α} {e : Passing α} (stays : e ≠ .left) :
    (lane.pass e).left = lane.left := by
  cases e with
  | left => exact absurd rfl stays
  | _ => rfl

theorem left_foldl_pass {lane : Lane α} {passings : List (Passing α)}
    (stay : ∀ e ∈ passings, e ≠ .left) : (passings.foldl pass lane).left = lane.left := by
  induction passings generalizing lane with
  | nil => rfl
  | cons e rest ih =>
    obtain ⟨first, later⟩ := List.forall_mem_cons.1 stay
    rw [List.foldl_cons, ih later, left_pass first]

/-- Everything that entered has left, waits or was dropped, and just one of these, and once. What
has left did so in the order of the numbers, before all that waits, which is in that order too. -/
structure Lawful (lane : Lane α) : Prop where
  all : (lane.left ++ lane.waiting ++ lane.dropped).Perm lane.entered.zipIdx
  ordered : ((lane.left ++ lane.waiting).map Prod.snd).Pairwise (· < ·)

namespace Lawful

variable {lane : Lane α}

theorem fresh : Lawful ({} : Lane α) := ⟨.nil, .nil⟩

/-- No number has been given that is not less than the next. -/
theorem lt_of_mem (h : lane.Lawful) {n : Nat}
    (given : n ∈ (lane.left ++ lane.waiting).map Prod.snd) : n < lane.entered.length := by
  obtain ⟨w, listed, rfl⟩ := List.mem_map.1 given
  have numbered : w ∈ lane.entered.zipIdx := h.all.mem_iff.1 (List.mem_append_left _ listed)
  have bound := List.snd_lt_add_of_mem_zipIdx numbered
  rwa [Nat.zero_add] at bound

theorem entered (h : lane.Lawful) (x : α) : (lane.pass (.entered x)).Lawful where
  all := by
    -- the new one waits in front of all that was dropped, and its number is the last
    have last : ((lane.left ++ (lane.waiting ++ [(x, lane.entered.length)])) ++ lane.dropped).Perm
        ((lane.left ++ lane.waiting ++ lane.dropped) ++ [(x, lane.entered.length)]) := by
      rw [← List.append_assoc lane.left, List.append_assoc _ _ lane.dropped,
        List.append_assoc _ lane.dropped]
      exact List.perm_append_comm.append_left _
    show List.Perm _ (lane.entered ++ [x]).zipIdx
    rw [List.zipIdx_append]
    exact last.trans (by simpa using h.all.append_right [(x, lane.entered.length)])
  ordered := by
    show ((lane.left ++ (lane.waiting ++ [(x, lane.entered.length)])).map Prod.snd).Pairwise _
    rw [← List.append_assoc, List.map_append, List.pairwise_append]
    refine ⟨h.ordered, List.pairwise_singleton _ _, ?_⟩
    intro n given m new
    obtain rfl := List.mem_singleton.1 new
    exact h.lt_of_mem given

theorem left (h : lane.Lawful) : (lane.pass .left).Lawful := by
  -- the one that leaves stays where it is among those that have left or wait
  have same : lane.left ++ lane.waiting.head?.toList ++ lane.waiting.tail
      = lane.left ++ lane.waiting := by
    cases lane.waiting with
    | nil => exact List.append_nil _
    | cons w rest => exact List.append_assoc _ _ _
  constructor
  · show ((lane.left ++ lane.waiting.head?.toList ++ lane.waiting.tail) ++ lane.dropped).Perm _
    rw [same]
    exact h.all
  · show ((lane.left ++ lane.waiting.head?.toList ++ lane.waiting.tail).map Prod.snd).Pairwise _
    rw [same]
    exact h.ordered

/-- What waits is parted into what goes on waiting and what is dropped. -/
theorem parted (h : lane.Lawful) {kept out : List (α × Nat)} (sublist : kept.Sublist lane.waiting)
    (perm : (out ++ kept).Perm lane.waiting) :
    Lawful { lane with waiting := kept, dropped := out ++ lane.dropped } where
  all := by
    have moved : (kept ++ (out ++ lane.dropped)).Perm (lane.waiting ++ lane.dropped) := by
      rw [← List.append_assoc]
      exact (List.perm_append_comm.trans perm).append_right _
    show (lane.left ++ kept ++ (out ++ lane.dropped)).Perm _
    rw [List.append_assoc]
    refine (moved.append_left lane.left).trans ?_
    rw [← List.append_assoc]
    exact h.all
  ordered := h.ordered.sublist ((sublist.append_left lane.left).map Prod.snd)

theorem pass (h : lane.Lawful) (e : Passing α) : (lane.pass e).Lawful := by
  cases e with
  | entered x => exact h.entered x
  | left => exact h.left
  | dropped =>
    exact h.parted (List.nil_sublist _) (by rw [List.append_nil])
  | droppedFirst p =>
    exact h.parted List.eraseP_sublist (perm_find?_eraseP _ _)

end Lawful

/-- Whatever passes through a lane, the lane is lawful. -/
theorem lawful_of (passings : List (Passing α)) : (of passings).Lawful :=
  List.foldlRecOn passings pass .fresh fun _ lawful e _ => Lawful.pass lawful e

end Lane

end PictureTransfer
