import PictureTransfer.Proofs.Lane
import PictureTransfer.Proofs.UsbIp.Handling
import Mathlib.Data.List.Induction
import Mathlib.Data.List.Nodup

/-!
# Every transfer is accounted for

A host gives each of its transfers a number of its own. `Accounted` says what has become of a
transfer: it was answered once, it is parked once, or an unlink took it back, and never two of
these. `Books` is what holds after some commands of a host that takes all replies, for every
transfer, for every number that was not used, and for the replies to unlinks. Handling one more
command keeps the books (`Books.handled`), and so does handling any number of them
(`accounts_for_transfers`).
-/

namespace PictureTransfer.UsbIp

/-- Whether a reply answers the transfer of a number. -/
def Reply.answers (n : UInt32) : Reply → Bool
  | .submitted seqnum .. => seqnum = n
  | _ => false

/-- Whether a reply answers an unlink. -/
def Reply.isUnlinked : Reply → Bool
  | .unlinked .. => true
  | _ => false

/-- The transfers among some commands. -/
def Urb.transfers (urbs : List Urb) : List Submit :=
  urbs.filterMap fun
    | .submit urb => some urb
    | .unlink .. => none

/-- An unlink: its own number, that of its target, and whether the target was parked. -/
structure Unlinking where
  seqnum : UInt32
  target : UInt32
  parked : Bool
  deriving DecidableEq, Repr

namespace Unlinking

/-- What the host learns of it. -/
def reply (u : Unlinking) : Reply :=
  .unlinked u.seqnum (if u.parked then Reply.connectionReset else 0)

/-- Some unlink among these took back the transfer of a number. -/
def TookBack (unlinkings : List Unlinking) (n : UInt32) : Prop :=
  ∃ u ∈ unlinkings, u.target = n ∧ u.parked = true

theorem tookBack_concat (before : List Unlinking) (u : Unlinking) (n : UInt32) :
    TookBack (before ++ [u]) n ↔ TookBack before n ∨ u.target = n ∧ u.parked = true := by
  simp [TookBack, or_and_right, exists_or]

end Unlinking

namespace Serving

variable {σ : Type}

/-- How often the transfer of a number has been answered. -/
def answered (n : UInt32) (s : Serving σ) : Nat := s.replies.countP (Reply.answers n)

/-- The parked transfers of a number. -/
def slots (n : UInt32) (s : Serving σ) : List Parked :=
  s.device.parked.filter (·.seqnum = n)

/-- What a command is as an unlink. -/
def unlinking? (s : Serving σ) : Urb → Option Unlinking
  | .submit _ => none
  | .unlink seqnum target => some ⟨seqnum, target, s.device.parked.any (·.seqnum = target)⟩

/-- The unlinks among some commands, as they find the device. -/
def unlinkings [Responder σ] : List Urb → Serving σ → List Unlinking
  | [], _ => []
  | urb :: rest, s => (s.unlinking? urb).toList ++ (Outcome.state (s.handle urb)).unlinkings rest

/-- What has become of a transfer. -/
inductive Accounted (s : Serving σ) (tookBack : Prop) (urb : Submit) : Prop where
  | answered (once : s.answered urb.seqnum = 1) (gone : s.slots urb.seqnum = [])
      (kept : ¬tookBack)
  | parked (unanswered : s.answered urb.seqnum = 0) (once : s.slots urb.seqnum = [urb.slot])
      (kept : ¬tookBack)
  | unlinked (unanswered : s.answered urb.seqnum = 0) (gone : s.slots urb.seqnum = [])
      (tookBack : tookBack)

/-- What holds after some commands, with the unlinks among them as they found the device. -/
structure Books (urbs : List Urb) (unlinkings : List Unlinking) (s : Serving σ) : Prop where
  used : ∀ urb ∈ Urb.transfers urbs,
    s.Accounted (Unlinking.TookBack unlinkings urb.seqnum) urb
  unused : ∀ n, (∀ urb ∈ Urb.transfers urbs, urb.seqnum ≠ n) →
    s.answered n = 0 ∧ s.slots n = [] ∧ ¬Unlinking.TookBack unlinkings n
  unlinks : s.replies.filter Reply.isUnlinked = unlinkings.map Unlinking.reply

/-! ## Deliveries -/

namespace Delivered

variable {s t : Serving σ} {carried : List (Parked × Bytes)}

/-- What leaves the parked transfers of a number answers it, once for each. -/
theorem moved (h : Delivered s carried t) (n : UInt32) :
    ∃ out : List Parked, (s.slots n).Perm (out ++ t.slots n) ∧
      t.answered n = s.answered n + out.length := by
  refine ⟨(carried.map Prod.fst).filter (·.seqnum = n), ?_, ?_⟩
  · have kept := h.parked.filter (·.seqnum = n)
    rwa [List.filter_append] at kept
  · rw [answered, answered, h.replies, List.countP_append, List.countP_map,
      ← List.countP_eq_length_filter, List.countP_map]
    rfl

theorem unlinked (h : Delivered s carried t) :
    t.replies.filter Reply.isUnlinked = s.replies.filter Reply.isUnlinked := by
  have submitted : (carried.map fun c => c.1.delivery c.2).filter Reply.isUnlinked = [] := by
    rw [List.filter_map, List.map_eq_nil_iff, List.filter_eq_nil_iff]
    intro c _
    exact Bool.false_ne_true
  rw [h.replies, List.filter_append, submitted, List.append_nil]

/-- A number with nothing parked is not answered. -/
theorem of_gone (h : Delivered s carried t) {n : UInt32} (gone : s.slots n = []) :
    t.slots n = [] ∧ t.answered n = s.answered n := by
  obtain ⟨out, perm, count⟩ := h.moved n
  rw [gone] at perm
  obtain ⟨rfl, empty⟩ := List.append_eq_nil_iff.1 perm.nil_eq.symm
  exact ⟨empty, count⟩

theorem accounted (h : Delivered s carried t) {tookBack : Prop} {urb : Submit}
    (before : s.Accounted tookBack urb) : t.Accounted tookBack urb := by
  cases before with
  | answered once gone kept =>
    obtain ⟨empty, same⟩ := h.of_gone gone
    exact .answered (same.trans once) empty kept
  | parked unanswered once kept =>
    obtain ⟨out, perm, count⟩ := h.moved urb.seqnum
    rw [once] at perm
    -- the one slot has either left or not
    rcases List.append_eq_singleton_iff.1 perm.singleton_eq.symm with ⟨rfl, still⟩ | ⟨rfl, gone⟩
    · exact .parked (count.trans unanswered) still kept
    · exact .answered (by rw [count, unanswered]; rfl) gone kept
  | unlinked unanswered gone tookBack =>
    obtain ⟨empty, same⟩ := h.of_gone gone
    exact .unlinked (same.trans unanswered) empty tookBack

end Delivered

/-! ## The three ways of a transfer -/

/-- The reply that is due to a transfer bears its number, and answers no unlink. -/
theorem Due.answers [Responder σ] {urb : Submit} {reply : Reply} (due : Due σ urb reply) :
    (∀ n, reply.answers n = decide (urb.seqnum = n)) ∧ reply.isUnlinked = false := by
  have control : ∀ response, (∀ n, (controlReply urb (Setup.ofBytes urb.setup) response).answers n
      = decide (urb.seqnum = n)) ∧
      (controlReply urb (Setup.ofBytes urb.setup) response).isUnlinked = false := by
    intro response
    cases response <;> exact ⟨fun n => rfl, rfl⟩
  cases due with
  | refused => exact ⟨fun n => rfl, rfl⟩
  | received toDevice => exact ⟨fun n => rfl, rfl⟩
  | standard zero own whole d => exact control _
  | responder zero view r => exact control _

/-- What has become of a transfer depends on the replies and slots of its number only. -/
theorem Accounted.congr {s t : Serving σ} {p q : Prop} {urb : Submit} (h : s.Accounted p urb)
    (answered : t.answered urb.seqnum = s.answered urb.seqnum)
    (slots : t.slots urb.seqnum = s.slots urb.seqnum) (same : p ↔ q) : t.Accounted q urb := by
  obtain rfl := propext same
  cases h with
  | answered once gone kept => exact .answered (answered.trans once) (slots.trans gone) kept
  | parked none once kept => exact .parked (answered.trans none) (slots.trans once) kept
  | unlinked none gone tookBack => exact .unlinked (answered.trans none) (slots.trans gone) tookBack

theorem answered_wrote (s : Serving σ) (reply : Reply) (n : UInt32) :
    (s.wrote reply).answered n = s.answered n + if reply.answers n then 1 else 0 := by
  rw [answered, wrote, List.countP_append, List.countP_singleton]
  rfl

theorem slots_park (s : Serving σ) (p : Parked) (n : UInt32) :
    (s.park p).slots n = s.slots n ++ if p.seqnum = n then [p] else [] := by
  rw [slots, park, List.filter_append]
  by_cases own : p.seqnum = n <;> simp [own, slots]

/-- An unlink concerns no number but that of its target. -/
theorem slots_takeBack_of_ne {target n : UInt32} (other : n ≠ target) (s : Serving σ) :
    (s.takeBack target).slots n = s.slots n := by
  show (s.device.parked.eraseP _).filter _ = _
  rw [filter_eraseP]
  refine if_neg fun hit => ?_
  obtain ⟨p, found, own⟩ := (Option.any_eq_true _ _).1 hit
  obtain rfl : p.seqnum = n := of_decide_eq_true own
  exact other (names_iff.1 (List.find?_some found)).1

theorem slots_takeBack_of_gone {s : Serving σ} {n : UInt32} (gone : s.slots n = [])
    (target : UInt32) : (s.takeBack target).slots n = [] := by
  have fewer : ((s.takeBack target).slots n).Sublist (s.slots n) := List.eraseP_sublist.filter _
  rw [gone] at fewer
  exact List.sublist_nil.1 fewer

/-- The only transfer with its number is the one that an unlink takes back. -/
theorem slots_takeBack_of_once {s : Serving σ} {target : UInt32} {p : Parked}
    (once : s.slots target = [p]) : (s.takeBack target).slots target = [] := by
  have own : p ∈ s.slots target := once ▸ List.mem_singleton_self p
  have found : (s.device.parked.find? (s.names target)).isSome = true := by
    rw [List.isSome_find?, any_names, List.any_eq_true]
    exact ⟨p, List.mem_filter.1 own⟩
  obtain ⟨q, hit⟩ := Option.isSome_iff_exists.1 found
  have named : q.seqnum = target := (names_iff.1 (List.find?_some hit)).1
  have only : q ∈ s.slots target :=
    List.mem_filter.2 ⟨List.mem_of_find?_eq_some hit, decide_eq_true named⟩
  rw [once, List.mem_singleton] at only
  show (s.device.parked.eraseP _).filter _ = _
  rw [filter_eraseP, hit, Option.any_some, if_pos (decide_eq_true named)]
  show (s.slots target).eraseP _ = _
  rw [once, List.eraseP_cons_of_pos (only ▸ List.find?_some hit)]

theorem any_parked_iff (s : Serving σ) (n : UInt32) :
    s.device.parked.any (·.seqnum = n) = true ↔ s.slots n ≠ [] := by
  rw [slots, Ne, List.filter_eq_nil_iff, List.any_eq_true]
  simp

namespace Books

variable {urbs : List Urb} {unlinkings : List Unlinking} {s : Serving σ}

theorem fresh [Responder σ] (responder : σ) (descriptors : Descriptors) (busId : String)
    (walk : Walk) :
    Books [] [] ({ device := .fresh responder descriptors busId, walk } : Serving σ) where
  used := List.forall_mem_nil _
  unused n _ := ⟨rfl, rfl, by rintro ⟨u, listed, -⟩; cases listed⟩
  unlinks := rfl

/-- Deliveries answer parked transfers, which are accounted for all the same. -/
theorem delivered {t : Serving σ} {carried : List (Parked × Bytes)}
    (books : Books urbs unlinkings s) (h : Delivered s carried t) : Books urbs unlinkings t where
  used urb listed := h.accounted (books.used urb listed)
  unused n new := by
    obtain ⟨unanswered, gone, kept⟩ := books.unused n new
    obtain ⟨empty, same⟩ := h.of_gone gone
    exact ⟨same.trans unanswered, empty, kept⟩
  unlinks := h.unlinked.trans books.unlinks

section Transfer

variable {urb : Submit} (fresh : ∀ old ∈ Urb.transfers urbs, old.seqnum ≠ urb.seqnum)
include fresh

/-- A transfer with a new number comes in, and changes nothing for other numbers. -/
theorem submitted {t : Serving σ} (books : Books urbs unlinkings s)
    (others : ∀ n, urb.seqnum ≠ n → t.answered n = s.answered n ∧ t.slots n = s.slots n)
    (own : t.Accounted (Unlinking.TookBack unlinkings urb.seqnum) urb)
    (unlinks : t.replies.filter Reply.isUnlinked = s.replies.filter Reply.isUnlinked) :
    Books (urbs ++ [.submit urb]) unlinkings t := by
  have transfers : Urb.transfers (urbs ++ [.submit urb]) = Urb.transfers urbs ++ [urb] :=
    List.filterMap_append
  refine ⟨?_, ?_, unlinks.trans books.unlinks⟩
  · rw [transfers]
    refine List.forall_mem_append.2 ⟨?_, List.forall_mem_singleton.2 own⟩
    -- an earlier transfer has another number, for which nothing changes
    intro old listed
    obtain ⟨answered, slots⟩ := others old.seqnum fun same => fresh old listed same.symm
    exact (books.used old listed).congr answered slots .rfl
  · intro n new
    rw [transfers] at new
    obtain ⟨earlier, last⟩ := List.forall_mem_append.1 new
    obtain ⟨answered, slots⟩ := others n (last urb List.mem_cons_self)
    obtain ⟨unanswered, gone, kept⟩ := books.unused n earlier
    exact ⟨answered.trans unanswered, slots.trans gone, kept⟩

theorem replied [Responder σ] {reply : Reply} (books : Books urbs unlinkings s)
    (due : Due σ urb reply) : Books (urbs ++ [.submit urb]) unlinkings (s.wrote reply) := by
  obtain ⟨answers, submitted⟩ := due.answers
  obtain ⟨unanswered, gone, kept⟩ := books.unused urb.seqnum fresh
  refine books.submitted fresh ?_ (.answered ?_ gone kept) ?_
  · intro n other
    rw [answered_wrote, answers, decide_eq_false other]
    exact ⟨rfl, rfl⟩
  · rw [answered_wrote, answers, decide_eq_true rfl, unanswered]
    rfl
  · rw [wrote, List.filter_append, List.filter_singleton, submitted]
    exact List.append_nil _

theorem parked (books : Books urbs unlinkings s) :
    Books (urbs ++ [.submit urb]) unlinkings (s.park urb.slot) := by
  obtain ⟨unanswered, gone, kept⟩ := books.unused urb.seqnum fresh
  refine books.submitted fresh ?_ (.parked unanswered ?_ kept) rfl
  · intro n other
    rw [slots_park, if_neg (by exact other), List.append_nil]
    exact ⟨rfl, rfl⟩
  · rw [slots_park, gone, if_pos (show urb.slot.seqnum = urb.seqnum from rfl)]
    rfl

end Transfer

/-- An unlink takes back its target when that is parked, and concerns no other number. -/
theorem unlinked (books : Books urbs unlinkings s) (seqnum target : UInt32) :
    let u : Unlinking := ⟨seqnum, target, s.device.parked.any (·.seqnum = target)⟩
    Books (urbs ++ [.unlink seqnum target]) (unlinkings ++ [u])
      ((s.takeBack target).wrote u.reply) := by
  intro u
  have transfers : Urb.transfers (urbs ++ [.unlink seqnum target]) = Urb.transfers urbs :=
    List.filterMap_append.trans (List.append_nil _)
  have answered : ∀ n, ((s.takeBack target).wrote u.reply).answered n = s.answered n := fun n =>
    answered_wrote (s.takeBack target) u.reply n
  have tookBack : ∀ n, Unlinking.TookBack (unlinkings ++ [u]) n ↔
      Unlinking.TookBack unlinkings n ∨ target = n ∧ s.slots target ≠ [] := by
    intro n
    rw [Unlinking.tookBack_concat, ← any_parked_iff]
  -- nothing changes for a number that the unlink does not find parked
  have missed : ∀ n, s.slots n = [] →
      ((s.takeBack target).wrote u.reply).slots n = [] ∧
        (Unlinking.TookBack (unlinkings ++ [u]) n ↔ Unlinking.TookBack unlinkings n) := by
    intro n gone
    refine ⟨slots_takeBack_of_gone gone target, (tookBack n).trans ?_⟩
    refine or_iff_left ?_
    rintro ⟨rfl, found⟩
    exact found gone
  refine ⟨?_, ?_, ?_⟩
  · rw [transfers]
    intro urb listed
    have before := books.used urb listed
    cases books.used urb listed with
    | answered once gone kept =>
      obtain ⟨empty, same⟩ := missed _ gone
      exact before.congr (answered _) (empty.trans gone.symm) same.symm
    | unlinked none gone tookBack =>
      obtain ⟨empty, same⟩ := missed _ gone
      exact before.congr (answered _) (empty.trans gone.symm) same.symm
    | parked none once kept =>
      by_cases own : urb.seqnum = target
      · refine .unlinked ((answered _).trans none) ?_ ((tookBack _).2 (.inr ⟨own.symm, ?_⟩))
        · rw [own] at once ⊢
          exact slots_takeBack_of_once once
        · rw [← own, once]
          exact List.cons_ne_nil _ _
      · refine before.congr (answered _) (slots_takeBack_of_ne own s) ?_
        rw [tookBack]
        exact (or_iff_left fun hit => own hit.1.symm).symm
  · intro n new
    rw [transfers] at new
    obtain ⟨unanswered, gone, kept⟩ := books.unused n new
    obtain ⟨empty, same⟩ := missed n gone
    exact ⟨(answered n).trans unanswered, empty, fun took => kept (same.1 took)⟩
  · show (s.replies ++ [u.reply]).filter _ = _
    rw [List.filter_append, books.unlinks, List.map_append]
    rfl

/-- Handling one more command keeps the books. -/
theorem handled [Responder σ] {t : Serving σ} {urb : Urb} (books : Books urbs unlinkings s)
    (fresh : ∀ new ∈ Urb.transfers [urb], ∀ old ∈ Urb.transfers urbs, old.seqnum ≠ new.seqnum)
    (handled : Handled s urb t) :
    Books (urbs ++ [urb]) (unlinkings ++ (s.unlinking? urb).toList) t := by
  cases handled with
  | @answered urb reply u t earlier later due before behind =>
    -- parked transfers may be answered both before and behind the reply that is due
    have unused := List.forall_mem_singleton.1 fresh
    have replied := (books.delivered before).replied unused due
    simpa [unlinking?] using replied.delivered behind
  | @parked urb t later isIn behind =>
    have unused := List.forall_mem_singleton.1 fresh
    have parked := books.parked unused
    simpa [unlinking?] using parked.delivered behind
  | unlinked seqnum target => exact books.unlinked seqnum target

end Books

section Run

variable [Responder σ]

theorem unlinkings_concat {before : List Urb} {s t : Serving σ}
    (handled : s.handleEach before = .ok () t) (urb : Urb) :
    s.unlinkings (before ++ [urb]) = s.unlinkings before ++ (t.unlinking? urb).toList := by
  induction before generalizing s with
  | nil =>
    cases handled
    exact List.append_nil _
  | cons first rest ih =>
    rw [handleEach] at handled
    split at handled
    · cases handled
    · next u one =>
      have later : Outcome.state (s.handle first) = u := by rw [one]; rfl
      rw [List.cons_append, unlinkings, unlinkings, later, ih handled, List.append_assoc]

/-- The books are kept over any commands. -/
theorem books_handleEach {start : Serving σ} (unlimited : start.limit = none)
    (balanced : Books [] [] start) {urbs : List Urb}
    (distinct : ((Urb.transfers urbs).map Submit.seqnum).Nodup) :
    ∃ s, start.handleEach urbs = .ok () s ∧ s.limit = none ∧
      Books urbs (start.unlinkings urbs) s := by
  -- the last command finds the books of all the others, and its number unused
  induction urbs using List.reverseRecOn with
  | nil => exact ⟨start, rfl, unlimited, balanced⟩
  | append_singleton before urb ih =>
    have transfers : Urb.transfers (before ++ [urb])
        = Urb.transfers before ++ Urb.transfers [urb] := List.filterMap_append
    rw [transfers, List.map_append, List.nodup_append] at distinct
    obtain ⟨earlier, -, apart⟩ := distinct
    obtain ⟨s, handledBefore, open_ended, books⟩ := ih earlier
    obtain ⟨t, one, handled⟩ := handle_handled open_ended urb
    refine ⟨t, ?_, handled.limit.trans open_ended, ?_⟩
    · rw [handleEach_append handledBefore, handleEach_cons one]
      rfl
    · rw [unlinkings_concat handledBefore]
      refine books.handled ?_ handled
      intro new listed old earlier
      exact apart _ (List.mem_map_of_mem earlier) _ (List.mem_map_of_mem listed)

end Run

/-- Every transfer of a host is accounted for. Whatever the responder does, and for a host that
takes all replies and gives no two transfers one number: after any commands each transfer so far has
been answered once, or is parked once and under its own endpoint, or was taken back by an unlink,
and is only one of these; no number that was not used is answered; and each unlink got one reply,
under its own number, which says whether its target was parked when it came. -/
theorem accounts_for_transfers [Responder σ] (responder : σ) (descriptors : Descriptors)
    (busId : String) (walk : Walk) {urbs : List Urb}
    (distinct : ((Urb.transfers urbs).map Submit.seqnum).Nodup) :
    let start : Serving σ := { device := .fresh responder descriptors busId, walk }
    ∃ s, start.handleEach urbs = .ok () s ∧
      (∀ urb ∈ Urb.transfers urbs,
        s.Accounted (Unlinking.TookBack (start.unlinkings urbs) urb.seqnum) urb) ∧
      (∀ n, (∀ urb ∈ Urb.transfers urbs, urb.seqnum ≠ n) → s.answered n = 0) ∧
      s.replies.filter Reply.isUnlinked = (start.unlinkings urbs).map Unlinking.reply := by
  intro start
  have balanced : Books [] [] start := .fresh responder descriptors busId walk
  obtain ⟨s, handled, -, books⟩ := books_handleEach rfl balanced distinct
  exact ⟨s, handled, books.used, fun n new => (books.unused n new).1, books.unlinks⟩

/-- A request for bulk IN that is taken back before anything was sent for it. -/
def abandoned : List Urb := [.submit ⟨1, 0, 1, 1, 0, 512, 0, [], []⟩, .unlink 2 1]

/-- The abandoned request is accounted for by the unlink, which finds it parked. -/
theorem accounts_for_abandoned :
    ((Urb.transfers abandoned).map Submit.seqnum).Nodup ∧
      ∃ s, imported.handleEach abandoned = .ok () s ∧
        (∀ urb ∈ Urb.transfers abandoned,
          s.Accounted (Unlinking.TookBack [⟨2, 1, true⟩] urb.seqnum) urb) ∧
        s.replies.filter Reply.isUnlinked = [.unlinked 2 Reply.connectionReset] := by
  have distinct : ((Urb.transfers abandoned).map Submit.seqnum).Nodup := by decide
  have found : imported.unlinkings abandoned = [⟨2, 1, true⟩] := by decide +kernel
  obtain ⟨s, handled, accounted, -, unlinks⟩ :=
    accounts_for_transfers ({} : Legacy) (.ofPersonality .legacy {}) "1-1" _ distinct
  rw [imported] at found
  rw [found] at accounted unlinks
  exact ⟨distinct, s, handled, accounted, unlinks⟩

end Serving

end PictureTransfer.UsbIp
