import PictureTransfer.Proofs.UsbIp.Isolation

/-!
# Matching comes to rest

A responder may send more whenever a transfer of its own is collected, so what waits on the bus can
grow while it is matched. What shrinks is the number of parked requests: every match takes one of
them away, and no callback parks any. `Flushes` is matching as a relation, one match after another;
it knows neither the measure nor the case in which one side of a match is missing, and it is what
the loop computes (`flush_iff`).

A device is `Quiet` when nothing more can be matched. Every command leaves a quiet device quiet
(`quiet_handle`), as what a callback sends is matched before the next command, and so it is after
any commands of any hosts (`comes_to_rest`).
-/

namespace PictureTransfer.UsbIp

namespace Device

variable {σ : Type}

/-- On no endpoint a request is parked while a transfer waits there. -/
def Quiet (d : Device σ) : Prop := ∀ p ∈ d.parked, d.bus.queue p.ep = []

/-- The endpoints with a parked request and a waiting transfer are those that are looked at. -/
theorem mem_matchable {d : Device σ} {ep : UInt8} :
    ep ∈ ((d.parked.map Parked.ep).filter fun ep => 0 < d.bus.queued ep) ↔
      (∃ p ∈ d.parked, p.ep = ep) ∧ d.bus.queue ep ≠ [] := by
  rw [List.mem_filter, List.mem_map, decide_eq_true_eq, Bus.Endpoints.queued, List.length_pos_iff]

theorem quiet_iff {d : Device σ} : d.Quiet ↔ d.ready? = none := by
  rw [ready?, List.min?_eq_none_iff, List.eq_nil_iff_forall_not_mem]
  constructor
  · intro quiet ep matchable
    obtain ⟨⟨p, parked, rfl⟩, waits⟩ := mem_matchable.1 matchable
    exact waits (quiet p parked)
  · intro none_matchable p parked
    by_contra waits
    exact none_matchable p.ep (mem_matchable.2 ⟨⟨p, parked, rfl⟩, waits⟩)

/-- Where a request for an endpoint is parked, one is found. -/
theorem exists_unpark? {ep : UInt8} {parked : List Parked} (h : ∃ p ∈ parked, p.ep = ep) :
    ∃ p left, unpark? ep parked = some (p, left) := by
  induction parked with
  | nil =>
    obtain ⟨p, listed, -⟩ := h
    cases listed
  | cons q rest ih =>
    rw [unpark?]
    by_cases own : q.ep = ep
    · exact ⟨q, rest, if_pos own⟩
    · obtain ⟨p, listed, here⟩ := h
      rcases List.mem_cons.1 listed with rfl | later
      · exact absurd here own
      · obtain ⟨r, left, found⟩ := ih ⟨p, later, here⟩
        rw [if_neg own, found]
        exact ⟨r, q :: left, rfl⟩

/-- The endpoint that is looked at has both sides of a match. -/
theorem exists_match {d : Device σ} {ep : UInt8} (ready : d.ready? = some ep) :
    ∃ p parked data bus, unpark? ep d.parked = some (p, parked) ∧
      d.bus.pop? ep = some (data, bus) := by
  obtain ⟨requested, waits⟩ := mem_matchable.1 (List.min?_mem ready)
  obtain ⟨p, parked, found⟩ := exists_unpark? requested
  obtain ⟨data, others, queue⟩ := List.exists_cons_of_ne_nil waits
  exact ⟨p, parked, data, _, found, by rw [Bus.Endpoints.pop?, queue]; rfl⟩

end Device

namespace Serving

variable {σ : Type} [Responder σ]

/-! ## Matching -/

/-- The requests that are answered in turn, each with the transfer it carries, until the device is
quiet or a reply is not taken. -/
inductive Flushes : Serving σ → List (Parked × Bytes) → Outcome σ → Prop where
  | quiet {s : Serving σ} (quiet : s.device.Quiet) : Flushes s [] (.ok () s)
  | failed {s t : Serving σ} {ep : UInt8} {p : Parked} {parked : List Parked} {data : Bytes}
      {bus : Bus.Endpoints} {e : Error} (ready : s.device.ready? = some ep)
      (unparked : Device.unpark? ep s.device.parked = some (p, parked))
      (popped : s.device.bus.pop? ep = some (data, bus))
      (refused : (s.left parked bus).write (p.delivery data) = .error e t) :
      Flushes s [(p, data)] (.error e t)
  | next {s t : Serving σ} {ep : UInt8} {p : Parked} {parked : List Parked} {data : Bytes}
      {bus : Bus.Endpoints} {later : List (Parked × Bytes)} {r : Outcome σ}
      (ready : s.device.ready? = some ep)
      (unparked : Device.unpark? ep s.device.parked = some (p, parked))
      (popped : s.device.bus.pop? ep = some (data, bus))
      (written : (s.left parked bus).write (p.delivery data) = .ok () t)
      (rest : Flushes (t.withAttached (t.device.attached.inCompleted ep)) later r) :
      Flushes s ((p, data) :: later) r

/-- The loop makes such matches and comes to an end with them. -/
theorem exists_flushes (s : Serving σ) : ∃ carried, Flushes s carried s.flush := by
  fun_induction flush s with
  | case1 s nothing => exact ⟨[], .quiet (Device.quiet_iff.2 nothing)⟩
  | case2 s ep ready p parked data bus unparked popped cut taken e t refused =>
    exact ⟨[(p, data)], .failed ready unparked popped refused⟩
  | case3 s ep ready p parked data bus unparked popped cut taken t written fewer ih =>
    obtain ⟨later, rest⟩ := ih
    exact ⟨(p, data) :: later, .next ready unparked popped written rest⟩
  | case4 s ep ready unmatched =>
    -- both sides are there, so that the loop does not stop here
    obtain ⟨p, parked, data, bus, unparked, popped⟩ := Device.exists_match ready
    exact (unmatched p parked data bus unparked popped).elim

namespace Flushes

variable {s t : Serving σ} {carried : List (Parked × Bytes)} {r : Outcome σ}

theorem flush_eq (h : Flushes s carried r) : s.flush = r := by
  induction h with
  | quiet quiet => exact flush_of_nothing (Device.quiet_iff.1 quiet)
  | failed ready unparked popped refused => rw [flush_of_match ready unparked popped, refused]
  | next ready unparked popped written rest ih =>
    rw [flush_of_match ready unparked popped, written]
    exact ih

theorem quiet_of_ok (h : Flushes s carried (.ok () t)) : t.device.Quiet := by
  generalize ends : (.ok () t : Outcome σ) = r at h
  induction h with
  | quiet quiet =>
    cases ends
    exact quiet
  | failed ready unparked popped refused => cases ends
  | next ready unparked popped written rest ih => exact ih ends

theorem delivered (h : Flushes s carried r) : Delivered s carried r.state := by
  induction h with
  | quiet quiet => exact .nothing rfl rfl rfl
  | failed ready unparked popped refused => exact .left unparked refused
  | next ready unparked popped written rest ih =>
    exact Delivered.trans (.left unparked written) ih.behind

end Flushes

theorem flush_iff {s : Serving σ} {r : Outcome σ} :
    s.flush = r ↔ ∃ carried, Flushes s carried r := by
  constructor
  · rintro rfl
    exact exists_flushes s
  · rintro ⟨carried, flushes⟩
    exact flushes.flush_eq

theorem quiet_flush {s t : Serving σ} (flushed : s.flush = .ok () t) : t.device.Quiet := by
  obtain ⟨carried, flushes⟩ := flush_iff.1 flushed
  exact flushes.quiet_of_ok

/-! ## Commands -/

/-- The reply to a command is written, and then what waits is matched. -/
theorem quiet_reply {s t : Serving σ} {reply : Reply}
    (done : (match s.write reply with
      | .error e t => (.error e t : Outcome σ)
      | .ok () t => t.flush) = .ok () t) : t.device.Quiet := by
  split at done
  · cases done
  · exact quiet_flush done

theorem quiet_submit {s t : Serving σ} {urb : Submit} (quiet : s.device.Quiet)
    (done : s.submit urb = .ok () t) : t.device.Quiet := by
  rw [submit] at done
  split at done
  · -- a control transfer is answered by the device or by the responder
    exact quiet_reply done
  · dsimp only at done
    split at done
    · -- nothing happens on an endpoint that cannot be used
      rw [eq_wrote done]
      exact quiet
    · split at done
      · exact quiet_flush done
      · split at done
        · cases done
        · exact quiet_reply done

/-- After a command of the host there is nothing to match, if there was nothing before it. -/
theorem quiet_handle {s t : Serving σ} {urb : Urb} (quiet : s.device.Quiet)
    (done : s.handle urb = .ok () t) : t.device.Quiet := by
  cases urb with
  | submit urb => exact quiet_submit quiet done
  | unlink seqnum target =>
    -- an unlink calls nothing, and parks nothing
    rw [eq_wrote done]
    intro p parked
    exact quiet p (mem_of_mem_takeBack parked)

theorem quiet_handleEach {s t : Serving σ} {urbs : List Urb} (quiet : s.device.Quiet)
    (done : s.handleEach urbs = .ok () t) : t.device.Quiet := by
  induction urbs generalizing s with
  | nil =>
    cases done
    exact quiet
  | cons urb rest ih =>
    rw [handleEach] at done
    split at done
    · cases done
    · next u one => exact ih (quiet_handle quiet one) done

end Serving

/-! ## Hosts -/

namespace Device

variable {σ : Type} [Responder σ] {d : Device σ}

/-- A host that goes away leaves nothing parked. -/
theorem Quiet.afterVisits (quiet : d.Quiet) (visits : List Visit) :
    (d.afterVisits visits).Quiet :=
  afterVisits_invariant (fun _ _ _ => List.forall_mem_nil _) quiet visits

end Device

namespace Serving

/-- Whatever a responder does in its callbacks, matching ends: it answers some of the requests that
were parked when it started, each with what it carries, until the device is quiet or a reply is not
taken, and so it answers no more than there were. At every turn the device is quiet or both sides of
a match are there. And after any commands of a host that takes all replies, whatever hosts came
before it, on no endpoint a request is parked while a transfer waits there. -/
theorem comes_to_rest {σ : Type} [Responder σ] :
    (∀ (s : Serving σ) (r : Outcome σ), s.flush = r ↔ ∃ carried, Flushes s carried r ∧
      Delivered s carried r.state ∧ carried.length ≤ s.device.parked.length) ∧
    (∀ s : Serving σ, s.device.Quiet ∧ s.device.ready? = none ∨
      ∃ ep p parked data bus, s.device.ready? = some ep ∧
        Device.unpark? ep s.device.parked = some (p, parked) ∧
        s.device.bus.pop? ep = some (data, bus)) ∧
    (∀ s t : Serving σ, s.flush = .ok () t → t.device.Quiet) ∧
    ∀ (responder : σ) (descriptors : Descriptors) (busId : String) (earlier : List Visit)
      (walk : Walk) (urbs : List Urb), ∃ t : Serving σ,
        handleEach urbs
            { device := (Device.fresh responder descriptors busId).afterVisits earlier, walk }
          = .ok () t ∧ t.device.Quiet := by
  refine ⟨?_, ?_, fun s t flushed => quiet_flush flushed, ?_⟩
  · intro s r
    constructor
    · intro flushed
      obtain ⟨carried, flushes⟩ := flush_iff.1 flushed
      exact ⟨carried, flushes, flushes.delivered, flushes.delivered.length_le⟩
    · rintro ⟨carried, flushes, -, -⟩
      exact flushes.flush_eq
  · intro s
    cases ready : s.device.ready? with
    | none => exact .inl ⟨Device.quiet_iff.2 ready, rfl⟩
    | some ep =>
      obtain ⟨p, parked, data, bus, unparked, popped⟩ := Device.exists_match ready
      exact .inr ⟨ep, p, parked, data, bus, rfl, unparked, popped⟩
  · intro responder descriptors busId earlier walk urbs
    have untouched : (Device.fresh responder descriptors busId).Quiet := List.forall_mem_nil _
    obtain ⟨t, handled⟩ := exists_handleEach
      (s := { device := (Device.fresh responder descriptors busId).afterVisits earlier, walk })
      rfl urbs
    exact ⟨t, handled, quiet_handleEach (untouched.afterVisits earlier) handled⟩

end Serving

end PictureTransfer.UsbIp
